import CBPseudo.Common.Heap

/-!
# The pseudo-flex heap — the code

`PseudoFlex.c`, function by function. A flex block is a heap block
(`Fortify_malloc`) and a private record of it (`malloc`) that knows the
block's size and the client's anchor; the block's address is held in the
anchor, which is the client's variable. Every allocation a function makes
is answered by an `Allocator` of its own, so a refusal can fall anywhere.
`debug` says whether assertions are compiled in. The file name and line
number every function passes on to Fortify are left out. The list library,
which is not in the repository, is `Common.Item` lists.
-/

namespace CBPseudo

open Common

namespace Flex

/-- The address of an anchor: what the interface calls a `flex_ptr`. -/
abbrev FlexPtr := Addr

/-- Information about a flex block. -/
structure PseudoFlexRecord where
  /-- The current size of this block, in bytes. -/
  size : ℤ
  /-- The anchor of the heap block. -/
  anchor : FlexPtr
  deriving DecidableEq, Repr

/-- **The state**: the record list, the record allocations, the heap the
blocks live in, and the client's anchors. -/
structure State where
  /-- The list of records, newest first. -/
  blockList : List (Item PseudoFlexRecord)
  /-- The record allocations that are live. -/
  records : Finset Addr
  /-- The Fortify heap. -/
  heap : Heap
  /-- What each anchor holds; `none` is the null pointer. -/
  anchors : FlexPtr → Option Addr

/-- At start-up the record list is empty and nothing is allocated. The
anchors hold whatever the client left in them. -/
def initial (anchors : FlexPtr → Option Addr) : State where
  blockList := []
  records := ∅
  heap := { live := ∅, bytes := fun _ => [] }
  anchors := anchors

/-- Does a record describe the block at this anchor? -/
def blockHasAnchor (anchor : FlexPtr) (pfr : PseudoFlexRecord) : Bool :=
  pfr.anchor = anchor

/-- The record of the block at an anchor. -/
def findAnchor (anchor : FlexPtr) (s : State) : Option (Item PseudoFlexRecord) :=
  findItem (blockHasAnchor anchor) s.blockList

/-- `free` of a record. -/
def freeRecord (a : Addr) (s : State) : Except Fault State :=
  if a ∈ s.records then .ok { s with records := s.records.erase a } else .error .badFree

/-- Allocate a block of `n` bytes, anchored at `anchor`. -/
def pseudoFlexAlloc (debug : Bool) (recordAlloc blockAlloc : Allocator) (anchor : FlexPtr)
    (n : ℤ) (s : State) : Except Fault (ℤ × State) := do
  cassert debug (0 ≤ n)
  match recordAlloc.grant s.records with
  | none => .ok (0, s)
  | some pfr =>
    let s := { s with records := insert pfr s.records }
    match s.heap.malloc blockAlloc (toSizeT n) with
    | (none, _) =>
      let s ← freeRecord pfr s
      .ok (0, s)
    | (some blk, heap) =>
      .ok (1, { s with
        blockList := ⟨pfr, { size := n, anchor := anchor }⟩ :: s.blockList
        heap := heap
        anchors := Function.update s.anchors anchor (some blk) })

/-- Free the block at an anchor. -/
def pseudoFlexFree (debug : Bool) (anchor : FlexPtr) (s : State) : Except Fault State := do
  let pfr := findAnchor anchor s
  cassert debug pfr.isSome
  match pfr with
  | none => .ok s
  | some pfr =>
    let s := { s with blockList := removeItem pfr.addr s.blockList }
    let s ← freeRecord pfr.addr s
    let heap ← s.heap.free (s.anchors anchor)
    .ok { s with heap := heap, anchors := Function.update s.anchors anchor none }

/-- The size of the block at an anchor. -/
def pseudoFlexSize (debug : Bool) (anchor : FlexPtr) (s : State) : Except Fault ℤ := do
  let pfr := findAnchor anchor s
  cassert debug pfr.isSome
  match pfr with
  | none => .ok 0
  | some pfr => .ok pfr.val.size

/-- Record that the block of a record has moved to `newAddr` and has a new
size: what both resizing functions end with. -/
def State.setBlock (pfr : Item PseudoFlexRecord) (anchor : FlexPtr) (newAddr : Addr)
    (newsize : ℤ) (heap : Heap) (s : State) : State :=
  { s with
    blockList := modifyItem pfr.addr (fun r => { r with size := newsize }) s.blockList
    heap := heap
    anchors := Function.update s.anchors anchor (some newAddr) }

/-- Resize the block at an anchor. -/
def pseudoFlexExtend (debug : Bool) (A : Allocator) (anchor : FlexPtr) (newsize : ℤ)
    (s : State) : Except Fault (ℤ × State) := do
  cassert debug (0 ≤ newsize)
  let pfr := findAnchor anchor s
  cassert debug pfr.isSome
  match pfr with
  | none => .ok (0, s)
  | some pfr =>
    let (newAddr, heap) ← s.heap.realloc A (s.anchors anchor) (toSizeT newsize)
    match newAddr with
    | none => .ok (0, s)
    | some newAddr => .ok (1, s.setBlock pfr anchor newAddr newsize heap)

/-- Insert `by_` bytes at offset `at_` of the block at an anchor, or remove
`-by_` bytes that end there. -/
def pseudoFlexMidextend (debug : Bool) (A : Allocator) (anchor : FlexPtr) (at_ by_ : ℤ)
    (s : State) : Except Fault (ℤ × State) := do
  cassert debug (0 ≤ at_)
  let pfr := findAnchor anchor s
  cassert debug pfr.isSome
  match pfr with
  | none => .ok (0, s)
  | some pfr =>
    let size := pfr.val.size
    let newsize ← toInt (size + by_)
    let bytesToCopy := toSizeT (← toInt (size - at_))
    cassert debug (at_ ≤ size)
    if by_ < 0 then
      let removed ← toInt (-by_)
      cassert debug (removed ≤ at_)
      if removed > at_ then
        .ok (0, s)
      else
        -- not `realloc`, which would lose the data at the top
        match s.heap.malloc A (toSizeT newsize) with
        | (none, _) => .ok (0, s)
        | (some newAddr, heap) =>
          let below := toSizeT (← toInt (at_ + by_))
          let heap ← heap.memcpy (some newAddr) 0 (s.anchors anchor) 0 below
          let heap ← heap.memcpy (some newAddr) (at_ + by_) (s.anchors anchor) at_ bytesToCopy
          let heap ← heap.free (s.anchors anchor)
          .ok (1, s.setBlock pfr anchor newAddr newsize heap)
    else
      let (newAddr, heap) ← s.heap.realloc A (s.anchors anchor) (toSizeT newsize)
      match newAddr with
      | none => .ok (0, s)
      | some newAddr =>
        let heap ← heap.memmove (some newAddr) (at_ + by_) (some newAddr) at_ bytesToCopy
        .ok (1, s.setBlock pfr anchor newAddr newsize heap)

/-- Move the block at anchor `from_` to anchor `to_`. -/
def pseudoFlexReanchor (debug : Bool) (to_ from_ : FlexPtr) (s : State) :
    Except Fault (ℤ × State) := do
  let pfr := findAnchor from_ s
  cassert debug pfr.isSome
  match pfr with
  | none => .ok (0, s)
  | some pfr =>
    let s := { s with
      blockList := modifyItem pfr.addr (fun r => { r with anchor := to_ }) s.blockList }
    let s := { s with anchors := Function.update s.anchors to_ (s.anchors from_) }
    .ok (1, { s with anchors := Function.update s.anchors from_ none })

end Flex

end CBPseudo
