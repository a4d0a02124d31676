import CBPseudo.Flex.Model.Flex

/-!
# The pseudo-flex heap — what each function can do

One lemma a function. In a state where the anchor's record and block are
in order (`Anchored`), a function either refuses and leaves the state
alone or ends in a state written out here in full: a block linked in, a
block unlinked, a block replaced, an anchor renamed. Nothing below this
file unfolds a function again.
-/

namespace CBPseudo

open Common

namespace Flex

variable {debug : Bool} {A ra ba : Allocator} {s : State} {anchor to_ from_ : FlexPtr}
variable {n newsize at_ by_ : ℤ} {pfr : Item PseudoFlexRecord} {a b p : Addr}

/-- An anchor is registered where some record names it. -/
def Registered (anchor : FlexPtr) (s : State) : Prop :=
  ∃ r ∈ s.blockList, r.val.anchor = anchor

instance (anchor : FlexPtr) (s : State) : Decidable (Registered anchor s) :=
  inferInstanceAs (Decidable (∃ r ∈ s.blockList, r.val.anchor = anchor))

theorem mem_of_findAnchor (h : findAnchor anchor s = some pfr) : pfr ∈ s.blockList :=
  mem_of_findItem h

theorem anchor_of_findAnchor (h : findAnchor anchor s = some pfr) : pfr.val.anchor = anchor := by
  simpa [blockHasAnchor] using findItem_prop h

theorem findAnchor_eq_none : findAnchor anchor s = none ↔ ¬ Registered anchor s := by
  simp only [findAnchor, findItem_eq_none, blockHasAnchor, decide_eq_true_eq, Registered,
    not_exists, not_and]

theorem exists_findAnchor (h : Registered anchor s) : ∃ pfr, findAnchor anchor s = some pfr := by
  cases hf : findAnchor anchor s with
  | none => exact absurd h (findAnchor_eq_none.mp hf)
  | some pfr => exact ⟨pfr, rfl⟩

/-- **A record in order**: the search from its anchor finds it, it is
allocated, and its anchor holds the address of an allocated block of its
size. -/
structure Anchored (s : State) (anchor : FlexPtr) (pfr : Item PseudoFlexRecord) (a : Addr) :
    Prop where
  found : findAnchor anchor s = some pfr
  record_live : pfr.addr ∈ s.records
  holds : s.anchors anchor = some a
  live : a ∈ s.heap.live
  length_eq : ((s.heap.bytes a).length : ℤ) = pfr.val.size
  size_le : pfr.val.size ≤ intMax

/-- **A record that is where it should be**: a record in order, whatever
the size it gives. -/
structure Located (s : State) (anchor : FlexPtr) (pfr : Item PseudoFlexRecord) (a : Addr) :
    Prop where
  found : findAnchor anchor s = some pfr
  record_live : pfr.addr ∈ s.records
  holds : s.anchors anchor = some a
  live : a ∈ s.heap.live

theorem Anchored.located (h : Anchored s anchor pfr a) : Located s anchor pfr a :=
  ⟨h.found, h.record_live, h.holds, h.live⟩

/-! ## The states the functions end in -/

/-- A new record and block, linked at the head. -/
def State.link (s : State) (p b : Addr) (anchor : FlexPtr) (n : ℤ) (c : List UInt8) : State where
  blockList := ⟨p, { size := n, anchor := anchor }⟩ :: s.blockList
  records := insert p s.records
  heap := s.heap.put b c
  anchors := Function.update s.anchors anchor (some b)

/-- A record and its block, gone. -/
def State.unlink (s : State) (pfr : Item PseudoFlexRecord) (anchor : FlexPtr) (a : Addr) :
    State where
  blockList := removeItem pfr.addr s.blockList
  records := s.records.erase pfr.addr
  heap := s.heap.drop a
  anchors := Function.update s.anchors anchor none

/-- A block replaced by one at `b` that holds `c`, with its size on
record. -/
def State.resized (s : State) (pfr : Item PseudoFlexRecord) (anchor : FlexPtr) (a b : Addr)
    (size : ℤ) (c : List UInt8) : State :=
  s.setBlock pfr anchor b size ((s.heap.drop a).put b c)

/-- A block replaced by one at `b` that holds `c`. -/
def State.replace (s : State) (pfr : Item PseudoFlexRecord) (anchor : FlexPtr) (a b : Addr)
    (c : List UInt8) : State :=
  s.setBlock pfr anchor b c.length ((s.heap.drop a).put b c)

/-- A block handed from one anchor to another. -/
def State.rename (s : State) (pfr : Item PseudoFlexRecord) (to_ from_ : FlexPtr) (a : Addr) :
    State :=
  { s with
    blockList := modifyItem pfr.addr (fun r => { r with anchor := to_ }) s.blockList
    anchors := Function.update (Function.update s.anchors to_ (some a)) from_ none }

section Anchors

variable {x : FlexPtr} {c : List UInt8}

@[simp] theorem State.link_anchors_self :
    (s.link p b anchor n c).anchors anchor = some b := Function.update_self ..

theorem State.link_anchors_of_ne (h : x ≠ anchor) :
    (s.link p b anchor n c).anchors x = s.anchors x := Function.update_of_ne h ..

@[simp] theorem State.unlink_anchors_self :
    (s.unlink pfr anchor a).anchors anchor = none := Function.update_self ..

theorem State.unlink_anchors_of_ne (h : x ≠ anchor) :
    (s.unlink pfr anchor a).anchors x = s.anchors x := Function.update_of_ne h ..

@[simp] theorem State.resized_anchors_self :
    (s.resized pfr anchor a b n c).anchors anchor = some b := Function.update_self ..

theorem State.resized_anchors_of_ne (h : x ≠ anchor) :
    (s.resized pfr anchor a b n c).anchors x = s.anchors x := Function.update_of_ne h ..

@[simp] theorem State.replace_anchors_self :
    (s.replace pfr anchor a b c).anchors anchor = some b := State.resized_anchors_self

theorem State.replace_anchors_of_ne (h : x ≠ anchor) :
    (s.replace pfr anchor a b c).anchors x = s.anchors x := State.resized_anchors_of_ne h

@[simp] theorem State.rename_anchors_from :
    (s.rename pfr to_ from_ a).anchors from_ = none := Function.update_self ..

theorem State.rename_anchors_to (h : to_ ≠ from_) :
    (s.rename pfr to_ from_ a).anchors to_ = some a := by
  simp [State.rename, Function.update_of_ne h]

theorem State.rename_anchors_of_ne (hto : x ≠ to_) (hfrom : x ≠ from_) :
    (s.rename pfr to_ from_ a).anchors x = s.anchors x := by
  simp [State.rename, Function.update_of_ne hto, Function.update_of_ne hfrom]

end Anchors

/-- The bytes of a block after `by_` bytes have been inserted at `at_`, or
`-by_` bytes that end there have been removed. The inserted bytes are what
the block held there once it had grown. -/
def midextended (A : Allocator) (at_ by_ : ℤ) (c : List UInt8) : List UInt8 :=
  if by_ < 0 then c.take (at_ + by_).toNat ++ c.drop at_.toNat
  else (Heap.resize A (c.length + by_.toNat) c).take (at_ + by_).toNat ++ c.drop at_.toNat

theorem length_midextended {c : List UInt8} (h0 : 0 ≤ at_) (hle : at_ ≤ c.length)
    (hby : -by_ ≤ at_) : ((midextended A at_ by_ c).length : ℤ) = c.length + by_ := by
  unfold midextended
  split
  · simp only [List.length_append, List.length_take, List.length_drop]
    omega
  · simp only [List.length_append, List.length_take, List.length_drop, Heap.length_resize]
    omega

/-! ## The functions -/

/-- **`PseudoFlex_alloc`** refuses or links a block of `n` bytes, where `n`
is what an `int` becomes as a `size_t`. -/
theorem pseudoFlexAlloc_links (debug : Bool) (ra ba : Allocator) (anchor : FlexPtr) (s : State)
    (h0 : debug = true → 0 ≤ n) :
    pseudoFlexAlloc debug ra ba anchor n s = .ok (0, s) ∨
    ∃ p b c, p ∉ s.records ∧ b ∉ s.heap.live ∧ c.length = toSizeT n ∧
      pseudoFlexAlloc debug ra ba anchor n s = .ok (1, s.link p b anchor n c) := by
  rw [pseudoFlexAlloc, cassert_eq_ok.mpr h0]
  cases hg : ra.grant s.records with
  | none => exact Or.inl rfl
  | some p =>
    have hp : p ∉ s.records := ra.fresh hg
    rcases Heap.malloc_cases ba (toSizeT n) s.heap with hm | ⟨b, hb, hm⟩
    · -- the record that was allocated first is given back
      left
      simp only [ok_bind, hm, freeRecord, Finset.mem_insert_self, if_true,
        Finset.erase_insert hp]
    · right
      refine ⟨p, b, (List.range (toSizeT n)).map ba.fill, hp, hb, ?_, ?_⟩
      · rw [List.length_map, List.length_range]
      · simp only [ok_bind, hm, State.link]

/-- A size that is not negative is the length of the block. -/
theorem pseudoFlexAlloc_cases (debug : Bool) (ra ba : Allocator) (anchor : FlexPtr) (s : State)
    (h0 : 0 ≤ n) (hn : n ≤ intMax) :
    pseudoFlexAlloc debug ra ba anchor n s = .ok (0, s) ∨
    ∃ p b c, p ∉ s.records ∧ b ∉ s.heap.live ∧ (c.length : ℤ) = n ∧
      pseudoFlexAlloc debug ra ba anchor n s = .ok (1, s.link p b anchor n c) := by
  rcases pseudoFlexAlloc_links debug ra ba anchor s (fun _ => h0) with
    he | ⟨p, b, c, hp, hb, hc, he⟩
  · exact Or.inl he
  · exact Or.inr ⟨p, b, c, hp, hb, by rw [hc, toSizeT_of_nonneg h0 hn], he⟩

/-- **`PseudoFlex_free`** unlinks the block. -/
theorem pseudoFlexFree_eq (h : Located s anchor pfr a) :
    pseudoFlexFree debug anchor s = .ok (s.unlink pfr anchor a) := by
  rw [pseudoFlexFree, h.found]
  simp only [Option.isSome_some, cassert_of, ok_bind, freeRecord, if_pos h.record_live, h.holds,
    Heap.free_of_live h.live, State.unlink]

/-- **`PseudoFlex_size`** is the length of the block. -/
theorem pseudoFlexSize_eq (h : Anchored s anchor pfr a) :
    pseudoFlexSize debug anchor s = .ok ((s.heap.bytes a).length : ℤ) := by
  rw [pseudoFlexSize, h.found, h.length_eq]
  simp only [Option.isSome_some, cassert_of, ok_bind]

/-- After a block has been replaced that is the length of the new one. -/
theorem pseudoFlexSize_replace {c : List UInt8} (h : Anchored s anchor pfr a) :
    pseudoFlexSize debug anchor (s.replace pfr anchor a b c) = .ok (c.length : ℤ) := by
  have hfound : findAnchor anchor (s.replace pfr anchor a b c) =
      some ⟨pfr.addr, { pfr.val with size := c.length }⟩ :=
    findItem_modifyItem (f := fun r : PseudoFlexRecord => { r with size := c.length })
      (fun _ => rfl) h.found
  rw [pseudoFlexSize, hfound]
  simp only [Option.isSome_some, cassert_of, ok_bind]

/-- **`PseudoFlex_extend`** refuses or replaces the block by itself
resized. -/
theorem pseudoFlexExtend_resizes (debug : Bool) (A : Allocator) (h : Located s anchor pfr a)
    (h0 : debug = true → 0 ≤ newsize) :
    pseudoFlexExtend debug A anchor newsize s = .ok (0, s) ∨
    ∃ b, b ∉ s.heap.live.erase a ∧
      pseudoFlexExtend debug A anchor newsize s =
        .ok (1, s.resized pfr anchor a b newsize
          (Heap.resize A (toSizeT newsize) (s.heap.bytes a))) := by
  rw [pseudoFlexExtend, cassert_eq_ok.mpr h0, h.found]
  simp only [Option.isSome_some, cassert_of, ok_bind, h.holds]
  rcases Heap.realloc_cases A (toSizeT newsize) h.live with hr | ⟨b, hb, hr⟩
  · left
    rw [hr, ok_bind]
  · right
    refine ⟨b, hb, ?_⟩
    rw [hr, ok_bind, State.resized]

/-- A size that is not negative is the length of the resized block. -/
theorem pseudoFlexExtend_cases (debug : Bool) (A : Allocator) (h : Located s anchor pfr a)
    (h0 : 0 ≤ newsize) (hn : newsize ≤ intMax) :
    pseudoFlexExtend debug A anchor newsize s = .ok (0, s) ∨
    ∃ b, b ∉ s.heap.live.erase a ∧
      pseudoFlexExtend debug A anchor newsize s =
        .ok (1, s.replace pfr anchor a b (Heap.resize A newsize.toNat (s.heap.bytes a))) := by
  rcases pseudoFlexExtend_resizes debug A h (fun _ => h0) with he | ⟨b, hb, he⟩
  · exact Or.inl he
  · refine Or.inr ⟨b, hb, ?_⟩
    rw [he, State.replace, State.resized, Heap.length_resize, toSizeT_eq_toNat h0 hn,
      Int.toNat_of_nonneg h0]

/-- **Truncating**: the bytes below and above those removed, copied one
after the other into a new block of the right size, fill it. -/
theorem splice_shrink {c fill : List UInt8} (h0 : 0 ≤ at_) (hle : at_ ≤ c.length)
    (hby : -by_ ≤ at_) (hneg : by_ < 0) (hfill : (fill.length : ℤ) = c.length + by_) :
    Heap.splice (at_ + by_).toNat (c.drop at_.toNat)
      (Heap.splice 0 (c.take (at_ + by_).toNat) fill) = midextended A at_ by_ c := by
  rw [midextended, if_pos hneg]
  have htake : (c.take (at_ + by_).toNat).length = (at_ + by_).toNat := by
    rw [List.length_take]; omega
  have htop : (c.take (at_ + by_).toNat ++ fill.drop (at_ + by_).toNat).drop
      ((at_ + by_).toNat + (c.drop at_.toNat).length) = [] := by
    refine List.drop_eq_nil_of_le ?_
    rw [List.length_append, htake, List.length_drop, List.length_drop]
    omega
  simp only [Heap.splice, List.take_zero, List.nil_append, Nat.zero_add, htake]
  rw [List.take_left' htake, htop, List.append_nil]

/-- **Extending**: the bytes above the point of insertion, moved up within
the grown block, end where it ends. -/
theorem splice_grow {c : List UInt8} (h0 : 0 ≤ at_) (hle : at_ ≤ c.length) (hpos : 0 ≤ by_) :
    Heap.splice (at_ + by_).toNat
      (((Heap.resize A (c.length + by_.toNat) c).drop at_.toNat).take (c.length - at_.toNat))
      (Heap.resize A (c.length + by_.toNat) c) = midextended A at_ by_ c := by
  rw [midextended, if_neg (by omega)]
  have htail : ((Heap.resize A (c.length + by_.toNat) c).drop at_.toNat).take
      (c.length - at_.toNat) = c.drop at_.toNat := by
    rw [Heap.resize_of_le (by omega), List.drop_append_of_le_length (by omega),
      List.take_left' (by rw [List.length_drop])]
  have htop : (Heap.resize A (c.length + by_.toNat) c).drop
      ((at_ + by_).toNat + (c.drop at_.toNat).length) = [] := by
    refine List.drop_eq_nil_of_le ?_
    rw [Heap.length_resize, List.length_drop]
    omega
  rw [htail, Heap.splice, htop, List.append_nil]

/-- What the heap answers where it is asked for `n` bytes: a new block where
bytes are to be removed, and otherwise the block resized. -/
def State.request (A : Allocator) (anchor : FlexPtr) (by_ : ℤ) (n : ℕ) (s : State) :
    Except Fault (Option Addr × Heap) :=
  if by_ < 0 then .ok (s.heap.malloc A n) else s.heap.realloc A (s.anchors anchor) n

/-- **`PseudoFlex_midextend`** asks the heap for the size of the block with
the bytes inserted or removed. It is refused, or replaces the block by
that. -/
theorem pseudoFlexMidextend_requests (debug : Bool) (A : Allocator) (h : Anchored s anchor pfr a)
    (h0 : 0 ≤ at_) (hle : at_ ≤ pfr.val.size) (hby : -by_ ≤ at_)
    (hmax : pfr.val.size + by_ ≤ intMax) :
    s.request A anchor by_ (toSizeT (pfr.val.size + by_)) = .ok (none, s.heap) ∧
      pseudoFlexMidextend debug A anchor at_ by_ s = .ok (0, s) ∨
    ∃ b heap, b ∉ s.heap.live.erase a ∧
      s.request A anchor by_ (toSizeT (pfr.val.size + by_)) = .ok (some b, heap) ∧
      (heap.bytes b).length = toSizeT (pfr.val.size + by_) ∧
      pseudoFlexMidextend debug A anchor at_ by_ s =
        .ok (1, s.replace pfr anchor a b (midextended A at_ by_ (s.heap.bytes a))) := by
  have hlen := h.length_eq
  have hsize := h.size_le
  have hspliced : ((midextended A at_ by_ (s.heap.bytes a)).length : ℤ) = pfr.val.size + by_ := by
    rw [length_midextended h0 (by omega) hby, hlen]
  have hint : ∀ z : ℤ, 0 ≤ z → z ≤ intMax → toInt z = .ok z := fun z hz hz' =>
    toInt_of ⟨by simp only [intMin]; omega, hz'⟩
  have hcopy : toSizeT (pfr.val.size - at_) = (s.heap.bytes a).length - at_.toNat := by
    rw [toSizeT_eq_toNat (by omega) (by omega)]
    omega
  have hnew : toSizeT (pfr.val.size + by_) = (pfr.val.size + by_).toNat :=
    toSizeT_eq_toNat (by omega) hmax
  rw [pseudoFlexMidextend, cassert_of h0, h.found, State.request, h.holds]
  simp only [Option.isSome_some, cassert_of, ok_bind, cassert_of hle,
    hint (pfr.val.size + by_) (by omega) hmax, hint (pfr.val.size - at_) (by omega) (by omega)]
  by_cases hneg : by_ < 0
  · have hbelow : toSizeT (at_ + by_) = (at_ + by_).toNat := toSizeT_eq_toNat (by omega) (by omega)
    rw [if_pos hneg, if_pos hneg, hint (-by_) (by omega) (by omega)]
    simp only [ok_bind, cassert_of hby, if_neg (not_lt.mpr hby), gt_iff_lt]
    rcases Heap.malloc_cases A (toSizeT (pfr.val.size + by_)) s.heap with hm | ⟨b, hb, hm⟩
    · exact Or.inl (by rw [hm]; exact ⟨rfl, rfl⟩)
    · right
      have hne : b ≠ a := fun he => hb (he ▸ h.live)
      have hfill : (((List.range (toSizeT (pfr.val.size + by_))).map A.fill).length : ℤ) =
          (s.heap.bytes a).length + by_ := by
        rw [List.length_map, List.length_range, hnew]; omega
      refine ⟨b, _, fun hb' => hb (Finset.mem_of_mem_erase hb'), by rw [hm], ?_, ?_⟩
      · rw [Heap.put_bytes_self, List.length_map, List.length_range]
      rw [hm]
      simp only [hint (at_ + by_) (by omega) (by omega), ok_bind, hbelow, hcopy]
      -- the bytes below, then the bytes above, each within both blocks
      rw [Heap.memcpy_put hne h.live le_rfl (by omega) le_rfl (by omega), ok_bind,
        Heap.memcpy_put hne h.live (by omega) ?_ h0 (by omega), ok_bind,
        Heap.free_put hne h.live, ok_bind, Int.toNat_zero, List.drop_zero,
        List.take_of_length_le (l := (s.heap.bytes a).drop at_.toNat) (by rw [List.length_drop]),
        splice_shrink h0 (by omega) hby hneg hfill, State.replace, hspliced]
      rw [Heap.length_splice]
      · omega
      · rw [Int.toNat_zero, List.drop_zero, List.length_take]
        omega
  · rw [if_neg hneg, if_neg hneg]
    have hnew' : toSizeT (pfr.val.size + by_) = (s.heap.bytes a).length + by_.toNat := by omega
    rw [hnew']
    rcases Heap.realloc_cases A ((s.heap.bytes a).length + by_.toNat) h.live with hr | ⟨b, hb, hr⟩
    · left
      rw [hr, ok_bind]
      exact ⟨rfl, rfl⟩
    · right
      refine ⟨b, _, hb, hr, by rw [Heap.put_bytes_self, Heap.length_resize], ?_⟩
      rw [hr, ok_bind]
      simp only [hcopy]
      rw [Heap.memmove_put (by omega) (by rw [Heap.length_resize]; omega) h0
        (by rw [Heap.length_resize]; omega), ok_bind, splice_grow h0 (by omega) (by omega),
        State.replace, hspliced]

/-- It refuses, or replaces the block by itself with the bytes inserted or
removed. -/
theorem pseudoFlexMidextend_cases (debug : Bool) (A : Allocator) (h : Anchored s anchor pfr a)
    (h0 : 0 ≤ at_) (hle : at_ ≤ pfr.val.size) (hby : -by_ ≤ at_)
    (hmax : pfr.val.size + by_ ≤ intMax) :
    pseudoFlexMidextend debug A anchor at_ by_ s = .ok (0, s) ∨
    ∃ b, b ∉ s.heap.live.erase a ∧
      pseudoFlexMidextend debug A anchor at_ by_ s =
        .ok (1, s.replace pfr anchor a b (midextended A at_ by_ (s.heap.bytes a))) := by
  rcases pseudoFlexMidextend_requests debug A h h0 hle hby hmax with
    ⟨-, he⟩ | ⟨b, -, hb, -, -, he⟩
  · exact Or.inl he
  · exact Or.inr ⟨b, hb, he⟩

/-- **A removal that begins before the block** is refused, by an assertion
where there are any. -/
theorem pseudoFlexMidextend_refused (debug : Bool) (A : Allocator) (h : Anchored s anchor pfr a)
    (h0 : 0 ≤ at_) (hle : at_ ≤ pfr.val.size) (hmin : intMin < by_) (hby : at_ < -by_) :
    pseudoFlexMidextend debug A anchor at_ by_ s =
      if debug then .error .assertFailed else .ok (0, s) := by
  have hsize := h.size_le
  simp only [intMin, intMax] at hmin hsize
  have hint : ∀ z : ℤ, -2147483648 ≤ z → z ≤ 2147483647 → toInt z = .ok z := fun z hz hz' =>
    toInt_of ⟨hz, hz'⟩
  rw [pseudoFlexMidextend, cassert_of h0, h.found]
  simp only [Option.isSome_some, cassert_of, ok_bind, cassert_of hle, gt_iff_lt,
    hint (pfr.val.size + by_) (by omega) (by omega),
    hint (pfr.val.size - at_) (by omega) (by omega), hint (-by_) (by omega) (by omega)]
  rw [if_pos (by omega)]
  cases debug with
  | true =>
    have hassert : cassert true (-by_ ≤ at_) = .error .assertFailed := if_pos ⟨rfl, by omega⟩
    rw [hassert, error_bind, if_pos rfl]
  | false => rw [cassert_release, ok_bind, if_pos hby, if_neg (by decide)]

/-- **`PseudoFlex_reanchor`** hands the block over. -/
theorem pseudoFlexReanchor_eq (h : Located s from_ pfr a) :
    pseudoFlexReanchor debug to_ from_ s = .ok (1, s.rename pfr to_ from_ a) := by
  rw [pseudoFlexReanchor, h.found]
  simp only [Option.isSome_some, cassert_of, ok_bind, h.holds, State.rename]

end Flex

end CBPseudo
