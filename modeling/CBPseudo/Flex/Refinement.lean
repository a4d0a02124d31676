import CBPseudo.Common.Strings
import CBPseudo.Flex.Model.Settings
import CBPseudo.Flex.Resizing

/-!
# The pseudo-flex heap — what it is for

To its clients the heap is a store of byte strings, one for each anchor
that is registered: `State.contents`. Where the blocks are, and where they
move, is seen by nobody who goes through the anchors. Each call answers
from the strings and changes them as its operation on them does, or
answers 0 and does nothing (`flex_refines_strings`), so that a byte that has
been written is read back wherever the calls since have taken it
(`written_byte_is_read_back`).
-/

namespace CBPseudo

open Common

namespace Flex

/-! ## Sessions -/

/-- **The state of a session**: the heap's, the settings, and the rate at
which Fortify makes allocations fail. -/
structure Session where
  heap : State
  settings : Settings
  percent : ℤ

/-- **What a client does**: the calls, and reading and writing through an
anchor. -/
inductive Access
  | call (op : Op)
  /-- `PseudoFlex_size`. -/
  | size (anchor : FlexPtr)
  | read (anchor : FlexPtr) (off n : ℕ)
  | write (anchor : FlexPtr) (off : ℕ) (bytes : List UInt8)
  /-- `PseudoFlex_init`. -/
  | init (A : Allocator)
  /-- `PseudoFlex_set_budge`. -/
  | setBudge (newstate : ℤ)
  /-- `PseudoFlex_set_deferred_compaction`. -/
  | setDeferredCompaction (newstate : ℤ)
  /-- `PseudoFlex_compact`. -/
  | compact

/-- What it is answered. -/
inductive Answer
  | none
  | int (r : ℤ)
  | bytes (c : List UInt8)
  deriving DecidableEq

/-- Read bytes of the block that an anchor holds. -/
def readThrough (anchor : FlexPtr) (off n : ℕ) (s : State) : Except Fault (List UInt8) :=
  match s.anchors anchor with
  | none => .error .outOfBounds
  | some a =>
    if s.heap.InBlock a off n then .ok (((s.heap.bytes a).drop off).take n)
    else .error .outOfBounds

/-- Write bytes to it. -/
def writeThrough (anchor : FlexPtr) (off : ℕ) (bytes : List UInt8) (s : State) :
    Except Fault State :=
  match s.anchors anchor with
  | none => .error .outOfBounds
  | some a =>
    if s.heap.InBlock a off bytes.length then
      .ok { s with heap := s.heap.put a (Heap.splice off bytes (s.heap.bytes a)) }
    else .error .outOfBounds

/-- The answer of a call. -/
def answerOf : Option ℤ → Answer
  | none => .none
  | some r => .int r

/-- **The access itself.** -/
def Access.exec (debug : Bool) (t : Session) : Access → Except Fault (Answer × Session)
  | .call op => do
    let (r, s) ← op.call debug t.heap
    .ok (answerOf r, { t with heap := s })
  | .size anchor => do
    let n ← pseudoFlexSize debug anchor t.heap
    .ok (.int n, t)
  | .read anchor off n => do
    let c ← readThrough anchor off n t.heap
    .ok (.bytes c, t)
  | .write anchor off bytes => do
    let s ← writeThrough anchor off bytes t.heap
    .ok (.none, { t with heap := s })
  | .init A => do
    let (s, percent) ← pseudoFlexInit debug A t.percent t.heap
    .ok (.none, { t with heap := s, percent := percent })
  | .setBudge newstate => do
    let (r, settings) ← pseudoFlexSetBudge debug newstate t.settings
    .ok (.int r, { t with settings := settings })
  | .setDeferredCompaction newstate => do
    let (r, settings) ← pseudoFlexSetDeferredCompaction debug newstate t.settings
    .ok (.int r, { t with settings := settings })
  | .compact => .ok (.int pseudoFlexCompact, t)

/-- What the client promises: to keep within the block, to name an anchor
that is registered, and for the settings one of the documented states. -/
def Access.Pre (s : State) : Access → Prop
  | .call op => op.Pre s
  | .size anchor => Registered anchor s
  | .read anchor off n => Registered anchor s ∧
      ∀ pfr, findAnchor anchor s = some pfr → (off + n : ℤ) ≤ pfr.val.size
  | .write anchor off bytes => Registered anchor s ∧
      ∀ pfr, findAnchor anchor s = some pfr → (off + bytes.length : ℤ) ≤ pfr.val.size
  | .init A => (A.grant s.heap.live).isSome
  | .setBudge newstate => -1 ≤ newstate ∧ newstate ≤ 1
  | .setDeferredCompaction newstate => newstate = 0 ∨ newstate = 1
  | .compact => True

/-- **A step of a session**: an access that keeps its promise, and its
answer. -/
def Session.Step (debug : Bool) (t : Session) (x : Access × Answer) (t' : Session) : Prop :=
  x.1.Pre t.heap ∧ x.1.exec debug t = .ok (x.2, t')

/-! ## The strings -/

/-- **The strings that a state stands for.** -/
def State.contents (s : State) : Strings FlexPtr UInt8 := fun anchor =>
  match findAnchor anchor s with
  | none => none
  | some _ => (s.anchors anchor).map s.heap.bytes

/-- The operation that a call is. -/
def Op.onStrings : Op → Strings.Op FlexPtr UInt8
  | .alloc _ _ anchor n => .make anchor n.toNat
  | .free anchor => .drop anchor
  | .extend _ anchor newsize => .resize anchor newsize.toNat
  | .midextend _ anchor at_ by_ =>
    if by_ < 0 then .remove anchor (at_ + by_).toNat (-by_).toNat
    else .insert anchor at_.toNat by_.toNat
  | .reanchor to_ from_ => .rename to_ from_

/-- **The operation that an access is**, with its answer: none where it is a
question, or a call that was refused. -/
def onStrings : Access × Answer → List (Strings.Op FlexPtr UInt8)
  | (.call op, r) => if r = .int 0 then [] else [op.onStrings]
  | (.write anchor off bytes, _) => [.write anchor off bytes]
  | _ => []

/-- The answer of a call that is not refused; freeing has none. -/
def Op.done : Op → Option ℤ
  | .free _ => none
  | _ => some 1

/-- **What an access may be answered**, by the strings and the settings: a
call may be refused, unless it takes a block away from an anchor. -/
def Access.Answers (m : Strings FlexPtr UInt8) (c : Settings) : Access → Answer → Prop
  | .call op, r => r = answerOf op.done ∨ r = .int 0 ∧ op.releases = none
  | .size anchor, r => ∃ c, m anchor = some c ∧ r = .int c.length
  | .read anchor off n, r => ∃ c, m anchor = some c ∧ r = .bytes ((c.drop off).take n)
  | .write _ _ _, r => r = .none
  | .init _, r => r = .none
  | .setBudge _, r => r = .int c.budgeState
  | .setDeferredCompaction _, r => r = .int c.deferCompact
  | .compact, r => r = .int 0

/-- The settings after an access. -/
def Access.settings (c : Settings) : Access → Settings
  | .setBudge newstate => if newstate = -1 then c else { c with budgeState := newstate }
  | .setDeferredCompaction newstate => { c with deferCompact := newstate }
  | _ => c

/-- **A step of the store of strings**, with its settings. -/
def SpecStep (t : Strings FlexPtr UInt8 × Settings) (x : Access × Answer)
    (t' : Strings FlexPtr UInt8 × Settings) : Prop :=
  x.1.Answers t.1 t.2 x.2 ∧ Run Strings.Step t.1 (onStrings x) t'.1 ∧ t'.2 = x.1.settings t.2

variable {debug : Bool} {s s' : State} {op : Op} {x anchor to_ from_ : FlexPtr} {n : ℤ}
variable {pfr : Item PseudoFlexRecord} {a b p : Addr} {c : List UInt8}

/-! ## What the states stand for -/

theorem contents_of_not_registered (h : ¬ Registered x s) : s.contents x = none := by
  rw [State.contents, findAnchor_eq_none.mpr h]

theorem contents_of_registered (h : Registered x s) (hh : s.anchors x = some a) :
    s.contents x = some (s.heap.bytes a) := by
  obtain ⟨pfr, hf⟩ := exists_findAnchor h
  rw [State.contents, hf, hh]
  rfl

theorem contents_of_anchored (h : Anchored s anchor pfr a) :
    s.contents anchor = some (s.heap.bytes a) :=
  contents_of_registered ⟨pfr, mem_of_findAnchor h.found, anchor_of_findAnchor h.found⟩ h.holds

theorem contents_of_untouched (h : Untouched x s s') : s'.contents x = s.contents x := by
  obtain ⟨a, -, hh, -, hbytes⟩ := h.block
  rw [State.contents, State.contents, h.record, h.holds, hh, Option.map_some, Option.map_some,
    hbytes]

/-- An anchor that a call leaves alone, or that is registered neither before
nor after. -/
theorem contents_frame (huntouched : Registered x s → Untouched x s s')
    (hreg : Registered x s' → Registered x s) : s'.contents x = s.contents x := by
  by_cases hx : Registered x s
  · exact contents_of_untouched (huntouched hx)
  · rw [contents_of_not_registered hx, contents_of_not_registered (mt hreg hx)]

/-- **A change at one anchor** is a change to one string. -/
theorem contents_eq_update {y : Option (List UInt8)} (hself : s'.contents anchor = y)
    (hother : ∀ x ≠ anchor, s'.contents x = s.contents x) :
    s'.contents = Function.update s.contents anchor y := by
  funext x
  by_cases hx : x = anchor
  · rw [hx, hself, Function.update_self]
  · rw [hother x hx, Function.update_of_ne hx]

/-- A block allocated. -/
theorem contents_link (hi : Inv s) (hi' : Inv (s.link p b anchor n c)) (hb : b ∉ s.heap.live) :
    (s.link p b anchor n c).contents = Function.update s.contents anchor (some c) := by
  have hnew : Registered anchor (s.link p b anchor n c) :=
    ⟨⟨p, { size := n, anchor := anchor }⟩, List.mem_cons_self, rfl⟩
  refine contents_eq_update ?_ fun x hx => contents_frame
    (fun hreg => hi.linked.untouched_link hi'.linked hb hreg hx) ?_
  · rw [contents_of_registered hnew State.link_anchors_self, State.link, Heap.put_bytes_self]
  · rintro ⟨r, hr, he⟩
    rcases List.mem_cons.mp hr with rfl | hr
    · exact absurd he.symm hx
    · exact ⟨r, hr, he⟩

/-- A block freed. -/
theorem contents_unlink (hi : Inv s) (h : Anchored s anchor pfr a) :
    (s.unlink pfr anchor a).contents = Function.update s.contents anchor none := by
  have hpfr := mem_of_findAnchor h.found
  have hmem : ∀ r ∈ (s.unlink pfr anchor a).blockList, r ∈ s.blockList ∧ r ≠ pfr := by
    intro r hr
    rw [State.unlink, mem_removeItem hi.addrs_nodup] at hr
    exact ⟨hr.1, fun he => hr.2 (he ▸ rfl)⟩
  refine contents_eq_update ?_ fun x hx => contents_frame
    (fun hreg => hi.linked.untouched_unlink (hi.unlink h).linked h.located hreg hx) ?_
  · refine contents_of_not_registered ?_
    rintro ⟨r, hr, he⟩
    obtain ⟨hr, hne⟩ := hmem r hr
    exact hne ((hi.linked.anchor_eq_iff h.located hr).mp he)
  · rintro ⟨r, hr, he⟩
    exact ⟨r, (hmem r hr).1, he⟩

/-- A block replaced. -/
theorem contents_replace (hi : Inv s) (hi' : Inv (s.replace pfr anchor a b c))
    (h : Anchored s anchor pfr a) (hb : b ∉ s.heap.live.erase a) :
    (s.replace pfr anchor a b c).contents = Function.update s.contents anchor (some c) := by
  have hreg : Registered anchor s :=
    ⟨pfr, mem_of_findAnchor h.found, anchor_of_findAnchor h.found⟩
  refine contents_eq_update ?_ fun x hx => contents_frame
    (fun hregx => hi.linked.untouched_resized hi'.linked h.located hb hregx hx)
    (hi.registered_replace h).mp
  rw [contents_of_registered ((hi.registered_replace h).mpr hreg) State.replace_anchors_self,
    State.replace, State.setBlock, Heap.put_bytes_self]

/-- A block handed over. -/
theorem contents_rename (hi : Inv s) (h : Anchored s from_ pfr a) (hto : ¬ Registered to_ s) :
    (s.rename pfr to_ from_ a).contents =
      Function.update (Function.update s.contents to_ (some (s.heap.bytes a))) from_ none := by
  have hi' := hi.rename h hto
  have hpfr := mem_of_findAnchor h.found
  have hanchor := anchor_of_findAnchor h.found
  have hdiff : to_ ≠ from_ := fun he => hto ⟨pfr, hpfr, hanchor.trans he.symm⟩
  have hmem : ∀ r, r ∈ (s.rename pfr to_ from_ a).blockList ↔ _ := fun r =>
    hi.linked.mem_rename h.located
  funext x
  by_cases hfrom : x = from_
  · rw [hfrom, Function.update_self]
    refine contents_of_not_registered ?_
    rintro ⟨r, hr, he⟩
    rcases (hmem r).mp hr with rfl | ⟨hr, hne⟩
    · exact hdiff he
    · exact hne ((hi.linked.anchor_eq_iff h.located hr).mp he)
  · rw [Function.update_of_ne hfrom]
    by_cases hx : x = to_
    · rw [hx, Function.update_self]
      exact contents_of_registered ⟨_, (hmem _).mpr (Or.inl rfl), rfl⟩
        (State.rename_anchors_to hdiff)
    · rw [Function.update_of_ne hx]
      refine contents_frame (fun hreg => hi.linked.untouched_rename hi'.linked h.located hreg hx
        hfrom) ?_
      rintro ⟨r, hr, he⟩
      rcases (hmem r).mp hr with rfl | ⟨hr, -⟩
      · exact absurd he.symm hx
      · exact ⟨r, hr, he⟩

/-! ## Calls -/

/-- A block resized has the bytes that were there and fit. -/
theorem getElem?_resize {A : Allocator} {l : List UInt8} {m j : ℕ} (hj : j < l.length)
    (hm : j < m) : (Heap.resize A m l)[j]? = l[j]? := by
  rw [Heap.resize, List.getElem?_append_left (by rw [List.length_take]; omega),
    List.getElem?_take_of_lt hm]

/-- A block with bytes inserted or removed. -/
theorem step_midextended {A : Allocator} {at_ by_ : ℤ} {m : Strings FlexPtr UInt8}
    (hm : m anchor = some c) (h0 : 0 ≤ at_) (hle : at_ ≤ c.length) (hby : -by_ ≤ at_) :
    Strings.Step m (Op.midextend A anchor at_ by_).onStrings
      (Function.update m anchor (some (midextended A at_ by_ c))) := by
  rw [Op.onStrings]
  split
  · next hneg =>
    have hend : (at_ + by_).toNat + (-by_).toNat = at_.toNat := by omega
    have hstep := Strings.Step.remove (i := (at_ + by_).toNat) (n := (-by_).toNat) hm (by omega)
    rwa [hend, ← midextended_of_neg (A := A) hneg] at hstep
  · next hpos =>
    have hpos : 0 ≤ by_ := Int.not_lt.mp hpos
    have hlen := length_midextended (A := A) h0 hle hby
    refine .insert hm (by omega) (by omega) (fun j hj => ?_) fun j hj => ?_
    · rw [← List.getElem?_take_of_lt hj, take_midextended h0 hle hpos, List.getElem?_take_of_lt hj]
    · have hdrop := congrArg (fun l : List UInt8 => l[j - at_.toNat]?)
        (drop_midextended (A := A) h0 hle hpos)
      simp only [List.getElem?_drop] at hdrop
      have hnew : (at_ + by_).toNat + (j - at_.toNat) = j + by_.toNat := by omega
      have hold : at_.toNat + (j - at_.toNat) = j := by omega
      rwa [hnew, hold] at hdrop

/-- **Under the invariant a call is refused**, and nothing happens, **or it
does to the strings what its operation does.** -/
theorem call_onStrings (debug : Bool) (hi : Inv s) (hp : op.Pre s) :
    ∃ r s', op.call debug s = .ok (r, s') ∧ Inv s' ∧
      (r = some 0 ∧ s' = s ∧ op.releases = none ∨
        r = op.done ∧ Strings.Step s.contents op.onStrings s'.contents) := by
  cases op with
  | alloc ra ba anchor n =>
    obtain ⟨h0, hn, hreg⟩ := hp
    rcases pseudoFlexAlloc_cases debug ra ba anchor s h0 hn with
      he | ⟨p, b, c, hpr, hb, hc, he⟩
    · exact ⟨_, s, by rw [Op.call, he]; rfl, hi, Or.inl ⟨rfl, rfl, rfl⟩⟩
    · have hi' := hi.link hpr hb hreg hc hn
      refine ⟨_, _, by rw [Op.call, he]; rfl, hi', Or.inr ⟨rfl, ?_⟩⟩
      have hlen : n.toNat = c.length := by omega
      rw [contents_link hi hi' hb, Op.onStrings, hlen]
      exact .make (contents_of_not_registered hreg)
  | free anchor =>
    obtain ⟨pfr, a, ha⟩ := hi.anchored_of_registered hp
    refine ⟨_, _, by rw [Op.call, pseudoFlexFree_eq ha.located]; rfl, hi.unlink ha,
      Or.inr ⟨rfl, ?_⟩⟩
    rw [contents_unlink hi ha]
    exact .drop (contents_of_anchored ha)
  | extend A anchor newsize =>
    obtain ⟨h0, hn, hreg⟩ := hp
    obtain ⟨pfr, a, ha⟩ := hi.anchored_of_registered hreg
    rcases pseudoFlexExtend_cases debug A ha.located h0 hn with he | ⟨b, hb, he⟩
    · exact ⟨_, s, by rw [Op.call, he]; rfl, hi, Or.inl ⟨rfl, rfl, rfl⟩⟩
    · have hlen : (Heap.resize A newsize.toNat (s.heap.bytes a)).length = newsize.toNat :=
        Heap.length_resize
      have hi' := hi.replace ha hb (c := Heap.resize A newsize.toNat (s.heap.bytes a)) (by omega)
      refine ⟨_, _, by rw [Op.call, he]; rfl, hi', Or.inr ⟨rfl, ?_⟩⟩
      have hstep := Strings.Step.resize (contents_of_anchored ha)
        fun j hj hj' => getElem?_resize hj (hlen ▸ hj')
      rwa [hlen, ← contents_replace hi hi' ha hb] at hstep
  | midextend A anchor at_ by_ =>
    obtain ⟨hreg, hrange⟩ := hp
    obtain ⟨pfr, a, ha⟩ := hi.anchored_of_registered hreg
    obtain ⟨h0, hle, hby, hmax⟩ := hrange pfr ha.found
    rcases pseudoFlexMidextend_cases debug A ha h0 hle hby hmax with he | ⟨b, hb, he⟩
    · exact ⟨_, s, by rw [Op.call, he]; rfl, hi, Or.inl ⟨rfl, rfl, rfl⟩⟩
    · have hle' : at_ ≤ (s.heap.bytes a).length := by rw [ha.length_eq]; exact hle
      have hlen := length_midextended (A := A) h0 hle' hby
      have hi' := hi.replace ha hb (c := midextended A at_ by_ (s.heap.bytes a)) (by
        rw [hlen, ha.length_eq]; exact hmax)
      refine ⟨_, _, by rw [Op.call, he]; rfl, hi', Or.inr ⟨rfl, ?_⟩⟩
      rw [contents_replace hi hi' ha hb]
      exact step_midextended (contents_of_anchored ha) h0 hle' hby
  | reanchor to_ from_ =>
    obtain ⟨hreg, hto⟩ := hp
    obtain ⟨pfr, a, ha⟩ := hi.anchored_of_registered hreg
    refine ⟨_, _, by rw [Op.call, pseudoFlexReanchor_eq ha.located]; rfl, hi.rename ha hto,
      Or.inr ⟨rfl, ?_⟩⟩
    rw [contents_rename hi ha hto]
    exact .rename (contents_of_anchored ha) (contents_of_not_registered hto)

/-! ## The other accesses -/

/-- **Changing bytes and no length** keeps everything in order. -/
theorem Inv.setHeap {h : Heap} (hi : Inv s) (hlive : h.live = s.heap.live)
    (hlen : ∀ a ∈ s.heap.live, (h.bytes a).length = (s.heap.bytes a).length) :
    Inv { s with heap := h } where
  addrs_nodup := hi.addrs_nodup
  mem_records := hi.mem_records
  anchor_inj := hi.anchor_inj
  anchored := by
    intro r hr
    obtain ⟨a, ha, hh, hsize⟩ := hi.anchored r hr
    exact ⟨a, hlive ▸ ha, hh, by rw [hlen a ha]; exact hsize⟩
  block_inj := hi.block_inj
  owned := fun a ha => hi.owned a (hlive ▸ ha)

/-- Changing the bytes of no block changes no string. -/
theorem contents_setHeap {h : Heap} (hi : Inv s)
    (hbytes : ∀ a ∈ s.heap.live, h.bytes a = s.heap.bytes a) :
    State.contents { s with heap := h } = s.contents := by
  funext x
  by_cases hx : Registered x s
  · obtain ⟨pfr, a, ha⟩ := hi.anchored_of_registered hx
    rw [contents_of_anchored ha, ← hbytes a ha.live]
    exact contents_of_registered hx ha.holds
  · rw [contents_of_not_registered hx]
    exact contents_of_not_registered hx

/-- Bytes written into a block. -/
def State.put (a : Addr) (c : List UInt8) (s : State) : State :=
  { s with heap := s.heap.put a c }

theorem inv_put (hi : Inv s) (ha : a ∈ s.heap.live) (hc : c.length = (s.heap.bytes a).length) :
    Inv (s.put a c) := by
  refine hi.setHeap (Finset.insert_eq_of_mem ha) fun a' _ => ?_
  by_cases he : a' = a
  · rw [he, Heap.put_bytes_self, hc]
  · rw [Heap.put_bytes_of_ne he]

theorem contents_put (hi : Inv s) (h : Anchored s anchor pfr a) :
    (s.put a c).contents = Function.update s.contents anchor (some c) := by
  have hreg : Registered anchor s :=
    ⟨pfr, mem_of_findAnchor h.found, anchor_of_findAnchor h.found⟩
  refine contents_eq_update ?_ fun x hx => ?_
  · rw [contents_of_registered (s := s.put a c) hreg h.holds, State.put, Heap.put_bytes_self]
  · by_cases hregx : Registered x s
    · obtain ⟨pfr', a', ha'⟩ := hi.anchored_of_registered hregx
      -- the block of another anchor is another block
      have hne : a' ≠ a := by
        rintro rfl
        have hanchor := anchor_of_findAnchor ha'.found
        have hpfr := hi.block_inj _ (mem_of_findAnchor ha'.found) _ (mem_of_findAnchor h.found)
          (by rw [hanchor, ha'.holds, anchor_of_findAnchor h.found, h.holds])
        exact hx (by rw [← hanchor, hpfr, anchor_of_findAnchor h.found])
      rw [contents_of_anchored ha', ← Heap.put_bytes_of_ne (h := s.heap) (c := c) hne]
      exact contents_of_registered (s := s.put a c) hregx ha'.holds
    · rw [contents_of_not_registered hregx]
      exact contents_of_not_registered (s := s.put a c) hregx

/-- **Initialising** leaves what is allocated as it is. -/
theorem pseudoFlexInit_eq {A : Allocator} (percent : ℤ) (hg : A.grant s.heap.live = some b) :
    pseudoFlexInit debug A percent s =
      .ok ({ s with heap := (s.heap.put b []).drop b }, percent) := by
  have hmalloc : s.heap.malloc A 0 = (some b, s.heap.put b []) := by rw [Heap.malloc, hg]; rfl
  have hlive : b ∈ (s.heap.put b []).live := Finset.mem_insert_self b s.heap.live
  simp only [pseudoFlexInit, hmalloc, Option.isSome_some, cassert_of, ok_bind,
    Heap.free_of_live hlive]

theorem put_drop_live (hb : b ∉ s.heap.live) : ((s.heap.put b []).drop b).live = s.heap.live :=
  Finset.erase_insert hb

theorem put_drop_bytes (hb : b ∉ s.heap.live) (ha : a ∈ s.heap.live) :
    ((s.heap.put b []).drop b).bytes a = s.heap.bytes a :=
  Heap.put_bytes_of_ne fun he => hb (he ▸ ha)

/-- The settings are what they are asked to be. -/
theorem pseudoFlexSetBudge_eq {newstate : ℤ} {k : Settings} (h : -1 ≤ newstate ∧ newstate ≤ 1) :
    pseudoFlexSetBudge debug newstate k =
      .ok (k.budgeState, if newstate = -1 then k else { k with budgeState := newstate }) := by
  rw [pseudoFlexSetBudge, cassert_of h, ok_bind]
  split <;> simp_all

theorem pseudoFlexSetDeferredCompaction_eq {newstate : ℤ} {k : Settings}
    (h : newstate = 0 ∨ newstate = 1) :
    pseudoFlexSetDeferredCompaction debug newstate k =
      .ok (k.deferCompact, { k with deferCompact := newstate }) := by
  rw [pseudoFlexSetDeferredCompaction, cassert_of h, ok_bind]

/-- Reading and writing through an anchor that is in order. -/
theorem readThrough_eq {off m : ℕ} (h : Anchored s anchor pfr a)
    (hle : off + m ≤ (s.heap.bytes a).length) :
    readThrough anchor off m s = .ok (((s.heap.bytes a).drop off).take m) := by
  have hin : s.heap.InBlock a off m := ⟨h.live, by omega, by omega⟩
  simp only [readThrough, h.holds, if_pos hin]

theorem writeThrough_eq {off : ℕ} {new : List UInt8} (h : Anchored s anchor pfr a)
    (hle : off + new.length ≤ (s.heap.bytes a).length) :
    writeThrough anchor off new s = .ok (s.put a (Heap.splice off new (s.heap.bytes a))) := by
  have hin : s.heap.InBlock a off new.length := ⟨h.live, by omega, by omega⟩
  simp only [writeThrough, h.holds, if_pos hin, State.put]

/-! ## Sessions and strings -/

/-- **Under the invariant an access returns, and is a step of the store of
strings**, and the rate of failures is what it was. -/
theorem access_onStrings (debug : Bool) {t : Session} {x : Access} (hi : Inv t.heap)
    (hp : x.Pre t.heap) : ∃ r t', x.exec debug t = .ok (r, t') ∧ Inv t'.heap ∧
      SpecStep (t.heap.contents, t.settings) (x, r) (t'.heap.contents, t'.settings) ∧
      t'.percent = t.percent := by
  cases x with
  | call op =>
    obtain ⟨r, s', he, hi', hcase⟩ := call_onStrings debug hi hp
    refine ⟨answerOf r, { t with heap := s' }, by rw [Access.exec, he]; rfl, hi', ?_, rfl⟩
    rcases hcase with ⟨rfl, rfl, hrel⟩ | ⟨rfl, hstep⟩
    · exact ⟨Or.inr ⟨rfl, hrel⟩, Run.nil, rfl⟩
    · -- what a call that is not refused answers is not 0
      have hdone : answerOf op.done ≠ .int 0 := by cases op <;> simp [Op.done, answerOf]
      refine ⟨Or.inl rfl, ?_, rfl⟩
      rw [onStrings, if_neg hdone]
      exact Run.nil.snoc hstep
  | size anchor =>
    obtain ⟨pfr, a, ha⟩ := hi.anchored_of_registered hp
    exact ⟨_, t, by rw [Access.exec, pseudoFlexSize_eq ha]; rfl, hi,
      ⟨⟨_, contents_of_anchored ha, rfl⟩, Run.nil, rfl⟩, rfl⟩
  | read anchor off n =>
    obtain ⟨hreg, hrange⟩ := hp
    obtain ⟨pfr, a, ha⟩ := hi.anchored_of_registered hreg
    have hle := hrange pfr ha.found
    rw [← ha.length_eq] at hle
    exact ⟨_, t, by rw [Access.exec, readThrough_eq ha (by omega)]; rfl, hi,
      ⟨⟨_, contents_of_anchored ha, rfl⟩, Run.nil, rfl⟩, rfl⟩
  | write anchor off new =>
    obtain ⟨hreg, hrange⟩ := hp
    obtain ⟨pfr, a, ha⟩ := hi.anchored_of_registered hreg
    have hle := hrange pfr ha.found
    rw [← ha.length_eq] at hle
    have hle : off + new.length ≤ (t.heap.heap.bytes a).length := by omega
    have hi' := inv_put hi ha.live (Heap.length_splice hle)
    refine ⟨.none, { t with heap := t.heap.put a _ },
      by rw [Access.exec, writeThrough_eq ha hle]; rfl, hi', ⟨rfl, ?_, rfl⟩, rfl⟩
    rw [contents_put hi ha]
    exact Run.nil.snoc (.write (contents_of_anchored ha) hle)
  | init A =>
    obtain ⟨b, hb⟩ := Option.isSome_iff_exists.mp hp
    have hfresh := A.fresh hb
    have hlive := put_drop_live hfresh
    have hbytes : ∀ a ∈ t.heap.heap.live, ((t.heap.heap.put b []).drop b).bytes a =
        t.heap.heap.bytes a := fun a ha => put_drop_bytes hfresh ha
    refine ⟨.none, { t with heap := { t.heap with heap := (t.heap.heap.put b []).drop b } },
      by rw [Access.exec, pseudoFlexInit_eq t.percent hb]; rfl,
      hi.setHeap hlive fun a ha => by rw [hbytes a ha], ⟨rfl, ?_, rfl⟩, rfl⟩
    rw [contents_setHeap hi hbytes]
    exact Run.nil
  | setBudge newstate =>
    exact ⟨_, { t with settings := Access.settings t.settings (.setBudge newstate) },
      by rw [Access.exec, pseudoFlexSetBudge_eq hp]; rfl, hi, ⟨rfl, Run.nil, rfl⟩, rfl⟩
  | setDeferredCompaction newstate =>
    exact ⟨_, { t with settings := Access.settings t.settings (.setDeferredCompaction newstate) },
      by rw [Access.exec, pseudoFlexSetDeferredCompaction_eq hp]; rfl, hi,
      ⟨rfl, Run.nil, rfl⟩, rfl⟩
  | compact => exact ⟨_, t, rfl, hi, ⟨rfl, Run.nil, rfl⟩, rfl⟩

/-- A session at start-up. -/
def Session.initial (anchors : FlexPtr → Option Addr) (percent : ℤ) : Session :=
  ⟨Flex.initial anchors, Settings.initial, percent⟩

/-- A step of a session is a step of the store of strings. -/
theorem Session.Step.onStrings {t t' : Session} {x : Access × Answer} (h : t.Step debug x t')
    (hi : Inv t.heap) : Inv t'.heap ∧
      SpecStep (t.heap.contents, t.settings) x (t'.heap.contents, t'.settings) ∧
      t'.percent = t.percent := by
  obtain ⟨r, t'', he, h'⟩ := access_onStrings debug hi h.1
  obtain ⟨hr, ht⟩ := Prod.mk.inj (Except.ok.inj (h.2.symm.trans he))
  obtain ⟨x, r'⟩ := x
  subst hr ht
  exact h'

/-- A run of a session is a run of the store of strings. -/
theorem session_onStrings {t t' : Session} {xs : List (Access × Answer)}
    (h : Run (Session.Step debug) t xs t') (hi : Inv t.heap) : Inv t'.heap ∧
      Run SpecStep (t.heap.contents, t.settings) xs (t'.heap.contents, t'.settings) ∧
      t'.percent = t.percent := by
  induction h with
  | nil => exact ⟨hi, Run.nil, rfl⟩
  | snoc _ hs ih =>
    obtain ⟨hi', hrun, hpercent⟩ := ih
    obtain ⟨hi'', hstep, hpercent'⟩ := hs.onStrings hi'
    exact ⟨hi'', hrun.snoc hstep, hpercent'.trans hpercent⟩

/-- A run of the store with its settings is one of the store. -/
theorem run_of_specRun {t t' : Strings FlexPtr UInt8 × Settings} {xs : List (Access × Answer)}
    (h : Run SpecStep t xs t') : Run Strings.Step t.1 (xs.flatMap onStrings) t'.1 := by
  induction h with
  | nil => exact Run.nil
  | snoc _ hs ih =>
    rw [List.flatMap_append, List.flatMap_singleton]
    exact ih.append hs.2.1

theorem contents_initial {anchors : FlexPtr → Option Addr} :
    (Flex.initial anchors).contents = fun _ => none := rfl

/-- **The heap is a store of strings.** Whatever a client does that keeps
its promises, every answer that it is given and every string that it finds
at an anchor are those of the store, in which a call that answers 0 has done
nothing and any other has done its operation; the settings are those last
asked for; and its next access, if it keeps its promise, returns. -/
theorem flex_refines_strings (debug : Bool) (anchors : FlexPtr → Option Addr) (percent : ℤ)
    {xs : List (Access × Answer)} {t : Session}
    (h : Run (Session.Step debug) (Session.initial anchors percent) xs t) :
    Run SpecStep (fun _ => none, Settings.initial) xs (t.heap.contents, t.settings) ∧
    t.percent = percent ∧
    ∀ x : Access, x.Pre t.heap → ∃ r t', t.Step debug (x, r) t' := by
  obtain ⟨hi, hrun, hpercent⟩ := session_onStrings h inv_initial
  refine ⟨contents_initial ▸ hrun, hpercent, fun x hp => ?_⟩
  obtain ⟨r, t', he, -⟩ := access_onStrings debug hi hp
  exact ⟨r, t', hp, he⟩

/-- Three bytes allocated and written, two more inserted before the last
two, and the block handed over and read. -/
theorem session_moved : ∃ t, Run (Session.Step true) (Session.initial (fun _ => none) 10)
    ([(.call (.alloc (.only 1) (.only 2) 10 3), .int 1)] ++ [(.write 10 1 [7, 8], .none)] ++
      [(.call (.midextend (.only 5) 10 1 2), .int 1), (.call (.reanchor 11 10), .int 1)] ++
      [(.read 11 2 3, .bytes [8, 7, 8])]) t := by
  exact ⟨_, ((((Run.nil.snoc
    (a := (Access.call (.alloc (.only 1) (.only 2) 10 3), Answer.int 1))
      ⟨⟨by decide, by decide, by decide⟩, rfl⟩).snoc
    (a := (Access.write 10 1 [7, 8], Answer.none))
      ⟨⟨by decide, by rintro _ ⟨rfl⟩; decide⟩, rfl⟩).snoc
    (a := (Access.call (.midextend (.only 5) 10 1 2), Answer.int 1))
      ⟨⟨by decide, by rintro _ ⟨rfl⟩; decide⟩, rfl⟩).snoc
    (a := (Access.call (.reanchor 11 10), Answer.int 1)) ⟨⟨by decide, by decide⟩, rfl⟩).snoc
    (a := (Access.read 11 2 3, Answer.bytes [8, 7, 8]))
      ⟨⟨by decide, by rintro _ ⟨rfl⟩; decide⟩, rfl⟩⟩

/-- The same accesses, of the heap and of the store of strings. -/
theorem flex_refines_strings_moved : ∃ t : Session,
    let xs : List (Access × Answer) :=
      [(.call (.alloc (.only 1) (.only 2) 10 3), .int 1)] ++ [(.write 10 1 [7, 8], .none)] ++
        [(.call (.midextend (.only 5) 10 1 2), .int 1), (.call (.reanchor 11 10), .int 1)] ++
        [(.read 11 2 3, .bytes [8, 7, 8])]
    Run (Session.Step true) (Session.initial (fun _ => none) 10) xs t ∧
    Run SpecStep (fun _ => none, Settings.initial) xs (t.heap.contents, t.settings) := by
  obtain ⟨t, h⟩ := session_moved
  exact ⟨t, h, (flex_refines_strings true (fun _ => none) 10 h).1⟩

/-- **What has been written is read back.** After a write, whatever the
client does next, a byte that the calls since have taken to some place, and
that no write since has gone over, is what a read of that place finds. -/
theorem written_byte_is_read_back (debug : Bool) (anchors : FlexPtr → Option Addr) (percent : ℤ)
    {before between : List (Access × Answer)} {k k' : FlexPtr} {off off' n i j : ℕ}
    {new : List UInt8} {r r' : Answer} {b : UInt8} {t : Session}
    (h : Run (Session.Step debug) (Session.initial anchors percent)
      (before ++ [(.write k off new, r)] ++ between ++ [(.read k' off' n, r')]) t)
    (hb : new[i]? = some b)
    (hmoves : Strings.moves (between.flatMap onStrings) (k, off + i) = some (k', off' + j))
    (hj : j < n) : ∃ l, r' = .bytes l ∧ l[j]? = some b := by
  obtain ⟨-, hrun, -⟩ := session_onStrings h inv_initial
  obtain ⟨u, hrun, hread⟩ := hrun.of_snoc
  obtain ⟨v, hwrite, hbetween⟩ := hrun.split
  obtain ⟨w, -, hwrite⟩ := hwrite.of_snoc
  -- the write put the byte where it says, and the calls since took it on
  have hthere : v.1.at_ (k, off + i) = some b := by
    have hwrite : Run Strings.Step w.1 ([] ++ [.write k off new]) v.1 := hwrite.2.1
    obtain ⟨_, -, hstep⟩ := hwrite.of_snoc
    exact Strings.at_of_write hstep hb
  have hnow := Strings.at_of_run (run_of_specRun hbetween) hmoves hthere
  obtain ⟨c, hc, rfl⟩ := hread.1
  refine ⟨_, rfl, ?_⟩
  rw [Strings.at_, hc, Option.bind_some] at hnow
  rw [List.getElem?_take_of_lt hj, List.getElem?_drop, hnow]

/-- The byte written at index 1 is read at index 3 of the other anchor. -/
theorem written_byte_is_read_back_moved : ∃ t l,
    Run (Session.Step true) (Session.initial (fun _ => none) 10)
      ([(.call (.alloc (.only 1) (.only 2) 10 3), .int 1)] ++ [(.write 10 1 [7, 8], .none)] ++
        [(.call (.midextend (.only 5) 10 1 2), .int 1), (.call (.reanchor 11 10), .int 1)] ++
        [(.read 11 2 3, .bytes l)]) t ∧ l[1]? = some 7 := by
  obtain ⟨t, h⟩ := session_moved
  obtain ⟨l, hl, hb⟩ :=
    written_byte_is_read_back true (fun _ => none) 10 (i := 0) (j := 1) h rfl rfl (by decide)
  obtain rfl := Answer.bytes.inj hl
  exact ⟨t, _, h, hb⟩

end Flex

end CBPseudo
