import CBPseudo.Flex.Atomicity

/-!
# The pseudo-flex heap — resizing

What `PseudoFlex_midextend` does to the bytes of a block, and to the
`int`s it computes with. `midextended` gives the bytes of the new block;
they are read off here piece by piece, against the old block. Shrinking
copies into a new block and growing moves within a grown one, and
`PseudoFlex_extend` does neither: the last part compares the two.
-/

namespace CBPseudo

open Common

namespace Flex

variable {debug : Bool} {A B : Allocator} {s s' : State} {anchor : FlexPtr} {at_ by_ : ℤ}
variable {newsize : ℤ} {pfr : Item PseudoFlexRecord} {a : Addr}

/-! ## The bytes -/

section Bytes

variable {c : List UInt8}

/-- Below the point of insertion the bytes are the old ones. -/
theorem take_midextended (h0 : 0 ≤ at_) (hle : at_ ≤ c.length) (hpos : 0 ≤ by_) :
    (midextended A at_ by_ c).take at_.toNat = c.take at_.toNat := by
  rw [midextended, if_neg (by omega), List.take_append_of_le_length ?_, List.take_take,
    Nat.min_eq_left (by omega), Heap.take_resize (by omega) (by omega)]
  rw [List.length_take, Heap.length_resize]
  omega

/-- Above the inserted bytes too. -/
theorem drop_midextended (h0 : 0 ≤ at_) (hle : at_ ≤ c.length) (hpos : 0 ≤ by_) :
    (midextended A at_ by_ c).drop (at_ + by_).toNat = c.drop at_.toNat := by
  have hlen : ((Heap.resize A (c.length + by_.toNat) c).take (at_ + by_).toNat).length =
      (at_ + by_).toNat := by
    rw [List.length_take, Heap.length_resize]
    omega
  rw [midextended, if_neg (by omega), List.drop_left' hlen]

/-- Removing bytes leaves those below and those above. -/
theorem midextended_of_neg (hneg : by_ < 0) :
    midextended A at_ by_ c = c.take (at_ + by_).toNat ++ c.drop at_.toNat := by
  rw [midextended, if_pos hneg]

/-- **At the end of a block** inserting and removing is resizing. -/
theorem midextended_end (h0 : 0 ≤ newsize) :
    midextended A c.length (newsize - c.length) c = Heap.resize A newsize.toNat c := by
  have hend : ((c.length : ℤ) + (newsize - c.length)).toNat = newsize.toNat := by omega
  have htail : c.drop (c.length : ℤ).toNat = [] := List.drop_eq_nil_of_le (by omega)
  unfold midextended
  rw [hend, htail, List.append_nil]
  split
  · rw [Heap.resize_of_ge (by omega)]
  · have hgrown : c.length + (newsize - c.length).toNat = newsize.toNat := by omega
    rw [List.append_nil, hgrown, List.take_of_length_le (by rw [Heap.length_resize])]

end Bytes

/-- **A call that returns 1** has replaced the block by itself with the
bytes inserted or removed. -/
theorem pseudoFlexMidextend_succeeded (h : Anchored s anchor pfr a) (h0 : 0 ≤ at_)
    (hle : at_ ≤ pfr.val.size) (hmin : intMin < by_) (hmax : pfr.val.size + by_ ≤ intMax)
    (hs : pseudoFlexMidextend debug A anchor at_ by_ s = .ok (1, s')) :
    -by_ ≤ at_ ∧ ∃ b, b ∉ s.heap.live.erase a ∧
      s' = s.replace pfr anchor a b (midextended A at_ by_ (s.heap.bytes a)) := by
  by_cases hby : -by_ ≤ at_
  · refine ⟨hby, ?_⟩
    rcases pseudoFlexMidextend_cases debug A h h0 hle hby hmax with he | ⟨b, hb, he⟩
    · rw [he] at hs
      cases hs
    · refine ⟨b, hb, ?_⟩
      rw [he] at hs
      exact ((Prod.mk.inj (Except.ok.inj hs)).2).symm
  · rw [pseudoFlexMidextend_refused debug A h h0 hle hmin (by omega)] at hs
    cases debug <;> cases hs

theorem pseudoFlexExtend_succeeded (h : Located s anchor pfr a) (h0 : 0 ≤ newsize)
    (hn : newsize ≤ intMax) (hs : pseudoFlexExtend debug A anchor newsize s = .ok (1, s')) :
    ∃ b, b ∉ s.heap.live.erase a ∧
      s' = s.replace pfr anchor a b (Heap.resize A newsize.toNat (s.heap.bytes a)) := by
  rcases pseudoFlexExtend_cases debug A h h0 hn with he | ⟨b, hb, he⟩
  · rw [he] at hs
    cases hs
  · refine ⟨b, hb, ?_⟩
    rw [he] at hs
    exact ((Prod.mk.inj (Except.ok.inj hs)).2).symm

/-- **`PseudoFlex_midextend` splices bytes exactly and in bounds.** Where
no bytes before the block are to be removed it faults nowhere, so that
every copy is within its blocks and none overlaps, and returns 0 or 1. If
it returns 1 the anchor holds a new block: with bytes inserted, those below
and above the point of insertion are the old ones; with bytes removed, the
others are left. A removal that begins before the block is refused. -/
theorem midextend_splices (debug : Bool) (A : Allocator) (at_ by_ : ℤ)
    (h : Anchored s anchor pfr a) (h0 : 0 ≤ at_) (hle : at_ ≤ pfr.val.size)
    (hmin : intMin < by_) (hmax : pfr.val.size + by_ ≤ intMax) :
    (-by_ ≤ at_ → ∃ r s', pseudoFlexMidextend debug A anchor at_ by_ s = .ok (r, s') ∧
      (r = 0 ∨ r = 1)) ∧
    (∀ s', pseudoFlexMidextend debug A anchor at_ by_ s = .ok (1, s') →
      ∃ b ∈ s'.heap.live, s'.anchors anchor = some b ∧
        (0 ≤ by_ → ((s'.heap.bytes b).length : ℤ) = pfr.val.size + by_ ∧
          (s'.heap.bytes b).take at_.toNat = (s.heap.bytes a).take at_.toNat ∧
          (s'.heap.bytes b).drop (at_ + by_).toNat = (s.heap.bytes a).drop at_.toNat) ∧
        (by_ < 0 → s'.heap.bytes b =
          (s.heap.bytes a).take (at_ + by_).toNat ++ (s.heap.bytes a).drop at_.toNat)) ∧
    (at_ < -by_ → pseudoFlexMidextend debug A anchor at_ by_ s =
      if debug then .error .assertFailed else .ok (0, s)) := by
  have hle' : at_ ≤ (s.heap.bytes a).length := by rw [h.length_eq]; exact hle
  refine ⟨fun hby => ?_, fun s' hs => ?_, fun hby => ?_⟩
  · rcases pseudoFlexMidextend_cases debug A h h0 hle hby hmax with he | ⟨b, -, he⟩
    · exact ⟨0, s, he, Or.inl rfl⟩
    · exact ⟨1, _, he, Or.inr rfl⟩
  · obtain ⟨hby, b, -, rfl⟩ := pseudoFlexMidextend_succeeded h h0 hle hmin hmax hs
    have hbytes : (s.replace pfr anchor a b (midextended A at_ by_ (s.heap.bytes a))).heap.bytes b =
        midextended A at_ by_ (s.heap.bytes a) := Heap.put_bytes_self
    refine ⟨b, Finset.mem_insert_self b _, State.replace_anchors_self, fun hpos => ?_,
      fun hneg => ?_⟩
    · rw [hbytes, length_midextended h0 hle' hby, h.length_eq]
      exact ⟨rfl, take_midextended h0 hle' hpos, drop_midextended h0 hle' hpos⟩
    · rw [hbytes, midextended_of_neg hneg]
  · exact pseudoFlexMidextend_refused debug A h h0 hle hmin hby

/-- A block of three bytes at anchor 7, for the examples of this file. -/
def threeBytes : State where
  blockList := [⟨1, { size := 3, anchor := 7 }⟩]
  records := {1}
  heap := { live := {2}, bytes := fun _ => [10, 20, 30] }
  anchors := fun x => if x = 7 then some 2 else none

theorem threeBytes_anchored :
    Anchored threeBytes 7 ⟨1, { size := 3, anchor := 7 }⟩ 2 :=
  ⟨rfl, by decide, rfl, by decide, rfl, by decide⟩

/-- Two bytes inserted in front of the last, and two bytes removed there. -/
theorem midextend_splices_three :
    (∃ s', pseudoFlexMidextend true (.only 5) 7 2 2 threeBytes = .ok (1, s') ∧
      (s'.heap.bytes 5).take 2 = [10, 20] ∧ (s'.heap.bytes 5).drop 4 = [30]) ∧
    ∃ s', pseudoFlexMidextend true (.only 5) 7 2 (-2) threeBytes = .ok (1, s') ∧
      s'.heap.bytes 5 = [30] := by
  obtain ⟨-, hgrown, -⟩ := midextend_splices true (.only 5) 2 2
    threeBytes_anchored (by decide) (by decide) (by decide) (by decide)
  obtain ⟨-, hshrunk, -⟩ := midextend_splices true (.only 5) 2 (-2)
    threeBytes_anchored (by decide) (by decide) (by decide) (by decide)
  obtain ⟨b, -, hb, hins, -⟩ := hgrown _ rfl
  obtain ⟨b', -, hb', -, hrem⟩ := hshrunk _ rfl
  obtain rfl : 5 = b := Option.some.inj hb
  obtain rfl : 5 = b' := Option.some.inj hb'
  exact ⟨⟨_, rfl, (hins (by decide)).2.1, (hins (by decide)).2.2⟩, _, rfl, hrem (by decide)⟩

/-! ## The arithmetic -/

/-- **A call goes by what the heap answers**: refused, it answers 0 and does
nothing; granted a block, it answers 1 and ends with that block, of the
length asked for, at the anchor. -/
inductive GoesBy (anchor : FlexPtr) (n : ℕ) (s : State) :
    Except Fault (Option Addr × Heap) → Except Fault (ℤ × State) → Prop
  | refused (heap : Heap) : GoesBy anchor n s (.ok (none, heap)) (.ok (0, s))
  | granted {b : Addr} {heap : Heap} {s' : State} :
      (heap.bytes b).length = n → b ∈ s'.heap.live → s'.anchors anchor = some b →
      (s'.heap.bytes b).length = n → GoesBy anchor n s (.ok (some b, heap)) (.ok (1, s'))

/-- **Exact arithmetic**: no `int` operation of a call overflows, the heap is
asked for exactly the sum and the call goes by its answer, a call that
succeeds records that sum and has a block of that length, and a sum that is
negative or no `int` is refused. -/
structure ExactArithmetic (debug : Bool) (A : Allocator) (anchor : FlexPtr)
    (pfr : Item PseudoFlexRecord) (at_ by_ : ℤ) (s : State) : Prop where
  no_overflow : pseudoFlexMidextend debug A anchor at_ by_ s ≠ .error .intOverflow
  requested : -by_ ≤ at_ → ∃ n : ℕ, (n : ℤ) = pfr.val.size + by_ ∧
    GoesBy anchor n s (s.request A anchor by_ n) (pseudoFlexMidextend debug A anchor at_ by_ s)
  recorded : ∀ s', pseudoFlexMidextend debug A anchor at_ by_ s = .ok (1, s') →
    0 ≤ pfr.val.size + by_ ∧ pseudoFlexSize debug anchor s' = .ok (pfr.val.size + by_) ∧
    ∃ b ∈ s'.heap.live, s'.anchors anchor = some b ∧
      ((s'.heap.bytes b).length : ℤ) = pfr.val.size + by_
  refused : ¬ InInt (pfr.val.size + by_) ∨ pfr.val.size + by_ < 0 →
    pseudoFlexMidextend debug A anchor at_ by_ s =
      if debug then .error .assertFailed else .ok (0, s)

/-- A sum past the greatest `int` overflows, before anything is checked. -/
theorem pseudoFlexMidextend_overflow_sum (h : Anchored s anchor pfr a) (h0 : 0 ≤ at_)
    (hmax : intMax < pfr.val.size + by_) :
    pseudoFlexMidextend debug A anchor at_ by_ s = .error .intOverflow := by
  have hsum : toInt (pfr.val.size + by_) = .error .intOverflow :=
    if_neg fun hin => not_lt.mpr hin.2 hmax
  rw [pseudoFlexMidextend, cassert_of h0, h.found]
  simp only [Option.isSome_some, cassert_of, ok_bind, hsum, error_bind]

/-- The least `int` overflows where it is negated for the test against
`at_`. -/
theorem pseudoFlexMidextend_overflow_neg (h : Anchored s anchor pfr a) (h0 : 0 ≤ at_)
    (hle : at_ ≤ pfr.val.size) :
    pseudoFlexMidextend debug A anchor at_ intMin s = .error .intOverflow := by
  have hsize := h.size_le
  have hneg : toInt (-intMin) = .error .intOverflow := if_neg (by decide)
  have hin : InInt (pfr.val.size + intMin) ∧ InInt (pfr.val.size - at_) := by
    simp only [InInt, intMin, intMax] at hsize ⊢
    omega
  rw [pseudoFlexMidextend, cassert_of h0, h.found]
  simp only [Option.isSome_some, cassert_of, ok_bind, cassert_of hle, toInt_of hin.1,
    toInt_of hin.2, hneg, error_bind]
  rw [if_pos (by decide)]

/-- Where neither overflows the arithmetic is exact. -/
theorem exactArithmetic_of (debug : Bool) (A : Allocator) (h : Anchored s anchor pfr a)
    (h0 : 0 ≤ at_) (hle : at_ ≤ pfr.val.size) (hmin : intMin < by_)
    (hmax : pfr.val.size + by_ ≤ intMax) :
    ExactArithmetic debug A anchor pfr at_ by_ s := by
  have hsize := h.size_le
  have hlen := h.length_eq
  have hlength : -by_ ≤ at_ →
      ((midextended A at_ by_ (s.heap.bytes a)).length : ℤ) = pfr.val.size + by_ := fun hby => by
    rw [length_midextended h0 (by omega) hby, hlen]
  refine ⟨fun he => ?_, fun hby => ?_, fun s' hs => ?_,
    fun hbad => pseudoFlexMidextend_refused debug A h h0 hle hmin ?_⟩
  · by_cases hby : -by_ ≤ at_
    · rcases pseudoFlexMidextend_cases debug A h h0 hle hby hmax with he' | ⟨b, -, he'⟩ <;>
        · rw [he'] at he
          cases he
    · rw [pseudoFlexMidextend_refused debug A h h0 hle hmin (by omega)] at he
      cases debug <;> cases he
  · have hsum : (toSizeT (pfr.val.size + by_) : ℤ) = pfr.val.size + by_ :=
      toSizeT_of_nonneg (by omega) hmax
    refine ⟨toSizeT (pfr.val.size + by_), hsum, ?_⟩
    rcases pseudoFlexMidextend_requests debug A h h0 hle hby hmax with
      ⟨hrequest, he⟩ | ⟨b, heap, -, hrequest, hn, he⟩
    · rw [hrequest, he]
      exact .refused s.heap
    · rw [hrequest, he]
      refine .granted hn (Finset.mem_insert_self b _) State.replace_anchors_self ?_
      rw [State.replace, State.setBlock, Heap.put_bytes_self]
      have := hlength hby
      omega
  · obtain ⟨hby, b, -, rfl⟩ := pseudoFlexMidextend_succeeded h h0 hle hmin hmax hs
    refine ⟨by omega, ?_, b, Finset.mem_insert_self b _, State.replace_anchors_self, ?_⟩
    · rw [pseudoFlexSize_replace h, hlength hby]
    · rw [State.replace, State.setBlock, Heap.put_bytes_self, hlength hby]
  · -- a sum of two `int`s of different signs is too small only where it is negative
    rcases hbad with hbad | hbad
    · by_contra hby
      refine hbad ⟨?_, hmax⟩
      simp only [intMin]
      omega
    · omega

/-- **Resizing arithmetic stays within `int`** exactly where the size does
not grow past the greatest `int` and the least one is not asked for: the
former overflows in the sum, the latter where it is negated. -/
theorem midextend_exact_arithmetic_iff (debug : Bool) (A : Allocator)
    (h : Anchored s anchor pfr a) (h0 : 0 ≤ at_) (hle : at_ ≤ pfr.val.size) (hin : InInt by_) :
    ExactArithmetic debug A anchor pfr at_ by_ s ↔
      intMin < by_ ∧ pfr.val.size + by_ ≤ intMax := by
  constructor
  · intro hexact
    constructor
    · by_contra hmin
      obtain rfl : by_ = intMin := le_antisymm (not_lt.mp hmin) hin.1
      exact hexact.no_overflow (pseudoFlexMidextend_overflow_neg h h0 hle)
    · by_contra hmax
      exact hexact.no_overflow (pseudoFlexMidextend_overflow_sum h h0 (not_le.mp hmax))
  · rintro ⟨hmin, hmax⟩
    exact exactArithmetic_of debug A h h0 hle hmin hmax

/-- Two bytes inserted in front of the last of three: exact. -/
theorem midextend_exact_arithmetic_iff_three :
    ExactArithmetic true (.only 5) 7 ⟨1, { size := 3, anchor := 7 }⟩ 2 2 threeBytes :=
  (midextend_exact_arithmetic_iff true (.only 5) threeBytes_anchored (by decide) (by decide)
    (by decide)).mpr (by decide)

/-- **The least `int` is not refused**: asked to remove 2^31 bytes from the
start of a block of three, the call overflows in the very test that should
refuse it. -/
theorem midextend_least_int_overflows :
    pseudoFlexMidextend false (.only 5) 7 0 intMin threeBytes = .error .intOverflow ∧
    ¬ ExactArithmetic false (.only 5) 7 ⟨1, { size := 3, anchor := 7 }⟩ 0 intMin threeBytes := by
  have hover : pseudoFlexMidextend false (.only 5) 7 0 intMin threeBytes =
      .error .intOverflow := by rfl
  exact ⟨hover, fun hexact => hexact.no_overflow hover⟩

/-! ## The two ways of resizing -/

/-- **An offset below 0** leads out of the block, so a block does not grow
there. -/
theorem pseudoFlexMidextend_below (h : Located s anchor pfr a) (hat : at_ < 0) (hpos : 0 ≤ by_) :
    pseudoFlexMidextend debug A anchor at_ by_ s ≠ .ok (1, s') := by
  intro hs
  rw [pseudoFlexMidextend, h.found] at hs
  obtain ⟨_, -, hs⟩ := bind_eq_ok.mp hs
  obtain ⟨_, -, hs⟩ := bind_eq_ok.mp hs
  obtain ⟨newsize, -, hs⟩ := bind_eq_ok.mp hs
  obtain ⟨copied, -, hs⟩ := bind_eq_ok.mp hs
  obtain ⟨_, -, hs⟩ := bind_eq_ok.mp hs
  rw [if_neg (by omega)] at hs
  obtain ⟨⟨newAddr, heap⟩, -, hs⟩ := bind_eq_ok.mp hs
  cases newAddr with
  | none => cases hs
  | some b =>
    obtain ⟨heap', hmove, -⟩ := bind_eq_ok.mp hs
    have hout : ¬ heap.InBlock b at_ (toSizeT copied) := fun hin => by
      have := hin.2.1
      omega
    rw [Heap.memmove, if_neg fun hc => hout hc.2] at hmove
    cases hmove

/-- **Resized at its end**, a block is what it is once simply resized. -/
theorem pseudoFlexMidextend_end (h : Anchored s anchor pfr a) (h0 : 0 ≤ newsize)
    (hn : newsize ≤ intMax)
    (hs : pseudoFlexMidextend debug B anchor pfr.val.size (newsize - pfr.val.size) s =
      .ok (1, s')) :
    ∃ b, b ∉ s.heap.live.erase a ∧
      s' = s.replace pfr anchor a b (Heap.resize B newsize.toNat (s.heap.bytes a)) := by
  have hsize := h.size_le
  have hlen := h.length_eq
  obtain ⟨-, b, hb, rfl⟩ := pseudoFlexMidextend_succeeded h (by omega) le_rfl
    (by simp only [intMin, intMax] at hsize ⊢; omega) (by omega) hs
  refine ⟨b, hb, ?_⟩
  rw [← hlen, midextended_end h0]

/-- A resized block, read back. -/
theorem replace_resize_bytes (debug : Bool) (A : Allocator) (b : Addr)
    (h : Anchored s anchor pfr a) (h0 : 0 ≤ newsize) {m : ℕ} (hm : (m : ℤ) ≤ newsize)
    (hlen : (m : ℤ) ≤ pfr.val.size) :
    let s' := s.replace pfr anchor a b (Heap.resize A newsize.toNat (s.heap.bytes a))
    b ∈ s'.heap.live ∧ s'.anchors anchor = some b ∧
      pseudoFlexSize debug anchor s' = .ok newsize ∧
      ((s'.heap.bytes b).length : ℤ) = newsize ∧
      (s'.heap.bytes b).take m = (s.heap.bytes a).take m := by
  intro s'
  have hbytes : s'.heap.bytes b = Heap.resize A newsize.toNat (s.heap.bytes a) :=
    Heap.put_bytes_self
  have hlength := h.length_eq
  refine ⟨Finset.mem_insert_self b _, State.replace_anchors_self, ?_, ?_, ?_⟩
  · rw [pseudoFlexSize_replace h, Heap.length_resize, Int.toNat_of_nonneg h0]
  · rw [hbytes, Heap.length_resize, Int.toNat_of_nonneg h0]
  · rw [hbytes, Heap.take_resize (by omega) (by omega)]

/-- **Two ways of resizing agree.** In a state that a build without
assertions reaches, resize a registered block of size `s` to `newsize`, or
insert or remove the difference at its end. Where both succeed the records
are the same and in the same order, the size is `newsize`, as many blocks
are allocated, the bytes that were there and fit are those of the old
block, all of them where nothing was added, and no other block has
changed. -/
theorem resizing_agrees (debug : Bool) (anchors : FlexPtr → Option Addr) {ops : List Op}
    (h : Run ReleaseStep (initial anchors) ops s) (hf : findAnchor anchor s = some pfr)
    (h0 : 0 ≤ newsize) (hn : newsize ≤ intMax) {s₁ s₂ : State}
    (h₁ : pseudoFlexExtend debug A anchor newsize s = .ok (1, s₁))
    (h₂ : pseudoFlexMidextend debug B anchor pfr.val.size (newsize - pfr.val.size) s =
      .ok (1, s₂)) :
    (pseudoFlexSize debug anchor s₁ = .ok newsize ∧
      pseudoFlexSize debug anchor s₂ = .ok newsize) ∧
    (∃ a b₁ b₂, s.anchors anchor = some a ∧ s₁.anchors anchor = some b₁ ∧
      s₂.anchors anchor = some b₂ ∧
      (s₁.heap.bytes b₁).take (min pfr.val.size newsize).toNat =
        (s.heap.bytes a).take (min pfr.val.size newsize).toNat ∧
      (s₂.heap.bytes b₂).take (min pfr.val.size newsize).toNat =
        (s.heap.bytes a).take (min pfr.val.size newsize).toNat ∧
      (newsize ≤ pfr.val.size → s₁.heap.bytes b₁ = s₂.heap.bytes b₂)) ∧
    (s₁.blockList = s₂.blockList ∧ s₁.heap.live.card = s₂.heap.live.card) ∧
    ∀ x ≠ anchor, Registered x s → Untouched x s s₁ ∧ Untouched x s s₂ := by
  have hi := linked_of_release_run h
  -- a size below 0 is an offset below 0
  have hsize : 0 ≤ pfr.val.size := by
    by_contra hneg
    obtain ⟨a, ha, -⟩ := hi.located_of_found hf
    exact pseudoFlexMidextend_below ha (by omega) (by omega) h₂
  obtain ⟨a, ha⟩ := hi.anchored_of_nonneg hf hsize
  have hlen := ha.length_eq
  obtain ⟨b₁, hb₁, rfl⟩ := pseudoFlexExtend_succeeded ha.located h0 hn h₁
  obtain ⟨b₂, hb₂, rfl⟩ := pseudoFlexMidextend_end ha h0 hn h₂
  have hfits : ∀ A, AsSizeT (Heap.resize A newsize.toNat (s.heap.bytes a)).length
      (Heap.resize A newsize.toNat (s.heap.bytes a)).length := fun A =>
    asSizeT_length (by rw [Heap.length_resize]; omega)
  obtain ⟨-, hh₁, hs₁, -, ht₁⟩ := replace_resize_bytes debug A b₁ ha h0
    (m := (min pfr.val.size newsize).toNat) (by omega) (by omega)
  obtain ⟨-, hh₂, hs₂, -, ht₂⟩ := replace_resize_bytes debug B b₂ ha h0
    (m := (min pfr.val.size newsize).toNat) (by omega) (by omega)
  refine ⟨⟨hs₁, hs₂⟩, ⟨a, b₁, b₂, ha.holds, hh₁, hh₂, ht₁, ht₂, fun hle => ?_⟩, ⟨?_, ?_⟩,
    fun x hne hx => ⟨?_, ?_⟩⟩
  · rw [State.replace, State.setBlock, Heap.put_bytes_self, State.replace, State.setBlock,
      Heap.put_bytes_self, Heap.resize_of_ge (by omega), Heap.resize_of_ge (by omega)]
  · simp only [State.replace, State.setBlock, Heap.length_resize]
  · simp only [State.replace, State.setBlock, Heap.put_live, Heap.drop_live,
      Finset.card_insert_of_notMem hb₁, Finset.card_insert_of_notMem hb₂]
  · exact hi.untouched_resized (hi.resized ha.located hb₁ (hfits A)) ha.located hb₁ hx hne
  · exact hi.untouched_resized (hi.resized ha.located hb₂ (hfits B)) ha.located hb₂ hx hne

/-- A block of three bytes cut to one, both ways. -/
theorem resizing_agrees_cut : ∃ s s₁ s₂ b₁ b₂,
    pseudoFlexExtend true (.only 5) 7 1 s = .ok (1, s₁) ∧
    pseudoFlexMidextend true (.only 6) 7 3 (-2) s = .ok (1, s₂) ∧
    s₁.anchors 7 = some b₁ ∧ s₂.anchors 7 = some b₂ ∧
    s₁.heap.bytes b₁ = s₂.heap.bytes b₂ ∧ s₁.heap.live.card = s₂.heap.live.card := by
  let s := (initial fun _ => none).link 1 2 7 3 [0, 0, 0]
  have h : Run ReleaseStep (initial fun _ => none) [.alloc (.only 1) (.only 2) 7 3] s :=
    Run.nil.snoc (a := Op.alloc (.only 1) (.only 2) 7 3) ⟨⟨by decide, by decide⟩, some 1, rfl⟩
  obtain ⟨s₁, h₁⟩ : ∃ s₁, pseudoFlexExtend true (.only 5) 7 1 s = .ok (1, s₁) := ⟨_, rfl⟩
  obtain ⟨s₂, h₂⟩ : ∃ s₂, pseudoFlexMidextend true (.only 6) 7 3 (-2) s = .ok (1, s₂) := ⟨_, rfl⟩
  obtain ⟨-, ⟨a, b₁, b₂, -, hb₁, hb₂, -, -, hsame⟩, ⟨-, hcard⟩, -⟩ :=
    resizing_agrees true (fun _ => none) h
      (show findAnchor 7 s = some ⟨1, { size := 3, anchor := 7 }⟩ from rfl)
      (show (0 : ℤ) ≤ 1 by decide) (by decide) h₁ h₂
  exact ⟨s, s₁, s₂, b₁, b₂, h₁, h₂, hb₁, hb₂, hsame (by decide), hcard⟩

end Flex

end CBPseudo
