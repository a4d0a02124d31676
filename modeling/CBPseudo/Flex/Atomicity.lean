import CBPseudo.Flex.Runs

/-!
# The pseudo-flex heap — a call that fails

A build without assertions lets a client go further: a size may be
negative, an anchor may have no record, a removal may begin before its
block. A size on record is then only what it became as a `size_t` when the
block was made (`AsSizeT`), and the records, anchors and blocks are tied
together all the same. Each call either answers 0 and leaves the state as
it was, or leaves every block alone whose anchor it does not name.
-/

namespace CBPseudo

open Common

namespace Flex

variable {A ra ba : Allocator} {s s' : State} {op : Op} {x anchor to_ from_ : FlexPtr}
variable {n newsize at_ by_ : ℤ} {pfr : Item PseudoFlexRecord} {a b p : Addr} {c : List UInt8}
variable {fits : ℤ → ℕ → Prop}

/-- A length that is an `int` converted to a `size_t`. -/
def AsSizeT (size : ℤ) (n : ℕ) : Prop := InInt size ∧ n = toSizeT size

/-- A length is that of an `int` that is the length. -/
theorem asSizeT_length (h : (c.length : ℤ) ≤ intMax) : AsSizeT c.length c.length := by
  refine ⟨⟨?_, h⟩, ?_⟩
  · simp only [intMin]
    omega
  · rw [toSizeT_eq_toNat (by omega) h, Int.toNat_natCast]

/-- A record whose size is not negative is in order. -/
theorem Linked.anchored_of_nonneg (hi : Linked AsSizeT s)
    (h : findAnchor anchor s = some pfr) (h0 : 0 ≤ pfr.val.size) :
    ∃ a, Anchored s anchor pfr a := by
  obtain ⟨a, hl, hin, hlen⟩ := hi.located_of_found h
  exact ⟨a, hl.found, hl.record_live, hl.holds, hl.live,
    by rw [hlen, toSizeT_of_nonneg h0 hin.2], hin.2⟩

/-! ## The other blocks -/

/-- **A registered anchor that is left alone**: its record, what it holds,
and the block there are what they were. -/
structure Untouched (x : FlexPtr) (s s' : State) : Prop where
  record : findAnchor x s' = findAnchor x s
  holds : s'.anchors x = s.anchors x
  block : ∃ a ∈ s.heap.live, s.anchors x = some a ∧ a ∈ s'.heap.live ∧
    s'.heap.bytes a = s.heap.bytes a

/-- The anchors a call names. -/
def Op.names : Op → List FlexPtr
  | .alloc _ _ anchor _ => [anchor]
  | .free anchor => [anchor]
  | .extend _ anchor _ => [anchor]
  | .midextend _ anchor _ _ => [anchor]
  | .reanchor to_ from_ => [to_, from_]

namespace Linked

/-- **A frame**: an anchor is left alone where its record is still in the
list, and what was written to the heap are other blocks than its own. -/
theorem untouched (hi : Linked fits s) (hi' : Linked fits s') (hx : Registered x s)
    (hmem : ∀ r ∈ s.blockList, r.val.anchor = x → r ∈ s'.blockList)
    (hholds : s'.anchors x = s.anchors x)
    (hblock : ∀ a ∈ s.heap.live, s.anchors x = some a →
      a ∈ s'.heap.live ∧ s'.heap.bytes a = s.heap.bytes a) : Untouched x s s' := by
  obtain ⟨r, hr, rfl⟩ := hx
  obtain ⟨a, ha, hh, -⟩ := hi.anchored r hr
  refine ⟨?_, hholds, a, ha, hh, hblock a ha hh⟩
  rw [hi.findAnchor_of_mem hr, hi'.findAnchor_of_mem (hmem r hr rfl)]

theorem untouched_refl (hi : Linked fits s) (hx : Registered x s) : Untouched x s s :=
  hi.untouched hi hx (fun _ hr _ => hr) rfl fun _ ha _ => ⟨ha, rfl⟩

/-- Two anchors do not hold one block. -/
theorem ne_block (hi : Linked fits s) (h : Located s anchor pfr a) (hx : Registered x s)
    (hne : x ≠ anchor) (hh : s.anchors x = some b) : b ≠ a := by
  obtain ⟨r, hr, rfl⟩ := hx
  have hanchor := anchor_of_findAnchor h.found
  rintro rfl
  have hrp : r = pfr := hi.block_inj r hr pfr (mem_of_findAnchor h.found)
    (by rw [hanchor, hh, h.holds])
  exact hne (by rw [hrp, hanchor])

theorem untouched_link (hi : Linked fits s) (hi' : Linked fits (s.link p b anchor n c))
    (hb : b ∉ s.heap.live) (hx : Registered x s) (hne : x ≠ anchor) :
    Untouched x s (s.link p b anchor n c) := by
  refine hi.untouched hi' hx (fun r hr _ => List.mem_cons_of_mem _ hr)
    (State.link_anchors_of_ne hne) fun a ha _ => ?_
  have hab : a ≠ b := fun he => hb (he ▸ ha)
  exact ⟨Finset.mem_insert_of_mem ha, Heap.put_bytes_of_ne hab⟩

theorem untouched_unlink (hi : Linked fits s) (hi' : Linked fits (s.unlink pfr anchor a))
    (h : Located s anchor pfr a) (hx : Registered x s) (hne : x ≠ anchor) :
    Untouched x s (s.unlink pfr anchor a) := by
  have hanchor := anchor_of_findAnchor h.found
  refine hi.untouched hi' hx (fun r hr hrx => ?_) (State.unlink_anchors_of_ne hne)
    fun b hb hh => ⟨Finset.mem_erase.mpr ⟨hi.ne_block h hx hne hh, hb⟩, rfl⟩
  rw [State.unlink, mem_removeItem hi.addrs_nodup]
  refine ⟨hr, fun he => hne ?_⟩
  rw [← hrx, eq_of_addr_eq hi.addrs_nodup hr (mem_of_findAnchor h.found) he, hanchor]

theorem untouched_resized (hi : Linked fits s) (hi' : Linked fits (s.resized pfr anchor a b n c))
    (h : Located s anchor pfr a) (hb : b ∉ s.heap.live.erase a) (hx : Registered x s)
    (hne : x ≠ anchor) : Untouched x s (s.resized pfr anchor a b n c) := by
  have hanchor := anchor_of_findAnchor h.found
  refine hi.untouched hi' hx (fun r hr hrx => (hi.mem_resized h).mpr (Or.inr ⟨hr, ?_⟩))
    (State.resized_anchors_of_ne hne) fun b' hb' hh => ?_
  · rintro rfl
    exact hne (hrx.symm.trans hanchor)
  · -- the block is still there once the old one is dropped, so it is not the new one
    have hin : b' ∈ s.heap.live.erase a :=
      Finset.mem_erase.mpr ⟨hi.ne_block h hx hne hh, hb'⟩
    have hbb : b' ≠ b := fun he => hb (he ▸ hin)
    exact ⟨Finset.mem_insert_of_mem hin, Heap.put_bytes_of_ne hbb⟩

theorem untouched_rename (hi : Linked fits s) (hi' : Linked fits (s.rename pfr to_ from_ a))
    (h : Located s from_ pfr a) (hx : Registered x s) (hto : x ≠ to_) (hfrom : x ≠ from_) :
    Untouched x s (s.rename pfr to_ from_ a) := by
  have hanchor := anchor_of_findAnchor h.found
  refine hi.untouched hi' hx (fun r hr hrx => (hi.mem_rename h).mpr (Or.inr ⟨hr, ?_⟩))
    (State.rename_anchors_of_ne hto hfrom) fun b hb _ => ⟨hb, rfl⟩
  rintro rfl
  exact hfrom (hrx.symm.trans hanchor)

end Linked

/-! ## One call -/

/-- What the client promises of a call where assertions are compiled out:
that its arguments are `int`s, that a block is put at an anchor that has
none, and that bytes are inserted or removed within the block. -/
def Op.Admitted (s : State) : Op → Prop
  | .alloc _ _ anchor n => InInt n ∧ ¬ Registered anchor s
  | .free _ => True
  | .extend _ _ newsize => InInt newsize
  | .midextend _ anchor at_ by_ => ∀ pfr, findAnchor anchor s = some pfr →
      0 ≤ at_ ∧ at_ ≤ pfr.val.size ∧ intMin < by_ ∧ pfr.val.size + by_ ≤ intMax
  | .reanchor to_ _ => ¬ Registered to_ s

/-- The call and its answer; freeing has none. -/
def Op.call (debug : Bool) (s : State) : Op → Except Fault (Option ℤ × State)
  | .alloc recordAlloc blockAlloc anchor n =>
    (fun r => (some r.1, r.2)) <$> pseudoFlexAlloc debug recordAlloc blockAlloc anchor n s
  | .free anchor => (fun t => (none, t)) <$> pseudoFlexFree debug anchor s
  | .extend A anchor newsize =>
    (fun r => (some r.1, r.2)) <$> pseudoFlexExtend debug A anchor newsize s
  | .midextend A anchor at_ by_ =>
    (fun r => (some r.1, r.2)) <$> pseudoFlexMidextend debug A anchor at_ by_ s
  | .reanchor to_ from_ =>
    (fun r => (some r.1, r.2)) <$> pseudoFlexReanchor debug to_ from_ s

/-- A step of a build without assertions: a call that returns. -/
def ReleaseStep (s : State) (op : Op) (s' : State) : Prop :=
  op.Admitted s ∧ ∃ r, op.call false s = .ok (r, s')

/-- **An atomic and local call**: it answers 0 or 1 where it answers at
all, 0 having changed nothing, and leaves alone what it does not name. -/
structure Atomic (s : State) (op : Op) (r : Option ℤ) (s' : State) : Prop where
  linked : Linked AsSizeT s'
  answer : r = none ∧ (∃ anchor, op = .free anchor) ∨ r = some 0 ∨ r = some 1
  refused : r = some 0 → s' = s
  frame : ∀ x, Registered x s → x ∉ op.names → Untouched x s s'

/-- A call that answers 0 and does nothing. -/
theorem Atomic.refusal (hi : Linked AsSizeT s) : Atomic s op (some 0) s where
  linked := hi
  answer := Or.inr (Or.inl rfl)
  refused := fun _ => rfl
  frame := fun _ hx _ => hi.untouched_refl hx

/-- A call that has no answer. -/
theorem Atomic.freed (hi' : Linked AsSizeT s')
    (hframe : ∀ x, Registered x s → x ∉ (Op.free anchor).names → Untouched x s s') :
    Atomic s (.free anchor) none s' where
  linked := hi'
  answer := Or.inl ⟨rfl, anchor, rfl⟩
  refused := fun h => by simp at h
  frame := hframe

/-- A call that answers 1. -/
theorem Atomic.success (hi' : Linked AsSizeT s')
    (hframe : ∀ x, Registered x s → x ∉ op.names → Untouched x s s') :
    Atomic s op (some 1) s' where
  linked := hi'
  answer := Or.inr (Or.inr rfl)
  refused := fun h => by simp at h
  frame := hframe

theorem alloc_atomic (hi : Linked AsSizeT s) (hn : InInt n) (hreg : ¬ Registered anchor s) :
    ∃ r s', (Op.alloc ra ba anchor n).call false s = .ok (r, s') ∧
      Atomic s (.alloc ra ba anchor n) r s' := by
  rcases pseudoFlexAlloc_links false ra ba anchor s (fun h => by simp at h) with
    he | ⟨p, b, c, hpr, hb, hc, he⟩
  · exact ⟨_, _, by rw [Op.call, he]; rfl, .refusal hi⟩
  · have hi' := hi.link hpr hb hreg ⟨hn, hc⟩
    refine ⟨_, _, by rw [Op.call, he]; rfl, .success hi' fun x hx hne => ?_⟩
    exact hi.untouched_link hi' hb hx (List.ne_of_not_mem_cons hne)

theorem free_atomic (hi : Linked AsSizeT s) :
    ∃ r s', (Op.free anchor).call false s = .ok (r, s') ∧ Atomic s (.free anchor) r s' := by
  cases hf : findAnchor anchor s with
  | none =>
    exact ⟨none, s, by rw [Op.call, pseudoFlexFree, hf]; rfl, .freed hi
      fun x hx _ => hi.untouched_refl hx⟩
  | some pfr =>
    obtain ⟨a, ha, -⟩ := hi.located_of_found hf
    have hi' := hi.unlink ha
    refine ⟨none, _, by rw [Op.call, pseudoFlexFree_eq ha]; rfl, .freed hi' fun x hx hne => ?_⟩
    exact hi.untouched_unlink hi' ha hx (List.ne_of_not_mem_cons hne)

theorem extend_atomic (hi : Linked AsSizeT s) (hn : InInt newsize) :
    ∃ r s', (Op.extend A anchor newsize).call false s = .ok (r, s') ∧
      Atomic s (.extend A anchor newsize) r s' := by
  cases hf : findAnchor anchor s with
  | none => exact ⟨_, s, by rw [Op.call, pseudoFlexExtend, hf]; rfl, .refusal hi⟩
  | some pfr =>
    obtain ⟨a, ha, -⟩ := hi.located_of_found hf
    rcases pseudoFlexExtend_resizes false A ha (fun h => by simp at h) with
      he | ⟨b, hb, he⟩
    · exact ⟨_, _, by rw [Op.call, he]; rfl, .refusal hi⟩
    · have hfits : AsSizeT newsize (Heap.resize A (toSizeT newsize) (s.heap.bytes a)).length :=
        ⟨hn, Heap.length_resize⟩
      have hi' := hi.resized ha hb hfits
      refine ⟨_, _, by rw [Op.call, he]; rfl, .success hi' fun x hx hne => ?_⟩
      exact hi.untouched_resized hi' ha hb hx (List.ne_of_not_mem_cons hne)

theorem midextend_atomic (hi : Linked AsSizeT s)
    (hp : (Op.midextend A anchor at_ by_).Admitted s) :
    ∃ r s', (Op.midextend A anchor at_ by_).call false s = .ok (r, s') ∧
      Atomic s (.midextend A anchor at_ by_) r s' := by
  cases hf : findAnchor anchor s with
  | none => exact ⟨_, s, by rw [Op.call, pseudoFlexMidextend, hf]; rfl, .refusal hi⟩
  | some pfr =>
    obtain ⟨h0, hle, hmin, hmax⟩ := hp pfr hf
    obtain ⟨a, ha⟩ := hi.anchored_of_nonneg hf (by omega)
    by_cases hby : -by_ ≤ at_
    · rcases pseudoFlexMidextend_cases false A ha h0 hle hby hmax with he | ⟨b, hb, he⟩
      · exact ⟨_, _, by rw [Op.call, he]; rfl, .refusal hi⟩
      · have hlength : ((midextended A at_ by_ (s.heap.bytes a)).length : ℤ) =
            pfr.val.size + by_ := by
          rw [length_midextended h0 (ha.length_eq ▸ hle) hby, ha.length_eq]
        have hi' := hi.resized ha.located hb (asSizeT_length (hlength ▸ hmax))
        refine ⟨_, _, by rw [Op.call, he]; rfl, .success hi' fun x hx hne => ?_⟩
        exact hi.untouched_resized hi' ha.located hb hx (List.ne_of_not_mem_cons hne)
    · -- a removal that begins before the block
      have he := pseudoFlexMidextend_refused false A ha h0 hle hmin (by omega)
      exact ⟨_, _, by rw [Op.call, he]; rfl, .refusal hi⟩

theorem reanchor_atomic (hi : Linked AsSizeT s) (hto : ¬ Registered to_ s) :
    ∃ r s', (Op.reanchor to_ from_).call false s = .ok (r, s') ∧
      Atomic s (.reanchor to_ from_) r s' := by
  cases hf : findAnchor from_ s with
  | none => exact ⟨_, s, by rw [Op.call, pseudoFlexReanchor, hf]; rfl, .refusal hi⟩
  | some pfr =>
    obtain ⟨a, ha, hfits⟩ := hi.located_of_found hf
    have hi' := hi.rename ha hfits hto
    refine ⟨_, _, by rw [Op.call, pseudoFlexReanchor_eq ha]; rfl,
      .success hi' fun x hx hne => ?_⟩
    obtain ⟨hxto, hxfrom⟩ : x ≠ to_ ∧ x ≠ from_ := by simpa [Op.names] using hne
    exact hi.untouched_rename hi' ha hx hxto hxfrom

/-- **Every admitted call is atomic and local.** -/
theorem Op.call_atomic (hi : Linked AsSizeT s) (hp : op.Admitted s) :
    ∃ r s', op.call false s = .ok (r, s') ∧ Atomic s op r s' := by
  cases op with
  | alloc ra ba anchor n => exact alloc_atomic hi hp.1 hp.2
  | free anchor => exact free_atomic hi
  | extend A anchor newsize => exact extend_atomic hi hp
  | midextend A anchor at_ by_ => exact midextend_atomic hi hp
  | reanchor to_ from_ => exact reanchor_atomic hi hp

/-! ## Whole runs -/

variable {ops : List Op} {anchors : FlexPtr → Option Addr}

/-- Every state a build without assertions reaches is tied together. -/
theorem linked_of_release_run (h : Run ReleaseStep (initial anchors) ops s) :
    Linked AsSizeT s := by
  refine h.invariant linked_initial fun t op u hi hs => ?_
  obtain ⟨hp, r, he⟩ := hs
  obtain ⟨r', u', he', hatomic⟩ := Op.call_atomic hi hp
  rw [he] at he'
  cases he'
  exact hatomic.linked

/-- **Flex calls are atomic and local** in every state that a build without
assertions reaches, whatever the allocators refuse. A call the client may
make there returns, and but for freeing it answers 0 or 1. Where it answers
0 the state is the same: the records, the anchors, the blocks, and what is
allocated. Where it answers 1 every registered anchor that it does not name
has kept its record, its address and the bytes of its block. -/
theorem flex_calls_atomic (anchors : FlexPtr → Option Addr) {ops : List Op} {s : State}
    (h : Run ReleaseStep (initial anchors) ops s) {op : Op} (hp : op.Admitted s) :
    ∃ r s', op.call false s = .ok (r, s') ∧
      (r = none ∧ (∃ anchor, op = .free anchor) ∨ r = some 0 ∨ r = some 1) ∧
      (r = some 0 → s' = s) ∧
      (r = some 1 → ∀ x, Registered x s → x ∉ op.names → Untouched x s s') := by
  obtain ⟨r, s', he, hatomic⟩ := Op.call_atomic (linked_of_release_run h) hp
  exact ⟨r, s', he, hatomic.answer, hatomic.refused, fun _ => hatomic.frame⟩

/-- A block at anchor 10 stays while one is put at anchor 11, and the
refusal of the second block gives its record back. -/
theorem flex_calls_atomic_two : ∃ s,
    Run ReleaseStep (initial fun _ => none) [.alloc (.only 1) (.only 2) 10 3] s ∧
    (∃ s', (Op.alloc (.only 3) (.only 4) 11 5).call false s = .ok (some 1, s') ∧
      Untouched 10 s s') ∧
    (Op.alloc (.only 3) .refuse 11 5).call false s = .ok (some 0, s) := by
  let s := (initial fun _ => none).link 1 2 10 3 [0, 0, 0]
  have h : Run ReleaseStep (initial fun _ => none) [.alloc (.only 1) (.only 2) 10 3] s :=
    Run.nil.snoc (a := Op.alloc (.only 1) (.only 2) 10 3)
      ⟨⟨by decide, by decide⟩, some 1, rfl⟩
  have hp : ∀ ba, (Op.alloc (.only 3) ba 11 5).Admitted s := fun _ => ⟨by decide, by decide⟩
  refine ⟨s, h, ?_, ?_⟩
  · obtain ⟨r, s', he, -, -, hframe⟩ := flex_calls_atomic (fun _ => none) h (hp (.only 4))
    obtain ⟨rfl, rfl⟩ := Prod.mk.inj (Except.ok.inj he)
    exact ⟨_, rfl, hframe rfl 10 (by decide) (by decide)⟩
  · obtain ⟨r, s', he, -, hsame, -⟩ := flex_calls_atomic (fun _ => none) h (hp .refuse)
    obtain ⟨rfl, rfl⟩ := Prod.mk.inj (Except.ok.inj he)
    rw [he, hsame rfl]

end Flex

end CBPseudo
