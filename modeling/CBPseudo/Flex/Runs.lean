import CBPseudo.Common.Run
import CBPseudo.Flex.Invariant
import Mathlib.Data.Finset.Card
import Mathlib.Data.List.Dedup

/-!
# The pseudo-flex heap — whole runs

The five operations as the steps of a system. A client names an anchor
that is not registered where a block is to be put and a registered one
elsewhere, and keeps sizes and offsets within the block (`Op.Pre`). Under
the invariant a step then never faults, and `Effect` lists the states it
can end in; the invariant of a run follows from that list.
-/

namespace CBPseudo

open Common

namespace Flex

/-- **An operation**, with the answers the allocators will give it. -/
inductive Op
  /-- `PseudoFlex_alloc`. -/
  | alloc (recordAlloc blockAlloc : Allocator) (anchor : FlexPtr) (n : ℤ)
  /-- `PseudoFlex_free`. -/
  | free (anchor : FlexPtr)
  /-- `PseudoFlex_extend`. -/
  | extend (A : Allocator) (anchor : FlexPtr) (newsize : ℤ)
  /-- `PseudoFlex_midextend`. -/
  | midextend (A : Allocator) (anchor : FlexPtr) (at_ by_ : ℤ)
  /-- `PseudoFlex_reanchor`. -/
  | reanchor (to_ from_ : FlexPtr)

/-- What the client promises of a call. -/
def Op.Pre (s : State) : Op → Prop
  | .alloc _ _ anchor n => 0 ≤ n ∧ n ≤ intMax ∧ ¬ Registered anchor s
  | .free anchor => Registered anchor s
  | .extend _ anchor newsize => 0 ≤ newsize ∧ newsize ≤ intMax ∧ Registered anchor s
  | .midextend _ anchor at_ by_ => Registered anchor s ∧ ∀ pfr, findAnchor anchor s = some pfr →
      0 ≤ at_ ∧ at_ ≤ pfr.val.size ∧ -by_ ≤ at_ ∧ pfr.val.size + by_ ≤ intMax
  | .reanchor to_ from_ => Registered from_ s ∧ ¬ Registered to_ s

/-- The call itself. -/
def Op.exec (debug : Bool) (s : State) : Op → Except Fault State
  | .alloc recordAlloc blockAlloc anchor n =>
    Prod.snd <$> pseudoFlexAlloc debug recordAlloc blockAlloc anchor n s
  | .free anchor => pseudoFlexFree debug anchor s
  | .extend A anchor newsize => Prod.snd <$> pseudoFlexExtend debug A anchor newsize s
  | .midextend A anchor at_ by_ => Prod.snd <$> pseudoFlexMidextend debug A anchor at_ by_ s
  | .reanchor to_ from_ => Prod.snd <$> pseudoFlexReanchor debug to_ from_ s

/-- A step: a call that keeps its promise and returns. -/
def Step (debug : Bool) (s : State) (op : Op) (s' : State) : Prop :=
  op.Pre s ∧ op.exec debug s = .ok s'

/-- The anchor a call takes a block away from. -/
def Op.releases : Op → Option FlexPtr
  | .free anchor => some anchor
  | .reanchor _ from_ => some from_
  | _ => none

variable {debug : Bool} {s s' : State} {op : Op} {x : FlexPtr} {anchors : FlexPtr → Option Addr}

/-- **What a step can do.** -/
inductive Effect (s : State) : Op → State → Prop
  /-- The allocator refused, and nothing happened. -/
  | refused {op : Op} : op.releases = none → Effect s op s
  | alloc {ra ba : Allocator} {anchor : FlexPtr} {n : ℤ} {p b : Addr} {c : List UInt8} :
      ¬ Registered anchor s → n ≤ intMax → p ∉ s.records → b ∉ s.heap.live →
      (c.length : ℤ) = n → Effect s (.alloc ra ba anchor n) (s.link p b anchor n c)
  | free {anchor : FlexPtr} {pfr : Item PseudoFlexRecord} {a : Addr} :
      Anchored s anchor pfr a → Effect s (.free anchor) (s.unlink pfr anchor a)
  | extend {A : Allocator} {anchor : FlexPtr} {newsize : ℤ} {pfr : Item PseudoFlexRecord}
      {a b : Addr} :
      Anchored s anchor pfr a → 0 ≤ newsize → newsize ≤ intMax → b ∉ s.heap.live.erase a →
      Effect s (.extend A anchor newsize)
        (s.replace pfr anchor a b (Heap.resize A newsize.toNat (s.heap.bytes a)))
  | midextend {A : Allocator} {anchor : FlexPtr} {at_ by_ : ℤ} {pfr : Item PseudoFlexRecord}
      {a b : Addr} :
      Anchored s anchor pfr a → 0 ≤ at_ → at_ ≤ pfr.val.size → -by_ ≤ at_ →
      pfr.val.size + by_ ≤ intMax → b ∉ s.heap.live.erase a →
      Effect s (.midextend A anchor at_ by_)
        (s.replace pfr anchor a b (midextended A at_ by_ (s.heap.bytes a)))
  | reanchor {to_ from_ : FlexPtr} {pfr : Item PseudoFlexRecord} {a : Addr} :
      Anchored s from_ pfr a → ¬ Registered to_ s →
      Effect s (.reanchor to_ from_) (s.rename pfr to_ from_ a)

/-- **Under the invariant no call faults**, and each does what `Effect`
says. -/
theorem exec_effect (debug : Bool) (hi : Inv s) (hp : op.Pre s) :
    ∃ s', op.exec debug s = .ok s' ∧ Effect s op s' := by
  cases op with
  | alloc ra ba anchor n =>
    obtain ⟨h0, hn, hreg⟩ := hp
    rcases pseudoFlexAlloc_cases debug ra ba anchor s h0 hn with
      he | ⟨p, b, c, hpr, hb, hc, he⟩
    · exact ⟨s, by rw [Op.exec, he]; rfl, .refused rfl⟩
    · exact ⟨_, by rw [Op.exec, he]; rfl, .alloc hreg hn hpr hb hc⟩
  | free anchor =>
    obtain ⟨pfr, a, ha⟩ := hi.anchored_of_registered hp
    exact ⟨_, pseudoFlexFree_eq ha.located, .free ha⟩
  | extend A anchor newsize =>
    obtain ⟨h0, hn, hreg⟩ := hp
    obtain ⟨pfr, a, ha⟩ := hi.anchored_of_registered hreg
    rcases pseudoFlexExtend_cases debug A ha.located h0 hn with he | ⟨b, hb, he⟩
    · exact ⟨s, by rw [Op.exec, he]; rfl, .refused rfl⟩
    · exact ⟨_, by rw [Op.exec, he]; rfl, .extend ha h0 hn hb⟩
  | midextend A anchor at_ by_ =>
    obtain ⟨hreg, hrange⟩ := hp
    obtain ⟨pfr, a, ha⟩ := hi.anchored_of_registered hreg
    -- the promise is about the record that the search finds
    obtain ⟨h0, hle, hby, hmax⟩ := hrange pfr ha.found
    rcases pseudoFlexMidextend_cases debug A ha h0 hle hby hmax with
      he | ⟨b, hb, he⟩
    · exact ⟨s, by rw [Op.exec, he]; rfl, .refused rfl⟩
    · exact ⟨_, by rw [Op.exec, he]; rfl, .midextend ha h0 hle hby hmax hb⟩
  | reanchor to_ from_ =>
    obtain ⟨hreg, hto⟩ := hp
    obtain ⟨pfr, a, ha⟩ := hi.anchored_of_registered hreg
    exact ⟨_, by rw [Op.exec, pseudoFlexReanchor_eq ha.located]; rfl, .reanchor ha hto⟩

/-- A step has one of these effects. -/
theorem Step.effect (h : Step debug s op s') (hi : Inv s) : Effect s op s' := by
  obtain ⟨s'', he, heff⟩ := exec_effect debug hi h.1
  rw [h.2] at he
  exact Except.ok.inj he ▸ heff

/-- **A step preserves the invariant.** -/
theorem Effect.inv (h : Effect s op s') (hi : Inv s) : Inv s' := by
  cases h with
  | refused _ => exact hi
  | alloc hreg hn hp hb hc => exact hi.link hp hb hreg hc hn
  | free ha => exact hi.unlink ha
  | extend ha h0 hn hb =>
    refine hi.replace ha hb ?_
    rw [Heap.length_resize]
    omega
  | midextend ha h0 hle hby hmax hb =>
    refine hi.replace ha hb ?_
    rw [length_midextended h0 (ha.length_eq ▸ hle) hby, ha.length_eq]
    exact hmax
  | reanchor ha hto => exact hi.rename ha hto

/-- A step that takes a block away leaves its anchor null. -/
theorem Effect.anchor_released (h : Effect s op s') (hx : op.releases = some x) :
    s'.anchors x = none := by
  cases h with
  | refused hr => rw [hr] at hx; cases hx
  | alloc _ _ _ _ _ => cases hx
  | free _ => cases hx; exact State.unlink_anchors_self
  | extend _ _ _ _ => cases hx
  | midextend _ _ _ _ _ _ => cases hx
  | reanchor _ _ => cases hx; exact State.rename_anchors_from

/-- Replacing a block leaves the same anchors registered. -/
theorem Inv.registered_replace {anchor : FlexPtr} {pfr : Item PseudoFlexRecord} {a b : Addr}
    {c : List UInt8} (hi : Inv s) (ha : Anchored s anchor pfr a) :
    Registered x (s.replace pfr anchor a b c) ↔ Registered x s := by
  have hpfr := mem_of_findAnchor ha.found
  have hanchor := anchor_of_findAnchor ha.found
  constructor
  · rintro ⟨r, hr, rfl⟩
    rcases (hi.linked.mem_resized ha.located).mp hr with rfl | ⟨hr, -⟩
    · exact ⟨pfr, hpfr, hanchor⟩
    · exact ⟨r, hr, rfl⟩
  · rintro ⟨r, hr, rfl⟩
    by_cases hrp : r = pfr
    · exact ⟨_, (hi.linked.mem_resized ha.located).mpr (Or.inl rfl), by rw [hrp, hanchor]⟩
    · exact ⟨r, (hi.linked.mem_resized ha.located).mpr (Or.inr ⟨hr, hrp⟩), rfl⟩

/-- **Any other step leaves an anchor alone** that is not registered after
it: it was not registered before it, and holds what it held. -/
theorem Effect.anchor_frame (h : Effect s op s') (hi : Inv s) (hx : ¬ Registered x s')
    (hrel : op.releases ≠ some x) : ¬ Registered x s ∧ s'.anchors x = s.anchors x := by
  cases h with
  | refused _ => exact ⟨hx, rfl⟩
  | alloc _ _ _ _ _ =>
    refine ⟨fun ⟨r, hr, he⟩ => hx ⟨r, List.mem_cons_of_mem _ hr, he⟩,
      State.link_anchors_of_ne fun he => hx ⟨_, List.mem_cons_self, he.symm⟩⟩
  | @free anchor pfr a ha =>
    have hne : x ≠ anchor := fun he => hrel (he ▸ rfl)
    refine ⟨fun ⟨r, hr, he⟩ => hx ⟨r, ?_, he⟩, State.unlink_anchors_of_ne hne⟩
    rw [State.unlink, mem_removeItem hi.addrs_nodup]
    refine ⟨hr, fun hraddr => hne ?_⟩
    rw [← he, eq_of_addr_eq hi.addrs_nodup hr (mem_of_findAnchor ha.found) hraddr,
      anchor_of_findAnchor ha.found]
  | @extend A anchor newsize pfr a b ha _ _ _ =>
    rw [hi.registered_replace ha] at hx
    exact ⟨hx, State.replace_anchors_of_ne fun he =>
      hx ⟨pfr, mem_of_findAnchor ha.found, he ▸ anchor_of_findAnchor ha.found⟩⟩
  | @midextend A anchor at_ by_ pfr a b ha _ _ _ _ _ =>
    rw [hi.registered_replace ha] at hx
    exact ⟨hx, State.replace_anchors_of_ne fun he =>
      hx ⟨pfr, mem_of_findAnchor ha.found, he ▸ anchor_of_findAnchor ha.found⟩⟩
  | @reanchor to_ from_ pfr a ha hto =>
    -- `to_` is registered now, and `from_` is what was released
    have hne : x ≠ from_ := fun he => hrel (he ▸ rfl)
    have hmem : ∀ r, r ∈ (s.rename pfr to_ from_ a).blockList ↔ _ := fun r =>
      hi.linked.mem_rename ha.located
    refine ⟨fun ⟨r, hr, he⟩ => hx ⟨r, (hmem r).mpr (Or.inr ⟨hr, ?_⟩), he⟩,
      State.rename_anchors_of_ne (fun he => hx ⟨_, (hmem _).mpr (Or.inl rfl), he.symm⟩) hne⟩
    rintro rfl
    exact hne (he ▸ anchor_of_findAnchor ha.found)

/-! ## Runs -/

variable {ops : List Op}

/-- **Every state of a run keeps the invariant.** -/
theorem inv_of_run (h : Run (Step debug) (initial anchors) ops s) : Inv s :=
  h.invariant inv_initial fun _ _ _ hi hs => (hs.effect hi).inv hi

/-- **A released anchor stays null** until a block is put there again. -/
theorem anchor_null_of_run (h : Run (Step debug) (initial anchors) ops s)
    (hrel : ∃ op ∈ ops, op.releases = some x) (hx : ¬ Registered x s) : s.anchors x = none := by
  have key : Inv s ∧ ((∃ op ∈ ops, op.releases = some x) → ¬ Registered x s →
      s.anchors x = none) := by
    refine h.history (I := fun ops s => Inv s ∧ ((∃ op ∈ ops, op.releases = some x) →
      ¬ Registered x s → s.anchors x = none)) ⟨inv_initial, fun hr => by simp at hr⟩ ?_
    rintro ops t op u ⟨hi, ih⟩ hs
    have heff := hs.effect hi
    refine ⟨heff.inv hi, fun ⟨o, ho, hox⟩ hxu => ?_⟩
    -- the last step released the anchor, or has not touched it
    by_cases hop : op.releases = some x
    · exact heff.anchor_released hop
    · obtain ⟨hxt, hkeep⟩ := heff.anchor_frame hi hxu hop
      rw [hkeep]
      refine ih ⟨o, ?_, hox⟩ hxt
      rcases List.mem_append.mp ho with ho | ho
      · exact ho
      · exact absurd (List.mem_singleton.mp ho ▸ hox) hop
  exact key.2 hrel hx

/-- The blocks of a heap in order are one for each record. -/
theorem Inv.live_card (hi : Inv s) : s.heap.live.card = s.blockList.length := by
  classical
  have hnd : s.blockList.Nodup := List.Nodup.of_map _ hi.addrs_nodup
  rw [← List.toFinset_card_of_nodup hnd]
  symm
  -- each record to the block its anchor holds
  refine Finset.card_bij (fun r _ => (s.anchors r.val.anchor).getD 0) ?_ ?_ ?_
  · intro r hr
    obtain ⟨a, ha, hh, -⟩ := hi.anchored r (List.mem_toFinset.mp hr)
    rw [hh]
    exact ha
  · intro r hr r' hr' he
    obtain ⟨a, -, hh, -⟩ := hi.anchored r (List.mem_toFinset.mp hr)
    obtain ⟨a', -, hh', -⟩ := hi.anchored r' (List.mem_toFinset.mp hr')
    refine hi.block_inj r (List.mem_toFinset.mp hr) r' (List.mem_toFinset.mp hr') ?_
    rw [hh, hh'] at he ⊢
    exact congrArg some he
  · intro a ha
    obtain ⟨r, hr, hh⟩ := hi.owned a ha
    exact ⟨r, List.mem_toFinset.mpr hr, by rw [hh]; rfl⟩

/-- **The heap is in order after every step of every run.** The records
name their anchors apart; each anchor holds a live block of the recorded
size, and no two the same one; the live records and blocks are those of
the list, one each; an anchor whose block was taken away is null unless a
block was put there again; `PseudoFlex_size` answers with the length of
the block; and the next call, whatever it is, does not fault either. -/
theorem flex_run_in_order (debug : Bool) (anchors : FlexPtr → Option Addr) {ops : List Op}
    {s : State} (h : Run (Step debug) (initial anchors) ops s) :
    (s.blockList.map fun r => r.val.anchor).Nodup ∧
    (∀ r ∈ s.blockList, ∃ a ∈ s.heap.live, s.anchors r.val.anchor = some a ∧
      ((s.heap.bytes a).length : ℤ) = r.val.size ∧
      pseudoFlexSize debug r.val.anchor s = .ok r.val.size) ∧
    (s.blockList.Pairwise fun r r' => s.anchors r.val.anchor ≠ s.anchors r'.val.anchor) ∧
    ((addrs s.blockList).Nodup ∧ s.records = (addrs s.blockList).toFinset) ∧
    (s.heap.live.card = s.blockList.length ∧
      ∀ a ∈ s.heap.live, ∃ r ∈ s.blockList, s.anchors r.val.anchor = some a) ∧
    (∀ x, (∃ op ∈ ops, op.releases = some x) → ¬ Registered x s → s.anchors x = none) ∧
    (∀ op : Op, op.Pre s → ∃ s', op.exec debug s = .ok s') := by
  have hi : Inv s := inv_of_run h
  have hnd : s.blockList.Nodup := List.Nodup.of_map _ hi.addrs_nodup
  refine ⟨?_, ?_, ?_, ⟨hi.addrs_nodup, ?_⟩, ⟨hi.live_card, hi.owned⟩, ?_, ?_⟩
  · exact List.Nodup.map_on (fun r hr r' hr' he => hi.anchor_inj r hr r' hr' he) hnd
  · intro r hr
    have hreg : Registered r.val.anchor s := ⟨r, hr, rfl⟩
    obtain ⟨pfr, a, ha⟩ := hi.anchored_of_registered hreg
    obtain rfl := hi.anchor_inj pfr (mem_of_findAnchor ha.found) r hr
      (anchor_of_findAnchor ha.found)
    exact ⟨a, ha.live, ha.holds, ha.length_eq, by rw [pseudoFlexSize_eq ha, ha.length_eq]⟩
  · exact (List.pairwise_iff_forall_sublist.mpr fun {r r'} hsub he => by
      have hmem := hsub.subset
      have hrr := hi.block_inj r (hmem (by simp)) r' (hmem (by simp)) he
      have := hsub.nodup hnd
      simp [hrr] at this)
  · ext p
    rw [hi.mem_records, List.mem_toFinset]
  · intro x hrel hx
    exact anchor_null_of_run h hrel hx
  · intro op hp
    obtain ⟨s', he, -⟩ := exec_effect debug hi hp
    exact ⟨s', he⟩

/-- A block allocated at one anchor and handed to another: the first is
null, and one block is live. -/
theorem flex_run_in_order_reanchored : ∃ s,
    Run (Step true) (initial fun _ => none)
      [.alloc (.only 1) (.only 2) 10 3, .reanchor 11 10] s ∧
    s.anchors 10 = none ∧ s.heap.live.card = 1 := by
  have h : Run (Step true) (initial fun _ => none)
      [.alloc (.only 1) (.only 2) 10 3, .reanchor 11 10] _ :=
    (Run.nil.snoc (a := Op.alloc (.only 1) (.only 2) 10 3)
      ⟨⟨by decide, by decide, by decide⟩, rfl⟩).snoc
      (a := Op.reanchor 11 10) ⟨⟨by decide, by decide⟩, rfl⟩
  obtain ⟨-, -, -, -, hlive, hnull, -⟩ := flex_run_in_order true (fun _ => none) h
  exact ⟨_, h, hnull 10 ⟨.reanchor 11 10, by simp, rfl⟩ (by decide), hlive.1⟩

end Flex

end CBPseudo
