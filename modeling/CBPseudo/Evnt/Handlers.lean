import CBPseudo.Evnt.Model.Handlers
import Mathlib.Data.List.Perm.Basic

/-!
# Event handler trackers — what each function can do

A function that tracks one kind of handler ends in a state that differs
from the one it began in at that kind's list and at the live blocks only:
`State.update`. What such a change does to the handlers tracked and to
the blocks is said once for all kinds, from the few facts about a kind
that `KindView` collects. The library's own part is `EventLib.Lawful`,
the documented effect of each of its functions on the handlers it holds.
-/

namespace CBPseudo

open Common

namespace Evnt

variable {σ α : Type} {s : State} {env : σ} {K : Kernel} {debug : Bool} {A : Allocator}

/-- The handlers the records say are registered. -/
def State.tracked (s : State) : Registries where
  wimp := vals s.wimpHandlers
  tb := vals s.tbHandlers
  msg := vals s.msgHandlers

/-- The addresses of all the records. -/
def State.recordAddrs (s : State) : List Addr :=
  addrs s.wimpHandlers ++ addrs s.tbHandlers ++ addrs s.msgHandlers

/-- **The blocks are the records**, one each. -/
structure State.WF (s : State) : Prop where
  nodup : s.recordAddrs.Nodup
  mem_blocks : ∀ a, a ∈ s.blocks ↔ a ∈ s.recordAddrs

theorem wf_initial : (initial).WF where
  nodup := by simp [State.recordAddrs, initial]
  mem_blocks := fun a => by simp [State.recordAddrs, initial]

/-- **The blocks are the records, and others that are lost**: those of the
lists that were emptied where the library was initialised again. -/
structure State.Owns (lost : Finset Addr) (s : State) : Prop where
  nodup : s.recordAddrs.Nodup
  mem_blocks : ∀ a, a ∈ s.blocks ↔ a ∈ s.recordAddrs ∨ a ∈ lost
  notMem : ∀ a ∈ lost, a ∉ s.recordAddrs

theorem wf_iff_owns : s.WF ↔ s.Owns ∅ := by
  constructor
  · exact fun hw => ⟨hw.nodup, fun a => by simp [hw.mem_blocks], fun a ha => by simp at ha⟩
  · exact fun ho => ⟨ho.nodup, fun a => by simp [ho.mem_blocks]⟩

/-- **The documented effects of the event library**: a registration that
returns no error adds the handler and one that returns an error adds
nothing; deregistering a handler that is held removes one of it;
deregistering an object's handlers removes them all. -/
structure EventLib.Lawful (L : EventLib σ) : Prop where
  initialise : ∀ b x, (L.eventInitialise b x).1 = none →
    L.held (L.eventInitialise b x).2 = ⟨0, 0, 0⟩
  registerWimp : ∀ h x, L.held (L.eventRegisterWimpHandler h x).2 =
    if (L.eventRegisterWimpHandler h x).1 = none then
      { L.held x with wimp := h ::ₘ (L.held x).wimp } else L.held x
  deregisterWimp : ∀ h x, h ∈ (L.held x).wimp →
    L.held (L.eventDeregisterWimpHandler h x).2 =
      { L.held x with wimp := (L.held x).wimp.erase h }
  deregisterWimpForObject : ∀ id x,
    L.held (L.eventDeregisterWimpHandlersForObject id x).2 =
      { L.held x with wimp := (L.held x).wimp.filter fun h => h.objectId ≠ id }
  registerToolbox : ∀ h x, L.held (L.eventRegisterToolboxHandler h x).2 =
    if (L.eventRegisterToolboxHandler h x).1 = none then
      { L.held x with tb := h ::ₘ (L.held x).tb } else L.held x
  deregisterToolbox : ∀ h x, h ∈ (L.held x).tb →
    L.held (L.eventDeregisterToolboxHandler h x).2 =
      { L.held x with tb := (L.held x).tb.erase h }
  deregisterToolboxForObject : ∀ id x,
    L.held (L.eventDeregisterToolboxHandlersForObject id x).2 =
      { L.held x with tb := (L.held x).tb.filter fun h => h.objectId ≠ id }
  registerMessage : ∀ h x, L.held (L.eventRegisterMessageHandler h x).2 =
    if (L.eventRegisterMessageHandler h x).1 = none then
      { L.held x with msg := h ::ₘ (L.held x).msg } else L.held x
  deregisterMessage : ∀ h x, h ∈ (L.held x).msg →
    L.held (L.eventDeregisterMessageHandler h x).2 =
      { L.held x with msg := (L.held x).msg.erase h }

/-! ## One kind of handler -/

/-- A state with other records of one kind and other live blocks. -/
def State.update (kind : HandlerKind α) (l : List (Item α)) (blocks : Finset Addr) (s : State) :
    State :=
  { kind.set l s with blocks := blocks }

/-- **A record is unlinked and freed**, and nothing else is done. -/
def Frees (kind : HandlerKind α) (s : State) (it : Item α) (s' : State) : Prop :=
  it.addr ∈ s.blocks ∧
    s' = s.update kind (removeItem it.addr (kind.get s)) (s.blocks.erase it.addr)

/-- **How a kind of handler sits in the state**: its part of the
registries, the addresses of the records of other kinds, and how both
stand to a change of its list and of the blocks. -/
structure KindView (kind : HandlerKind α) where
  view : Registries → Multiset α
  put : Multiset α → Registries → Registries
  rest : State → List Addr
  get_update : ∀ (l : List (Item α)) (b : Finset Addr) (s : State), kind.get (s.update kind l b) = l
  set_update : ∀ (l l' : List (Item α)) (b : Finset Addr) (s : State),
    kind.set l' (s.update kind l b) = s.update kind l' b
  update_self : ∀ s : State, s.update kind (kind.get s) s.blocks = s
  set_insert : ∀ (l : List (Item α)) (b : Finset Addr) (s : State),
    kind.set l { s with blocks := b } = s.update kind l b
  get_insert : ∀ (b : Finset Addr) (s : State), kind.get { s with blocks := b } = kind.get s
  blocks_set : ∀ (l : List (Item α)) (s : State), (kind.set l s).blocks = s.blocks
  view_tracked : ∀ s : State, view s.tracked = vals (kind.get s)
  tracked_update : ∀ (l : List (Item α)) (b : Finset Addr) (s : State),
    (s.update kind l b).tracked = put (vals l) s.tracked
  perm : ∀ s : State, s.recordAddrs.Perm (addrs (kind.get s) ++ rest s)
  rest_update : ∀ (l : List (Item α)) (b : Finset Addr) (s : State),
    rest (s.update kind l b) = rest s

/-- Wimp handlers. -/
def wimpView : KindView wimpKind where
  view := Registries.wimp
  put := fun m r => { r with wimp := m }
  rest := fun s => addrs s.tbHandlers ++ addrs s.msgHandlers
  get_update := fun _ _ _ => rfl
  set_update := fun _ _ _ _ => rfl
  update_self := fun _ => rfl
  set_insert := fun _ _ _ => rfl
  get_insert := fun _ _ => rfl
  blocks_set := fun _ _ => rfl
  view_tracked := fun _ => rfl
  tracked_update := fun _ _ _ => rfl
  perm := fun s => by rw [State.recordAddrs, List.append_assoc]; exact List.Perm.refl _
  rest_update := fun _ _ _ => rfl

/-- Toolbox handlers. -/
def tbView : KindView tbKind where
  view := Registries.tb
  put := fun m r => { r with tb := m }
  rest := fun s => addrs s.wimpHandlers ++ addrs s.msgHandlers
  get_update := fun _ _ _ => rfl
  set_update := fun _ _ _ _ => rfl
  update_self := fun _ => rfl
  set_insert := fun _ _ _ => rfl
  get_insert := fun _ _ => rfl
  blocks_set := fun _ _ => rfl
  view_tracked := fun _ => rfl
  tracked_update := fun _ _ _ => rfl
  perm := fun s => by
    rw [State.recordAddrs, ← List.append_assoc]
    exact List.perm_append_comm.append_right _
  rest_update := fun _ _ _ => rfl

/-- Message handlers. -/
def msgView : KindView msgKind where
  view := Registries.msg
  put := fun m r => { r with msg := m }
  rest := fun s => addrs s.wimpHandlers ++ addrs s.tbHandlers
  get_update := fun _ _ _ => rfl
  set_update := fun _ _ _ _ => rfl
  update_self := fun _ => rfl
  set_insert := fun _ _ _ => rfl
  get_insert := fun _ _ => rfl
  blocks_set := fun _ _ => rfl
  view_tracked := fun _ => rfl
  tracked_update := fun _ _ _ => rfl
  perm := fun _ => List.perm_append_comm
  rest_update := fun _ _ _ => rfl

namespace KindView

variable {kind : HandlerKind α} (V : KindView kind) {l l' : List (Item α)}
variable {b b' lost : Finset Addr}

include V

theorem update_update : (s.update kind l b).update kind l' b' = s.update kind l' b' := by
  rw [State.update, V.set_update]
  rfl

/-- The records of a kind have addresses of their own. -/
theorem nodup_addrs (ho : s.Owns lost) : (addrs (kind.get s)).Nodup :=
  (List.nodup_append.mp ((V.perm s).nodup_iff.mp ho.nodup)).1

theorem mem_blocks (ho : s.Owns lost) {a : Addr} :
    a ∈ s.blocks ↔ a ∈ addrs (kind.get s) ∨ a ∈ V.rest s ∨ a ∈ lost := by
  rw [ho.mem_blocks, (V.perm s).mem_iff, List.mem_append, or_assoc]

/-- The block of a record is live. -/
theorem live_of_mem (ho : s.Owns lost) {it : Item α} (hit : it ∈ kind.get s) :
    it.addr ∈ s.blocks :=
  (V.mem_blocks ho).mpr (Or.inl (mem_addrs_of_mem hit))

/-- **What it takes for a change to keep the blocks in order.** -/
theorem owns_update_iff : (s.update kind l b).Owns lost ↔
    (addrs l ++ V.rest s).Nodup ∧ (∀ a, a ∈ b ↔ a ∈ addrs l ∨ a ∈ V.rest s ∨ a ∈ lost) ∧
      ∀ a ∈ lost, a ∉ addrs l ++ V.rest s := by
  have hp := V.perm (s.update kind l b)
  rw [V.get_update, V.rest_update] at hp
  have hmem : ∀ a, a ∈ (s.update kind l b).recordAddrs ∨ a ∈ lost ↔
      a ∈ addrs l ∨ a ∈ V.rest s ∨ a ∈ lost := fun a => by
    rw [hp.mem_iff, List.mem_append, or_assoc]
  constructor
  · exact fun ho => ⟨hp.nodup_iff.mp ho.nodup, fun a => (ho.mem_blocks a).trans (hmem a),
      fun a ha => mt hp.mem_iff.mpr (ho.notMem a ha)⟩
  · exact fun ⟨hnd, hb, hlost⟩ => ⟨hp.nodup_iff.mpr hnd, fun a => (hb a).trans (hmem a).symm,
      fun a ha => mt hp.mem_iff.mp (hlost a ha)⟩

/-- Inserting a record at an address not in use. -/
theorem owns_insert (ho : s.Owns lost) {a : Addr} {h : α} (ha : a ∉ s.blocks) :
    (s.update kind (⟨a, h⟩ :: kind.get s) (insert a s.blocks)).Owns lost := by
  have hnd := (V.perm s).nodup_iff.mp ho.nodup
  rw [V.mem_blocks ho, ← or_assoc, not_or, ← List.mem_append] at ha
  rw [V.owns_update_iff]
  refine ⟨List.nodup_cons.mpr ⟨ha.1, hnd⟩, fun x => ?_, fun x hx => ?_⟩
  · rw [Finset.mem_insert, V.mem_blocks ho, addrs_cons, List.mem_cons, or_assoc]
  · rw [addrs_cons, List.cons_append, List.mem_cons, ← (V.perm s).mem_iff, not_or]
    exact ⟨fun he : x = a => ha.2 (he ▸ hx), ho.notMem x hx⟩

/-- Removing the record at an address. -/
theorem owns_remove (ho : s.Owns lost) {it : Item α} (hit : it ∈ kind.get s) :
    (s.update kind (removeItem it.addr (kind.get s)) (s.blocks.erase it.addr)).Owns lost := by
  have hnd := (V.perm s).nodup_iff.mp ho.nodup
  have hin : it.addr ∈ addrs (kind.get s) := mem_addrs_of_mem hit
  have hlost : ∀ x ∈ lost, x ∉ addrs (kind.get s) ++ V.rest s := fun x hx =>
    mt (V.perm s).mem_iff.mpr (ho.notMem x hx)
  have herase : (addrs (kind.get s)).erase it.addr ++ V.rest s =
      (addrs (kind.get s) ++ V.rest s).erase it.addr := (List.erase_append_left _ hin).symm
  rw [V.owns_update_iff, addrs_removeItem, herase]
  refine ⟨hnd.erase _, fun x => ?_, fun x hx => mt List.mem_of_mem_erase (hlost x hx)⟩
  rw [Finset.mem_erase, V.mem_blocks ho, (V.nodup_addrs ho).mem_erase_iff]
  constructor
  · rintro ⟨hne, hx | hx⟩
    · exact Or.inl ⟨hne, hx⟩
    · exact Or.inr hx
  · rintro (⟨hne, hx⟩ | hx | hx)
    · exact ⟨hne, Or.inl hx⟩
    · -- a record of another kind lives elsewhere, and so does a lost one
      exact ⟨fun he => (List.disjoint_of_nodup_append hnd) hin (he ▸ hx), Or.inr (Or.inl hx)⟩
    · exact ⟨fun he => hlost x hx (List.mem_append_left _ (he ▸ hin)), Or.inr (Or.inr hx)⟩

/-! ## The functions -/

/-- **What unlinking a record and freeing it comes to.** -/
theorem fortifyFree_eq_ok_iff {it : Item α} {s' : State} :
    fortifyFree it.addr (kind.set (removeItem it.addr (kind.get s)) s) = .ok s' ↔
      Frees kind s it s' := by
  rw [fortifyFree, V.blocks_set, Frees]
  by_cases hlive : it.addr ∈ s.blocks
  · rw [if_pos hlive, Except.ok.injEq, eq_comm]
    exact (and_iff_right hlive).symm
  · rw [if_neg hlive]
    constructor
    · intro h
      cases h
    · intro h
      exact absurd h.1 hlive

/-- **Registering**: no memory, an error from the library, or a record at
the head; where there is an error the state is the one before. -/
theorem registerHandler_cases (K : Kernel) (register : α → σ → Option KernelOserror × σ)
    (A : Allocator) (h : α) (s : State) (env : σ) :
    registerHandler K kind register A h s env = .ok (some (oom K), s, env) ∨
    (∃ e, (register h env).1 = some e ∧
      registerHandler K kind register A h s env = .ok (some e, s, (register h env).2)) ∨
    ∃ a, a ∉ s.blocks ∧ (register h env).1 = none ∧
      registerHandler K kind register A h s env =
        .ok (none, s.update kind (⟨a, h⟩ :: kind.get s) (insert a s.blocks),
          (register h env).2) := by
  unfold registerHandler
  cases hg : A.grant s.blocks with
  | none => exact Or.inl rfl
  | some a =>
    have ha : a ∉ s.blocks := A.fresh hg
    rcases hr : register h env with ⟨_ | e, y⟩
    · right; right
      refine ⟨a, ha, rfl, ?_⟩
      simp only [V.get_insert, V.set_insert]
    · -- the record is freed again
      right; left
      refine ⟨e, rfl, ?_⟩
      simp only [fortifyFree, Finset.mem_insert_self, if_true, ok_bind, Finset.erase_insert ha]

omit V in
/-- **Deregistering a handler that has no record** ends the program. -/
theorem deregisterHandler_of_notMem [DecidableEq α] {matches_ : α → α → Bool}
    (hm : ∀ x y, matches_ x y = true ↔ x = y) (deregister : α → σ → Option KernelOserror × σ)
    {h : α} (hmem : h ∉ vals (kind.get s)) :
    deregisterHandler debug kind matches_ deregister h s env =
      .error (if debug then .assertFailed else .abort) := by
  have hnone : findItem (matches_ h) (kind.get s) = none :=
    findItem_eq_none.mpr fun it hit hmt => hmem ((hm h it.val).mp hmt ▸ List.mem_map_of_mem hit)
  rw [deregisterHandler, hnone]
  cases debug <;> rfl

/-- **Deregistering a handler that has one** removes its first. -/
theorem deregisterHandler_of_mem [DecidableEq α] (debug : Bool) {matches_ : α → α → Bool}
    (hm : ∀ x y, matches_ x y = true ↔ x = y) (deregister : α → σ → Option KernelOserror × σ)
    (ho : s.Owns lost) (env : σ) {h : α} (hmem : h ∈ vals (kind.get s)) :
    ∃ it ∈ kind.get s, it.val = h ∧
      vals (removeItem it.addr (kind.get s)) = (vals (kind.get s)).erase h ∧
      deregisterHandler debug kind matches_ deregister h s env =
        .ok ((deregister h env).1, s.update kind (removeItem it.addr (kind.get s))
          (s.blocks.erase it.addr), (deregister h env).2) := by
  obtain ⟨x, hx, hxh⟩ := List.mem_map.mp hmem
  obtain ⟨it, hfind⟩ := Option.isSome_iff_exists.mp
    (findItem_isSome.mpr ⟨x, hx, (hm h x.val).mpr hxh.symm⟩)
  have hit := mem_of_findItem hfind
  have hfree := V.fortifyFree_eq_ok_iff.mpr ⟨V.live_of_mem ho hit, rfl⟩
  refine ⟨it, hit, ((hm h it.val).mp (findItem_prop hfind)).symm, ?_, ?_⟩
  · -- the first match is the first equal record
    rw [vals_removeItem (V.nodup_addrs ho) hfind, List.erase_eq_eraseP]
    congr 1
    ext y
    rw [Bool.eq_iff_iff, hm, beq_iff_eq]
  · rw [deregisterHandler, hfind]
    simp only [Option.isSome_some, cassert_of, ok_bind, hfree]

/-- **What a visit of a record comes to**: it is unlinked and freed if it is
the object's, and nothing is done otherwise. -/
theorem deregisterIfForObject_eq_ok_iff {objectIdOf : α → ObjectId} {objectId : ObjectId}
    {it : Item α} {s' : State} :
    deregisterIfForObject kind objectIdOf objectId it s = .ok (false, s') ↔
      if objectIdOf it.val = objectId then Frees kind s it s' else s' = s := by
  unfold deregisterIfForObject
  by_cases hown : objectIdOf it.val = objectId
  · rw [if_pos hown.symm, if_pos hown, ← V.fortifyFree_eq_ok_iff, bind_eq_ok]
    constructor
    · rintro ⟨s₁, hfree, he⟩
      obtain rfl : s₁ = s' := by simpa using he
      exact hfree
    · intro hfree
      exact ⟨s', hfree, rfl⟩
  · rw [if_neg (Ne.symm hown), if_neg hown]
    constructor
    · intro he
      simpa using he.symm
    · rintro rfl
      rfl

/-- **Visiting the records from some point on** unlinks and frees those of
the object and passes over the others. -/
theorem forEach_deregisterIfForObject (objectIdOf : α → ObjectId) (objectId : ObjectId)
    {before after : List (Item α)} (ho : s.Owns lost) (hget : kind.get s = before ++ after) :
    ∃ b,
      (s.update kind (before ++ after.filter fun it => objectIdOf it.val ≠ objectId) b).Owns lost ∧
      forEach (deregisterIfForObject kind objectIdOf objectId) after s =
        .ok (none, s.update kind
          (before ++ after.filter fun it => objectIdOf it.val ≠ objectId) b) := by
  induction after generalizing before s with
  | nil =>
    refine ⟨s.blocks, ?_⟩
    rw [List.filter_nil, ← hget, V.update_self]
    exact ⟨ho, rfl⟩
  | cons it after ih =>
    by_cases hown : objectIdOf it.val = objectId
    · -- the record goes, and its address is not met again
      have hit : it ∈ kind.get s := by rw [hget]; simp
      have hrem : removeItem it.addr (kind.get s) = before ++ after := by
        have hnd := V.nodup_addrs ho
        rw [hget] at hnd ⊢
        exact removeItem_append_cons hnd
      have ho' := V.owns_remove ho hit
      rw [hrem] at ho'
      obtain ⟨b, hob, he⟩ := ih ho' (V.get_update _ _ _)
      have hstep : deregisterIfForObject kind objectIdOf objectId it s =
          .ok (false, s.update kind (before ++ after) (s.blocks.erase it.addr)) := by
        rw [V.deregisterIfForObject_eq_ok_iff, if_pos hown, ← hrem]
        exact ⟨V.live_of_mem ho hit, rfl⟩
      rw [V.update_update] at hob he
      rw [List.filter_cons_of_neg (by simp [hown]), forEach_cons_state hstep]
      exact ⟨b, hob, he⟩
    · have hget' : kind.get s = (before ++ [it]) ++ after := by rw [hget, List.append_cons]
      obtain ⟨b, hob, he⟩ := ih ho hget'
      have hstep : deregisterIfForObject kind objectIdOf objectId it s = .ok (false, s) := by
        rw [V.deregisterIfForObject_eq_ok_iff, if_neg hown]
      rw [List.filter_cons_of_pos (by simp [hown]), forEach_cons_state hstep,
        List.append_cons]
      exact ⟨b, hob, he⟩

/-- **Deregistering an object's handlers** keeps the others, in order. -/
theorem deregisterHandlersForObject_eq (objectIdOf : α → ObjectId)
    (deregister : ObjectId → σ → Option KernelOserror × σ) (objectId : ObjectId) (ho : s.Owns lost)
    (env : σ) :
    ∃ b, (s.update kind ((kind.get s).filter fun it => objectIdOf it.val ≠ objectId) b).Owns lost ∧
      deregisterHandlersForObject kind objectIdOf deregister objectId s env =
        .ok ((deregister objectId env).1,
          s.update kind ((kind.get s).filter fun it => objectIdOf it.val ≠ objectId) b,
          (deregister objectId env).2) := by
  obtain ⟨b, hob, he⟩ := V.forEach_deregisterIfForObject objectIdOf objectId ho
    (List.nil_append (kind.get s)).symm
  refine ⟨b, hob, ?_⟩
  rw [deregisterHandlersForObject, he]
  rfl

end KindView

end Evnt

end CBPseudo
