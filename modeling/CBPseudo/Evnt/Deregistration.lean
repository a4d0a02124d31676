import CBPseudo.Evnt.Registry

/-!
# Event handler trackers — all of an object's handlers

An object's handlers can be deregistered by one call, which frees records
in the course of a visit of the list, or by a call for each, which searches
the list for the first equal record. Both come to the same, in whatever
order the latter are made: the records of the object are freed, each once,
and the others stay, in order. The induction is on the handlers still to be
deregistered, which are those of the object's records, in some order.
-/

namespace CBPseudo

open Common

namespace Evnt

variable {σ α : Type} {s : State} {lost : Finset Addr}

/-! ## Freeing records -/

/-- The records of an object. -/
def ofObject (objectIdOf : α → ObjectId) (objectId : ObjectId) (l : List (Item α)) :
    List (Item α) :=
  l.filter fun it => objectIdOf it.val = objectId

/-- **A visit** frees the record if it is the object's, and does nothing
otherwise. -/
def Visits (kind : HandlerKind α) (objectIdOf : α → ObjectId) (objectId : ObjectId) (s : State)
    (it : Item α) (s' : State) : Prop :=
  deregisterIfForObject kind objectIdOf objectId it s = .ok (false, s') ∧
    if objectIdOf it.val = objectId then Frees kind s it s' else s' = s

/-- Deregister handlers, by a call for each. -/
def deregisterEach (deregister : α → State → σ → Except Fault (Option KernelOserror × State × σ)) :
    List α → State → σ → Except Fault (State × σ)
  | [], s, env => .ok (s, env)
  | h :: hs, s, env => do
    let (_, s, env) ← deregister h s env
    deregisterEach deregister hs s env

/-- **A call for one handler** frees a record of it. -/
def FreesOne (kind : HandlerKind α)
    (deregister : α → State → σ → Except Fault (Option KernelOserror × State × σ))
    (t : State × σ) (it : Item α) (t' : State × σ) : Prop :=
  (∃ e, deregister it.val t.1 t.2 = .ok (e, t')) ∧ Frees kind t.1 it t'.1

/-- **All at once is one by one**: a call for an object frees its records,
each in the visit of it, and leaves the others in order; and calls for the
handlers of those records, in any order, free the same records, one a call,
and end in the same state. -/
structure BulkIsEach (kind : HandlerKind α) (objectIdOf : α → ObjectId)
    (deregister : α → State → σ → Except Fault (Option KernelOserror × State × σ))
    (deregisterAll : State → σ → Except Fault (Option KernelOserror × State × σ))
    (objectId : ObjectId) (s : State) (env : σ) (s' : State) : Prop where
  returns : ∃ e env', deregisterAll s env = .ok (e, s', env')
  visits : Run (Visits kind objectIdOf objectId) s (kind.get s) s'
  survivors : kind.get s' = (kind.get s).filter fun it => objectIdOf it.val ≠ objectId
  freed : s'.blocks = s.blocks \ (addrs (ofObject objectIdOf objectId (kind.get s))).toFinset
  each : ∀ hs : List α, hs.Perm (vals (ofObject objectIdOf objectId (kind.get s))) →
    ∃ records env', deregisterEach deregister hs s env = .ok (s', env') ∧
      Run (FreesOne kind deregister) (s, env) records (s', env') ∧ vals records = hs ∧
      records.Perm (ofObject objectIdOf objectId (kind.get s))

/-- What a run of such calls frees. -/
theorem blocks_of_freesOne {kind : HandlerKind α}
    {deregister : α → State → σ → Except Fault (Option KernelOserror × State × σ)}
    {t t' : State × σ} {records : List (Item α)}
    (h : Run (FreesOne kind deregister) t records t') :
    t'.1.blocks = t.1.blocks \ (addrs records).toFinset := by
  refine h.history (I := fun records t' => t'.1.blocks = t.1.blocks \ (addrs records).toFinset)
    (by simp) ?_
  rintro records u it u' ih ⟨-, -, hu'⟩
  rw [hu', State.update, ih]
  ext a
  simp only [addrs, List.map_append, List.map_cons, List.map_nil, List.toFinset_append,
    List.toFinset_cons, List.toFinset_nil, Finset.mem_erase, Finset.mem_sdiff, Finset.mem_union,
    Finset.mem_insert]
  tauto

namespace KindView

variable {kind : HandlerKind α} (V : KindView kind) {objectIdOf : α → ObjectId}
variable {objectId : ObjectId} {l : List (Item α)} {b b' : Finset Addr}

include V

/-- The blocks that the records own say which are live. -/
theorem blocks_unique (ho : (s.update kind l b).Owns lost) (ho' : (s.update kind l b').Owns lost) :
    b = b' := by
  ext a
  rw [(V.owns_update_iff.mp ho).2.1, (V.owns_update_iff.mp ho').2.1]

/-- **One handler of an object deregistered** leaves the others of it, and
the records of other objects. -/
theorem ofObject_removeItem (ho : s.Owns lost) {it : Item α} (hit : it ∈ kind.get s)
    (hown : objectIdOf it.val = objectId) :
    (ofObject objectIdOf objectId (kind.get s)).Perm
        (it :: ofObject objectIdOf objectId (removeItem it.addr (kind.get s))) ∧
      (removeItem it.addr (kind.get s)).filter (fun it => objectIdOf it.val ≠ objectId) =
        (kind.get s).filter fun it => objectIdOf it.val ≠ objectId := by
  have hnd := V.nodup_addrs ho
  refine ⟨?_, filter_removeItem hnd hit (by simp [hown])⟩
  have hperm := (perm_removeItem hnd hit).filter fun it => objectIdOf it.val = objectId
  rwa [List.filter_cons_of_pos (by simp [hown])] at hperm

/-- **Deregistering an object's handlers one by one**, in any order, frees
its records and leaves the others. -/
theorem deregisterEach_eq [DecidableEq α] (debug : Bool) {matches_ : α → α → Bool}
    (hm : ∀ x y, matches_ x y = true ↔ x = y) (deregister : α → σ → Option KernelOserror × σ)
    (ho : s.Owns lost) (env : σ) {hs : List α}
    (hperm : hs.Perm (vals (ofObject objectIdOf objectId (kind.get s)))) :
    ∃ records b env',
      deregisterEach (deregisterHandler debug kind matches_ deregister) hs s env = .ok
        (s.update kind ((kind.get s).filter fun it => objectIdOf it.val ≠ objectId) b, env') ∧
      (s.update kind ((kind.get s).filter fun it => objectIdOf it.val ≠ objectId) b).Owns lost ∧
      Run (FreesOne kind (deregisterHandler debug kind matches_ deregister)) (s, env) records
        (s.update kind ((kind.get s).filter fun it => objectIdOf it.val ≠ objectId) b, env') ∧
      vals records = hs ∧ records.Perm (ofObject objectIdOf objectId (kind.get s)) := by
  induction hs generalizing s env with
  | nil =>
    -- there are none of the object, so all stay
    have hnone : ofObject objectIdOf objectId (kind.get s) = [] :=
      List.map_eq_nil_iff.mp hperm.nil_eq.symm
    have hall : (kind.get s).filter (fun it => objectIdOf it.val ≠ objectId) = kind.get s := by
      rw [List.filter_eq_self]
      intro it hit
      simpa using List.filter_eq_nil_iff.mp hnone it hit
    refine ⟨[], s.blocks, env, ?_⟩
    rw [hall, V.update_self, hnone]
    exact ⟨rfl, ho, Run.nil, rfl, List.Perm.nil⟩
  | cons h hs ih =>
    obtain ⟨x, hx, rfl⟩ := List.mem_map.mp (hperm.subset List.mem_cons_self)
    obtain ⟨hxmem, hxown⟩ := List.mem_filter.mp hx
    -- the record found is an equal one, perhaps not the same
    obtain ⟨it, hit, hval, -, he⟩ :=
      V.deregisterHandler_of_mem debug hm deregister ho env (List.mem_map_of_mem hxmem)
    have hown : objectIdOf it.val = objectId := by
      rw [hval]
      exact of_decide_eq_true hxown
    obtain ⟨hof, hothers⟩ := V.ofObject_removeItem ho hit hown
    have hrest :
        hs.Perm (vals (ofObject objectIdOf objectId (removeItem it.addr (kind.get s)))) := by
      have hboth := hperm.trans (hof.map Item.val)
      rw [List.map_cons, hval] at hboth
      exact hboth.cons_inv
    have ho' := V.owns_remove ho hit
    rw [← V.get_update (removeItem it.addr (kind.get s)) (s.blocks.erase it.addr) s] at hrest
    obtain ⟨records, b, env', heach, hob, hrun, hvals, hrecords⟩ :=
      ih ho' (deregister x.val env).2 hrest
    rw [V.get_update, hothers, V.update_update] at heach hob hrun
    rw [V.get_update] at hrecords
    refine ⟨it :: records, b, env', ?_, hob, ?_, ?_, (hrecords.cons it).trans hof.symm⟩
    · rw [deregisterEach, he, ok_bind]
      exact heach
    · exact Run.cons ⟨⟨_, by rw [hval]; exact he⟩, V.live_of_mem ho hit, rfl⟩ hrun
    · rw [vals_cons, hval, hvals]

/-- **One kind of handler.** -/
theorem bulkIsEach [DecidableEq α] (debug : Bool) {matches_ : α → α → Bool}
    (hm : ∀ x y, matches_ x y = true ↔ x = y) (objectIdOf : α → ObjectId)
    (deregister : α → σ → Option KernelOserror × σ)
    (deregisterAll : ObjectId → σ → Option KernelOserror × σ) (objectId : ObjectId)
    (ho : s.Owns lost) (env : σ) :
    ∃ s', BulkIsEach kind objectIdOf (deregisterHandler debug kind matches_ deregister)
      (deregisterHandlersForObject kind objectIdOf deregisterAll objectId) objectId s env s' := by
  obtain ⟨b, hob, hvisit⟩ := V.forEach_deregisterIfForObject objectIdOf objectId ho
    (List.nil_append (kind.get s)).symm
  rw [List.nil_append] at hob hvisit
  have heach : ∀ hs : List α, hs.Perm (vals (ofObject objectIdOf objectId (kind.get s))) →
      ∃ records env', deregisterEach (deregisterHandler debug kind matches_ deregister) hs s env =
          .ok (s.update kind ((kind.get s).filter fun it => objectIdOf it.val ≠ objectId) b, env') ∧
        Run (FreesOne kind (deregisterHandler debug kind matches_ deregister)) (s, env) records
          (s.update kind ((kind.get s).filter fun it => objectIdOf it.val ≠ objectId) b, env') ∧
        vals records = hs ∧ records.Perm (ofObject objectIdOf objectId (kind.get s)) := by
    intro hs hperm
    obtain ⟨records, b', env', he, hob', hrun, hvals, hrecords⟩ :=
      V.deregisterEach_eq debug hm deregister ho env hperm
    -- the same records are left, and so are the same blocks
    obtain rfl := V.blocks_unique hob hob'
    exact ⟨records, env', he, hrun, hvals, hrecords⟩
  refine ⟨_, ?_, ?_, V.get_update _ _ _, ?_, heach⟩
  · exact ⟨_, _, by rw [deregisterHandlersForObject, hvisit]; rfl⟩
  · exact (forEach_run hvisit).mono fun _ _ _ h =>
      ⟨h, V.deregisterIfForObject_eq_ok_iff.mp h⟩
  · obtain ⟨records, env', -, hrun, -, hrecords⟩ := heach _ (List.Perm.refl _)
    have hfreed : (addrs records).toFinset =
        (addrs (ofObject objectIdOf objectId (kind.get s))).toFinset :=
      List.toFinset_eq_of_perm _ _ (hrecords.map Item.addr)
    rw [blocks_of_freesOne hrun, hfreed]

end KindView

/-- **Bulk deregistration equals one-by-one deregistration**, of Toolbox
handlers and of Wimp handlers, for every object, whatever the records and
however often one is repeated: see `BulkIsEach`. Each record is taken to
have a block of its own. -/
theorem bulk_deregistration_is_each (L : EventLib σ) (debug : Bool) (objectId : ObjectId)
    (ho : s.Owns lost) (env : σ) :
    (∃ s', BulkIsEach tbKind PseudoEventToolboxHandler.objectId
      (pseudoEventDeregisterToolboxHandler L debug)
      (pseudoEventDeregisterToolboxHandlersForObject L objectId) objectId s env s') ∧
    ∃ s', BulkIsEach wimpKind PseudoEventWimpHandler.objectId
      (pseudoEventDeregisterWimpHandler L debug)
      (pseudoEventDeregisterWimpHandlersForObject L objectId) objectId s env s' :=
  ⟨tbView.bulkIsEach debug (fun _ _ => toolboxHandlerMatches_iff) _ _ _ objectId ho env,
    wimpView.bulkIsEach debug (fun _ _ => wimpHandlerMatches_iff) _ _ _ objectId ho env⟩

/-- A handler of object 5 registered twice, another of it, and one of
object 6, which stays. -/
theorem bulk_deregistration_is_each_twice :
    let h : PseudoEventToolboxHandler := ⟨5, 1, ⟨7⟩, 0⟩
    let h' : PseudoEventToolboxHandler := ⟨5, 2, ⟨7⟩, 0⟩
    let other : PseudoEventToolboxHandler := ⟨6, 1, ⟨7⟩, 0⟩
    let s : State := ⟨[], [⟨1, h⟩, ⟨2, h⟩, ⟨3, other⟩, ⟨4, h'⟩], [], none, {1, 2, 3, 4}⟩
    ∃ s' env', deregisterEach (pseudoEventDeregisterToolboxHandler .plain true) [h, h', h] s
        ⟨0, {h, h, other, h'}, 0⟩ = .ok (s', env') ∧
      s'.tbHandlers = [⟨3, other⟩] ∧ s'.blocks = {3} := by
  intro h h' other s
  have ho : s.Owns ∅ := by
    refine ⟨by decide, fun a => ?_, by simp⟩
    simp [s, State.recordAddrs]
  obtain ⟨⟨s', hbulk⟩, -⟩ :=
    bulk_deregistration_is_each .plain true 5 ho ⟨0, {h, h, other, h'}, 0⟩
  obtain ⟨records, env', he, -⟩ := hbulk.each [h, h', h] (by decide)
  refine ⟨s', env', he, hbulk.survivors, ?_⟩
  rw [hbulk.freed]
  decide

end Evnt

end CBPseudo
