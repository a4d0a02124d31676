import CBPseudo.Common.Leaks
import CBPseudo.Tbox.Creation

/-!
# Object records — ownership

What the functions need of the records in order not to fault, and keep:
that each record of the list is allocated, at an address of its own. It is
less than `State.WF`, which also says that no other record is allocated:
where the Toolbox is initialised again the list is emptied and the records
stay. `State.Owns` accounts for those.
-/

namespace CBPseudo

open Common

namespace Tbox

variable {σ : Type} {K : Kernel} {T : ToolboxLib σ} {A : Allocator} {s s' : State} {env : σ}
variable {id : ObjectId} {b : Bool}

/-- **The list owns its records.** -/
structure State.Owned (s : State) : Prop where
  nodup : (addrs s.objects).Nodup
  allocated : ∀ a ∈ addrs s.objects, a ∈ s.records

theorem State.WF.owned (hw : s.WF) : s.Owned := ⟨hw.nodup, fun a ha => (hw.mem_records a).mpr ha⟩

/-- An empty list owns whatever is allocated. -/
theorem owned_of_nil (h : s.objects = []) : s.Owned := by
  constructor <;> simp [h]

theorem setShowing_saveAs (id : ObjectId) (b : Bool) (s : State) :
    (setShowing id b s).saveAs = s.saveAs := by
  unfold setShowing
  cases findItem (objectIdMatches id) s.objects <;> rfl

theorem objectDeleted_saveAs (h : pseudoToolboxObjectDeleted id s = .ok s') :
    s'.saveAs = s.saveAs := by
  unfold pseudoToolboxObjectDeleted freeRecord at h
  split at h
  · cases h
    rfl
  · split at h
    · cases h
      rfl
    · cases h

theorem objectCreated_saveAs (A : Allocator) (id : ObjectId) (s : State) :
    (pseudoToolboxObjectCreated A id s).saveAs = s.saveAs := by
  unfold pseudoToolboxObjectCreated
  cases A.grant s.records <;> rfl

namespace State.Owned

/-- Other marks, the same records. -/
theorem of_addrs (ho : s.Owned) (haddrs : addrs s'.objects = addrs s.objects)
    (hrecords : s'.records = s.records) : s'.Owned := by
  refine ⟨haddrs ▸ ho.nodup, fun a ha => ?_⟩
  rw [haddrs] at ha
  exact hrecords ▸ ho.allocated a ha

/-- A new record at the head. -/
theorem insert (ho : s.Owned) {a : Addr} (ha : a ∉ s.records) {r : PseudoTboxObject} :
    State.Owned { s with objects := ⟨a, r⟩ :: s.objects, records := insert a s.records } := by
  refine ⟨List.nodup_cons.mpr ⟨fun h => ha (ho.allocated a h), ho.nodup⟩, fun x hx => ?_⟩
  rcases List.mem_cons.mp hx with rfl | hx
  · exact Finset.mem_insert_self _ _
  · exact Finset.mem_insert_of_mem (ho.allocated x hx)

theorem objectCreated (ho : s.Owned) (A : Allocator) (id : ObjectId) :
    (pseudoToolboxObjectCreated A id s).Owned := by
  unfold pseudoToolboxObjectCreated
  cases hg : A.grant s.records with
  | none => exact ho
  | some a => exact ho.insert (A.fresh hg)

/-- **Dropping a record** does not fault. -/
theorem objectDeleted (ho : s.Owned) (id : ObjectId) :
    ∃ s', pseudoToolboxObjectDeleted id s = .ok s' ∧ s'.Owned ∧
      s'.objects = (findItem (objectIdMatches id) s.objects).elim s.objects
        fun it => removeItem it.addr s.objects := by
  unfold pseudoToolboxObjectDeleted
  cases hf : findItem (objectIdMatches id) s.objects with
  | none => exact ⟨s, rfl, ho, rfl⟩
  | some it =>
    have hlive := ho.allocated _ (mem_addrs_of_mem (mem_of_findItem hf))
    simp only [freeRecord, if_pos hlive]
    refine ⟨_, rfl, ⟨nodup_addrs_removeItem ho.nodup, fun a ha => ?_⟩, rfl⟩
    rw [addrs_removeItem, ho.nodup.mem_erase_iff] at ha
    exact Finset.mem_erase.mpr ⟨ha.1, ho.allocated a ha.2⟩

theorem setShowing (ho : s.Owned) (id : ObjectId) (b : Bool) : (setShowing id b s).Owned := by
  unfold Tbox.setShowing
  cases findItem (objectIdMatches id) s.objects with
  | none => exact ho
  | some it =>
    refine ho.of_addrs ?_ rfl
    rw [addrs_modifyItem]

/-- **Marking an object** changes nothing where it has no record, or its
record says so already. -/
theorem setShowing_objects_eq_iff (ho : s.Owned) :
    (Tbox.setShowing id b s).objects = s.objects ↔
      ∀ it, findItem (objectIdMatches id) s.objects = some it → it.val.isShowing = b := by
  unfold Tbox.setShowing
  cases hf : findItem (objectIdMatches id) s.objects with
  | none => simp
  | some it =>
    simp only [modifyItem_eq_self_iff ho.nodup (mem_of_findItem hf), Option.some.injEq,
      forall_eq']
    constructor
    · exact fun h => (congrArg PseudoTboxObject.isShowing h).symm
    · rintro rfl
      rfl

theorem reset_saveAs (ho : s.Owned) : (pseudoToolboxReset s).saveAs =
    pseudoSaveasResetBufferFilled (pseudoSaveasResetFileSaveCompleted s.saveAs) := by
  rw [pseudoToolboxReset, forEach_resetObjectRecord ho.nodup (List.nil_append s.objects).symm]

theorem reset (ho : s.Owned) : (pseudoToolboxReset s).Owned := by
  rw [pseudoToolboxReset, forEach_resetObjectRecord ho.nodup (List.nil_append s.objects).symm]
  refine ho.of_addrs ?_ rfl
  show addrs (s.objects.map unmarked) = addrs s.objects
  rw [addrs, List.map_map]
  rfl

/-- **Creating an object** does not fault; the Toolbox is asked or is not. -/
theorem createObject (ho : s.Owned) (K : Kernel) (T : ToolboxLib σ) (A : Allocator)
    (garbage : ObjectId) (allow : Bool) (flags : UInt32) (nameOrTemplate : Addr)
    (out : Option ObjectId) (env : σ) :
    ∃ e out' s' env', pseudoToolboxCreateObject K T A garbage allow flags nameOrTemplate out s env =
      .ok (e, out', s', env') ∧ s'.Owned ∧
      (env' = env ∨ env' = (T.toolboxCreateObject flags nameOrTemplate garbage env).2.2) := by
  cases hg : A.grant s.records with
  | none =>
    exact ⟨_, _, s, _, createObject_noMemory K T garbage allow flags nameOrTemplate out env hg, ho,
      Or.inl rfl⟩
  | some a =>
    cases allow with
    | false =>
      exact ⟨_, _, s, _, createObject_refused K T A garbage flags nameOrTemplate out s env, ho,
        Or.inl rfl⟩
    | true =>
      rcases hT : T.toolboxCreateObject flags nameOrTemplate garbage env with ⟨_ | e, id, env'⟩
      · exact ⟨_, _, _, _, createObject_succeeded K T garbage flags nameOrTemplate out env hg hT,
          ho.insert (A.fresh hg), Or.inr rfl⟩
      · have hsome : (A.grant s.records).isSome := by rw [hg]; rfl
        exact ⟨_, _, s, _, createObject_failed K T garbage flags nameOrTemplate out env hsome hT,
          ho, Or.inr rfl⟩

end State.Owned

/-! ## Accounts -/

/-- **The list owns its records, and others are lost.** -/
def State.Owns (lost : Set Addr) (s : State) : Prop := Accounts lost (addrs s.objects) s.records

namespace State.Owns

variable {lost : Set Addr}

theorem owned (ho : s.Owns lost) : s.Owned :=
  ⟨ho.nodup, fun a ha => (ho.mem_live a).mpr (Or.inl ha)⟩

/-- Other marks, the same records. -/
theorem of_addrs (ho : s.Owns lost) (haddrs : addrs s'.objects = addrs s.objects)
    (hrecords : s'.records = s.records) : s'.Owns lost := by
  unfold State.Owns
  rw [haddrs, hrecords]
  exact ho

/-- A new record at the head. -/
theorem insert (ho : s.Owns lost) {a : Addr} (ha : a ∉ s.records) {r : PseudoTboxObject} :
    State.Owns lost { s with objects := ⟨a, r⟩ :: s.objects, records := insert a s.records } :=
  Accounts.insert ho ha

theorem objectCreated (ho : s.Owns lost) (A : Allocator) (id : ObjectId) :
    (pseudoToolboxObjectCreated A id s).Owns lost := by
  unfold pseudoToolboxObjectCreated
  cases hg : A.grant s.records with
  | none => exact ho
  | some a => exact ho.insert (A.fresh hg)

/-- Dropping a record frees it. -/
theorem objectDeleted (ho : s.Owns lost) (he : pseudoToolboxObjectDeleted id s = .ok s') :
    s'.Owns lost := by
  unfold pseudoToolboxObjectDeleted freeRecord at he
  split at he
  · cases he
    exact ho
  · rename_i it hf
    split at he
    · cases he
      unfold State.Owns
      rw [addrs_removeItem]
      exact Accounts.erase ho (mem_addrs_of_mem (mem_of_findItem hf))
    · cases he

theorem setShowing (ho : s.Owns lost) (id : ObjectId) (b : Bool) :
    (Tbox.setShowing id b s).Owns lost := by
  unfold Tbox.setShowing
  cases findItem (objectIdMatches id) s.objects with
  | none => exact ho
  | some it =>
    refine ho.of_addrs ?_ rfl
    rw [addrs_modifyItem]

theorem reset (ho : s.Owns lost) : (pseudoToolboxReset s).Owns lost := by
  rw [pseudoToolboxReset, forEach_resetObjectRecord ho.nodup (List.nil_append s.objects).symm]
  refine ho.of_addrs ?_ rfl
  show addrs (s.objects.map unmarked) = addrs s.objects
  rw [addrs, List.map_map]
  rfl

/-- **A creation** keeps its record or gives it back. -/
theorem createObject (ho : s.Owns lost) {garbage : ObjectId} {allow : Bool} {flags : UInt32}
    {nameOrTemplate : Addr} {out out' : Option ObjectId} {e : Option KernelOserror} {env' : σ}
    (he : pseudoToolboxCreateObject K T A garbage allow flags nameOrTemplate out s env =
      .ok (e, out', s', env')) : s'.Owns lost := by
  cases hg : A.grant s.records with
  | none =>
    rw [createObject_noMemory K T garbage allow flags nameOrTemplate out env hg] at he
    cases he
    exact ho
  | some a =>
    cases allow with
    | false =>
      rw [createObject_refused] at he
      cases he
      exact ho
    | true =>
      rcases hT : T.toolboxCreateObject flags nameOrTemplate garbage env with ⟨_ | err, id, env₁⟩
      · rw [createObject_succeeded K T garbage flags nameOrTemplate out env hg hT] at he
        cases he
        exact ho.insert (A.fresh hg)
      · rw [createObject_failed K T garbage flags nameOrTemplate out env (by rw [hg]; rfl) hT] at he
        cases he
        exact ho

end State.Owns

end Tbox

end CBPseudo
