import CBPseudo.Common.Stacks
import CBPseudo.Tbox.Model.Objects

/-!
# Object records — stacks

What the list of object records is for: it is a stack of showing marks
for each id (`State.stacks`). Each function that changes the list is an
operation on one of the stacks, or on all, and keeps the records in order
(`State.WF`).
-/

namespace CBPseudo

open Common

namespace Tbox

/-- **The blocks are the records**, one each. -/
structure State.WF (s : State) : Prop where
  nodup : (addrs s.objects).Nodup
  mem_records : ∀ a, a ∈ s.records ↔ a ∈ addrs s.objects

theorem wf_initial : initial.WF where
  nodup := List.nodup_nil
  mem_records := fun a => by simp [initial]

/-- The showing marks of the records of each id, the newest first. -/
def State.stacks (s : State) : Stacks ObjectId Bool :=
  Stacks.ofList PseudoTboxObject.objectId PseudoTboxObject.isShowing (vals s.objects)

@[simp] theorem stacks_initial : initial.stacks = fun _ => [] := rfl

variable {K : Kernel} {s s' : State} {id : ObjectId} {A : Allocator} {a : Addr}

/-- A search by id compares the ids of records. -/
theorem objectIdMatches_eq :
    objectIdMatches id = fun r => decide (id = PseudoTboxObject.objectId r) := rfl

/-- What a search by id finds is the top of the stack. -/
theorem map_isShowing_findItem :
    (findItem (objectIdMatches id) s.objects).map (fun it => it.val.isShowing) =
      (s.stacks id).head? := by
  rw [State.stacks, Stacks.head?_ofList, ← objectIdMatches_eq, ← map_val_findItem, Option.map_map]
  rfl

theorem stacks_of_find_none (h : findItem (objectIdMatches id) s.objects = none) :
    s.stacks id = [] := by
  rw [← List.head?_eq_none_iff, ← map_isShowing_findItem, h, Option.map_none]

/-- The query answers with the top of the stack. -/
theorem isShowing_eq : pseudoToolboxObjectIsShowing id s = (s.stacks id).headD false := by
  rw [List.headD_eq_head?_getD, ← map_isShowing_findItem, pseudoToolboxObjectIsShowing]
  cases findItem (objectIdMatches id) s.objects <;> rfl

/-! ## Records come and go -/

theorem WF.insert (hw : s.WF) (ha : a ∉ s.records) {r : PseudoTboxObject} :
    State.WF { s with objects := ⟨a, r⟩ :: s.objects, records := insert a s.records } where
  nodup := List.nodup_cons.mpr ⟨fun h => ha ((hw.mem_records a).mpr h), hw.nodup⟩
  mem_records := fun b => by
    simp only [Finset.mem_insert, addrs_cons, List.mem_cons, hw.mem_records]

/-- A record put at the head goes on the stack of its id. -/
theorem stacks_cons {r : PseudoTboxObject} {l : List (Item PseudoTboxObject)} {b : Finset Addr} :
    State.stacks { s with objects := ⟨a, r⟩ :: l, records := b } =
      (Stacks.ofList PseudoTboxObject.objectId PseudoTboxObject.isShowing (vals l)).push
        r.objectId r.isShowing :=
  Stacks.ofList_cons

/-- **Recording an object** puts a record, not showing, on its stack. -/
theorem objectCreated_cases (id : ObjectId) (hw : s.WF) (hg : (A.grant s.records).isSome) :
    (pseudoToolboxObjectCreated A id s).WF ∧
      (pseudoToolboxObjectCreated A id s).stacks = s.stacks.push id false := by
  obtain ⟨a, ha⟩ := Option.isSome_iff_exists.mp hg
  rw [pseudoToolboxObjectCreated, ha]
  exact ⟨WF.insert hw (A.fresh ha), stacks_cons⟩

/-- **Dropping a record** takes the newest of its id off, if there is one. -/
theorem objectDeleted_cases (id : ObjectId) (hw : s.WF) :
    ∃ s', pseudoToolboxObjectDeleted id s = .ok s' ∧ s'.WF ∧ s'.stacks = s.stacks.pop id ∧
      s'.saveAs = s.saveAs := by
  unfold pseudoToolboxObjectDeleted
  cases hf : findItem (objectIdMatches id) s.objects with
  | none =>
    exact ⟨s, rfl, hw, (Stacks.pop_of_nil (stacks_of_find_none hf)).symm, rfl⟩
  | some it =>
    have hit : it.addr ∈ addrs s.objects := mem_addrs_of_mem (mem_of_findItem hf)
    have hlive : it.addr ∈ s.records := (hw.mem_records _).mpr hit
    simp only [freeRecord, if_pos hlive]
    refine ⟨_, rfl, ⟨nodup_addrs_removeItem hw.nodup, fun a => ?_⟩, ?_, rfl⟩
    · rw [Finset.mem_erase, hw.mem_records, addrs_removeItem, hw.nodup.mem_erase_iff]
    · rw [State.stacks, vals_removeItem hw.nodup hf, objectIdMatches_eq, Stacks.ofList_eraseP]
      rfl

/-! ## Marks -/

/-- **Marking an object** writes the newest of its records, if there is
one. -/
theorem setShowing_cases (id : ObjectId) (b : Bool) (hw : s.WF) :
    (setShowing id b s).WF ∧ (setShowing id b s).stacks = s.stacks.setTop id b := by
  unfold setShowing
  cases hf : findItem (objectIdMatches id) s.objects with
  | none =>
    exact ⟨hw, (Stacks.setTop_of_nil (stacks_of_find_none hf)).symm⟩
  | some it =>
    refine ⟨⟨?_, fun a => ?_⟩, ?_⟩
    · rw [addrs_modifyItem]
      exact hw.nodup
    · rw [addrs_modifyItem]
      exact hw.mem_records a
    · rw [State.stacks, vals_modifyItem hw.nodup hf]
      exact Stacks.ofList_modifyFirst (fun _ => rfl) (fun _ => rfl)

/-- The record of an object, marked as not showing. -/
def unmarked (it : Item PseudoTboxObject) : Item PseudoTboxObject :=
  { it with val := { it.val with isShowing := false } }

/-- Visiting the records from some point on unmarks those. -/
theorem forEach_resetObjectRecord {before after : List (Item PseudoTboxObject)}
    (hnd : (addrs s.objects).Nodup) (hs : s.objects = before ++ after) :
    forEach resetObjectRecord after s =
      (none, { s with objects := before ++ after.map unmarked }) := by
  induction after generalizing before s with
  | nil =>
    rw [List.append_nil] at hs
    rw [List.map_nil, List.append_nil, ← hs]
    rfl
  | cons it after ih =>
    -- the write lands on the record visited, and on no other
    have hobjects : modifyItem it.addr (fun r => { r with isShowing := false }) s.objects =
        (before ++ [unmarked it]) ++ after := by
      rw [hs] at hnd ⊢
      rw [modifyItem_append_cons hnd, List.append_assoc]
      rfl
    have hstep : resetObjectRecord it s =
        (false, { s with objects := (before ++ [unmarked it]) ++ after }) := by
      rw [resetObjectRecord, hobjects]
    rw [forEach_cons_state hstep, ih ?_ rfl, List.map_cons, List.append_assoc]
    · rfl
    · rw [← hobjects, addrs_modifyItem]
      exact hnd

/-- **A reset** unmarks every record, and resets the recorders. -/
theorem reset_cases (hw : s.WF) :
    (pseudoToolboxReset s).WF ∧
      (pseudoToolboxReset s).stacks = (fun id => (s.stacks id).map fun _ => false) ∧
      (pseudoToolboxReset s).saveAs =
        pseudoSaveasResetBufferFilled (pseudoSaveasResetFileSaveCompleted s.saveAs) := by
  have hall := forEach_resetObjectRecord hw.nodup (List.nil_append s.objects).symm
  have haddrs : addrs (s.objects.map unmarked) = addrs s.objects := by
    rw [addrs, List.map_map]
    rfl
  rw [pseudoToolboxReset, hall]
  refine ⟨⟨?_, fun a => ?_⟩, ?_, rfl⟩
  · show (addrs (s.objects.map unmarked)).Nodup
    rw [haddrs]
    exact hw.nodup
  · show a ∈ s.records ↔ a ∈ addrs (s.objects.map unmarked)
    rw [haddrs]
    exact hw.mem_records a
  · show Stacks.ofList _ _ (vals (s.objects.map unmarked)) = _
    have hvals : vals (s.objects.map unmarked) =
        (vals s.objects).map fun r => { r with isShowing := false } := by
      rw [vals, vals, List.map_map, List.map_map]
      rfl
    rw [hvals]
    exact Stacks.ofList_map (fun _ => rfl) (fun _ => rfl)

/-! ## The client's calls -/

section Calls

variable {σ : Type} {T : ToolboxLib σ} {env env' : σ} {flags : UInt32} {allow : Bool}

/-- An injected error leaves everything as it was. -/
theorem createObject_refused (K : Kernel) (T : ToolboxLib σ) (A : Allocator) (garbage : ObjectId)
    (flags : UInt32) (nameOrTemplate : Addr) (out : Option ObjectId) (s : State) (env : σ) :
    pseudoToolboxCreateObject K T A garbage false flags nameOrTemplate out s env =
      .ok (some (oom K), out, s, env) := by
  unfold pseudoToolboxCreateObject
  cases hg : A.grant s.records with
  | none => rfl
  | some a =>
    simp only [pseudokernFail_false, freeRecord, Finset.mem_insert_self, if_true, ok_bind,
      Finset.erase_insert (A.fresh hg)]

/-- **A creation that is let through** records the id that the Toolbox
returns. -/
theorem createObject_granted (K : Kernel) (T : ToolboxLib σ) (garbage : ObjectId)
    (flags : UInt32) (nameOrTemplate : Addr) (out : Option ObjectId) (env : σ) (hw : s.WF)
    (hg : (A.grant s.records).isSome)
    (hT : T.toolboxCreateObject flags nameOrTemplate garbage env = (none, id, env')) :
    ∃ s', pseudoToolboxCreateObject K T A garbage true flags nameOrTemplate out s env =
        .ok (none, out.map fun _ => id, s', env') ∧
      s'.WF ∧ s'.stacks = s.stacks.push id false ∧ s'.saveAs = s.saveAs := by
  obtain ⟨a, ha⟩ := Option.isSome_iff_exists.mp hg
  rw [pseudoToolboxCreateObject, ha]
  simp only [pseudokernFail_true, hT]
  exact ⟨_, rfl, WF.insert hw (A.fresh ha), stacks_cons, rfl⟩

/-- **A deletion** drops the record, whatever the Toolbox answers. -/
theorem deleteObject_cases (T : ToolboxLib σ) (flags : UInt32) (id : ObjectId) (env : σ)
    (hw : s.WF) :
    ∃ s', pseudoToolboxDeleteObject T flags id s env =
        .ok ((T.toolboxDeleteObject flags id env).1, s', (T.toolboxDeleteObject flags id env).2) ∧
      s'.WF ∧ s'.stacks = s.stacks.pop id ∧ s'.saveAs = s.saveAs := by
  obtain ⟨s', he, hw', hst, hsave⟩ := objectDeleted_cases id hw
  refine ⟨s', ?_, hw', hst, hsave⟩
  rw [pseudoToolboxDeleteObject, he]
  rfl

end Calls

end Tbox

end CBPseudo
