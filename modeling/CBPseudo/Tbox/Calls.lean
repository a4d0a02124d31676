import CBPseudo.Tbox.Records

/-!
# Object records — calls and events

A run of calls as this file sees it is a sequence of events on the
stacks: an id recorded, its newest record dropped, marked as showing or
not, or every mark cleared. `Op.event` reads the event off a call, none
where an error is injected, and `exec_cases` says that the code does what
the event says and nothing else.
-/

namespace CBPseudo

open Common

namespace Tbox

/-! ## Events -/

/-- **What happens to the records.** -/
inductive Event
  /-- An object is recorded. -/
  | record (id : ObjectId)
  /-- The newest record of an object is dropped. -/
  | drop (id : ObjectId)
  /-- An object is shown, or hidden. -/
  | mark (id : ObjectId) (isShowing : Bool)
  /-- Every object counts as not shown. -/
  | clear
  deriving DecidableEq

/-- The stacks after an event. -/
def Event.apply (S : Stacks ObjectId Bool) : Event → Stacks ObjectId Bool
  | .record id => S.push id false
  | .drop id => S.pop id
  | .mark id b => S.setTop id b
  | .clear => fun id => (S id).map fun _ => false

/-! ## Calls -/

/-- **A call**, with the allocator's answer, the error injection's, and
the id the Toolbox is to return. -/
inductive Op
  /-- `pseudo_toolbox_create_object`. -/
  | createObject (A : Allocator) (garbage : ObjectId) (allow : Bool) (flags : UInt32)
      (nameOrTemplate : Addr) (out : Option ObjectId) (id : ObjectId)
  /-- `pseudo_toolbox_object_created`. -/
  | objectCreated (A : Allocator) (id : ObjectId)
  /-- `pseudo_toolbox_object_deleted`. -/
  | objectDeleted (id : ObjectId)
  /-- `pseudo_toolbox_delete_object`. -/
  | deleteObject (flags : UInt32) (id : ObjectId)
  /-- `pseudo_toolbox_show_object`. -/
  | showObject (allow : Bool) (flags : UInt32) (id : ObjectId) (showType : ℤ)
      (type : Option Addr) (parent : ObjectId) (parentComponent : ℤ)
  /-- `pseudo_toolbox_hide_object`. -/
  | hideObject (allow : Bool) (flags : UInt32) (id : ObjectId)
  /-- `pseudo_toolbox_reset`. -/
  | reset

/-- A Toolbox whose calls succeed, and whose next object has a given
id. -/
def ToolboxLib.answering (id : ObjectId) : ToolboxLib Unit where
  toolboxCreateObject := fun _ _ _ _ => (none, id, ())
  toolboxDeleteObject := fun _ _ _ => (none, ())
  toolboxShowObject := fun _ _ _ _ _ _ _ => (none, ())
  toolboxHideObject := fun _ _ _ => (none, ())

/-- The state after a call. -/
def Op.exec (K : Kernel) (s : State) : Op → Except Fault State
  | .createObject A garbage allow flags nameOrTemplate out id => do
    let (_, _, s, _) ← pseudoToolboxCreateObject K (.answering id) A garbage allow flags
      nameOrTemplate out s ()
    .ok s
  | .objectCreated A id => .ok (pseudoToolboxObjectCreated A id s)
  | .objectDeleted id => pseudoToolboxObjectDeleted id s
  | .deleteObject flags id => do
    let (_, s, _) ← pseudoToolboxDeleteObject (.answering id) flags id s ()
    .ok s
  | .showObject allow flags id showType type parent parentComponent =>
    .ok (pseudoToolboxShowObject K (.answering id) allow flags id showType type parent
      parentComponent s ()).2.1
  | .hideObject allow flags id =>
    .ok (pseudoToolboxHideObject K (.answering id) allow flags id s ()).2.1
  | .reset => .ok (pseudoToolboxReset s)

/-- The allocator grants the call the record it asks for. -/
def Op.Granted (s : State) : Op → Prop
  | .createObject A _ _ _ _ _ _ => (A.grant s.records).isSome
  | .objectCreated A _ => (A.grant s.records).isSome
  | _ => True

/-- The event a call comes to: none, where an error is injected. -/
def Op.event : Op → Option Event
  | .createObject _ _ allow _ _ _ id => if allow then some (.record id) else none
  | .objectCreated _ id => some (.record id)
  | .objectDeleted id => some (.drop id)
  | .deleteObject _ id => some (.drop id)
  | .showObject allow _ id _ _ _ _ => if allow then some (.mark id true) else none
  | .hideObject allow _ id => if allow then some (.mark id false) else none
  | .reset => some .clear

/-- The events of a sequence of calls. -/
def history (ops : List Op) : List Event := ops.filterMap Op.event

variable {K : Kernel} {s s' : State} {op : Op}

/-- **A call does what its event says**, and keeps the records in order. -/
theorem exec_cases (K : Kernel) (hw : s.WF) (hg : op.Granted s) :
    ∃ s', op.exec K s = .ok s' ∧ s'.WF ∧
      s'.stacks = op.event.elim s.stacks (Event.apply s.stacks) := by
  cases op with
  | createObject A garbage allow flags nameOrTemplate out id =>
    -- the record allocated first is given back where an error is injected
    cases allow with
    | false =>
      refine ⟨s, ?_, hw, rfl⟩
      rw [Op.exec, createObject_refused]
      rfl
    | true =>
      obtain ⟨s', he, hw', hst, -⟩ := createObject_granted K (.answering id) garbage flags
        nameOrTemplate out () hw hg rfl
      refine ⟨s', ?_, hw', hst⟩
      rw [Op.exec, he]
      rfl
  | objectCreated A id =>
    obtain ⟨hw', hst⟩ := objectCreated_cases id hw hg
    exact ⟨_, rfl, hw', hst⟩
  | objectDeleted id =>
    obtain ⟨s', he, hw', hst, -⟩ := objectDeleted_cases id hw
    exact ⟨s', he, hw', hst⟩
  | deleteObject flags id =>
    obtain ⟨s', he, hw', hst, -⟩ := deleteObject_cases (.answering id) flags id () hw
    refine ⟨s', ?_, hw', hst⟩
    rw [Op.exec, he]
    rfl
  | showObject allow flags id showType type parent parentComponent =>
    cases allow with
    | false => exact ⟨s, rfl, hw, rfl⟩
    | true =>
      obtain ⟨hw', hst⟩ := setShowing_cases id true hw
      exact ⟨_, rfl, hw', hst⟩
  | hideObject allow flags id =>
    cases allow with
    | false => exact ⟨s, rfl, hw, rfl⟩
    | true =>
      obtain ⟨hw', hst⟩ := setShowing_cases id false hw
      exact ⟨_, rfl, hw', hst⟩
  | reset =>
    obtain ⟨hw', hst, -⟩ := reset_cases hw
    exact ⟨_, rfl, hw', hst⟩

/-- A step: a call that is granted its record, and returns. -/
def Step (K : Kernel) (s : State) (op : Op) (s' : State) : Prop :=
  op.Granted s ∧ op.exec K s = .ok s'

theorem Step.cases (h : Step K s op s') (hw : s.WF) :
    s'.WF ∧ s'.stacks = op.event.elim s.stacks (Event.apply s.stacks) := by
  obtain ⟨s'', he, hout⟩ := exec_cases K hw h.1
  rw [h.2] at he
  exact Except.ok.inj he ▸ hout

end Tbox

end CBPseudo
