import CBPseudo.Evnt.Model.Poll
import CBPseudo.Tbox.Calls

/-!
# Polling — what an event tracks

`print_event` looks at the code of a Toolbox event and at the client's ID
block, and records or drops a record of the object named there. As far as
the records go that is an event of theirs, `World.reported`, or nothing.
-/

namespace CBPseudo

open Common

namespace Evnt

variable {σ : Type} {w : World σ} {A : Allocator} {ec : ℤ} {pb : WimpPollBlock} {id : ObjectId}

/-- What an event says of the object in the ID block. -/
def tracked (eventCode : ℤ) (pollBlock : WimpPollBlock) (id : ObjectId) : Option Tbox.Event :=
  if eventCode = wimpEToolboxEvent then
    if pollBlock.words WimpPollBlock.eventCodeWord = toolboxObjectAutoCreated then
      some (.record id)
    else if pollBlock.words WimpPollBlock.eventCodeWord = toolboxObjectDeleted then
      some (.drop id)
    else none
  else none

/-- **What an event tracks**: nothing, unless the ID block is known. -/
def World.reported (w : World σ) (eventCode : ℤ) (pollBlock : WimpPollBlock) : Option Tbox.Event :=
  w.evnt.clientBlock.bind fun b => tracked eventCode pollBlock (w.idBlocks b).selfId

/-- The ids recorded, once for each record. -/
def recordedIds (w : World σ) : List ObjectId :=
  (vals w.tbox.objects).map Tbox.PseudoTboxObject.objectId

/-- An object has as many records as its stack is high. -/
theorem count_recordedIds : (recordedIds w).count id = (w.tbox.stacks id).length :=
  Stacks.length_ofList.symm

/-! ## An event on its way -/

/-- The block of a Toolbox event. -/
def toolboxEventBlock (eventCode : ℤ) : WimpPollBlock :=
  WimpPollBlock.setWord WimpPollBlock.eventCodeWord eventCode ⟨fun _ => 0⟩

/-- The Toolbox writes the id of an event's object into the client's ID
block, where it has one. -/
def World.naming (id : ObjectId) (w : World σ) : World σ :=
  { w with idBlocks := w.evnt.clientBlock.elim w.idBlocks fun b =>
      Function.update w.idBlocks b ⟨id⟩ }

/-- What an event about an object tracks. -/
def trackedIn (w : World σ) (ec : ℤ) (pb : WimpPollBlock) (id : ObjectId) : Option Tbox.Event :=
  w.evnt.clientBlock.bind fun _ => tracked ec pb id

/-- Naming an object makes it the one that tracking looks at. -/
theorem reported_naming : (w.naming id).reported ec pb = trackedIn w ec pb id := by
  unfold World.reported trackedIn
  cases hb : w.evnt.clientBlock with
  | none => simp [World.naming, hb]
  | some b => simp [World.naming, hb]

/-! ## Tracking -/

/-- The null event tracks nothing. -/
theorem tracked_null : tracked wimpENull pb id = none := by
  simp [tracked, wimpENull, wimpEToolboxEvent]

/-- An event records an object, drops one, or says nothing. -/
theorem tracked_cases : tracked ec pb id = none ∨ (∃ i, tracked ec pb id = some (.record i)) ∨
    ∃ i, tracked ec pb id = some (.drop i) := by
  unfold tracked
  by_cases hec : ec = wimpEToolboxEvent
  · rw [if_pos hec]
    by_cases hcreated : pb.words WimpPollBlock.eventCodeWord = toolboxObjectAutoCreated
    · exact Or.inr (Or.inl ⟨id, if_pos hcreated⟩)
    · rw [if_neg hcreated]
      by_cases hdeleted : pb.words WimpPollBlock.eventCodeWord = toolboxObjectDeleted
      · exact Or.inr (Or.inr ⟨id, if_pos hdeleted⟩)
      · exact Or.inl (if_neg hdeleted)
  · exact Or.inl (if_neg hec)

/-- **What `print_event` comes to**: nothing, or a record of an object the
more or the fewer. -/
theorem printEvent_inv (A : Allocator) (ec : ℤ) (pb : WimpPollBlock) (w : World σ) :
    (w.reported ec pb = none ∧ printEvent A ec pb w = .ok w) ∨
    (∃ id, w.reported ec pb = some (.record id) ∧ printEvent A ec pb w =
      .ok { w with tbox := Tbox.pseudoToolboxObjectCreated A id w.tbox }) ∨
    ∃ id, w.reported ec pb = some (.drop id) ∧ printEvent A ec pb w =
      Tbox.pseudoToolboxObjectDeleted id w.tbox >>= fun t => .ok { w with tbox := t } := by
  unfold printEvent World.reported tracked
  by_cases hec : ec = wimpEToolboxEvent
  · -- a Toolbox event is not a message
    have hmsg : ¬ (ec = wimpEUserMessage ∨ ec = wimpEUserMessageAcknowledge ∨
        ec = wimpEUserMessageRecorded) := by
      rw [hec]
      decide
    rw [if_neg hmsg, if_pos hec]
    cases w.evnt.clientBlock with
    | none => exact .inl ⟨rfl, by split <;> [rfl; (split <;> rfl)]⟩
    | some b =>
      simp only [Option.bind_some, if_pos hec]
      by_cases hcreated : pb.words WimpPollBlock.eventCodeWord = toolboxObjectAutoCreated
      · exact .inr (.inl ⟨_, if_pos hcreated, if_pos hcreated⟩)
      · rw [if_neg hcreated, if_neg hcreated]
        by_cases hdeleted : pb.words WimpPollBlock.eventCodeWord = toolboxObjectDeleted
        · exact .inr (.inr ⟨_, if_pos hdeleted, if_pos hdeleted⟩)
        · exact .inl ⟨if_neg hdeleted, if_neg hdeleted⟩
  · refine .inl ⟨?_, by rw [if_neg hec, ite_self]⟩
    simp only [if_neg hec, Option.bind_fun_none]

/-- **`print_event`** does to the records what the event says, and touches
nothing else. -/
theorem printEvent_cases (ec : ℤ) (pb : WimpPollBlock) (hw : w.tbox.WF)
    (hg : (A.grant w.tbox.records).isSome) :
    ∃ t, printEvent A ec pb w = .ok { w with tbox := t } ∧ t.WF ∧
      t.stacks = (w.reported ec pb).elim w.tbox.stacks (Tbox.Event.apply w.tbox.stacks) := by
  obtain ⟨hnone, he⟩ | ⟨id, hrecord, he⟩ | ⟨id, hdrop, he⟩ := printEvent_inv A ec pb w
  · exact ⟨w.tbox, he, hw, by rw [hnone]; rfl⟩
  · obtain ⟨hw', hst⟩ := Tbox.objectCreated_cases id hw hg
    exact ⟨_, he, hw', by rw [hst, hrecord]; rfl⟩
  · obtain ⟨t, hdelete, hw', hst, -⟩ := Tbox.objectDeleted_cases id hw
    exact ⟨t, by rw [he, hdelete, ok_bind], hw', by rw [hst, hdrop]; rfl⟩

end Evnt

end CBPseudo
