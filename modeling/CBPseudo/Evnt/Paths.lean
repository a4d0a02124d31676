import CBPseudo.Evnt.Events
import CBPseudo.Tbox.Scripts

/-!
# The two ways of polling

`pseudo_event_poll` and `pseudo_event_poll_idle` track an event after its
handlers have run, `pseudo_event_wait_for_idle` before they run. One event
is delivered here both ways, to handlers that make the same calls
(`PollLib.delivering`), and `paths_agree_iff` says exactly when the
records come out alike: when what the handlers do to the object of the
event commutes with tracking it.
-/

namespace CBPseudo

open Common

namespace Evnt

/-- Handlers that make the given calls. -/
def runHandlers (K : Kernel) (script : List Tbox.Op) (w : World Unit) :
    Except Fault (Option KernelOserror × World Unit) := do
  let tbox ← script.foldlM (Tbox.Op.exec K) w.tbox
  .ok (none, { w with tbox := tbox })

/-- **One event about one object**: `event_poll` and `event_poll_idle` poll
it and dispatch it to its handlers before they return. -/
def PollLib.delivering (K : Kernel) (ec : ℤ) (pb : WimpPollBlock) (id : ObjectId)
    (script : List Tbox.Op) : PollLib Unit where
  eventGetMask := fun w => (none, 0, w)
  wimpPoll := fun _ _ w => (none, ec, pb, w.naming id)
  eventDispatch := fun _ _ w => runHandlers K script w
  eventPoll := fun _ _ _ w => do
    let (e, w) ← runHandlers K script (w.naming id)
    .ok (e, ec, pb, w)
  eventPollIdle := fun _ _ _ _ w => do
    let (e, w) ← runHandlers K script (w.naming id)
    .ok (e, ec, pb, w)

/-- **Two worlds track alike**: the same ids are recorded, as often, and
the showing query answers alike for every id. -/
def TrackAlike (w w' : World Unit) : Prop :=
  ∀ id, (recordedIds w).count id = (recordedIds w').count id ∧
    Tbox.pseudoToolboxObjectIsShowing id w.tbox = Tbox.pseudoToolboxObjectIsShowing id w'.tbox

/-- When a handler's calls commute with tracking an event. Of an object
recorded: when they do not remove its new record along with all the
others, and leave it not showing. Of an object dropped: `Net.PopCommutes`.
Of any other event: always. -/
def TrackingCommutes (S : Stacks ObjectId Bool) (script : List Tbox.Op) : Option Tbox.Event → Prop
  | some (.record i) =>
    (Tbox.net i script).removed ≤ (S i).length ∧
      (Tbox.net i script).top (false :: S i) = some false
  | some (.drop i) => (Tbox.net i script).PopCommutes (S i)
  | _ => True

/-- **When the two paths come to the same**: the handlers' calls commute
with tracking the event, or come to nothing where the event is the null
event, which is not dispatched while waiting. -/
def Commutes (w : World Unit) (ec : ℤ) (pb : WimpPollBlock) (id : ObjectId)
    (script : List Tbox.Op) : Prop :=
  if ec = wimpENull then
    ∀ i, (Tbox.net i script).pushed.length +
        ((w.tbox.stacks i).length - (Tbox.net i script).removed) = (w.tbox.stacks i).length ∧
      (Tbox.net i script).top (w.tbox.stacks i) = (w.tbox.stacks i).head?
  else
    TrackingCommutes w.tbox.stacks script (trackedIn w ec pb id)

variable {K : Kernel} {A : Allocator} {ec : ℤ} {pb : WimpPollBlock} {id : ObjectId}
variable {script : List Tbox.Op} {w w₁ w₂ : World Unit}

/-- Handlers run without error, and come to `net` for each object. -/
theorem runHandlers_cases (K : Kernel) (hw : w.tbox.WF) (hscript : ∀ op ∈ script, op.Client) :
    ∃ w', runHandlers K script w = .ok (none, w') ∧ w'.tbox.WF ∧
      (∀ ec pb, w'.reported ec pb = w.reported ec pb) ∧
      ∀ i, w'.tbox.stacks i = (Tbox.net i script).run (w.tbox.stacks i) := by
  obtain ⟨t, he, hwt, hst⟩ := Tbox.script_cases K hw hscript
  refine ⟨{ w with tbox := t }, ?_, hwt, fun _ _ => rfl, hst⟩
  rw [runHandlers, he]
  rfl

/-- Alike is alike in the height and the top of every stack. -/
theorem trackAlike_iff : TrackAlike w₁ w₂ ↔
    ∀ id, (w₁.tbox.stacks id).length = (w₂.tbox.stacks id).length ∧
      (w₁.tbox.stacks id).head? = (w₂.tbox.stacks id).head? := by
  refine forall_congr' fun id => ?_
  rw [Tbox.isShowing_eq, Tbox.isShowing_eq, count_recordedIds, count_recordedIds]
  refine and_congr_right fun hlen => ?_
  -- two stacks of one height are both empty or both not
  cases h₁ : w₁.tbox.stacks id with
  | nil =>
    rw [h₁, List.length_nil, eq_comm, List.length_eq_zero_iff] at hlen
    simp [hlen]
  | cons f l =>
    cases h₂ : w₂.tbox.stacks id with
    | nil => rw [h₁, h₂] at hlen; cases hlen
    | cons g m => simp

/-! ## The two paths -/

/-- **Handlers first**, and then tracking. -/
theorem pollAndPrint_delivering (K : Kernel) (ec : ℤ) (pb : WimpPollBlock) (id : ObjectId)
    (hA : A.Generous) (hw : w.tbox.WF) (hscript : ∀ op ∈ script, op.Client) (eventCode : Option ℤ)
    (pollBlock : Option WimpPollBlock) (locals : Locals) :
    ∃ polled w', pollAndPrint K (fun _ _ w => do
        let (e, w) ← runHandlers K script (w.naming id)
        .ok (e, ec, pb, w)) A true eventCode pollBlock locals w = .ok (none, polled, w') ∧
      ∀ S : Stacks ObjectId Bool, (∀ i, S i = (Tbox.net i script).run (w.tbox.stacks i)) →
        w'.tbox.stacks = (trackedIn w ec pb id).elim S (Tbox.Event.apply S) := by
  -- the handlers have run by the time `event_poll` returns
  obtain ⟨w₁, he, hw₁, hrep, hst⟩ := runHandlers_cases (w := w.naming id) K hw hscript
  obtain ⟨t, hp, -, hst'⟩ := printEvent_cases ec pb hw₁ (hA w₁.tbox.records)
  refine ⟨⟨eventCode.map fun _ => ec, pollBlock.map fun _ => pb⟩, { w₁ with tbox := t }, ?_,
    fun S hS => ?_⟩
  · unfold pollAndPrint
    simp only [pseudokernFail_true, he, ok_bind, hp]
  · have hS₁ : S = w₁.tbox.stacks := funext fun i => (hS i).trans (hst i).symm
    rw [hrep, reported_naming] at hst'
    rw [hS₁]
    exact hst'

/-- **Tracking first**, and then the handlers; the null event is neither
tracked nor dispatched. -/
theorem waitForIdleBody_delivering (K : Kernel) (ec : ℤ) (pb : WimpPollBlock) (id : ObjectId)
    (hA : A.Generous) (hw : w.tbox.WF) (hscript : ∀ op ∈ script, op.Client) (eventCode : ℤ) :
    ∃ w' calls, waitForIdleBody (.delivering K ec pb id script) A eventCode w =
        .ok (none, ec, w', calls) ∧
      ∀ i, w'.tbox.stacks i = if ec = wimpENull then w.tbox.stacks i else
        (Tbox.net i script).run
          ((trackedIn w ec pb id).elim w.tbox.stacks (Tbox.Event.apply w.tbox.stacks) i) := by
  by_cases hnull : ec = wimpENull
  · refine ⟨w.naming id, [.getMask none 0, .poll (0 &&& ~~~wimpPollNullMask) none ec pb], ?_,
      fun i => ?_⟩
    · simp only [waitForIdleBody, PollLib.delivering, hnull, ne_eq, not_true_eq_false, if_false]
    · rw [if_pos hnull]
      rfl
  · -- `print_event` first, so the handlers see the records it leaves
    obtain ⟨t, hp, hwt, hst⟩ :=
      printEvent_cases (w := w.naming id) ec pb hw (hA w.tbox.records)
    obtain ⟨w₂, he, -, -, hst₂⟩ :=
      runHandlers_cases (w := { w.naming id with tbox := t }) K hwt hscript
    refine ⟨w₂, [.getMask none 0, .poll (0 &&& ~~~wimpPollNullMask) none ec pb, .print ec pb,
      .dispatch ec pb none], ?_, fun i => ?_⟩
    · simp only [waitForIdleBody, PollLib.delivering, ne_eq, hnull, not_false_eq_true, if_true, hp,
        ok_bind, he]
    · rw [if_neg hnull, hst₂ i]
      show (Tbox.net i script).run (t.stacks i) = _
      rw [hst, reported_naming]
      rfl

/-- **The two orders compared for an event about one object**: only the
stack of that object can tell them apart. -/
theorem orders_agree_iff_self (S : Stacks ObjectId Bool) {e : Tbox.Event} {j : ObjectId}
    {f : List Bool → List Bool} (hself : ∀ T : Stacks ObjectId Bool, e.apply T j = f (T j))
    (hother : ∀ (T : Stacks ObjectId Bool) i, i ≠ j → e.apply T i = T i)
    {H H' : Stacks ObjectId Bool} (hH : ∀ i, H i = (Tbox.net i script).run (S i))
    (hH' : ∀ i, H' i = (Tbox.net i script).run (e.apply S i)) :
    (∀ i, (e.apply H i).length = (H' i).length ∧ (e.apply H i).head? = (H' i).head?) ↔
      (f ((Tbox.net j script).run (S j))).length =
          ((Tbox.net j script).run (f (S j))).length ∧
        (f ((Tbox.net j script).run (S j))).head? =
          ((Tbox.net j script).run (f (S j))).head? := by
  constructor
  · intro hall
    have hj := hall j
    rwa [hH' j, hself, hself, hH j] at hj
  · intro hj i
    by_cases hi : i = j
    · subst hi
      rw [hH' i, hself, hself, hH i]
      exact hj
    · rw [hH' i, hother H i hi, hother S i hi, hH i]
      exact ⟨rfl, rfl⟩

/-- **The two orders compared**, for the stacks of every object. -/
theorem orders_agree_iff (S : Stacks ObjectId Bool) (event : Option Tbox.Event)
    (hevent : event = none ∨ (∃ i, event = some (.record i)) ∨ ∃ i, event = some (.drop i))
    {H H' : Stacks ObjectId Bool} (hH : ∀ i, H i = (Tbox.net i script).run (S i))
    (hH' : ∀ i, H' i = (Tbox.net i script).run (event.elim S (Tbox.Event.apply S) i)) :
    (∀ i, (event.elim H (Tbox.Event.apply H) i).length = (H' i).length ∧
      (event.elim H (Tbox.Event.apply H) i).head? = (H' i).head?) ↔
    TrackingCommutes S script event := by
  rcases hevent with rfl | ⟨j, rfl⟩ | ⟨j, rfl⟩
  · refine ⟨fun _ => trivial, fun _ i => ?_⟩
    rw [Option.elim_none, hH, hH' i]
    exact ⟨rfl, rfl⟩
  · -- recorded: an entry is put on
    have hpush := orders_agree_iff_self (e := .record j) S (fun T => Stacks.push_self T)
      (fun T i hi => Stacks.push_of_ne T hi) hH hH'
    exact hpush.trans Net.push_commutes_iff
  · -- dropped: an entry is taken off
    have hpop := orders_agree_iff_self (e := .drop j) S (fun T => Stacks.pop_self T)
      (fun T i hi => Stacks.pop_of_ne T hi) hH hH'
    exact hpop.trans Net.pop_commutes_iff

/-- **The polling paths track an event alike, exactly when its handlers'
calls commute with tracking it.** Whatever is recorded, whichever event
about whichever object is delivered, and whatever creations, deletions,
shows and hides its handlers make: `pseudo_event_poll` and
`pseudo_event_poll_idle` leave the same recorded ids and the same answers
of the showing query as a turn of `pseudo_event_wait_for_idle` if and only
if `Commutes`. -/
theorem paths_agree_iff (K : Kernel) (hA : A.Generous) (hw : w.tbox.WF)
    (script : List Tbox.Op) (hscript : ∀ op ∈ script, op.Client) (ec : ℤ) (pb : WimpPollBlock)
    (id : ObjectId)
    (eventCode : Option ℤ) (pollBlock : Option WimpPollBlock) (earliest : UInt32)
    (pollWord : Option Addr) (locals : Locals) (ec₀ : ℤ) :
    ∃ polled w₁ polled' w₁' w₂ calls,
      pseudoEventPoll K (.delivering K ec pb id script) A true eventCode pollBlock pollWord locals w
        = .ok (none, polled, w₁) ∧
      pseudoEventPollIdle K (.delivering K ec pb id script) A true eventCode pollBlock earliest
        pollWord locals w = .ok (none, polled', w₁') ∧
      waitForIdleBody (.delivering K ec pb id script) A ec₀ w = .ok (none, ec, w₂, calls) ∧
      (TrackAlike w₁ w₂ ↔ Commutes w ec pb id script) ∧
      (TrackAlike w₁' w₂ ↔ Commutes w ec pb id script) := by
  obtain ⟨polled, w₁, hpoll, hst₁⟩ := pollAndPrint_delivering K ec pb id hA hw hscript eventCode
    pollBlock locals
  obtain ⟨w₂, calls, hbody, hst₂⟩ := waitForIdleBody_delivering K ec pb id hA hw hscript ec₀
  have hagree : TrackAlike w₁ w₂ ↔ Commutes w ec pb id script := by
    have hH := hst₁ (fun i => (Tbox.net i script).run (w.tbox.stacks i)) fun _ => rfl
    rw [trackAlike_iff, hH, Commutes]
    by_cases hnull : ec = wimpENull
    · -- the null event is not tracked, and only polling dispatches it
      have hnone : trackedIn w ec pb id = none := by
        rw [trackedIn, hnull]
        cases w.evnt.clientBlock <;> simp [tracked_null]
      rw [if_pos hnull, hnone]
      refine forall_congr' fun i => ?_
      rw [hst₂ i, if_pos hnull, Option.elim_none, Net.length_run, Net.head?_run]
    · rw [if_neg hnull]
      refine orders_agree_iff w.tbox.stacks _ ?_ (fun _ => rfl) fun i => ?_
      · unfold trackedIn
        cases w.evnt.clientBlock with
        | none => exact Or.inl rfl
        | some b => exact tracked_cases
      · rw [hst₂ i, if_neg hnull]
  exact ⟨polled, w₁, polled, w₁, w₂, calls, hpoll, hpoll, hbody, hagree, hagree⟩

/-- A handler that shows an object as soon as it has been created: after
`pseudo_event_poll` it is not showing. -/
theorem paths_differ_on_shown :
    ¬ ∀ (K : Kernel) (A : Allocator) (w : World Unit) (ec : ℤ) (pb : WimpPollBlock) (id : ObjectId)
        (script : List Tbox.Op) (locals : Locals) (polled : Polled) (w₁ w₂ : World Unit)
        (calls : List IdleCall), A.Generous → w.tbox.WF → (∀ op ∈ script, op.Client) →
      pseudoEventPoll K (.delivering K ec pb id script) A true none none none locals w =
        .ok (none, polled, w₁) →
      waitForIdleBody (.delivering K ec pb id script) A wimpENull w = .ok (none, ec, w₂, calls) →
      TrackAlike w₁ w₂ := by
  intro hall
  have halike := hall .plain .next ⟨{ initial with clientBlock := some 1 }, Tbox.initial,
      fun _ => ⟨nullObjectId⟩, ()⟩ wimpEToolboxEvent (toolboxEventBlock toolboxObjectAutoCreated) 7
    [.showObject true 0 7 0 none 0 0] ⟨0, ⟨fun _ => 0⟩⟩ _ _ _ _ Allocator.next_generous
    Tbox.wf_initial (by simp [Tbox.Op.Client]) rfl rfl
  exact absurd (halike 7).2 (by decide)

/-- A handler that shows another object. -/
theorem paths_agree_iff_other :
    ∃ w₁ w₂ polled calls,
      let P := PollLib.delivering .plain wimpEToolboxEvent
        (toolboxEventBlock toolboxObjectAutoCreated) 7 [.showObject true 0 8 0 none 0 0]
      let w : World Unit := ⟨{ initial with clientBlock := some 1 }, Tbox.initial,
        fun _ => ⟨nullObjectId⟩, ()⟩
      pseudoEventPoll .plain P .next true none none none ⟨0, ⟨fun _ => 0⟩⟩ w =
        .ok (none, polled, w₁) ∧
      waitForIdleBody P .next wimpENull w = .ok (none, wimpEToolboxEvent, w₂, calls) ∧
      TrackAlike w₁ w₂ := by
  obtain ⟨polled, w₁, -, -, w₂, calls, hpoll, -, hbody, hiff, -⟩ :=
    paths_agree_iff (w := ⟨{ initial with clientBlock := some 1 }, Tbox.initial,
      fun _ => ⟨nullObjectId⟩, ()⟩) .plain Allocator.next_generous Tbox.wf_initial
      [.showObject true 0 8 0 none 0 0] (by simp [Tbox.Op.Client]) wimpEToolboxEvent
      (toolboxEventBlock toolboxObjectAutoCreated) 7 none none 0 none ⟨0, ⟨fun _ => 0⟩⟩ wimpENull
  exact ⟨w₁, w₂, polled, calls, hpoll, hbody, hiff.mpr ⟨Nat.zero_le _, rfl⟩⟩

end Evnt

end CBPseudo
