import CBPseudo.Common.Run
import CBPseudo.Evnt.Model.Poll
import Mathlib.Data.List.GetD

/-!
# Waiting for idle

`waitForIdleBody_cases` lists the ways a turn of the loop can end, with
the calls it makes; a whole wait is a `Trace` of turns, by induction on
its counter, and what is to be said of a wait is read off that. A wait
that returns no error has ended in one of two ways: with a null event, or
with the counter run out.
-/

namespace CBPseudo

open Common

namespace Evnt

variable {σ : Type} {P : PollLib σ} {A : ℕ → Allocator} {B : Allocator} {ec ec' : ℤ}
variable {w w' : World σ} {e : Option KernelOserror} {calls : List IdleCall} {count : ℕ}

/-! ## The events of a wait -/

/-- The event that a call polled. -/
def IdleCall.polled : IdleCall → Option (ℤ × WimpPollBlock)
  | .poll _ none eventCode pollBlock => some (eventCode, pollBlock)
  | _ => none

/-- The event that a call dispatched. -/
def IdleCall.dispatched : IdleCall → Option (ℤ × WimpPollBlock)
  | .dispatch eventCode pollBlock _ => some (eventCode, pollBlock)
  | _ => none

/-- The events polled, in order. -/
def polled (calls : List IdleCall) : List (ℤ × WimpPollBlock) := calls.filterMap IdleCall.polled

/-- The events dispatched, in order. -/
def dispatched (calls : List IdleCall) : List (ℤ × WimpPollBlock) :=
  calls.filterMap IdleCall.dispatched

theorem polled_append {calls' : List IdleCall} :
    polled (calls ++ calls') = polled calls ++ polled calls' := List.filterMap_append

theorem dispatched_append {calls' : List IdleCall} :
    dispatched (calls ++ calls') = dispatched calls ++ dispatched calls' := List.filterMap_append

/-- An event that is not the null event. -/
def NonNull (event : ℤ × WimpPollBlock) : Prop := event.1 ≠ wimpENull

instance : DecidablePred NonNull := fun event => inferInstanceAs (Decidable (event.1 ≠ wimpENull))

/-! ## One turn -/

/-- **A call that is made** takes one world to the next. -/
inductive Performed (P : PollLib σ) : World σ → IdleCall → World σ → Prop
  | getMask {w w' : World σ} {e : Option KernelOserror} {mask : UInt32} :
      P.eventGetMask w = (e, mask, w') → Performed P w (.getMask e mask) w'
  | poll {w w' : World σ} {mask : UInt32} {ec ec' : ℤ} {e : Option KernelOserror}
      {pb : WimpPollBlock} :
      P.wimpPoll mask ec w = (e, ec', pb, w') → Performed P w (.poll mask e ec' pb) w'
  | print {w w' : World σ} {B : Allocator} {ec : ℤ} {pb : WimpPollBlock} :
      printEvent B ec pb w = .ok w' → Performed P w (.print ec pb) w'
  | dispatch {w w' : World σ} {ec : ℤ} {pb : WimpPollBlock} {e : Option KernelOserror} :
      P.eventDispatch ec pb w = .ok (e, w') → Performed P w (.dispatch ec pb e) w'

/-- The calls of a turn after which there is another: an event is tracked
and then dispatched. -/
def fullTurn (mask : UInt32) (ec : ℤ) (pb : WimpPollBlock) : List IdleCall :=
  [.getMask none mask, .poll (mask &&& ~~~wimpPollNullMask) none ec pb, .print ec pb,
    .dispatch ec pb none]

/-- **The calls of a last turn**, and the error it ends with. -/
inductive LastTurn : Option KernelOserror → List IdleCall → Prop
  /-- There is no mask. -/
  | noMask (err : KernelOserror) (mask : UInt32) : LastTurn (some err) [.getMask (some err) mask]
  /-- There is no event. -/
  | noEvent (err : KernelOserror) (mask : UInt32) (ec : ℤ) (pb : WimpPollBlock) :
      LastTurn (some err)
        [.getMask none mask, .poll (mask &&& ~~~wimpPollNullMask) (some err) ec pb]
  /-- The event is the null event. -/
  | idle (mask : UInt32) (pb : WimpPollBlock) :
      LastTurn none [.getMask none mask, .poll (mask &&& ~~~wimpPollNullMask) none wimpENull pb]
  /-- A handler returns an error. -/
  | refused (err : KernelOserror) (mask : UInt32) {ec : ℤ} (pb : WimpPollBlock) :
      ec ≠ wimpENull → LastTurn (some err)
        [.getMask none mask, .poll (mask &&& ~~~wimpPollNullMask) none ec pb, .print ec pb,
          .dispatch ec pb (some err)]

/-- **How a turn ends**: it is the last, or an event has been tracked and
then dispatched. -/
theorem waitForIdleBody_cases (h : waitForIdleBody P B ec w = .ok (e, ec', w', calls)) :
    Run (Performed P) w calls w' ∧
      (LastTurn e calls ∧ (e = none → ec' = wimpENull) ∨
        ∃ mask pb, e = none ∧ ec' ≠ wimpENull ∧ calls = fullTurn mask ec' pb) := by
  unfold waitForIdleBody at h
  rcases hm : P.eventGetMask w with ⟨_ | err, mask, w₁⟩
  · have hmask : Run (Performed P) w [.getMask none mask] w₁ := Run.nil.snoc (.getMask hm)
    rw [hm] at h
    simp only at h
    rcases hp : P.wimpPoll (mask &&& ~~~wimpPollNullMask) ec w₁ with ⟨_ | err, ec₁, pb, w₂⟩
    · -- the poll succeeded; what follows depends on the event
      have hpoll := hmask.snoc (Performed.poll hp)
      rw [hp] at h
      simp only at h
      by_cases hnull : ec₁ = wimpENull
      · rw [if_neg (not_not.mpr hnull)] at h
        obtain ⟨rfl, rfl, rfl, rfl⟩ : none = e ∧ ec₁ = ec' ∧ w₂ = w' ∧ _ = calls := by
          simpa using h
        subst hnull
        exact ⟨hpoll, Or.inl ⟨.idle mask pb, fun _ => rfl⟩⟩
      · rw [if_pos hnull] at h
        obtain ⟨w₃, hprint, h⟩ := bind_eq_ok.mp h
        obtain ⟨⟨e₁, w₄⟩, hdispatch, h⟩ := bind_eq_ok.mp h
        obtain ⟨rfl, rfl, rfl, rfl⟩ : e₁ = e ∧ ec₁ = ec' ∧ w₄ = w' ∧ _ = calls := by
          simpa using h
        refine ⟨(hpoll.snoc (.print hprint)).snoc (.dispatch hdispatch), ?_⟩
        cases e₁ with
        | none => exact Or.inr ⟨mask, pb, rfl, hnull, rfl⟩
        | some err => exact Or.inl ⟨.refused err mask pb hnull, fun he => by cases he⟩
    · rw [hp] at h
      obtain ⟨rfl, rfl, rfl, rfl⟩ : some err = e ∧ ec₁ = ec' ∧ w₂ = w' ∧ _ = calls := by
        simpa using h
      exact ⟨hmask.snoc (.poll hp), Or.inl ⟨.noEvent err mask ec₁ pb, fun he => by cases he⟩⟩
  · rw [hm] at h
    obtain ⟨rfl, rfl, rfl, rfl⟩ : some err = e ∧ ec = ec' ∧ w₁ = w' ∧ _ = calls := by
      simpa using h
    exact ⟨Run.nil.snoc (.getMask hm), Or.inl ⟨.noMask err mask, fun he => by cases he⟩⟩

/-! ## The loop -/

/-- **The rule for a wait**: what every turn preserves without a fault, a
wait does. -/
theorem waitForIdleLoop_invariant {I : World σ → Prop} (count : ℕ) (ec : ℤ)
    (hbody : ∀ count ec w, I w → ∃ e ec' w' calls,
      waitForIdleBody P (A count) ec w = .ok (e, ec', w', calls) ∧ I w')
    (h0 : I w) : ∃ e w' calls, waitForIdleLoop P A count ec w = .ok (e, w', calls) ∧ I w' := by
  induction count generalizing ec w with
  | zero =>
    obtain ⟨e, ec', w', calls, hb, hi⟩ := hbody 0 ec w h0
    refine ⟨e, w', calls, ?_, hi⟩
    rw [waitForIdleLoop, hb]
    simp
  | succ count ih =>
    obtain ⟨e, ec', w', calls, hb, hi⟩ := hbody (count + 1) ec w h0
    -- the loop goes on only after an event and without an error
    by_cases hgo : e = none ∧ ec' ≠ wimpENull
    · obtain ⟨e₂, w₂, more, hl, hi₂⟩ := ih ec' hi
      refine ⟨e₂, w₂, calls ++ more, ?_, hi₂⟩
      rw [waitForIdleLoop, hb, ok_bind]
      simp only [if_pos hgo, hl, ok_bind]
    · refine ⟨e, w', calls, ?_, hi⟩
      rw [waitForIdleLoop, hb, ok_bind]
      simp only [if_neg hgo]

/-- **The calls of a wait** of at most `n` turns, and the error it ends
with. -/
inductive Trace : ℕ → Option KernelOserror → List IdleCall → Prop
  /-- The counter has run out. -/
  | limit : Trace 0 none []
  | last {n : ℕ} {e : Option KernelOserror} {calls : List IdleCall} :
      LastTurn e calls → Trace (n + 1) e calls
  | turn {n : ℕ} {e : Option KernelOserror} {calls : List IdleCall} (mask : UInt32) {ec : ℤ}
      (pb : WimpPollBlock) :
      ec ≠ wimpENull → Trace n e calls → Trace (n + 1) e (fullTurn mask ec pb ++ calls)

/-- **A wait makes the calls of a trace**, one after another. -/
theorem waitForIdleLoop_trace (h : waitForIdleLoop P A count ec w = .ok (e, w', calls)) :
    Run (Performed P) w calls w' ∧ Trace (count + 1) e calls := by
  induction count generalizing ec w calls with
  | zero =>
    unfold waitForIdleLoop at h
    obtain ⟨⟨e₁, ec', w₁, calls₁⟩, hb, h⟩ := bind_eq_ok.mp h
    obtain ⟨rfl, rfl, rfl⟩ : e₁ = e ∧ w₁ = w' ∧ calls₁ = calls := by simpa using h
    obtain ⟨hrun, ⟨hlast, -⟩ | ⟨mask, pb, rfl, hnull, rfl⟩⟩ := waitForIdleBody_cases hb
    · exact ⟨hrun, .last hlast⟩
    · exact ⟨hrun, .turn mask pb hnull .limit⟩
  | succ count ih =>
    unfold waitForIdleLoop at h
    obtain ⟨⟨e₁, ec', w₁, calls₁⟩, hb, h⟩ := bind_eq_ok.mp h
    obtain ⟨hrun, ⟨hlast, hnull⟩ | ⟨mask, pb, rfl, hnull, rfl⟩⟩ := waitForIdleBody_cases hb
    · have hstop : ¬ (e₁ = none ∧ ec' ≠ wimpENull) := fun hgo => hgo.2 (hnull hgo.1)
      simp only [if_neg hstop] at h
      obtain ⟨rfl, rfl, rfl⟩ : e₁ = e ∧ w₁ = w' ∧ calls₁ = calls := by simpa using h
      exact ⟨hrun, .last hlast⟩
    · -- the turn polled an event, and the rest of the wait goes on from there
      simp only [ne_eq, hnull, not_false_eq_true, and_self, if_true] at h
      obtain ⟨⟨e₂, w₂, more⟩, hl, h⟩ := bind_eq_ok.mp h
      obtain ⟨rfl, rfl, rfl⟩ : e₂ = e ∧ w₂ = w' ∧ fullTurn mask ec' pb ++ more = calls := by
        simpa using h
      obtain ⟨hmore, htrace⟩ := ih hl
      exact ⟨hrun.append hmore, .turn mask pb hnull htrace⟩

/-! ## What a trace says -/

section Trace

variable {n : ℕ}

@[simp] theorem polled_fullTurn {mask : UInt32} {pb : WimpPollBlock} :
    polled (fullTurn mask ec pb) = [(ec, pb)] := rfl

@[simp] theorem dispatched_fullTurn {mask : UInt32} {pb : WimpPollBlock} :
    dispatched (fullTurn mask ec pb) = [(ec, pb)] := rfl

theorem filter_nonNull {pb : WimpPollBlock} (h : ec ≠ wimpENull) :
    [(ec, pb)].filter (fun event => decide (NonNull event)) = [(ec, pb)] :=
  List.filter_cons_of_pos (decide_eq_true h)

/-- The events dispatched are those polled that are not the null event. -/
theorem Trace.dispatched_eq (h : Trace n e calls) :
    dispatched calls = (polled calls).filter NonNull := by
  induction h with
  | limit => rfl
  | last hlast =>
    cases hlast with
    | noMask err mask => rfl
    | noEvent err mask ec pb => rfl
    | idle mask pb => rfl
    | refused err mask pb hnull => exact (filter_nonNull hnull).symm
  | turn mask pb hnull _ ih =>
    rw [dispatched_append, polled_append, List.filter_append, ih, dispatched_fullTurn,
      polled_fullTurn, filter_nonNull hnull]

/-- **A trace without error** ends with the null event, or polls an event
in each of its turns. -/
theorem Trace.reaches_idle_or_limit (h : Trace n none calls) :
    (∃ pb, (polled calls).getLast? = some (wimpENull, pb)) ∨
      ((polled calls).length = n ∧ ∀ event ∈ polled calls, NonNull event) := by
  generalize he : (none : Option KernelOserror) = e at h
  induction h with
  | limit => exact Or.inr ⟨rfl, fun _ hin => by cases hin⟩
  | last hlast =>
    cases hlast with
    | idle mask pb => exact Or.inl ⟨pb, rfl⟩
    | noMask => cases he
    | noEvent => cases he
    | refused => cases he
  | @turn n e calls mask ec pb hnull _ ih =>
    rw [polled_append, polled_fullTurn]
    rcases ih he with ⟨pb', hlast⟩ | ⟨hlen, hall⟩
    · left
      refine ⟨pb', ?_⟩
      rw [List.getLast?_append, hlast]
      rfl
    · right
      refine ⟨by rw [List.length_append, hlen, List.length_singleton, Nat.add_comm], ?_⟩
      intro event hin
      rcases List.mem_append.mp hin with hin | hin
      · rw [List.mem_singleton.mp hin]
        exact hnull
      · exact hall event hin

end Trace

/-- **A wait without error has reached idle or has polled 512 events.** The
calls that it made, one after another, brought the world to where it is;
the last event polled is the null event, or 512 events were polled, none
of which is the null event; and the events that were dispatched are those
polled before the null event, each once and in the order polled. -/
theorem wait_reaches_idle_or_limit (P : PollLib σ) (A : ℕ → Allocator) (w : World σ)
    {w' : World σ} {calls : List IdleCall}
    (h : pseudoEventWaitForIdle P A w = .ok (none, w', calls)) :
    Run (Performed P) w calls w' ∧
    ((∃ pb, (polled calls).getLast? = some (wimpENull, pb)) ∨
      ((polled calls).length = 512 ∧ ∀ event ∈ polled calls, NonNull event)) ∧
    dispatched calls = (polled calls).filter NonNull := by
  obtain ⟨hrun, htrace⟩ := waitForIdleLoop_trace h
  exact ⟨hrun, htrace.reaches_idle_or_limit, htrace.dispatched_eq⟩

/-- A library that polls a number of redraw requests, and then nothing. -/
def PollLib.redraws : PollLib ℕ where
  eventGetMask := fun w => (none, 0, w)
  wimpPoll := fun _ _ w => match w.env with
    | 0 => (none, wimpENull, ⟨fun _ => 0⟩, w)
    | n + 1 => (none, 1, ⟨fun _ => 0⟩, { w with env := n })
  eventDispatch := fun _ _ w => .ok (none, w)
  eventPoll := fun _ _ _ w => .ok (none, wimpENull, ⟨fun _ => 0⟩, w)
  eventPollIdle := fun _ _ _ _ w => .ok (none, wimpENull, ⟨fun _ => 0⟩, w)

/-- Two redraw requests are polled and dispatched, and then there is
nothing. -/
theorem wait_reaches_idle_or_limit_redraws :
    let w : ℕ → World ℕ := fun n => ⟨initial, Tbox.initial, fun _ => ⟨nullObjectId⟩, n⟩
    let pb : WimpPollBlock := ⟨fun _ => 0⟩
    let calls : List IdleCall := fullTurn 0 1 pb ++ fullTurn 0 1 pb ++
      [.getMask none 0, .poll 0 none wimpENull pb]
    pseudoEventWaitForIdle .redraws (fun _ => .refuse) (w 2) = .ok (none, w 0, calls) ∧
    Run (Performed .redraws) (w 2) calls (w 0) ∧
    dispatched calls = [(1, pb), (1, pb)] := by
  intro w pb calls
  have h : pseudoEventWaitForIdle .redraws (fun _ => .refuse) (w 2) = .ok (none, w 0, calls) := rfl
  obtain ⟨hrun, -, hdispatched⟩ := wait_reaches_idle_or_limit .redraws (fun _ => .refuse) (w 2) h
  exact ⟨h, hrun, hdispatched⟩

/-! ## A desktop that is never idle -/

/-- A library that always polls one event, and handlers that do nothing
else. -/
def PollLib.always (eventCode : ℤ) : PollLib Unit where
  eventGetMask := fun w => (none, 0, w)
  wimpPoll := fun _ _ w => (none, eventCode, ⟨fun _ => 0⟩, w)
  eventDispatch := fun _ _ w => .ok (none, w)
  eventPoll := fun _ _ _ w => .ok (none, eventCode, ⟨fun _ => 0⟩, w)
  eventPollIdle := fun _ _ _ _ w => .ok (none, eventCode, ⟨fun _ => 0⟩, w)

/-- Where there is always a redraw request, a wait ends without error and
without a null event. -/
theorem waitForIdleLoop_always (A : ℕ → Allocator) (count : ℕ) (ec : ℤ) (w : World Unit) :
    ∃ calls, waitForIdleLoop (.always 1) A count ec w = .ok (none, w, calls) ∧
      ∀ pb, (polled calls).getLast? ≠ some (wimpENull, pb) := by
  have hpolled : polled [.getMask none 0, .poll 0 none 1 ⟨fun _ => 0⟩, .print 1 ⟨fun _ => 0⟩,
      .dispatch 1 ⟨fun _ => 0⟩ none] = [((1 : ℤ), ⟨fun _ => 0⟩)] := rfl
  have hone : ∀ pb, some ((1 : ℤ), (⟨fun _ => 0⟩ : WimpPollBlock)) ≠ some (wimpENull, pb) := by
    intro pb he
    simp [wimpENull] at he
  induction count generalizing ec with
  | zero =>
    refine ⟨[.getMask none 0, .poll 0 none 1 ⟨fun _ => 0⟩, .print 1 ⟨fun _ => 0⟩,
      .dispatch 1 ⟨fun _ => 0⟩ none], rfl, fun pb => ?_⟩
    rw [hpolled]
    exact hone pb
  | succ count ih =>
    -- the turn polls event 1, so the rest of the wait starts from that code
    obtain ⟨more, hl, hlast⟩ := ih 1
    refine ⟨[.getMask none 0, .poll 0 none 1 ⟨fun _ => 0⟩, .print 1 ⟨fun _ => 0⟩,
      .dispatch 1 ⟨fun _ => 0⟩ none] ++ more, ?_, fun pb => ?_⟩
    · show (waitForIdleLoop (.always 1) A count 1 w >>= fun r => _) = _
      rw [hl]
      rfl
    · rw [polled_append, hpolled, List.getLast?_append]
      rcases hg : (polled more).getLast? with _ | event
      · exact hone pb
      · rw [Option.some_or, ← hg]
        exact hlast pb

/-- A wait that ends without error need not have reached idle. -/
theorem wait_without_idle :
    ¬ ∀ (σ : Type) (P : PollLib σ) (A : ℕ → Allocator) (w w' : World σ) (calls : List IdleCall),
      pseudoEventWaitForIdle P A w = .ok (none, w', calls) →
      ∃ pb, (polled calls).getLast? = some (wimpENull, pb) := by
  intro hall
  let w : World Unit := ⟨initial, Tbox.initial, fun _ => ⟨nullObjectId⟩, ()⟩
  obtain ⟨calls, hl, hlast⟩ :=
    waitForIdleLoop_always (fun _ => .refuse) 511 wimpENull w
  obtain ⟨pb, hpb⟩ := hall Unit (.always 1) (fun _ => .refuse) w w calls hl
  exact hlast pb hpb

end Evnt

end CBPseudo
