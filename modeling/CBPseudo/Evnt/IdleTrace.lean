import CBPseudo.Evnt.Events
import CBPseudo.Evnt.Idle
import CBPseudo.Tbox.Ownership

/-!
# Waiting for idle — what is delivered

The whole of a wait, from the trace of its calls: how many polls it makes,
what becomes of each event, which mask each poll is given, and where it
stops. A wait ends where the handlers do, and that they do is asked of the
libraries that poll (`PollLib.Orderly`), together with what they leave of
the object records.
-/

namespace CBPseudo

open Common

namespace Evnt

variable {σ : Type} {P : PollLib σ} {A : ℕ → Allocator} {B : Allocator} {ec : ℤ}
variable {w w' : World σ} {e : Option KernelOserror} {c : IdleCall} {calls : List IdleCall} {n : ℕ}
variable {mask : UInt32} {pb : WimpPollBlock}

/-! ## Calls -/

/-- The error that a call returned. -/
def IdleCall.error : IdleCall → Option KernelOserror
  | .getMask e _ => e
  | .poll _ e _ _ => e
  | .print _ _ => none
  | .dispatch _ _ e => e

/-- A call that polls, whether or not there is an event. -/
def IdleCall.polls : IdleCall → Bool
  | .poll _ _ _ _ => true
  | _ => false

/-- A call that polled the null event. -/
def IdleCall.idle : IdleCall → Bool
  | .poll _ none eventCode _ => eventCode = wimpENull
  | _ => false

/-- **What is done with an event**: its objects are tracked, or it is
dispatched. -/
inductive Delivery
  | track (event : ℤ × WimpPollBlock)
  | dispatch (event : ℤ × WimpPollBlock)

/-- What a call does with an event. -/
def IdleCall.delivery : IdleCall → Option Delivery
  | .print eventCode pollBlock => some (.track (eventCode, pollBlock))
  | .dispatch eventCode pollBlock _ => some (.dispatch (eventCode, pollBlock))
  | _ => none

/-- What is done with the events of a wait, in order. -/
def deliveries (calls : List IdleCall) : List Delivery := calls.filterMap IdleCall.delivery

/-- An event tracked and then dispatched. -/
def deliver (event : ℤ × WimpPollBlock) : List Delivery := [.track event, .dispatch event]

/-- **A poll is given the mask read just before it**, at the start of the
wait or after a dispatch, without the bit for null events. -/
def MaskInForce (before : List IdleCall) (mask : UInt32) : Prop :=
  ∃ earlier m, before = earlier ++ [.getMask none m] ∧ mask = m &&& ~~~wimpPollNullMask ∧
    (earlier = [] ∨ ∃ rest ec pb, earlier = rest ++ [.dispatch ec pb none])

/-- **A wait that delivers each event once**: its calls, made one after
another, are at most 512 polls and what the events polled come to; it
stops at the first error, which it returns, or at the first null event, and
goes on until there is one or it has polled 512 events. -/
structure Delivers (P : PollLib σ) (w : World σ) (e : Option KernelOserror) (w' : World σ)
    (calls : List IdleCall) : Prop where
  performed : Run (Performed P) w calls w'
  polls_le : calls.countP IdleCall.polls ≤ 512
  delivered : deliveries calls = ((polled calls).filter NonNull).flatMap deliver
  dispatched : dispatched calls = (polled calls).filter NonNull
  masks : ∀ before mask err ec pb after, calls = before ++ .poll mask err ec pb :: after →
    MaskInForce before mask
  stops : ∀ c ∈ calls.dropLast, c.error = none ∧ c.idle = false
  returns : e = calls.getLast?.bind IdleCall.error
  goesOn : e = none → (∃ pb, (polled calls).getLast? = some (wimpENull, pb)) ∨
    ((polled calls).length = 512 ∧ ∀ event ∈ polled calls, NonNull event)

/-- The mask of the first turn of a wait. -/
theorem maskInForce_first {m : UInt32} {err err' : Option KernelOserror} {ec' : ℤ}
    {pb' : WimpPollBlock} {rest before after : List IdleCall}
    (hrest : ∀ c ∈ rest, c.polls = false)
    (heq : .getMask none m :: .poll (m &&& ~~~wimpPollNullMask) err ec pb :: rest =
      before ++ .poll mask err' ec' pb' :: after) : MaskInForce before mask := by
  rcases before with _ | ⟨c, _ | ⟨c', before⟩⟩
  · simp at heq
  · -- the poll is that of the turn
    simp only [List.singleton_append, List.cons.injEq, IdleCall.poll.injEq] at heq
    obtain ⟨rfl, ⟨rfl, -⟩, -⟩ := heq
    exact ⟨[], m, rfl, rfl, Or.inl rfl⟩
  · obtain ⟨-, heq⟩ := List.cons.inj heq
    obtain ⟨-, rfl⟩ := List.cons.inj heq
    have hpoll := hrest (.poll mask err' ec' pb') (by simp)
    cases hpoll

/-- A turn before it does not matter. -/
theorem MaskInForce.after_turn {m : UInt32} {before : List IdleCall}
    (h : MaskInForce before mask) : MaskInForce (fullTurn m ec pb ++ before) mask := by
  obtain ⟨earlier, m', rfl, hmask, hearlier⟩ := h
  refine ⟨fullTurn m ec pb ++ earlier, m', by rw [List.append_assoc], hmask, Or.inr ?_⟩
  rcases hearlier with rfl | ⟨rest, ec', pb', rfl⟩
  · exact ⟨[.getMask none m, .poll (m &&& ~~~wimpPollNullMask) none ec pb, .print ec pb], ec, pb,
      rfl⟩
  · exact ⟨fullTurn m ec pb ++ rest, ec', pb', by rw [List.append_assoc]⟩

/-! ## What a trace says -/

namespace Trace

/-- Each turn polls once at most. -/
theorem polls_le (h : Trace n e calls) : calls.countP IdleCall.polls ≤ n := by
  induction h with
  | limit => simp
  | last hlast => cases hlast <;> simp [List.countP_cons, IdleCall.polls]
  | @turn n e calls mask ec pb _ _ ih =>
    have hone : (fullTurn mask ec pb).countP IdleCall.polls = 1 := rfl
    rw [List.countP_append, hone]
    omega

/-- **Each event that is not the null event is tracked and then
dispatched**, before the next is. -/
theorem deliveries_eq (h : Trace n e calls) :
    deliveries calls = ((polled calls).filter NonNull).flatMap deliver := by
  induction h with
  | limit => rfl
  | last hlast =>
    cases hlast with
    | noMask err mask => rfl
    | noEvent err mask ec pb => rfl
    | idle mask pb => rfl
    | refused err mask pb hnull =>
      show [Delivery.track _, Delivery.dispatch _] = (List.filter _ [(_, pb)]).flatMap deliver
      rw [filter_nonNull hnull]
      rfl
  | @turn n e calls mask ec pb hnull _ ih =>
    have hturn : deliveries (fullTurn mask ec pb) = deliver (ec, pb) := rfl
    rw [deliveries, List.filterMap_append, ← deliveries, ← deliveries, ih, hturn, polled_append,
      List.filter_append, polled_fullTurn, filter_nonNull hnull, List.flatMap_append,
      List.flatMap_singleton]

/-- Every turn begins with its mask. -/
theorem masks (h : Trace n e calls) {before after : List IdleCall} {err : Option KernelOserror}
    (heq : calls = before ++ .poll mask err ec pb :: after) : MaskInForce before mask := by
  induction h generalizing before after with
  | limit => simp at heq
  | last hlast =>
    cases hlast with
    | noMask err mask => exact absurd heq (by rcases before with _ | ⟨b, _ | ⟨b', before⟩⟩ <;> simp)
    | noEvent err mask ec pb => exact maskInForce_first (by simp) heq
    | idle mask pb => exact maskInForce_first (by simp) heq
    | refused err mask pb hnull => exact maskInForce_first (by simp [IdleCall.polls]) heq
  | @turn n e calls mask ec pb _ _ ih =>
    rcases List.append_eq_append_iff.mp heq with ⟨later, rfl, hcalls⟩ | ⟨rest, hturn, hcalls⟩
    · exact (ih hcalls).after_turn
    · cases rest with
      | nil =>
        -- the poll is the first call of the turns to come
        rw [List.append_nil] at hturn
        rw [← hturn, ← List.append_nil (fullTurn _ _ _)]
        exact (ih (List.nil_append calls ▸ hcalls.symm)).after_turn
      | cons c rest =>
        obtain ⟨rfl, -⟩ := List.cons.inj hcalls
        exact maskInForce_first (by simp [IdleCall.polls]) hturn

/-- Only the last call of a wait returns an error or polls the null
event. -/
theorem stops (h : Trace n e calls) : ∀ c ∈ calls.dropLast, c.error = none ∧ c.idle = false := by
  induction h with
  | limit => simp
  | last hlast => cases hlast <;> simp [IdleCall.error, IdleCall.idle, *]
  | @turn n e calls mask ec pb hnull _ ih =>
    intro c hc
    have hturn : ∀ c ∈ fullTurn mask ec pb, c.error = none ∧ c.idle = false := by
      simp [fullTurn, IdleCall.error, IdleCall.idle, hnull]
    by_cases hnil : calls = []
    · rw [hnil, List.append_nil] at hc
      exact hturn c (List.mem_of_mem_dropLast hc)
    · rw [List.dropLast_append_of_ne_nil hnil] at hc
      rcases List.mem_append.mp hc with hc | hc
      · exact hturn c hc
      · exact ih c hc

/-- The error of the last call is the wait's. -/
theorem returns (h : Trace n e calls) : e = calls.getLast?.bind IdleCall.error := by
  induction h with
  | limit => rfl
  | last hlast => cases hlast <;> rfl
  | @turn n e calls mask ec pb _ _ ih =>
    rw [List.getLast?_append]
    cases hl : calls.getLast? with
    | none =>
      rw [hl] at ih
      exact ih
    | some c =>
      rw [hl] at ih
      exact ih

end Trace

/-- **Every wait that ends** delivers each event once. -/
theorem waitForIdle_delivers (h : pseudoEventWaitForIdle P A w = .ok (e, w', calls)) :
    Delivers P w e w' calls := by
  obtain ⟨hrun, htrace⟩ := waitForIdleLoop_trace h
  refine ⟨hrun, htrace.polls_le, htrace.deliveries_eq, htrace.dispatched_eq,
    fun _ _ _ _ _ _ heq => htrace.masks heq, htrace.stops, htrace.returns, ?_⟩
  rintro rfl
  exact htrace.reaches_idle_or_limit

/-! ## A wait ends -/

/-- **The libraries that poll keep the object records in order**, and
handlers return. -/
structure PollLib.Orderly (P : PollLib σ) : Prop where
  getMask : ∀ w, w.tbox.Owned → (P.eventGetMask w).2.2.tbox.Owned
  poll : ∀ mask ec w, w.tbox.Owned → (P.wimpPoll mask ec w).2.2.2.tbox.Owned
  dispatch : ∀ ec pb w, w.tbox.Owned →
    ∃ e w', P.eventDispatch ec pb w = .ok (e, w') ∧ w'.tbox.Owned

/-- **Tracking an event** does not fault, whatever the allocator answers,
and touches the object records only. -/
theorem printEvent_owned (B : Allocator) (ec : ℤ) (pb : WimpPollBlock) (ho : w.tbox.Owned) :
    ∃ t, printEvent B ec pb w = .ok { w with tbox := t } ∧ t.Owned := by
  obtain ⟨-, he⟩ | ⟨id, -, he⟩ | ⟨id, -, he⟩ := printEvent_inv B ec pb w
  · exact ⟨w.tbox, he, ho⟩
  · exact ⟨_, he, ho.objectCreated B id⟩
  · obtain ⟨t, hdelete, ho', -⟩ := ho.objectDeleted id
    exact ⟨t, by rw [he, hdelete, ok_bind], ho'⟩

/-- Tracking an event leaves the recorders alone. -/
theorem printEvent_saveAs (he : printEvent B ec pb w = .ok w') :
    w'.tbox.saveAs = w.tbox.saveAs := by
  obtain ⟨-, he'⟩ | ⟨id, -, he'⟩ | ⟨id, -, he'⟩ := printEvent_inv B ec pb w <;> rw [he'] at he
  · cases he
    rfl
  · cases he
    exact Tbox.objectCreated_saveAs ..
  · obtain ⟨t, hdelete, he⟩ := bind_eq_ok.mp he
    cases he
    exact Tbox.objectDeleted_saveAs hdelete

/-- **A turn ends**, and leaves the records in order. -/
theorem waitForIdleBody_total (hP : P.Orderly) (ho : w.tbox.Owned) (B : Allocator) (ec : ℤ) :
    ∃ e ec' w' calls, waitForIdleBody P B ec w = .ok (e, ec', w', calls) ∧ w'.tbox.Owned := by
  unfold waitForIdleBody
  have hmask := hP.getMask w ho
  rcases hm : P.eventGetMask w with ⟨_ | err, mask, w₁⟩
  · rw [hm] at hmask
    have hpoll := hP.poll (mask &&& ~~~wimpPollNullMask) ec w₁ hmask
    rcases hp : P.wimpPoll (mask &&& ~~~wimpPollNullMask) ec w₁ with ⟨_ | err, ec₁, pb, w₂⟩
    · rw [hp] at hpoll
      by_cases hnull : ec₁ = wimpENull
      · refine ⟨none, ec₁, w₂, [.getMask none mask,
          .poll (mask &&& ~~~wimpPollNullMask) none ec₁ pb], ?_, hpoll⟩
        simp only [hp, ne_eq, hnull, not_true_eq_false, if_false]
      · obtain ⟨t, hprint, ht⟩ := printEvent_owned B ec₁ pb hpoll
        obtain ⟨e, w₄, hdispatch, ho₄⟩ := hP.dispatch ec₁ pb { w₂ with tbox := t } ht
        refine ⟨e, ec₁, w₄, [.getMask none mask,
          .poll (mask &&& ~~~wimpPollNullMask) none ec₁ pb, .print ec₁ pb, .dispatch ec₁ pb e],
          ?_, ho₄⟩
        simp only [hp, ne_eq, hnull, not_false_eq_true, if_true, hprint, ok_bind, hdispatch]
    · rw [hp] at hpoll
      refine ⟨some err, ec₁, w₂, [.getMask none mask,
        .poll (mask &&& ~~~wimpPollNullMask) (some err) ec₁ pb], ?_, hpoll⟩
      simp only [hp]
  · rw [hm] at hmask
    exact ⟨some err, ec, w₁, [.getMask (some err) mask], rfl, hmask⟩

/-- **The idle loop delivers each polled event exactly once, in order**,
whatever the libraries answer and whatever mask the handlers leave: see
`Delivers`. And where handlers return, so does the wait. -/
theorem wait_delivers_each_event_once (P : PollLib σ) (A : ℕ → Allocator) (w : World σ) :
    (∀ e w' calls, pseudoEventWaitForIdle P A w = .ok (e, w', calls) →
      Delivers P w e w' calls) ∧
    (P.Orderly → w.tbox.Owned →
      ∃ e w' calls, pseudoEventWaitForIdle P A w = .ok (e, w', calls)) := by
  refine ⟨fun e w' calls h => waitForIdle_delivers h, fun hP ho => ?_⟩
  obtain ⟨e, w', calls, he, -⟩ := waitForIdleLoop_invariant (I := fun w => w.tbox.Owned) 511
    wimpENull (fun count ec w hw => waitForIdleBody_total hP hw (A count) ec) ho
  exact ⟨e, w', calls, he⟩

/-- A wait on a desktop that is never idle ends too, after 512 polls. -/
theorem wait_delivers_each_event_once_busy :
    let w : World Unit := ⟨initial, Tbox.initial, fun _ => ⟨nullObjectId⟩, ()⟩
    ∃ calls, pseudoEventWaitForIdle (.always 1) (fun _ => .refuse) w = .ok (none, w, calls) ∧
      (polled calls).length = 512 ∧ calls.countP IdleCall.polls ≤ 512 := by
  intro w
  have horderly : (PollLib.always 1).Orderly :=
    ⟨fun _ h => h, fun _ _ _ h => h, fun _ _ w h => ⟨none, w, rfl, h⟩⟩
  obtain ⟨hdelivers, hends⟩ := wait_delivers_each_event_once (.always 1) (fun _ => .refuse) w
  obtain ⟨e, w', calls, he⟩ := hends horderly (Tbox.owned_of_nil rfl)
  -- no poll is of the null event
  obtain ⟨calls', hcalls, hlast⟩ := waitForIdleLoop_always (fun _ => .refuse) 511 wimpENull w
  obtain ⟨rfl, rfl, rfl⟩ : none = e ∧ w = w' ∧ calls' = calls := by
    simpa using hcalls.symm.trans he
  have hall := hdelivers none w calls' he
  rcases hall.goesOn rfl with ⟨pb, hpb⟩ | ⟨hlen, -⟩
  · exact absurd hpb (hlast pb)
  · exact ⟨calls', he, hlen, hall.polls_le⟩

end Evnt

end CBPseudo
