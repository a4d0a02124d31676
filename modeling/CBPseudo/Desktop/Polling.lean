import CBPseudo.Desktop.Polls
import CBPseudo.Desktop.Transparency
import CBPseudo.Evnt.IdleTrace

/-!
# Applications with an event loop

No application with an event loop can tell the substitutes from the
libraries made faulty either: those for the polling functions from the
event library's own programs, in which an error may be injected at the
start and into each call of a handler. So a test that fails one call at a
time goes through what handlers do as well.
-/

namespace CBPseudo

open Common

namespace Desktop

variable {σ α : Type}

/-! ## The event library itself -/

/-- The start of a polling call, into which an error may be injected, beside
an interface. -/
abbrev started (J : Interface) : Interface where
  Call := Option J.Call
  Answer
    | none => Option KernelOserror
    | some c => J.Answer c

section Real

variable (E : Events σ)

/-- What polling calls are made of. -/
abbrev Events.parts : Interface := calls.sum (started E.own)

/-- The libraries, with the event library's own steps. -/
def Events.strict (S : Setting σ) (L : Libs σ) : Library E.parts Fault (Evnt.Registries × σ)
  | .inl c => L.strict S c
  | .inr none => fun y => .ok ((none : Option KernelOserror), y)
  | .inr (some c) => beside E.answer c

/-- What refusing a part comes to: a polling call can be refused at its
start. -/
def Events.refusal (K : Kernel) (L : Libs σ) : Refusal E.parts (Evnt.Registries × σ)
  | .inl c => Desktop.refusal K L c
  | .inr none => some fun y => ((some (oom K) : Option KernelOserror), y)
  | .inr (some _) => none

/-- The error that an answer to a part reports. -/
def Events.error : (c : E.parts.Call) → E.parts.Answer c → Option KernelOserror
  | .inl c, r => c.error r
  | .inr none, e => e
  | .inr (some _), _ => none

/-- A call of a handler, or a step of the event library's own. -/
def Events.part : (c : (calls.sum E.own).Call) → Client E.parts ((calls.sum E.own).Answer c)
  | .inl c => .call (.inl c) .done
  | .inr c => .call (.inr (some c)) .done

/-- **A polling call**, in full. -/
def PollCall.inFull (c : PollCall) : Client E.parts (polls.Answer c) :=
  .call (.inr none) fun e =>
    match (e : Option KernelOserror) with
    | some e => .done (some e, c.polled none)
    | none => ((c.program E).via E.part).bind fun r => .done (r.1, c.polled r.2)

/-- **A call of an application with an event loop**, in full. -/
def Events.inFull : (c : (calls.sum polls).Call) → Client E.parts ((calls.sum polls).Answer c)
  | .inl c => .call (.inl c) .done
  | .inr c => c.inFull E

end Real

variable {E : Events σ} {B : Build σ} {L : Libs σ} {S : Setting σ} {P : Evnt.PollLib (Besides σ)}
variable {c : PollCall} {x : Layer × σ} {y y' : Evnt.Registries × σ} {f : Schedule}

/-! ## Parts -/

/-- A call of the application's, or of a handler's, is a part by itself. -/
theorem faulty_call (c : Call) (z : Schedule × (Evnt.Registries × σ)) :
    faulty (E.refusal S.kernel L) (E.strict S L) (.inl c) z =
      faulty (refusal S.kernel L) (L.strict S) c z := by
  have hrefuse : ∀ c : Call, E.refusal S.kernel L (.inl c) = refusal S.kernel L c := fun _ => rfl
  have hstrict : ∀ (c : Call) y, E.strict S L (.inl c) y = L.strict S c y := fun _ _ => rfl
  exact faulty_inl (I := calls) (J := started E.own) hrefuse hstrict c z

/-- The event library's own steps are never refused. -/
theorem faulty_own (c : E.own.Call) (z : Schedule × (Evnt.Registries × σ)) :
    faulty (E.refusal S.kernel L) (E.strict S L) (.inr (some c)) z =
      beside (beside E.answer) c z := by
  obtain ⟨f, held, env⟩ := z
  have hrefuse : E.refusal S.kernel L (.inr (some c)) = none := rfl
  have hstrict : E.strict S L (.inr (some c)) (held, env) = beside E.answer c (held, env) := rfl
  rw [faulty_of_none (I := E.parts) hrefuse, hstrict]
  unfold beside
  simp only
  rcases E.answer c env with e | ⟨r, env'⟩ <;> rfl

/-- **The parts are what the event library's programs are run by.** -/
theorem calling_part :
    (faulty (E.refusal S.kernel L) (E.strict S L)).calling E.part =
      (faulty (refusal S.kernel L) (L.strict S)).sum (beside (beside E.answer)) := by
  funext c z
  cases c with
  | inl c => exact result_call_done.trans (faulty_call c z)
  | inr c => exact result_call_done.trans (faulty_own c z)

/-- **A polling call in full** is an error, or the event library's program. -/
theorem calling_inFull (c : PollCall) (z : Schedule × (Evnt.Registries × σ)) :
    (faulty (E.refusal S.kernel L) (E.strict S L)).calling (I := polls) (PollCall.inFull E) c z =
      E.polling S (faulty (refusal S.kernel L) (L.strict S)) (fun _ y => y) c z := by
  obtain ⟨f, y⟩ := z
  have hrefuse : E.refusal S.kernel L (.inr none) =
      some fun y => ((some (oom S.kernel) : Option KernelOserror), y) := rfl
  rw [Library.calling, PollCall.inFull, result_call, Events.polling]
  cases hf : f 0 with
  | false =>
    rw [faulty_of_false hrefuse hf]
    rfl
  | true =>
    have hstart : E.strict S L (.inr none) y = .ok ((none : Option KernelOserror), y) := rfl
    rw [faulty_of_true hrefuse hf, hstart]
    simp only [if_true, result_bind, result_via, calling_part, Events.run]
    generalize (c.program E).result _ (f.rest, y) = outcome
    rcases outcome with e | ⟨⟨_ | e, written⟩, z⟩ <;> rfl

/-! ## Applications -/

/-- **Tracking an event** goes unnoticed by the libraries. -/
theorem printEvent_corresponds (A : Allocator) (event : ℤ × WimpPollBlock) (f : Schedule)
    (h : Corresponds x y) :
    ∃ w, Evnt.printEvent A event.1 event.2 (E.world (f, x)) = .ok w ∧
      OnSchedule Corresponds (ofWorld w) (f, y) := by
  obtain ⟨tbox, hprint, howned⟩ := Evnt.printEvent_owned (w := E.world (f, x)) A event.1 event.2
    h.passesOn.owned
  exact ⟨_, hprint, rfl, h.env_eq, h.counts,
    h.passesOn.of_tbox howned (Evnt.printEvent_saveAs hprint)⟩

theorem substitutes_alike (hL : L.Documented) (hB : ∀ x, (B.malloc x).Generous)
    (P : Evnt.PollLib (Besides σ)) :
    AnswerAlike (OnSchedule Corresponds) (E.substitutes B L P)
      ((faulty (E.refusal B.kernel L) (E.strict B.toSetting L)).calling E.inFull) := by
  have hlibrary := library_alike hL hB
  intro c x z h
  cases c with
  | inl c =>
    rw [Library.calling, Events.inFull, result_call_done, faulty_call (S := B.toSetting)]
    exact hlibrary c x z h
  | inr c =>
    have hpolls : AnswerAlike (OnSchedule Corresponds) (E.library B L P) (E.polling B.toSetting
        (faulty (refusal B.kernel L) (L.strict B.toSetting)) fun _ y => y) :=
      events_library_alike P hlibrary (fun _ _ h => h.env_eq)
        (fun _ _ _ h => ⟨rfl, h.counts, h.passesOn⟩)
        (fun A f _ _ event _ h => printEvent_corresponds A event f h) hB
    have hpoll := hpolls c x z h
    rw [← calling_inFull] at hpoll
    exact hpoll

/-- **No application with an event loop can tell the substitutes from the
libraries made faulty.** Whatever it does, in its main program and in the
handlers that polling runs, and whichever errors are injected into the
calls of either or into the polling calls, it comes to the same end, or
goes wrong in the same way, and leaves the libraries in the same state. -/
theorem event_loop_is_faulty (hL : L.Documented) (hB : ∀ x, (B.malloc x).Generous) (E : Events σ)
    (P : Evnt.PollLib (Besides σ)) (client : Client (calls.sum polls) α) (f : Schedule)
    (h : Corresponds x y) :
    Alike (OnSchedule Corresponds) (client.result (E.substitutes B L P) (f, x))
      ((client.via E.inFull).result (faulty (E.refusal B.kernel L) (E.strict B.toSetting L))
        (f, y)) := by
  rw [result_via]
  exact result_alike (substitutes_alike hL hB P) client ⟨rfl, h⟩

/-- A refused part tells the simulated error, and but for a redraw leaves the
libraries alone. -/
theorem refusal_part {c : E.parts.Call} {refuse} (h : E.refusal S.kernel L c = some refuse)
    (y : Evnt.Registries × σ) :
    E.error c (refuse y).1 = some (oom S.kernel) ∧ (refuse y).2.1 = y.1 ∧
      ((∀ c', c = .inl c' → Call.isRedraw c' = false) → (refuse y).2 = y) := by
  rcases c with c | (_ | c)
  · have h : refusal S.kernel L c = some refuse := h
    have hfail : Call.canFail c = true := by rw [← isSome_refusal (K := S.kernel), h]; rfl
    obtain rfl : refusing S.kernel L c = refuse := Option.some.inj ((if_pos hfail).symm.trans h)
    exact ⟨error_refused S.kernel L c y.2, rfl,
      fun hc => Prod.ext rfl (refused_snd (hc c rfl))⟩
  · obtain rfl := Option.some.inj h
    exact ⟨rfl, rfl, fun _ => rfl⟩
  · cases h

/-- **A test that fails one call at a time goes through an event loop too.**
Of all that the application does with the libraries, call by call, in its
main program and in its handlers, each part into which an error can be
injected is made to fail by one schedule: the application gets to it as it
did, is told the simulated error, and goes on with the libraries in the
state that they were in, or, if it redraws a window, in the state after the
redraw. By a schedule past the last of them none is, and the application
does what it did. -/
theorem event_loop_failures_one_by_one (hL : L.Documented) (hB : ∀ x, (B.malloc x).Generous)
    (E : Events σ) (P : Evnt.PollLib (Besides σ)) (client : Client (calls.sum polls) α)
    (hx : Corresponds x y) {a : α} {log : List (Exchange E.parts)}
    (h : (client.via E.inFull).run (E.strict B.toSetting L) y = .ok ((a, log), y')) :
    (∀ n, asked (E.refusal B.kernel L) log ≤ n → ∃ z,
      client.result (E.substitutes B L P) (.allBut n, x) = .ok (a, z) ∧ Corresponds z.2 y') ∧
    ∀ before c r after, log = before ++ ⟨c, r⟩ :: after →
      ∀ refuse, E.refusal B.kernel L c = some refuse →
      ∃ y₁ next,
        Run (Exchanges (E.strict B.toSetting L)) y before y₁ ∧
        (client.via E.inFull).After before (.call c next) ∧
        E.error c (refuse y₁).1 = some (oom B.kernel) ∧
        ((∀ c', c = .inl c' → Call.isRedraw c' = false) → (refuse y₁).2 = y₁) ∧
        Alike (fun (z : Schedule × (Layer × σ)) y' => z.1 = .always ∧ Corresponds z.2 y')
          (client.result (E.substitutes B L P)
            (.allBut (asked (E.refusal B.kernel L) before), x))
          ((next (refuse y₁).1).result (E.strict B.toSetting L) (refuse y₁).2) := by
  constructor
  · intro n hn
    have halike := event_loop_is_faulty hL hB E P client (.allBut n) hx
    rw [Client.result, Client.result, run_allBut_of_le h hn] at halike
    obtain ⟨z, hz, -, hcorr⟩ := halike.to_ok
    exact ⟨z, hz, hcorr⟩
  · rintro before c r after rfl refuse hrefuse
    obtain ⟨y₁, next, hbefore, hafter, halike⟩ := run_allBut_of_split hrefuse h
    obtain ⟨herror, -, hsame⟩ := refusal_part (S := B.toSetting) hrefuse y₁
    refine ⟨y₁, next, hbefore, hafter, herror, hsame, ?_⟩
    have hunlogged := halike.unlogged
    rw [unlogged_prepend] at hunlogged
    refine ((event_loop_is_faulty hL hB E P client _ hx).comp hunlogged).mono ?_
    rintro z y' ⟨u, ⟨hf, hcorr⟩, hu, rfl⟩
    exact ⟨hf.trans hu, hcorr⟩

/-! ## An application -/

/-- The event of an object that the Toolbox has created by itself. -/
def autoCreated : ℤ × WimpPollBlock :=
  (wimpEToolboxEvent, Evnt.toolboxEventBlock toolboxObjectAutoCreated)

/-- An event library that polls that event, of object 9, and runs a message
handler if it is there. -/
def Events.plain : Events Plain where
  own := ⟨Unit, fun _ => Bool⟩
  answer _ env := .ok (decide (quitHandler ∈ env.1.msg), env)
  eventPoll _ := .call (.inr ()) fun held =>
    match (held : Bool) with
    | true => .call (.inl (.handlers (.deregisterMessage quitHandler))) fun e =>
        .done (e, some autoCreated)
    | false => .done (none, some autoCreated)
  eventPollIdle _ _ := .done (none, none)
  idBlock _ _ := ⟨9⟩

/-- The polling functions' world has other functions, which are not
called. -/
def idlePoll : Evnt.PollLib (Besides Plain) where
  eventGetMask w := (none, 0, w)
  wimpPoll _ _ w := (none, wimpENull, ⟨fun _ => 0⟩, w)
  eventDispatch _ _ w := .ok (none, w)
  eventPoll ec pb _ w := .ok (none, ec, pb, w)
  eventPollIdle ec pb _ _ w := .ok (none, ec, pb, w)

/-- An application that registers a handler, which deregisters itself, and
polls. -/
def looping : Client (calls.sum polls) (Option KernelOserror) :=
  .call (.inl (.handlers (.registerMessage quitHandler))) fun _ =>
    .call (.inr (.eventPoll (some 0) none none)) fun r =>
      .done (r : Option KernelOserror × Evnt.Polled).1

theorem event_loop_is_faulty_looping :
    Alike (OnSchedule Corresponds)
      (looping.result (Events.plain.substitutes .plain .plain idlePoll)
        (.allBut 1, (.initial, .initial)))
      ((looping.via Events.plain.inFull).result
        (faulty (Events.plain.refusal .plain .plain)
          (Events.plain.strict Build.plain.toSetting .plain))
        (.allBut 1, (⟨0, 0, 0⟩, .initial))) :=
  event_loop_is_faulty (B := .plain) Libs.plain_documented (fun _ => Allocator.next_generous)
    Events.plain idlePoll looping _ (corresponds_initial _)

/-- Its polling is made to fail, before its handler is run. -/
theorem event_loop_failures_one_by_one_looping :
    let before : List (Exchange Events.plain.parts) :=
      [⟨.inl (.handlers (.registerMessage quitHandler)), (none : Option KernelOserror)⟩]
    let refuse := fun y : Evnt.Registries × Plain => ((some (oom .plain) : Option KernelOserror), y)
    ∃ y₁ next,
      Run (Exchanges (Events.plain.strict Build.plain.toSetting .plain)) (⟨0, 0, 0⟩, .initial)
        before y₁ ∧
      (looping.via Events.plain.inFull).After before (.call (.inr none) next) ∧
      Events.plain.error (.inr none) (refuse y₁).1 = some (oom .plain) ∧
      ((∀ c', (.inr none : Events.plain.parts.Call) = .inl c' → Call.isRedraw c' = false) →
        (refuse y₁).2 = y₁) ∧
      Alike (fun (z : Schedule × (Layer × Plain)) y' => z.1 = .always ∧ Corresponds z.2 y')
        (looping.result (Events.plain.substitutes .plain .plain idlePoll)
          (.allBut 1, (.initial, .initial)))
        ((next (refuse y₁).1).result (Events.plain.strict Build.plain.toSetting .plain)
          (refuse y₁).2) := by
  intro before refuse
  have h : (looping.via Events.plain.inFull).run
      (Events.plain.strict Build.plain.toSetting .plain) (⟨0, 0, 0⟩, .initial) =
      .ok ((none, before ++ ⟨.inr none, (none : Option KernelOserror)⟩ ::
        [⟨.inr (some ()), true⟩, ⟨.inl (.handlers (.deregisterMessage quitHandler)),
          (none : Option KernelOserror)⟩]), (⟨0, 0, 0⟩, .initial)) := by
    rfl
  exact (event_loop_failures_one_by_one (B := .plain) Libs.plain_documented
    (fun _ => Allocator.next_generous) Events.plain idlePoll looping
    (corresponds_initial _) h).2 before (.inr none) none _ rfl refuse rfl

end Desktop

end CBPseudo
