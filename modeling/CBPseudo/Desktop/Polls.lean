import CBPseudo.Common.Callbacks
import CBPseudo.Desktop.Calls

/-!
# Polling calls

An application spends its life in `event_poll`, which calls it back: the
handlers that it has registered are programs of their own, and their calls
go to the substitutes too. What the event library does in a polling call
is a parameter, `Events`: a program that takes steps of its own and runs
handlers. The substitutes for the polling functions inject errors, run
that program, and track the event polled.
-/

namespace CBPseudo

open Common

namespace Desktop

variable {σ τ α : Type}

/-- **A polling call.** -/
inductive PollCall
  | eventPoll (eventCode : Option ℤ) (pollBlock : Option WimpPollBlock) (pollWord : Option Addr)
  | eventPollIdle (eventCode : Option ℤ) (pollBlock : Option WimpPollBlock) (earliest : UInt32)
      (pollWord : Option Addr)

/-- The interface of the polling functions. -/
abbrev polls : Interface := ⟨PollCall, fun _ => Option KernelOserror × Evnt.Polled⟩

/-- What a polling function does: it returns an error or none, and the event
that it leaves in the caller's variables, if it writes them. -/
abbrev Polling (I : Interface) := Client I (Option KernelOserror × Option (ℤ × WimpPollBlock))

/-- **The event library's polling**, on a state `σ`. Its functions take steps
that are its own, and run handlers, whose calls are the application's. -/
structure Events (σ : Type) where
  own : Interface
  answer : Library own Fault σ
  eventPoll : Option Addr → Polling (calls.sum own)
  eventPollIdle : UInt32 → Option Addr → Polling (calls.sum own)
  /-- The client's ID block at an address. -/
  idBlock : Addr → σ → Evnt.IdBlock

namespace PollCall

def eventCode : PollCall → Option ℤ
  | .eventPoll eventCode _ _ => eventCode
  | .eventPollIdle eventCode _ _ _ => eventCode

def pollBlock : PollCall → Option WimpPollBlock
  | .eventPoll _ pollBlock _ => pollBlock
  | .eventPollIdle _ pollBlock _ _ => pollBlock

/-- What the event library does in the call. -/
def program (E : Events σ) : PollCall → Polling (calls.sum E.own)
  | .eventPoll _ _ pollWord => E.eventPoll pollWord
  | .eventPollIdle _ _ earliest pollWord => E.eventPollIdle earliest pollWord

/-- The event polled: the one that is in the caller's variables, or in those
that stand in for null pointers. -/
def event (c : PollCall) (l : Evnt.Locals) (written : Option (ℤ × WimpPollBlock)) :
    ℤ × WimpPollBlock := written.getD (c.eventCode.getD l.ec, c.pollBlock.getD l.pb)

/-- What is then in the caller's variables, those that there are. -/
def polled (c : PollCall) (written : Option (ℤ × WimpPollBlock)) : Evnt.Polled where
  eventCode := c.eventCode.map fun ec => (written.map Prod.fst).getD ec
  pollBlock := c.pollBlock.map fun pb => (written.map Prod.snd).getD pb

/-- The substitute. -/
def exec (K : Kernel) (P : Evnt.PollLib τ) (A : Allocator) (allow : Bool)
    (locals : Evnt.Locals) (w : Evnt.World τ) :
    PollCall → Except Fault (Option KernelOserror × Evnt.Polled × Evnt.World τ)
  | .eventPoll eventCode pollBlock pollWord =>
    Evnt.pseudoEventPoll K P A allow eventCode pollBlock pollWord locals w
  | .eventPollIdle eventCode pollBlock earliest pollWord =>
    Evnt.pseudoEventPollIdle K P A allow eventCode pollBlock earliest pollWord locals w

end PollCall

/-! ## The substitutes -/

/-- What the polling functions' world has besides their own state. -/
abbrev Besides (σ : Type) := Schedule × Wimp.State × Wimp.Pointer × σ

/-- The state of the substitutes and the libraries, as the polling functions
see it. -/
def Events.world (E : Events σ) (x : Schedule × (Layer × σ)) : Evnt.World (Besides σ) where
  evnt := x.2.1.evnt
  tbox := x.2.1.tbox
  idBlocks := fun a => E.idBlock a x.2.2
  env := (x.1, x.2.1.wimp, x.2.1.pointer, x.2.2)

/-- And back. -/
def ofWorld (w : Evnt.World (Besides σ)) : Schedule × (Layer × σ) :=
  (w.env.1, (⟨w.evnt, w.tbox, w.env.2.1, w.env.2.2.1⟩, w.env.2.2.2))

@[simp] theorem ofWorld_world (E : Events σ) (x : Schedule × (Layer × σ)) :
    ofWorld (E.world x) = x := rfl

section Substitutes

variable (E : Events σ) (B : Build σ) (L : Libs σ)

/-- A program of the event library, run with the handlers' calls answered by a
library. Its own steps leave alone what is kept besides its state. -/
def Events.run (M : Library calls Fault (Schedule × (τ × σ)))
    (program : Polling (calls.sum E.own)) (x : Schedule × (τ × σ)) :
    Except Fault ((Option KernelOserror × Option (ℤ × WimpPollBlock)) × (Schedule × (τ × σ))) :=
  program.result (M.sum (beside (beside E.answer))) x

/-- A program of the event library, as a function of the caller's variables
and the world. -/
def Events.poll (program : Polling (calls.sum E.own)) (eventCode : ℤ) (pollBlock : WimpPollBlock)
    (w : Evnt.World (Besides σ)) :
    Except Fault (Option KernelOserror × ℤ × WimpPollBlock × Evnt.World (Besides σ)) :=
  match E.run (Desktop.library B L) program (ofWorld w) with
  | .error e => .error e
  | .ok ((e, written), x) =>
    let event := written.getD (eventCode, pollBlock)
    .ok (e, event.1, event.2, E.world x)

/-- The library that the substitutes for the polling functions call; they do
not call its other functions. -/
def Events.pollLib (P : Evnt.PollLib (Besides σ)) : Evnt.PollLib (Besides σ) :=
  { P with
    eventPoll := fun eventCode pollBlock pollWord =>
      E.poll B L (E.eventPoll pollWord) eventCode pollBlock
    eventPollIdle := fun eventCode pollBlock earliest pollWord =>
      E.poll B L (E.eventPollIdle earliest pollWord) eventCode pollBlock }

/-- **The substitutes for the polling functions**, by the schedule that the
other substitutes are by. -/
def Events.library (P : Evnt.PollLib (Besides σ)) : Library polls Fault (Schedule × (Layer × σ)) :=
  fun c (f, x) =>
    match c.exec B.kernel (E.pollLib B L P) (B.malloc x) (f 0) (B.locals x.2)
        (E.world (f.rest, x)) with
    | .error e => .error e
    | .ok (e, polled, w) => .ok ((e, polled), ofWorld w)

/-- The substitutes, with those for the polling functions. -/
abbrev Events.substitutes (P : Evnt.PollLib (Besides σ)) :
    Library (calls.sum polls) Fault (Schedule × (Layer × σ)) :=
  (Desktop.library B L).sum (E.library B L P)

end Substitutes

/-! ## Polling, next to something else -/

section Reference

variable (E : Events σ)

/-- **What the polling functions come to** where the calls of handlers are
answered by another library: an error is injected, or the event library
polls and `track` is told of the event. -/
def Events.polling (S : Setting σ) (M : Library calls Fault (Schedule × (τ × σ)))
    (track : ℤ × WimpPollBlock → τ × σ → τ × σ) : Library polls Fault (Schedule × (τ × σ)) :=
  fun c (f, y) =>
    if f 0 then
      match E.run M (c.program E) (f.rest, y) with
      | .error e => .error e
      | .ok ((some e, written), x) => .ok ((some e, c.polled written), x)
      | .ok ((none, written), (f', y')) =>
        .ok ((none, c.polled written), (f', track (c.event (S.locals y.2) written) y'))
    else .ok ((some (oom S.kernel), c.polled none), (f.rest, y))

end Reference

variable {E : Events σ} {B : Build σ} {L : Libs σ} {K : Kernel} {P : Evnt.PollLib (Besides σ)}
variable {c : PollCall} {R : Layer × σ → τ × σ → Prop}
variable {M : Library calls Fault (Schedule × (τ × σ))}

/-- The event library's programs are run alike where the calls of handlers
are answered alike. -/
theorem run_events_alike {υ : Type} {R : υ × σ → τ × σ → Prop}
    {N : Library calls Fault (Schedule × (υ × σ))} (hNM : AnswerAlike (OnSchedule R) N M)
    (henv : ∀ x y, R x y → x.2 = y.2) (hR : ∀ x y env, R x y → R (x.1, env) (y.1, env))
    (program : Polling (calls.sum E.own)) {x : Schedule × (υ × σ)} {y : Schedule × (τ × σ)}
    (h : OnSchedule R x y) : Alike (OnSchedule R) (E.run N program x) (E.run M program y) := by
  refine result_alike (hNM.sum (beside_alike ?_)) program h
  rintro c ⟨s, env⟩ ⟨t, env'⟩ h
  obtain rfl : env = env' := henv _ _ h
  unfold beside
  simp only
  rcases E.answer c env with e | ⟨r, env'⟩
  · exact .error
  · exact .ok (hR _ _ env' h)

/-- **Polling comes to the same** where the calls of handlers are answered alike
and events are tracked alike. -/
theorem polling_alike {υ : Type} {R : υ × σ → τ × σ → Prop}
    {N : Library calls Fault (Schedule × (υ × σ))} (S : Setting σ)
    {track : ℤ × WimpPollBlock → υ × σ → υ × σ} {track' : ℤ × WimpPollBlock → τ × σ → τ × σ}
    (hNM : AnswerAlike (OnSchedule R) N M) (henv : ∀ x y, R x y → x.2 = y.2)
    (hR : ∀ x y env, R x y → R (x.1, env) (y.1, env))
    (htrack : ∀ x y event, R x y → R (track event x) (track' event y)) :
    AnswerAlike (OnSchedule R) (E.polling S N track) (E.polling S M track') := by
  rintro c ⟨f, x⟩ ⟨_, y⟩ ⟨rfl, h⟩
  simp only [Events.polling]
  cases f 0 with
  | false => exact .ok ⟨rfl, h⟩
  | true =>
    have hrun := run_events_alike hNM henv hR (c.program E)
      (show OnSchedule R (f.rest, x) (f.rest, y) from ⟨rfl, h⟩)
    simp only [if_true, henv x y h]
    generalize E.run N (c.program E) (f.rest, x) = outcome at hrun ⊢
    generalize E.run M (c.program E) (f.rest, y) = outcome' at hrun ⊢
    cases hrun with
    | error => exact .error
    | @ok b x' y' hcorr =>
      obtain ⟨e, written⟩ := b
      cases e with
      | some e => exact .ok hcorr
      | none => exact .ok ⟨hcorr.1, htrack _ _ _ hcorr.2⟩

/-- The substitutes for the polling functions have one body. -/
theorem PollCall.exec_eq (A : Allocator) (allow : Bool) (l : Evnt.Locals)
    (w : Evnt.World (Besides σ)) :
    c.exec K (E.pollLib B L P) A allow l w =
      Evnt.pollAndPrint K (E.poll B L (c.program E)) A allow c.eventCode c.pollBlock l w := by
  cases c <;> rfl

/-- What the body leaves in the caller's variables. -/
theorem PollCall.polled_eq (l : Evnt.Locals) (written : Option (ℤ × WimpPollBlock)) :
    (⟨c.eventCode.map fun _ => (c.event l written).1,
      c.pollBlock.map fun _ => (c.event l written).2⟩ : Evnt.Polled) = c.polled written := by
  unfold PollCall.polled PollCall.event
  cases written <;> cases c.eventCode <;> cases c.pollBlock <;> rfl

/-- **The substitutes for the polling functions** come to the same as a
reference, where the other calls are answered alike and tracking an event
keeps what is kept in correspondence. -/
theorem events_library_alike (P : Evnt.PollLib (Besides σ))
    {track : ℤ × WimpPollBlock → τ × σ → τ × σ}
    (hM : AnswerAlike (OnSchedule R) (Desktop.library B L) M)
    (henv : ∀ x y, R x y → x.2 = y.2) (hR : ∀ x y env, R x y → R (x.1, env) (y.1, env))
    (htrack : ∀ A f x y event, A.Generous → R x y → ∃ w,
      Evnt.printEvent A event.1 event.2 (E.world (f, x)) = .ok w ∧
        OnSchedule R (ofWorld w) (f, track event y))
    (hB : ∀ x, (B.malloc x).Generous) :
    AnswerAlike (OnSchedule R) (E.library B L P) (E.polling B.toSetting M track) := by
  rintro c ⟨f, x⟩ ⟨_, y⟩ ⟨rfl, h⟩
  rw [Events.library, Events.polling]
  simp only [PollCall.exec_eq, Evnt.pollAndPrint]
  cases hf : f 0 with
  | false =>
    have hpolled : (⟨c.eventCode, c.pollBlock⟩ : Evnt.Polled) = c.polled none := by
      simp [PollCall.polled]
    simp only [pseudokernFail_false, hpolled]
    exact .ok ⟨rfl, h⟩
  | true =>
    simp only [pseudokernFail_true, if_true, Events.poll, ofWorld_world, ← henv x y h]
    -- the event library does the same in both
    have hrun := run_events_alike hM henv hR (c.program E)
      (show OnSchedule R (f.rest, x) (f.rest, y) from ⟨rfl, h⟩)
    generalize E.run (Desktop.library B L) (c.program E) (f.rest, x) = outcome at hrun ⊢
    generalize E.run M (c.program E) (f.rest, y) = outcome' at hrun ⊢
    cases hrun with
    | error => exact .error
    | @ok b x' y' hcorr =>
      obtain ⟨f', x'⟩ := x'
      obtain ⟨_, y'⟩ := y'
      obtain ⟨rfl, hcorr⟩ := hcorr
      obtain ⟨e, written⟩ := b
      have hpolled := PollCall.polled_eq (c := c) (B.locals x.2) written
      unfold PollCall.event at hpolled ⊢
      cases e with
      | some e =>
        simp only [ok_bind, hpolled]
        exact .ok ⟨rfl, hcorr⟩
      | none =>
        -- and the event is tracked
        obtain ⟨w, hprint, hw⟩ := htrack (B.malloc x) f' x' y'
          (written.getD (c.eventCode.getD (B.locals x.2).ec, c.pollBlock.getD (B.locals x.2).pb))
          (hB x) hcorr
        simp only [ok_bind, hprint, hpolled]
        exact .ok hw

end Desktop

end CBPseudo
