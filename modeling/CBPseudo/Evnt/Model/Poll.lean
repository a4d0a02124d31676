import CBPseudo.Evnt.Model.Handlers
import CBPseudo.Tbox.Model.Objects

/-!
# Polling — the code

The part of `PseudoEvnt.c` that polls: the two substitutes for the event
library's polling functions, `pseudo_event_wait_for_idle`, and
`print_event`, by which each of them tracks the objects that the Toolbox
reports as created or deleted.

Polling runs the client's handlers, and those call back into this library
and the Toolbox: a polling function takes and returns the whole `World`.
-/

namespace CBPseudo

open Common

namespace Evnt

/-- What is read of the Toolbox's ID block. -/
structure IdBlock where
  selfId : ObjectId

/-- **The world**: this library's state, the client's ID blocks, and the
rest. -/
structure World (σ : Type) where
  evnt : State
  tbox : Tbox.State
  idBlocks : Addr → IdBlock
  env : σ

/-- **The libraries that poll.** A function that the code hands a variable
takes what the variable held and returns what it leaves there. -/
structure PollLib (σ : Type) where
  eventGetMask : World σ → Option KernelOserror × UInt32 × World σ
  wimpPoll : UInt32 → ℤ → World σ → Option KernelOserror × ℤ × WimpPollBlock × World σ
  eventDispatch : ℤ → WimpPollBlock → World σ → Except Fault (Option KernelOserror × World σ)
  eventPoll : ℤ → WimpPollBlock → Option Addr → World σ →
    Except Fault (Option KernelOserror × ℤ × WimpPollBlock × World σ)
  eventPollIdle : ℤ → WimpPollBlock → UInt32 → Option Addr → World σ →
    Except Fault (Option KernelOserror × ℤ × WimpPollBlock × World σ)

variable {σ : Type} (K : Kernel) (P : PollLib σ)

/-- Track what a Toolbox event reports. -/
def printEvent (A : Allocator) (eventCode : ℤ) (pollBlock : WimpPollBlock) (w : World σ) :
    Except Fault (World σ) :=
  if eventCode = wimpEUserMessage ∨ eventCode = wimpEUserMessageAcknowledge ∨
      eventCode = wimpEUserMessageRecorded then .ok w
  else if eventCode = wimpEToolboxEvent then
    if pollBlock.words WimpPollBlock.eventCodeWord = toolboxObjectAutoCreated then
      match w.evnt.clientBlock with
      | none => .ok w
      | some clientBlock =>
        .ok { w with tbox := Tbox.pseudoToolboxObjectCreated A (w.idBlocks clientBlock).selfId
                               w.tbox }
    else if pollBlock.words WimpPollBlock.eventCodeWord = toolboxObjectDeleted then
      match w.evnt.clientBlock with
      | none => .ok w
      | some clientBlock => do
        let tbox ← Tbox.pseudoToolboxObjectDeleted (w.idBlocks clientBlock).selfId w.tbox
        .ok { w with tbox := tbox }
    else .ok w
  else .ok w

/-- What the local variables that stand in for null pointers hold. -/
structure Locals where
  ec : ℤ
  pb : WimpPollBlock

/-- What a polling function leaves in the caller's variables, those that
the caller passed a pointer to. -/
structure Polled where
  eventCode : Option ℤ
  pollBlock : Option WimpPollBlock

/-- The body of the two substitutes: poll, then track the event polled. -/
def pollAndPrint (poll : ℤ → WimpPollBlock → World σ →
      Except Fault (Option KernelOserror × ℤ × WimpPollBlock × World σ))
    (A : Allocator) (allow : Bool) (eventCode : Option ℤ) (pollBlock : Option WimpPollBlock)
    (locals : Locals) (w : World σ) : Except Fault (Option KernelOserror × Polled × World σ) :=
  match pseudokernFail K allow with
  | some e => .ok (some e, ⟨eventCode, pollBlock⟩, w)
  | none => do
    let (e, ec, pb, w) ← poll (eventCode.getD locals.ec) (pollBlock.getD locals.pb) w
    let polled : Polled := ⟨eventCode.map fun _ => ec, pollBlock.map fun _ => pb⟩
    match e with
    | some e => .ok (some e, polled, w)
    | none => do
      let w ← printEvent A ec pb w
      .ok (none, polled, w)

/-- The substitute for `event_poll`. -/
def pseudoEventPoll (A : Allocator) (allow : Bool) (eventCode : Option ℤ)
    (pollBlock : Option WimpPollBlock) (pollWord : Option Addr) (locals : Locals) (w : World σ) :
    Except Fault (Option KernelOserror × Polled × World σ) :=
  pollAndPrint K (fun ec pb w => P.eventPoll ec pb pollWord w) A allow eventCode pollBlock locals w

/-- The substitute for `event_poll_idle`. -/
def pseudoEventPollIdle (A : Allocator) (allow : Bool) (eventCode : Option ℤ)
    (pollBlock : Option WimpPollBlock) (earliest : UInt32) (pollWord : Option Addr)
    (locals : Locals) (w : World σ) :
    Except Fault (Option KernelOserror × Polled × World σ) :=
  pollAndPrint K (fun ec pb w => P.eventPollIdle ec pb earliest pollWord w) A allow eventCode
    pollBlock locals w

/-! ## Waiting for idle -/

/-- **A call made while waiting**, and what it answered: the record that
the model keeps of a wait. -/
inductive IdleCall
  /-- `event_get_mask`. -/
  | getMask (e : Option KernelOserror) (mask : UInt32)
  /-- `wimp_poll`. -/
  | poll (mask : UInt32) (e : Option KernelOserror) (eventCode : ℤ) (pollBlock : WimpPollBlock)
  /-- `print_event`. -/
  | print (eventCode : ℤ) (pollBlock : WimpPollBlock)
  /-- `event_dispatch`. -/
  | dispatch (eventCode : ℤ) (pollBlock : WimpPollBlock) (e : Option KernelOserror)

/-- The body of the loop: the error, the event code and the world it ends
with, and the calls it made. -/
def waitForIdleBody (A : Allocator) (eventCode : ℤ) (w : World σ) :
    Except Fault (Option KernelOserror × ℤ × World σ × List IdleCall) :=
  match P.eventGetMask w with
  | (some e, mask, w) => .ok (some e, eventCode, w, [.getMask (some e) mask])
  | (none, mask, w) =>
    let pollMask := mask &&& ~~~wimpPollNullMask
    match P.wimpPoll pollMask eventCode w with
    | (some e, ec, pb, w) =>
      .ok (some e, ec, w, [.getMask none mask, .poll pollMask (some e) ec pb])
    | (none, ec, pb, w) =>
      if ec ≠ wimpENull then do
        let w ← printEvent A ec pb w
        let (e, w) ← P.eventDispatch ec pb w
        .ok (e, ec, w, [.getMask none mask, .poll pollMask none ec pb, .print ec pb,
          .dispatch ec pb e])
      else .ok (none, ec, w, [.getMask none mask, .poll pollMask none ec pb])

/-- The loop, with its counter. The allocator's answer differs from one
turn to the next. -/
def waitForIdleLoop (A : ℕ → Allocator) :
    ℕ → ℤ → World σ → Except Fault (Option KernelOserror × World σ × List IdleCall)
  | count, eventCode, w => do
    let (e, eventCode, w, calls) ← waitForIdleBody P (A count) eventCode w
    if e = none ∧ eventCode ≠ wimpENull then
      match count with
      | 0 => .ok (e, w, calls)
      | count + 1 => do
        let (e, w, more) ← waitForIdleLoop A count eventCode w
        .ok (e, w, calls ++ more)
    else .ok (e, w, calls)

/-- Deliver events until there are no more. -/
def pseudoEventWaitForIdle (A : ℕ → Allocator) (w : World σ) :
    Except Fault (Option KernelOserror × World σ × List IdleCall) :=
  waitForIdleLoop P A 511 wimpENull w

end Evnt

end CBPseudo
