import CBPseudo.Common.Machine
import CBPseudo.Kern.Desktop
import CBPseudo.Kern.Fail

/-!
# The message trap — the code

The part of `PseudoWimp.c` that stands in for `wimp_send_message`. Once a
unit test has reset the trap, a message is no longer sent but recorded in
a table, for the test to read back.
-/

namespace CBPseudo

open Common

namespace Wimp

/-- The reason code by which `wimp_read_sys_info` returns a task handle. -/
def taskHandleAndVersion : ℤ := 5

/-- `Wimp_MPaletteChange`. -/
def wimpMPaletteChange : ℤ := 9

/-- The offset of the data in a message: the size of the header. -/
def messageDataOffset : ℤ := 20

/-- The size of the table. -/
def msgsSize : ℕ := 32

/-- **An entry of the table**: a message as it was sent. -/
structure Msg where
  code : ℤ
  block : WimpPollBlock
  handle : ℤ
  icon : ℤ

/-- **The trap**: its static variables, `my_ref` among them. -/
structure State where
  capture : Bool
  msgCount : ℕ
  msgs : Fin msgsSize → Msg
  myRef : ℤ
  /-- The count stays within the table. -/
  fits : msgCount ≤ msgsSize

/-- At start-up nothing is trapped, and the table holds zeros. -/
def State.initial : State where
  capture := false
  msgCount := 0
  msgs := fun _ => ⟨0, ⟨fun _ => 0⟩, 0, 0⟩
  myRef := 0
  fits := Nat.zero_le _

/-- What sending a message answers, and what it leaves in the caller's
block and in the variable for a task handle, where the caller passed a
pointer to one. -/
structure Sent where
  error : Option KernelOserror
  block : WimpPollBlock
  th : Option ℤ

/-- The functions of the Wimp's own that the trap calls. -/
structure MessageLib (σ : Type) where
  /-- `wimp_read_sys_info`: an error, and the first of the results. -/
  wimpReadSysInfo : ℤ → σ → (Option KernelOserror × ℤ) × σ
  /-- `wimp_send_message`. -/
  wimpSendMessage : ℤ → WimpPollBlock → ℤ → ℤ → Option ℤ → σ → Sent × σ

/-- Reset the trap, and enable it. -/
def pseudoWimpReset (s : State) : State :=
  { s with msgCount := 0, capture := true, fits := Nat.zero_le _ }

/-- The number of messages recorded. -/
def pseudoWimpGetMessageCount (s : State) : ℕ := s.msgCount

/-- Read a message's block. -/
def pseudoWimpGetMessage (debug : Bool) (index : ℕ) (s : State) : Except Fault WimpPollBlock := do
  cassert debug (index < s.msgCount)
  if h : index < msgsSize then .ok (s.msgs ⟨index, h⟩).block else .error .outOfBounds

/-- What reading a message leaves in the caller's variables, those that
the caller passed a pointer to. -/
structure Message2 where
  code : Option ℤ
  block : Option WimpPollBlock
  handle : Option ℤ
  icon : Option ℤ

/-- Read a message. -/
def pseudoWimpGetMessage2 (debug : Bool) (index : ℕ) (out : Message2) (s : State) :
    Except Fault Message2 := do
  cassert debug (index < s.msgCount)
  if h : index < msgsSize then
    let m := s.msgs ⟨index, h⟩
    .ok { code := out.code.map fun _ => m.code, block := out.block.map fun _ => m.block,
          handle := out.handle.map fun _ => m.handle, icon := out.icon.map fun _ => m.icon }
  else .error .outOfBounds

/-- The codes of user messages that the trap fills the sender and the
reference in for. -/
def IsUserMessage (code : ℤ) : Prop :=
  code = wimpEUserMessage ∨ code = wimpEUserMessageRecorded

instance (code : ℤ) : Decidable (IsUserMessage code) := inferInstanceAs (Decidable (_ ∨ _))

/-- The message by which the trap finds a task handle. -/
def query : WimpPollBlock :=
  (WimpPollBlock.setWord WimpPollBlock.sizeWord messageDataOffset ⟨fun _ => 0⟩).setWord
    WimpPollBlock.actionCodeWord wimpMPaletteChange

section Calls

variable {σ : Type} (K : Kernel) (L : MessageLib σ)

/-- The first thing done with a trapped message: a user message gets its
sender and its reference. -/
def fillInHeader (debug : Bool) (code : ℤ) (block : WimpPollBlock) (s : State) (env : σ) :
    Except Fault (Option KernelOserror × WimpPollBlock × State × σ) :=
  if IsUserMessage code then do
    let ((e, r0), env) := L.wimpReadSysInfo taskHandleAndVersion env
    cassert debug (e = none)
    let myRef ← toInt (s.myRef + 1)
    let block := (block.setWord WimpPollBlock.senderWord r0).setWord WimpPollBlock.myRefWord myRef
    .ok (e, block, { s with myRef := myRef }, env)
  else .ok (none, block, s, env)

/-- The second: the handle of the task that the message is for, found by
sending that task another message. -/
def findTaskHandle (debug : Bool) (e : Option KernelOserror) (handle icon : ℤ) (th : Option ℤ)
    (env : σ) : Except Fault (Option KernelOserror × Option ℤ × σ) :=
  if th.isSome ∧ handle ≠ 0 then do
    let (r, env) := L.wimpSendMessage wimpEUserMessageAcknowledge query handle icon th env
    cassert debug (r.error = none)
    .ok (r.error, r.th, env)
  else .ok (e, th, env)

/-- The third: it is recorded, if there is room. -/
def recordMessage (m : Msg) (s : State) : State :=
  if h : s.msgCount < msgsSize then
    { s with msgs := Function.update s.msgs ⟨s.msgCount, h⟩ m, msgCount := s.msgCount + 1,
             fits := h }
  else s

/-- Send a message, or trap it. -/
def pseudoWimpSendMessage (debug allow : Bool) (code : ℤ) (block : WimpPollBlock) (handle icon : ℤ)
    (th : Option ℤ) (s : State) (env : σ) : Except Fault (Sent × State × σ) :=
  match pseudokernFail K allow with
  | some e => .ok (⟨some e, block, th⟩, s, env)
  | none =>
    if s.capture then do
      let (e, block, s, env) ← fillInHeader L debug code block s env
      let (e, th, env) ← findTaskHandle L debug e handle icon th env
      .ok (⟨e, block, th⟩, recordMessage ⟨code, block, handle, icon⟩ s, env)
    else
      let (r, env) := L.wimpSendMessage code block handle icon th env
      .ok (r, s, env)

end Calls

end Wimp

end CBPseudo
