import CBPseudo.Desktop.Polls
import CBPseudo.Evnt.Events
import CBPseudo.Tbox.ReadBack
import CBPseudo.Wimp.Sends

/-!
# The test bench

What a unit test asks of the substitutes, beside what the program under
test calls: to trap messages and read them back, to say where the pointer
is, to record what is saved, and to tell which objects there are.

`Bench` is what all of this is for, without the tables, the allocations
and the flags: a list of messages, a pointer, a list of objects, two
recorders, and the handlers registered. `Bench.library` answers the program
and its handlers, `Bench.polling` is the program's polling, and
`Bench.tests` answers the unit test. Where the bench has nothing of its own
to answer with, the libraries answer. Left out is
`pseudo_event_wait_for_idle`, by which a unit test polls.
-/

namespace CBPseudo

open Common

namespace Desktop

/-! ## The unit test's calls -/

/-- **A call of a unit test.** -/
inductive TestCall
  /-- `pseudo_event_get_client_id_block`. -/
  | getClientIdBlock
  /-- `pseudo_wimp_reset`. -/
  | wimpReset
  /-- `pseudo_wimp_get_message_count`. -/
  | getMessageCount
  /-- `pseudo_wimp_get_message`. -/
  | getMessage (index : ℕ)
  /-- `pseudo_wimp_get_message2`. -/
  | getMessage2 (index : ℕ) (out : Wimp.Message2)
  /-- `pseudo_wimp_set_pointer_info`. -/
  | setPointerInfo (block : Wimp.WimpGetPointerInfoBlock)
  /-- `pseudo_toolbox_reset`. -/
  | toolboxReset
  /-- `pseudo_toolbox_object_is_showing`. -/
  | objectIsShowing (id : ObjectId)
  /-- `pseudo_toolbox_find_by_template_name`. -/
  | findByTemplateName (templateName : CString)
  /-- `pseudo_toolbox_object_created`. -/
  | objectCreated (id : ObjectId)
  /-- `pseudo_toolbox_object_deleted`. -/
  | objectDeleted (id : ObjectId)
  /-- `pseudo_saveas_reset_buffer_filled`. -/
  | resetBufferFilled
  /-- `pseudo_saveas_get_buffer_filled`. -/
  | getBufferFilled (flags : Option UInt32) (buffer : Option (List UInt8)) (buffSize : CInt)
      (nbytes : Option ℤ)
  /-- `pseudo_saveas_reset_file_save_completed`. -/
  | resetFileSaveCompleted
  /-- `pseudo_saveas_get_file_save_completed`. -/
  | getFileSaveCompleted (flags : Option UInt32) (buffer : Option (List UInt8)) (buffSize : CInt)
      (nbytes : Option ℤ)

/-- What it is answered with. -/
def TestCall.Answer : TestCall → Type
  | .getClientIdBlock => Option Addr
  | .getMessageCount => ℕ
  | .getMessage _ => WimpPollBlock
  | .getMessage2 _ _ => Wimp.Message2
  | .objectIsShowing _ => Bool
  | .findByTemplateName _ => ObjectId
  | .getBufferFilled _ _ _ _ | .getFileSaveCompleted _ _ _ _ => Tbox.SaveAsReply
  | _ => Unit

/-- The interface of the unit test. -/
abbrev testCalls : Interface := ⟨TestCall, TestCall.Answer⟩

/-- **A test session**: a unit test and the program under test, as one
client. -/
abbrev session : Interface := (calls.sum polls).sum testCalls

section Substitutes

variable {σ : Type} (B : Build σ) (N : Tbox.TemplateLib σ)

/-- **What the unit test is answered.** -/
def TestCall.exec : (c : TestCall) → Layer × σ → Except Fault (c.Answer × (Layer × σ))
  | .getClientIdBlock, (s, env) => .ok (Evnt.pseudoEventGetClientIdBlock s.evnt, (s, env))
  | .wimpReset, (s, env) => .ok ((), ({ s with wimp := Wimp.pseudoWimpReset s.wimp }, env))
  | .getMessageCount, (s, env) => .ok (Wimp.pseudoWimpGetMessageCount s.wimp, (s, env))
  | .getMessage index, (s, env) => do
    let block ← Wimp.pseudoWimpGetMessage B.debug index s.wimp
    .ok (block, (s, env))
  | .getMessage2 index out, (s, env) => do
    let out ← Wimp.pseudoWimpGetMessage2 B.debug index out s.wimp
    .ok (out, (s, env))
  | .setPointerInfo block, (s, env) =>
    .ok ((), ({ s with pointer := Wimp.pseudoWimpSetPointerInfo block s.pointer }, env))
  | .toolboxReset, (s, env) => .ok ((), ({ s with tbox := Tbox.pseudoToolboxReset s.tbox }, env))
  | .objectIsShowing id, (s, env) =>
    .ok (Tbox.pseudoToolboxObjectIsShowing id s.tbox, (s, env))
  | .findByTemplateName templateName, (s, env) => do
    let (id, env) ← Tbox.pseudoToolboxFindByTemplateName N B.debug templateName s.tbox env
    .ok (id, (s, env))
  | .objectCreated id, (s, env) =>
    let tbox := Tbox.pseudoToolboxObjectCreated (B.malloc (s, env)) id s.tbox
    .ok ((), ({ s with tbox := tbox }, env))
  | .objectDeleted id, (s, env) => do
    let tbox ← Tbox.pseudoToolboxObjectDeleted id s.tbox
    .ok ((), ({ s with tbox := tbox }, env))
  | .resetBufferFilled, (s, env) =>
    let saveAs := Tbox.pseudoSaveasResetBufferFilled s.tbox.saveAs
    .ok ((), ({ s with tbox := { s.tbox with saveAs := saveAs } }, env))
  | .getBufferFilled flags buffer buffSize nbytes, (s, env) => do
    let r ← Tbox.pseudoSaveasGetBufferFilled flags buffer buffSize.val nbytes s.tbox.saveAs
    .ok (r, (s, env))
  | .resetFileSaveCompleted, (s, env) =>
    let saveAs := Tbox.pseudoSaveasResetFileSaveCompleted s.tbox.saveAs
    .ok ((), ({ s with tbox := { s.tbox with saveAs := saveAs } }, env))
  | .getFileSaveCompleted flags buffer buffSize nbytes, (s, env) => do
    let r ← Tbox.pseudoSaveasGetFileSaveCompleted flags buffer buffSize.val nbytes s.tbox.saveAs
    .ok (r, (s, env))

/-- **The substitutes in a test session.** -/
def underTest (L : Libs σ) (E : Events σ) (P : Evnt.PollLib (Besides σ)) :
    Library session Fault (Schedule × (Layer × σ)) :=
  (E.substitutes B L P).sum (beside fun c x => TestCall.exec B N c x)

end Substitutes

/-! ## The bench -/

/-- **A recorder**: whether it takes the next call in, and what it holds. -/
structure Slot (α : Type) where
  armed : Bool
  held : Tbox.Recorded α

/-- A recorder that has been reset. -/
def Slot.reset {α : Type} (content : α) : Slot α := ⟨true, .none content⟩

/-- A recorder that has taken a call in. -/
def Slot.took {α : Type} (c : Tbox.Recorded α) : Slot α := ⟨false, c⟩

/-- **The bench.** -/
structure Bench where
  /-- The handlers that the program has registered, since it last initialised
  the event library. -/
  handlers : Evnt.Registries
  clientBlock : Option Addr
  /-- The messages since the trap was last reset, if it has been. -/
  trapped : Option (List Wimp.Msg)
  /-- The user messages trapped so far. -/
  references : ℤ
  /-- Where the pointer is said to be, if the unit test has said so. -/
  pointer : Option Wimp.WimpGetPointerInfoBlock
  /-- The objects, newest first. -/
  objects : List Tbox.PseudoTboxObject
  filled : Slot (List UInt8)
  saved : Slot CString

/-- At start-up. -/
def Bench.initial : Bench where
  handlers := ⟨0, 0, 0⟩
  clientBlock := none
  trapped := none
  references := 0
  pointer := none
  objects := []
  filled := ⟨false, .none []⟩
  saved := ⟨false, .none .empty⟩

/-- The messages that can be read back: there is room for so many. -/
def Bench.messages (t : Bench) : List Wimp.Msg := (t.trapped.getD []).take Wimp.msgsSize

/-- Write the newest record of an object. -/
def Bench.mark (id : ObjectId) (isShowing : Bool) (t : Bench) : Bench :=
  { t with objects := modifyFirst (fun r => id = r.objectId)
                        (fun r => { r with isShowing := isShowing }) t.objects }

/-- Drop the newest record of an object. -/
def Bench.drop (id : ObjectId) (t : Bench) : Bench :=
  { t with objects := t.objects.eraseP fun r => id = r.objectId }

/-- Record an object. -/
def Bench.record (id : ObjectId) (t : Bench) : Bench :=
  { t with objects := { objectId := id, isShowing := false } :: t.objects }

/-- Track what an event says of the object in the client's ID block, where that
is known. -/
def Bench.track (idBlocks : Addr → Evnt.IdBlock) (event : ℤ × WimpPollBlock) (t : Bench) : Bench :=
  match t.clientBlock.bind fun b => Evnt.tracked event.1 event.2 (idBlocks b).selfId with
  | some (.record id) => t.record id
  | some (.drop id) => t.drop id
  | _ => t

section Answers

variable {σ : Type} (S : Setting σ) (L : Libs σ) (E : Events σ) (N : Tbox.TemplateLib σ)

/-- Find a task's handle, where it is asked for. -/
def findTask (handle icon : ℤ) (th : Option ℤ) (env : σ) : Option ℤ × σ :=
  if th.isSome ∧ handle ≠ 0 then
    let (r, env) := L.wimp.wimpSendMessage wimpEUserMessageAcknowledge Wimp.query handle icon th env
    (r.th, env)
  else (th, env)

/-- **Trap a message**, after others: a user message has its sender and a
reference filled in. -/
def Bench.trap (t : Bench) (msgs : List Wimp.Msg) (code : ℤ) (block : WimpPollBlock)
    (handle icon : ℤ) (th : Option ℤ) (env : σ) : Except Fault (Wimp.Sent × (Bench × σ)) :=
  if Wimp.IsUserMessage code ∧ ¬ InInt (t.references + 1) then .error .intOverflow
  else
    let block := Wimp.stamped (L.wimp.taskHandle env) (t.references + 1) code block
    let env := if Wimp.IsUserMessage code then
      (L.wimp.wimpReadSysInfo Wimp.taskHandleAndVersion env).2 else env
    let (th, env) := findTask L handle icon th env
    let t := { t with
      trapped := some (msgs ++ [⟨code, block, handle, icon⟩])
      references := if Wimp.IsUserMessage code then t.references + 1 else t.references }
    .ok (⟨none, block, th⟩, (t, env))

/-- **What the program under test is answered.** -/
def Bench.answer : (c : Call) → Bench × σ → Except Fault (c.Answer × (Bench × σ))
  | .eventInitialise block, (t, env) =>
    let (e, env) := L.evnt.eventInitialise block env
    .ok (e, ({ t with handlers := ⟨0, 0, 0⟩, clientBlock := some block }, env))
  | .toolboxInitialise args, (t, env) =>
    let (e, env) := L.toolboxInitialise args env
    .ok (e, ({ t with objects := [] }, env))
  | .createObject flags nameOrTemplate id, (t, env) =>
    let (e, objectId, env') :=
      L.tbox.toolboxCreateObject flags nameOrTemplate (id.getD nullObjectId) env
    match e with
    | none => .ok ((none, id.map fun _ => objectId), (t.record objectId, env'))
    | some e => .ok ((some e, id.map fun _ => S.garbage env), (t, env'))
  | .deleteObject flags id, (t, env) =>
    let (e, env) := L.tbox.toolboxDeleteObject flags id env
    .ok (e, (t.drop id, env))
  | .showObject flags id showType type parent parentComponent, (t, env) =>
    let (e, env) := L.tbox.toolboxShowObject flags id showType type parent parentComponent env
    .ok (e, (t.mark id true, env))
  | .hideObject flags id, (t, env) =>
    let (e, env) := L.tbox.toolboxHideObject flags id env
    .ok (e, (t.mark id false, env))
  | .bufferFilled flags saveas buffer bytesWritten, (t, env) =>
    if t.filled.armed then
      if 0 ≤ bytesWritten.val ∧ bytesWritten.val ≤ Tbox.bufferFilledSize then
        if bytesWritten.val ≤ buffer.length then
          let content := buffer.take bytesWritten.val.toNat
          .ok (none, ({ t with filled := .took ⟨flags, saveas, content⟩ }, env))
        else .error .outOfBounds
      else .error .assertFailed
    else
      let (e, env) := L.saveAs.saveasBufferFilled flags saveas buffer bytesWritten.val env
      .ok (e, (t, env))
  | .fileSaveCompleted flags saveas filename, (t, env) =>
    if t.saved.armed then
      let content := filename.strcpySafe S.nameSize
      .ok (none, ({ t with saved := .took ⟨flags, saveas, content⟩ }, env))
    else
      let (e, env) := L.saveAs.saveasFileSaveCompleted flags saveas filename env
      .ok (e, (t, env))
  | .sendMessage code block handle icon th, (t, env) =>
    match t.trapped with
    | none =>
      let (r, env) := L.wimp.wimpSendMessage code block handle icon th env
      .ok (r, (t, env))
    | some msgs => t.trap L msgs code block handle icon th env
  | .getPointerInfo block, (t, env) =>
    match t.pointer with
    | none =>
      let (r, env) := L.wimp.wimpGetPointerInfo block env
      .ok (r, (t, env))
    | some said => .ok ((none, said), (t, env))
  | .transferBlock sh sbuf dh dbuf size, (t, env) =>
    if t.trapped.isSome then do
      let env ← L.memory.memcpy dbuf sbuf (toSizeT size) env
      .ok (none, (t, env))
    else
      let (e, env) := L.wimp.wimpTransferBlock sh sbuf dh dbuf size env
      .ok (e, (t, env))
  | c, (t, env) => do
    let (r, (handlers, env)) ← L.strict S c (t.handlers, env)
    .ok (r, ({ t with handlers := handlers }, env))

/-- The calls that are taken in whatever errors are injected. -/
def Bench.takesIn (t : Bench) : Call → Bool
  | .bufferFilled _ _ _ _ => t.filled.armed
  | .fileSaveCompleted _ _ _ => t.saved.armed
  | _ => false

/-- **The bench, as the program under test meets it**: made faulty. -/
def Bench.library : Library calls Fault (Schedule × (Bench × σ)) :=
  scheduled (fun c y => Call.canFail c && !y.1.takesIn c) fun c allow y =>
    if allow then Bench.answer S L c y else .ok (refusing S.kernel L c y)

/-- **The program's polling, as the bench has it.** -/
def Bench.polling : Library polls Fault (Schedule × (Bench × σ)) :=
  E.polling S (Bench.library S L) fun event (t, env) =>
    (t.track (fun a => E.idBlock a env) event, env)

/-- What the first recorder answers: the data that fit the buffer. -/
def replyData (c : Tbox.Recorded (List UInt8)) (flags : Option UInt32)
    (buffer : Option (List UInt8)) (buffSize : CInt) (nbytes : Option ℤ) :
    Except Fault Tbox.SaveAsReply := do
  let n := min buffSize.val c.content.length
  let buffer ← match buffer with
    | none => .ok none
    | some dest =>
      if 0 ≤ n ∧ n ≤ dest.length then .ok (some (Tbox.overwrite (c.content.take n.toNat) dest))
      else .error .outOfBounds
  .ok { id := c.id, flags := flags.map fun _ => c.flags, buffer := buffer,
        nbytes := nbytes.map fun _ => c.content.length }

/-- What the second answers: as much of the name as fits, and a NUL. -/
def replyName (c : Tbox.Recorded CString) (flags : Option UInt32) (buffer : Option (List UInt8))
    (buffSize : CInt) (nbytes : Option ℤ) : Except Fault Tbox.SaveAsReply := do
  let written := (c.content.truncate (buffSize.val - 1).toNat).chars ++ [0]
  let buffer ← match buffer with
    | none => .ok none
    | some dest =>
      if buffSize.val ≤ 0 then .ok (some dest)
      else if written.length ≤ dest.length then .ok (some (Tbox.overwrite written dest))
      else .error .outOfBounds
  .ok { id := c.id, flags := flags.map fun _ => c.flags, buffer := buffer,
        nbytes := nbytes.map fun _ => c.content.strlen + 1 }

/-- The first of some objects whose template has a name. -/
def firstOfTemplate (templateName : CString) : List ObjectId → σ → Except Fault (ObjectId × σ)
  | [], env => .ok (nullObjectId, env)
  | id :: ids, env =>
    match N.toolboxGetTemplateName 0 id Tbox.templateNameSize env with
    | (some _, _, _, env) => firstOfTemplate templateName ids env
    | (none, buffer, nbytes, env) =>
      if 0 ≤ nbytes ∧ toSizeT nbytes ≤ Tbox.templateNameSize then
        if buffer = templateName then .ok (id, env) else firstOfTemplate templateName ids env
      else .error .assertFailed

/-- **What the unit test is answered.** A message that has not been recorded
is a failed assertion. -/
def Bench.tests : Library testCalls Fault (Bench × σ)
  | .getClientIdBlock, (t, env) => .ok (t.clientBlock, (t, env))
  | .wimpReset, (t, env) => .ok ((), ({ t with trapped := some [] }, env))
  | .getMessageCount, (t, env) => .ok (t.messages.length, (t, env))
  | .getMessage index, (t, env) =>
    match t.messages[index]? with
    | none => .error .assertFailed
    | some m => .ok (m.block, (t, env))
  | .getMessage2 index out, (t, env) =>
    match t.messages[index]? with
    | none => .error .assertFailed
    | some m => .ok (m.reply out, (t, env))
  | .setPointerInfo block, (t, env) => .ok ((), ({ t with pointer := some block }, env))
  | .toolboxReset, (t, env) =>
    .ok ((), ({ t with objects := t.objects.map fun r => { r with isShowing := false }
                       filled := .reset [], saved := .reset .empty }, env))
  | .objectIsShowing id, (t, env) =>
    .ok ((t.objects.find? fun r => id = r.objectId).any (·.isShowing), (t, env))
  | .findByTemplateName templateName, (t, env) => do
    let (id, env) ← firstOfTemplate N templateName (t.objects.map (·.objectId)) env
    .ok (id, (t, env))
  | .objectCreated id, (t, env) => .ok ((), (t.record id, env))
  | .objectDeleted id, (t, env) => .ok ((), (t.drop id, env))
  | .resetBufferFilled, (t, env) => .ok ((), ({ t with filled := .reset [] }, env))
  | .getBufferFilled flags buffer buffSize nbytes, (t, env) => do
    let r ← replyData t.filled.held flags buffer buffSize nbytes
    .ok (r, (t, env))
  | .resetFileSaveCompleted, (t, env) => .ok ((), ({ t with saved := .reset .empty }, env))
  | .getFileSaveCompleted flags buffer buffSize nbytes, (t, env) => do
    let r ← replyName t.saved.held flags buffer buffSize nbytes
    .ok (r, (t, env))

/-- **The bench in a test session.** -/
def Bench.session : Library session Fault (Schedule × (Bench × σ)) :=
  ((Bench.library S L).sum (Bench.polling S L E)).sum (beside (Bench.tests N))

end Answers

end Desktop

end CBPseudo
