import CBPseudo.Common.Faulty
import CBPseudo.Evnt.Model.Poll
import CBPseudo.Evnt.Requests
import CBPseudo.Tbox.Model.Veneers
import CBPseudo.Wimp.Model.Veneers
import CBPseudo.Wimp.Redraw

/-!
# The calls of a desktop application

What an application calls of the event library, the Toolbox and the Wimp,
as one interface: all that the headers redirect but `event_poll` and
`event_poll_idle`, in which the application is called back (`PollCall`).
`Libs.answer` is what the libraries themselves answer, `substitute` what is
answered in their place.
-/

namespace CBPseudo

open Common

namespace Desktop

/-- **The libraries of the desktop**, on a state `σ`. -/
structure Libs (σ : Type) where
  evnt : Evnt.EventLib σ
  eventSetMask : UInt32 → σ → Option KernelOserror × σ
  tbox : Tbox.ToolboxLib σ
  toolboxInitialise : Tbox.InitialiseArgs → σ → Option KernelOserror × σ
  toolboxOther : Tbox.VeneerLib σ
  saveAs : Tbox.SaveAsLib σ
  wimp : Wimp.WimpLib σ
  redraw : Wimp.FiniteRedrawLib σ
  memory : Memory σ

/-- **What the substitutes keep.** -/
structure Layer where
  evnt : Evnt.State
  tbox : Tbox.State
  wimp : Wimp.State
  pointer : Wimp.Pointer

/-- What the substitutes are built with. What memory holds before it is
written is part of the world, as what other memory holds is: that of a
record, and that of a function's variables. -/
structure Setting (σ : Type) where
  kernel : Kernel
  debug : Bool
  nameSize : ℕ
  garbage : σ → ObjectId
  locals : σ → Evnt.Locals

/-- The same, with the allocator: its answer to the next request may depend on
everything before it. -/
structure Build (σ : Type) extends Setting σ where
  malloc : Layer × σ → Allocator

/-- **A call.** -/
inductive Call
  | eventInitialise (block : Addr)
  | handlers (c : Evnt.Request)
  | setMask (mask : UInt32)
  | toolbox (c : Tbox.Veneer)
  | toolboxInitialise (args : Tbox.InitialiseArgs)
  | createObject (flags : UInt32) (nameOrTemplate : Addr) (id : Option ObjectId)
  | deleteObject (flags : UInt32) (id : ObjectId)
  | showObject (flags : UInt32) (id : ObjectId) (showType : ℤ) (type : Option Addr)
      (parent : ObjectId) (parentComponent : ℤ)
  | hideObject (flags : UInt32) (id : ObjectId)
  | bufferFilled (flags : UInt32) (saveas : ObjectId) (buffer : List UInt8)
      (bytesWritten : CInt)
  | fileSaveCompleted (flags : UInt32) (saveas : ObjectId) (filename : CString)
  | wimp (c : Wimp.Veneer)
  | readSysInfo (reason results : ℤ)
  | sendMessage (code : ℤ) (block : WimpPollBlock) (handle icon : ℤ) (th : Option ℤ)
  | getPointerInfo (block : Wimp.WimpGetPointerInfoBlock)
  | transferBlock (sh : ℤ) (sbuf : Addr) (dh : ℤ) (dbuf : Addr) (size : ℤ)
  | redrawWindow (block : Wimp.WimpRedrawWindowBlock) (more : ℤ)
  | getRectangle (block : Wimp.WimpRedrawWindowBlock) (more : ℤ)

namespace Call

/-- What a call is answered with: an error or none, and what is left in the
caller's variables. -/
def Answer : Call → Type
  | .createObject _ _ _ => Option KernelOserror × Option ObjectId
  | .readSysInfo _ _ => Option KernelOserror × ℤ
  | .sendMessage _ _ _ _ _ => Wimp.Sent
  | .getPointerInfo _ => Option KernelOserror × Wimp.WimpGetPointerInfoBlock
  | .redrawWindow _ _ | .getRectangle _ _ => Wimp.Redrawn
  | _ => Option KernelOserror

/-- The error that an answer reports. -/
def error : (c : Call) → c.Answer → Option KernelOserror
  | .createObject _ _ _, r => r.1
  | .readSysInfo _ _, r => r.1
  | .sendMessage _ _ _ _ _, r => r.error
  | .getPointerInfo _, r => r.1
  | .redrawWindow _ _, r | .getRectangle _ _, r => r.error
  | .eventInitialise _, e | .handlers _, e | .setMask _, e | .toolbox _, e
  | .toolboxInitialise _, e | .deleteObject _ _, e | .showObject _ _ _ _ _ _, e
  | .hideObject _ _, e | .bufferFilled _ _ _ _, e | .fileSaveCompleted _ _ _, e | .wimp _, e
  | .transferBlock _ _ _ _ _, e => e

/-- The calls into which errors are injected. -/
def canFail : Call → Bool
  | .handlers c => c.canFail
  | .deleteObject _ _ => false
  | _ => true

/-- The calls that a recorder takes in, where it is armed: no error is
injected into those. -/
def takenIn (s : Tbox.SaveAs) : Call → Bool
  | .bufferFilled _ _ _ _ => s.interceptSaveasBufferFilled
  | .fileSaveCompleted _ _ _ => s.interceptFileSaveCompleted
  | _ => false

/-- The calls by which a window is redrawn. -/
def isRedraw : Call → Bool
  | .redrawWindow _ _ | .getRectangle _ _ => true
  | _ => false

/-- A call that is passed a handler to deregister that is not registered. -/
def unheld (held : Evnt.Registries) : Call → Bool
  | .handlers c => c.unheld held
  | _ => false

/-- **The handlers that the application has registered**, since it last
initialised the event library, after a call. -/
def registered (held : Evnt.Registries) : (c : Call) → c.Answer → Evnt.Registries
  | .eventInitialise _, _ => ⟨0, 0, 0⟩
  | .handlers c, e => c.registered e held
  | _, _ => held

/-- A creation that fails leaves in the caller's variable what memory
held. -/
def spoilt (garbage : ObjectId) : (c : Call) → c.Answer → c.Answer
  | .createObject _ _ id, r => if r.1.isSome then (r.1, id.map fun _ => garbage) else r
  | _, r => r

end Call

/-- The interface of the desktop. -/
abbrev calls : Interface := ⟨Call, Call.Answer⟩

section Libraries

variable {σ τ : Type}

/-- **What the libraries answer.** -/
def Libs.answer (L : Libs σ) : (c : Call) → σ → c.Answer × σ
  | .eventInitialise block => L.evnt.eventInitialise block
  | .handlers c => c.answer L.evnt
  | .setMask mask => L.eventSetMask mask
  | .toolbox c => L.toolboxOther c
  | .toolboxInitialise args => L.toolboxInitialise args
  | .createObject flags nameOrTemplate id => fun env =>
    let (e, objectId, env) :=
      L.tbox.toolboxCreateObject flags nameOrTemplate (id.getD nullObjectId) env
    ((e, id.map fun _ => objectId), env)
  | .deleteObject flags id => L.tbox.toolboxDeleteObject flags id
  | .showObject flags id showType type parent parentComponent =>
    L.tbox.toolboxShowObject flags id showType type parent parentComponent
  | .hideObject flags id => L.tbox.toolboxHideObject flags id
  | .bufferFilled flags saveas buffer bytesWritten =>
    L.saveAs.saveasBufferFilled flags saveas buffer bytesWritten.val
  | .fileSaveCompleted flags saveas filename =>
    L.saveAs.saveasFileSaveCompleted flags saveas filename
  | .wimp c => L.wimp.veneered c
  | .readSysInfo reason _ => L.wimp.wimpReadSysInfo reason
  | .sendMessage code block handle icon th => L.wimp.wimpSendMessage code block handle icon th
  | .getPointerInfo block => L.wimp.wimpGetPointerInfo block
  | .transferBlock sh sbuf dh dbuf size => L.wimp.wimpTransferBlock sh sbuf dh dbuf size
  | .redrawWindow block more => L.redraw.wimpRedrawWindow block more
  | .getRectangle block more => L.redraw.wimpGetRectangle block more

/-- **The libraries, as they are found behind the substitutes**, next to the
handlers that the application has registered. Two things differ. A program
that deregisters a handler that it has not registered ends there; and a
creation that fails does not leave the caller's variable as it was. -/
def Libs.strict (S : Setting σ) (L : Libs σ) : Library calls Fault (Evnt.Registries × σ) :=
  fun c (held, env) =>
    if c.unheld held then .error (if S.debug then .assertFailed else .abort)
    else
      let r := L.answer c env
      .ok (c.spoilt (S.garbage env) r.1, (c.registered held r.1, r.2))

/-- **What refusing a call comes to**: the simulated error, with the caller's
variables as they were. A redraw is finished nevertheless. -/
def refused (K : Kernel) (L : Libs σ) : (c : Call) → σ → c.Answer × σ
  | .createObject _ _ id, env => ((some (oom K), id), env)
  | .readSysInfo _ results, env => ((some (oom K), results), env)
  | .sendMessage _ block _ _ th, env => (⟨some (oom K), block, th⟩, env)
  | .getPointerInfo block, env => ((some (oom K), block), env)
  | .redrawWindow block more, env => L.redraw.refused K L.redraw.wimpRedrawWindow block more env
  | .getRectangle block more, env => L.redraw.refused K L.redraw.wimpGetRectangle block more env
  | .eventInitialise _, env | .handlers _, env | .setMask _, env | .toolbox _, env
  | .toolboxInitialise _, env | .deleteObject _ _, env | .showObject _ _ _ _ _ _, env
  | .hideObject _ _, env | .bufferFilled _ _ _ _, env | .fileSaveCompleted _ _ _, env
  | .wimp _, env | .transferBlock _ _ _ _ _, env => (some (oom K), env)

/-- The same, next to what is kept besides the libraries' state. -/
def refusing (K : Kernel) (L : Libs σ) (c : Call) (y : τ × σ) : c.Answer × (τ × σ) :=
  ((refused K L c y.2).1, (y.1, (refused K L c y.2).2))

/-- Refusing the calls into which errors are injected. -/
def refusal (K : Kernel) (L : Libs σ) : Refusal calls (τ × σ) := fun c =>
  if c.canFail then some (refusing K L c) else none

variable (B : Build σ) (L : Libs σ)

/-- **What is answered in their place.** -/
def substitute (allow : Bool) : (c : Call) → Layer × σ → Except Fault (c.Answer × (Layer × σ))
  | .eventInitialise block, (s, env) =>
    let (e, evnt, env) := Evnt.pseudoEventInitialise B.kernel L.evnt allow block s.evnt env
    .ok (e, ({ s with evnt := evnt }, env))
  | .handlers c, (s, env) => do
    let A := if allow then B.malloc (s, env) else .refuse
    let (e, evnt, env) ← (c.call A).exec B.kernel L.evnt B.debug s.evnt env
    .ok (e, ({ s with evnt := evnt }, env))
  | .setMask mask, (s, env) =>
    let (e, env) := Evnt.pseudoEventSetMask B.kernel L.eventSetMask allow mask env
    .ok (e, (s, env))
  | .toolbox c, (s, env) =>
    let (e, env) := c.substitute B.kernel L.toolboxOther allow env
    .ok (e, (s, env))
  | .toolboxInitialise args, (s, env) =>
    let (e, tbox, env) :=
      Tbox.pseudoToolboxInitialise B.kernel L.toolboxInitialise allow args s.tbox env
    .ok (e, ({ s with tbox := tbox }, env))
  | .createObject flags nameOrTemplate id, (s, env) => do
    let (e, objectId, tbox, env) ← Tbox.pseudoToolboxCreateObject B.kernel L.tbox
      (B.malloc (s, env)) (B.garbage env) allow flags nameOrTemplate id s.tbox env
    .ok ((e, objectId), ({ s with tbox := tbox }, env))
  | .deleteObject flags id, (s, env) => do
    let (e, tbox, env) ← Tbox.pseudoToolboxDeleteObject L.tbox flags id s.tbox env
    .ok (e, ({ s with tbox := tbox }, env))
  | .showObject flags id showType type parent parentComponent, (s, env) =>
    let (e, tbox, env) := Tbox.pseudoToolboxShowObject B.kernel L.tbox allow flags id showType type
      parent parentComponent s.tbox env
    .ok (e, ({ s with tbox := tbox }, env))
  | .hideObject flags id, (s, env) =>
    let (e, tbox, env) := Tbox.pseudoToolboxHideObject B.kernel L.tbox allow flags id s.tbox env
    .ok (e, ({ s with tbox := tbox }, env))
  | .bufferFilled flags saveas buffer bytesWritten, (s, env) => do
    let (e, saveAs, env) ← Tbox.pseudoSaveasBufferFilled B.kernel L.saveAs B.debug allow flags
      saveas buffer bytesWritten.val s.tbox.saveAs env
    .ok (e, ({ s with tbox := { s.tbox with saveAs := saveAs } }, env))
  | .fileSaveCompleted flags saveas filename, (s, env) =>
    let (e, saveAs, env) := Tbox.pseudoSaveasFileSaveCompleted B.kernel L.saveAs B.nameSize allow
      flags saveas filename s.tbox.saveAs env
    .ok (e, ({ s with tbox := { s.tbox with saveAs := saveAs } }, env))
  | .wimp c, (s, env) =>
    let (e, env) := c.substitute B.kernel L.wimp allow env
    .ok (e, (s, env))
  | .readSysInfo reason results, (s, env) =>
    let (r, env) := Wimp.pseudoWimpReadSysInfo B.kernel L.wimp allow reason results env
    .ok (r, (s, env))
  | .sendMessage code block handle icon th, (s, env) => do
    let (r, wimp, env) ← Wimp.pseudoWimpSendMessage B.kernel L.wimp.toMessageLib B.debug allow code
      block handle icon th s.wimp env
    .ok (r, ({ s with wimp := wimp }, env))
  | .getPointerInfo block, (s, env) =>
    let (r, env) := Wimp.pseudoWimpGetPointerInfo B.kernel L.wimp allow block s.pointer env
    .ok (r, (s, env))
  | .transferBlock sh sbuf dh dbuf size, (s, env) => do
    let (e, env) ← Wimp.pseudoWimpTransferBlock B.kernel L.wimp allow L.memory sh sbuf dh dbuf size
      s.wimp env
    .ok (e, (s, env))
  | .redrawWindow block more, (s, env) =>
    let (r, env) := L.redraw.pseudoWimpRedrawWindow B.kernel allow block more env
    .ok (r, (s, env))
  | .getRectangle block more, (s, env) =>
    let (r, env) := L.redraw.pseudoWimpGetRectangle B.kernel allow block more env
    .ok (r, (s, env))

/-- The substitutes, by a schedule of injected errors. -/
def library : Library calls Fault (Schedule × (Layer × σ)) :=
  scheduled (fun c x => Call.canFail c && !Call.takenIn x.1.tbox.saveAs c)
    fun c allow x => substitute B L allow c x

end Libraries

end Desktop

end CBPseudo
