import CBPseudo.Common.Run
import CBPseudo.Evnt.Events

/-!
# The Toolbox, with events in flight

A model of the Toolbox that the tracking of objects is to agree with: the
set of live objects, and a queue of the events that report objects created
and deleted and have not been polled yet. The client creates and deletes
objects through this library, the Toolbox creates and deletes some of its
own accord, and polling takes one event off the queue and runs its
handlers, which do the same. `Move` is one such step of the whole.

Which ids the Toolbox may give a new object of the client's is a
parameter, `Rule`. An action that is not possible where it is due (a live
object created again, or one deleted that is not live) is passed over, so
that every list of actions stands for the possible ones in it.
-/

namespace CBPseudo

open Common

namespace Evnt

/-- **An event that has not been polled**: an object was created by the
Toolbox, or deleted. -/
inductive Pending
  | autoCreated (id : ObjectId)
  | deleted (id : ObjectId)
  deriving DecidableEq

/-- The code of the event. -/
def Pending.eventCode : Pending → ℤ
  | .autoCreated _ => toolboxObjectAutoCreated
  | .deleted _ => toolboxObjectDeleted

/-- The object of the event. -/
def Pending.id : Pending → ObjectId
  | .autoCreated id => id
  | .deleted id => id

/-- **The Toolbox**: the live objects, the events to come, first in first
out, and the number of polls so far. -/
structure Toolbox where
  live : Finset ObjectId
  pending : List Pending
  polls : ℕ

/-- An object is created for the client. -/
def Toolbox.create (id : ObjectId) (t : Toolbox) : Toolbox := { t with live := insert id t.live }

/-- An object is created by the Toolbox, which reports it. -/
def Toolbox.autoCreate (id : ObjectId) (t : Toolbox) : Toolbox :=
  { t with live := insert id t.live, pending := t.pending ++ [.autoCreated id] }

/-- An object is deleted, which the Toolbox reports whoever deletes it. -/
def Toolbox.delete (id : ObjectId) (t : Toolbox) : Toolbox :=
  { t with live := t.live.erase id, pending := t.pending ++ [.deleted id] }

/-- The calls that this library makes of the Toolbox, where the next object
has a given id. -/
def Toolbox.lib (id : ObjectId) : Tbox.ToolboxLib Toolbox where
  toolboxCreateObject := fun _ _ _ t => (none, id, t.create id)
  toolboxDeleteObject := fun _ id t => (none, t.delete id)
  toolboxShowObject := fun _ _ _ _ _ _ t => (none, t)
  toolboxHideObject := fun _ _ t => (none, t)

/-! ## Actions -/

/-- **What may happen between two polls**, or while handlers run. -/
inductive Action
  /-- The client creates an object, which is to have a given id. -/
  | create (A : Allocator) (garbage : ObjectId) (allow : Bool) (flags : UInt32)
      (nameOrTemplate : Addr) (out : Option ObjectId) (id : ObjectId)
  /-- The client deletes an object. -/
  | delete (flags : UInt32) (id : ObjectId)
  /-- The Toolbox creates an object. -/
  | autoCreate (id : ObjectId)
  /-- The Toolbox deletes an object. -/
  | ownDelete (id : ObjectId)

/-- **Which ids a new object of the client's may have**, given the event
that handlers are running for and that is still to be tracked. -/
abbrev Rule := Option Pending → World Toolbox → ObjectId → Bool

/-- Any id that is not live. -/
def notLive : Rule := fun _ w id => id ∉ w.env.live

/-- What an event, once tracked, does to the number of records of an
object. -/
def Pending.count (id : ObjectId) (n : ℕ) : Pending → ℕ
  | .autoCreated i => if id = i then n + 1 else n
  | .deleted i => if id = i then n - 1 else n

/-- **A deletion is spent**: of the events to be tracked, one after another,
one reports as deleted an object of which there is no record by then. A
client's own deletion has dropped its record already. -/
def spent (id : ObjectId) : ℕ → List Pending → Bool
  | _, [] => false
  | n, p :: queue => (p = .deleted id && n = 0) || spent id (p.count id n) queue

/-- Any id that is not live, and of which no deletion still to be tracked is
spent. -/
def unspent : Rule := fun flight w id =>
  notLive flight w id &&
    !spent id ((recordedIds w).count id) (flight.toList ++ w.env.pending)

/-- The actions that are possible. -/
def Action.may (rule : Rule) (flight : Option Pending) (w : World Toolbox) : Action → Bool
  | .create _ _ _ _ _ _ id => rule flight w id
  | .delete _ id => id ∈ w.env.live
  | .autoCreate id => id ∉ w.env.live
  | .ownDelete id => id ∈ w.env.live

/-- The world after an action. -/
def Action.run (K : Kernel) (w : World Toolbox) : Action → Except Fault (World Toolbox)
  | .create A garbage allow flags nameOrTemplate out id => do
    let (_, _, tbox, env) ← Tbox.pseudoToolboxCreateObject K (Toolbox.lib id) A garbage allow flags
      nameOrTemplate out w.tbox w.env
    .ok { w with tbox := tbox, env := env }
  | .delete flags id => do
    let (_, tbox, env) ← Tbox.pseudoToolboxDeleteObject (Toolbox.lib id) flags id w.tbox w.env
    .ok { w with tbox := tbox, env := env }
  | .autoCreate id => .ok { w with env := w.env.autoCreate id }
  | .ownDelete id => .ok { w with env := w.env.delete id }

/-- The world after an action, if it is possible. -/
def Action.attempt (K : Kernel) (rule : Rule) (flight : Option Pending) (w : World Toolbox)
    (a : Action) : Except Fault (World Toolbox) :=
  if a.may rule flight w then a.run K w else .ok w

/-- The allocator grants every record the action asks for. -/
def Action.Generous : Action → Prop
  | .create A _ _ _ _ _ _ => A.Generous
  | _ => True

/-! ## Polling -/

/-- The next event, and the world it is polled in: the null event, if none
is pending. -/
def nextEvent (w : World Toolbox) : ℤ × WimpPollBlock × World Toolbox :=
  match w.env.pending with
  | [] => (wimpENull, ⟨fun _ => 0⟩, { w with env := { w.env with polls := w.env.polls + 1 } })
  | p :: rest => (wimpEToolboxEvent, toolboxEventBlock p.eventCode,
      { w.naming p.id with env := { w.env with pending := rest, polls := w.env.polls + 1 } })

/-- Run handlers. What they do depends on which poll they run for. -/
def handle (K : Kernel) (rule : Rule) (handlers : ℕ → List Action) (flight : Option Pending)
    (w : World Toolbox) : Except Fault (World Toolbox) :=
  (handlers w.env.polls).foldlM (Action.attempt K rule flight) w

/-- Poll, and dispatch the event polled before returning. -/
def pollAndHandle (K : Kernel) (rule : Rule) (handlers : ℕ → List Action) (w : World Toolbox) :
    Except Fault (Option KernelOserror × ℤ × WimpPollBlock × World Toolbox) := do
  let (ec, pb, w') := nextEvent w
  let w'' ← handle K rule handlers w.env.pending.head? w'
  .ok (none, ec, pb, w'')

/-- The libraries that poll the Toolbox. -/
def Toolbox.pollLib (K : Kernel) (rule : Rule) (handlers : ℕ → List Action) : PollLib Toolbox where
  eventGetMask := fun w => (none, 0, w)
  wimpPoll := fun _ _ w => (none, nextEvent w)
  eventDispatch := fun _ _ w => do
    let w ← handle K rule handlers none w
    .ok (none, w)
  eventPoll := fun _ _ _ w => pollAndHandle K rule handlers w
  eventPollIdle := fun _ _ _ _ w => pollAndHandle K rule handlers w

/-! ## The system -/

/-- **A step of the client's program, or of the Toolbox.** -/
inductive Move
  /-- An action outside any handler. -/
  | act (a : Action)
  /-- `pseudo_event_poll`. -/
  | poll (A : Allocator) (allow : Bool) (eventCode : Option ℤ) (pollBlock : Option WimpPollBlock)
      (pollWord : Option Addr) (locals : Locals) (handlers : ℕ → List Action)
  /-- `pseudo_event_poll_idle`. -/
  | pollIdle (A : Allocator) (allow : Bool) (eventCode : Option ℤ)
      (pollBlock : Option WimpPollBlock) (earliest : UInt32) (pollWord : Option Addr)
      (locals : Locals) (handlers : ℕ → List Action)
  /-- `pseudo_event_wait_for_idle`. -/
  | waitForIdle (A : ℕ → Allocator) (handlers : ℕ → List Action)

/-- The world after a move. -/
def Move.exec (K : Kernel) (rule : Rule) (w : World Toolbox) : Move → Except Fault (World Toolbox)
  | .act a => a.attempt K rule none w
  | .poll A allow eventCode pollBlock pollWord locals handlers => do
    let (_, _, w) ← pseudoEventPoll K (Toolbox.pollLib K rule handlers) A allow eventCode pollBlock
      pollWord locals w
    .ok w
  | .pollIdle A allow eventCode pollBlock earliest pollWord locals handlers => do
    let (_, _, w) ← pseudoEventPollIdle K (Toolbox.pollLib K rule handlers) A allow eventCode
      pollBlock earliest pollWord locals w
    .ok w
  | .waitForIdle A handlers => do
    let (_, w, _) ← pseudoEventWaitForIdle (Toolbox.pollLib K rule handlers) A w
    .ok w

/-- The allocators grant every record the move asks for. -/
def Move.Generous : Move → Prop
  | .act a => a.Generous
  | .poll A _ _ _ _ _ handlers => A.Generous ∧ ∀ n, ∀ a ∈ handlers n, a.Generous
  | .pollIdle A _ _ _ _ _ _ handlers => A.Generous ∧ ∀ n, ∀ a ∈ handlers n, a.Generous
  | .waitForIdle A handlers => (∀ n, (A n).Generous) ∧ ∀ n, ∀ a ∈ handlers n, a.Generous

/-- A step: a move that is granted its records, and returns. -/
def Moves (K : Kernel) (rule : Rule) (w : World Toolbox) (m : Move) (w' : World Toolbox) : Prop :=
  m.Generous ∧ m.exec K rule w = .ok w'

/-- At the start the ID block is known, and there are no objects. -/
def start (clientBlock : Addr) (idBlocks : Addr → IdBlock) : World Toolbox where
  evnt := { initial with clientBlock := some clientBlock }
  tbox := Tbox.initial
  idBlocks := idBlocks
  env := { live := ∅, pending := [], polls := 0 }

end Evnt

end CBPseudo
