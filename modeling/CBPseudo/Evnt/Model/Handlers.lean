import CBPseudo.Common.Heap
import CBPseudo.Kern.Desktop
import CBPseudo.Kern.Fail
import Mathlib.Data.Multiset.Filter

/-!
# Event handler trackers — the code

The part of `PseudoEvnt.c` that registers and deregisters handlers. For
each of the event library's three kinds of handler the file keeps a list
of records, one for each handler it has seen registered, so that handlers
never deregistered show up as leaked memory. The three families of
functions differ in the record, the list and the library functions only:
each is one definition applied to a `HandlerKind`.

The event library itself is a parameter, `EventLib`, with a state of its
own that decides what it holds and when it returns errors. The list
library, which is not in the repository, is `Common.Item` lists.
-/

namespace CBPseudo

open Common

namespace Evnt

/-- The address of a Wimp event handler. -/
structure WimpEventHandler where
  addr : Addr
  deriving DecidableEq, Repr

/-- The address of a Toolbox event handler. -/
structure ToolboxEventHandler where
  addr : Addr
  deriving DecidableEq, Repr

/-- The address of a Wimp message handler. -/
structure WimpMessageHandler where
  addr : Addr
  deriving DecidableEq, Repr

/-- The arguments of a Wimp handler's registration, and the record of it. -/
structure PseudoEventWimpHandler where
  objectId : ObjectId
  eventCode : ℤ
  handler : WimpEventHandler
  handle : Addr
  deriving DecidableEq, Repr

/-- The arguments of a Toolbox handler's registration, and the record of
it. -/
structure PseudoEventToolboxHandler where
  objectId : ObjectId
  eventCode : ℤ
  handler : ToolboxEventHandler
  handle : Addr
  deriving DecidableEq, Repr

/-- The arguments of a message handler's registration, and the record of
it. -/
structure PseudoEventMessageHandler where
  msgNo : ℤ
  handler : WimpMessageHandler
  handle : Addr
  deriving DecidableEq, Repr

/-- **The state**: the three lists, the client's ID block, and the Fortify
blocks this file has allocated. -/
structure State where
  wimpHandlers : List (Item PseudoEventWimpHandler)
  tbHandlers : List (Item PseudoEventToolboxHandler)
  msgHandlers : List (Item PseudoEventMessageHandler)
  clientBlock : Option Addr
  blocks : Finset Addr

/-- At start-up there are no records and no ID block. -/
def initial : State where
  wimpHandlers := []
  tbHandlers := []
  msgHandlers := []
  clientBlock := none
  blocks := ∅

/-- The handlers the event library holds, of each kind: what the trackers
are to agree with. -/
@[ext] structure Registries where
  wimp : Multiset PseudoEventWimpHandler
  tb : Multiset PseudoEventToolboxHandler
  msg : Multiset PseudoEventMessageHandler

/-- **The event library**, as far as this file calls it, on a state `σ`. -/
structure EventLib (σ : Type) where
  eventInitialise : Addr → σ → Option KernelOserror × σ
  eventRegisterWimpHandler : PseudoEventWimpHandler → σ → Option KernelOserror × σ
  eventDeregisterWimpHandler : PseudoEventWimpHandler → σ → Option KernelOserror × σ
  eventDeregisterWimpHandlersForObject : ObjectId → σ → Option KernelOserror × σ
  eventRegisterToolboxHandler : PseudoEventToolboxHandler → σ → Option KernelOserror × σ
  eventDeregisterToolboxHandler : PseudoEventToolboxHandler → σ → Option KernelOserror × σ
  eventDeregisterToolboxHandlersForObject : ObjectId → σ → Option KernelOserror × σ
  eventRegisterMessageHandler : PseudoEventMessageHandler → σ → Option KernelOserror × σ
  eventDeregisterMessageHandler : PseudoEventMessageHandler → σ → Option KernelOserror × σ
  /-- The handlers it holds. -/
  held : σ → Registries

/-- A kind of handler: the list its records are kept in. -/
structure HandlerKind (α : Type) where
  get : State → List (Item α)
  set : List (Item α) → State → State

/-- Wimp handlers are kept in `wimp_handlers`. -/
def wimpKind : HandlerKind PseudoEventWimpHandler where
  get := State.wimpHandlers
  set := fun l s => { s with wimpHandlers := l }

/-- Toolbox handlers are kept in `tb_handlers`. -/
def tbKind : HandlerKind PseudoEventToolboxHandler where
  get := State.tbHandlers
  set := fun l s => { s with tbHandlers := l }

/-- Message handlers are kept in `msg_handlers`. -/
def msgKind : HandlerKind PseudoEventMessageHandler where
  get := State.msgHandlers
  set := fun l s => { s with msgHandlers := l }

section Functions

variable {σ α : Type}

/-- `Fortify_free` of a record. -/
def fortifyFree (a : Addr) (s : State) : Except Fault State :=
  if a ∈ s.blocks then .ok { s with blocks := s.blocks.erase a } else .error .badFree

/-- Register a handler: the body of the three registering functions. -/
def registerHandler (K : Kernel) (kind : HandlerKind α)
    (register : α → σ → Option KernelOserror × σ)
    (A : Allocator) (record : α) (s : State) (env : σ) :
    Except Fault (Option KernelOserror × State × σ) :=
  match A.grant s.blocks with
  | none => .ok (some (oom K), s, env)
  | some addr =>
    let s := { s with blocks := insert addr s.blocks }
    match register record env with
    | (none, env) => .ok (none, kind.set (⟨addr, record⟩ :: kind.get s) s, env)
    | (some e, env) => do
      let s ← fortifyFree addr s
      .ok (some e, s, env)

/-- Deregister a handler: the body of the three deregistering functions. -/
def deregisterHandler (debug : Bool) (kind : HandlerKind α) (matches_ : α → α → Bool)
    (deregister : α → σ → Option KernelOserror × σ) (toMatch : α) (s : State) (env : σ) :
    Except Fault (Option KernelOserror × State × σ) := do
  let item := findItem (matches_ toMatch) (kind.get s)
  cassert debug item.isSome
  match item with
  | none => .error .abort
  | some item =>
    let s := kind.set (removeItem item.addr (kind.get s)) s
    let s ← fortifyFree item.addr s
    let (e, env) := deregister toMatch env
    .ok (e, s, env)

/-- The callback that deregisters one handler if it is the object's. -/
def deregisterIfForObject (kind : HandlerKind α) (objectIdOf : α → ObjectId) (objectId : ObjectId)
    (item : Item α) : StateT State (Except Fault) Bool := fun s =>
  if objectId = objectIdOf item.val then do
    let s ← fortifyFree item.addr (kind.set (removeItem item.addr (kind.get s)) s)
    .ok (false, s)
  else .ok (false, s)

/-- Deregister every handler of an object: the body of the two functions
that do. -/
def deregisterHandlersForObject (kind : HandlerKind α) (objectIdOf : α → ObjectId)
    (deregister : ObjectId → σ → Option KernelOserror × σ) (objectId : ObjectId) (s : State)
    (env : σ) : Except Fault (Option KernelOserror × State × σ) := do
  let (_, s) ← forEach (deregisterIfForObject kind objectIdOf objectId) (kind.get s) s
  let (e, env) := deregister objectId env
  .ok (e, s, env)

/-! ## The functions, by the source's names -/

variable (K : Kernel) (L : EventLib σ) (debug : Bool)

/-- Initialise the event library and the lists. -/
def pseudoEventInitialise (allow : Bool) (block : Addr) (s : State) (env : σ) :
    Option KernelOserror × State × σ :=
  match pseudokernFail K allow with
  | some e => (some e, s, env)
  | none =>
    let s := { s with clientBlock := some block, wimpHandlers := [], tbHandlers := [],
                      msgHandlers := [] }
    let (e, env) := L.eventInitialise block env
    (e, s, env)

/-- The client's ID block, where there is one. -/
def pseudoEventGetClientIdBlock (s : State) : Option Addr := s.clientBlock

/-- Set the event mask, by the library's own function. -/
def pseudoEventSetMask (eventSetMask : UInt32 → σ → Option KernelOserror × σ) (allow : Bool)
    (mask : UInt32) (env : σ) : Option KernelOserror × σ :=
  veneer K allow (eventSetMask mask) env

def toolboxHandlerMatches (toMatch record : PseudoEventToolboxHandler) : Bool :=
  toMatch.objectId = record.objectId && toMatch.eventCode = record.eventCode &&
    toMatch.handler = record.handler && toMatch.handle = record.handle

def wimpHandlerMatches (toMatch record : PseudoEventWimpHandler) : Bool :=
  toMatch.objectId = record.objectId && toMatch.eventCode = record.eventCode &&
    toMatch.handler = record.handler && toMatch.handle = record.handle

def messageHandlerMatches (toMatch record : PseudoEventMessageHandler) : Bool :=
  toMatch.msgNo = record.msgNo && toMatch.handler = record.handler &&
    toMatch.handle = record.handle

def pseudoEventRegisterToolboxHandler (A : Allocator) (h : PseudoEventToolboxHandler) (s : State)
    (env : σ) : Except Fault (Option KernelOserror × State × σ) :=
  registerHandler K tbKind L.eventRegisterToolboxHandler A h s env

def pseudoEventDeregisterToolboxHandler (h : PseudoEventToolboxHandler) (s : State) (env : σ) :
    Except Fault (Option KernelOserror × State × σ) :=
  deregisterHandler debug tbKind toolboxHandlerMatches L.eventDeregisterToolboxHandler h s env

def pseudoEventDeregisterToolboxHandlersForObject (objectId : ObjectId) (s : State) (env : σ) :
    Except Fault (Option KernelOserror × State × σ) :=
  deregisterHandlersForObject tbKind PseudoEventToolboxHandler.objectId
    L.eventDeregisterToolboxHandlersForObject objectId s env

def pseudoEventRegisterMessageHandler (A : Allocator) (h : PseudoEventMessageHandler) (s : State)
    (env : σ) : Except Fault (Option KernelOserror × State × σ) :=
  registerHandler K msgKind L.eventRegisterMessageHandler A h s env

def pseudoEventDeregisterMessageHandler (h : PseudoEventMessageHandler) (s : State) (env : σ) :
    Except Fault (Option KernelOserror × State × σ) :=
  deregisterHandler debug msgKind messageHandlerMatches L.eventDeregisterMessageHandler h s env

def pseudoEventRegisterWimpHandler (A : Allocator) (h : PseudoEventWimpHandler) (s : State)
    (env : σ) : Except Fault (Option KernelOserror × State × σ) :=
  registerHandler K wimpKind L.eventRegisterWimpHandler A h s env

def pseudoEventDeregisterWimpHandler (h : PseudoEventWimpHandler) (s : State) (env : σ) :
    Except Fault (Option KernelOserror × State × σ) :=
  deregisterHandler debug wimpKind wimpHandlerMatches L.eventDeregisterWimpHandler h s env

def pseudoEventDeregisterWimpHandlersForObject (objectId : ObjectId) (s : State) (env : σ) :
    Except Fault (Option KernelOserror × State × σ) :=
  deregisterHandlersForObject wimpKind PseudoEventWimpHandler.objectId
    L.eventDeregisterWimpHandlersForObject objectId s env

end Functions

end Evnt

end CBPseudo
