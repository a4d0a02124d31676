import CBPseudo.Common.Heap
import CBPseudo.Tbox.Model.SaveAs

/-!
# Object records — the code

The part of `PseudoTbox.c` that keeps a record of each Toolbox object, so
that objects never deleted show up as leaked memory, and in it whether
the object is showing. The Toolbox is a parameter, `ToolboxLib`, with a
state of its own; so is what it knows of templates, `TemplateLib`. The
list library, which is not in the repository, is `Common.Item` lists.
-/

namespace CBPseudo

open Common

namespace Tbox

/-- The record of an object. -/
structure PseudoTboxObject where
  objectId : ObjectId
  isShowing : Bool
  deriving DecidableEq, Repr

/-- **The state**: the list of records, the blocks they were allocated in,
and the SaveAs recorders. -/
structure State where
  objects : List (Item PseudoTboxObject)
  records : Finset Addr
  saveAs : SaveAs

/-- At start-up there are no records. -/
def initial : State where
  objects := []
  records := ∅
  saveAs := .initial

/-- **The Toolbox**, as far as these functions call it, on a state `σ`. A
creation is given the variable for the new object's id and answers with
what it leaves there. -/
structure ToolboxLib (σ : Type) where
  toolboxCreateObject : UInt32 → Addr → ObjectId → σ → Option KernelOserror × ObjectId × σ
  toolboxDeleteObject : UInt32 → ObjectId → σ → Option KernelOserror × σ
  toolboxShowObject : UInt32 → ObjectId → ℤ → Option Addr → ObjectId → ℤ → σ →
    Option KernelOserror × σ
  toolboxHideObject : UInt32 → ObjectId → σ → Option KernelOserror × σ

/-- `free` of a record. -/
def freeRecord (a : Addr) (s : State) : Except Fault State :=
  if a ∈ s.records then .ok { s with records := s.records.erase a } else .error .badFree

/-- The callback that marks a record as not showing. -/
def resetObjectRecord (item : Item PseudoTboxObject) : StateT State Id Bool := fun s =>
  (false, { s with objects := modifyItem item.addr (fun r => { r with isShowing := false })
                                s.objects })

/-- Forget which objects have been shown, and reset the recorders. -/
def pseudoToolboxReset (s : State) : State :=
  let (_, s) := forEach resetObjectRecord s.objects s
  { s with saveAs := pseudoSaveasResetBufferFilled (pseudoSaveasResetFileSaveCompleted s.saveAs) }

/-- Record a new object. -/
def pseudoToolboxObjectCreated (A : Allocator) (id : ObjectId) (s : State) : State :=
  match A.grant s.records with
  | none => s
  | some record =>
    { s with objects := ⟨record, { objectId := id, isShowing := false }⟩ :: s.objects
             records := insert record s.records }

def objectIdMatches (id : ObjectId) (record : PseudoTboxObject) : Bool := id = record.objectId

/-- Drop the first record of an object. -/
def pseudoToolboxObjectDeleted (id : ObjectId) (s : State) : Except Fault State :=
  match findItem (objectIdMatches id) s.objects with
  | none => .ok s
  | some item => freeRecord item.addr { s with objects := removeItem item.addr s.objects }

/-- Whether the first record of an object says that it is showing. -/
def pseudoToolboxObjectIsShowing (id : ObjectId) (s : State) : Bool :=
  match findItem (objectIdMatches id) s.objects with
  | none => false
  | some item => item.val.isShowing

/-- Mark the first record of an object. -/
def setShowing (id : ObjectId) (isShowing : Bool) (s : State) : State :=
  match findItem (objectIdMatches id) s.objects with
  | none => s
  | some item =>
    { s with objects := modifyItem item.addr (fun r => { r with isShowing := isShowing })
                          s.objects }

section Calls

variable {σ : Type} (K : Kernel) (T : ToolboxLib σ)

/-- Create an object. `garbage` is what the memory for the record held, and
`id` the caller's variable, unless that is a null pointer. -/
def pseudoToolboxCreateObject (A : Allocator) (garbage : ObjectId) (allow : Bool) (flags : UInt32)
    (nameOrTemplate : Addr) (id : Option ObjectId) (s : State) (env : σ) :
    Except Fault (Option KernelOserror × Option ObjectId × State × σ) :=
  match A.grant s.records with
  | none => .ok (some (oom K), id, s, env)
  | some record =>
    let s := { s with records := insert record s.records }
    match pseudokernFail K allow with
    | some e => do
      let s ← freeRecord record s
      .ok (some e, id, s, env)
    | none =>
      let (e, objectId, env) := T.toolboxCreateObject flags nameOrTemplate garbage env
      let id := id.map fun _ => objectId
      match e with
      | none =>
        .ok (none, id, { s with
          objects := ⟨record, { objectId := objectId, isShowing := false }⟩ :: s.objects }, env)
      | some e => do
        let s ← freeRecord record s
        .ok (some e, id, s, env)

/-- Delete an object. -/
def pseudoToolboxDeleteObject (flags : UInt32) (id : ObjectId) (s : State) (env : σ) :
    Except Fault (Option KernelOserror × State × σ) := do
  let s ← pseudoToolboxObjectDeleted id s
  let (e, env) := T.toolboxDeleteObject flags id env
  .ok (e, s, env)

/-- Show an object. -/
def pseudoToolboxShowObject (allow : Bool) (flags : UInt32) (id : ObjectId) (showType : ℤ)
    (type : Option Addr) (parent : ObjectId) (parentComponent : ℤ) (s : State) (env : σ) :
    Option KernelOserror × State × σ :=
  match pseudokernFail K allow with
  | some e => (some e, s, env)
  | none =>
    let s := setShowing id true s
    let (e, env) := T.toolboxShowObject flags id showType type parent parentComponent env
    (e, s, env)

/-- Hide an object. -/
def pseudoToolboxHideObject (allow : Bool) (flags : UInt32) (id : ObjectId) (s : State) (env : σ) :
    Option KernelOserror × State × σ :=
  match pseudokernFail K allow with
  | some e => (some e, s, env)
  | none =>
    let s := setShowing id false s
    let (e, env) := T.toolboxHideObject flags id env
    (e, s, env)

end Calls

/-! ## Templates -/

/-- **What the Toolbox knows of templates**, on a state `σ`. A query is
given the size of a buffer and answers with what it leaves in the buffer
and the number of bytes of the name. -/
structure TemplateLib (σ : Type) where
  toolboxGetTemplateName : UInt32 → ObjectId → ℕ → σ → Option KernelOserror × CString × ℤ × σ

/-- The size of the buffer for the name of a template. -/
def templateNameSize : ℕ := 256

section Templates

variable {σ : Type} (N : TemplateLib σ) (debug : Bool)

/-- The callback that compares the name of an object's template. -/
def templateNameMatches (templateName : CString) (item : Item PseudoTboxObject) :
    StateT σ (Except Fault) Bool := fun env =>
  match N.toolboxGetTemplateName 0 item.val.objectId templateNameSize env with
  | (some _, _, _, env) => .ok (false, env)
  | (none, buffer, nbytes, env) => do
    cassert debug (nbytes ≥ 0)
    cassert debug (toSizeT nbytes ≤ templateNameSize)
    .ok (decide (buffer = templateName), env)

/-- The id of the first object made from a template. -/
def pseudoToolboxFindByTemplateName (templateName : CString) (s : State) (env : σ) :
    Except Fault (ObjectId × σ) := do
  let (item, env) ← forEach (templateNameMatches N debug templateName) s.objects env
  match item with
  | none => .ok (nullObjectId, env)
  | some item => .ok (item.val.objectId, env)

end Templates

/-! ## Initialising -/

/-- The arguments of `toolbox_initialise`: values, and the addresses of
what it reads and writes. -/
structure InitialiseArgs where
  flags : UInt32
  wimpVersion : ℤ
  wimpMessages : Addr
  toolboxEvents : Addr
  directory : Addr
  mfd : Addr
  idb : Addr
  currentWimpVersion : Option Addr
  task : Option Addr
  spriteArea : Option Addr

/-- Initialise the Toolbox, by its own function, and the list. -/
def pseudoToolboxInitialise {σ : Type} (K : Kernel)
    (toolboxInitialise : InitialiseArgs → σ → Option KernelOserror × σ) (allow : Bool)
    (args : InitialiseArgs) (s : State) (env : σ) : Option KernelOserror × State × σ :=
  match pseudokernFail K allow with
  | some e => (some e, s, env)
  | none =>
    let s := { s with objects := [] }
    let (e, env) := toolboxInitialise args env
    (e, s, env)

end Tbox

end CBPseudo
