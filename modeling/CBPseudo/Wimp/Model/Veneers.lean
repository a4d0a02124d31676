import CBPseudo.Common.Memory
import CBPseudo.Wimp.Model.Messages

/-!
# Wimp veneers — the code

The functions of `PseudoWimp.c` that do no more than inject errors, and
the two that a unit test can keep from the Wimp besides: one answers with
pointer information that the test has set, and one copies from memory to
memory once the trap has been reset.
-/

namespace CBPseudo

open Common

namespace Wimp

/-- **A call of a function that has a plain veneer**, with the addresses of
what it reads and writes. -/
inductive Veneer
  | wimpGetWindowState (state : Addr)
  | wimpGetCaretPosition (block : Addr)
  | wimpDragBox (block : Option Addr)
  | wimpSetColour (colour : ℤ)
  deriving DecidableEq

/-- What the Wimp says of the pointer. -/
structure WimpGetPointerInfoBlock where
  words : Fin 5 → ℤ

/-- The static variables of the pointer's function. -/
structure Pointer where
  pointerInfoIsFake : Bool
  fakePointerInfo : WimpGetPointerInfoBlock

/-- At start-up the Wimp is asked. -/
def Pointer.initial : Pointer where
  pointerInfoIsFake := false
  fakePointerInfo := ⟨fun _ => 0⟩

/-- **The Wimp's own functions**, on a state `σ`. -/
structure WimpLib (σ : Type) extends MessageLib σ where
  veneered : Veneer → σ → Option KernelOserror × σ
  /-- `wimp_get_pointer_info`: an error, and what it leaves in the block. -/
  wimpGetPointerInfo : WimpGetPointerInfoBlock → σ →
    (Option KernelOserror × WimpGetPointerInfoBlock) × σ
  wimpTransferBlock : ℤ → Addr → ℤ → Addr → ℤ → σ → Option KernelOserror × σ

/-- Set the pointer information. -/
def pseudoWimpSetPointerInfo (block : WimpGetPointerInfoBlock) (_ : Pointer) : Pointer where
  pointerInfoIsFake := true
  fakePointerInfo := block

section Calls

variable {σ : Type} (K : Kernel) (L : WimpLib σ) (allow : Bool)

/-- Read system information. `results` is what the caller's variable holds. -/
def pseudoWimpReadSysInfo (reason results : ℤ) (env : σ) : (Option KernelOserror × ℤ) × σ :=
  match pseudokernFail K allow with
  | some e => ((some e, results), env)
  | none => L.wimpReadSysInfo reason env

def pseudoWimpGetWindowState (state : Addr) (env : σ) : Option KernelOserror × σ :=
  veneer K allow (L.veneered (.wimpGetWindowState state)) env

def pseudoWimpGetCaretPosition (block : Addr) (env : σ) : Option KernelOserror × σ :=
  veneer K allow (L.veneered (.wimpGetCaretPosition block)) env

def pseudoWimpDragBox (block : Option Addr) (env : σ) : Option KernelOserror × σ :=
  veneer K allow (L.veneered (.wimpDragBox block)) env

def pseudoWimpSetColour (colour : ℤ) (env : σ) : Option KernelOserror × σ :=
  veneer K allow (L.veneered (.wimpSetColour colour)) env

/-- The veneer of each function. -/
def Veneer.substitute : Veneer → σ → Option KernelOserror × σ
  | .wimpGetWindowState state => pseudoWimpGetWindowState K L allow state
  | .wimpGetCaretPosition block => pseudoWimpGetCaretPosition K L allow block
  | .wimpDragBox block => pseudoWimpDragBox K L allow block
  | .wimpSetColour colour => pseudoWimpSetColour K L allow colour

/-- Where the pointer is. -/
def pseudoWimpGetPointerInfo (block : WimpGetPointerInfoBlock) (p : Pointer) (env : σ) :
    (Option KernelOserror × WimpGetPointerInfoBlock) × σ :=
  match pseudokernFail K allow with
  | some e => ((some e, block), env)
  | none =>
    if p.pointerInfoIsFake then ((none, p.fakePointerInfo), env)
    else L.wimpGetPointerInfo block env

/-- Transfer a block between tasks, or copy it. -/
def pseudoWimpTransferBlock (M : Memory σ) (sh : ℤ) (sbuf : Addr) (dh : ℤ) (dbuf : Addr) (size : ℤ)
    (s : State) (env : σ) : Except Fault (Option KernelOserror × σ) :=
  match pseudokernFail K allow with
  | some e => .ok (some e, env)
  | none =>
    if s.capture then do
      let env ← M.memcpy dbuf sbuf (toSizeT size) env
      .ok (none, env)
    else .ok (L.wimpTransferBlock sh sbuf dh dbuf size env)

end Calls

/-- **Each plain veneer is one.** -/
theorem Veneer.substitute_eq {σ : Type} (K : Kernel) (L : WimpLib σ) (allow : Bool) (c : Veneer)
    (env : σ) : c.substitute K L allow env = veneer K allow (L.veneered c) env := by
  cases c <;> rfl

end Wimp

end CBPseudo
