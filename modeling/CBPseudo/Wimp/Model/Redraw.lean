import CBPseudo.Common.Loop
import CBPseudo.Kern.Fail

/-!
# Redrawing a window — the code

The part of `PseudoWimp.c` that stands in for `wimp_redraw_window` and
`wimp_get_rectangle`. Where an error is injected, the redraw is finished
before it is returned. The loops that finish it are run for at most
`fuel` turns.
-/

namespace CBPseudo

open Common

namespace Wimp

/-- **A block for a redraw**: the window, and the fields that the Wimp
returns (the areas and the scroll offsets). -/
structure WimpRedrawWindowBlock where
  windowHandle : ℤ
  returned : Fin 10 → ℤ

/-- What a call for a redraw answers, and what it leaves in the caller's
variables. -/
structure Redrawn where
  error : Option KernelOserror
  block : WimpRedrawWindowBlock
  more : ℤ

/-- The functions of the Wimp's own. -/
structure RedrawLib (σ : Type) where
  wimpRedrawWindow : WimpRedrawWindowBlock → ℤ → σ → Redrawn × σ
  wimpGetRectangle : WimpRedrawWindowBlock → ℤ → σ → Redrawn × σ

/-- The condition of the loops: there is no error, and there is more. -/
def Redrawn.goesOn (r : Redrawn) : Bool := r.error.isNone && r.more != 0

section Calls

variable {σ : Type} (K : Kernel) (L : RedrawLib σ)

/-- Ask for rectangles until there are no more. -/
def finishRedraw (fuel : ℕ) (t : Redrawn × σ) : Option (Redrawn × σ) :=
  loop (fun t => t.1.goesOn) (fun t => some (L.wimpGetRectangle t.1.block t.1.more t.2)) fuel t

/-- Make a call for a redraw; or return an error, and make the call and those
after it nevertheless, in a block of its own. The Wimp gets upset if a
redraw is left unfinished. -/
def redrawOrFinish (call : WimpRedrawWindowBlock → ℤ → σ → Redrawn × σ) (fuel : ℕ) (allow : Bool)
    (block : WimpRedrawWindowBlock) (more : ℤ) (env : σ) : Option (Redrawn × σ) :=
  match pseudokernFail K allow with
  | none => some (call block more env)
  | some e => do
    let b : WimpRedrawWindowBlock := { windowHandle := block.windowHandle, returned := fun _ => 0 }
    let (r, env) ← finishRedraw L fuel (call b more env)
    some (⟨some e, block, r.more⟩, env)

/-- Start a redraw. -/
def pseudoWimpRedrawWindow (fuel : ℕ) (allow : Bool) (block : WimpRedrawWindowBlock) (more : ℤ)
    (env : σ) : Option (Redrawn × σ) :=
  redrawOrFinish K L L.wimpRedrawWindow fuel allow block more env

/-- Go on with a redraw. -/
def pseudoWimpGetRectangle (fuel : ℕ) (allow : Bool) (block : WimpRedrawWindowBlock) (more : ℤ)
    (env : σ) : Option (Redrawn × σ) :=
  redrawOrFinish K L L.wimpGetRectangle fuel allow block more env

end Calls

end Wimp

end CBPseudo
