import CBPseudo.Common.Machine

/-!
# Interception of exits — the code

`PseudoExit.c` stands in for `exit`: once a test has set a target, by a
buffer that `setjmp` has filled, the next call does not end the program
but resumes at the target. `setjmp` returns a second time there, with a
value that tells of the status.

What `setjmp` saves is of any type `β`. Of `longjmp` the standard says
that it cannot make `setjmp` return 0.
-/

namespace CBPseudo

open Common

namespace Exit

variable {β : Type}

/-- **The state**: the two static variables. -/
structure State (β : Type) where
  exitTarget : β
  exitPending : Bool

/-- At start-up no target is set; `zero` is a buffer of zeros. -/
def initial (zero : β) : State β where
  exitTarget := zero
  exitPending := false

/-- **How a call to exit ends**: the program does, or `setjmp` returns
again. -/
inductive Ending (β : Type)
  | exited (status : ℤ)
  | resumed (target : β) (value : ℤ)
  deriving DecidableEq

/-- `longjmp`, which delivers 0 as 1. -/
def longjmp (env : β) (val : ℤ) : Ending β := .resumed env (if val = 0 then 1 else val)

/-- The substitute for `exit`. -/
def pseudoExit (status : ℤ) (s : State β) : Except Fault (Ending β × State β) :=
  if s.exitPending then do
    let s := { s with exitPending := false }
    let val ← toInt (status + 1)
    .ok (longjmp s.exitTarget val, s)
  else .ok (.exited status, s)

/-- Set the target of the next exit. -/
def pseudoExitSetTarget (env : β) (s : State β) : State β :=
  { s with exitPending := true, exitTarget := env }

end Exit

end CBPseudo
