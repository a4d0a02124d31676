import CBPseudo.Common.Machine

/-!
# Simulated errors

Every substitute for a library function first asks Fortify whether an
allocation would be allowed and, where it would not, returns an error
instead of calling the library. Fortify's answer is the `allow` argument
of each function modelled here: `false` injects an error.
-/

namespace CBPseudo

/-- An operating system error. -/
structure KernelOserror where
  errnum : ℤ
  errmess : String
  deriving DecidableEq, Repr

/-- The error number of the errors made here: number 0 can have
unpleasant side-effects. -/
def dummyErrno : ℤ := 255

/-- What this library uses of the kernel. -/
structure Kernel where
  /-- The SWI `MessageTrans_ErrorLookup`, which always returns an error:
  the one it is given, its message looked up. -/
  errorLookup : KernelOserror → KernelOserror

/-- A kernel that finds no message for the token of an error. -/
def Kernel.plain : Kernel where
  errorLookup := id

/-- The generic out-of-memory error. -/
def oom (K : Kernel) : KernelOserror := K.errorLookup { errnum := dummyErrno, errmess := "NoMem" }

/-- The simulated error of a call, if one is injected. -/
def pseudokernFail (K : Kernel) (allow : Bool) : Option KernelOserror :=
  if allow then none else some (oom K)

/-- **The body of a plain veneer**: an injected error, or the library's own
function. -/
def veneer {σ : Type} (K : Kernel) (allow : Bool) (call : σ → Option KernelOserror × σ) (env : σ) :
    Option KernelOserror × σ :=
  match pseudokernFail K allow with
  | some e => (some e, env)
  | none => call env

variable {K : Kernel}

@[simp] theorem pseudokernFail_true : pseudokernFail K true = none := rfl

@[simp] theorem pseudokernFail_false : pseudokernFail K false = some (oom K) := rfl

end CBPseudo
