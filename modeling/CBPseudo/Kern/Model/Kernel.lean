import CBPseudo.Common.ItemList
import CBPseudo.Kern.Fail

/-!
# The kernel's functions — the code

`PseudoKern.c`: a substitute for each function of the C library kernel.
The functions differ in what they return, and so in how they report an
error: by a pointer to it, or by a number that says that there was one.
Whoever is told no more asks the kernel for its last error, which is why
the simulated error is looked up by a SWI rather than made up: the kernel's
record of the last error is part of the state `σ` here, with whatever else
its functions read and write through the addresses they are given.
-/

namespace CBPseudo

open Common

namespace Kern

/-- `_kernel_NONX`: the bit of a SWI's number that asks for the form of it
which does not return errors. -/
def kernelNonx : UInt32 := 0x80000000

/-- `_kernel_ERROR`. -/
def kernelError : ℤ := -2

/-- **The kernel**, on a state `σ`. -/
structure KernelLib (σ : Type) where
  kernelSwi : UInt32 → Addr → Addr → σ → Option KernelOserror × σ
  kernelSwiC : UInt32 → Addr → Addr → Addr → σ → Option KernelOserror × σ
  kernelOsbyte : ℤ → ℤ → ℤ → σ → ℤ × σ
  kernelOsrdch : σ → ℤ × σ
  kernelOswrch : ℤ → σ → ℤ × σ
  kernelOsbget : UInt32 → σ → ℤ × σ
  kernelOsbput : ℤ → UInt32 → σ → ℤ × σ
  kernelOsgbpb : ℤ → Addr → Addr → σ → ℤ × σ
  kernelOsword : ℤ → Addr → σ → ℤ × σ
  kernelOsfind : ℤ → Addr → σ → ℤ × σ
  kernelOsfile : ℤ → Addr → Addr → σ → ℤ × σ
  kernelOsargs : ℤ → UInt32 → ℤ → σ → ℤ × σ
  kernelOscli : Addr → σ → ℤ × σ
  kernelGetenv : Addr → Addr → UInt32 → σ → Option KernelOserror × σ
  kernelSetenv : Addr → Addr → σ → Option KernelOserror × σ
  kernelSystem : Addr → ℤ → σ → ℤ × σ
  /-- The SWI `MessageTrans_ErrorLookup`, which always returns an error. -/
  errorLookup : KernelOserror → σ → KernelOserror × σ
  /-- `_kernel_last_oserror`, for which there is no substitute. -/
  kernelLastOserror : σ → Option KernelOserror × σ

/-- A kernel on which nothing goes wrong, and whose state is the last
error. -/
def KernelLib.plain : KernelLib (Option KernelOserror) where
  kernelSwi _ _ _ s := (none, s)
  kernelSwiC _ _ _ _ s := (none, s)
  kernelOsbyte _ _ _ s := (0, s)
  kernelOsrdch s := (0, s)
  kernelOswrch _ s := (0, s)
  kernelOsbget _ s := (0, s)
  kernelOsbput _ _ s := (0, s)
  kernelOsgbpb _ _ _ s := (0, s)
  kernelOsword _ _ s := (0, s)
  kernelOsfind _ _ s := (0, s)
  kernelOsfile _ _ _ s := (0, s)
  kernelOsargs _ _ _ s := (0, s)
  kernelOscli _ s := (0, s)
  kernelGetenv _ _ _ s := (none, s)
  kernelSetenv _ _ s := (none, s)
  kernelSystem _ _ s := (0, s)
  errorLookup e _ := (e, some e)
  kernelLastOserror s := (s, none)

section Functions

variable {σ : Type} (N : KernelLib σ)

/-- The simulated error of a call, if one is injected. -/
def pseudokernFail (allow : Bool) (env : σ) : Option KernelOserror × σ :=
  if allow then (none, env)
  else
    let (e, env) := N.errorLookup { errnum := dummyErrno, errmess := "NoMem" } env
    (some e, env)

/-- The body of the functions that return an error. -/
def unlessFailed (allow : Bool) (call : σ → Option KernelOserror × σ) (env : σ) :
    Option KernelOserror × σ :=
  match pseudokernFail N allow env with
  | (some e, env) => (some e, env)
  | (none, env) => call env

/-- The body of the functions that return a number. -/
def resultUnlessFailed (allow : Bool) (call : σ → ℤ × σ) (env : σ) : ℤ × σ :=
  match pseudokernFail N allow env with
  | (some _, env) => (kernelError, env)
  | (none, env) => call env

/-- Call a SWI. Only a call without the bit can return an error. -/
def pseudokernSwi (allow : Bool) (no : UInt32) (in_ out : Addr) (env : σ) :
    Option KernelOserror × σ :=
  if kernelNonx &&& no = 0 then unlessFailed N allow (N.kernelSwi no in_ out) env
  else N.kernelSwi no in_ out env

def pseudokernSwiC (allow : Bool) (no : UInt32) (in_ out carry : Addr) (env : σ) :
    Option KernelOserror × σ :=
  if kernelNonx &&& no = 0 then unlessFailed N allow (N.kernelSwiC no in_ out carry) env
  else N.kernelSwiC no in_ out carry env

def pseudokernOsbyte (allow : Bool) (op x y : ℤ) (env : σ) : ℤ × σ :=
  resultUnlessFailed N allow (N.kernelOsbyte op x y) env

def pseudokernOsrdch (allow : Bool) (env : σ) : ℤ × σ :=
  resultUnlessFailed N allow N.kernelOsrdch env

def pseudokernOswrch (allow : Bool) (ch : ℤ) (env : σ) : ℤ × σ :=
  resultUnlessFailed N allow (N.kernelOswrch ch) env

def pseudokernOsbget (allow : Bool) (handle : UInt32) (env : σ) : ℤ × σ :=
  resultUnlessFailed N allow (N.kernelOsbget handle) env

def pseudokernOsbput (allow : Bool) (ch : ℤ) (handle : UInt32) (env : σ) : ℤ × σ :=
  resultUnlessFailed N allow (N.kernelOsbput ch handle) env

def pseudokernOsgbpb (allow : Bool) (op : ℤ) (handle inout : Addr) (env : σ) : ℤ × σ :=
  resultUnlessFailed N allow (N.kernelOsgbpb op handle inout) env

def pseudokernOsword (allow : Bool) (op : ℤ) (data : Addr) (env : σ) : ℤ × σ :=
  resultUnlessFailed N allow (N.kernelOsword op data) env

def pseudokernOsfind (allow : Bool) (op : ℤ) (name : Addr) (env : σ) : ℤ × σ :=
  resultUnlessFailed N allow (N.kernelOsfind op name) env

def pseudokernOsfile (allow : Bool) (op : ℤ) (name inout : Addr) (env : σ) : ℤ × σ :=
  resultUnlessFailed N allow (N.kernelOsfile op name inout) env

def pseudokernOsargs (allow : Bool) (op : ℤ) (handle : UInt32) (arg : ℤ) (env : σ) : ℤ × σ :=
  resultUnlessFailed N allow (N.kernelOsargs op handle arg) env

def pseudokernOscli (allow : Bool) (s : Addr) (env : σ) : ℤ × σ :=
  resultUnlessFailed N allow (N.kernelOscli s) env

def pseudokernGetenv (allow : Bool) (name buffer : Addr) (size : UInt32) (env : σ) :
    Option KernelOserror × σ :=
  unlessFailed N allow (N.kernelGetenv name buffer size) env

def pseudokernSetenv (allow : Bool) (name value : Addr) (env : σ) : Option KernelOserror × σ :=
  unlessFailed N allow (N.kernelSetenv name value) env

def pseudokernSystem (allow : Bool) (string : Addr) (chain : ℤ) (env : σ) : ℤ × σ :=
  resultUnlessFailed N allow (N.kernelSystem string chain) env

end Functions

end Kern

end CBPseudo
