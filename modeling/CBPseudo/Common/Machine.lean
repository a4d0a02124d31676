import Mathlib.Data.Int.Init
import Mathlib.Tactic.NormNum
import Mathlib.Tactic.Ring

/-!
# The C machine

What a C program may do that its language gives no meaning to, as an
error of `Except`, and the arithmetic of its `int` and `size_t`. `int` is
32 bits wide, and its operations are checked: one whose exact result does
not fit is a fault, not a wrapped value. A fault also stands for the
program ending itself, by a failed assertion or by `abort`.
-/

namespace Common

/-- **How a C program goes wrong.** -/
inductive Fault
  /-- An assertion failed. -/
  | assertFailed
  /-- The program called `abort`. -/
  | abort
  /-- A signed operation whose result does not fit. -/
  | intOverflow
  /-- Memory released or resized that is not allocated. -/
  | badFree
  /-- Memory read or written outside an allocated block. -/
  | outOfBounds
  /-- A `memcpy` between overlapping ranges. -/
  | overlap
  deriving DecidableEq, Repr

/-- An assertion, which a build without debugging compiles out. -/
def cassert (debug : Bool) (p : Prop) [Decidable p] : Except Fault Unit :=
  if debug ∧ ¬ p then .error .assertFailed else .ok ()

@[simp] theorem cassert_of {debug : Bool} {p : Prop} [Decidable p] (h : p) :
    cassert debug p = .ok () := if_neg fun hn => hn.2 h

@[simp] theorem cassert_release {p : Prop} [Decidable p] : cassert false p = .ok () :=
  if_neg fun hn => by simp at hn

/-- An assertion that does not hold, where it is compiled in. -/
theorem cassert_of_not {p : Prop} [Decidable p] (h : ¬ p) :
    cassert true p = .error .assertFailed := if_pos ⟨rfl, h⟩

/-- Where the program goes on, the assertion held or was compiled out. -/
theorem cassert_eq_ok {debug : Bool} {p : Prop} [Decidable p] :
    cassert debug p = .ok () ↔ (debug = true → p) := by
  unfold cassert
  by_cases hp : p <;> cases debug <;> simp [hp]

/-- **A computation that faults nowhere and then faults nowhere** is one
that returns: the inversion of a bind. -/
theorem bind_eq_ok {ε α β : Type} {x : Except ε α} {f : α → Except ε β} {b : β} :
    (x >>= f) = .ok b ↔ ∃ a, x = .ok a ∧ f a = .ok b := by
  cases x with
  | error e => exact ⟨fun h => (by cases h), fun ⟨_, h, _⟩ => (by cases h)⟩
  | ok a => exact ⟨fun h => ⟨a, rfl, h⟩, fun ⟨_, h, hf⟩ => (by cases h; exact hf)⟩

@[simp] theorem ok_bind {ε α β : Type} {a : α} {f : α → Except ε β} :
    (Except.ok a >>= f) = f a := rfl

@[simp] theorem error_bind {ε α β : Type} {e : ε} {f : α → Except ε β} :
    ((Except.error e : Except ε α) >>= f) = .error e := rfl

/-! ## `int` -/

/-- The greatest `int`. -/
def intMax : ℤ := 2147483647

/-- The least `int`. -/
def intMin : ℤ := -2147483648

/-- A value an `int` can hold. -/
def InInt (z : ℤ) : Prop := intMin ≤ z ∧ z ≤ intMax

instance (z : ℤ) : Decidable (InInt z) := inferInstanceAs (Decidable (_ ∧ _))

/-- An `int`. -/
abbrev CInt : Type := {z : ℤ // InInt z}

/-- The result of a signed operation. -/
def toInt (z : ℤ) : Except Fault ℤ := if InInt z then .ok z else .error .intOverflow

theorem toInt_of {z : ℤ} (h : InInt z) : toInt z = .ok z := if_pos h

theorem toInt_eq_ok {z w : ℤ} : toInt z = .ok w ↔ InInt z ∧ w = z := by
  by_cases h : InInt z
  · rw [toInt_of h]
    exact ⟨fun hw => ⟨h, (Except.ok.inj hw).symm⟩, fun hw => by rw [hw.2]⟩
  · rw [toInt, if_neg h]
    exact ⟨fun hw => (by cases hw), fun hw => absurd hw.1 h⟩

/-! ## `size_t` -/

/-- An `int` converted to a `size_t` of 32 bits. -/
def toSizeT (z : ℤ) : ℕ := (z % 2 ^ 32).toNat

/-- A size that is not negative is converted exactly. -/
theorem toSizeT_of_nonneg {z : ℤ} (h0 : 0 ≤ z) (h : z ≤ intMax) : (toSizeT z : ℤ) = z := by
  simp only [intMax] at h
  rw [toSizeT, Int.emod_eq_of_lt h0 (by norm_num; omega), Int.toNat_of_nonneg h0]

theorem toSizeT_eq_toNat {z : ℤ} (h0 : 0 ≤ z) (h : z ≤ intMax) : toSizeT z = z.toNat := by
  have hcast : (toSizeT z : ℤ) = z := toSizeT_of_nonneg h0 h
  omega

end Common
