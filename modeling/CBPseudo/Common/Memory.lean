import CBPseudo.Common.ItemList
import CBPseudo.Common.Machine

/-!
# Memory by address

The memory that a program and the libraries it calls read and write
through addresses, as a part of a state `σ`: `bytes` says what is there,
and at which addresses nothing is. `memcpy` is a fault where its ranges
overlap or are not all there.
-/

namespace Common

/-- **The memory** in a state. -/
structure Memory (σ : Type) where
  bytes : σ → Addr → Option UInt8
  write : (Addr → Option UInt8) → σ → σ

namespace Memory

variable {σ : Type} (M : Memory σ) {s s' : σ} {dst src n k : ℕ}

/-- **Memory that keeps what is written to it.** -/
structure Lawful : Prop where
  bytes_write : ∀ m s, M.bytes (M.write m s) = m
  write_bytes : ∀ s, M.write (M.bytes s) s = s
  write_write : ∀ m m' s, M.write m (M.write m' s) = M.write m s

/-- Every byte of a range is there. -/
def Mapped (a : Addr) (n : ℕ) (s : σ) : Prop := ∀ i < n, (M.bytes s (a + i)).isSome

instance (a : Addr) (n : ℕ) (s : σ) : Decidable (M.Mapped a n s) :=
  inferInstanceAs (Decidable (∀ i < n, _))

/-- Two ranges of one length that share an address. -/
def Overlap (dst src n : ℕ) : Prop := dst < src + n ∧ src < dst + n

instance (dst src n : ℕ) : Decidable (Overlap dst src n) := inferInstanceAs (Decidable (_ ∧ _))

/-- The bytes after those of one range have been written to another. -/
def copied (dst src n : ℕ) (m : Addr → Option UInt8) : Addr → Option UInt8 := fun a =>
  if dst ≤ a ∧ a < dst + n then m (a - dst + src) else m a

/-- `memcpy`. -/
def memcpy (dst src n : ℕ) (s : σ) : Except Fault σ :=
  if Overlap dst src n then .error .overlap
  else if M.Mapped dst n s ∧ M.Mapped src n s then .ok (M.write (copied dst src n (M.bytes s)) s)
  else .error .outOfBounds

end Memory

end Common
