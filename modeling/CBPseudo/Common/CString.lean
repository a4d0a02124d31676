import Mathlib.Data.List.Basic

/-!
# C strings

The characters of a string up to its NUL, which is not one of them.
-/

namespace Common

/-- **The characters of a C string**, without the NUL that ends it. -/
structure CString where
  chars : List UInt8
  noNul : 0 ∉ chars
  deriving DecidableEq

namespace CString

/-- The string without characters. -/
def empty : CString := ⟨[], List.not_mem_nil⟩

/-- `strlen`. -/
def strlen (s : CString) : ℕ := s.chars.length

/-- The first characters of a string. -/
def truncate (n : ℕ) (s : CString) : CString :=
  ⟨s.chars.take n, fun h => s.noNul (List.mem_of_mem_take h)⟩

/-- A copy into an array of a given size that leaves out what does not
fit: the array keeps room for the NUL. It stands for a function that copies
as many of the first characters as there is room for, and always ends the
copy with a NUL. -/
def strcpySafe (size : ℕ) (s : CString) : CString := s.truncate (size - 1)

theorem truncate_of_le {n : ℕ} {s : CString} (h : s.strlen ≤ n) : s.truncate n = s := by
  cases s
  simp only [truncate, mk.injEq]
  exact List.take_of_length_le h

/-- A string that fits is copied whole. -/
theorem strcpySafe_of_lt {size : ℕ} {s : CString} (h : s.strlen < size) :
    s.strcpySafe size = s :=
  truncate_of_le (by omega)

end CString

end Common
