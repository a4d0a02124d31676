import Mathlib.Data.List.OfFn
import Mathlib.Logic.Function.Basic

/-!
# Arrays filled from the front

An array of a fixed size together with a count of the entries that are in
use. `firstEntries` reads the entries in use off as a list, so that what
is stored after the last of them is an entry more at its end.
-/

namespace Common

variable {α : Type*} {n count : ℕ}

/-- **The entries in use**, in order. -/
def firstEntries (slots : Fin n → α) (count : ℕ) : List α := (List.ofFn slots).take count

theorem length_firstEntries {slots : Fin n → α} (h : count ≤ n) :
    (firstEntries slots count).length = count := by
  rw [firstEntries, List.length_take, List.length_ofFn]
  omega

theorem getElem?_firstEntries {slots : Fin n → α} {i : ℕ} (hi : i < count) (hn : i < n) :
    (firstEntries slots count)[i]? = some (slots ⟨i, hn⟩) := by
  rw [firstEntries, List.getElem?_take_of_lt hi, List.getElem?_ofFn, dif_pos hn]

/-- **What is stored after the last entry** is added at the end. -/
theorem firstEntries_store {slots : Fin n → α} {x : α} (h : count < n) :
    firstEntries (Function.update slots ⟨count, h⟩ x) (count + 1) =
      firstEntries slots count ++ [x] := by
  refine List.ext_getElem? fun i => ?_
  have hlen : (firstEntries slots count).length = count := length_firstEntries h.le
  -- the entries before, the one stored, and none after it
  rcases Nat.lt_trichotomy i count with hi | rfl | hi
  · have hne : (⟨i, by omega⟩ : Fin n) ≠ ⟨count, h⟩ := fun he => by
      have := Fin.mk.inj he
      omega
    rw [getElem?_firstEntries (by omega) (by omega), List.getElem?_append_left (by omega),
      getElem?_firstEntries hi (by omega), Function.update_of_ne hne]
  · rw [getElem?_firstEntries (by omega) h, List.getElem?_append_right (by omega), hlen,
      Function.update_self]
    simp
  · rw [List.getElem?_eq_none, List.getElem?_eq_none]
    · rw [List.length_append, hlen, List.length_singleton]
      exact hi
    · rw [length_firstEntries h]
      exact hi

/-- Cutting a list off before more is added to it makes no difference to
its first entries. -/
theorem take_take_append (l l' : List α) : (l.take n ++ l').take n = (l ++ l').take n := by
  rw [List.take_append, List.take_append, List.take_take, Nat.min_self, List.length_take]
  congr 2
  omega

end Common
