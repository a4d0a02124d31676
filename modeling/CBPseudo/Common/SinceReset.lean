import Mathlib.Data.List.Induction
import Mathlib.Data.List.ReduceOption
import Mathlib.Data.List.TakeWhile

/-!
# Histories with resets

A history of resets and entries, as a list in which `none` is a reset.
`sinceReset` is the list of entries since the last reset, if there has
been a reset at all: what a log that resets clear, and that records
nothing before the first, is to hold. `afterReset` is the list of entries
since the first: what numbers that resets leave alone have been given to.
-/

namespace Common

variable {ρ : Type*}

/-- One event more: a reset starts over, and an entry is added to those
since the last reset. -/
def noteEvent (entries : Option (List ρ)) : Option ρ → Option (List ρ)
  | none => some []
  | some c => entries.map (· ++ [c])

/-- **The entries since the last reset.** -/
def sinceReset (history : List (Option ρ)) : Option (List ρ) := history.foldl noteEvent none

variable {history : List (Option ρ)} {entries : List ρ}

@[simp] theorem sinceReset_nil : sinceReset ([] : List (Option ρ)) = none := rfl

@[simp] theorem sinceReset_reset : sinceReset (history ++ [none]) = some [] := by
  rw [sinceReset, List.foldl_append]
  rfl

@[simp] theorem sinceReset_entry {c : ρ} :
    sinceReset (history ++ [some c]) = (sinceReset history).map (· ++ [c]) := by
  rw [sinceReset, List.foldl_append]
  rfl

/-- There are entries since the last reset wherever there has been one. -/
theorem sinceReset_isSome : (sinceReset history).isSome ↔ none ∈ history := by
  induction history using List.reverseRecOn with
  | nil => simp
  | append_singleton history e ih => cases e <;> simp [ih]

theorem sinceReset_map {τ : Type*} (f : ρ → τ) :
    sinceReset (history.map (Option.map f)) = (sinceReset history).map (List.map f) := by
  induction history using List.reverseRecOn with
  | nil => rfl
  | append_singleton history e ih =>
    rw [List.map_append, List.map_singleton]
    cases e with
    | none =>
      rw [Option.map_none, sinceReset_reset, sinceReset_reset, Option.map_some, List.map_nil]
    | some c =>
      rw [Option.map_some, sinceReset_entry, sinceReset_entry, ih, Option.map_map, Option.map_map]
      congr 1
      funext l
      simp

/-- **The entries since the first reset.** -/
def afterReset (history : List (Option ρ)) : List ρ :=
  (history.dropWhile Option.isSome).reduceOption

theorem dropWhile_isSome_eq_nil : history.dropWhile Option.isSome = [] ↔ none ∉ history := by
  rw [List.dropWhile_eq_nil_iff]
  constructor
  · intro h hnone
    simpa using h none hnone
  · intro h e he
    cases e with
    | none => exact absurd he h
    | some c => rfl

@[simp] theorem afterReset_reset : afterReset (history ++ [none]) = afterReset history := by
  rw [afterReset, afterReset, List.dropWhile_append]
  split
  · next h =>
    rw [List.isEmpty_iff.mp h]
    rfl
  · rw [List.reduceOption_append]
    exact List.append_nil _

theorem afterReset_map {τ : Type*} (f : ρ → τ) :
    afterReset (history.map (Option.map f)) = (afterReset history).map f := by
  have hsome : Option.isSome ∘ Option.map f = Option.isSome := funext fun e => by cases e <;> rfl
  rw [afterReset, afterReset, List.dropWhile_map, hsome, List.reduceOption_map]

/-- Before the first reset there are none. -/
theorem afterReset_eq_nil (h : none ∉ history) : afterReset history = [] := by
  rw [afterReset, dropWhile_isSome_eq_nil.mpr h]
  rfl

/-- They only grow. -/
theorem afterReset_append (history later : List (Option ρ)) :
    afterReset history <+: afterReset (history ++ later) := by
  rw [afterReset, afterReset, List.dropWhile_append]
  split
  · next h =>
    rw [List.isEmpty_iff.mp h]
    exact List.nil_prefix
  · rw [List.reduceOption_append]
    exact List.prefix_append _ _

/-- After it, every entry is one of them. -/
theorem afterReset_entry {c : ρ} (h : none ∈ history) :
    afterReset (history ++ [some c]) = afterReset history ++ [c] := by
  have hne : ¬ (history.dropWhile Option.isSome).isEmpty := by
    rw [List.isEmpty_iff, dropWhile_isSome_eq_nil]
    exact not_not.mpr h
  rw [afterReset, List.dropWhile_append, if_neg hne, List.reduceOption_append]
  rfl

/-- An entry before the first reset is not. -/
theorem afterReset_entry_of_notMem {c : ρ} (h : none ∉ history) :
    afterReset (history ++ [some c]) = [] := afterReset_eq_nil (by simp [h])

end Common
