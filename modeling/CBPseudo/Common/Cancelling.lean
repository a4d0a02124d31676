import Mathlib.Data.List.Basic
import Mathlib.Data.List.Count
import Mathlib.Data.List.Induction
import Mathlib.Data.List.Infix

/-!
# Histories with cancellations

A history in which keys are made and cancelled, the same key any number of
times: a cancellation takes back the latest of its key that has not been
taken back, and does nothing where there is none. `remaining` is the list
of the keys that are left, newest first. Which of the entries those are is
said without the list by `Survives`: one after which, however far one
reads on, its key has not been cancelled more often than made again.
-/

namespace Common

variable {κ : Type*}

/-- **An entry of a history.** -/
inductive Entry (κ : Type*)
  /-- A key is made. -/
  | made (k : κ)
  /-- The latest of a key is taken back. -/
  | cancelled (k : κ)
  deriving DecidableEq

variable [DecidableEq κ] {k j : κ} {l : List κ} {n : ℕ} {e : Entry κ} {h t : List (Entry κ)}

/-- One entry more. -/
def noteEntry (l : List κ) : Entry κ → List κ
  | .made k => k :: l
  | .cancelled k => l.erase k

/-- **The keys that are left**, the newest first. -/
def remaining (h : List (Entry κ)) : List κ := h.foldl noteEntry []

@[simp] theorem remaining_nil : remaining ([] : List (Entry κ)) = [] := rfl

theorem remaining_snoc : remaining (h ++ [e]) = noteEntry (remaining h) e := by
  rw [remaining, List.foldl_append]
  rfl

/-! ## Surviving -/

/-- **A key made before `after` survives it**, where `n` more of the key
stand in front of it. -/
def Outlasts (n : ℕ) (k : κ) (after : List (Entry κ)) : Prop :=
  ∀ p, p <+: after → p.count (.cancelled k) ≤ p.count (.made k) + n

/-- **A key made before `after` survives it.** -/
def Survives (k : κ) (after : List (Entry κ)) : Prop :=
  ∀ p, p <+: after → p.count (.cancelled k) ≤ p.count (.made k)

theorem outlasts_nil : Outlasts n k [] := by
  intro p hp
  rw [List.prefix_nil.mp hp]
  simp

/-- What begins with an entry is read on from there. -/
theorem outlasts_cons : Outlasts n k (e :: t) ↔
    ∀ p, p <+: t → (e :: p).count (.cancelled k) ≤ (e :: p).count (.made k) + n := by
  constructor
  · exact fun h p hp => h (e :: p) (List.cons_prefix_cons.mpr ⟨rfl, hp⟩)
  · intro h p hp
    rcases List.prefix_cons_iff.mp hp with rfl | ⟨q, rfl, hq⟩
    · simp
    · exact h q hq

/-- The key made again puts one more in front. -/
theorem outlasts_made : Outlasts n k (.made k :: t) ↔ Outlasts (n + 1) k t := by
  rw [outlasts_cons]
  refine forall₂_congr fun p _ => ?_
  rw [List.count_cons_self, List.count_cons_of_ne (by simp)]
  omega

/-- The key cancelled takes one from in front, if there is one. -/
theorem outlasts_cancelled : Outlasts n k (.cancelled k :: t) ↔ 0 < n ∧ Outlasts (n - 1) k t := by
  rw [outlasts_cons]
  have hcount : ∀ p : List (Entry κ),
      (Entry.cancelled k :: p).count (.cancelled k) = p.count (.cancelled k) + 1 ∧
      (Entry.cancelled k :: p).count (.made k) = p.count (.made k) := fun p =>
    ⟨List.count_cons_self, List.count_cons_of_ne (by simp)⟩
  constructor
  · intro h
    have hpos : 0 < n := by
      have := h [] List.nil_prefix
      rw [(hcount []).1, (hcount []).2, List.count_nil, List.count_nil] at this
      omega
    refine ⟨hpos, fun p hp => ?_⟩
    have := h p hp
    rw [(hcount p).1, (hcount p).2] at this
    omega
  · rintro ⟨hpos, h⟩ p hp
    have := h p hp
    rw [(hcount p).1, (hcount p).2]
    omega

/-- Other keys do not matter. -/
theorem outlasts_other (hm : e ≠ .made k) (hc : e ≠ .cancelled k) :
    Outlasts n k (e :: t) ↔ Outlasts n k t := by
  rw [outlasts_cons]
  refine forall₂_congr fun p _ => ?_
  rw [List.count_cons_of_ne hm, List.count_cons_of_ne hc]

/-! ## What is left -/

/-- **The oldest key of a list** is left after a history where it outlasts
that, and the rest is what it would be without it. -/
theorem foldl_noteEntry_snoc (l : List κ) (k : κ) (t : List (Entry κ)) :
    (Outlasts (l.count k) k t → t.foldl noteEntry (l ++ [k]) = t.foldl noteEntry l ++ [k]) ∧
    (¬ Outlasts (l.count k) k t → t.foldl noteEntry (l ++ [k]) = t.foldl noteEntry l) := by
  induction t generalizing l with
  | nil => exact ⟨fun _ => rfl, fun h => absurd outlasts_nil h⟩
  | cons e t ih =>
    cases e with
    | made j =>
      have hih := ih (j :: l)
      rw [List.foldl_cons, List.foldl_cons, noteEntry, noteEntry, ← List.cons_append]
      by_cases hjk : j = k
      · subst hjk
        rwa [outlasts_made, ← List.count_cons_self]
      · rwa [outlasts_other (by simpa using hjk) (by simp), ← List.count_cons_of_ne hjk]
    | cancelled j =>
      have hih := ih (l.erase j)
      rw [List.foldl_cons, List.foldl_cons, noteEntry, noteEntry]
      by_cases hjl : j ∈ l
      · rw [List.erase_append_left _ hjl]
        by_cases hjk : j = k
        · subst hjk
          rw [outlasts_cancelled, ← List.count_erase_self]
          have hpos : 0 < l.count j := List.count_pos_iff.mpr hjl
          exact ⟨fun h => hih.1 h.2, fun h => hih.2 fun ho => h ⟨hpos, ho⟩⟩
        · rwa [outlasts_other (by simp) (by simpa using hjk),
            ← List.count_erase_of_ne (Ne.symm hjk)]
      · -- the oldest key is the only one that can be meant
        rw [List.erase_append_right _ hjl, List.erase_of_not_mem hjl]
        rw [List.erase_of_not_mem hjl] at hih
        by_cases hjk : j = k
        · subst hjk
          rw [outlasts_cancelled, List.count_eq_zero_of_not_mem hjl]
          rw [List.erase_cons_head, List.append_nil]
          exact ⟨fun h => absurd h.1 (by omega), fun _ => rfl⟩
        · rw [outlasts_other (by simp) (by simpa using hjk),
            List.erase_cons_tail (by simpa using Ne.symm hjk), List.erase_nil]
          exact hih

/-- **A key made first** is last of those left, where it survives. -/
theorem remaining_made :
    (Survives k t → remaining (.made k :: t) = remaining t ++ [k]) ∧
    (¬ Survives k t → remaining (.made k :: t) = remaining t) :=
  foldl_noteEntry_snoc [] k t

/-- A cancellation at the start does nothing. -/
theorem remaining_cancelled : remaining (.cancelled k :: t) = remaining t := by
  rw [remaining, List.foldl_cons, noteEntry, List.erase_nil]
  rfl

/-- What is left was made. -/
theorem made_mem_of_mem_remaining (hk : k ∈ remaining h) : .made k ∈ h := by
  induction h using List.reverseRecOn with
  | nil => cases hk
  | append_singleton h e ih =>
    rw [remaining_snoc] at hk
    rw [List.mem_append, List.mem_singleton]
    cases e with
    | made j =>
      rcases List.mem_cons.mp hk with rfl | hk
      · exact Or.inr rfl
      · exact Or.inl (ih hk)
    | cancelled j => exact Or.inl (ih (List.mem_of_mem_erase hk))

/-! ## The latest survivor -/

variable {p : κ → Bool}

/-- **The latest that survives** of the keys that satisfy a condition. -/
def LatestSurvivor (h : List (Entry κ)) (p : κ → Bool) (k : κ) : Prop :=
  ∃ before after, h = before ++ .made k :: after ∧ Survives k after ∧ p k ∧
    ∀ mid j rest, after = mid ++ .made j :: rest → Survives j rest → ¬ p j

/-- No key that satisfies it is left where none survives. -/
theorem find?_remaining_eq_none : (remaining h).find? p = none ↔
    ∀ before k after, h = before ++ .made k :: after → Survives k after → ¬ p k := by
  induction h with
  | nil => simp
  | cons e t ih =>
    -- an entry of the history is the first, or one of the rest
    have hsplit : (∀ before k after, e :: t = before ++ .made k :: after → Survives k after →
        ¬ p k) ↔ (∀ k, e = .made k → Survives k t → ¬ p k) ∧ (remaining t).find? p = none := by
      rw [ih]
      constructor
      · intro hall
        exact ⟨fun k he => hall [] k t (by rw [he]; rfl), fun before k after ht =>
          hall (e :: before) k after (by rw [ht]; rfl)⟩
      · rintro ⟨hfirst, hrest⟩ before k after heq hs
        rcases List.cons_eq_append_iff.mp heq with ⟨-, hk⟩ | ⟨before', -, ht⟩
        · obtain ⟨rfl, rfl⟩ := List.cons.inj hk
          exact hfirst k rfl hs
        · exact hrest before' k after ht hs
    rw [hsplit]
    cases e with
    | made k =>
      by_cases hs : Survives k t
      · rw [remaining_made.1 hs, List.find?_append, Option.or_eq_none_iff, List.find?_singleton]
        constructor
        · rintro ⟨hrest, hk⟩
          refine ⟨?_, hrest⟩
          rintro _ ⟨⟩ _ hp
          simp [hp] at hk
        · rintro ⟨hfirst, hrest⟩
          exact ⟨hrest, if_neg (hfirst k rfl hs)⟩
      · rw [remaining_made.2 hs]
        refine ⟨fun hrest => ⟨?_, hrest⟩, fun hall => hall.2⟩
        rintro _ ⟨⟩ hs'
        exact absurd hs' hs
    | cancelled k =>
      rw [remaining_cancelled]
      exact ⟨fun hrest => ⟨fun _ he => (by cases he), hrest⟩, fun hall => hall.2⟩

/-- **The first key left that satisfies it** is the latest that
survives. -/
theorem latestSurvivor_of_find? (hf : (remaining h).find? p = some k) : LatestSurvivor h p k := by
  induction h with
  | nil => simp at hf
  | cons e t ih =>
    have hlater : (remaining t).find? p = some k → LatestSurvivor (e :: t) p k := by
      intro hf
      obtain ⟨before, after, rfl, hs, hp, hlast⟩ := ih hf
      exact ⟨e :: before, after, rfl, hs, hp, hlast⟩
    cases e with
    | made j =>
      by_cases hs : Survives j t
      · rw [remaining_made.1 hs, List.find?_append] at hf
        cases hrest : (remaining t).find? p with
        | some i =>
          rw [hrest, Option.some_or] at hf
          exact hlater (hrest.trans hf)
        | none =>
          -- nothing later is left, so it is the entry at the start
          rw [hrest, Option.none_or, List.find?_singleton] at hf
          by_cases hp : p j
          · rw [if_pos hp] at hf
            obtain rfl := Option.some.inj hf
            exact ⟨[], t, rfl, hs, hp,
              fun mid j rest => find?_remaining_eq_none.mp hrest mid j rest⟩
          · rw [if_neg hp] at hf
            cases hf
      · rw [remaining_made.2 hs] at hf
        exact hlater hf
    | cancelled j =>
      rw [remaining_cancelled] at hf
      exact hlater hf

end Common
