import CBPseudo.Common.Run
import Mathlib.Data.Set.Finite.Basic

/-!
# Blocks that are lost

A component that allocates keeps the addresses of its blocks, so as to
free them: it owns those. A step that empties that store without freeing
the blocks loses them, for nobody can free them afterwards. `Accounts`
says that every live block is owned once or lost, and the account of a
whole run tells the lost ones apart by the step that lost them.
-/

namespace Common

variable {σ α β : Type*} {step : σ → α → σ → Prop} {s t u : σ} {as : List α} {b : α}

/-! ## Accounts -/

/-- **Every live block is owned, once, or lost**, and none is both. -/
structure Accounts (lost : Set β) (owned : List β) (live : Finset β) : Prop where
  nodup : owned.Nodup
  mem_live : ∀ a, a ∈ live ↔ a ∈ owned ∨ a ∈ lost
  notMem : ∀ a ∈ lost, a ∉ owned

namespace Accounts

variable {lost : Set β} {owned : List β} {live : Finset β} {a : β}

/-- Nothing owned, nothing lost. -/
theorem empty : Accounts (∅ : Set β) [] ∅ where
  nodup := List.nodup_nil
  mem_live := fun a => by simp
  notMem := fun a ha => ha.elim

/-- Only live blocks are lost. -/
theorem finite (h : Accounts lost owned live) : lost.Finite :=
  live.finite_toSet.subset fun a ha => (h.mem_live a).mpr (Or.inr ha)

variable [DecidableEq β]

/-- **A block is allocated.** -/
theorem insert (h : Accounts lost owned live) (ha : a ∉ live) :
    Accounts lost (a :: owned) (Insert.insert a live) := by
  obtain ⟨howned, hlost⟩ := not_or.mp (mt (h.mem_live a).mpr ha)
  refine ⟨List.nodup_cons.mpr ⟨howned, h.nodup⟩, fun x => ?_, fun x hx hin => ?_⟩
  · rw [Finset.mem_insert, h.mem_live, List.mem_cons, or_assoc]
  · rcases List.mem_cons.mp hin with rfl | hin
    · exact hlost hx
    · exact h.notMem x hx hin

/-- **A block is freed** that is owned. -/
theorem erase (h : Accounts lost owned live) (ha : a ∈ owned) :
    Accounts lost (owned.erase a) (live.erase a) := by
  refine ⟨h.nodup.erase a, fun x => ?_, fun x hx hin => ?_⟩
  · rw [Finset.mem_erase, h.mem_live, h.nodup.mem_erase_iff]
    constructor
    · rintro ⟨hne, hx | hx⟩
      · exact Or.inl ⟨hne, hx⟩
      · exact Or.inr hx
    · rintro (⟨hne, hx⟩ | hx)
      · exact ⟨hne, Or.inl hx⟩
      · exact ⟨fun he => h.notMem x hx (he ▸ ha), Or.inr hx⟩
  · exact h.notMem x hx (List.mem_of_mem_erase hin)

omit [DecidableEq β] in
/-- **The store is emptied**: what was owned is lost. -/
theorem clear (h : Accounts lost owned live) : Accounts (lost ∪ {a | a ∈ owned}) [] live where
  nodup := List.nodup_nil
  mem_live := fun a => by
    rw [h.mem_live, or_comm]
    simp
  notMem := fun a _ ha => by cases ha

end Accounts

/-! ## Runs -/

/-- **The blocks a run forgets**: those owned when a step was made that
clears the store. -/
def Forgotten (step : σ → α → σ → Prop) (owned : σ → List β) (clears : α → Prop) (s : σ)
    (as : List α) : Set β :=
  {a | ∃ before b after t, as = before ++ b :: after ∧ clears b ∧ Run step s before t ∧
    a ∈ owned t}

variable {owned : σ → List β} {live : σ → Finset β} {clears : α → Prop}

theorem forgotten_nil : Forgotten step owned clears s [] = ∅ := by
  ext a
  constructor
  · rintro ⟨before, b, after, t, h, -⟩
    simp at h
  · exact fun h => h.elim

/-- **One step more** forgets what is owned before it, if it clears the
store. -/
theorem forgotten_snoc (hdet : ∀ t a u v, step t a u → step t a v → u = v)
    (hrun : Run step s as t) :
    Forgotten step owned clears s (as ++ [b]) =
      Forgotten step owned clears s as ∪ {a | clears b ∧ a ∈ owned t} := by
  ext a
  constructor
  · rintro ⟨before, b', after, t', h, hclears, hrun', ha⟩
    rcases List.eq_nil_or_concat after with rfl | ⟨after, b'', rfl⟩
    · obtain ⟨rfl, rfl⟩ : as = before ∧ b = b' := by simpa using h
      obtain rfl := hrun.unique hrun' hdet
      exact Or.inr ⟨hclears, ha⟩
    · rw [List.concat_eq_append, ← List.cons_append, ← List.append_assoc] at h
      exact Or.inl ⟨before, b', after, t', (List.append_inj' h rfl).1, hclears, hrun', ha⟩
  · rintro (⟨before, b', after, t', rfl, hclears, hrun', ha⟩ | ⟨hclears, ha⟩)
    · exact ⟨before, b', after ++ [b], t', by simp, hclears, hrun', ha⟩
    · exact ⟨as, b, [], t, rfl, hclears, hrun, ha⟩

/-- **The rule of accounts**: where a step either keeps every account or
clears the store and leaves the blocks, the live blocks at the end of a
run are those owned, once each, and those it has forgotten. What the steps
need besides may be an invariant. -/
theorem Run.accounts {I : σ → Prop} (h : Run step s as t)
    (hdet : ∀ t a u v, step t a u → step t a v → u = v)
    (hI : I s) (hinv : ∀ t a u, I t → step t a u → I u)
    (h0 : owned s = [] ∧ live s = ∅)
    (hkeep : ∀ lost t a u, I t → step t a u → ¬ clears a → Accounts lost (owned t) (live t) →
      Accounts lost (owned u) (live u))
    (hclear : ∀ t a u, I t → step t a u → clears a → owned u = [] ∧ live u = live t) :
    Accounts (Forgotten step owned clears s as) (owned t) (live t) := by
  induction h with
  | nil =>
    rw [forgotten_nil, h0.1, h0.2]
    exact .empty
  | @snoc as t u b hrun hs ih =>
    have hit : I t := hrun.invariant hI hinv
    rw [forgotten_snoc hdet hrun]
    by_cases hb : clears b
    · obtain ⟨howned, hlive⟩ := hclear t b u hit hs hb
      rw [howned, hlive]
      simpa only [hb, true_and] using ih.clear
    · simpa only [hb, false_and, Set.ofPred_false, Set.union_empty] using
        hkeep _ t b u hit hs hb ih

end Common
