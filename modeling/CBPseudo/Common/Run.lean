import Mathlib.Data.List.Induction

/-!
# Runs of a labelled relation

A system is a relation `step s a t`, read "from `s` the step labelled
`a` leads to `t`". `Run` strings such steps together and keeps the list
of labels, so that a property of a state may also speak of the history
that led to it. The induction over a run is done here, once: `invariant`
for what each step preserves, `history` for what each step preserves
about the labels so far.
-/

namespace Common

variable {σ τ α : Type*} {step : σ → α → σ → Prop} {s t u : σ} {as bs : List α} {a : α}

/-- **A run**: from `s`, through the steps labelled `as` in order, to `t`. -/
inductive Run (step : σ → α → σ → Prop) (s : σ) : List α → σ → Prop
  /-- The run of no steps. -/
  | nil : Run step s [] s
  /-- One step more. -/
  | snoc {as : List α} {t u : σ} {a : α} :
      Run step s as t → step t a u → Run step s (as ++ [a]) u

namespace Run

/-- **The invariant rule**: what holds at the start and is preserved by
every step holds at the end. -/
theorem invariant {I : σ → Prop} (h : Run step s as t) (h0 : I s)
    (hstep : ∀ t a u, I t → step t a u → I u) : I t := by
  induction h with
  | nil => exact h0
  | snoc _ hs ih => exact hstep _ _ _ ih hs

/-- **The history rule**: the same, for a property of the labels so far
and the state they lead to. -/
theorem history {I : List α → σ → Prop} (h : Run step s as t) (h0 : I [] s)
    (hstep : ∀ as t a u, I as t → step t a u → I (as ++ [a]) u) : I as t := by
  induction h with
  | nil => exact h0
  | snoc _ hs ih => exact hstep _ _ _ _ ih hs

/-- A run of steps that are also steps of another system. -/
theorem mono {step' : σ → α → σ → Prop} (h : Run step s as t)
    (hstep : ∀ t a u, step t a u → step' t a u) : Run step' s as t := by
  induction h with
  | nil => exact nil
  | snoc _ hs ih => exact ih.snoc (hstep _ _ _ hs)

/-- **Where steps lead to one state, so do runs.** -/
theorem unique (h : Run step s as t) (h' : Run step s as u)
    (hstep : ∀ t a u v, step t a u → step t a v → u = v) : t = u := by
  induction h generalizing u with
  | nil =>
    generalize hl : ([] : List α) = l at h'
    cases h' with
    | nil => rfl
    | snoc _ _ => simp at hl
  | snoc _ hs ih =>
    -- both runs end with the same label, after runs of the others
    generalize hl : _ ++ [_] = l at h'
    cases h' with
    | nil => simp at hl
    | snoc h' hs' =>
      obtain ⟨rfl, rfl⟩ := by simpa using hl
      rw [ih h'] at hs
      exact hstep _ _ _ _ hs hs'

/-- One run after another. -/
theorem append (h : Run step s as t) (h' : Run step t bs u) : Run step s (as ++ bs) u := by
  induction h' with
  | nil => rwa [List.append_nil]
  | snoc _ hs ih => rw [← List.append_assoc]; exact ih.snoc hs

/-- One step before a run. -/
theorem cons (hs : step s a t) (h : Run step t as u) : Run step s (a :: as) u :=
  (nil.snoc hs).append h

/-- The last step of a run, split off. -/
theorem of_snoc (h : Run step s (as ++ [a]) u) : ∃ t, Run step s as t ∧ step t a u := by
  generalize hl : as ++ [a] = l at h
  cases h with
  | nil => simp at hl
  | snoc h hs =>
    obtain ⟨rfl, rfl⟩ := by simpa using hl
    exact ⟨_, h, hs⟩

/-- **A run passes through a state at every split of its labels.** -/
theorem split (h : Run step s (as ++ bs) u) : ∃ t, Run step s as t ∧ Run step t bs u := by
  induction bs using List.reverseRecOn generalizing u with
  | nil => exact ⟨u, by simpa using h, Run.nil⟩
  | append_singleton bs b ih =>
    rw [← List.append_assoc] at h
    obtain ⟨t, ht, hs⟩ := of_snoc h
    obtain ⟨t', h₁, h₂⟩ := ih ht
    exact ⟨t', h₁, h₂.snoc hs⟩

/-- The run of no steps stays. -/
theorem eq_of_nil (h : Run step s [] t) : s = t := by
  generalize hl : ([] : List α) = l at h
  cases h with
  | nil => rfl
  | snoc _ _ => simp at hl

/-- The first step of a run, split off. -/
theorem of_cons (h : Run step s (a :: as) u) : ∃ t, step s a t ∧ Run step t as u := by
  have h : Run step s ([a] ++ as) u := h
  obtain ⟨t, hfirst, hrest⟩ := h.split
  have hfirst : Run step s ([] ++ [a]) t := hfirst
  obtain ⟨s', hnil, hs⟩ := hfirst.of_snoc
  obtain rfl := eq_of_nil hnil
  exact ⟨t, hs, hrest⟩

/-- Each label of a run is that of a step. -/
theorem exists_step_of_mem (h : Run step s as t) (ha : a ∈ as) : ∃ t u, step t a u := by
  obtain ⟨bs, cs, rfl⟩ := List.append_of_mem ha
  obtain ⟨u, -, hrest⟩ := h.split
  obtain ⟨v, hs, -⟩ := hrest.of_cons
  exact ⟨u, v, hs⟩

end Run

end Common
