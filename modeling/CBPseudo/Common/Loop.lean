import Mathlib.Data.Nat.Notation

/-!
# Loops

A `while` loop, run for at most a number of turns: `none` where that is
not enough, or where the body itself does not end. `Loop.total` is the
rule for total correctness: an invariant that the body keeps, and a
measure that it decreases, so that any greater number of turns will do;
and they come to the same (`loop_mono`).
-/

namespace Common

variable {σ : Type*}

/-- **While the condition holds, do the body**, for at most `fuel` turns. -/
def loop (cond : σ → Bool) (body : σ → Option σ) : ℕ → σ → Option σ
  | 0, _ => none
  | fuel + 1, s => if cond s then (body s).bind (loop cond body fuel) else some s

variable {cond : σ → Bool} {body : σ → Option σ} {fuel : ℕ} {s t : σ}

/-- A loop whose condition does not hold is over. -/
theorem loop_of_not (h : cond s = false) : loop cond body (fuel + 1) s = some s := by
  rw [loop, h, if_neg (by decide)]

/-- Otherwise the body is run, and the loop again. -/
theorem loop_of_cond (h : cond s = true) (hbody : body s = some t) :
    loop cond body (fuel + 1) s = loop cond body fuel t := by
  rw [loop, if_pos h, hbody]
  rfl

/-- **More turns than enough** make no difference. -/
theorem loop_mono {fuel' : ℕ} (h : loop cond body fuel s = some t) (hle : fuel ≤ fuel') :
    loop cond body fuel' s = some t := by
  induction fuel generalizing s fuel' with
  | zero => cases h
  | succ fuel ih =>
    obtain ⟨fuel', rfl⟩ := Nat.exists_eq_add_of_le' (Nat.le_of_add_left_le hle)
    cases hcond : cond s with
    | false =>
      rw [loop_of_not hcond] at h ⊢
      exact h
    | true =>
      rw [loop, if_pos hcond] at h ⊢
      obtain ⟨u, hbody, hloop⟩ := Option.bind_eq_some_iff.mp h
      rw [hbody, Option.bind_some]
      exact ih hloop (Nat.le_of_add_le_add_right hle)

/-- **Total correctness**: where every turn keeps the invariant and
decreases the measure, the loop ends, with the invariant and without its
condition. -/
theorem loop_total {I : σ → Prop} (measure : σ → ℕ)
    (hstep : ∀ s, I s → cond s = true → ∃ t, body s = some t ∧ I t ∧ measure t < measure s)
    (h : I s) (hfuel : measure s < fuel) :
    ∃ t, loop cond body fuel s = some t ∧ I t ∧ cond t = false := by
  induction fuel generalizing s with
  | zero => omega
  | succ fuel ih =>
    cases hcond : cond s with
    | false => exact ⟨s, loop_of_not hcond, h, hcond⟩
    | true =>
      obtain ⟨t, hbody, ht, hlt⟩ := hstep s h hcond
      obtain ⟨u, hloop, hu⟩ := ih ht (by omega)
      exact ⟨u, (loop_of_cond hcond hbody).trans hloop, hu⟩

end Common
