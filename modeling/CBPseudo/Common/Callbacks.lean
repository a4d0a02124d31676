import CBPseudo.Common.Faulty

/-!
# Calls that are programs

A call may itself be a program that makes other calls, as one is that runs
the client's callbacks. `Client.via` puts the programs in the place of the
calls, and `Library.calling` is the library that answers a call by running
its program: a client comes to the same end by either (`result_via`).
-/

namespace Common

variable {I J : Interface} {ε σ τ α β : Type}

/-! ## Programs in sequence -/

/-- One program after another. -/
def Client.bind : Client I α → (α → Client I β) → Client I β
  | .done a, k => k a
  | .call c next, k => .call c fun r => (next r).bind k

/-- **The programs put in the place of the calls.** -/
def Client.via (P : (c : I.Call) → Client J (I.Answer c)) : Client I α → Client J α
  | .done a => .done a
  | .call c next => (P c).bind fun r => (next r).via P

/-- An outcome, without the exchanges. -/
def unlogged : Except ε ((α × List (Exchange I)) × σ) → Except ε (α × σ)
  | .error e => .error e
  | .ok ((a, _), s) => .ok (a, s)

/-- **What a client comes to.** -/
def Client.result (L : Library I ε σ) (client : Client I α) (s : σ) : Except ε (α × σ) :=
  unlogged (client.run L s)

/-- **The library that runs the programs.** -/
def Library.calling (L : Library J ε σ) (P : (c : I.Call) → Client J (I.Answer c)) :
    Library I ε σ := fun c s => (P c).result L s

variable {L : Library I ε σ} {M : Library I ε τ} {R : σ → τ → Prop} {client : Client I α}
variable {a : α} {s s' : σ} {t : τ} {log : List (Exchange I)}

@[simp] theorem result_done : (Client.done a : Client I α).result L s = .ok (a, s) := rfl

@[simp] theorem result_call_done {c : I.Call} :
    (Client.call c .done : Client I (I.Answer c)).result L s = L c s := by
  unfold Client.result
  rw [Client.run]
  rcases L c s with e | ⟨r, s₁⟩ <;> rfl

theorem result_call {c : I.Call} {next : I.Answer c → Client I α} :
    (Client.call c next).result L s =
      match L c s with
      | .error e => .error e
      | .ok (r, s) => (next r).result L s := by
  unfold Client.result
  rw [Client.run]
  rcases L c s with e | ⟨r, s₁⟩
  · rfl
  · simp only
    rcases (next r).run L s₁ with e | ⟨⟨b, log⟩, s₂⟩ <;> rfl

/-- Exchanges that a run began with are not seen in its outcome. -/
@[simp] theorem unlogged_prepend {x : Except ε ((α × List (Exchange I)) × σ)} :
    unlogged (prepend log x) = unlogged x := by
  rcases x with e | ⟨⟨a, rest⟩, s⟩ <;> rfl

theorem result_bind {k : α → Client I β} :
    (client.bind k).result L s =
      match client.result L s with
      | .error e => .error e
      | .ok (a, s) => (k a).result L s := by
  induction client generalizing s with
  | done a => rfl
  | call c next ih =>
    rw [Client.bind, result_call, result_call]
    rcases L c s with e | ⟨r, s₁⟩
    · rfl
    · exact ih r

/-- **A client comes to the same end** with the programs in the place of its
calls as with the library that runs them. -/
theorem result_via {L : Library J ε σ} (P : (c : I.Call) → Client J (I.Answer c))
    (client : Client I α) (s : σ) :
    (client.via P).result L s = client.result (L.calling P) s := by
  induction client generalizing s with
  | done a => rfl
  | call c next ih =>
    rw [Client.via, result_bind, result_call, Library.calling]
    rcases (P c).result L s with e | ⟨r, s₁⟩
    · rfl
    · exact ih r s₁

/-! ## Libraries that answer alike -/

theorem Alike.unlogged {x : Except ε ((α × List (Exchange I)) × σ)}
    {y : Except ε ((α × List (Exchange I)) × τ)} (h : Alike R x y) :
    Alike R (Common.unlogged x) (Common.unlogged y) := by
  cases h with
  | ok h => exact .ok h
  | error => exact .error

/-- Clients come to the same end where libraries answer alike. -/
theorem result_alike (h : AnswerAlike R L M) (client : Client I α) (hR : R s t) :
    Alike R (client.result L s) (client.result M t) :=
  (run_alike h client hR).unlogged

/-- **Programs are run alike** by libraries that answer alike. -/
theorem AnswerAlike.calling (h : AnswerAlike R L M)
    (P : (c : J.Call) → Client I (J.Answer c)) : AnswerAlike R (L.calling P) (M.calling P) :=
  fun c _ _ hR => result_alike h (P c) hR

/-! ## Faulty libraries side by side -/

/-- **A library of two interfaces made faulty** is faulty on each. -/
theorem faulty_inl {refuse : Refusal (I.sum J) σ} {N : Library (I.sum J) ε σ}
    {refuse₁ : Refusal I σ} {L : Library I ε σ} (hrefuse : ∀ c, refuse (.inl c) = refuse₁ c)
    (hN : ∀ c s, N (.inl c) s = L c s) (c : I.Call) (x : Schedule × σ) :
    faulty refuse N (.inl c) x = faulty refuse₁ L c x := by
  obtain ⟨f, s⟩ := x
  cases h : refuse₁ c with
  | none =>
    rw [faulty_of_none h, faulty_of_none ((hrefuse c).trans h), hN]
    rcases L c s with e | ⟨r, s'⟩ <;> rfl
  | some refusal =>
    cases hf : f 0 with
    | true =>
      rw [faulty_of_true h hf, faulty_of_true ((hrefuse c).trans h) hf, hN]
      rcases L c s with e | ⟨r, s'⟩ <;> rfl
    | false =>
      rw [faulty_of_false h hf, faulty_of_false ((hrefuse c).trans h) hf]

end Common
