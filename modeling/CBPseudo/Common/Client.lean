import CBPseudo.Common.Run

/-!
# Clients of a library

An interface is a set of calls, each with its own type of answers. A
client of it is a program that makes calls and goes on by what they are
answered; a library answers them, on a state of its own, and may go wrong.
Two libraries that answer alike in states that correspond cannot be told
apart by any client: `run_alike` is that rule, and the induction over
clients is done there, once.
-/

namespace Common

/-- **An interface.** -/
structure Interface where
  Call : Type
  /-- What each call is answered with. -/
  Answer : Call → Type

/-- **A client**: it is done, or makes a call and goes on by the answer. -/
inductive Client (I : Interface) (α : Type)
  | done (a : α)
  | call (c : I.Call) (next : I.Answer c → Client I α)

/-- **A library**, on a state `σ`. -/
abbrev Library (I : Interface) (ε σ : Type) := (c : I.Call) → σ → Except ε (I.Answer c × σ)

/-- A call, with what it was answered. -/
abbrev Exchange (I : Interface) := (c : I.Call) × I.Answer c

variable {I : Interface} {ε σ τ α β : Type} {L : Library I ε σ} {M : Library I ε τ}

/-- **The run of a client**: what it ends with, and its exchanges, in
order. -/
def Client.run (L : Library I ε σ) : Client I α → σ → Except ε ((α × List (Exchange I)) × σ)
  | .done a, s => .ok ((a, []), s)
  | .call c next, s =>
    match L c s with
    | .error e => .error e
    | .ok (r, s) =>
      match (next r).run L s with
      | .error e => .error e
      | .ok ((a, log), s) => .ok ((a, ⟨c, r⟩ :: log), s)

/-- An exchange, as a step of the library. -/
def Exchanges (L : Library I ε σ) (s : σ) (x : Exchange I) (s' : σ) : Prop :=
  L x.1 s = .ok (x.2, s')

/-! ## Answering alike -/

/-- **Two outcomes that are alike**: the same answer, in states that
correspond, or the same error. -/
inductive Alike (R : σ → τ → Prop) : Except ε (β × σ) → Except ε (β × τ) → Prop
  | ok {b : β} {s : σ} {t : τ} : R s t → Alike R (.ok (b, s)) (.ok (b, t))
  | error {e : ε} : Alike R (.error e) (.error e)

/-- Two libraries that answer every call alike. -/
def AnswerAlike (R : σ → τ → Prop) (L : Library I ε σ) (M : Library I ε τ) : Prop :=
  ∀ c s t, R s t → Alike R (L c s) (M c t)

variable {R : σ → τ → Prop} {s s' : σ} {t t' : τ} {client : Client I α} {a : α}
variable {log : List (Exchange I)}

/-- **No client can tell two libraries apart** that answer alike. -/
theorem run_alike (h : AnswerAlike R L M) (client : Client I α) (hR : R s t) :
    Alike R (client.run L s) (client.run M t) := by
  induction client generalizing s t with
  | done a => exact .ok hR
  | call c next ih =>
    have hcall := h c s t hR
    rw [Client.run, Client.run]
    generalize L c s = x at hcall ⊢
    generalize M c t = y at hcall ⊢
    cases hcall with
    | error => exact .error
    | @ok r s₁ t₁ hR₁ =>
      -- the same answer, so the client goes on in the same way
      have hnext := ih r hR₁
      simp only
      generalize (next r).run L s₁ = x at hnext ⊢
      generalize (next r).run M t₁ = y at hnext ⊢
      cases hnext with
      | error => exact .error
      | ok h => exact .ok h

/-- One likeness after another. -/
theorem Alike.comp {υ : Type} {S : τ → υ → Prop} {x : Except ε (β × σ)} {y : Except ε (β × τ)}
    {z : Except ε (β × υ)} (h : Alike R x y) (h' : Alike S y z) :
    Alike (fun s u => ∃ t, R s t ∧ S t u) x z := by
  cases h with
  | error =>
    cases h'
    exact .error
  | ok hR =>
    cases h' with
    | ok hS => exact .ok ⟨_, hR, hS⟩

theorem Alike.mono {S : σ → τ → Prop} {x : Except ε (β × σ)} {y : Except ε (β × τ)}
    (h : Alike R x y) (hRS : ∀ s t, R s t → S s t) : Alike S x y := by
  cases h with
  | ok h => exact .ok (hRS _ _ h)
  | error => exact .error

theorem Alike.symm {x : Except ε (β × σ)} {y : Except ε (β × τ)} (h : Alike R x y) :
    Alike (fun t s => R s t) y x := by
  cases h with
  | ok h => exact .ok h
  | error => exact .error

/-- An outcome alike to one that is given. -/
theorem Alike.of_ok {x : Except ε (β × τ)} {b : β} (h : Alike R (.ok (b, s)) x) :
    ∃ t, x = .ok (b, t) ∧ R s t := by
  cases h with
  | ok hR => exact ⟨_, rfl, hR⟩

theorem Alike.to_ok {x : Except ε (β × σ)} {b : β} (h : Alike R x (.ok (b, t))) :
    ∃ s, x = .ok (b, s) ∧ R s t := by
  cases h with
  | ok hR => exact ⟨_, rfl, hR⟩

/-! ## Two interfaces -/

/-- **Two interfaces side by side.** -/
abbrev Interface.sum (I J : Interface) : Interface where
  Call := I.Call ⊕ J.Call
  Answer
    | .inl c => I.Answer c
    | .inr c => J.Answer c

variable {J : Interface}

/-- Two libraries on one state, each answering the calls of its own
interface. -/
def Library.sum (L : Library I ε σ) (L' : Library J ε σ) : Library (I.sum J) ε σ
  | .inl c => L c
  | .inr c => L' c

theorem AnswerAlike.sum {L' : Library J ε σ} {M' : Library J ε τ} (h : AnswerAlike R L M)
    (h' : AnswerAlike R L' M') : AnswerAlike R (L.sum L') (M.sum M') := by
  intro c
  cases c with
  | inl c => exact h c
  | inr c => exact h' c

/-! ## What a run is made of -/

/-- **A run that begins with a call**, inverted. -/
theorem run_call_eq_ok {c : I.Call} {next : I.Answer c → Client I α} :
    (Client.call c next).run L s = .ok ((a, log), s') ↔
      ∃ r s₁ log₁, L c s = .ok (r, s₁) ∧ log = ⟨c, r⟩ :: log₁ ∧
        (next r).run L s₁ = .ok ((a, log₁), s') := by
  rw [Client.run]
  constructor
  · intro h
    split at h
    · cases h
    · next r s₁ hcall =>
      split at h
      · cases h
      · next b log₁ s₂ hnext =>
        obtain ⟨⟨rfl, rfl⟩, rfl⟩ : (b = a ∧ ⟨c, r⟩ :: log₁ = log) ∧ s₂ = s' := by simpa using h
        exact ⟨r, s₁, log₁, hcall, rfl, hnext⟩
  · rintro ⟨r, s₁, log₁, hcall, rfl, hnext⟩
    simp only [hcall, hnext]

/-- A client of a library that never goes wrong comes to its end. -/
theorem exists_run (h : ∀ c s, ∃ x, L c s = .ok x) (client : Client I α) (s : σ) :
    ∃ a log s', client.run L s = .ok ((a, log), s') := by
  induction client generalizing s with
  | done a => exact ⟨a, [], s, rfl⟩
  | call c next ih =>
    obtain ⟨⟨r, s₁⟩, hcall⟩ := h c s
    obtain ⟨a, log, s', hnext⟩ := ih r s₁
    exact ⟨a, _, s', run_call_eq_ok.mpr ⟨r, s₁, log, hcall, rfl, hnext⟩⟩

/-- **The exchanges of a run** are steps of the library. -/
theorem run_exchanges (h : client.run L s = .ok ((a, log), s')) :
    Run (Exchanges L) s log s' := by
  induction client generalizing s log with
  | done b =>
    obtain ⟨⟨rfl, rfl⟩, rfl⟩ : (b = a ∧ [] = log) ∧ s = s' := by simpa [Client.run] using h
    exact Run.nil
  | call c next ih =>
    obtain ⟨r, s₁, log, hcall, rfl, hnext⟩ := run_call_eq_ok.mp h
    exact Run.cons hcall (ih r hnext)

/-! ## A client after some exchanges -/

/-- **What is left of a client** after exchanges. -/
inductive Client.After : Client I α → List (Exchange I) → Client I α → Prop
  | nil {client : Client I α} : After client [] client
  | cons {c : I.Call} {next : I.Answer c → Client I α} {r : I.Answer c} {log : List (Exchange I)}
      {rest : Client I α} : After (next r) log rest → After (.call c next) (⟨c, r⟩ :: log) rest

/-- A run, after exchanges that it began with. -/
def prepend (log : List (Exchange I)) :
    Except ε ((α × List (Exchange I)) × σ) → Except ε ((α × List (Exchange I)) × σ)
  | .error e => .error e
  | .ok ((a, rest), s) => .ok ((a, log ++ rest), s)

@[simp] theorem prepend_ok {s : σ} {rest : List (Exchange I)} :
    (prepend log (.ok ((a, rest), s)) : Except ε _) = .ok ((a, log ++ rest), s) := rfl

theorem run_call_of_ok {c : I.Call} {r : I.Answer c} {next : I.Answer c → Client I α}
    (h : L c s = .ok (r, s')) :
    (Client.call c next).run L s = prepend [⟨c, r⟩] ((next r).run L s') := by
  rw [Client.run, h]
  simp only
  rcases (next r).run L s' with e | ⟨⟨a, log⟩, s⟩ <;> rfl

theorem prepend_prepend {log' : List (Exchange I)} {x : Except ε ((α × List (Exchange I)) × σ)} :
    prepend log (prepend log' x) = prepend (log ++ log') x := by
  rcases x with e | ⟨⟨a, rest⟩, s⟩
  · rfl
  · simp only [prepend_ok, List.append_assoc]

theorem Alike.prepend {x : Except ε ((α × List (Exchange I)) × σ)}
    {y : Except ε ((α × List (Exchange I)) × τ)} (h : Alike R x y) (log : List (Exchange I)) :
    Alike R (Common.prepend log x) (Common.prepend log y) := by
  cases h with
  | ok h => exact .ok h
  | error => exact .error

end Common
