import CBPseudo.Common.Client

/-!
# Faulty libraries

A library made faulty: a schedule says of each call, one after another,
whether it is let through to the library or refused, and a refused call is
answered without it. Some calls are never refused, and the schedule is not
asked about those.

Where everything is let through the library is as it was (`faulty_always`).
A schedule that refuses one call and no other is how a test goes through a
client's calls: of the calls that the client makes when none is refused
each is refused by one such schedule, with everything before it as it was
(`run_allBut_of_split`), and by the first schedule past the last of them
none is (`run_allBut_of_le`).
-/

namespace Common

/-- **The decisions to come**: the first is about the next call that is
asked about. -/
abbrev Schedule := ℕ → Bool

namespace Schedule

/-- The decisions after the next. -/
def rest (f : Schedule) : Schedule := fun n => f (n + 1)

/-- Every call is let through. -/
def always : Schedule := fun _ => true

/-- Every call but one is let through. -/
def allBut (n : ℕ) : Schedule := fun k => decide (k ≠ n)

@[simp] theorem rest_always : always.rest = always := rfl

@[simp] theorem allBut_zero_zero : allBut 0 0 = false := rfl

@[simp] theorem allBut_succ_zero {n : ℕ} : allBut (n + 1) 0 = true := by simp [allBut]

@[simp] theorem rest_allBut_zero : (allBut 0).rest = always := by
  funext k
  simp [rest, allBut, always]

@[simp] theorem rest_allBut_succ {n : ℕ} : (allBut (n + 1)).rest = allBut n := by
  funext k
  simp [rest, allBut]

end Schedule

variable {I : Interface} {ε σ τ α : Type}

/-- **A library by a schedule**: a call that is asked about, in the state that
it is made in, is answered by the next decision, and another as one let
through. -/
def scheduled (asks : I.Call → σ → Bool)
    (answer : (c : I.Call) → Bool → σ → Except ε (I.Answer c × σ)) :
    Library I ε (Schedule × σ) := fun c (f, s) =>
  match answer c (if asks c s then f 0 else true) s with
  | .error e => .error e
  | .ok (r, s') => .ok (r, (if asks c s then f.rest else f, s'))

/-- **What refusing a call comes to**: none for a call that is never
refused. -/
abbrev Refusal (I : Interface) (σ : Type) := (c : I.Call) → Option (σ → I.Answer c × σ)

/-- A call, let through or refused. -/
def letThroughOr (refuse : Refusal I σ) (L : Library I ε σ) (c : I.Call) (allow : Bool) (s : σ) :
    Except ε (I.Answer c × σ) :=
  match refuse c, allow with
  | some refusal, false => .ok (refusal s)
  | _, _ => L c s

/-- **A library made faulty.** -/
def faulty (refuse : Refusal I σ) (L : Library I ε σ) : Library I ε (Schedule × σ) :=
  scheduled (fun c _ => (refuse c).isSome) (letThroughOr refuse L)

/-- States that correspond, before the same decisions. -/
def OnSchedule (R : σ → τ → Prop) (x : Schedule × σ) (y : Schedule × τ) : Prop :=
  x.1 = y.1 ∧ R x.2 y.2

variable {asks : I.Call → σ → Bool} {asks' : I.Call → τ → Bool} {R : σ → τ → Prop}
variable {answer : (c : I.Call) → Bool → σ → Except ε (I.Answer c × σ)}
variable {answer' : (c : I.Call) → Bool → τ → Except ε (I.Answer c × τ)}

/-- **Libraries by one schedule** answer alike where the same calls are asked
about, and each is answered alike, let through or not. -/
theorem scheduled_alike (hasks : ∀ c s t, R s t → asks c s = asks' c t)
    (h : ∀ c allow s t, (asks c s = false → allow = true) → R s t →
      Alike R (answer c allow s) (answer' c allow t)) :
    AnswerAlike (OnSchedule R) (scheduled asks answer) (scheduled asks' answer') := by
  rintro c ⟨f, s⟩ ⟨_, t⟩ ⟨rfl, hR⟩
  have hallow : asks c s = false → (if asks c s then f 0 else true) = true := by
    intro hno
    rw [hno]
    rfl
  have hcall := h c _ s t hallow hR
  rw [scheduled, scheduled]
  simp only [← hasks c s t hR]
  generalize answer c _ s = x at hcall ⊢
  generalize answer' c _ t = y at hcall ⊢
  cases hcall with
  | error => exact .error
  | ok hR => exact .ok ⟨rfl, hR⟩

/-- **A substitute for a faulty library** is one whose calls are, one by
one, the library's own or refused. -/
theorem scheduled_alike_faulty {refuse : Refusal I τ} {M : Library I ε τ}
    (hasks : ∀ c s t, R s t → asks c s = (refuse c).isSome)
    (h : ∀ c allow s t, (asks c s = false → allow = true) → R s t →
      Alike R (answer c allow s) (letThroughOr refuse M c allow t)) :
    AnswerAlike (OnSchedule R) (scheduled asks answer) (faulty refuse M) :=
  scheduled_alike hasks h

/-- **A library on a part of a state**: it leaves the rest alone. -/
def beside (L : Library I ε σ) : Library I ε (τ × σ) := fun c (t, s) =>
  match L c s with
  | .error e => .error e
  | .ok (r, s') => .ok (r, (t, s'))

/-- So is one into which no errors are injected, next to one into which some
are. -/
theorem beside_alike {L : Library I ε σ} {M : Library I ε τ} (h : AnswerAlike R L M) :
    AnswerAlike (OnSchedule R) (beside L) (beside M) := by
  rintro c ⟨f, s⟩ ⟨_, t⟩ ⟨rfl, hR⟩
  have hcall := h c s t hR
  rw [beside, beside]
  generalize L c s = x at hcall ⊢
  generalize M c t = y at hcall ⊢
  cases hcall with
  | error => exact .error
  | ok hR => exact .ok ⟨rfl, hR⟩

/-! ## Calls one by one -/

variable {refuse : Refusal I σ} {L : Library I ε σ} {c : I.Call} {f f' : Schedule} {s s' : σ}
variable {refusal : σ → I.Answer c × σ}

/-- A call that is never refused. -/
theorem faulty_of_none (h : refuse c = none) :
    faulty refuse L c (f, s) = match L c s with
      | .error e => .error e
      | .ok (r, s) => .ok (r, (f, s)) := by
  simp [faulty, scheduled, letThroughOr, h]

/-- A call that is let through. -/
theorem faulty_of_true (h : refuse c = some refusal) (hf : f 0 = true) :
    faulty refuse L c (f, s) = match L c s with
      | .error e => .error e
      | .ok (r, s) => .ok (r, (f.rest, s)) := by
  simp [faulty, scheduled, letThroughOr, h, hf]

/-- A call that is refused. -/
theorem faulty_of_false (h : refuse c = some refusal) (hf : f 0 = false) :
    faulty refuse L c (f, s) = .ok ((refusal s).1, (f.rest, (refusal s).2)) := by
  simp [faulty, scheduled, letThroughOr, h, hf]

@[simp] theorem letThroughOr_true : letThroughOr refuse L c true s = L c s := by
  unfold letThroughOr
  cases refuse c <;> rfl

theorem letThroughOr_false (h : refuse c = some refusal) :
    letThroughOr refuse L c false s = .ok (refusal s) := by
  simp [letThroughOr, h]

/-- **Where everything is let through** the library is as it was. -/
theorem faulty_always (refuse : Refusal I σ) (L : Library I ε σ) :
    AnswerAlike (fun (x : Schedule × σ) s => x.1 = .always ∧ x.2 = s) (faulty refuse L) L := by
  rintro c ⟨_, s⟩ _ ⟨rfl, rfl⟩
  have hcall : faulty refuse L c (.always, s) = match L c s with
      | .error e => .error e
      | .ok (r, s) => .ok (r, (.always, s)) := by
    cases h : refuse c with
    | none => exact faulty_of_none h
    | some refusal => exact faulty_of_true h rfl
  rw [hcall]
  generalize L c s = x
  rcases x with e | ⟨r, s⟩
  · exact .error
  · exact .ok ⟨rfl, rfl⟩

/-! ## The calls asked about -/

/-- The number of calls that the schedule is asked about. -/
def asked (refuse : Refusal I σ) (log : List (Exchange I)) : ℕ :=
  log.countP fun x => (refuse x.1).isSome

@[simp] theorem asked_nil : asked refuse [] = 0 := rfl

theorem asked_cons_of_none {r : I.Answer c} {log : List (Exchange I)} (h : refuse c = none) :
    asked refuse (⟨c, r⟩ :: log) = asked refuse log := by
  rw [asked, List.countP_cons_of_neg (by simp [h]), asked]

theorem asked_cons_of_some {r : I.Answer c} {log : List (Exchange I)}
    (h : refuse c = some refusal) :
    asked refuse (⟨c, r⟩ :: log) = asked refuse log + 1 := by
  rw [asked, List.countP_cons_of_pos (by simp [h]), asked]

theorem asked_concat {log : List (Exchange I)} {x : Exchange I} :
    asked refuse (log ++ [x]) = asked refuse log + if (refuse x.1).isSome then 1 else 0 := by
  rw [asked, List.countP_append, List.countP_singleton, asked]

/-- The decisions left by a call. -/
theorem fst_of_faulty {r : I.Answer c} (h : faulty refuse L c (f, s) = .ok (r, (f', s'))) :
    f' = if (refuse c).isSome then f.rest else f := by
  unfold faulty scheduled at h
  simp only at h
  split at h
  · cases h
  · cases h
    rfl

/-- **What a call of a faulty library can be**: one of the library's own,
or one refused. -/
theorem faulty_cases {r : I.Answer c} (h : faulty refuse L c (f, s) = .ok (r, (f', s'))) :
    (L c s = .ok (r, s') ∧ ((refuse c).isSome = true → f 0 = true)) ∨
      f 0 = false ∧ ∃ refusal, refuse c = some refusal ∧ refusal s = (r, s') := by
  cases hrefuse : refuse c with
  | none =>
    rw [faulty_of_none hrefuse] at h
    split at h
    · cases h
    · next hL =>
      cases h
      exact .inl ⟨hL, fun hsome => by cases hsome⟩
  | some refusal =>
    cases hf : f 0 with
    | true =>
      rw [faulty_of_true hrefuse hf] at h
      split at h
      · cases h
      · next hL =>
        cases h
        exact .inl ⟨hL, fun _ => rfl⟩
    | false =>
      rw [faulty_of_false hrefuse hf] at h
      cases h
      exact .inr ⟨rfl, refusal, rfl, rfl⟩

/-- **The decisions left by a run.** -/
theorem run_faulty_fst {log : List (Exchange I)}
    (h : Run (Exchanges (faulty refuse L)) (f, s) log (f', s')) :
    f' = fun k => f (k + asked refuse log) := by
  generalize hx : (f', s') = x at h
  induction h generalizing f' s' with
  | nil =>
    cases hx
    rfl
  | @snoc log t u a _ hs ih =>
    obtain ⟨f₁, s₁⟩ := t
    subst hx
    have hrest := fst_of_faulty hs
    rw [ih rfl] at hrest
    rw [hrest, asked_concat]
    split
    · funext k
      exact congrArg f (by omega)
    · rfl

/-! ## One call refused -/

variable {client : Client I α} {a b : α} {log before after : List (Exchange I)} {n : ℕ}

/-- **A schedule past the last call** refuses none. -/
theorem run_allBut_of_le (h : client.run L s = .ok ((a, log), s')) (hn : asked refuse log ≤ n) :
    client.run (faulty refuse L) (.allBut n, s) =
      .ok ((a, log), (.allBut (n - asked refuse log), s')) := by
  induction client generalizing s log n with
  | done b =>
    obtain ⟨⟨rfl, rfl⟩, rfl⟩ : (b = a ∧ [] = log) ∧ s = s' := by simpa [Client.run] using h
    rfl
  | call c next ih =>
    obtain ⟨r, s₁, log, hcall, rfl, hnext⟩ := run_call_eq_ok.mp h
    cases hrefuse : refuse c with
    | none =>
      rw [asked_cons_of_none hrefuse] at hn ⊢
      rw [Client.run, faulty_of_none hrefuse, hcall]
      simp only [ih r hnext hn]
    | some refusal =>
      rw [asked_cons_of_some hrefuse] at hn ⊢
      obtain ⟨m, rfl⟩ := Nat.exists_eq_add_of_le' (Nat.le_of_add_left_le hn)
      rw [Client.run, faulty_of_true hrefuse Schedule.allBut_succ_zero, hcall,
        Schedule.rest_allBut_succ]
      simp only [ih r hnext (Nat.le_of_add_le_add_right hn), Nat.add_sub_add_right]

/-- **Each call that can be refused is refused by one schedule.** The client
gets to the call as it did, is refused, and the rest of it is run by the
library as it was. -/
theorem run_allBut_of_split {r : I.Answer c} (hrefuse : refuse c = some refusal)
    (h : client.run L s = .ok ((a, before ++ ⟨c, r⟩ :: after), s')) :
    ∃ s₁ next, Run (Exchanges L) s before s₁ ∧ client.After before (.call c next) ∧
      Alike (fun (y : Schedule × σ) t => y.1 = .always ∧ y.2 = t)
        (client.run (faulty refuse L) (.allBut (asked refuse before), s))
        (prepend (before ++ [⟨c, (refusal s₁).1⟩])
          ((next (refusal s₁).1).run L (refusal s₁).2)) := by
  induction client generalizing s before with
  | done b =>
    rw [Client.run] at h
    simp at h
  | call c₀ next ih =>
    obtain ⟨r₀, s₀, log₀, hcall, hlog, hnext⟩ := run_call_eq_ok.mp h
    cases before with
    | nil =>
      -- the first call is the one refused
      obtain ⟨hc, rfl⟩ := List.cons.inj hlog
      obtain rfl : c = c₀ := congrArg Sigma.fst hc
      have hfaulty := faulty_of_false (L := L) (f := .allBut 0) (s := s) hrefuse
        Schedule.allBut_zero_zero
      rw [Schedule.rest_allBut_zero] at hfaulty
      refine ⟨s, next, Run.nil, .nil, ?_⟩
      rw [asked_nil, run_call_of_ok hfaulty]
      exact (run_alike (faulty_always refuse L) _ ⟨rfl, rfl⟩).prepend _
    | cons x before =>
      obtain ⟨rfl, rfl⟩ := List.cons.inj hlog
      obtain ⟨s₁, next', hbefore, hafter, halike⟩ := ih r₀ hnext
      have hfaulty : faulty refuse L c₀ (.allBut (asked refuse (⟨c₀, r₀⟩ :: before)), s) =
          .ok (r₀, (.allBut (asked refuse before), s₀)) := by
        cases hrefuse₀ : refuse c₀ with
        | none => rw [faulty_of_none hrefuse₀, hcall, asked_cons_of_none hrefuse₀]
        | some refusal₀ =>
          rw [asked_cons_of_some hrefuse₀, faulty_of_true hrefuse₀ Schedule.allBut_succ_zero,
            hcall, Schedule.rest_allBut_succ]
      refine ⟨s₁, next', Run.cons hcall hbefore, .cons hafter, ?_⟩
      rw [run_call_of_ok hfaulty]
      have hprepend := halike.prepend [⟨c₀, r₀⟩]
      rwa [prepend_prepend] at hprepend

/-! ## What the library sees -/

/-- The exchanges of a client, each with whether it was let through. -/
def marked (refuse : Refusal I σ) : Schedule → List (Exchange I) → List (Exchange I × Bool)
  | _, [] => []
  | f, x :: log =>
    if (refuse x.1).isSome then (x, f 0) :: marked refuse f.rest log
    else (x, true) :: marked refuse f log

/-- **A call as a step of the library**, let through or refused. -/
inductive Marked (refuse : Refusal I σ) (L : Library I ε σ) : σ → Exchange I × Bool → σ → Prop
  | passed {c : I.Call} {r : I.Answer c} {s s' : σ} (h : L c s = .ok (r, s')) :
    Marked refuse L s (⟨c, r⟩, true) s'
  | refused {c : I.Call} {refusal : σ → I.Answer c × σ} {s : σ} (h : refuse c = some refusal) :
    Marked refuse L s (⟨c, (refusal s).1⟩, false) (refusal s).2

/-- **The library sees what is let through**, and of the other calls what
refusing them comes to. -/
theorem run_marked (h : client.run (faulty refuse L) (f, s) = .ok ((a, log), (f', s'))) :
    Run (Marked refuse L) s (marked refuse f log) s' := by
  induction client generalizing f s log with
  | done b =>
    obtain ⟨⟨rfl, rfl⟩, rfl, rfl⟩ : (b = a ∧ [] = log) ∧ f = f' ∧ s = s' := by
      simpa [Client.run] using h
    exact Run.nil
  | call c next ih =>
    obtain ⟨r, ⟨f₁, s₁⟩, log, hcall, rfl, hnext⟩ := run_call_eq_ok.mp h
    have hrun := ih r hnext
    obtain rfl := fst_of_faulty hcall
    rw [marked]
    rcases faulty_cases hcall with ⟨hL, hallowed⟩ | ⟨hf, refusal, hrefuse, hs⟩
    · split at hrun
      · next hsome =>
        rw [if_pos hsome, hallowed hsome]
        exact Run.cons (.passed hL) hrun
      · next hsome =>
        rw [if_neg hsome]
        exact Run.cons (.passed hL) hrun
    · have hsome : (refuse c).isSome = true := by rw [hrefuse]; rfl
      rw [if_pos hsome] at hrun ⊢
      rw [hf]
      obtain ⟨rfl, rfl⟩ := Prod.mk.inj hs
      exact Run.cons (.refused hrefuse) hrun

end Common
