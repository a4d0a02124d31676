import CBPseudo.Common.Run
import CBPseudo.Common.SinceReset
import CBPseudo.Exit.Model.Exit

/-!
# Interception of exits — whole runs

The two functions as the steps of a program that ends where an exit is
not intercepted, or where one goes wrong. The target in force is read off
the calls made so far: the last one set since the last exit. Exits resume
there, and nowhere else; but the value they resume with tells the status
of all but two, -1 and the greatest `int`.
-/

namespace CBPseudo

open Common

namespace Exit

variable {β : Type}

/-! ## Runs -/

/-- The status of an exit, which is an `int`. -/
structure Status where
  val : ℤ
  inInt : InInt val

/-- **A call**, and how it ended. -/
inductive Call (β : Type)
  /-- `pseudo_exit_set_target`. -/
  | setTarget (env : β)
  /-- `pseudo_exit`. -/
  | exit (status : Status) (result : Except Fault (Ending β))

/-- **A step**; the program is over where there is no state. -/
inductive Step : Option (State β) → Call β → Option (State β) → Prop
  | setTarget (env : β) (s : State β) :
      Step (some s) (.setTarget env) (some (pseudoExitSetTarget env s))
  | resumed {status : Status} {s s' : State β} {target : β} {value : ℤ} :
      pseudoExit status.val s = .ok (.resumed target value, s') →
      Step (some s) (.exit status (.ok (.resumed target value))) (some s')
  | exited {status : Status} {s s' : State β} {n : ℤ} :
      pseudoExit status.val s = .ok (.exited n, s') →
      Step (some s) (.exit status (.ok (.exited n))) none
  | fault {status : Status} {s : State β} {f : Fault} :
      pseudoExit status.val s = .error f → Step (some s) (.exit status (.error f)) none

/-- The target that a call sets. -/
def Call.target : Call β → Option β
  | .setTarget env => some env
  | .exit _ _ => none

/-- **The target in force** after some calls: the last one set since the
last exit, if there is one. -/
def inForce (calls : List (Call β)) : Option β :=
  (sinceReset (none :: calls.map Call.target)).bind List.getLast?

variable {calls before after : List (Call β)} {s s' : State β} {w w' : Option (State β)}
variable {c : Call β} {env zero : β} {status : Status} {result : Except Fault (Ending β)}

@[simp] theorem inForce_setTarget : inForce (calls ++ [.setTarget env]) = some env := by
  have hreset : (sinceReset (none :: calls.map Call.target)).isSome :=
    sinceReset_isSome.mpr List.mem_cons_self
  obtain ⟨targets, ht⟩ := Option.isSome_iff_exists.mp hreset
  rw [inForce, List.map_append, List.map_singleton, ← List.cons_append, Call.target,
    sinceReset_entry, ht, Option.map_some, Option.bind_some, List.getLast?_concat]

@[simp] theorem inForce_exit : inForce (calls ++ [.exit status result]) = none := by
  rw [inForce, List.map_append, List.map_singleton, ← List.cons_append, Call.target,
    sinceReset_reset]
  rfl

/-! ## One exit -/

/-- The target that the next exit resumes at. -/
def State.armed (s : State β) : Option β := if s.exitPending then some s.exitTarget else none

/-- An exit that is not intercepted ends the program. -/
theorem pseudoExit_of_idle (h : s.armed = none) (n : ℤ) :
    pseudoExit n s = .ok (.exited n, s) := by
  have hidle : ¬ s.exitPending := fun hp => by simp [State.armed, hp] at h
  rw [pseudoExit, if_neg hidle]

/-- **An exit that is intercepted** resumes at the target, and disarms it:
with one more than the status, if that is an `int`, and is not 0. -/
theorem pseudoExit_of_armed (h : s.armed = some env) (n : ℤ) :
    pseudoExit n s = if InInt (n + 1) then
      .ok (.resumed env (if n + 1 = 0 then 1 else n + 1), { s with exitPending := false })
    else .error .intOverflow := by
  unfold State.armed at h
  split at h
  · next hp =>
    obtain rfl := Option.some.inj h
    rw [pseudoExit, if_pos hp, toInt]
    split <;> rfl
  · cases h

/-! ## The target in force -/

/-- A target set is in force, and an exit that is intercepted leaves
none. -/
theorem armed_of_step (h : Step (some s) c (some s')) : s'.armed = inForce (calls ++ [c]) := by
  cases h with
  | setTarget env => rw [inForce_setTarget]; rfl
  | resumed he =>
    rw [inForce_exit]
    cases harmed : s.armed with
    | none =>
      rw [pseudoExit_of_idle harmed] at he
      cases he
    | some env =>
      rw [pseudoExit_of_armed harmed] at he
      split at he
      · cases he
        rfl
      · cases he

/-- **The state is armed with the target in force** after every run. -/
theorem armed_eq_inForce (hrun : Run Step (some (initial zero)) calls w) :
    ∀ s, w = some s → s.armed = inForce calls := by
  refine hrun.history (I := fun calls w => ∀ s, w = some s → s.armed = inForce calls) ?_ ?_
  · rintro s ⟨⟩
    rfl
  · rintro calls w c w' - hstep s ⟨⟩
    obtain ⟨s₀, rfl⟩ : ∃ s₀, w = some s₀ := by cases hstep <;> exact ⟨_, rfl⟩
    exact armed_of_step hstep

/-- An exit in the course of a run, and the state it was called in. -/
theorem exit_of_run (hrun : Run Step (some (initial zero)) calls w)
    (heq : calls = before ++ .exit status result :: after) :
    ∃ s, s.armed = inForce before ∧ result = (pseudoExit status.val s).map Prod.fst := by
  rw [heq, List.append_cons] at hrun
  obtain ⟨w₁, hupto, -⟩ := hrun.split
  obtain ⟨w₀, hbefore, hstep⟩ := hupto.of_snoc
  have harmed := armed_eq_inForce hbefore
  cases hstep with
  | resumed he => exact ⟨_, harmed _ rfl, by rw [he]; rfl⟩
  | exited he => exact ⟨_, harmed _ rfl, by rw [he]; rfl⟩
  | fault he => exact ⟨_, harmed _ rfl, by rw [he]; rfl⟩

/-! ## What the calls are documented to do -/

/-- **An exit as documented**, after some calls: it resumes at the target
in force, if there is one, with a value one greater than the status and not
0, and otherwise the program exits with the status. -/
def Documented (before : List (Call β)) (status : Status) (result : Except Fault (Ending β)) :
    Prop :=
  match inForce before with
  | none => result = .ok (.exited status.val)
  | some env => result = .ok (.resumed env (status.val + 1)) ∧ status.val + 1 ≠ 0

/-- **A run that loses no status**: each exit is as documented, and no two
statuses are seen as one value. -/
structure LosesNoStatus (calls : List (Call β)) : Prop where
  documented : ∀ before status result after, calls = before ++ .exit status result :: after →
    Documented before status result
  distinct : ∀ status target value status' target',
    .exit status (.ok (.resumed target value)) ∈ calls →
    .exit status' (.ok (.resumed target' value)) ∈ calls → status.val = status'.val

/-- A status that an interception can tell of. -/
def Tellable (status : Status) : Prop := status.val ≠ -1 ∧ status.val ≠ intMax

/-- **Where it can be told, and only there**, an intercepted exit is as
documented. -/
theorem documented_iff (hs : s.armed = inForce before) :
    Documented before status ((pseudoExit status.val s).map Prod.fst) ↔
      ((inForce before).isSome → Tellable status) := by
  obtain ⟨hmin, hmax⟩ := status.inInt
  unfold Documented
  cases hf : inForce before with
  | none =>
    rw [pseudoExit_of_idle (hs.trans hf)]
    simp [Except.map]
  | some env =>
    rw [pseudoExit_of_armed (hs.trans hf)]
    simp only [Option.isSome_some, forall_const, Tellable]
    constructor
    · rintro ⟨hresult, hne⟩
      refine ⟨by omega, fun hlast => ?_⟩
      -- one more than the greatest `int` is not one
      have hover : ¬ InInt (status.val + 1) := fun hin => by
        have := hin.2
        omega
      rw [if_neg hover] at hresult
      cases hresult
    · rintro ⟨hminus, hlast⟩
      have hin : InInt (status.val + 1) := ⟨by omega, by omega⟩
      have hne : status.val + 1 ≠ 0 := by omega
      rw [if_pos hin, if_neg hne]
      exact ⟨rfl, hne⟩

/-- The value seen of an exit that is as documented. -/
theorem Documented.value_eq {target : β} {value : ℤ}
    (h : Documented before status (.ok (.resumed target value))) : value = status.val + 1 := by
  unfold Documented at h
  split at h
  · cases h
  · obtain ⟨hresult, -⟩ := h
    simp only [Except.ok.injEq, Ending.resumed.injEq] at hresult
    exact hresult.2

/-- **No status is lost** in exactly those runs in which the exits that are
intercepted are neither with status -1, which is delivered as status 0 is,
nor with the greatest `int`, which has no successor. -/
theorem losesNoStatus_iff (hrun : Run Step (some (initial zero)) calls w) :
    LosesNoStatus calls ↔ ∀ before status result after,
      calls = before ++ .exit status result :: after → (inForce before).isSome →
      Tellable status := by
  constructor
  · intro h before status result after heq
    obtain ⟨s, hs, rfl⟩ := exit_of_run hrun heq
    exact (documented_iff hs).mp (h.documented _ _ _ _ heq)
  · intro h
    have hdoc : ∀ before status result after, calls = before ++ .exit status result :: after →
        Documented before status result := by
      intro before status result after heq
      obtain ⟨s, hs, rfl⟩ := exit_of_run hrun heq
      exact (documented_iff hs).mpr (h _ _ _ _ heq)
    refine ⟨hdoc, fun status target value status' target' hmem hmem' => ?_⟩
    -- either value is one more than its status
    obtain ⟨before, after, heq⟩ := List.append_of_mem hmem
    obtain ⟨before', after', heq'⟩ := List.append_of_mem hmem'
    have hval := (hdoc _ _ _ _ heq).value_eq
    have hval' := (hdoc _ _ _ _ heq').value_eq
    omega

/-! ## Runs of a test -/

/-- The status of a program that has succeeded. -/
def Status.success : Status := ⟨0, by decide⟩

/-- The status of one that has failed. -/
def Status.failure : Status := ⟨1, by decide⟩

/-- The status that is delivered as 0 is. -/
def Status.minusOne : Status := ⟨-1, by decide⟩

/-- A test that intercepts one exit, and then exits. -/
theorem losesNoStatus_iff_once :
    let calls : List (Call ℕ) := [.setTarget 7, .exit .failure (.ok (.resumed 7 2)),
      .exit .success (.ok (.exited 0))]
    LosesNoStatus calls := by
  intro calls
  have hset : Step (some (initial 0)) (.setTarget 7) (some ⟨7, true⟩) := .setTarget 7 _
  have hcaught : Step (some ⟨7, true⟩) (.exit .failure (.ok (.resumed 7 2)))
      (some (⟨7, false⟩ : State ℕ)) := .resumed rfl
  have hexit : Step (some (⟨7, false⟩ : State ℕ)) (.exit .success (.ok (.exited 0))) none :=
    .exited rfl
  have hrun := ((Run.nil.snoc hset).snoc hcaught).snoc hexit
  refine (losesNoStatus_iff hrun).mpr fun before status result after heq _ => ?_
  have hmem : (.exit status result : Call ℕ) ∈ calls := by
    rw [show calls = _ from heq]
    simp
  rcases List.mem_cons.mp hmem with h | h
  · cases h
  rcases List.mem_cons.mp h with h | h
  · obtain ⟨rfl, -⟩ := Call.exit.inj h
    exact ⟨by decide, by decide⟩
  · obtain ⟨rfl, -⟩ := Call.exit.inj (List.mem_singleton.mp h)
    exact ⟨by decide, by decide⟩

/-- **Two statuses are seen as one**: a test that intercepts an exit with
status 0 and then one with status -1 is told 1 both times. -/
theorem minusOne_seen_as_success :
    let calls : List (Call ℕ) := [.setTarget 7, .exit .success (.ok (.resumed 7 1)),
      .setTarget 7, .exit .minusOne (.ok (.resumed 7 1))]
    Run Step (some (initial 0)) calls (some ⟨7, false⟩) ∧ ¬ LosesNoStatus calls := by
  intro calls
  have hset : Step (some (initial 0)) (.setTarget 7) (some ⟨7, true⟩) := .setTarget 7 _
  have hcaught : Step (some ⟨7, true⟩) (.exit .success (.ok (.resumed 7 1)))
      (some (⟨7, false⟩ : State ℕ)) := .resumed rfl
  have hagain : Step (some (⟨7, false⟩ : State ℕ)) (.setTarget 7) (some ⟨7, true⟩) :=
    .setTarget 7 _
  have hlast : Step (some ⟨7, true⟩) (.exit .minusOne (.ok (.resumed 7 1)))
      (some (⟨7, false⟩ : State ℕ)) := .resumed rfl
  refine ⟨(((Run.nil.snoc hset).snoc hcaught).snoc hagain).snoc hlast, fun h => ?_⟩
  have hsame := h.distinct .success 7 1 .minusOne 7 (by simp [calls]) (by simp [calls])
  exact absurd hsame (by decide)

end Exit

end CBPseudo
