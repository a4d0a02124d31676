import CBPseudo.Common.SinceReset
import CBPseudo.Tbox.Recorders

/-!
# The SaveAs recorders and their documentation

The header documents that after a reset each recorder takes in every call
of its function and reports the last. The code takes in and reports the
first: a call disarms its recorder. So the documentation holds of a run
exactly as long as no recorder sees a second call after a reset
(`saveas_documented_iff`).
-/

namespace CBPseudo

open Common

namespace Tbox

/-! ## What the recorders are for -/

/-- The resets and calls of the first recorder. -/
def filledHistory (ops : List SaveOp) : List (Option (Recorded (List UInt8))) :=
  ops.filterMap SaveOp.filled

/-- The resets and calls of the second recorder. -/
def savedHistory (ops : List SaveOp) : List (Option (Recorded CString)) :=
  ops.filterMap SaveOp.saved

/-- The last call since the last reset, or no call. -/
def lastCall {α : Type} (content : α) (history : List (Option (Recorded α))) : Recorded α :=
  ((sinceReset history).bind List.getLast?).getD (.none content)

/-- The first call since the last reset, or no call. -/
def firstCall {α : Type} (content : α) (history : List (Option (Recorded α))) : Recorded α :=
  ((sinceReset history).bind List.head?).getD (.none content)

/-- **A step as documented**, after the steps `before` it: a call of a kind
that has been reset is intercepted, so that it returns no error and does
not reach the Toolbox; each recorder reports the last call of its kind
since the last reset of that kind, or none; and neither is affected by
calls or resets of the other. -/
structure DocumentedStep (K : Kernel) (answer : List RealCall → RealCall → Option KernelOserror)
    (debug : Bool) (nameSize : ℕ) (before : List SaveOp) (op : SaveOp)
    (t t' : State × List RealCall) : Prop where
  interceptsFilled : ∀ c, op.filled = some (some c) → sinceReset (filledHistory before) ≠ none →
    op.exec K answer debug nameSize t.1 t.2 = .ok (none, t'.1, t.2)
  interceptsSaved : ∀ c, op.saved = some (some c) → sinceReset (savedHistory before) ≠ none →
    op.exec K answer debug nameSize t.1 t.2 = .ok (none, t'.1, t.2)
  reportsFilled : ReportsFilled t'.1.saveAs (lastCall [] (filledHistory (before ++ [op])))
  reportsSaved : ReportsSaved t'.1.saveAs (lastCall .empty (savedHistory (before ++ [op])))
  framesFilled : op.filled = none → ∀ flags buffer buffSize nbytes,
    pseudoSaveasGetBufferFilled flags buffer buffSize nbytes t'.1.saveAs =
      pseudoSaveasGetBufferFilled flags buffer buffSize nbytes t.1.saveAs
  framesSaved : op.saved = none → ∀ flags buffer buffSize nbytes,
    pseudoSaveasGetFileSaveCompleted flags buffer buffSize nbytes t'.1.saveAs =
      pseudoSaveasGetFileSaveCompleted flags buffer buffSize nbytes t.1.saveAs

/-- **A run as documented**: each of its steps is. -/
def DocumentedRun (K : Kernel) (answer : List RealCall → RealCall → Option KernelOserror)
    (debug : Bool) (nameSize : ℕ) (ops : List SaveOp) : Prop :=
  ∀ before op after u v, ops = before ++ op :: after →
    Run (SaveStep K answer debug nameSize) (initial, []) before u →
    SaveStep K answer debug nameSize u op v →
    DocumentedStep K answer debug nameSize before op u v

/-- **A step is the first of its kind** since the last reset of that kind,
if it is a call. -/
def SaveOp.First (before : List SaveOp) (op : SaveOp) : Prop :=
  (∀ c entries, op.filled = some (some c) → sinceReset (filledHistory before) = some entries →
    entries = []) ∧
  ∀ c entries, op.saved = some (some c) → sinceReset (savedHistory before) = some entries →
    entries = []

/-- **What a recorder does**: it holds the first call since the last reset,
and is armed if there has been none. -/
structure Recorder.Follows {α : Type} (R : Recorder α) (history : List (Option (Recorded α)))
    (s : SaveAs) : Prop where
  holds : R.holds s (firstCall R.empty history)
  armed : R.armed s = true ↔ sinceReset history = some []

/-- What both do. -/
structure Recorders (ops : List SaveOp) (s : State) : Prop where
  wf : s.WF
  filled : filledRecorder.Follows (filledHistory ops) s.saveAs
  saved : savedRecorder.Follows (savedHistory ops) s.saveAs

theorem recorders_initial : Recorders [] initial where
  wf := wf_initial
  filled := ⟨⟨rfl, rfl, rfl, Nat.zero_le _, rfl⟩, by simp [initial, SaveAs.initial, filledHistory]⟩
  saved := ⟨⟨rfl, rfl, rfl⟩, by simp [initial, SaveAs.initial, savedHistory]⟩

variable {K : Kernel} {answer : List RealCall → RealCall → Option KernelOserror} {debug : Bool}
variable {nameSize : ℕ} {ops before : List SaveOp} {op : SaveOp} {t t' : State × List RealCall}

theorem filterMap_snoc {α β : Type} (f : α → Option β) (l : List α) (x : α) :
    (l ++ [x]).filterMap f = (f x).elim (l.filterMap f) fun y => l.filterMap f ++ [y] := by
  rw [List.filterMap_append]
  cases h : f x <;> simp [h]

/-! ## Steps -/

section Histories

variable {α : Type} {content : α} {history : List (Option (Recorded α))} {c : Recorded α}

/-- A call after another leaves the first call what it was. -/
theorem firstCall_entry (h : sinceReset history ≠ some []) :
    firstCall content (history ++ [some c]) = firstCall content history := by
  rw [firstCall, firstCall, sinceReset_entry]
  rcases hs : sinceReset history with _ | _ | ⟨x, l⟩
  · rfl
  · exact absurd hs h
  · rfl

theorem sinceReset_entry_ne : sinceReset (history ++ [some c]) ≠ some [] := by
  rw [sinceReset_entry]
  cases sinceReset history <;> simp

/-- Where there has been one call at most, the first is the last. -/
theorem lastCall_eq_firstCall (h : ∀ l, sinceReset history = some l → l.length ≤ 1) :
    lastCall content history = firstCall content history := by
  unfold lastCall firstCall
  rcases hs : sinceReset history with _ | _ | ⟨x, _ | ⟨y, l⟩⟩
  · rfl
  · rfl
  · rfl
  · have hlen := h _ hs
    simp at hlen

/-- A first call makes it one. -/
theorem length_sinceReset_entry (h : ∀ l, sinceReset history = some l → l = []) :
    ∀ l, sinceReset (history ++ [some c]) = some l → l.length ≤ 1 := by
  intro l hl
  rw [sinceReset_entry] at hl
  obtain ⟨l', hl', rfl⟩ := Option.map_eq_some_iff.mp hl
  rw [h l' hl']
  rfl

/-- **A recorder holds the first call**, step by step. -/
theorem Recorder.Step.follows {R : Recorder α} {s s' : SaveAs} {e : Option (Option (Recorded α))}
    (h : R.Step s s' e) (hf : R.Follows history s) :
    R.Follows (e.elim history fun e => history ++ [e]) s' := by
  obtain ⟨hholds, harmed⟩ := hf
  cases h with
  | same hsame =>
    exact ⟨R.holds_of_same hsame hholds, by rw [R.armed_of_same hsame]; exact harmed⟩
  | reset hnone hnow =>
    have hempty : sinceReset (history ++ [Option.none]) = some [] := sinceReset_reset
    exact ⟨by rw [Option.elim_some, firstCall, hempty]; exact hnone, iff_of_true hnow hempty⟩
  | takes hwas hc hnow =>
    -- the first call since the reset
    have hone : ∀ c, sinceReset (history ++ [some c]) = some [c] := fun c => by
      rw [sinceReset_entry, harmed.mp hwas]
      rfl
    refine ⟨?_, iff_of_false (by simp [hnow]) (by simp [hone])⟩
    rw [Option.elim_some, firstCall, hone]
    exact hc
  | passes hwas hsame =>
    -- there has been a call before, or no reset at all
    have hne : sinceReset history ≠ some [] := fun hs => by simp [harmed.mpr hs] at hwas
    subst hsame
    refine ⟨?_, iff_of_false (by simp [hwas]) sinceReset_entry_ne⟩
    rw [Option.elim_some, firstCall_entry hne]
    exact hholds

end Histories

/-- **A step, from what the recorders hold before it**: what they hold after
it, and which calls are intercepted. -/
theorem Recorders.step (hr : Recorders ops t.1)
    (hs : SaveStep K answer debug nameSize t op t') :
    Recorders (ops ++ [op]) t'.1 ∧
      filledRecorder.Step t.1.saveAs t'.1.saveAs op.filled ∧
      savedRecorder.Step t.1.saveAs t'.1.saveAs op.saved ∧
      (∀ c, op.filled = some (some c) →
        (op.exec K answer debug nameSize t.1 t.2 = .ok (none, t'.1, t.2) ↔
          sinceReset (filledHistory ops) = some [])) ∧
      (∀ c, op.saved = some (some c) →
        (op.exec K answer debug nameSize t.1 t.2 = .ok (none, t'.1, t.2) ↔
          sinceReset (savedHistory ops) = some [])) := by
  obtain ⟨hfits, e₀, he₀⟩ := hs
  obtain ⟨e, s', calls', he, hw', hf, hsv, hif, his⟩ :=
    exec_save_cases K answer debug hr.wf hfits t.2
  obtain ⟨s₁, calls₁⟩ := t'
  obtain ⟨rfl, rfl, rfl⟩ : e₀ = e ∧ s₁ = s' ∧ calls₁ = calls' := by
    rw [he₀] at he
    simpa using he
  have hexec : op.exec K answer debug nameSize t.1 t.2 = .ok (none, s₁, t.2) ↔
      Intercepted e₀ t.2 calls₁ := by
    rw [he, Intercepted]
    simp
  have hfilled : filledRecorder.Follows (filledHistory (ops ++ [op])) s₁.saveAs := by
    rw [filledHistory, filterMap_snoc]
    exact hf.follows hr.filled
  have hsaved : savedRecorder.Follows (savedHistory (ops ++ [op])) s₁.saveAs := by
    rw [savedHistory, filterMap_snoc]
    exact hsv.follows hr.saved
  refine ⟨⟨hw', hfilled, hsaved⟩, hf, hsv, fun c hc => ?_, fun c hc => ?_⟩
  · rw [hexec, hif c hc]
    exact hr.filled.armed
  · rw [hexec, his c hc]
    exact hr.saved.armed

/-! ## Runs -/

/-- Along a run each recorder holds the first call since its last reset. -/
theorem recorders_of_run (h : Run (SaveStep K answer debug nameSize) (initial, []) ops t) :
    Recorders ops t.1 :=
  h.history (I := fun ops t => Recorders ops t.1) recorders_initial fun _ _ _ _ hr hs =>
    (hr.step hs).1

/-- Resets and calls that fit never fault, so that they have a run. -/
theorem exists_run (K : Kernel) (answer : List RealCall → RealCall → Option KernelOserror)
    (debug : Bool) (nameSize : ℕ) (ops : List SaveOp)
    (hfits : ∀ op ∈ ops, op.Fits nameSize) :
    ∃ t, Run (SaveStep K answer debug nameSize) (initial, []) ops t := by
  induction ops using List.reverseRecOn with
  | nil => exact ⟨_, Run.nil⟩
  | append_singleton ops op ih =>
    obtain ⟨t, ht⟩ := ih fun o ho => hfits o (List.mem_append_left _ ho)
    have hop : op.Fits nameSize := hfits op (by simp)
    obtain ⟨e, s', calls', he, -⟩ :=
      exec_save_cases K answer debug (recorders_of_run ht).wf hop t.2
    exact ⟨(s', calls'), ht.snoc ⟨hop, e, he⟩⟩

/-- **Every call of a run is the first of its kind** since the last reset of
that kind. -/
def OncePerReset (ops : List SaveOp) : Prop :=
  ∀ before op after, ops = before ++ op :: after → op.First before

/-- Where each call of one kind is the first, a recorder has not seen two. -/
theorem length_le_of_first {α : Type} (kind : SaveOp → Option (Option (Recorded α)))
    (h : ∀ before op after, ops = before ++ op :: after → ∀ c entries, kind op = some (some c) →
      sinceReset (before.filterMap kind) = some entries → entries = []) :
    ∀ l, sinceReset (ops.filterMap kind) = some l → l.length ≤ 1 := by
  induction ops using List.reverseRecOn with
  | nil => exact fun _ hl => (by cases hl)
  | append_singleton ops op ih =>
    have hold : ∀ l, sinceReset (ops.filterMap kind) = some l → l.length ≤ 1 :=
      ih fun before o after he => h before o (after ++ [op]) (by rw [he]; simp)
    rw [filterMap_snoc]
    rcases he : kind op with _ | _ | c
    · exact hold
    · -- a reset starts over, and a call is the first by assumption
      intro l hl
      rw [Option.elim_some, sinceReset_reset] at hl
      obtain rfl := Option.some.inj hl
      exact Nat.zero_le _
    · exact length_sinceReset_entry fun l => h ops op [] rfl c l he

/-- So neither recorder has seen two. -/
theorem OncePerReset.length_le (h : OncePerReset ops) :
    (∀ l, sinceReset (filledHistory ops) = some l → l.length ≤ 1) ∧
      ∀ l, sinceReset (savedHistory ops) = some l → l.length ≤ 1 :=
  ⟨length_le_of_first SaveOp.filled fun before op after he => (h before op after he).1,
    length_le_of_first SaveOp.saved fun before op after he => (h before op after he).2⟩

/-- **The recorders do what their header promises, exactly on the runs in
which neither sees a second call after a reset.** Over every run of resets
and calls whose data and names fit, with errors injected anywhere and
whatever the Toolbox answers: every step is as documented if and only if
every call is the first of its kind since the last reset of that kind. -/
theorem saveas_documented_iff (K : Kernel)
    (answer : List RealCall → RealCall → Option KernelOserror) (debug : Bool) (nameSize : ℕ)
    {ops : List SaveOp} {t : State × List RealCall}
    (hrun : Run (SaveStep K answer debug nameSize) (initial, []) ops t) :
    DocumentedRun K answer debug nameSize ops ↔ OncePerReset ops := by
  constructor
  · -- a call after another since the reset would have to be intercepted, and is not
    rintro hall before op after rfl
    obtain ⟨v, hv, -⟩ : ∃ v, Run (SaveStep K answer debug nameSize) (initial, [])
        (before ++ [op]) v ∧ Run (SaveStep K answer debug nameSize) v after t := by
      rw [List.append_cons] at hrun
      exact hrun.split
    obtain ⟨u, hu, hs⟩ := hv.of_snoc
    have hdoc := hall before op after u v rfl hu hs
    obtain ⟨-, -, -, hif, his⟩ := (recorders_of_run hu).step hs
    constructor
    · intro c entries hc he
      have hin := (hif c hc).mp (hdoc.interceptsFilled c hc (by rw [he]; simp))
      rw [he] at hin
      exact Option.some.inj hin
    · intro c entries hc he
      have hin := (his c hc).mp (hdoc.interceptsSaved c hc (by rw [he]; simp))
      rw [he] at hin
      exact Option.some.inj hin
  · -- with one call at most, the first call is the last
    rintro honce before op after u v rfl hu hs
    have honce' : OncePerReset (before ++ [op]) := fun b o a he =>
      honce b o (a ++ after) (by rw [List.append_cons, he]; simp)
    obtain ⟨hlenf, hlens⟩ := honce'.length_le
    obtain ⟨hfirstf, hfirsts⟩ := honce' before op [] rfl
    obtain ⟨hr, hf, hsv, hif, his⟩ := (recorders_of_run hu).step hs
    refine ⟨fun c hc hne => (hif c hc).mpr ?_, fun c hc hne => (his c hc).mpr ?_, ?_, ?_,
      fun hnone => ?_, fun hnone => ?_⟩
    · obtain ⟨l, hl⟩ := Option.ne_none_iff_exists'.mp hne
      rw [hl, hfirstf c l hc hl]
    · obtain ⟨l, hl⟩ := Option.ne_none_iff_exists'.mp hne
      rw [hl, hfirsts c l hc hl]
    · rw [lastCall_eq_firstCall hlenf]
      exact hr.filled.holds.reports
    · rw [lastCall_eq_firstCall hlens]
      exact hr.saved.holds.reports
    · rw [hnone] at hf
      obtain ⟨hsame⟩ := hf
      exact hsame.query
    · rw [hnone] at hsv
      obtain ⟨hsame⟩ := hsv
      exact hsame.query

/-- Data sent in two buffers after a reset: the second passes the recorder
by. -/
theorem saveas_second_buffer_passes :
    ¬ ∀ (K : Kernel) (answer : List RealCall → RealCall → Option KernelOserror) (debug : Bool)
        (nameSize : ℕ) (ops : List SaveOp) (t : State × List RealCall),
      Run (SaveStep K answer debug nameSize) (initial, []) ops t →
        DocumentedRun K answer debug nameSize ops := by
  intro hall
  obtain ⟨t, hrun⟩ := exists_run .plain (fun _ _ => none) true 212
    [.resetBufferFilled, .bufferFilled true 0 5 [1] 1, .bufferFilled true 0 5 [2] 1] (by decide)
  have hdoc := hall _ _ _ _ _ _ hrun
  obtain ⟨u, hu, hs⟩ : ∃ u, Run (SaveStep .plain (fun _ _ => none) true 212) (initial, [])
      [.resetBufferFilled, .bufferFilled true 0 5 [1] 1] u ∧
      SaveStep .plain (fun _ _ => none) true 212 u (.bufferFilled true 0 5 [2] 1) t := hrun.of_snoc
  have hin := (hdoc _ _ [] u t rfl hu hs).interceptsFilled _ rfl (by
    simp [filledHistory, SaveOp.filled, sinceReset, noteEvent])
  have hfirst := (((recorders_of_run hu).step hs).2.2.2.1 _ rfl).mp hin
  simp [filledHistory, SaveOp.filled, sinceReset, noteEvent] at hfirst

/-- Data sent in one buffer. -/
theorem saveas_documented_iff_one_buffer :
    DocumentedRun Kernel.plain (fun _ _ => none) true 212
      [.resetBufferFilled, .bufferFilled true 0 5 [1] 1] := by
  obtain ⟨t, hrun⟩ := exists_run .plain (fun _ _ => none) true 212
    [.resetBufferFilled, .bufferFilled true 0 5 [1] 1] (by decide)
  refine (saveas_documented_iff Kernel.plain (fun _ _ => none) true 212 hrun).mpr ?_
  rintro (_ | ⟨_, _ | ⟨_, before⟩⟩) op after he
  · obtain ⟨rfl, -⟩ := List.cons.inj he
    exact ⟨fun _ _ h => (by cases h), fun _ _ h => (by cases h)⟩
  · obtain ⟨rfl, htail⟩ := List.cons.inj he
    obtain ⟨rfl, -⟩ := List.cons.inj htail
    exact ⟨fun _ _ _ h => (Option.some.inj h).symm, fun _ _ h => (by cases h)⟩
  · simp at he

end Tbox

end CBPseudo
