import CBPseudo.Common.Run
import CBPseudo.Tbox.Records

/-!
# The SaveAs recorders

The resets and calls of the two recorders as the steps of a system, and
what each comes to: an armed recorder takes a call in, reports it and is
disarmed; one that is not armed lets the call pass to the Toolbox. The
two differ in what they hold only, and are one `Recorder` twice.
-/

namespace CBPseudo

open Common

namespace Tbox

/-! ## The system -/

/-- A call that reached the Toolbox's own function. -/
inductive RealCall
  | bufferFilled (flags : UInt32) (saveas : ObjectId) (buffer : List UInt8) (bytesWritten : ℤ)
  | fileSaveCompleted (flags : UInt32) (saveas : ObjectId) (filename : CString)

/-- The Toolbox's functions, on the list of the calls that have reached
them. -/
def SaveAsLib.recording (answer : List RealCall → RealCall → Option KernelOserror) :
    SaveAsLib (List RealCall) where
  saveasBufferFilled := fun flags saveas buffer bytesWritten calls =>
    (answer calls (.bufferFilled flags saveas buffer bytesWritten),
      calls ++ [.bufferFilled flags saveas buffer bytesWritten])
  saveasFileSaveCompleted := fun flags saveas filename calls =>
    (answer calls (.fileSaveCompleted flags saveas filename),
      calls ++ [.fileSaveCompleted flags saveas filename])

/-- **A reset or a call**; a call, with the error injection's answer. -/
inductive SaveOp
  /-- `pseudo_saveas_reset_buffer_filled`. -/
  | resetBufferFilled
  /-- `pseudo_saveas_reset_file_save_completed`. -/
  | resetFileSaveCompleted
  /-- `pseudo_toolbox_reset`. -/
  | resetToolbox
  /-- `pseudo_saveas_buffer_filled`. -/
  | bufferFilled (allow : Bool) (flags : UInt32) (saveas : ObjectId) (buffer : List UInt8)
      (bytesWritten : ℤ)
  /-- `pseudo_saveas_file_save_completed`. -/
  | fileSaveCompleted (allow : Bool) (flags : UInt32) (saveas : ObjectId) (filename : CString)

/-- What is recorded of a call: its flags, its object and its data or file
name. -/
structure Recorded (α : Type) where
  flags : UInt32
  id : ObjectId
  content : α

/-- What is reported where there has been no call. -/
def Recorded.none {α : Type} (content : α) : Recorded α := ⟨0, nullObjectId, content⟩

/-- The resets and calls of the first recorder. -/
def SaveOp.filled : SaveOp → Option (Option (Recorded (List UInt8)))
  | .resetBufferFilled | .resetToolbox => some .none
  | .bufferFilled _ flags saveas buffer bytesWritten =>
    some (some ⟨flags, saveas, buffer.take bytesWritten.toNat⟩)
  | _ => .none

/-- The resets and calls of the second recorder. -/
def SaveOp.saved : SaveOp → Option (Option (Recorded CString))
  | .resetFileSaveCompleted | .resetToolbox => some .none
  | .fileSaveCompleted _ flags saveas filename => some (some ⟨flags, saveas, filename⟩)
  | _ => .none

/-- What the client promises of a call: the data fit the recorder, and so
does the name. -/
def SaveOp.Fits (nameSize : ℕ) : SaveOp → Prop
  | .bufferFilled _ _ _ buffer bytesWritten =>
    0 ≤ bytesWritten ∧ bytesWritten.toNat ≤ bufferFilledSize ∧ bytesWritten.toNat ≤ buffer.length
  | .fileSaveCompleted _ _ _ filename => filename.strlen < nameSize
  | _ => True

instance (nameSize : ℕ) : (op : SaveOp) → Decidable (op.Fits nameSize)
  | .bufferFilled .. => inferInstanceAs (Decidable (_ ∧ _))
  | .fileSaveCompleted .. => inferInstanceAs (Decidable (_ < _))
  | .resetBufferFilled | .resetFileSaveCompleted | .resetToolbox => isTrue trivial

section System

variable (K : Kernel) (answer : List RealCall → RealCall → Option KernelOserror) (debug : Bool)
variable (nameSize : ℕ)

/-- The answer of a call, and the state after it. -/
def SaveOp.exec (s : State) (calls : List RealCall) :
    SaveOp → Except Fault (Option KernelOserror × State × List RealCall)
  | .resetBufferFilled =>
    .ok (none, { s with saveAs := pseudoSaveasResetBufferFilled s.saveAs }, calls)
  | .resetFileSaveCompleted =>
    .ok (none, { s with saveAs := pseudoSaveasResetFileSaveCompleted s.saveAs }, calls)
  | .resetToolbox => .ok (none, pseudoToolboxReset s, calls)
  | .bufferFilled allow flags saveas buffer bytesWritten => do
    let (e, saveAs, calls) ← pseudoSaveasBufferFilled K (.recording answer) debug allow flags saveas
      buffer bytesWritten s.saveAs calls
    .ok (e, { s with saveAs := saveAs }, calls)
  | .fileSaveCompleted allow flags saveas filename =>
    let (e, saveAs, calls) := pseudoSaveasFileSaveCompleted K (.recording answer) nameSize allow
      flags saveas filename s.saveAs calls
    .ok (e, { s with saveAs := saveAs }, calls)

/-- A step: a reset or a call that keeps its promise, and returns. -/
def SaveStep (t : State × List RealCall) (op : SaveOp) (t' : State × List RealCall) : Prop :=
  op.Fits nameSize ∧ ∃ e, op.exec K answer debug nameSize t.1 t.2 = .ok (e, t'.1, t'.2)

end System

/-! ## What is reported -/

variable {s s' : SaveAs}

/-- **The first recorder reports a call**: its query returns the call's
object, and leaves its flags, its data and their length in the caller's
variables. -/
def ReportsFilled (s : SaveAs) (c : Recorded (List UInt8)) : Prop :=
  ∀ (flags : UInt32) (buffer : List UInt8) (buffSize nbytes : ℤ),
    (c.content.length : ℤ) ≤ buffSize → c.content.length ≤ buffer.length →
    pseudoSaveasGetBufferFilled (some flags) (some buffer) buffSize (some nbytes) s =
      .ok { id := c.id, flags := some c.flags,
            buffer := some (c.content ++ buffer.drop c.content.length),
            nbytes := some c.content.length }

/-- **The second recorder reports a call**: its query returns the call's
object, and leaves its flags, its file name and the length of that in the
caller's variables. -/
def ReportsSaved (s : SaveAs) (c : Recorded CString) : Prop :=
  ∀ (flags : UInt32) (buffer : List UInt8) (buffSize nbytes : ℤ),
    (c.content.strlen : ℤ) < buffSize → c.content.strlen < buffer.length →
    pseudoSaveasGetFileSaveCompleted (some flags) (some buffer) buffSize (some nbytes) s =
      .ok { id := c.id, flags := some c.flags,
            buffer := some (c.content.chars ++ [0] ++ buffer.drop (c.content.strlen + 1)),
            nbytes := some (c.content.strlen + 1) }

/-- What the first recorder holds. -/
structure Holds (s : SaveAs) (c : Recorded (List UInt8)) : Prop where
  flags : s.bufferFilledFlags = c.flags
  id : s.bufferFilledId = c.id
  written : s.bufferFilledBytesWritten = c.content.length
  fits : c.content.length ≤ bufferFilledSize
  buffer : (List.range c.content.length).map s.bufferFilledBuffer = c.content

/-- What a recorder holds is what it reports. -/
theorem Holds.reports {c : Recorded (List UInt8)} (h : Holds s c) : ReportsFilled s c := by
  intro flags buffer buffSize nbytes hsize hlen
  have hfits : (c.content.length : ℤ) ≤ intMax := by
    have := h.fits
    simp only [bufferFilledSize, intMax] at this ⊢
    omega
  have hn : toSizeT (min buffSize c.content.length) = c.content.length := by
    rw [min_eq_right hsize]
    have := toSizeT_of_nonneg (Int.natCast_nonneg c.content.length) hfits
    omega
  rw [pseudoSaveasGetBufferFilled, h.written]
  simp only [hn, if_pos (And.intro h.fits hlen), h.buffer, h.id, h.flags, ok_bind, Option.map_some]

/-- What the second recorder holds. -/
structure HoldsName (s : SaveAs) (c : Recorded CString) : Prop where
  flags : s.fileSaveCompletedFlags = c.flags
  id : s.fileSaveCompletedId = c.id
  filename : s.fileSaveCompletedFilename = c.content

theorem HoldsName.reports {c : Recorded CString} (h : HoldsName s c) : ReportsSaved s c := by
  intro flags buffer buffSize nbytes hsize hlen
  have hpos : buffSize > 0 := by omega
  have htrunc : c.content.truncate (buffSize - 1).toNat = c.content :=
    CString.truncate_of_le (by omega)
  have hwritten : c.content.strlen + 1 ≤ buffer.length := hlen
  have hdrop : (c.content.chars ++ [0]).length = c.content.strlen + 1 := by
    rw [List.length_append, List.length_singleton, CString.strlen]
  rw [pseudoSaveasGetFileSaveCompleted, h.filename]
  simp only [if_pos hpos, htrunc, hdrop, if_pos hwritten, h.id, h.flags, ok_bind, Option.map_some]

/-- The first recorder is left alone. -/
structure SameFilled (s s' : SaveAs) : Prop where
  flags : s'.bufferFilledFlags = s.bufferFilledFlags
  id : s'.bufferFilledId = s.bufferFilledId
  buffer : s'.bufferFilledBuffer = s.bufferFilledBuffer
  written : s'.bufferFilledBytesWritten = s.bufferFilledBytesWritten
  armed : s'.interceptSaveasBufferFilled = s.interceptSaveasBufferFilled

/-- The second recorder is left alone. -/
structure SameSaved (s s' : SaveAs) : Prop where
  flags : s'.fileSaveCompletedFlags = s.fileSaveCompletedFlags
  id : s'.fileSaveCompletedId = s.fileSaveCompletedId
  filename : s'.fileSaveCompletedFilename = s.fileSaveCompletedFilename
  armed : s'.interceptFileSaveCompleted = s.interceptFileSaveCompleted

theorem SameFilled.refl (s : SaveAs) : SameFilled s s := ⟨rfl, rfl, rfl, rfl, rfl⟩

theorem SameSaved.refl (s : SaveAs) : SameSaved s s := ⟨rfl, rfl, rfl, rfl⟩

theorem SameFilled.holds {c : Recorded (List UInt8)} (h : SameFilled s s') (hc : Holds s c) :
    Holds s' c :=
  ⟨h.flags.trans hc.flags, h.id.trans hc.id, h.written.trans hc.written, hc.fits, by
    rw [h.buffer]
    exact hc.buffer⟩

theorem SameSaved.holds {c : Recorded CString} (h : SameSaved s s') (hc : HoldsName s c) :
    HoldsName s' c :=
  ⟨h.flags.trans hc.flags, h.id.trans hc.id, h.filename.trans hc.filename⟩

/-- The query of a recorder left alone answers as before. -/
theorem SameFilled.query (h : SameFilled s s') (flags : Option UInt32)
    (buffer : Option (List UInt8)) (buffSize : ℤ) (nbytes : Option ℤ) :
    pseudoSaveasGetBufferFilled flags buffer buffSize nbytes s' =
      pseudoSaveasGetBufferFilled flags buffer buffSize nbytes s := by
  unfold pseudoSaveasGetBufferFilled
  rw [h.flags, h.id, h.buffer, h.written]

theorem SameSaved.query (h : SameSaved s s') (flags : Option UInt32)
    (buffer : Option (List UInt8)) (buffSize : ℤ) (nbytes : Option ℤ) :
    pseudoSaveasGetFileSaveCompleted flags buffer buffSize nbytes s' =
      pseudoSaveasGetFileSaveCompleted flags buffer buffSize nbytes s := by
  unfold pseudoSaveasGetFileSaveCompleted
  rw [h.flags, h.id, h.filename]

/-- **A recorder**, as both are: what it holds, whether it is armed, and what
it is to leave it alone. -/
structure Recorder (α : Type) where
  empty : α
  holds : SaveAs → Recorded α → Prop
  armed : SaveAs → Bool
  same : SaveAs → SaveAs → Prop
  holds_of_same : ∀ {s s' : SaveAs} {c : Recorded α}, same s s' → holds s c → holds s' c
  armed_of_same : ∀ {s s' : SaveAs}, same s s' → armed s' = armed s

/-- The recorder of `saveas_buffer_filled`. -/
abbrev filledRecorder : Recorder (List UInt8) where
  empty := []
  holds := Holds
  armed := SaveAs.interceptSaveasBufferFilled
  same := SameFilled
  holds_of_same := SameFilled.holds
  armed_of_same := SameFilled.armed

/-- The recorder of `saveas_file_save_completed`. -/
abbrev savedRecorder : Recorder CString where
  empty := .empty
  holds := HoldsName
  armed := SaveAs.interceptFileSaveCompleted
  same := SameSaved
  holds_of_same := SameSaved.holds
  armed_of_same := SameSaved.armed

/-! ## The calls -/

section Calls

variable {σ : Type} {K : Kernel} {L : SaveAsLib σ} {debug : Bool} {nameSize : ℕ} {env : σ}
variable {flags : UInt32} {saveas : ObjectId} {buffer : List UInt8} {bytesWritten : ℤ}

/-- **An armed recorder takes the data in**, and is disarmed. -/
theorem bufferFilled_armed (K : Kernel) (L : SaveAsLib σ) (debug allow : Bool) (flags : UInt32)
    (saveas : ObjectId) (env : σ) (harmed : s.interceptSaveasBufferFilled = true)
    (h0 : 0 ≤ bytesWritten) (hfits : bytesWritten.toNat ≤ bufferFilledSize)
    (hlen : bytesWritten.toNat ≤ buffer.length) :
    ∃ s', pseudoSaveasBufferFilled K L debug allow flags saveas buffer bytesWritten s env =
        .ok (none, s', env) ∧
      Holds s' ⟨flags, saveas, buffer.take bytesWritten.toNat⟩ ∧
      s'.interceptSaveasBufferFilled = false ∧ SameSaved s s' := by
  have hsize : toSizeT bytesWritten = bytesWritten.toNat := by
    have hmax : bytesWritten ≤ intMax := by
      simp only [bufferFilledSize, intMax] at hfits ⊢
      omega
    exact toSizeT_eq_toNat h0 hmax
  have htake : (buffer.take bytesWritten.toNat).length = bytesWritten.toNat := by
    rw [List.length_take]
    omega
  rw [pseudoSaveasBufferFilled, if_pos harmed]
  simp only [hsize, ge_iff_le, cassert_of h0, cassert_of hfits, ok_bind,
    if_pos (And.intro hfits hlen)]
  refine ⟨_, rfl, ⟨rfl, rfl, ?_, ?_, ?_⟩, rfl, ⟨rfl, rfl, rfl, rfl⟩⟩
  · rw [htake, Int.toNat_of_nonneg h0]
  · rw [htake]
    exact hfits
  · -- what the recorder's array holds past the data is not part of it
    refine List.ext_getElem (by simp) fun i hi _ => ?_
    have hin : i < bytesWritten.toNat := by simpa [htake] using hi
    have hib : i < buffer.length := by omega
    rw [List.getElem_map, List.getElem_range]
    show (if i < bytesWritten.toNat then buffer.getD i 0 else _) = _
    rw [if_pos hin, List.getElem_take, List.getD_eq_getElem?_getD, List.getElem?_eq_getElem hib]
    rfl

/-- **A recorder that is not armed** lets the data pass, and returns an
error or has reached the Toolbox. -/
theorem bufferFilled_disarmed (K : Kernel)
    (answer : List RealCall → RealCall → Option KernelOserror) (debug allow : Bool)
    (flags : UInt32) (saveas : ObjectId) (buffer : List UInt8) (bytesWritten : ℤ)
    (calls : List RealCall) (h : s.interceptSaveasBufferFilled = false) :
    ∃ e calls', pseudoSaveasBufferFilled K (.recording answer) debug allow flags saveas buffer
        bytesWritten s calls = .ok (e, s, calls') ∧ (e = none → calls' ≠ calls) := by
  rw [pseudoSaveasBufferFilled, if_neg (by simp [h])]
  cases allow with
  | false => exact ⟨_, _, rfl, fun he => by cases he⟩
  | true => exact ⟨_, _, rfl, fun _ => by simp [SaveAsLib.recording]⟩

/-- **An armed recorder takes the file name in**, and is disarmed. -/
theorem fileSaveCompleted_armed (K : Kernel) (L : SaveAsLib σ) (allow : Bool) (flags : UInt32)
    (saveas : ObjectId) {filename : CString} (env : σ)
    (harmed : s.interceptFileSaveCompleted = true) (hfits : filename.strlen < nameSize) :
    ∃ s', pseudoSaveasFileSaveCompleted K L nameSize allow flags saveas filename s env =
        (none, s', env) ∧
      HoldsName s' ⟨flags, saveas, filename⟩ ∧ s'.interceptFileSaveCompleted = false ∧
      SameFilled s s' := by
  rw [pseudoSaveasFileSaveCompleted, if_pos harmed, CString.strcpySafe_of_lt hfits]
  exact ⟨_, rfl, ⟨rfl, rfl, rfl⟩, rfl, ⟨rfl, rfl, rfl, rfl, rfl⟩⟩

theorem fileSaveCompleted_disarmed (K : Kernel)
    (answer : List RealCall → RealCall → Option KernelOserror) (nameSize : ℕ) (allow : Bool)
    (flags : UInt32) (saveas : ObjectId) (filename : CString) (calls : List RealCall)
    (h : s.interceptFileSaveCompleted = false) :
    ∃ e calls', pseudoSaveasFileSaveCompleted K (.recording answer) nameSize allow flags saveas
        filename s calls = (e, s, calls') ∧ (e = none → calls' ≠ calls) := by
  rw [pseudoSaveasFileSaveCompleted, if_neg (by simp [h])]
  cases allow with
  | false => exact ⟨_, _, rfl, fun he => by cases he⟩
  | true => exact ⟨_, _, rfl, fun _ => by simp [SaveAsLib.recording]⟩

end Calls

/-! ## Steps -/

variable {nameSize : ℕ} {op : SaveOp}

/-- **What a step does to a recorder.** -/
inductive Recorder.Step {α : Type} (R : Recorder α) (s s' : SaveAs) :
    Option (Option (Recorded α)) → Prop
  /-- It is left alone. -/
  | same : R.same s s' → R.Step s s' .none
  /-- It is reset. -/
  | reset : R.holds s' (.none R.empty) → R.armed s' = true → R.Step s s' (some .none)
  /-- It takes a call in. -/
  | takes {c : Recorded α} : R.armed s = true → R.holds s' c → R.armed s' = false →
      R.Step s s' (some (some c))
  /-- It lets a call pass. -/
  | passes {c : Recorded α} : R.armed s = false → s' = s → R.Step s s' (some (some c))

/-- A call was intercepted: no error, and no call of the Toolbox. -/
def Intercepted (e : Option KernelOserror) (calls calls' : List RealCall) : Prop :=
  e = none ∧ calls' = calls

/-- **What a step can do** to each recorder; and a call is intercepted if
and only if its recorder is armed. -/
theorem exec_save_cases (K : Kernel) (answer : List RealCall → RealCall → Option KernelOserror)
    (debug : Bool) {s : State} (hw : s.WF) (hfits : op.Fits nameSize) (calls : List RealCall) :
    ∃ e s' calls', op.exec K answer debug nameSize s calls = .ok (e, s', calls') ∧ s'.WF ∧
      filledRecorder.Step s.saveAs s'.saveAs op.filled ∧
      savedRecorder.Step s.saveAs s'.saveAs op.saved ∧
      (∀ c, op.filled = some (some c) →
        (Intercepted e calls calls' ↔ s.saveAs.interceptSaveasBufferFilled = true)) ∧
      (∀ c, op.saved = some (some c) →
        (Intercepted e calls calls' ↔ s.saveAs.interceptFileSaveCompleted = true)) := by
  cases op with
  | resetBufferFilled =>
    exact ⟨_, _, _, rfl, ⟨hw.nodup, hw.mem_records⟩,
      .reset ⟨rfl, rfl, rfl, Nat.zero_le _, rfl⟩ rfl, .same ⟨rfl, rfl, rfl, rfl⟩,
      fun _ h => (by cases h), fun _ h => (by cases h)⟩
  | resetFileSaveCompleted =>
    exact ⟨_, _, _, rfl, ⟨hw.nodup, hw.mem_records⟩, .same ⟨rfl, rfl, rfl, rfl, rfl⟩,
      .reset ⟨rfl, rfl, rfl⟩ rfl, fun _ h => (by cases h), fun _ h => (by cases h)⟩
  | resetToolbox =>
    obtain ⟨hw', -, hsave⟩ := reset_cases hw
    refine ⟨_, _, _, rfl, hw', ?_, ?_, fun _ h => (by cases h), fun _ h => (by cases h)⟩
    · rw [hsave]
      exact .reset ⟨rfl, rfl, rfl, Nat.zero_le _, rfl⟩ rfl
    · rw [hsave]
      exact .reset ⟨rfl, rfl, rfl⟩ rfl
  | bufferFilled allow flags saveas buffer bytesWritten =>
    obtain ⟨h0, hsize, hlen⟩ := hfits
    cases harmed : s.saveAs.interceptSaveasBufferFilled with
    | true =>
      obtain ⟨s', he, hholds, hdisarmed, hsame⟩ := bufferFilled_armed K (.recording answer) debug
        allow flags saveas calls harmed h0 hsize hlen
      refine ⟨none, { s with saveAs := s' }, calls, ?_, ⟨hw.nodup, hw.mem_records⟩,
        .takes harmed hholds hdisarmed, .same hsame, fun _ _ => ?_, fun _ h => (by cases h)⟩
      · rw [SaveOp.exec, he]
        rfl
      · exact iff_of_true ⟨rfl, rfl⟩ rfl
    | false =>
      obtain ⟨e, calls', he, hpass⟩ := bufferFilled_disarmed K answer debug allow flags saveas
        buffer bytesWritten calls harmed
      refine ⟨e, s, calls', ?_, hw, .passes harmed rfl, .same (.refl _), fun _ _ => ?_,
        fun _ h => (by cases h)⟩
      · rw [SaveOp.exec, he]
        rfl
      · -- without an error, the call has reached the Toolbox
        exact iff_of_false (fun hin => hpass hin.1 hin.2) (by simp)
  | fileSaveCompleted allow flags saveas filename =>
    cases harmed : s.saveAs.interceptFileSaveCompleted with
    | true =>
      obtain ⟨s', he, hholds, hdisarmed, hsame⟩ := fileSaveCompleted_armed K (.recording answer)
        allow flags saveas calls harmed hfits
      refine ⟨none, { s with saveAs := s' }, calls, ?_, ⟨hw.nodup, hw.mem_records⟩,
        .same hsame, .takes harmed hholds hdisarmed, fun _ h => (by cases h), fun _ _ => ?_⟩
      · rw [SaveOp.exec, he]
      · exact iff_of_true ⟨rfl, rfl⟩ rfl
    | false =>
      obtain ⟨e, calls', he, hpass⟩ := fileSaveCompleted_disarmed K answer nameSize allow flags
        saveas filename calls harmed
      refine ⟨e, s, calls', ?_, hw, .same (.refl _), .passes harmed rfl, fun _ h => (by cases h),
        fun _ _ => ?_⟩
      · rw [SaveOp.exec, he]
      · exact iff_of_false (fun hin => hpass hin.1 hin.2) (by simp)

end Tbox

end CBPseudo
