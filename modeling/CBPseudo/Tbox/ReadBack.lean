import CBPseudo.Tbox.Recorders

/-!
# The SaveAs recorders — reading back

What the two queries write to the caller's buffer, whatever its size. The
second looks at the size first and writes nothing where there is no room
for a NUL. The first does not: it hands `memcpy` the lesser of the size
and the number of bytes recorded, which a size below 0 makes a very great
`size_t`.
-/

namespace CBPseudo

open Common

namespace Tbox

variable {s : SaveAs} {c : Recorded (List UInt8)} {f : Recorded CString}
variable {flags : Option UInt32} {buffer : Option (List UInt8)} {buffSize : ℤ} {nbytes : Option ℤ}

/-- A buffer after bytes have been written to its front. -/
def overwrite (written dest : List UInt8) : List UInt8 := written ++ dest.drop written.length

/-- **The queries are bounded and exact**: the first writes the recorded
bytes that fit and no others; the second writes nothing where there is no
room, and otherwise as much of the name as fits in front of a NUL. Both
report the whole length. -/
structure ReadsBack (s : SaveAs) (c : Recorded (List UInt8)) (f : Recorded CString)
    (flags : Option UInt32) (buffer : Option (List UInt8)) (buffSize : ℤ) (nbytes : Option ℤ) :
    Prop where
  data : pseudoSaveasGetBufferFilled flags buffer buffSize nbytes s =
    .ok { id := c.id, flags := flags.map fun _ => c.flags,
          buffer := buffer.map
            (overwrite (c.content.take (min buffSize c.content.length).toNat)),
          nbytes := nbytes.map fun _ => (c.content.length : ℤ) }
  name : pseudoSaveasGetFileSaveCompleted flags buffer buffSize nbytes s =
    .ok { id := f.id, flags := flags.map fun _ => f.flags,
          buffer := buffer.map fun dest => if buffSize ≤ 0 then dest else
            overwrite ((f.content.truncate (buffSize - 1).toNat).chars ++ [0]) dest,
          nbytes := nbytes.map fun _ => (f.content.strlen : ℤ) + 1 }
  bounded : 0 < buffSize →
    (((f.content.truncate (buffSize - 1).toNat).chars ++ [0]).length : ℤ) ≤ buffSize

/-! ## The first query -/

/-- **A size that is not negative** bounds what is copied. -/
theorem getBufferFilled_of_nonneg (h : Holds s c) (hin : InInt buffSize) (h0 : 0 ≤ buffSize)
    (hdest : ∀ dest, buffer = some dest → buffSize ≤ dest.length) :
    pseudoSaveasGetBufferFilled flags buffer buffSize nbytes s =
      .ok { id := c.id, flags := flags.map fun _ => c.flags,
            buffer := buffer.map
              (overwrite (c.content.take (min buffSize c.content.length).toNat)),
            nbytes := nbytes.map fun _ => (c.content.length : ℤ) } := by
  have hfits := h.fits
  have hsize : toSizeT (min buffSize c.content.length) = (min buffSize c.content.length).toNat :=
    toSizeT_eq_toNat (by omega) (by have := hin.2; omega)
  have hlen : (c.content.take (min buffSize c.content.length).toNat).length =
      (min buffSize c.content.length).toNat := by
    rw [List.length_take]
    omega
  have hcopied : (List.range (min buffSize c.content.length).toNat).map s.bufferFilledBuffer =
      c.content.take (min buffSize c.content.length).toNat := by
    have hrange : List.range (min buffSize c.content.length).toNat =
        (List.range c.content.length).take (min buffSize c.content.length).toNat := by
      rw [List.take_range]
      congr 1
      omega
    rw [hrange, List.map_take, h.buffer]
  unfold pseudoSaveasGetBufferFilled
  simp only [h.written, hsize, h.id, h.flags]
  cases buffer with
  | none => rfl
  | some dest =>
    have hroom := hdest dest rfl
    have hbounds : (min buffSize c.content.length).toNat ≤ bufferFilledSize ∧
        (min buffSize c.content.length).toNat ≤ dest.length := by omega
    simp only [if_pos hbounds, ok_bind, hcopied, Option.map_some, overwrite, hlen]

/-- **A null buffer** is not written to, whatever the size. -/
theorem getBufferFilled_null (h : Holds s c) :
    pseudoSaveasGetBufferFilled flags none buffSize nbytes s =
      .ok { id := c.id, flags := flags.map fun _ => c.flags, buffer := none,
            nbytes := nbytes.map fun _ => (c.content.length : ℤ) } := by
  rw [pseudoSaveasGetBufferFilled, h.written, h.id, h.flags]
  rfl

/-- **A size below 0** becomes a `size_t` greater than the recorder's
array. -/
theorem getBufferFilled_of_neg (flags : Option UInt32) (dest : List UInt8) (nbytes : Option ℤ)
    (h : Holds s c) (hin : InInt buffSize) (hneg : buffSize < 0) :
    pseudoSaveasGetBufferFilled flags (some dest) buffSize nbytes s = .error .outOfBounds := by
  have hmin : min buffSize c.content.length = buffSize := by omega
  have hbig : bufferFilledSize < toSizeT buffSize := by
    have hle := hin.1
    simp only [intMin, bufferFilledSize, toSizeT] at hle ⊢
    omega
  rw [pseudoSaveasGetBufferFilled, h.written]
  simp only [hmin]
  rw [if_neg fun hc => not_lt.mpr hc.1 hbig]
  rfl

/-! ## The second query -/

/-- What is written fits the size that the caller gave. -/
theorem length_terminated (hpos : 0 < buffSize) :
    (((f.content.truncate (buffSize - 1).toNat).chars ++ [0]).length : ℤ) ≤ buffSize := by
  rw [List.length_append, List.length_singleton, CString.truncate, List.length_take]
  omega

/-- **The second query is exact** whatever the size. -/
theorem getFileSaveCompleted_eq (h : HoldsName s f)
    (hdest : ∀ dest, buffer = some dest → buffSize ≤ dest.length) :
    pseudoSaveasGetFileSaveCompleted flags buffer buffSize nbytes s =
      .ok { id := f.id, flags := flags.map fun _ => f.flags,
            buffer := buffer.map fun dest => if buffSize ≤ 0 then dest else
              overwrite ((f.content.truncate (buffSize - 1).toNat).chars ++ [0]) dest,
            nbytes := nbytes.map fun _ => (f.content.strlen : ℤ) + 1 } := by
  unfold pseudoSaveasGetFileSaveCompleted
  simp only [h.filename, h.id, h.flags]
  cases buffer with
  | none => rfl
  | some dest =>
    by_cases hpos : buffSize > 0
    · have hroom := hdest dest rfl
      have hlen : ((f.content.truncate (buffSize - 1).toNat).chars ++ [0]).length ≤
          dest.length := by
        have := length_terminated (f := f) hpos
        omega
      simp only [if_pos hpos, if_pos hlen, ok_bind, Option.map_some, overwrite,
        if_neg (not_le.mpr hpos)]
    · simp only [if_neg hpos, ok_bind, Option.map_some, if_pos (not_lt.mp hpos)]

/-! ## Both -/

/-- A client that asks for the number of bytes recorded and then reads
that many, into an array of its own. -/
def readData (fill : ℕ → UInt8) (s : SaveAs) : Except Fault (Option (List UInt8)) := do
  let size ← pseudoSaveasGetBufferFilled none none 0 (some 0) s
  let n := size.nbytes.getD 0
  let r ← pseudoSaveasGetBufferFilled none (some ((List.range n.toNat).map fill)) n none s
  .ok r.buffer

/-- The same of the file name. -/
def readName (fill : ℕ → UInt8) (s : SaveAs) : Except Fault (Option (List UInt8)) := do
  let size ← pseudoSaveasGetFileSaveCompleted none none 0 (some 0) s
  let n := size.nbytes.getD 0
  let r ← pseudoSaveasGetFileSaveCompleted none (some ((List.range n.toNat).map fill)) n none s
  .ok r.buffer

/-- **The whole data come back.** -/
theorem readData_eq (fill : ℕ → UInt8) (h : Holds s c) :
    readData fill s = .ok (some c.content) := by
  have hfits := h.fits
  have hin : InInt (c.content.length : ℤ) := by
    simp only [InInt, intMin, intMax, bufferFilledSize] at hfits ⊢
    omega
  have hall : c.content.take (min (c.content.length : ℤ) c.content.length).toNat = c.content :=
    List.take_of_length_le (by omega)
  have hnothing : ((List.range c.content.length).map fill).drop c.content.length = [] :=
    List.drop_eq_nil_of_le (by rw [List.length_map, List.length_range])
  rw [readData, getBufferFilled_null h, ok_bind]
  simp only [Option.map_some, Option.getD_some, Int.toNat_natCast]
  rw [getBufferFilled_of_nonneg h hin (by omega) fun dest hd => by
    obtain rfl := Option.some.inj hd
    rw [List.length_map, List.length_range]]
  simp only [ok_bind, Option.map_some, hall, overwrite, hnothing, List.append_nil]

/-- **So does the whole name**, with its NUL. -/
theorem readName_eq (fill : ℕ → UInt8) (h : HoldsName s f) :
    readName fill s = .ok (some (f.content.chars ++ [0])) := by
  have hall : f.content.truncate ((f.content.strlen : ℤ) + 1 - 1).toNat = f.content :=
    CString.truncate_of_le (by omega)
  have hlen : (f.content.chars ++ [0]).length = f.content.strlen + 1 := by
    rw [List.length_append, List.length_singleton, CString.strlen]
  have hsize : ((f.content.strlen : ℤ) + 1).toNat = f.content.strlen + 1 := by omega
  have hnothing : ((List.range (f.content.strlen + 1)).map fill).drop (f.content.strlen + 1) = [] :=
    List.drop_eq_nil_of_le (by rw [List.length_map, List.length_range])
  rw [readName, getFileSaveCompleted_eq h (by simp), ok_bind]
  simp only [Option.map_some, Option.getD_some, hsize]
  rw [getFileSaveCompleted_eq h fun dest hd => by
    obtain rfl := Option.some.inj hd
    rw [List.length_map, List.length_range, Nat.cast_add, Nat.cast_one]]
  have hpos : ¬ ((f.content.strlen : ℤ) + 1 ≤ 0) := by omega
  simp only [ok_bind, Option.map_some, if_neg hpos, hall, overwrite, hlen, hnothing,
    List.append_nil]

section RoundTrip

variable {σ : Type} (K : Kernel) (L : SaveAsLib σ) (debug : Bool) (nameSize : ℕ)

/-- **What is recorded comes back whole**: data that fit the recorder, and
a name that fits it, taken in by an armed recorder and read by a client
that has asked for the size. -/
def RoundTrips : Prop :=
  (∀ (allow : Bool) (flags : UInt32) (saveas : ObjectId) (buffer : List UInt8) (bytesWritten : ℤ)
      (s : SaveAs) (env : σ) (fill : ℕ → UInt8),
    s.interceptSaveasBufferFilled = true → 0 ≤ bytesWritten →
    bytesWritten.toNat ≤ bufferFilledSize → bytesWritten.toNat ≤ buffer.length →
    ∃ s', pseudoSaveasBufferFilled K L debug allow flags saveas buffer bytesWritten s env =
        .ok (none, s', env) ∧ readData fill s' = .ok (some (buffer.take bytesWritten.toNat))) ∧
  (∀ (allow : Bool) (flags : UInt32) (saveas : ObjectId) (filename : CString) (s : SaveAs)
      (env : σ) (fill : ℕ → UInt8),
    s.interceptFileSaveCompleted = true → filename.strlen < nameSize →
    ∃ s', pseudoSaveasFileSaveCompleted K L nameSize allow flags saveas filename s env =
        (none, s', env) ∧ readName fill s' = .ok (some (filename.chars ++ [0])))

theorem roundTrips : RoundTrips K L debug nameSize := by
  constructor
  · intro allow flags saveas buffer bytesWritten s env fill harmed h0 hfits hlen
    obtain ⟨s', he, hholds, -, -⟩ :=
      bufferFilled_armed K L debug allow flags saveas env harmed h0 hfits hlen
    exact ⟨s', he, readData_eq fill hholds⟩
  · intro allow flags saveas filename s env fill harmed hfits
    obtain ⟨s', he, hholds, -, -⟩ :=
      fileSaveCompleted_armed K L allow flags saveas env harmed hfits
    exact ⟨s', he, readName_eq fill hholds⟩

/-- **Reading back is bounded and exact** exactly where the buffer is null
or its size is not negative; and what was recorded whole can always be
read whole. -/
theorem saveas_reads_back_iff (flags : Option UInt32) (buffer : Option (List UInt8))
    (nbytes : Option ℤ) (h : Holds s c) (hf : HoldsName s f) (hin : InInt buffSize)
    (hdest : ∀ dest, buffer = some dest → buffSize ≤ dest.length) :
    (ReadsBack s c f flags buffer buffSize nbytes ↔ buffer = none ∨ 0 ≤ buffSize) ∧
      RoundTrips K L debug nameSize := by
  refine ⟨⟨fun hr => ?_, fun hcond => ⟨?_, ?_, length_terminated⟩⟩, roundTrips K L debug nameSize⟩
  · by_contra hcond
    obtain ⟨hsome, hneg⟩ := not_or.mp hcond
    obtain ⟨dest, rfl⟩ := Option.ne_none_iff_exists'.mp hsome
    have hdata := hr.data
    rw [getBufferFilled_of_neg flags dest nbytes h hin (not_le.mp hneg)] at hdata
    cases hdata
  · rcases hcond with rfl | h0
    · exact getBufferFilled_null h
    · exact getBufferFilled_of_nonneg h hin h0 hdest
  · exact getFileSaveCompleted_eq hf hdest

end RoundTrip

/-- A SaveAs module that does nothing. -/
def SaveAsLib.idle : SaveAsLib Unit where
  saveasBufferFilled := fun _ _ _ _ _ => (none, ())
  saveasFileSaveCompleted := fun _ _ _ _ => (none, ())

/-- Recorders that hold three bytes, and no name. -/
def threeRecorded : SaveAs :=
  { SaveAs.initial with bufferFilledBuffer := fun _ => 7, bufferFilledBytesWritten := 3 }

theorem threeRecorded_holds : Holds threeRecorded ⟨0, nullObjectId, [7, 7, 7]⟩ :=
  ⟨rfl, rfl, rfl, by decide, rfl⟩

theorem threeRecorded_holdsName : HoldsName threeRecorded ⟨0, nullObjectId, .empty⟩ :=
  ⟨rfl, rfl, rfl⟩

/-- Two of them are read into a buffer of two. -/
theorem saveas_reads_back_iff_two :
    ReadsBack threeRecorded ⟨0, nullObjectId, [7, 7, 7]⟩ ⟨0, nullObjectId, .empty⟩ none
      (some [1, 1]) 2 none ∧ RoundTrips .plain SaveAsLib.idle true 12 := by
  obtain ⟨hiff, htrips⟩ := saveas_reads_back_iff .plain SaveAsLib.idle true 12 none (some [1, 1])
    none threeRecorded_holds threeRecorded_holdsName
    (show InInt 2 by decide) (by rintro _ ⟨⟩; decide)
  exact ⟨hiff.mpr (by decide), htrips⟩

/-- **A size of -1 copies out of bounds.** -/
theorem saveas_reads_back_negative :
    pseudoSaveasGetBufferFilled none (some [1, 1]) (-1) none threeRecorded =
      .error .outOfBounds ∧
    ¬ ReadsBack threeRecorded ⟨0, nullObjectId, [7, 7, 7]⟩ ⟨0, nullObjectId, .empty⟩ none
      (some [1, 1]) (-1) none := by
  have hfault := getBufferFilled_of_neg none [1, 1] none threeRecorded_holds
    (show InInt (-1) by decide) (by decide)
  refine ⟨hfault, fun hr => ?_⟩
  have hdata := hr.data
  rw [hfault] at hdata
  cases hdata

end Tbox

end CBPseudo
