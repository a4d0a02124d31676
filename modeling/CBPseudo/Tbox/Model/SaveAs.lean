import CBPseudo.Common.CString
import CBPseudo.Common.Machine
import CBPseudo.Kern.Desktop
import CBPseudo.Kern.Fail

/-!
# SaveAs recorders — the code

The part of `PseudoTbox.c` that records what is passed to
`saveas_buffer_filled` and `saveas_file_save_completed`, for a unit test
to read back. A recorder that has been armed by a reset takes a call in
and answers for the library; one that is not armed passes it on.

The size of the array for the file name comes from the Toolbox's own
header and is a parameter, `nameSize`. Two macros are those of a utility
library that is not in the repository, and are taken to do what they are
documented to: `LOWEST` is the lesser of two numbers, and `STRCPY_SAFE`
copies what fits an array and ends it with a NUL (`CString.strcpySafe`).
-/

namespace CBPseudo

open Common

namespace Tbox

/-- The size of the array for the data passed to `saveas_buffer_filled`. -/
def bufferFilledSize : ℕ := 128 <<< 10

/-- **The recorders**: the static variables of the two. -/
structure SaveAs where
  bufferFilledFlags : UInt32
  bufferFilledId : ObjectId
  bufferFilledBuffer : ℕ → UInt8
  bufferFilledBytesWritten : ℤ
  interceptSaveasBufferFilled : Bool
  fileSaveCompletedFlags : UInt32
  fileSaveCompletedId : ObjectId
  fileSaveCompletedFilename : CString
  interceptFileSaveCompleted : Bool

/-- At start-up nothing is recorded, and neither recorder is armed. -/
def SaveAs.initial : SaveAs where
  bufferFilledFlags := 0
  bufferFilledId := nullObjectId
  bufferFilledBuffer := fun _ => 0
  bufferFilledBytesWritten := 0
  interceptSaveasBufferFilled := false
  fileSaveCompletedFlags := 0
  fileSaveCompletedId := nullObjectId
  fileSaveCompletedFilename := .empty
  interceptFileSaveCompleted := false

/-- The two functions of the Toolbox's own that the recorders stand in
for. -/
structure SaveAsLib (σ : Type) where
  saveasBufferFilled : UInt32 → ObjectId → List UInt8 → ℤ → σ → Option KernelOserror × σ
  saveasFileSaveCompleted : UInt32 → ObjectId → CString → σ → Option KernelOserror × σ

/-- What a query answers: the id it returns, and what it leaves in the
caller's variables, those that the caller passed a pointer to. -/
structure SaveAsReply where
  id : ObjectId
  flags : Option UInt32
  buffer : Option (List UInt8)
  nbytes : Option ℤ
  deriving DecidableEq

/-- Reset the first recorder, and arm it. -/
def pseudoSaveasResetBufferFilled (s : SaveAs) : SaveAs :=
  { s with bufferFilledFlags := 0, bufferFilledId := nullObjectId,
           bufferFilledBuffer := fun _ => 0, bufferFilledBytesWritten := 0,
           interceptSaveasBufferFilled := true }

/-- Read the first recorder. -/
def pseudoSaveasGetBufferFilled (flags : Option UInt32) (buffer : Option (List UInt8))
    (buffSize : ℤ) (nbytes : Option ℤ) (s : SaveAs) : Except Fault SaveAsReply := do
  let n := toSizeT (min buffSize s.bufferFilledBytesWritten)
  let buffer ← match buffer with
    | none => .ok none
    | some dest =>
      if n ≤ bufferFilledSize ∧ n ≤ dest.length then
        .ok (some ((List.range n).map s.bufferFilledBuffer ++ dest.drop n))
      else .error .outOfBounds
  .ok { id := s.bufferFilledId, flags := flags.map fun _ => s.bufferFilledFlags,
        buffer := buffer, nbytes := nbytes.map fun _ => s.bufferFilledBytesWritten }

/-- Reset the second recorder, and arm it. -/
def pseudoSaveasResetFileSaveCompleted (s : SaveAs) : SaveAs :=
  { s with fileSaveCompletedFlags := 0, fileSaveCompletedId := nullObjectId,
           fileSaveCompletedFilename := .empty, interceptFileSaveCompleted := true }

/-- Read the second recorder. -/
def pseudoSaveasGetFileSaveCompleted (flags : Option UInt32) (buffer : Option (List UInt8))
    (buffSize : ℤ) (nbytes : Option ℤ) (s : SaveAs) : Except Fault SaveAsReply := do
  let buffer ← match buffer with
    | none => .ok none
    | some dest =>
      if buffSize > 0 then
        let written := (s.fileSaveCompletedFilename.truncate (buffSize - 1).toNat).chars ++ [0]
        if written.length ≤ dest.length then .ok (some (written ++ dest.drop written.length))
        else .error .outOfBounds
      else .ok (some dest)
  .ok { id := s.fileSaveCompletedId, flags := flags.map fun _ => s.fileSaveCompletedFlags,
        buffer := buffer, nbytes := nbytes.map fun _ => s.fileSaveCompletedFilename.strlen + 1 }

section Calls

variable {σ : Type} (K : Kernel) (L : SaveAsLib σ)

/-- Record data, or pass it on. -/
def pseudoSaveasBufferFilled (debug allow : Bool) (flags : UInt32) (saveas : ObjectId)
    (buffer : List UInt8) (bytesWritten : ℤ) (s : SaveAs) (env : σ) :
    Except Fault (Option KernelOserror × SaveAs × σ) :=
  if s.interceptSaveasBufferFilled then do
    cassert debug (bytesWritten ≥ 0)
    cassert debug (toSizeT bytesWritten ≤ bufferFilledSize)
    let n := toSizeT bytesWritten
    if n ≤ bufferFilledSize ∧ n ≤ buffer.length then
      .ok (none, { s with
        bufferFilledFlags := flags
        bufferFilledBuffer := fun i => if i < n then buffer.getD i 0 else s.bufferFilledBuffer i
        bufferFilledBytesWritten := bytesWritten
        bufferFilledId := saveas
        interceptSaveasBufferFilled := false }, env)
    else .error .outOfBounds
  else
    match pseudokernFail K allow with
    | some e => .ok (some e, s, env)
    | none =>
      let (e, env) := L.saveasBufferFilled flags saveas buffer bytesWritten env
      .ok (e, s, env)

/-- Record a file name, or pass it on. -/
def pseudoSaveasFileSaveCompleted (nameSize : ℕ) (allow : Bool) (flags : UInt32)
    (saveas : ObjectId) (filename : CString) (s : SaveAs) (env : σ) :
    Option KernelOserror × SaveAs × σ :=
  if s.interceptFileSaveCompleted then
    (none, { s with
      fileSaveCompletedFlags := flags
      fileSaveCompletedId := saveas
      fileSaveCompletedFilename := filename.strcpySafe nameSize
      interceptFileSaveCompleted := false }, env)
  else
    match pseudokernFail K allow with
    | some e => (some e, s, env)
    | none =>
      let (e, env) := L.saveasFileSaveCompleted flags saveas filename env
      (e, s, env)

end Calls

end Tbox

end CBPseudo
