import Mathlib.Logic.Function.Basic
import Mathlib.Data.Int.Notation

/-!
# Types of the desktop

What the veneers use of the headers of the Wimp and Toolbox libraries:
object ids, event codes, and the block an event or a message is passed
in, a union of 64 words which both libraries put a header at the front
of.
-/

namespace CBPseudo

/-- The id of a Toolbox object. -/
abbrev ObjectId := UInt32

/-- The id that names no object. -/
def nullObjectId : ObjectId := 0

/-! ## Event codes -/

/-- `Wimp_ENull`. -/
def wimpENull : ℤ := 0

/-- `Wimp_EUserMessage`. -/
def wimpEUserMessage : ℤ := 17

/-- `Wimp_EUserMessageRecorded`. -/
def wimpEUserMessageRecorded : ℤ := 18

/-- `Wimp_EUserMessageAcknowledge`. -/
def wimpEUserMessageAcknowledge : ℤ := 19

/-- `Wimp_EToolboxEvent`. -/
def wimpEToolboxEvent : ℤ := 0x200

/-- `Toolbox_ObjectAutoCreated`. -/
def toolboxObjectAutoCreated : ℤ := 0x44EC1

/-- `Toolbox_ObjectDeleted`. -/
def toolboxObjectDeleted : ℤ := 0x44EC3

/-- `Wimp_Poll_NullMask`. -/
def wimpPollNullMask : UInt32 := 1

/-! ## Poll blocks -/

/-- **A poll block.** -/
structure WimpPollBlock where
  words : Fin 64 → ℤ

namespace WimpPollBlock

/-- Write one word. -/
def setWord (i : Fin 64) (v : ℤ) (b : WimpPollBlock) : WimpPollBlock :=
  ⟨Function.update b.words i v⟩

variable {i j : Fin 64} {v : ℤ} {b : WimpPollBlock}

@[simp] theorem words_setWord_self : (b.setWord i v).words i = v := by
  show Function.update b.words i v i = v
  rw [Function.update_self]

theorem words_setWord_of_ne (h : j ≠ i) : (b.setWord i v).words j = b.words j := by
  show Function.update b.words i v j = b.words j
  rw [Function.update_of_ne h]

/-- `size`, in the header of a message. -/
def sizeWord : Fin 64 := 0

/-- `sender`, in the header of a message. -/
def senderWord : Fin 64 := 1

/-- `my_ref`, in the header of a message. -/
def myRefWord : Fin 64 := 2

/-- `action_code`, in the header of a message. -/
def actionCodeWord : Fin 64 := 4

/-- `event_code`, in the header of a Toolbox event. -/
def eventCodeWord : Fin 64 := 2

end WimpPollBlock

end CBPseudo
