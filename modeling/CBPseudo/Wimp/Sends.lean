import CBPseudo.Common.Table
import CBPseudo.Wimp.Model.Messages

/-!
# One call of the message trap

What a call of `pseudo_wimp_send_message` does, in the three cases: an
error is injected, the trap is not enabled, or the message is trapped.
Where a message is trapped, `stamped` is the block that is recorded and
`State.counted` the state it is recorded in.
-/

namespace CBPseudo

open Common

namespace Wimp

/-- **The block of a trapped message**: a user message has its sender and
its reference filled in. -/
def stamped (task myRef code : ℤ) (block : WimpPollBlock) : WimpPollBlock :=
  if IsUserMessage code then
    (block.setWord WimpPollBlock.senderWord task).setWord WimpPollBlock.myRefWord myRef
  else block

/-- The references so far, after a trapped message. -/
def State.counted (s : State) (code : ℤ) : State :=
  if IsUserMessage code then { s with myRef := s.myRef + 1 } else s

section Stamped

variable {task myRef code : ℤ} {block : WimpPollBlock}

theorem stamped_of_not (h : ¬ IsUserMessage code) : stamped task myRef code block = block :=
  if_neg h

theorem stamped_sender (h : IsUserMessage code) :
    (stamped task myRef code block).words WimpPollBlock.senderWord = task := by
  have hne : WimpPollBlock.senderWord ≠ WimpPollBlock.myRefWord := by decide
  rw [stamped, if_pos h, WimpPollBlock.words_setWord_of_ne hne, WimpPollBlock.words_setWord_self]

theorem stamped_myRef (h : IsUserMessage code) :
    (stamped task myRef code block).words WimpPollBlock.myRefWord = myRef := by
  rw [stamped, if_pos h, WimpPollBlock.words_setWord_self]

/-- No other word is filled in. -/
theorem stamped_other {i : Fin 64} (hsender : i ≠ WimpPollBlock.senderWord)
    (href : i ≠ WimpPollBlock.myRefWord) :
    (stamped task myRef code block).words i = block.words i := by
  unfold stamped
  split
  · rw [WimpPollBlock.words_setWord_of_ne href, WimpPollBlock.words_setWord_of_ne hsender]
  · rfl

end Stamped

/-! ## The table -/

variable {s s' : State} {m : Msg} {code : ℤ}

/-- The messages recorded, in order. -/
def State.log (s : State) : List Msg := firstEntries s.msgs s.msgCount

@[simp] theorem State.counted_capture : (s.counted code).capture = s.capture := by
  unfold State.counted
  split <;> rfl

@[simp] theorem State.counted_log : (s.counted code).log = s.log := by
  unfold State.counted
  split <;> rfl

theorem State.counted_myRef :
    (s.counted code).myRef = if IsUserMessage code then s.myRef + 1 else s.myRef := by
  unfold State.counted
  split <;> rfl

theorem State.length_log : s.log.length = s.msgCount := length_firstEntries s.fits

@[simp] theorem recordMessage_capture : (recordMessage m s).capture = s.capture := by
  unfold recordMessage
  split <;> rfl

@[simp] theorem recordMessage_myRef : (recordMessage m s).myRef = s.myRef := by
  unfold recordMessage
  split <;> rfl

/-- **A message is added to the log**, and cut off if it does not fit. -/
theorem log_recordMessage : (recordMessage m s).log = (s.log ++ [m]).take msgsSize := by
  have hlen := s.length_log
  unfold recordMessage
  split
  · next h =>
    rw [List.take_of_length_le (by rw [List.length_append, hlen]; exact h)]
    exact firstEntries_store h
  · next h =>
    have hfull : s.log.length = msgsSize := by
      have := s.fits
      omega
    rw [List.take_append_of_le_length hfull.ge, List.take_of_length_le hfull.le]

/-! ## Reading -/

/-- **What is read is what is recorded.** -/
theorem getMessage_of_log {i : ℕ} (debug : Bool) (h : s.log[i]? = some m) :
    pseudoWimpGetMessage debug i s = .ok m.block := by
  have hi : i < s.msgCount := by
    rw [← s.length_log]
    exact (List.getElem?_eq_some_iff.mp h).1
  have hsize : i < msgsSize := lt_of_lt_of_le hi s.fits
  have hm : s.msgs ⟨i, hsize⟩ = m :=
    Option.some.inj ((getElem?_firstEntries hi hsize).symm.trans h)
  rw [pseudoWimpGetMessage, cassert_of hi, ok_bind, dif_pos hsize, hm]

/-- The reply to a reader who passed pointers to some variables. -/
def Msg.reply (m : Msg) (out : Message2) : Message2 where
  code := out.code.map fun _ => m.code
  block := out.block.map fun _ => m.block
  handle := out.handle.map fun _ => m.handle
  icon := out.icon.map fun _ => m.icon

theorem getMessage2_of_log {i : ℕ} (debug : Bool) (out : Message2) (h : s.log[i]? = some m) :
    pseudoWimpGetMessage2 debug i out s = .ok (m.reply out) := by
  have hi : i < s.msgCount := by
    rw [← s.length_log]
    exact (List.getElem?_eq_some_iff.mp h).1
  have hsize : i < msgsSize := lt_of_lt_of_le hi s.fits
  have hm : s.msgs ⟨i, hsize⟩ = m :=
    Option.some.inj ((getElem?_firstEntries hi hsize).symm.trans h)
  rw [pseudoWimpGetMessage2, cassert_of hi, ok_bind, dif_pos hsize, hm]
  rfl

/-! ## Sending -/

section Sending

variable {σ : Type} {K : Kernel} {L : MessageLib σ} {debug : Bool} {block : WimpPollBlock}
variable {handle icon : ℤ} {th : Option ℤ} {env env' : σ}

/-- The task handle that the Wimp returns. -/
def MessageLib.taskHandle (L : MessageLib σ) (env : σ) : ℤ :=
  (L.wimpReadSysInfo taskHandleAndVersion env).1.2

/-- **What the trap asserts of the Wimp**: it returns the task handle, and
takes the message that finds another's. -/
structure MessageLib.Succeeds (L : MessageLib σ) : Prop where
  sysInfo : ∀ env, (L.wimpReadSysInfo taskHandleAndVersion env).1.1 = none
  query : ∀ handle icon th env,
    (L.wimpSendMessage wimpEUserMessageAcknowledge query handle icon th env).1.error = none

/-- A Wimp that takes every message, for a task with handle 42. -/
def MessageLib.plain : MessageLib Unit where
  wimpReadSysInfo := fun _ env => ((none, 42), env)
  wimpSendMessage := fun _ block _ _ th env => (⟨none, block, th⟩, env)

theorem MessageLib.plain_succeeds : MessageLib.plain.Succeeds := ⟨fun _ => rfl, fun _ _ _ _ => rfl⟩

/-- The header is filled in, or the program ends. -/
theorem fillInHeader_cases {e : Option KernelOserror} {b : WimpPollBlock}
    (h : fillInHeader L debug code block s env = .ok (e, b, s', env')) :
    b = stamped (L.taskHandle env) (s.myRef + 1) code block ∧ s' = s.counted code ∧
      (IsUserMessage code → InInt (s.myRef + 1)) ∧
      (debug = true ∨ L.Succeeds → e = none) := by
  unfold fillInHeader at h
  split at h
  · next huser =>
    obtain ⟨_, hassert, h⟩ := bind_eq_ok.mp h
    obtain ⟨myRef, href, h⟩ := bind_eq_ok.mp h
    -- the count of references has not overflowed
    obtain ⟨hint, rfl⟩ := toInt_eq_ok.mp href
    simp only [Except.ok.injEq, Prod.mk.injEq] at h
    obtain ⟨rfl, rfl, rfl, -⟩ := h
    refine ⟨?_, ?_, fun _ => hint, ?_⟩
    · rw [stamped, if_pos huser]
      rfl
    · rw [State.counted, if_pos huser]
    · rintro (hdebug | hL)
      · exact cassert_eq_ok.mp hassert hdebug
      · exact hL.sysInfo env
  · next huser =>
    simp only [Except.ok.injEq, Prod.mk.injEq] at h
    obtain ⟨rfl, rfl, rfl, -⟩ := h
    refine ⟨(stamped_of_not huser).symm, ?_, fun hu => absurd hu huser, fun _ => rfl⟩
    rw [State.counted, if_neg huser]

/-- Finding a task handle makes no error. -/
theorem findTaskHandle_cases {e e' : Option KernelOserror} {th' : Option ℤ}
    (hL : debug = true ∨ L.Succeeds) (he : e = none)
    (h : findTaskHandle L debug e handle icon th env = .ok (e', th', env')) : e' = none := by
  unfold findTaskHandle at h
  split at h
  · obtain ⟨_, hassert, h⟩ := bind_eq_ok.mp h
    simp only [Except.ok.injEq, Prod.mk.injEq] at h
    obtain ⟨rfl, -⟩ := h
    rcases hL with hdebug | hL
    · exact cassert_eq_ok.mp hassert hdebug
    · exact hL.query ..
  · simp only [Except.ok.injEq, Prod.mk.injEq] at h
    exact h.1.symm.trans he

/-- **An injected error** is all that happens. -/
theorem send_refused (K : Kernel) (L : MessageLib σ) (debug : Bool) (code : ℤ)
    (block : WimpPollBlock) (handle icon : ℤ) (th : Option ℤ) (s : State) (env : σ) :
    pseudoWimpSendMessage K L debug false code block handle icon th s env =
      .ok (⟨some (oom K), block, th⟩, s, env) := rfl

/-- **A message is forwarded** while the trap is not enabled. -/
theorem send_forwarded (K : Kernel) (L : MessageLib σ) (debug : Bool) (code : ℤ)
    (block : WimpPollBlock) (handle icon : ℤ) (th : Option ℤ) (env : σ) (h : s.capture = false) :
    pseudoWimpSendMessage K L debug true code block handle icon th s env =
      .ok ((L.wimpSendMessage code block handle icon th env).1, s,
        (L.wimpSendMessage code block handle icon th env).2) := by
  rw [pseudoWimpSendMessage, pseudokernFail_true]
  simp only [h, Bool.false_eq_true, if_false]

/-- **What becomes of a trapped message**: its block is stamped and
recorded. -/
theorem send_trapped_cases {r : Sent} (hcapture : s.capture = true)
    (h : pseudoWimpSendMessage K L debug true code block handle icon th s env =
      .ok (r, s', env')) :
    r.block = stamped (L.taskHandle env) (s.myRef + 1) code block ∧
      s' = recordMessage ⟨code, r.block, handle, icon⟩ (s.counted code) ∧
      (IsUserMessage code → InInt (s.myRef + 1)) ∧
      (debug = true ∨ L.Succeeds → r.error = none) := by
  rw [pseudoWimpSendMessage, pseudokernFail_true] at h
  simp only [hcapture, if_true] at h
  obtain ⟨⟨e, b, s₁, env₁⟩, hfill, h⟩ := bind_eq_ok.mp h
  obtain ⟨⟨e', th', env₂⟩, hfind, h⟩ := bind_eq_ok.mp h
  simp only [Except.ok.injEq, Prod.mk.injEq] at h
  obtain ⟨rfl, rfl, rfl⟩ := h
  obtain ⟨hb, hs, hint, he⟩ := fillInHeader_cases hfill
  refine ⟨hb, by rw [hs], hint, fun hL => ?_⟩
  exact findTaskHandle_cases hL (he hL) hfind

/-- A message is trapped without a fault, as long as there are references
left. -/
theorem exists_send (hL : L.Succeeds) (debug allow : Bool) (code : ℤ) (block : WimpPollBlock)
    (handle icon : ℤ) (th : Option ℤ) (env : σ)
    (href : allow = true → s.capture = true → IsUserMessage code → InInt (s.myRef + 1)) :
    ∃ r s' env', pseudoWimpSendMessage K L debug allow code block handle icon th s env =
      .ok (r, s', env') := by
  cases allow with
  | false => exact ⟨_, _, _, rfl⟩
  | true =>
    cases hcapture : s.capture with
    | false => exact ⟨_, _, _, send_forwarded K L debug code block handle icon th env hcapture⟩
    | true =>
      have hfill : ∃ e b s₁ env₁,
          fillInHeader L debug code block s env = .ok (e, b, s₁, env₁) := by
        unfold fillInHeader
        split
        · next huser =>
          -- the assertion holds of such a Wimp, and the reference fits
          simp only [cassert_of (hL.sysInfo env), toInt_of (href rfl hcapture huser), ok_bind]
          exact ⟨_, _, _, _, rfl⟩
        · exact ⟨_, _, _, _, rfl⟩
      obtain ⟨e, b, s₁, env₁, hfill⟩ := hfill
      have hfind : ∃ e' th' env₂,
          findTaskHandle L debug e handle icon th env₁ = .ok (e', th', env₂) := by
        unfold findTaskHandle
        split
        · simp only [cassert_of (hL.query handle icon th env₁), ok_bind]
          exact ⟨_, _, _, rfl⟩
        · exact ⟨_, _, _, rfl⟩
      obtain ⟨e', th', env₂, hfind⟩ := hfind
      refine ⟨⟨e', b, th'⟩, recordMessage ⟨code, b, handle, icon⟩ s₁, env₂, ?_⟩
      rw [pseudoWimpSendMessage, pseudokernFail_true]
      simp only [hcapture, if_true, hfill, hfind, ok_bind]

end Sending

end Wimp

end CBPseudo
