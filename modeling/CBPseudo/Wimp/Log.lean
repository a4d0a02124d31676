import CBPseudo.Common.Run
import CBPseudo.Common.SinceReset
import CBPseudo.Wimp.Sends

/-!
# The message trap as a log

A run of resets and sends is read as a history: the sends that no error
was injected into, and the resets between them. The trap's table holds
the first 32 of the sends since the last reset (`trap_log_faithful`), so
that the count a test reads stops there (`message_count_eq_min`).
-/

namespace CBPseudo

open Common

namespace Wimp

/-! ## Runs -/

/-- The arguments of a send, and the error injection's answer. -/
structure Sending where
  allow : Bool
  code : ℤ
  block : WimpPollBlock
  handle : ℤ
  icon : ℤ
  th : Option ℤ

/-- A call: `pseudo_wimp_reset` or `pseudo_wimp_send_message`. -/
inductive Op
  | reset
  | send (x : Sending)

/-- **A call that was made**: a send with what it answered. -/
inductive Call
  | reset
  | send (x : Sending) (r : Sent)

/-- The call without its answer. -/
def Call.op : Call → Op
  | .reset => .reset
  | .send x _ => .send x

/-- The entry that a send is to make in the log. -/
def Sending.msg (x : Sending) (r : Sent) : Msg := ⟨x.code, r.block, x.handle, x.icon⟩

section System

variable {σ : Type} (K : Kernel) (L : MessageLib σ) (debug : Bool)

/-- A send. -/
def Sending.exec (x : Sending) (s : State) (env : σ) : Except Fault (Sent × State × σ) :=
  pseudoWimpSendMessage K L debug x.allow x.code x.block x.handle x.icon x.th s env

/-- A step: a reset, or a send that returns. -/
def Step (t : State × σ) : Call → State × σ → Prop
  | .reset, t' => t' = (pseudoWimpReset t.1, t.2)
  | .send x r, t' => x.exec K L debug t.1 t.2 = .ok (r, t')

end System

/-! ## Histories -/

/-- A reset, or a send that no error was injected into. -/
def Call.letThrough : Call → Option (Option (Sending × Sent))
  | .reset => some none
  | .send x r => if x.allow then some (some (x, r)) else none

/-- The same of a call without its answer. -/
def Op.letThrough : Op → Option (Option Sending)
  | .reset => some none
  | .send x => if x.allow then some (some x) else none

/-- The history of a run. -/
def history (calls : List Call) : List (Option (Sending × Sent)) :=
  calls.filterMap Call.letThrough

/-- The user messages trapped since the first reset. -/
def userMessages (ops : List Op) : List Sending :=
  (afterReset (ops.filterMap Op.letThrough)).filter fun x => IsUserMessage x.code

/-- **The references assigned so far**, in order. -/
def assignedRefs (calls : List Call) : List ℤ :=
  ((afterReset (history calls)).filter fun c => IsUserMessage c.1.code).map fun c =>
    c.2.block.words WimpPollBlock.myRefWord

/-- The log that the calls so far are to leave. -/
def expected (calls : List Call) : List Msg :=
  ((sinceReset (history calls)).getD []).map fun c => c.1.msg c.2

section Histories

variable {calls : List Call} {x : Sending} {r : Sent}

theorem history_reset : history (calls ++ [.reset]) = history calls ++ [none] := by
  rw [history, List.filterMap_append]
  rfl

theorem history_refused (h : x.allow = false) :
    history (calls ++ [.send x r]) = history calls := by
  rw [history, List.filterMap_append]
  simp [Call.letThrough, h, history]

theorem history_sent (h : x.allow = true) :
    history (calls ++ [.send x r]) = history calls ++ [some (x, r)] := by
  rw [history, List.filterMap_append]
  simp [Call.letThrough, h, history]

/-- A reset is one of the calls if and only if the history has one. -/
theorem none_mem_history : none ∈ history calls ↔ Call.reset ∈ calls := by
  rw [history, List.mem_filterMap]
  constructor
  · rintro ⟨c, hc, hnone⟩
    cases c with
    | reset => exact hc
    | send x r =>
      rw [Call.letThrough] at hnone
      split at hnone <;> simp at hnone
  · intro h
    exact ⟨.reset, h, rfl⟩

theorem assignedRefs_reset : assignedRefs (calls ++ [.reset]) = assignedRefs calls := by
  rw [assignedRefs, history_reset, afterReset_reset, assignedRefs]

theorem assignedRefs_refused (h : x.allow = false) :
    assignedRefs (calls ++ [.send x r]) = assignedRefs calls := by
  rw [assignedRefs, history_refused h, assignedRefs]

theorem assignedRefs_forwarded (h : x.allow = true) (hreset : none ∉ history calls) :
    assignedRefs (calls ++ [.send x r]) = assignedRefs calls := by
  rw [assignedRefs, history_sent h, afterReset_entry_of_notMem hreset, assignedRefs,
    afterReset_eq_nil hreset]

theorem assignedRefs_trapped (h : x.allow = true) (hreset : none ∈ history calls) :
    assignedRefs (calls ++ [.send x r]) = assignedRefs calls ++
      if IsUserMessage x.code then [r.block.words WimpPollBlock.myRefWord] else [] := by
  rw [assignedRefs, history_sent h, afterReset_entry hreset, List.filter_append, List.map_append,
    assignedRefs]
  split
  · next huser => simp [huser]
  · next huser => simp [huser]

/-- The history of the calls without their answers. -/
theorem history_op : (calls.map Call.op).filterMap Op.letThrough =
    (history calls).map (Option.map Prod.fst) := by
  rw [history, List.filterMap_map, List.map_filterMap]
  refine List.filterMap_congr fun c _ => ?_
  cases c with
  | reset => rfl
  | send x r =>
    show (if x.allow then _ else _) = Option.map _ (if x.allow then _ else _)
    cases x.allow <;> rfl

/-- There are as many references as user messages trapped. -/
theorem length_assignedRefs (calls : List Call) : (assignedRefs calls).length =
    (userMessages (calls.map Call.op)).length := by
  rw [assignedRefs, userMessages, history_op, afterReset_map, List.filter_map, List.length_map,
    List.length_map]
  rfl

end Histories

/-! ## What the trap holds -/

/-- **The trap after a run**: it is enabled once there has been a reset, it
holds the first of the messages expected, and its last reference is the
number of references assigned. -/
structure Traps (calls : List Call) (s : State) : Prop where
  capture : s.capture = true ↔ none ∈ history calls
  log : s.log = (expected calls).take msgsSize
  myRef : s.myRef = (assignedRefs calls).length
  le : ∀ ref ∈ assignedRefs calls, ref ≤ s.myRef

/-- **What is documented of a send**, after the calls `before`. -/
structure SendsAsDocumented {σ : Type} (K : Kernel) (L : MessageLib σ) (before : List Call)
    (x : Sending) (r : Sent) (t t' : State × σ) : Prop where
  /-- An injected error is all that happens. -/
  refused : x.allow = false → r = ⟨some (oom K), x.block, x.th⟩ ∧ t' = t
  /-- Before the first reset a message is sent, and not recorded. -/
  forwarded : x.allow = true → Call.reset ∉ before →
    L.wimpSendMessage x.code x.block x.handle x.icon x.th t.2 = (r, t'.2) ∧ t'.1 = t.1
  /-- After it a user message gets its sender and a new reference. -/
  userMessage : x.allow = true → Call.reset ∈ before → IsUserMessage x.code →
    (∀ i, i ≠ WimpPollBlock.senderWord → i ≠ WimpPollBlock.myRefWord →
      r.block.words i = x.block.words i) ∧
    r.block.words WimpPollBlock.senderWord = L.taskHandle t.2 ∧
    ∀ ref ∈ assignedRefs before, ref < r.block.words WimpPollBlock.myRefWord
  /-- And another message is left as it is. -/
  other : x.allow = true → Call.reset ∈ before → ¬ IsUserMessage x.code → r.block = x.block

theorem traps_initial : Traps [] .initial where
  capture := by simp [State.initial, history]
  log := rfl
  myRef := rfl
  le := fun _ h => by cases h

section Steps

variable {σ : Type} {K : Kernel} {L : MessageLib σ} {debug : Bool}
variable {calls before : List Call} {c : Call} {x : Sending} {r : Sent} {t t' : State × σ}

theorem Traps.reset (h : Traps calls t.1) (hs : Step K L debug t .reset t') :
    Traps (calls ++ [.reset]) t'.1 := by
  obtain rfl : t' = (pseudoWimpReset t.1, t.2) := hs
  refine ⟨?_, ?_, ?_, ?_⟩
  · rw [history_reset]
    simp [pseudoWimpReset]
  · rw [expected, history_reset, sinceReset_reset]
    rfl
  · rw [assignedRefs_reset]
    exact h.myRef
  · rw [assignedRefs_reset]
    exact h.le

/-- **What a send does**, in the three cases: it is refused, it is forwarded,
or it is trapped. -/
theorem send_cases (hs : Step K L debug t (.send x r) t') :
    (x.allow = false ∧ r = ⟨some (oom K), x.block, x.th⟩ ∧ t' = t) ∨
    (x.allow = true ∧ t.1.capture = false ∧ t'.1 = t.1 ∧
      L.wimpSendMessage x.code x.block x.handle x.icon x.th t.2 = (r, t'.2)) ∨
    (x.allow = true ∧ t.1.capture = true ∧
      t'.1 = recordMessage (x.msg r) (t.1.counted x.code) ∧
      r.block = stamped (L.taskHandle t.2) (t.1.myRef + 1) x.code x.block ∧
      (debug = true ∨ L.Succeeds → r.error = none)) := by
  obtain ⟨s, env⟩ := t
  obtain ⟨s', env'⟩ := t'
  have hexec : pseudoWimpSendMessage K L debug x.allow x.code x.block x.handle x.icon x.th s env =
    .ok (r, s', env') := hs
  cases hallow : x.allow with
  | false =>
    rw [hallow, send_refused] at hexec
    simp only [Except.ok.injEq, Prod.mk.injEq] at hexec
    obtain ⟨rfl, rfl, rfl⟩ := hexec
    exact Or.inl ⟨rfl, rfl, rfl⟩
  | true =>
    rw [hallow] at hexec
    cases hcapture : s.capture with
    | false =>
      rw [send_forwarded K L debug x.code x.block x.handle x.icon x.th env hcapture] at hexec
      simp only [Except.ok.injEq, Prod.mk.injEq] at hexec
      obtain ⟨rfl, rfl, rfl⟩ := hexec
      exact Or.inr (Or.inl ⟨rfl, rfl, rfl, rfl⟩)
    | true =>
      obtain ⟨hblock, hs', -, herror⟩ := send_trapped_cases hcapture hexec
      exact Or.inr (Or.inr ⟨rfl, rfl, hs', hblock, herror⟩)

/-- A trapped message is added to the log, if there is room, and to the
references, if it is a user message. -/
theorem Traps.trapped {s : State} (h : Traps calls s) (hallow : x.allow = true)
    (hcapture : s.capture = true) {task : ℤ}
    (hblock : r.block = stamped task (s.myRef + 1) x.code x.block) :
    Traps (calls ++ [.send x r]) (recordMessage (x.msg r) (s.counted x.code)) := by
  have hreset : none ∈ history calls := h.capture.mp hcapture
  -- the block recorded is the one the sender is left with
  have hexpected : expected (calls ++ [.send x r]) = expected calls ++ [x.msg r] := by
    obtain ⟨l, hl⟩ := Option.isSome_iff_exists.mp (sinceReset_isSome.mpr hreset)
    rw [expected, history_sent hallow, sinceReset_entry, expected, hl]
    simp
  refine ⟨?_, ?_, ?_, ?_⟩
  · rw [history_sent hallow, recordMessage_capture, State.counted_capture, hcapture]
    simp [hreset]
  · rw [log_recordMessage, State.counted_log, h.log, hexpected, take_take_append]
  · rw [recordMessage_myRef, State.counted_myRef, assignedRefs_trapped hallow hreset, h.myRef]
    split
    · rw [List.length_append, List.length_singleton, Nat.cast_add, Nat.cast_one]
    · rw [List.append_nil]
  · rw [recordMessage_myRef, State.counted_myRef, assignedRefs_trapped hallow hreset]
    intro ref href
    -- the counter has gone up for a user message, and stays for another
    rcases List.mem_append.mp href with hold | hnew
    · have := h.le ref hold
      split <;> omega
    · split at hnew
      · next huser =>
        rw [List.mem_singleton.mp hnew, hblock, stamped_myRef huser, if_pos huser]
      · simp at hnew

/-- **A send keeps what the trap holds.** -/
theorem Traps.send (h : Traps calls t.1) (hs : Step K L debug t (.send x r) t') :
    Traps (calls ++ [.send x r]) t'.1 := by
  rcases send_cases hs with ⟨hallow, -, rfl⟩ | ⟨hallow, hcapture, hs', -⟩ |
    ⟨hallow, hcapture, hs', hblock, -⟩
  · refine ⟨?_, ?_, ?_, ?_⟩
    · rw [history_refused hallow]
      exact h.capture
    · rw [expected, history_refused hallow]
      exact h.log
    · rw [assignedRefs_refused hallow]
      exact h.myRef
    · rw [assignedRefs_refused hallow]
      exact h.le
  · -- the trap is not enabled, so there has been no reset
    have hreset : none ∉ history calls := fun hmem => by
      rw [h.capture.mpr hmem] at hcapture
      cases hcapture
    have hnone : sinceReset (history calls) = none :=
      Option.not_isSome_iff_eq_none.mp (mt sinceReset_isSome.mp hreset)
    rw [hs']
    refine ⟨?_, ?_, ?_, ?_⟩
    · rw [history_sent hallow, hcapture]
      simp [hreset]
    · rw [h.log, expected, expected, history_sent hallow, sinceReset_entry, hnone]
      rfl
    · rw [assignedRefs_forwarded hallow hreset]
      exact h.myRef
    · rw [assignedRefs_forwarded hallow hreset]
      exact h.le
  · rw [hs']
    exact h.trapped hallow hcapture hblock

/-- **A send is as documented**, from what the trap holds before it. -/
theorem Traps.documented (h : Traps calls t.1) (hs : Step K L debug t (.send x r) t') :
    SendsAsDocumented K L calls x r t t' := by
  have hcap : t.1.capture = true ↔ Call.reset ∈ calls := h.capture.trans none_mem_history
  rcases send_cases hs with ⟨hallow, hr, rfl⟩ | ⟨hallow, hcapture, hs', hsent⟩ |
    ⟨hallow, hcapture, -, hblock, -⟩
  · have hnot : ¬ x.allow = true := by simp [hallow]
    exact ⟨fun _ => ⟨hr, rfl⟩, fun ha => absurd ha hnot, fun ha => absurd ha hnot,
      fun ha => absurd ha hnot⟩
  · have hreset : Call.reset ∉ calls := by
      rw [← hcap, hcapture]
      decide
    exact ⟨fun ha => absurd hallow (by simp [ha]), fun _ _ => ⟨hsent, hs'⟩,
      fun _ hr => absurd hr hreset, fun _ hr => absurd hr hreset⟩
  · refine ⟨fun ha => absurd hallow (by simp [ha]), fun _ hr => absurd (hcap.mp hcapture) hr,
      fun _ _ huser => ⟨fun i hi hi' => ?_, ?_, fun ref href => ?_⟩, fun _ _ huser => ?_⟩
    · rw [hblock, stamped_other hi hi']
    · rw [hblock, stamped_sender huser]
    · have := h.le ref href
      rw [hblock, stamped_myRef huser]
      omega
    · rw [hblock, stamped_of_not huser]

/-- Along a run the trap holds what it should. -/
theorem traps_of_run {env₀ : σ} (h : Run (Step K L debug) (.initial, env₀) calls t) :
    Traps calls t.1 := by
  refine h.history (I := fun (calls : List Call) (t : State × σ) => Traps calls t.1)
    traps_initial ?_
  rintro calls t (_ | ⟨x, r⟩) u ht hs
  · exact ht.reset hs
  · exact ht.send hs

/-- **What is read back** after a run: as many messages as were expected, or
as there is room for, each at its place. -/
structure ReadsBack (debug : Bool) (msgs : List Msg) (s : State) : Prop where
  count : pseudoWimpGetMessageCount s = min msgs.length msgsSize
  message2 : ∀ i m, i < msgsSize → msgs[i]? = some m → ∀ out,
    pseudoWimpGetMessage2 debug i out s = .ok (m.reply out)
  message : ∀ i m, i < msgsSize → msgs[i]? = some m → pseudoWimpGetMessage debug i s = .ok m.block

theorem Traps.readsBack {s : State} (h : Traps calls s) (debug : Bool) :
    ReadsBack debug (expected calls) s := by
  have hlog : ∀ i m, i < msgsSize → (expected calls)[i]? = some m → s.log[i]? = some m := by
    intro i m hi hm
    rw [h.log, List.getElem?_take_of_lt hi, hm]
  refine ⟨?_, fun i m hi hm out => getMessage2_of_log debug out (hlog i m hi hm),
    fun i m hi hm => getMessage_of_log debug (hlog i m hi hm)⟩
  rw [pseudoWimpGetMessageCount, ← s.length_log, h.log, List.length_take, Nat.min_comm]

/-! ## The log -/

/-- One user message more makes the references no fewer. -/
theorem length_userMessages_le (ops : List Op) (o : Op) :
    (userMessages ops).length ≤ (userMessages (ops ++ [o])).length := by
  rw [userMessages, userMessages, List.filterMap_append]
  exact ((afterReset_append _ _).filter _).length_le

/-- **A run of any calls**, as long as there are references for its user
messages. -/
theorem exists_run (K : Kernel) (hL : L.Succeeds) (debug : Bool) (env₀ : σ) (ops : List Op)
    (hfew : (userMessages ops).length < 2 ^ 31) :
    ∃ calls t, calls.map Call.op = ops ∧ Run (Step K L debug) (.initial, env₀) calls t := by
  induction ops using List.reverseRecOn with
  | nil => exact ⟨[], _, rfl, Run.nil⟩
  | append_singleton ops o ih =>
    obtain ⟨calls, t, hops, hrun⟩ := ih (lt_of_le_of_lt (length_userMessages_le ops o) hfew)
    cases o with
    | reset =>
      have hs : Step K L debug t .reset (pseudoWimpReset t.1, t.2) := rfl
      exact ⟨calls ++ [.reset], _, by simp [hops, Call.op], hrun.snoc hs⟩
    | send x =>
      have ht := traps_of_run hrun
      have href : x.allow = true → t.1.capture = true → IsUserMessage x.code →
          InInt (t.1.myRef + 1) := by
        intro hallow hcapture huser
        -- the references are counted by the user messages, this one among them
        have hlen := length_assignedRefs (calls ++ [.send x ⟨none, x.block, none⟩])
        rw [assignedRefs_trapped hallow (ht.capture.mp hcapture), if_pos huser, List.length_append,
          List.length_singleton, List.map_append, hops] at hlen
        have hmyRef := ht.myRef
        simp only [InInt, intMin, intMax]
        simp only [List.map_cons, List.map_nil, Call.op] at hlen
        omega
      obtain ⟨r, s', env', hsend⟩ :=
        exists_send (K := K) hL debug x.allow x.code x.block x.handle x.icon x.th t.2 href
      have hs : Step K L debug t (.send x r) (s', env') := hsend
      exact ⟨calls ++ [.send x r], (s', env'), by simp [hops, Call.op], hrun.snoc hs⟩

/-- **The message trap records a faithful, ordered log.** Over every run of
resets and sends with fewer than 2³¹ user messages trapped: none of it
faults; after it, and so after every step, the messages let through since
the last reset can be read back in order, the first 32 of them; and every
send is as documented. -/
theorem trap_log_faithful (K : Kernel) {L : MessageLib σ} (hL : L.Succeeds) (debug : Bool)
    (env₀ : σ) (ops : List Op) (hfew : (userMessages ops).length < 2 ^ 31) :
    (∃ calls t, calls.map Call.op = ops ∧ Run (Step K L debug) (.initial, env₀) calls t) ∧
    ∀ calls t, calls.map Call.op = ops → Run (Step K L debug) (.initial, env₀) calls t →
      ReadsBack debug (expected calls) t.1 ∧
      ∀ before x r after u v, calls = before ++ .send x r :: after →
        Run (Step K L debug) (.initial, env₀) before u → Step K L debug u (.send x r) v →
        SendsAsDocumented K L before x r u v :=
  ⟨exists_run K hL debug env₀ ops hfew, fun _ _ _ hrun => ⟨(traps_of_run hrun).readsBack debug,
    fun _ _ _ _ _ _ _ hu hs => (traps_of_run hu).documented hs⟩⟩

/-- The codes of the messages expected are those of the sends. -/
theorem map_code_expected (calls : List Call) : (expected calls).map Msg.code =
    ((sinceReset ((calls.map Call.op).filterMap Op.letThrough)).getD []).map Sending.code := by
  rw [history_op, sinceReset_map, expected]
  cases sinceReset (history calls) with
  | none => rfl
  | some sends =>
    rw [Option.getD_some, Option.map_some, Option.getD_some, List.map_map, List.map_map]
    rfl

/-- A user message that is sent on, two resets, and between and after them
messages of three kinds and one that is refused. -/
def mixedOps : List Op :=
  let user : Sending := ⟨true, wimpEUserMessage, ⟨fun _ => 0⟩, 0, 0, none⟩
  [.send user, .reset, .send user, .send { user with code := 0 }, .reset,
    .send { user with allow := false }, .send { user with code := 0, handle := 5 }, .send user,
    .send { user with code := wimpEUserMessageRecorded, handle := 5, th := some 0 }]

/-- The last three messages of the nine calls are read back, and every send
is as documented. -/
theorem trap_log_faithful_mixed :
    ∃ calls t, calls.map Call.op = mixedOps ∧
      Run (Step .plain .plain true) (.initial, ()) calls t ∧
      ReadsBack true (expected calls) t.1 ∧
      (expected calls).map Msg.code = [0, wimpEUserMessage, wimpEUserMessageRecorded] ∧
      ∀ before x r after u v, calls = before ++ .send x r :: after →
        Run (Step .plain .plain true) (.initial, ()) before u →
        Step .plain .plain true u (.send x r) v →
        SendsAsDocumented .plain .plain before x r u v := by
  obtain ⟨⟨calls, t, hops, hrun⟩, hall⟩ :=
    trap_log_faithful .plain MessageLib.plain_succeeds true () mixedOps (by decide)
  obtain ⟨hread, hsends⟩ := hall calls t hops hrun
  refine ⟨calls, t, hops, hrun, hread, ?_, hsends⟩
  rw [map_code_expected, hops]
  rfl

/-! ## The count -/

/-- A reset, or a send that returned no error. -/
def Call.succeeded : Call → Option (Option (Sending × Sent))
  | .reset => some none
  | .send x r => if r.error = none then some (some (x, r)) else none

/-- The sends that were trapped and returned no error, since the last reset;
none at all without a reset. -/
def trappedSends (calls : List Call) : Option (List (Sending × Sent)) :=
  sinceReset (calls.filterMap Call.succeeded)

theorem trappedSends_reset : trappedSends (calls ++ [.reset]) = some [] := by
  rw [trappedSends, List.filterMap_append]
  exact sinceReset_reset

theorem trappedSends_error (h : r.error ≠ none) :
    trappedSends (calls ++ [.send x r]) = trappedSends calls := by
  rw [trappedSends, List.filterMap_append]
  simp [Call.succeeded, h, trappedSends]

theorem trappedSends_success (h : r.error = none) :
    trappedSends (calls ++ [.send x r]) = (trappedSends calls).map (· ++ [(x, r)]) := by
  rw [trappedSends, List.filterMap_append]
  simp [Call.succeeded, h, trappedSends]

/-- Where the Wimp does what the trap asserts, the sends that returned no
error after a reset are those that were let through. -/
theorem trappedSends_eq (hL : debug = true ∨ L.Succeeds) {env₀ : σ}
    (h : Run (Step K L debug) (.initial, env₀) calls t) :
    trappedSends calls = sinceReset (history calls) := by
  induction h with
  | nil => rfl
  | @snoc calls t u c hrun hs ih =>
    have hcap := (traps_of_run hrun).capture
    rcases c with _ | ⟨x, r⟩
    · rw [trappedSends_reset, history_reset, sinceReset_reset]
    · rcases send_cases hs with ⟨hallow, rfl, -⟩ | ⟨hallow, hcapture, -, -⟩ |
        ⟨hallow, -, -, -, herror⟩
      · rw [trappedSends_error (by simp), history_refused hallow, ih]
      · -- before the first reset there is no list for an entry to be added to
        have hnone : sinceReset (history calls) = none := by
          refine Option.not_isSome_iff_eq_none.mp fun hsome => ?_
          rw [hcap.mpr (sinceReset_isSome.mp hsome)] at hcapture
          cases hcapture
        rw [history_sent hallow, sinceReset_entry, hnone, Option.map_none]
        by_cases hr : r.error = none
        · rw [trappedSends_success hr, ih, hnone, Option.map_none]
        · rw [trappedSends_error hr, ih, hnone]
      · rw [trappedSends_success (herror hL), history_sent hallow, sinceReset_entry, ih]

/-- The sends that returned no error are those of the calls. -/
theorem map_fst_trappedSends (hL : debug = true ∨ L.Succeeds) {env₀ : σ}
    (h : Run (Step K L debug) (.initial, env₀) calls t) :
    (trappedSends calls).map (List.map Prod.fst) =
      sinceReset ((calls.map Call.op).filterMap Op.letThrough) := by
  rw [trappedSends_eq hL h, ← sinceReset_map, ← history_op]

/-- **The count of messages stops at the size of the table.** Over every run
with a reset in it: the count is the number of sends since the last reset
that were trapped and returned no error, or 32 if that is less, and each
of the first 32 can be read back at the number of those before it. -/
theorem message_count_eq_min (K : Kernel) (hL : debug = true ∨ L.Succeeds) {env₀ : σ}
    (hrun : Run (Step K L debug) (.initial, env₀) calls t) {sends : List (Sending × Sent)}
    (hsends : trappedSends calls = some sends) :
    pseudoWimpGetMessageCount t.1 = min sends.length msgsSize ∧
    ∀ before x r after, sends = before ++ (x, r) :: after → before.length < msgsSize → ∀ out,
      pseudoWimpGetMessage2 debug before.length out t.1 = .ok ((x.msg r).reply out) := by
  have hread := (traps_of_run hrun).readsBack debug
  have hexpected : expected calls = sends.map fun c => c.1.msg c.2 := by
    rw [expected, ← trappedSends_eq hL hrun, hsends]
    rfl
  rw [hexpected] at hread
  refine ⟨by rw [hread.count, List.length_map], ?_⟩
  rintro before x r after rfl hlt out
  exact hread.message2 _ _ hlt (by simp) out

/-- Of 33 messages the last is not counted. -/
theorem message_lost_when_full :
    ¬ ∀ (K : Kernel) (L : MessageLib Unit) (debug : Bool) (calls : List Call) (t : State × Unit)
        (sends : List (Sending × Sent)), debug = true ∨ L.Succeeds →
      Run (Step K L debug) (.initial, ()) calls t → trappedSends calls = some sends →
      pseudoWimpGetMessageCount t.1 = sends.length ∧
      ∀ before x r after, sends = before ++ (x, r) :: after → ∀ out,
        pseudoWimpGetMessage2 debug before.length out t.1 = .ok ((x.msg r).reply out) := by
  intro hall
  obtain ⟨calls, t, hops, hrun⟩ := exists_run .plain MessageLib.plain_succeeds true ()
    (.reset :: List.replicate 33 (.send ⟨true, 0, ⟨fun _ => 0⟩, 0, 0, none⟩)) (by decide)
  have hmap := map_fst_trappedSends (Or.inl rfl) hrun
  rw [hops] at hmap
  obtain ⟨sends, hsends, hmap⟩ := Option.map_eq_some_iff.mp hmap
  have hlength : sends.length = 33 := by simpa using congrArg List.length hmap
  have hcount := (hall _ _ _ _ _ sends (Or.inl rfl) hrun hsends).1
  rw [hlength] at hcount
  -- the count is no more than the table holds
  have hfits : pseudoWimpGetMessageCount t.1 ≤ msgsSize := t.1.fits
  rw [hcount] at hfits
  exact absurd hfits (by decide)

/-- Three messages are counted of the nine calls. -/
theorem message_count_eq_min_mixed :
    ∃ calls t, calls.map Call.op = mixedOps ∧
      Run (Step .plain .plain true) (.initial, ()) calls t ∧
      pseudoWimpGetMessageCount t.1 = 3 := by
  obtain ⟨calls, t, hops, hrun⟩ :=
    exists_run .plain MessageLib.plain_succeeds true () mixedOps (by decide)
  have hmap := map_fst_trappedSends (Or.inl rfl) hrun
  rw [hops] at hmap
  obtain ⟨sends, hsends, hmap⟩ := Option.map_eq_some_iff.mp hmap
  have hlength : sends.length = 3 := by simpa using congrArg List.length hmap
  have hcount := (message_count_eq_min .plain (Or.inl rfl) hrun hsends).1
  rw [hlength] at hcount
  exact ⟨calls, t, hops, hrun, hcount⟩

end Steps

end Wimp

end CBPseudo
