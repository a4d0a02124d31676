import CBPseudo.Evnt.Idle
import CBPseudo.Evnt.Toolbox

/-!
# Tracking agrees with the Toolbox

What is recorded of an object lags behind the Toolbox: an object that the
Toolbox created has no record until its event is polled, and a deletion is
tracked twice, by the client's call and again by its event. The invariant
therefore looks ahead: `settle` applies the events still to be tracked to
the number of records, and the outcome is one record for a live object and
none for another. An event that handlers run for before it is tracked
counts as the first of those.
-/

namespace CBPseudo

open Common

namespace Evnt

/-! ## Settling -/

/-- The number of records of an object once a queue is tracked. -/
def settle (id : ObjectId) (n : ℕ) (queue : List Pending) : ℕ := queue.foldl (Pending.count id) n

variable {id : ObjectId} {n m : ℕ} {p : Pending} {queue : List Pending}

@[simp] theorem settle_nil : settle id n [] = n := rfl

@[simp] theorem settle_cons : settle id n (p :: queue) = settle id (p.count id n) queue := rfl

theorem settle_snoc : settle id n (queue ++ [p]) = p.count id (settle id n queue) := by
  rw [settle, List.foldl_append]
  rfl

theorem Pending.count_mono (h : n ≤ m) : p.count id n ≤ p.count id m := by
  cases p with
  | autoCreated i =>
    by_cases hi : id = i
    · simp only [Pending.count, hi, if_true]
      omega
    · simpa only [Pending.count, hi, if_false] using h
  | deleted i =>
    by_cases hi : id = i
    · simp only [Pending.count, hi, if_true]
      omega
    · simpa only [Pending.count, hi, if_false] using h

/-- More records settle to no fewer. -/
theorem settle_mono (h : n ≤ m) : settle id n queue ≤ settle id m queue := by
  induction queue generalizing n m with
  | nil => exact h
  | cons p queue ih => exact ih (Pending.count_mono h)

theorem spent_cons : spent id n (p :: queue) = true ↔
    p = .deleted id ∧ n = 0 ∨ spent id (p.count id n) queue = true := by
  simp [spent]

/-- **One record more settles to one more**, unless a deletion is spent: that
one would drop it. -/
theorem settle_succ : settle id (n + 1) queue =
    settle id n queue + if spent id n queue then 0 else 1 := by
  induction queue generalizing n with
  | nil => rfl
  | cons p queue ih =>
    rw [settle_cons, settle_cons]
    by_cases hp : p = .deleted id ∧ n = 0
    · -- the deletion finds the record that there is one more of
      obtain ⟨rfl, rfl⟩ := hp
      have hspent : spent id 0 (.deleted id :: queue) = true := spent_cons.mpr (Or.inl ⟨rfl, rfl⟩)
      rw [if_pos hspent]
      simp [Pending.count]
    · have hcount : p.count id (n + 1) = p.count id n + 1 := by
        cases p with
        | autoCreated i => by_cases hi : id = i <;> simp [Pending.count, hi]
        | deleted i =>
          by_cases hi : id = i
          · subst hi
            have hn : n ≠ 0 := fun hn => hp ⟨rfl, hn⟩
            simp only [Pending.count, if_true]
            omega
          · simp [Pending.count, hi]
      have hspent : spent id n (p :: queue) = spent id (p.count id n) queue := by
        rw [Bool.eq_iff_iff, spent_cons, or_iff_right hp]
      rw [hcount, ih, hspent]

/-! ## The invariant -/

/-- **The records settle to a number for each object**, once the events in
flight and those pending are tracked. -/
structure Settles (f : ObjectId → ℕ) (flight : List Pending) (w : World Toolbox) : Prop where
  wf : w.tbox.WF
  client : w.evnt.clientBlock.isSome
  settled : ∀ id, settle id (w.tbox.stacks id).length (flight ++ w.env.pending) = f id

/-- One record for each live object. -/
def oneEach (live : Finset ObjectId) (id : ObjectId) : ℕ := if id ∈ live then 1 else 0

/-- **The records settle to the live objects.** -/
abbrev Inv (flight : List Pending) (w : World Toolbox) : Prop :=
  Settles (oneEach w.env.live) flight w

variable {K : Kernel} {rule : Rule} {w w' : World Toolbox} {flight : Option Pending} {a : Action}
variable {A : Allocator} {handlers : ℕ → List Action}

theorem inv_start (clientBlock : Addr) (idBlocks : Addr → IdBlock) :
    Inv [] (start clientBlock idBlocks) where
  wf := Tbox.wf_initial
  client := rfl
  settled := fun id => by
    rw [start, Tbox.stacks_initial]
    simp [oneEach]

/-- What the rule asks for. -/
theorem unspent_iff : unspent flight w id = true ↔
    id ∉ w.env.live ∧
      spent id (w.tbox.stacks id).length (flight.toList ++ w.env.pending) = false := by
  rw [unspent, count_recordedIds, Bool.and_eq_true, Bool.not_eq_true', notLive, decide_eq_true_iff]

/-! ## Actions -/

/-- What an action leaves alone: the ID block. -/
def SameClient (w w' : World Toolbox) : Prop := w'.evnt = w.evnt ∧ w'.idBlocks = w.idBlocks

theorem SameClient.reported {ec : ℤ} {pb : WimpPollBlock} (h : SameClient w w') :
    w'.reported ec pb = w.reported ec pb := by
  rw [World.reported, World.reported, h.1, h.2]

/-- A record more of an object. -/
theorem Settles.push {f : ObjectId → ℕ} {fl : List Pending} {tbox : Tbox.State}
    (hi : Settles f fl w) (hw : tbox.WF) (hst : tbox.stacks = w.tbox.stacks.push id false) :
    Settles (Function.update f id
        (f id + if spent id (w.tbox.stacks id).length (fl ++ w.env.pending) then 0 else 1))
      fl { w with tbox := tbox, env := w.env.create id } where
  wf := hw
  client := hi.client
  settled := fun i => by
    show settle i (tbox.stacks i).length (fl ++ w.env.pending) = _
    by_cases hne : i = id
    · subst hne
      rw [hst, Stacks.push_self, List.length_cons, settle_succ, hi.settled i,
        Function.update_self]
    · rw [hst, Stacks.push_of_ne _ hne, hi.settled i, Function.update_of_ne hne]

/-- **A creation** of an object that is not live, and whose record no spent
deletion will drop. -/
theorem Inv.create {tbox : Tbox.State} (hi : Inv flight.toList w)
    (hid : unspent flight w id = true) (hw : tbox.WF)
    (hst : tbox.stacks = w.tbox.stacks.push id false) :
    Inv flight.toList { w with tbox := tbox, env := w.env.create id } := by
  obtain ⟨hlive, hspent⟩ := unspent_iff.mp hid
  have hpush := hi.push hw hst
  refine ⟨hw, hi.client, fun i => (hpush.settled i).trans ?_⟩
  rw [hspent]
  by_cases hne : i = id
  · subst hne
    simp [oneEach, Toolbox.create, hlive]
  · simp [oneEach, Toolbox.create, hne]

/-- **A deletion by the client** is tracked at once, and again when its
event is. -/
theorem Inv.delete {tbox : Tbox.State} (hi : Inv flight.toList w) (hw : tbox.WF)
    (hst : tbox.stacks = w.tbox.stacks.pop id) :
    Inv flight.toList { w with tbox := tbox, env := w.env.delete id } where
  wf := hw
  client := hi.client
  settled := fun i => by
    show settle i (tbox.stacks i).length (flight.toList ++ (w.env.pending ++ [.deleted id])) =
      if i ∈ w.env.live.erase id then 1 else 0
    have hold : settle i _ _ = if i ∈ w.env.live then 1 else 0 := hi.settled i
    rw [← List.append_assoc, settle_snoc]
    by_cases hne : i = id
    · subst hne
      -- one record at most is left once the rest has settled, and the new event drops it
      have hle : settle i (tbox.stacks i).length (flight.toList ++ w.env.pending) ≤ 1 := by
        have hmono : settle i (tbox.stacks i).length (flight.toList ++ w.env.pending) ≤
            settle i (w.tbox.stacks i).length (flight.toList ++ w.env.pending) := by
          refine settle_mono ?_
          rw [hst, Stacks.pop_self, List.length_tail]
          omega
        split at hold <;> omega
      rw [if_neg (Finset.notMem_erase _ _), Pending.count, if_pos rfl]
      omega
    · rw [hst, Stacks.pop_of_ne _ hne, hold, Pending.count, if_neg hne]
      simp only [Finset.mem_erase, ne_eq, hne, not_false_eq_true, true_and]

/-- **A creation by the Toolbox** is tracked when its event is. -/
theorem Inv.autoCreate (hi : Inv flight.toList w) (hid : id ∉ w.env.live) :
    Inv flight.toList { w with env := w.env.autoCreate id } where
  wf := hi.wf
  client := hi.client
  settled := fun i => by
    show settle i (w.tbox.stacks i).length (flight.toList ++ (w.env.pending ++ [.autoCreated id])) =
      if i ∈ insert id w.env.live then 1 else 0
    rw [← List.append_assoc, settle_snoc, hi.settled i, oneEach]
    by_cases hne : i = id
    · subst hne
      rw [if_neg hid, Pending.count, if_pos rfl, if_pos (Finset.mem_insert_self _ _)]
    · rw [Pending.count, if_neg hne]
      simp only [Finset.mem_insert, hne, false_or]

/-- **A deletion by the Toolbox** is tracked when its event is. -/
theorem Inv.ownDelete (hi : Inv flight.toList w) :
    Inv flight.toList { w with env := w.env.delete id } where
  wf := hi.wf
  client := hi.client
  settled := fun i => by
    show settle i (w.tbox.stacks i).length (flight.toList ++ (w.env.pending ++ [.deleted id])) =
      if i ∈ w.env.live.erase id then 1 else 0
    rw [← List.append_assoc, settle_snoc, hi.settled i, oneEach]
    by_cases hne : i = id
    · subst hne
      rw [if_neg (Finset.notMem_erase _ _), Pending.count, if_pos rfl]
      split <;> rfl
    · rw [Pending.count, if_neg hne]
      simp only [Finset.mem_erase, ne_eq, hne, not_false_eq_true, true_and]

/-- **An action preserves the invariant**, whatever event is in flight. -/
theorem Inv.attempt (K : Kernel) (hi : Inv flight.toList w) (ha : a.Generous) :
    ∃ w', a.attempt K unspent flight w = .ok w' ∧ Inv flight.toList w' ∧ SameClient w w' := by
  unfold Action.attempt
  by_cases hmay : a.may unspent flight w
  · rw [if_pos hmay]
    cases a with
    | create A garbage allow flags nameOrTemplate out id =>
      cases allow with
      | false =>
        refine ⟨w, ?_, hi, rfl, rfl⟩
        rw [Action.run, Tbox.createObject_refused]
        rfl
      | true =>
        obtain ⟨tbox, he, hw, hst, -⟩ := Tbox.createObject_granted K (Toolbox.lib id) garbage flags
          nameOrTemplate out w.env hi.wf (ha w.tbox.records) rfl
        refine ⟨_, ?_, hi.create hmay hw hst, rfl, rfl⟩
        rw [Action.run, he]
        rfl
    | delete flags id =>
      obtain ⟨tbox, he, hw, hst, -⟩ :=
        Tbox.deleteObject_cases (Toolbox.lib id) flags id w.env hi.wf
      refine ⟨_, ?_, hi.delete hw hst, rfl, rfl⟩
      rw [Action.run, he]
      rfl
    | autoCreate id => exact ⟨_, rfl, hi.autoCreate (of_decide_eq_true hmay), rfl, rfl⟩
    | ownDelete id => exact ⟨_, rfl, hi.ownDelete, rfl, rfl⟩
  · rw [if_neg hmay]
    exact ⟨w, rfl, hi, rfl, rfl⟩

/-- **So do handlers.** -/
theorem Inv.handle (K : Kernel) (hi : Inv flight.toList w)
    (hh : ∀ n, ∀ a ∈ handlers n, a.Generous) :
    ∃ w', handle K unspent handlers flight w = .ok w' ∧ Inv flight.toList w' ∧
      SameClient w w' := by
  rw [Evnt.handle]
  -- the handlers are chosen by the poll, which they do not change
  generalize hl : handlers w.env.polls = l
  have hall : ∀ a ∈ l, a.Generous := hl ▸ hh w.env.polls
  clear hl
  induction l generalizing w with
  | nil => exact ⟨w, rfl, hi, rfl, rfl⟩
  | cons a l ih =>
    obtain ⟨w₁, he, hi₁, hs₁⟩ := hi.attempt K (hall a List.mem_cons_self)
    obtain ⟨w₂, hes, hi₂, hs₂⟩ := ih hi₁ fun b hb => hall b (List.mem_cons_of_mem _ hb)
    refine ⟨w₂, ?_, hi₂, hs₂.1.trans hs₁.1, hs₂.2.trans hs₁.2⟩
    rw [List.foldlM_cons, he]
    exact hes

/-! ## Polls -/

/-- What tracking an event does to the records. -/
def Pending.event : Pending → Tbox.Event
  | .autoCreated id => .record id
  | .deleted id => .drop id

theorem Pending.length_apply (S : Stacks ObjectId Bool) :
    (p.event.apply S id).length = p.count id (S id).length := by
  cases p with
  | autoCreated i =>
    by_cases hi : id = i
    · subst hi
      simp [Pending.event, Tbox.Event.apply, Pending.count]
    · simp [Pending.event, Tbox.Event.apply, Pending.count, hi, Stacks.push_of_ne]
  | deleted i =>
    by_cases hi : id = i
    · subst hi
      simp [Pending.event, Tbox.Event.apply, Pending.count]
    · simp [Pending.event, Tbox.Event.apply, Pending.count, hi, Stacks.pop_of_ne]

theorem tracked_pending :
    tracked wimpEToolboxEvent (toolboxEventBlock p.eventCode) p.id = some p.event := by
  cases p <;> rfl

theorem nextEvent_live (w : World Toolbox) : (nextEvent w).2.2.env.live = w.env.live := by
  rw [nextEvent]
  cases w.env.pending <;> rfl

theorem nextEvent_pending (w : World Toolbox) :
    (nextEvent w).2.2.env.pending = w.env.pending.tail := by
  rw [nextEvent]
  cases hq : w.env.pending with
  | nil => exact hq
  | cons p rest => rfl

/-- **The event polled is in flight**, and tracking will see it. -/
theorem Settles.nextEvent {f : ObjectId → ℕ} (hi : Settles f [] w) :
    Settles f w.env.pending.head?.toList (nextEvent w).2.2 ∧
      (nextEvent w).2.2.reported (nextEvent w).1 (nextEvent w).2.1 =
        w.env.pending.head?.map Pending.event ∧
      ((nextEvent w).1 = wimpENull → w.env.pending.head? = none) := by
  obtain ⟨b, hb⟩ := Option.isSome_iff_exists.mp hi.client
  rw [Evnt.nextEvent]
  cases hq : w.env.pending with
  | nil =>
    refine ⟨⟨hi.wf, hi.client, ?_⟩, ?_, fun _ => rfl⟩
    · exact hi.settled
    · show World.reported _ _ _ = none
      rw [World.reported, hb, Option.bind_some, tracked_null]
  | cons p rest =>
    refine ⟨⟨hi.wf, hi.client, fun id => ?_⟩, ?_, fun hnull => by cases hnull⟩
    · have hold := hi.settled id
      rw [hq] at hold
      exact hold
    · -- the poll names the object in the ID block, where `print_event` reads it
      have hrep : (w.naming p.id).reported wimpEToolboxEvent (toolboxEventBlock p.eventCode) =
          trackedIn w wimpEToolboxEvent (toolboxEventBlock p.eventCode) p.id := reported_naming
      rw [trackedIn, hb, Option.bind_some, tracked_pending] at hrep
      exact hrep

/-- The same, of the live objects: polling leaves those alone. -/
theorem Inv.nextEvent (hi : Inv [] w) :
    Inv w.env.pending.head?.toList (nextEvent w).2.2 ∧
      (nextEvent w).2.2.reported (nextEvent w).1 (nextEvent w).2.1 =
        w.env.pending.head?.map Pending.event ∧
      ((nextEvent w).1 = wimpENull → w.env.pending.head? = none) := by
  rw [Inv, nextEvent_live]
  exact Settles.nextEvent hi

/-- **Tracking the event in flight.** -/
theorem Settles.print {f : ObjectId → ℕ} {e : Option Pending} {ec : ℤ} {pb : WimpPollBlock}
    (hi : Settles f e.toList w) (hrep : w.reported ec pb = e.map Pending.event)
    (hA : A.Generous) :
    ∃ t, printEvent A ec pb w = .ok { w with tbox := t } ∧ Settles f [] { w with tbox := t } := by
  obtain ⟨t, hp, hw, hst⟩ := printEvent_cases ec pb hi.wf (hA w.tbox.records)
  refine ⟨t, hp, hw, hi.client, fun id => ?_⟩
  show settle id (t.stacks id).length w.env.pending = f id
  have hold := hi.settled id
  rw [hst, hrep]
  cases e with
  | none => exact hold
  | some p =>
    rw [Option.map_some, Option.elim_some, Pending.length_apply]
    exact hold

/-- **Handlers and then tracking.** -/
theorem Inv.pollAndPrint (K : Kernel) (hi : Inv [] w) (hA : A.Generous)
    (hh : ∀ n, ∀ a ∈ handlers n, a.Generous) (allow : Bool) (eventCode : Option ℤ)
    (pollBlock : Option WimpPollBlock) (locals : Locals) :
    ∃ e polled w', pollAndPrint K (fun _ _ w => pollAndHandle K unspent handlers w) A allow
      eventCode pollBlock locals w = .ok (e, polled, w') ∧ Inv [] w' := by
  cases allow with
  | false => exact ⟨_, _, w, rfl, hi⟩
  | true =>
    obtain ⟨hi₁, hrep, -⟩ := hi.nextEvent
    obtain ⟨w₂, hhandle, hi₂, hs⟩ := hi₁.handle K hh
    obtain ⟨t, hp, hi₃⟩ := hi₂.print (hs.reported.trans hrep) hA
    refine ⟨none, ⟨eventCode.map fun _ => (Evnt.nextEvent w).1,
      pollBlock.map fun _ => (Evnt.nextEvent w).2.1⟩, { w₂ with tbox := t }, ?_, hi₃⟩
    rw [Evnt.pollAndPrint]
    simp only [pseudokernFail_true, pollAndHandle, hhandle, ok_bind, hp]

/-- **Tracking and then handlers**, over and over. -/
theorem Inv.waitForIdle (K : Kernel) (hi : Inv [] w) {A : ℕ → Allocator}
    (hA : ∀ n, (A n).Generous) (hh : ∀ n, ∀ a ∈ handlers n, a.Generous) :
    ∃ e w' calls, pseudoEventWaitForIdle (Toolbox.pollLib K unspent handlers) A w =
      .ok (e, w', calls) ∧ Inv [] w' := by
  refine waitForIdleLoop_invariant 511 wimpENull (fun count ec w hi => ?_) hi
  obtain ⟨hi₁, hrep, hnone⟩ := hi.nextEvent
  by_cases hnull : (Evnt.nextEvent w).1 = wimpENull
  · rw [hnone hnull] at hi₁
    refine ⟨none, (Evnt.nextEvent w).1, (Evnt.nextEvent w).2.2, [.getMask none 0,
      .poll (0 &&& ~~~wimpPollNullMask) none (Evnt.nextEvent w).1 (Evnt.nextEvent w).2.1], ?_, hi₁⟩
    simp only [waitForIdleBody, Toolbox.pollLib, ne_eq, hnull, not_true_eq_false, if_false]
  · obtain ⟨t, hp, hi₂⟩ := hi₁.print hrep (hA count)
    -- nothing is in flight while these handlers run
    have hi₂' : Inv (none : Option Pending).toList { (Evnt.nextEvent w).2.2 with tbox := t } := hi₂
    obtain ⟨w₃, hhandle, hi₃, -⟩ := hi₂'.handle K hh
    refine ⟨none, (Evnt.nextEvent w).1, w₃, [.getMask none 0,
      .poll (0 &&& ~~~wimpPollNullMask) none (Evnt.nextEvent w).1 (Evnt.nextEvent w).2.1,
      .print (Evnt.nextEvent w).1 (Evnt.nextEvent w).2.1,
      .dispatch (Evnt.nextEvent w).1 (Evnt.nextEvent w).2.1 none], ?_, hi₃⟩
    simp only [waitForIdleBody, Toolbox.pollLib, ne_eq, hnull, not_false_eq_true, if_true, hp,
      ok_bind, hhandle]

/-! ## Runs -/

/-- **Every move returns and preserves the invariant.** -/
theorem Inv.move (K : Kernel) (hi : Inv [] w) {m : Move} (hm : m.Generous) :
    ∃ w', m.exec K unspent w = .ok w' ∧ Inv [] w' := by
  cases m with
  | act a =>
    have hnone : Inv (none : Option Pending).toList w := hi
    obtain ⟨w', he, hi', -⟩ := hnone.attempt K hm
    exact ⟨w', he, hi'⟩
  | poll A allow eventCode pollBlock pollWord locals handlers =>
    obtain ⟨e, polled, w', he, hi'⟩ :=
      hi.pollAndPrint K hm.1 hm.2 allow eventCode pollBlock locals
    have hpoll : pseudoEventPoll K (Toolbox.pollLib K unspent handlers) A allow eventCode
        pollBlock pollWord locals w = .ok (e, polled, w') := he
    refine ⟨w', ?_, hi'⟩
    rw [Move.exec, hpoll]
    rfl
  | pollIdle A allow eventCode pollBlock earliest pollWord locals handlers =>
    obtain ⟨e, polled, w', he, hi'⟩ :=
      hi.pollAndPrint K hm.1 hm.2 allow eventCode pollBlock locals
    have hpoll : pseudoEventPollIdle K (Toolbox.pollLib K unspent handlers) A allow eventCode
        pollBlock earliest pollWord locals w = .ok (e, polled, w') := he
    refine ⟨w', ?_, hi'⟩
    rw [Move.exec, hpoll]
    rfl
  | waitForIdle A handlers =>
    obtain ⟨e, w', calls, he, hi'⟩ := hi.waitForIdle K hm.1 hm.2
    refine ⟨w', ?_, hi'⟩
    rw [Move.exec, he]
    rfl

variable {moves : List Move} {clientBlock : Addr} {idBlocks : Addr → IdBlock}

/-- Every state of a run keeps the invariant. -/
theorem inv_of_moves (h : Run (Moves K unspent) (start clientBlock idBlocks) moves w) :
    Inv [] w := by
  refine h.invariant (inv_start clientBlock idBlocks) ?_
  rintro t m u hi ⟨hm, he⟩
  obtain ⟨u', he', hi'⟩ := hi.move K hm
  rw [he] at he'
  exact Except.ok.inj he' ▸ hi'

/-! ## Ids that may not be given out -/

/-- A poll without handlers. -/
def quietPoll : Move := .poll .next true none none none ⟨0, ⟨fun _ => 0⟩⟩ fun _ => []

/-- **A poll without handlers** tracks the next event, and does nothing
else. -/
theorem Settles.poll_quiet {f : ObjectId → ℕ} (K : Kernel) (rule : Rule) (hi : Settles f [] w) :
    ∃ w', Moves K rule w quietPoll w' ∧ Settles f [] w' ∧ w'.env.live = w.env.live ∧
      w'.env.pending = w.env.pending.tail := by
  obtain ⟨hi₁, hrep, -⟩ := hi.nextEvent
  obtain ⟨t, hp, hi₂⟩ := hi₁.print hrep Allocator.next_generous
  refine ⟨{ (Evnt.nextEvent w).2.2 with tbox := t }, ⟨⟨Allocator.next_generous, ?_⟩, ?_⟩, hi₂,
    nextEvent_live w, nextEvent_pending w⟩
  · exact fun _ a ha => absurd ha List.not_mem_nil
  · simp only [quietPoll, Move.exec, pseudoEventPoll, pollAndPrint, pseudokernFail_true,
      Toolbox.pollLib, pollAndHandle, Evnt.handle, List.foldlM_nil, pure_bind]
    simp only [ok_bind, hp]

/-- **Polls without handlers** come to an end of the events. -/
theorem Settles.drained {f : ObjectId → ℕ} (K : Kernel) (rule : Rule) (hi : Settles f [] w) :
    ∃ n w', Run (Moves K rule) w (List.replicate n quietPoll) w' ∧ Settles f [] w' ∧
      w'.env.live = w.env.live ∧ w'.env.pending = [] := by
  generalize hq : w.env.pending = queue
  induction queue generalizing w with
  | nil => exact ⟨0, w, Run.nil, hi, rfl, hq⟩
  | cons p queue ih =>
    obtain ⟨w₁, hmove, hi₁, hlive, hpending⟩ := hi.poll_quiet K rule
    rw [hq] at hpending
    obtain ⟨n, w₂, hrun, hi₂, hlive₂, hidle⟩ := ih hi₁ hpending
    exact ⟨n + 1, w₂, Run.cons hmove hrun, hi₂, hlive₂.trans hlive, hidle⟩

/-- **An id of which a deletion is spent may not be given out**: where it is,
and what is pending is polled, the object is live and has no record. -/
theorem Inv.unrecorded (K : Kernel) (hi : Inv [] w) (hlive : id ∉ w.env.live)
    (hspent : unspent none w id = false) :
    ∃ n w', Run (Moves K notLive) w
        (.act (.create .next 0 true 0 0 none id) :: List.replicate n quietPoll) w' ∧
      w'.env.pending = [] ∧ id ∈ w'.env.live ∧ id ∉ recordedIds w' := by
  have hspent : spent id (w.tbox.stacks id).length ([] ++ w.env.pending) = true := by
    by_contra hno
    have hok : unspent none w id = true := unspent_iff.mpr ⟨hlive, Bool.eq_false_iff.mpr hno⟩
    rw [hspent] at hok
    cases hok
  obtain ⟨tbox, he, hw, hst, -⟩ := Tbox.createObject_granted K (Toolbox.lib id) 0 0 0 none w.env
    hi.wf (Allocator.next_generous w.tbox.records) rfl
  have hmove : Moves K notLive w (.act (.create .next 0 true 0 0 none id))
      { w with tbox := tbox, env := w.env.create id } := by
    refine ⟨Allocator.next_generous, ?_⟩
    have hmay : (Action.create .next 0 true 0 0 none id).may notLive none w = true :=
      decide_eq_true hlive
    rw [Move.exec, Action.attempt, if_pos hmay, Action.run, he]
    rfl
  -- the record made settles to none
  obtain ⟨n, w', hrun, hi', hlive', hidle⟩ := (hi.push hw hst).drained K notLive
  refine ⟨n, w', Run.cons hmove hrun, hidle, ?_, ?_⟩
  · rw [hlive']
    exact Finset.mem_insert_self id _
  · have hzero := hi'.settled id
    rw [hidle, List.append_nil, settle_nil, Function.update_self, if_pos hspent, oneEach,
      if_neg hlive] at hzero
    rw [← List.count_eq_zero, count_recordedIds, hzero]

/-- **Tracking agrees with the Toolbox whenever no event is in flight.** In
every run in which a new object of the client's is not given an id of
which a deletion still to be tracked is spent, and in whichever order
objects come and go and events are polled, by whichever function: when no
event is pending, the recorded ids are those of the live objects, each
once. And no move goes wrong. Any other id that is not live would break
this, as soon as what is pending has been polled. -/
theorem tracking_agrees_when_settled (K : Kernel)
    (h : Run (Moves K unspent) (start clientBlock idBlocks) moves w) :
    (w.env.pending = [] →
      (recordedIds w).Nodup ∧ ∀ id, id ∈ recordedIds w ↔ id ∈ w.env.live) ∧
    (∀ m : Move, m.Generous → ∃ w', m.exec K unspent w = .ok w') ∧
    ∀ id, id ∉ w.env.live → unspent none w id = false →
      ∃ n w', Run (Moves K notLive) w
          (.act (.create .next 0 true 0 0 none id) :: List.replicate n quietPoll) w' ∧
        w'.env.pending = [] ∧ id ∈ w'.env.live ∧ id ∉ recordedIds w' := by
  have hi := inv_of_moves h
  refine ⟨fun hidle => ?_, fun m hm => ?_, fun id hlive hspent => hi.unrecorded K hlive hspent⟩
  · have hcount : ∀ id, (recordedIds w).count id = oneEach w.env.live id := fun id => by
      have hold := hi.settled id
      rw [hidle] at hold
      rw [count_recordedIds]
      exact hold
    refine ⟨List.nodup_iff_count_le_one.mpr fun id => ?_, fun id => ?_⟩
    · rw [hcount id, oneEach]
      split <;> omega
    · rw [← List.count_pos_iff, hcount id, oneEach]
      by_cases hlive : id ∈ w.env.live <;> simp [hlive]
  · obtain ⟨w', he, -⟩ := hi.move K hm
    exact ⟨w', he⟩

/-- A world whose ID block is at address 1. -/
def worldWith (objects : List (Item Tbox.PseudoTboxObject)) (records : Finset Addr)
    (idBlocks : Addr → IdBlock) (t : Toolbox) : World Toolbox where
  evnt := { initial with clientBlock := some 1 }
  tbox := ⟨objects, records, .initial⟩
  idBlocks := idBlocks
  env := t

/-- An id given out again before the deletion of the object that had it has
been polled: the event drops the record of the new object. -/
theorem tracking_of_reused_id :
    ¬ ∀ (K : Kernel) (clientBlock : Addr) (idBlocks : Addr → IdBlock) (moves : List Move)
        (w : World Toolbox), Run (Moves K notLive) (start clientBlock idBlocks) moves w →
      w.env.pending = [] →
      (recordedIds w).Nodup ∧ ∀ id, id ∈ recordedIds w ↔ id ∈ w.env.live := by
  intro hall
  have hcreate : Moves .plain notLive (start 1 fun _ => ⟨0⟩)
      (.act (.create .next 0 true 0 0 none 7))
      (worldWith [⟨1, ⟨7, false⟩⟩] {1} (fun _ => ⟨0⟩) ⟨{7}, [], 0⟩) :=
    ⟨Allocator.next_generous, rfl⟩
  have hdelete : Moves .plain notLive (worldWith [⟨1, ⟨7, false⟩⟩] {1} (fun _ => ⟨0⟩) ⟨{7}, [], 0⟩)
      (.act (.delete 0 7)) (worldWith [] ∅ (fun _ => ⟨0⟩) ⟨∅, [.deleted 7], 0⟩) := ⟨trivial, rfl⟩
  have hagain : Moves .plain notLive (worldWith [] ∅ (fun _ => ⟨0⟩) ⟨∅, [.deleted 7], 0⟩)
      (.act (.create .next 0 true 0 0 none 7))
      (worldWith [⟨1, ⟨7, false⟩⟩] {1} (fun _ => ⟨0⟩) ⟨{7}, [.deleted 7], 0⟩) :=
    ⟨Allocator.next_generous, rfl⟩
  have hpoll : Moves .plain notLive
      (worldWith [⟨1, ⟨7, false⟩⟩] {1} (fun _ => ⟨0⟩) ⟨{7}, [.deleted 7], 0⟩)
      (.poll .next true none none none ⟨0, ⟨fun _ => 0⟩⟩ fun _ => [])
      (worldWith [] ∅ (Function.update (fun _ => ⟨0⟩) 1 ⟨7⟩) ⟨{7}, [], 1⟩) :=
    ⟨⟨Allocator.next_generous, fun _ _ ha => by cases ha⟩, rfl⟩
  have hrun := (((Run.nil.snoc hcreate).snoc hdelete).snoc hagain).snoc hpoll
  -- the object is live, and has no record
  have hrecorded := ((hall _ _ _ _ _ hrun rfl).2 7).mpr (by decide)
  exact absurd hrecorded (by decide)

/-- An id given out again while the Toolbox's own deletion of the object that
had it is pending: the event drops one of the two records. -/
theorem tracking_agrees_when_settled_again :
    let w := worldWith [⟨1, ⟨7, false⟩⟩] {1} (Function.update (fun _ => ⟨0⟩) 1 ⟨7⟩) ⟨{7}, [], 1⟩
    Run (Moves .plain unspent) (start 1 fun _ => ⟨0⟩)
      [.act (.create .next 0 true 0 0 none 7), .act (.ownDelete 7),
        .act (.create .next 0 true 0 0 none 7),
        .poll .next true none none none ⟨0, ⟨fun _ => 0⟩⟩ fun _ => []] w ∧
    (recordedIds w).Nodup ∧ ∀ id, id ∈ recordedIds w ↔ id ∈ w.env.live := by
  intro w
  have hcreate : Moves .plain unspent (start 1 fun _ => ⟨0⟩)
      (.act (.create .next 0 true 0 0 none 7))
      (worldWith [⟨1, ⟨7, false⟩⟩] {1} (fun _ => ⟨0⟩) ⟨{7}, [], 0⟩) :=
    ⟨Allocator.next_generous, rfl⟩
  have hdelete : Moves .plain unspent (worldWith [⟨1, ⟨7, false⟩⟩] {1} (fun _ => ⟨0⟩) ⟨{7}, [], 0⟩)
      (.act (.ownDelete 7))
      (worldWith [⟨1, ⟨7, false⟩⟩] {1} (fun _ => ⟨0⟩) ⟨∅, [.deleted 7], 0⟩) := ⟨trivial, rfl⟩
  have hagain : Moves .plain unspent
      (worldWith [⟨1, ⟨7, false⟩⟩] {1} (fun _ => ⟨0⟩) ⟨∅, [.deleted 7], 0⟩)
      (.act (.create .next 0 true 0 0 none 7))
      (worldWith [⟨2, ⟨7, false⟩⟩, ⟨1, ⟨7, false⟩⟩] {2, 1} (fun _ => ⟨0⟩)
        ⟨{7}, [.deleted 7], 0⟩) :=
    ⟨Allocator.next_generous, rfl⟩
  have hpoll : Moves .plain unspent
      (worldWith [⟨2, ⟨7, false⟩⟩, ⟨1, ⟨7, false⟩⟩] {2, 1} (fun _ => ⟨0⟩) ⟨{7}, [.deleted 7], 0⟩)
      (.poll .next true none none none ⟨0, ⟨fun _ => 0⟩⟩ fun _ => []) w :=
    ⟨⟨Allocator.next_generous, fun _ _ ha => by cases ha⟩, rfl⟩
  have hrun := (((Run.nil.snoc hcreate).snoc hdelete).snoc hagain).snoc hpoll
  exact ⟨hrun, (tracking_agrees_when_settled .plain hrun).1 rfl⟩

end Evnt

end CBPseudo
