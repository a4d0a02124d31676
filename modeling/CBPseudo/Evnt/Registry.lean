import CBPseudo.Common.Run
import CBPseudo.Evnt.Handlers
import Mathlib.Data.Multiset.AddSub

/-!
# Event handler trackers — whole runs

The eight registering and deregistering functions as the steps of a
system made of this file's state and the library's. `Simulates` relates
the two: the records say what the library holds. Each function keeps it,
whatever the allocator refuses and whichever errors the library returns,
as long as the library's own effects are the documented ones.
-/

namespace CBPseudo

open Common

namespace Evnt

/-- **A call**; a registration, with the answer the allocator will give. -/
inductive Call
  /-- `pseudo_event_register_toolbox_handler`. -/
  | registerToolbox (A : Allocator) (h : PseudoEventToolboxHandler)
  /-- `pseudo_event_deregister_toolbox_handler`. -/
  | deregisterToolbox (h : PseudoEventToolboxHandler)
  /-- `pseudo_event_deregister_toolbox_handlers_for_object`. -/
  | deregisterToolboxForObject (objectId : ObjectId)
  /-- `pseudo_event_register_message_handler`. -/
  | registerMessage (A : Allocator) (h : PseudoEventMessageHandler)
  /-- `pseudo_event_deregister_message_handler`. -/
  | deregisterMessage (h : PseudoEventMessageHandler)
  /-- `pseudo_event_register_wimp_handler`. -/
  | registerWimp (A : Allocator) (h : PseudoEventWimpHandler)
  /-- `pseudo_event_deregister_wimp_handler`. -/
  | deregisterWimp (h : PseudoEventWimpHandler)
  /-- `pseudo_event_deregister_wimp_handlers_for_object`. -/
  | deregisterWimpForObject (objectId : ObjectId)

section System

variable {σ : Type}

/-- The call itself. -/
def Call.exec (K : Kernel) (L : EventLib σ) (debug : Bool) (s : State) (env : σ) :
    Call → Except Fault (Option KernelOserror × State × σ)
  | .registerToolbox A h => pseudoEventRegisterToolboxHandler K L A h s env
  | .deregisterToolbox h => pseudoEventDeregisterToolboxHandler L debug h s env
  | .deregisterToolboxForObject objectId =>
    pseudoEventDeregisterToolboxHandlersForObject L objectId s env
  | .registerMessage A h => pseudoEventRegisterMessageHandler K L A h s env
  | .deregisterMessage h => pseudoEventDeregisterMessageHandler L debug h s env
  | .registerWimp A h => pseudoEventRegisterWimpHandler K L A h s env
  | .deregisterWimp h => pseudoEventDeregisterWimpHandler L debug h s env
  | .deregisterWimpForObject objectId =>
    pseudoEventDeregisterWimpHandlersForObject L objectId s env

/-- A step: a call that returns, with or without an error. -/
def Step (K : Kernel) (L : EventLib σ) (debug : Bool) (t : State × σ) (c : Call) (t' : State × σ) :
    Prop :=
  ∃ e, c.exec K L debug t.1 t.2 = .ok (e, t'.1, t'.2)

/-- The calls that register a handler. -/
def Call.Registers : Call → Prop
  | .registerToolbox _ _ => True
  | .registerMessage _ _ => True
  | .registerWimp _ _ => True
  | _ => False

/-- **What a call does to the handlers held**, a registration where it
returns no error. -/
def Call.effect (r : Registries) : Call → Registries
  | .registerToolbox _ h => { r with tb := h ::ₘ r.tb }
  | .deregisterToolbox h => { r with tb := r.tb.erase h }
  | .deregisterToolboxForObject objectId =>
    { r with tb := r.tb.filter fun h => h.objectId ≠ objectId }
  | .registerMessage _ h => { r with msg := h ::ₘ r.msg }
  | .deregisterMessage h => { r with msg := r.msg.erase h }
  | .registerWimp _ h => { r with wimp := h ::ₘ r.wimp }
  | .deregisterWimp h => { r with wimp := r.wimp.erase h }
  | .deregisterWimpForObject objectId =>
    { r with wimp := r.wimp.filter fun h => h.objectId ≠ objectId }

/-- The calls that deregister one handler, where the library holds no
equal one. -/
def Call.Unheld (r : Registries) : Call → Prop
  | .deregisterToolbox h => h ∉ r.tb
  | .deregisterMessage h => h ∉ r.msg
  | .deregisterWimp h => h ∉ r.wimp
  | _ => False

/-- What a call does not touch: the lists of the other two kinds, and the
client's ID block. -/
def Call.Frame (s s' : State) (c : Call) : Prop :=
  s'.clientBlock = s.clientBlock ∧
  match c with
  | .registerToolbox _ _ | .deregisterToolbox _ | .deregisterToolboxForObject _ =>
    s'.wimpHandlers = s.wimpHandlers ∧ s'.msgHandlers = s.msgHandlers
  | .registerMessage _ _ | .deregisterMessage _ =>
    s'.wimpHandlers = s.wimpHandlers ∧ s'.tbHandlers = s.tbHandlers
  | .registerWimp _ _ | .deregisterWimp _ | .deregisterWimpForObject _ =>
    s'.tbHandlers = s.tbHandlers ∧ s'.msgHandlers = s.msgHandlers

end System

variable {σ α : Type} {s s' : State} {env env' : σ} {K : Kernel} {L : EventLib σ} {debug : Bool}
variable {A : Allocator} {e : Option KernelOserror} {c : Call} {lost : Finset Addr}

/-- **The trackers agree with the library.** -/
structure Simulates (held : σ → Registries) (s : State) (env : σ) : Prop where
  wf : s.WF
  tracked : s.tracked = held env

/-- The same, where other blocks may be lost. -/
structure Tracks (held : σ → Registries) (lost : Finset Addr) (s : State) (env : σ) : Prop where
  owns : s.Owns lost
  tracked : s.tracked = held env

theorem simulates_iff {held : σ → Registries} : Simulates held s env ↔ Tracks held ∅ s env :=
  ⟨fun h => ⟨wf_iff_owns.mp h.wf, h.tracked⟩, fun h => ⟨wf_iff_owns.mpr h.owns, h.tracked⟩⟩

/-- What a call on one kind of handler comes to: agreement again, and a
change to that kind's list at most. -/
structure Outcome (held : σ → Registries) (lost : Finset Addr) (kind : HandlerKind α)
    (s s' : State) (env' : σ) : Prop where
  tracks : Tracks held lost s' env'
  frame : ∃ l b, s' = s.update kind l b

namespace KindView

variable {kind : HandlerKind α} (V : KindView kind) {held : σ → Registries}

/-- **Registering keeps the agreement**, and where it returns an error it
changes neither side. -/
theorem registerHandler_outcome {register : α → σ → Option KernelOserror × σ}
    (hlaw : ∀ h x, held (register h x).2 =
      if (register h x).1 = none then V.put (h ::ₘ V.view (held x)) (held x) else held x)
    (hs : Tracks held lost s env) (h : α) :
    ∃ e s' env', registerHandler K kind register A h s env = .ok (e, s', env') ∧
      Outcome held lost kind s s' env' ∧ (e ≠ none → s' = s ∧ held env' = held env) ∧
      (e = none → held env' = V.put (h ::ₘ V.view (held env)) (held env)) := by
  have hself : ∃ l b, s = s.update kind l b := ⟨_, _, (V.update_self s).symm⟩
  rcases V.registerHandler_cases K register A h s env with
    he | ⟨e, hr, he⟩ | ⟨a, ha, hr, he⟩
  · exact ⟨_, _, _, he, ⟨hs, hself⟩, fun _ => ⟨rfl, rfl⟩, fun hnone => by cases hnone⟩
  · -- refused by the library: the record is freed, and it holds what it held
    have hheld : held (register h env).2 = held env := by
      rw [hlaw, if_neg (by rw [hr]; simp)]
    exact ⟨_, _, _, he, ⟨⟨hs.owns, hs.tracked.trans hheld.symm⟩, hself⟩, fun _ => ⟨rfl, hheld⟩,
      fun hnone => by cases hnone⟩
  · have hheld : held (register h env).2 = V.put (h ::ₘ V.view (held env)) (held env) := by
      rw [hlaw, if_pos hr]
    refine ⟨_, _, _, he, ⟨⟨V.owns_insert hs.owns ha, ?_⟩, ⟨_, _, rfl⟩⟩, fun hne => absurd rfl hne,
      fun _ => hheld⟩
    rw [V.tracked_update, hheld, ← hs.tracked, V.view_tracked, vals_cons, Multiset.cons_coe]

/-- **Deregistering a handler that is held keeps the agreement.** -/
theorem deregisterHandler_outcome [DecidableEq α] {matches_ : α → α → Bool}
    (hm : ∀ x y, matches_ x y = true ↔ x = y) {deregister : α → σ → Option KernelOserror × σ}
    (hlaw : ∀ h x, h ∈ V.view (held x) →
      held (deregister h x).2 = V.put ((V.view (held x)).erase h) (held x))
    (hs : Tracks held lost s env) {h : α} (hheld : h ∈ V.view (held env)) :
    ∃ e s' env', deregisterHandler debug kind matches_ deregister h s env = .ok (e, s', env') ∧
      Outcome held lost kind s s' env' ∧
      held env' = V.put ((V.view (held env)).erase h) (held env) := by
  have hmem : h ∈ vals (kind.get s) := by
    rwa [← hs.tracked, V.view_tracked, Multiset.mem_coe] at hheld
  obtain ⟨it, hit, -, hvals, he⟩ :=
    V.deregisterHandler_of_mem debug hm deregister hs.owns env hmem
  refine ⟨_, _, _, he, ⟨⟨V.owns_remove hs.owns hit, ?_⟩, ⟨_, _, rfl⟩⟩, hlaw h env hheld⟩
  rw [V.tracked_update, hvals, hlaw h env hheld, ← hs.tracked, V.view_tracked, Multiset.coe_erase]

/-- Where it is not held the call ends the program. -/
theorem deregisterHandler_unheld [DecidableEq α] {matches_ : α → α → Bool}
    (hm : ∀ x y, matches_ x y = true ↔ x = y) (deregister : α → σ → Option KernelOserror × σ)
    (hs : Tracks held lost s env) {h : α} (hheld : h ∉ V.view (held env)) :
    deregisterHandler debug kind matches_ deregister h s env =
      .error (if debug then .assertFailed else .abort) := by
  refine deregisterHandler_of_notMem hm deregister fun hmem => hheld ?_
  rwa [← hs.tracked, V.view_tracked, Multiset.mem_coe]

/-- **Deregistering an object's handlers keeps the agreement.** -/
theorem deregisterHandlersForObject_outcome {objectIdOf : α → ObjectId}
    {deregister : ObjectId → σ → Option KernelOserror × σ}
    (hlaw : ∀ id x, held (deregister id x).2 =
      V.put ((V.view (held x)).filter fun h => objectIdOf h ≠ id) (held x))
    (hs : Tracks held lost s env) (objectId : ObjectId) :
    ∃ e s' env',
      deregisterHandlersForObject kind objectIdOf deregister objectId s env = .ok (e, s', env') ∧
      Outcome held lost kind s s' env' ∧
      held env' = V.put ((V.view (held env)).filter fun h => objectIdOf h ≠ objectId)
        (held env) := by
  obtain ⟨b, howns, he⟩ :=
    V.deregisterHandlersForObject_eq objectIdOf deregister objectId hs.owns env
  refine ⟨_, _, _, he, ⟨⟨howns, ?_⟩, ⟨_, _, rfl⟩⟩, hlaw objectId env⟩
  rw [V.tracked_update, hlaw, ← hs.tracked, V.view_tracked, Multiset.filter_coe,
    ← vals_filter (p := fun h => objectIdOf h ≠ objectId)]

end KindView

/-! ## The comparisons -/

theorem wimpHandlerMatches_iff {x y : PseudoEventWimpHandler} :
    wimpHandlerMatches x y = true ↔ x = y := by
  cases x; cases y
  simp [wimpHandlerMatches, and_assoc]

theorem toolboxHandlerMatches_iff {x y : PseudoEventToolboxHandler} :
    toolboxHandlerMatches x y = true ↔ x = y := by
  cases x; cases y
  simp [toolboxHandlerMatches, and_assoc]

theorem messageHandlerMatches_iff {x y : PseudoEventMessageHandler} :
    messageHandlerMatches x y = true ↔ x = y := by
  cases x; cases y
  simp [messageHandlerMatches, and_assoc]

/-! ## Steps -/

/-- **A single deregistration of a handler not held** ends the program. -/
theorem exec_of_unheld (debug : Bool) (hs : Tracks L.held lost s env) (hc : c.Unheld (L.held env)) :
    c.exec K L debug s env = .error (if debug then .assertFailed else .abort) := by
  cases c with
  | deregisterToolbox h =>
    exact tbView.deregisterHandler_unheld (fun _ _ => toolboxHandlerMatches_iff) _ hs hc
  | deregisterMessage h =>
    exact msgView.deregisterHandler_unheld (fun _ _ => messageHandlerMatches_iff) _ hs hc
  | deregisterWimp h =>
    exact wimpView.deregisterHandler_unheld (fun _ _ => wimpHandlerMatches_iff) _ hs hc
  | _ => exact hc.elim

/-- **Any other call returns** and keeps the agreement. -/
theorem exec_of_held (K : Kernel) (debug : Bool) (hL : L.Lawful) (hs : Tracks L.held lost s env)
    (hc : ¬ c.Unheld (L.held env)) :
    ∃ e s' env', c.exec K L debug s env = .ok (e, s', env') ∧ Tracks L.held lost s' env' ∧
      c.Frame s s' ∧ (c.Registers → e ≠ none → s' = s ∧ L.held env' = L.held env) ∧
      ((c.Registers → e = none) → L.held env' = c.effect (L.held env)) := by
  cases c with
  | registerToolbox A h =>
    obtain ⟨e, s', env', he, ⟨hout, _, _, rfl⟩, hfail, hheld⟩ :=
      tbView.registerHandler_outcome (K := K) (A := A) hL.registerToolbox hs h
    exact ⟨e, _, env', he, hout, ⟨rfl, rfl, rfl⟩, fun _ => hfail, fun hr => hheld (hr trivial)⟩
  | deregisterToolbox h =>
    obtain ⟨e, s', env', he, ⟨hout, _, _, rfl⟩, hheld⟩ :=
      tbView.deregisterHandler_outcome (fun _ _ => toolboxHandlerMatches_iff)
        hL.deregisterToolbox hs (not_not.mp hc)
    exact ⟨e, _, env', he, hout, ⟨rfl, rfl, rfl⟩, fun hr => hr.elim, fun _ => hheld⟩
  | deregisterToolboxForObject objectId =>
    obtain ⟨e, s', env', he, ⟨hout, _, _, rfl⟩, hheld⟩ :=
      tbView.deregisterHandlersForObject_outcome hL.deregisterToolboxForObject hs objectId
    exact ⟨e, _, env', he, hout, ⟨rfl, rfl, rfl⟩, fun hr => hr.elim, fun _ => hheld⟩
  | registerMessage A h =>
    obtain ⟨e, s', env', he, ⟨hout, _, _, rfl⟩, hfail, hheld⟩ :=
      msgView.registerHandler_outcome (K := K) (A := A) hL.registerMessage hs h
    exact ⟨e, _, env', he, hout, ⟨rfl, rfl, rfl⟩, fun _ => hfail, fun hr => hheld (hr trivial)⟩
  | deregisterMessage h =>
    obtain ⟨e, s', env', he, ⟨hout, _, _, rfl⟩, hheld⟩ :=
      msgView.deregisterHandler_outcome (fun _ _ => messageHandlerMatches_iff)
        hL.deregisterMessage hs (not_not.mp hc)
    exact ⟨e, _, env', he, hout, ⟨rfl, rfl, rfl⟩, fun hr => hr.elim, fun _ => hheld⟩
  | registerWimp A h =>
    obtain ⟨e, s', env', he, ⟨hout, _, _, rfl⟩, hfail, hheld⟩ :=
      wimpView.registerHandler_outcome (K := K) (A := A) hL.registerWimp hs h
    exact ⟨e, _, env', he, hout, ⟨rfl, rfl, rfl⟩, fun _ => hfail, fun hr => hheld (hr trivial)⟩
  | deregisterWimp h =>
    obtain ⟨e, s', env', he, ⟨hout, _, _, rfl⟩, hheld⟩ :=
      wimpView.deregisterHandler_outcome (fun _ _ => wimpHandlerMatches_iff)
        hL.deregisterWimp hs (not_not.mp hc)
    exact ⟨e, _, env', he, hout, ⟨rfl, rfl, rfl⟩, fun hr => hr.elim, fun _ => hheld⟩
  | deregisterWimpForObject objectId =>
    obtain ⟨e, s', env', he, ⟨hout, _, _, rfl⟩, hheld⟩ :=
      wimpView.deregisterHandlersForObject_outcome hL.deregisterWimpForObject hs objectId
    exact ⟨e, _, env', he, hout, ⟨rfl, rfl, rfl⟩, fun hr => hr.elim, fun _ => hheld⟩

/-- What a call that returns comes to. -/
theorem exec_ok (hL : L.Lawful) (hs : Tracks L.held lost s env)
    (he : c.exec K L debug s env = .ok (e, s', env')) :
    Tracks L.held lost s' env' ∧
      c.Frame s s' ∧ (c.Registers → e ≠ none → s' = s ∧ L.held env' = L.held env) ∧
      ((c.Registers → e = none) → L.held env' = c.effect (L.held env)) := by
  by_cases hc : c.Unheld (L.held env)
  · rw [exec_of_unheld debug hs hc] at he
    cases he
  · obtain ⟨e₀, s₀, env₀, he₀, hout⟩ := exec_of_held K debug hL hs hc
    rw [he] at he₀
    obtain ⟨rfl, rfl, rfl⟩ : e = e₀ ∧ s' = s₀ ∧ env' = env₀ := by simpa using he₀
    exact hout

/-! ## Runs -/

variable {allow : Bool} {block : Addr} {env₀ env₁ : σ} {s₁ : State} {calls : List Call}

/-- Initialising leaves no records, and no handlers. -/
theorem simulates_initialise (hL : L.Lawful)
    (h : pseudoEventInitialise K L allow block initial env₀ = (none, s₁, env₁)) :
    Simulates L.held s₁ env₁ := by
  cases allow with
  | false => simp [pseudoEventInitialise] at h
  | true =>
    obtain ⟨hnone, rfl, rfl⟩ :
        (L.eventInitialise block env₀).1 = none ∧ { initial with clientBlock := some block } = s₁ ∧
          (L.eventInitialise block env₀).2 = env₁ := by
      simpa [pseudoEventInitialise, initial] using h
    refine ⟨⟨wf_initial.nodup, wf_initial.mem_blocks⟩, ?_⟩
    rw [hL.initialise _ _ hnone]
    rfl

/-- **The trackers simulate the event library's registries.** After every
step of a run that begins with a successful initialisation, the records
of each kind are the handlers of that kind that the library holds, with
their multiplicities, and the live blocks are the records', one each. The
next call changes the list of its own kind only; a registration that
returns an error changes neither the state nor what the library holds, and
one that returns none adds its handler to both; a deregistration takes from
both what it is to deregister; and a call ends the program if and only if
it deregisters a handler that the library does not hold. -/
theorem trackers_simulate_registries (K : Kernel) (debug : Bool) (hL : L.Lawful)
    (h₁ : pseudoEventInitialise K L allow block initial env₀ = (none, s₁, env₁))
    (hrun : Run (Step K L debug) (s₁, env₁) calls (s, env)) :
    s.tracked = L.held env ∧
    (s.recordAddrs.Nodup ∧ s.blocks = s.recordAddrs.toFinset) ∧
    (∀ (c : Call) e s' env', c.exec K L debug s env = .ok (e, s', env') → c.Frame s s' ∧
      (c.Registers → e ≠ none → s' = s ∧ L.held env' = L.held env) ∧
      ((c.Registers → e = none) →
        s'.tracked = c.effect s.tracked ∧ L.held env' = c.effect (L.held env))) ∧
    (∀ c : Call, c.Unheld (L.held env) ↔
      c.exec K L debug s env = .error (if debug then .assertFailed else .abort)) ∧
    (∀ c : Call, ¬ c.Unheld (L.held env) →
      ∃ e s' env', c.exec K L debug s env = .ok (e, s', env')) := by
  have hs : Tracks L.held ∅ s env := by
    refine hrun.invariant (I := fun t => Tracks L.held ∅ t.1 t.2)
      (simulates_iff.mp (simulates_initialise hL h₁)) ?_
    rintro t c u hi ⟨e, he⟩
    exact (exec_ok hL hi he).1
  refine ⟨hs.tracked, ⟨hs.owns.nodup, ?_⟩, fun c e s' env' he => ?_,
    fun c => ⟨exec_of_unheld debug hs, fun hf => ?_⟩, fun c hc => ?_⟩
  · ext a
    rw [(simulates_iff.mpr hs).wf.mem_blocks, List.mem_toFinset]
  · obtain ⟨hs', hframe, hfail, heffect⟩ := exec_ok hL hs he
    refine ⟨hframe, hfail, fun hr => ⟨?_, heffect hr⟩⟩
    -- the two sides agree before the call and after it
    rw [hs'.tracked, heffect hr, hs.tracked]
  · -- any other call would have returned
    by_contra hc
    obtain ⟨e, s', env', he, -⟩ := exec_of_held K debug hL hs hc
    rw [he] at hf
    cases hf
  · obtain ⟨e, s', env', he, -⟩ := exec_of_held K debug hL hs hc
    exact ⟨e, s', env', he⟩

/-- An event library that keeps multisets of handlers, and refuses Wimp
handlers for negative event codes. -/
def EventLib.plain : EventLib Registries where
  eventInitialise := fun _ _ => (none, ⟨0, 0, 0⟩)
  eventRegisterWimpHandler := fun h r =>
    if h.eventCode < 0 then (some ⟨dummyErrno, "BadCode"⟩, r)
    else (none, { r with wimp := h ::ₘ r.wimp })
  eventDeregisterWimpHandler := fun h r => (none, { r with wimp := r.wimp.erase h })
  eventDeregisterWimpHandlersForObject := fun objectId r =>
    (none, { r with wimp := r.wimp.filter fun h => h.objectId ≠ objectId })
  eventRegisterToolboxHandler := fun h r => (none, { r with tb := h ::ₘ r.tb })
  eventDeregisterToolboxHandler := fun h r => (none, { r with tb := r.tb.erase h })
  eventDeregisterToolboxHandlersForObject := fun objectId r =>
    (none, { r with tb := r.tb.filter fun h => h.objectId ≠ objectId })
  eventRegisterMessageHandler := fun h r => (none, { r with msg := h ::ₘ r.msg })
  eventDeregisterMessageHandler := fun h r => (none, { r with msg := r.msg.erase h })
  held := id

theorem EventLib.plain_lawful : EventLib.plain.Lawful where
  initialise := fun _ _ _ => rfl
  registerWimp := fun h x => by
    by_cases hneg : h.eventCode < 0 <;> simp [EventLib.plain, hneg]
  deregisterWimp := fun _ _ _ => rfl
  deregisterWimpForObject := fun _ _ => rfl
  registerToolbox := fun _ _ => rfl
  deregisterToolbox := fun _ _ _ => rfl
  deregisterToolboxForObject := fun _ _ => rfl
  registerMessage := fun _ _ => rfl
  deregisterMessage := fun _ _ _ => rfl

/-- Handlers of all three kinds registered, one of them twice, two of them
refused, and two kinds of them deregistered: the third is still held, and
one deregistered again ends the program. -/
theorem trackers_simulate_registries_kinds :
    let t : PseudoEventToolboxHandler := ⟨5, 1, ⟨6⟩, 0⟩
    let v : PseudoEventWimpHandler := ⟨5, 2, ⟨8⟩, 0⟩
    let m : PseudoEventMessageHandler := ⟨4, ⟨7⟩, 0⟩
    let s : State := ⟨[], [], [⟨4, m⟩], some 9, {4}⟩
    Run (Step Kernel.plain EventLib.plain true) (⟨[], [], [], some 9, ∅⟩, ⟨0, 0, 0⟩)
      [.registerToolbox (.only 1) t, .registerWimp (.only 2) v, .registerWimp (.only 3) v,
        .registerWimp (.only 4) { v with eventCode := -1 }, .registerMessage .refuse m,
        .registerMessage (.only 4) m, .deregisterWimpForObject 5, .deregisterToolbox t]
      (s, ⟨0, 0, {m}⟩) ∧
    s.tracked = ⟨0, 0, {m}⟩ ∧ s.blocks = s.recordAddrs.toFinset ∧
    (Call.deregisterToolbox t).exec Kernel.plain EventLib.plain true s ⟨0, 0, {m}⟩ =
      .error .assertFailed := by
  intro t v m s
  have hinit : pseudoEventInitialise Kernel.plain EventLib.plain true 9 initial ⟨0, 0, 0⟩ =
      (none, ⟨[], [], [], some 9, ∅⟩, ⟨0, 0, 0⟩) := rfl
  have htoolbox : Step Kernel.plain EventLib.plain true (⟨[], [], [], some 9, ∅⟩, ⟨0, 0, 0⟩)
      (.registerToolbox (.only 1) t) (⟨[], [⟨1, t⟩], [], some 9, {1}⟩, ⟨0, {t}, 0⟩) := ⟨none, rfl⟩
  have hwimp : Step Kernel.plain EventLib.plain true
      (⟨[], [⟨1, t⟩], [], some 9, {1}⟩, ⟨0, {t}, 0⟩) (.registerWimp (.only 2) v)
      (⟨[⟨2, v⟩], [⟨1, t⟩], [], some 9, {2, 1}⟩, ⟨{v}, {t}, 0⟩) := ⟨none, rfl⟩
  have hagain : Step Kernel.plain EventLib.plain true
      (⟨[⟨2, v⟩], [⟨1, t⟩], [], some 9, {2, 1}⟩, ⟨{v}, {t}, 0⟩) (.registerWimp (.only 3) v)
      (⟨[⟨3, v⟩, ⟨2, v⟩], [⟨1, t⟩], [], some 9, {3, 2, 1}⟩, ⟨{v, v}, {t}, 0⟩) := ⟨none, rfl⟩
  have hbad : Step Kernel.plain EventLib.plain true
      (⟨[⟨3, v⟩, ⟨2, v⟩], [⟨1, t⟩], [], some 9, {3, 2, 1}⟩, ⟨{v, v}, {t}, 0⟩)
      (.registerWimp (.only 4) { v with eventCode := -1 })
      (⟨[⟨3, v⟩, ⟨2, v⟩], [⟨1, t⟩], [], some 9, {3, 2, 1}⟩, ⟨{v, v}, {t}, 0⟩) := ⟨_, rfl⟩
  have hnoMemory : Step Kernel.plain EventLib.plain true
      (⟨[⟨3, v⟩, ⟨2, v⟩], [⟨1, t⟩], [], some 9, {3, 2, 1}⟩, ⟨{v, v}, {t}, 0⟩)
      (.registerMessage .refuse m)
      (⟨[⟨3, v⟩, ⟨2, v⟩], [⟨1, t⟩], [], some 9, {3, 2, 1}⟩, ⟨{v, v}, {t}, 0⟩) := ⟨_, rfl⟩
  have hmessage : Step Kernel.plain EventLib.plain true
      (⟨[⟨3, v⟩, ⟨2, v⟩], [⟨1, t⟩], [], some 9, {3, 2, 1}⟩, ⟨{v, v}, {t}, 0⟩)
      (.registerMessage (.only 4) m)
      (⟨[⟨3, v⟩, ⟨2, v⟩], [⟨1, t⟩], [⟨4, m⟩], some 9, {4, 3, 2, 1}⟩, ⟨{v, v}, {t}, {m}⟩) :=
    ⟨none, rfl⟩
  have hobject : Step Kernel.plain EventLib.plain true
      (⟨[⟨3, v⟩, ⟨2, v⟩], [⟨1, t⟩], [⟨4, m⟩], some 9, {4, 3, 2, 1}⟩, ⟨{v, v}, {t}, {m}⟩)
      (.deregisterWimpForObject 5)
      (⟨[], [⟨1, t⟩], [⟨4, m⟩], some 9, {4, 1}⟩, ⟨0, {t}, {m}⟩) := ⟨none, rfl⟩
  have hlast : Step Kernel.plain EventLib.plain true
      (⟨[], [⟨1, t⟩], [⟨4, m⟩], some 9, {4, 1}⟩, ⟨0, {t}, {m}⟩) (.deregisterToolbox t)
      (s, ⟨0, 0, {m}⟩) := ⟨none, rfl⟩
  have hrun := (((((((Run.nil.snoc htoolbox).snoc hwimp).snoc hagain).snoc hbad).snoc
    hnoMemory).snoc hmessage).snoc hobject).snoc hlast
  obtain ⟨htracked, ⟨-, hblocks⟩, -, hends, -⟩ :=
    trackers_simulate_registries Kernel.plain true EventLib.plain_lawful hinit hrun
  refine ⟨hrun, htracked, hblocks, (hends (.deregisterToolbox t)).mp ?_⟩
  exact Multiset.notMem_zero t

end Evnt

end CBPseudo
