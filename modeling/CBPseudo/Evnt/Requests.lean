import CBPseudo.Evnt.Registry

/-!
# Event handler trackers — as a client sees them

A client passes a handler and is answered with an error or none. Where the
call returns, the answer is the event library's own, unless there was no
memory for a record, in which case the library was not asked.

Whatever the library answers, the records are of the handlers that the
client has registered and not deregistered, since the library was last
initialised (`Counts`).
-/

namespace CBPseudo

open Common

namespace Evnt

/-- **A call, as a client makes it.** -/
inductive Request
  | registerToolbox (h : PseudoEventToolboxHandler)
  | deregisterToolbox (h : PseudoEventToolboxHandler)
  | deregisterToolboxForObject (objectId : ObjectId)
  | registerMessage (h : PseudoEventMessageHandler)
  | deregisterMessage (h : PseudoEventMessageHandler)
  | registerWimp (h : PseudoEventWimpHandler)
  | deregisterWimp (h : PseudoEventWimpHandler)
  | deregisterWimpForObject (objectId : ObjectId)
  deriving DecidableEq

namespace Request

/-- The call, with what the allocator will answer it if it asks. -/
def call (A : Allocator) : Request → Call
  | .registerToolbox h => .registerToolbox A h
  | .deregisterToolbox h => .deregisterToolbox h
  | .deregisterToolboxForObject objectId => .deregisterToolboxForObject objectId
  | .registerMessage h => .registerMessage A h
  | .deregisterMessage h => .deregisterMessage h
  | .registerWimp h => .registerWimp A h
  | .deregisterWimp h => .deregisterWimp h
  | .deregisterWimpForObject objectId => .deregisterWimpForObject objectId

/-- The event library's answer. -/
def answer {σ : Type} (L : EventLib σ) : Request → σ → Option KernelOserror × σ
  | .registerToolbox h => L.eventRegisterToolboxHandler h
  | .deregisterToolbox h => L.eventDeregisterToolboxHandler h
  | .deregisterToolboxForObject objectId => L.eventDeregisterToolboxHandlersForObject objectId
  | .registerMessage h => L.eventRegisterMessageHandler h
  | .deregisterMessage h => L.eventDeregisterMessageHandler h
  | .registerWimp h => L.eventRegisterWimpHandler h
  | .deregisterWimp h => L.eventDeregisterWimpHandler h
  | .deregisterWimpForObject objectId => L.eventDeregisterWimpHandlersForObject objectId

/-- The calls that need memory. -/
def canFail : Request → Bool
  | .registerToolbox _ | .registerMessage _ | .registerWimp _ => true
  | _ => false

/-- A single deregistration of a handler that is not held. -/
def unheld (r : Registries) : Request → Bool
  | .deregisterToolbox h => decide (h ∉ r.tb)
  | .deregisterMessage h => decide (h ∉ r.msg)
  | .deregisterWimp h => decide (h ∉ r.wimp)
  | _ => false

/-- **What a client has registered**, after a call answered `e`. -/
def registered (e : Option KernelOserror) (r : Registries) (c : Request) : Registries :=
  if c.canFail && e.isSome then r else (c.call .refuse).effect r

end Request

variable {σ α : Type} {s s' : State} {env env' : σ} {K : Kernel} {L : EventLib σ} {debug : Bool}
variable {A : Allocator} {e : Option KernelOserror} {kind : HandlerKind α} {lost : Finset Addr}

theorem unheld_call {r : Registries} (c : Request) :
    (c.call A).Unheld r ↔ c.unheld r = true := by
  cases c <;> simp [Request.call, Call.Unheld, Request.unheld]

theorem registers_call (c : Request) : (c.call A).Registers ↔ c.canFail = true := by
  cases c <;> simp [Request.call, Call.Registers, Request.canFail]

/-- The allocator has no say in what a call does. -/
theorem effect_call (r : Registries) (c : Request) :
    (c.call A).effect r = (c.call .refuse).effect r := by
  cases c <;> rfl

/-! ## Answers -/

/-- A registration with memory for the record. -/
theorem registerHandler_answer {register : α → σ → Option KernelOserror × σ} {h : α}
    (hg : (A.grant s.blocks).isSome)
    (he : registerHandler K kind register A h s env = .ok (e, s', env')) :
    register h env = (e, env') := by
  obtain ⟨a, ha⟩ := Option.isSome_iff_exists.mp hg
  unfold registerHandler at he
  rw [ha] at he
  rcases hr : register h env with ⟨_ | e₀, env₀⟩
  · simp only [hr] at he
    cases he
    rfl
  · simp only [hr] at he
    obtain ⟨s₁, -, he⟩ := bind_eq_ok.mp he
    cases he
    rfl

theorem deregisterHandler_answer {matches_ : α → α → Bool}
    {deregister : α → σ → Option KernelOserror × σ} {h : α}
    (he : deregisterHandler debug kind matches_ deregister h s env = .ok (e, s', env')) :
    deregister h env = (e, env') := by
  unfold deregisterHandler at he
  obtain ⟨-, -, he⟩ := bind_eq_ok.mp he
  split at he
  · cases he
  · obtain ⟨s₁, -, he⟩ := bind_eq_ok.mp he
    cases he
    rfl

theorem deregisterHandlersForObject_answer {objectIdOf : α → ObjectId}
    {deregister : ObjectId → σ → Option KernelOserror × σ} {objectId : ObjectId}
    (he : deregisterHandlersForObject kind objectIdOf deregister objectId s env =
      .ok (e, s', env')) :
    deregister objectId env = (e, env') := by
  unfold deregisterHandlersForObject at he
  obtain ⟨⟨_, s₁⟩, -, he⟩ := bind_eq_ok.mp he
  cases he
  rfl

/-- **A call with memory for a record, if it asks for one**, is answered as
the library answers. -/
theorem exec_answer (c : Request) (hg : (A.grant s.blocks).isSome)
    (he : (c.call A).exec K L debug s env = .ok (e, s', env')) : c.answer L env = (e, env') := by
  cases c with
  | registerToolbox h =>
    show L.eventRegisterToolboxHandler h env = (e, env')
    exact registerHandler_answer hg he
  | deregisterToolbox h =>
    show L.eventDeregisterToolboxHandler h env = (e, env')
    exact deregisterHandler_answer he
  | deregisterToolboxForObject objectId =>
    show L.eventDeregisterToolboxHandlersForObject objectId env = (e, env')
    exact deregisterHandlersForObject_answer he
  | registerMessage h =>
    show L.eventRegisterMessageHandler h env = (e, env')
    exact registerHandler_answer hg he
  | deregisterMessage h =>
    show L.eventDeregisterMessageHandler h env = (e, env')
    exact deregisterHandler_answer he
  | registerWimp h =>
    show L.eventRegisterWimpHandler h env = (e, env')
    exact registerHandler_answer hg he
  | deregisterWimp h =>
    show L.eventDeregisterWimpHandler h env = (e, env')
    exact deregisterHandler_answer he
  | deregisterWimpForObject objectId =>
    show L.eventDeregisterWimpHandlersForObject objectId env = (e, env')
    exact deregisterHandlersForObject_answer he

/-! ## Records, whatever the library answers -/

namespace KindView

variable (V : KindView kind)

include V

/-- Registering a handler keeps its record or gives it back. -/
theorem registerHandler_records (K : Kernel) (register : α → σ → Option KernelOserror × σ)
    (A : Allocator) (h : α) (ho : s.Owns lost) (env : σ) :
    ∃ e s' env', registerHandler K kind register A h s env = .ok (e, s', env') ∧ s'.Owns lost ∧
      (∃ l b, s' = s.update kind l b) ∧ (e ≠ none → s' = s) ∧
      (e = none → s'.tracked = V.put (h ::ₘ V.view s.tracked) s.tracked) := by
  have hself : ∃ l b, s = s.update kind l b := ⟨_, _, (V.update_self s).symm⟩
  rcases V.registerHandler_cases K register A h s env with
    he | ⟨e, -, he⟩ | ⟨a, ha, -, he⟩
  · exact ⟨_, _, _, he, ho, hself, fun _ => rfl, fun hnone => by cases hnone⟩
  · exact ⟨_, _, _, he, ho, hself, fun _ => rfl, fun hnone => by cases hnone⟩
  · refine ⟨_, _, _, he, V.owns_insert ho ha, ⟨_, _, rfl⟩, fun hne => absurd rfl hne, fun _ => ?_⟩
    rw [V.tracked_update, V.view_tracked, vals_cons, Multiset.cons_coe]

/-- Deregistering a handler that has a record frees the record. -/
theorem deregisterHandler_records [DecidableEq α] (debug : Bool) {matches_ : α → α → Bool}
    (hm : ∀ x y, matches_ x y = true ↔ x = y) (deregister : α → σ → Option KernelOserror × σ)
    (ho : s.Owns lost) (env : σ) {h : α} (hmem : h ∈ V.view s.tracked) :
    ∃ e s' env', deregisterHandler debug kind matches_ deregister h s env = .ok (e, s', env') ∧
      s'.Owns lost ∧ (∃ l b, s' = s.update kind l b) ∧
      s'.tracked = V.put ((V.view s.tracked).erase h) s.tracked := by
  have hvals := hmem
  rw [V.view_tracked, Multiset.mem_coe] at hvals
  obtain ⟨it, hit, -, herase, he⟩ := V.deregisterHandler_of_mem debug hm deregister ho env hvals
  refine ⟨_, _, _, he, V.owns_remove ho hit, ⟨_, _, rfl⟩, ?_⟩
  rw [V.tracked_update, herase, V.view_tracked, Multiset.coe_erase]

/-- Deregistering an object's handlers frees their records. -/
theorem deregisterHandlersForObject_records (objectIdOf : α → ObjectId)
    (deregister : ObjectId → σ → Option KernelOserror × σ) (objectId : ObjectId) (ho : s.Owns lost)
    (env : σ) :
    ∃ e s' env',
      deregisterHandlersForObject kind objectIdOf deregister objectId s env = .ok (e, s', env') ∧
      s'.Owns lost ∧ (∃ l b, s' = s.update kind l b) ∧
      s'.tracked =
        V.put ((V.view s.tracked).filter fun h => objectIdOf h ≠ objectId) s.tracked := by
  obtain ⟨b, ho', he⟩ := V.deregisterHandlersForObject_eq objectIdOf deregister objectId ho env
  refine ⟨_, _, _, he, ho', ⟨_, _, rfl⟩, ?_⟩
  rw [V.tracked_update, V.view_tracked, Multiset.filter_coe,
    ← vals_filter (p := fun h => objectIdOf h ≠ objectId)]

end KindView

/-- **A single deregistration of a handler without a record** ends the
program. -/
theorem exec_of_untracked (K : Kernel) (L : EventLib σ) (debug : Bool) (env : σ) {c : Call}
    (hc : c.Unheld s.tracked) :
    c.exec K L debug s env = .error (if debug then .assertFailed else .abort) := by
  cases c with
  | deregisterToolbox h =>
    exact KindView.deregisterHandler_of_notMem (fun _ _ => toolboxHandlerMatches_iff) _ hc
  | deregisterMessage h =>
    exact KindView.deregisterHandler_of_notMem (fun _ _ => messageHandlerMatches_iff) _ hc
  | deregisterWimp h =>
    exact KindView.deregisterHandler_of_notMem (fun _ _ => wimpHandlerMatches_iff) _ hc
  | _ => exact hc.elim

/-- **Any other call returns**, and keeps account of the handlers and of the
blocks. -/
theorem exec_of_tracked (K : Kernel) (L : EventLib σ) (debug : Bool) (env : σ) {c : Call}
    (ho : s.Owns lost) (hc : ¬ c.Unheld s.tracked) :
    ∃ e s' env', c.exec K L debug s env = .ok (e, s', env') ∧ s'.Owns lost ∧ c.Frame s s' ∧
      (c.Registers → e ≠ none → s' = s) ∧
      ((c.Registers → e = none) → s'.tracked = c.effect s.tracked) := by
  cases c with
  | registerToolbox A h =>
    obtain ⟨e, _, env', he, ho', ⟨_, _, rfl⟩, hfail, hdone⟩ :=
      tbView.registerHandler_records K L.eventRegisterToolboxHandler A h ho env
    exact ⟨e, _, env', he, ho', ⟨rfl, rfl, rfl⟩, fun _ => hfail, fun hr => hdone (hr trivial)⟩
  | deregisterToolbox h =>
    obtain ⟨e, _, env', he, ho', ⟨_, _, rfl⟩, hdone⟩ := tbView.deregisterHandler_records debug
      (fun _ _ => toolboxHandlerMatches_iff) L.eventDeregisterToolboxHandler ho env (not_not.mp hc)
    exact ⟨e, _, env', he, ho', ⟨rfl, rfl, rfl⟩, fun hr => hr.elim, fun _ => hdone⟩
  | deregisterToolboxForObject objectId =>
    obtain ⟨e, _, env', he, ho', ⟨_, _, rfl⟩, hdone⟩ :=
      tbView.deregisterHandlersForObject_records PseudoEventToolboxHandler.objectId
        L.eventDeregisterToolboxHandlersForObject objectId ho env
    exact ⟨e, _, env', he, ho', ⟨rfl, rfl, rfl⟩, fun hr => hr.elim, fun _ => hdone⟩
  | registerMessage A h =>
    obtain ⟨e, _, env', he, ho', ⟨_, _, rfl⟩, hfail, hdone⟩ :=
      msgView.registerHandler_records K L.eventRegisterMessageHandler A h ho env
    exact ⟨e, _, env', he, ho', ⟨rfl, rfl, rfl⟩, fun _ => hfail, fun hr => hdone (hr trivial)⟩
  | deregisterMessage h =>
    obtain ⟨e, _, env', he, ho', ⟨_, _, rfl⟩, hdone⟩ := msgView.deregisterHandler_records debug
      (fun _ _ => messageHandlerMatches_iff) L.eventDeregisterMessageHandler ho env (not_not.mp hc)
    exact ⟨e, _, env', he, ho', ⟨rfl, rfl, rfl⟩, fun hr => hr.elim, fun _ => hdone⟩
  | registerWimp A h =>
    obtain ⟨e, _, env', he, ho', ⟨_, _, rfl⟩, hfail, hdone⟩ :=
      wimpView.registerHandler_records K L.eventRegisterWimpHandler A h ho env
    exact ⟨e, _, env', he, ho', ⟨rfl, rfl, rfl⟩, fun _ => hfail, fun hr => hdone (hr trivial)⟩
  | deregisterWimp h =>
    obtain ⟨e, _, env', he, ho', ⟨_, _, rfl⟩, hdone⟩ := wimpView.deregisterHandler_records debug
      (fun _ _ => wimpHandlerMatches_iff) L.eventDeregisterWimpHandler ho env (not_not.mp hc)
    exact ⟨e, _, env', he, ho', ⟨rfl, rfl, rfl⟩, fun hr => hr.elim, fun _ => hdone⟩
  | deregisterWimpForObject objectId =>
    obtain ⟨e, _, env', he, ho', ⟨_, _, rfl⟩, hdone⟩ :=
      wimpView.deregisterHandlersForObject_records PseudoEventWimpHandler.objectId
        L.eventDeregisterWimpHandlersForObject objectId ho env
    exact ⟨e, _, env', he, ho', ⟨rfl, rfl, rfl⟩, fun hr => hr.elim, fun _ => hdone⟩

/-! ## What a client has registered -/

/-- **The trackers count a client's handlers**: there is a record of each
that is registered, and other blocks may be lost. -/
structure Counts (s : State) (r : Registries) : Prop where
  owns : ∃ lost, s.Owns lost
  tracked : s.tracked = r

theorem counts_initial : Counts initial ⟨0, 0, 0⟩ := ⟨⟨∅, wf_iff_owns.mp wf_initial⟩, rfl⟩

/-- Initialising the library, whatever it answers, leaves the trackers with no
handlers and the blocks lost. -/
theorem counts_initialise (K : Kernel) (L : EventLib σ) (block : Addr) (s : State) (env : σ) :
    ∃ s', pseudoEventInitialise K L true block s env =
        ((L.eventInitialise block env).1, s', (L.eventInitialise block env).2) ∧
      Counts s' ⟨0, 0, 0⟩ ∧ s'.clientBlock = some block := by
  refine ⟨_, rfl, ⟨⟨s.blocks, List.nodup_nil, fun a => ?_, fun _ _ => List.not_mem_nil⟩, rfl⟩, rfl⟩
  exact (or_iff_right List.not_mem_nil).symm

/-- **A call of a client's** counts, or ends the program. -/
theorem Counts.exec {r : Registries} (h : Counts s r) (K : Kernel) (L : EventLib σ) (debug : Bool)
    (hg : (A.grant s.blocks).isSome) (c : Request) (env : σ) :
    (c.unheld r = true ∧ (c.call A).exec K L debug s env =
      .error (if debug then .assertFailed else .abort)) ∨
    c.unheld r = false ∧ ∃ s', (c.call A).exec K L debug s env =
        .ok ((c.answer L env).1, s', (c.answer L env).2) ∧
      Counts s' (c.registered (c.answer L env).1 r) ∧ s'.clientBlock = s.clientBlock := by
  obtain ⟨⟨lost, ho⟩, rfl⟩ := h
  cases hc : c.unheld s.tracked with
  | true => exact .inl ⟨rfl, exec_of_untracked K L debug env ((unheld_call c).mpr hc)⟩
  | false =>
    have hheld : ¬ (c.call A).Unheld s.tracked := mt (unheld_call c).mp (by rw [hc]; decide)
    obtain ⟨e, s', env', he, ho', hframe, hfail, hdone⟩ := exec_of_tracked K L debug env ho hheld
    have hanswer := exec_answer c hg he
    refine .inr ⟨rfl, s', by rw [hanswer, he], ⟨⟨lost, ho'⟩, ?_⟩, hframe.1⟩
    rw [hanswer]
    rw [registers_call] at hfail hdone
    rw [effect_call] at hdone
    unfold Request.registered
    split
    · next hrefused =>
      rw [Bool.and_eq_true] at hrefused
      rw [hfail hrefused.1 (Option.isSome_iff_ne_none.mp hrefused.2)]
    · next hgoes =>
      exact hdone fun hr => by simpa [hr] using hgoes

/-- A registration without memory. -/
theorem exec_refuse {c : Request} (h : c.canFail = true) :
    (c.call .refuse).exec K L debug s env = .ok (some (oom K), s, env) := by
  cases c with
  | registerToolbox h | registerMessage h | registerWimp h => rfl
  | _ => cases h

end Evnt

end CBPseudo
