import CBPseudo.Evnt.Failures
import CBPseudo.Evnt.Requests

/-!
# Leaks

The lists of handlers and of objects are there so that what a client does
not give back shows up as leaked memory. Initialising either library
empties its lists, and the blocks of the records stay. In every run the
live blocks are therefore those of the records on the lists, one each, and
those of the records that were on them when they were emptied, whatever
the libraries answer. No block is freed twice, and nothing goes wrong but
where a handler is deregistered that has no record.
-/

namespace CBPseudo

open Common

namespace Evnt

variable {σ α : Type} {s s' : State} {env env' : σ} {debug : Bool} {A : Allocator}
variable {e : Option KernelOserror} {c : Call} {lost : Finset Addr}

/-! ## Handlers -/

theorem owns_iff_accounts : s.Owns lost ↔ Accounts (lost : Set Addr) s.recordAddrs s.blocks :=
  ⟨fun ho => ⟨ho.nodup, ho.mem_blocks, ho.notMem⟩, fun h => ⟨h.nodup, h.mem_live, h.notMem⟩⟩

/-! ## Steps -/

section Steps

variable {K : Kernel} {L : Libs σ} {w w' : World σ} {h : Happening L.evnt.held} {l : Set Addr}

/-- The steps that empty the lists of handlers: an initialisation that goes
ahead, whatever the event library answers. -/
def Happening.InitialisesEvents {held : σ → Registries} : Happening held → Prop
  | .recording (.eventInitialise allow _) => allow = true
  | _ => False

/-- The steps that empty the list of objects. -/
def Happening.InitialisesToolbox {held : σ → Registries} : Happening held → Prop
  | .recording (.toolboxInitialise allow _) => allow = true
  | _ => False

theorem happens_unique {u : World σ} (h₁ : Happens K L debug w h w')
    (h₂ : Happens K L debug w h u) : w' = u := by
  obtain ⟨e₁, he₁⟩ := h₁
  obtain ⟨e₂, he₂⟩ := h₂
  rw [he₁] at he₂
  cases he₂
  rfl

/-- Of the five calls, the initialisation of the event library is the only
one that touches the handlers. -/
theorem Recording.exec_evnt {r : Recording} (hr : ∀ block, r ≠ .eventInitialise true block)
    (he : r.exec K L w = .ok (e, w')) : w'.evnt = w.evnt := by
  cases r with
  | eventInitialise allow block =>
    cases allow with
    | false =>
      cases he
      rfl
    | true => exact absurd rfl (hr block)
  | toolboxInitialise allow args =>
    cases he
    rfl
  | deleteObject flags id =>
    obtain ⟨⟨e₁, tbox, env⟩, -, he⟩ := bind_eq_ok.mp he
    cases he
    rfl
  | showObject allow flags id showType type parent parentComponent =>
    cases he
    rfl
  | hideObject allow flags id =>
    cases he
    rfl

/-- A step keeps account of the handlers' blocks, unless it empties their
lists. -/
theorem Happens.evnt_owns (hbox : w.tbox.Owned) (hstep : Happens K L debug w h w')
    (hclear : ¬ h.InitialisesEvents)
    (ho : Accounts l w.evnt.recordAddrs w.evnt.blocks) :
    Accounts l w'.evnt.recordAddrs w'.evnt.blocks := by
  obtain ⟨r, e, rfl, he⟩ | ⟨c, e, evnt, env, -, he, rfl⟩ | ⟨hevnt, -, -⟩ := hstep.cases hbox
  · have hr : ∀ block, r ≠ .eventInitialise true block := by
      rintro block rfl
      exact hclear rfl
    rw [Recording.exec_evnt hr he]
    exact ho
  · -- a call that returned was of a handler with a record
    lift l to Finset Addr using ho.finite
    by_cases hc : c.Unheld w.evnt.tracked
    · rw [exec_of_untracked K L.evnt debug w.env hc] at he
      cases he
    · obtain ⟨e₁, s₁, env₁, he₁, ho₁, -⟩ :=
        exec_of_tracked K L.evnt debug w.env (owns_iff_accounts.mpr ho) hc
      rw [he] at he₁
      cases he₁
      exact owns_iff_accounts.mp ho₁
  · rw [hevnt]
    exact ho

/-- Initialising the event library leaves the blocks where they are. -/
theorem Happens.evnt_cleared (hstep : Happens K L debug w h w') (hclear : h.InitialisesEvents) :
    w'.evnt.recordAddrs = [] ∧ w'.evnt.blocks = w.evnt.blocks := by
  obtain ⟨e, he⟩ := hstep
  cases h with
  | recording r =>
    cases r with
    | eventInitialise allow block =>
      obtain rfl : allow = true := hclear
      cases he
      exact ⟨rfl, rfl⟩
    | _ => exact hclear.elim
  | _ => exact hclear.elim

/-- Tracking an event keeps account of the objects' records. -/
theorem printEvent_owns {ec : ℤ} {pb : WimpPollBlock} (ho : w.tbox.Owns l)
    (he : printEvent A ec pb w = .ok w') : w'.tbox.Owns l := by
  obtain ⟨-, he'⟩ | ⟨id, -, he'⟩ | ⟨id, -, he'⟩ := printEvent_inv A ec pb w <;> rw [he'] at he
  · cases he
    exact ho
  · cases he
    exact ho.objectCreated A id
  · obtain ⟨tbox, hdelete, he⟩ := bind_eq_ok.mp he
    cases he
    exact ho.objectDeleted hdelete

/-- A step keeps account of the objects' records, unless it empties their
list. -/
theorem Happens.tbox_owns (hstep : Happens K L debug w h w') (hclear : ¬ h.InitialisesToolbox)
    (ho : w.tbox.Owns l) : w'.tbox.Owns l := by
  obtain ⟨e, he⟩ := hstep
  cases h with
  | recording r =>
    cases r with
    | eventInitialise allow block =>
      cases he
      exact ho
    | toolboxInitialise allow args =>
      cases allow with
      | false =>
        cases he
        exact ho
      | true => exact absurd rfl hclear
    | deleteObject flags id =>
      obtain ⟨⟨e₁, tbox, env⟩, hexec, he⟩ := bind_eq_ok.mp he
      obtain ⟨tbox', hdelete, hexec⟩ := bind_eq_ok.mp hexec
      cases hexec
      cases he
      exact ho.objectDeleted hdelete
    | showObject allow flags id showType type parent parentComponent =>
      cases allow with
      | false =>
        cases he
        exact ho
      | true =>
        cases he
        exact ho.setShowing id true
    | hideObject allow flags id =>
      cases allow with
      | false =>
        cases he
        exact ho
      | true =>
        cases he
        exact ho.setShowing id false
  | handlers c =>
    obtain ⟨⟨e₁, evnt, env⟩, -, he⟩ := bind_eq_ok.mp he
    cases he
    exact ho
  | createObject A garbage allow flags nameOrTemplate id =>
    obtain ⟨⟨e₁, out, tbox, env⟩, hcreate, he⟩ := bind_eq_ok.mp he
    cases he
    exact ho.createObject hcreate
  | objectCreated A id =>
    cases he
    exact ho.objectCreated A id
  | objectDeleted id =>
    obtain ⟨tbox, hdelete, he⟩ := bind_eq_ok.mp he
    cases he
    exact ho.objectDeleted hdelete
  | toolboxReset =>
    cases he
    exact ho.reset
  | print A ec pb =>
    obtain ⟨w₁, hprint, he⟩ := bind_eq_ok.mp he
    cases he
    exact printEvent_owns ho hprint
  | elsewhere saveAs idBlocks library =>
    cases he
    exact ho.of_addrs rfl rfl

/-- Initialising the Toolbox leaves the records where they are. -/
theorem Happens.tbox_cleared (hstep : Happens K L debug w h w') (hclear : h.InitialisesToolbox) :
    addrs w'.tbox.objects = [] ∧ w'.tbox.records = w.tbox.records := by
  obtain ⟨e, he⟩ := hstep
  cases h with
  | recording r =>
    cases r with
    | toolboxInitialise allow args =>
      obtain rfl : allow = true := hclear
      cases he
      exact ⟨rfl, rfl⟩
    | _ => exact hclear.elim
  | _ => exact hclear.elim

/-- **What is not a call on handlers returns.** -/
theorem Happening.exec_returns (K : Kernel) (debug : Bool) (hbox : w.tbox.Owned)
    (hh : ∀ c, h ≠ .handlers c) : ∃ r, h.exec K L debug w = .ok r := by
  cases h with
  | recording r =>
    obtain ⟨evnt, tbox, hrecord, -⟩ := r.record_spec hbox
    rw [Happening.exec, r.exec_eq, hrecord]
    cases r.allows with
    | false => exact ⟨_, rfl⟩
    | true => exact ⟨_, rfl⟩
  | handlers c => exact absurd rfl (hh c)
  | createObject A garbage allow flags nameOrTemplate id =>
    obtain ⟨e₁, out, tbox, env, hcreate, -⟩ :=
      hbox.createObject K L.tbox A garbage allow flags nameOrTemplate id w.env
    rw [Happening.exec, hcreate]
    exact ⟨_, rfl⟩
  | objectCreated A id => exact ⟨_, rfl⟩
  | objectDeleted id =>
    obtain ⟨tbox, hdelete, -⟩ := hbox.objectDeleted id
    rw [Happening.exec, hdelete]
    exact ⟨_, rfl⟩
  | toolboxReset => exact ⟨_, rfl⟩
  | print A ec pb =>
    obtain ⟨tbox, hprint, -⟩ := printEvent_owned A ec pb hbox
    rw [Happening.exec, hprint]
    exact ⟨_, rfl⟩
  | elsewhere saveAs idBlocks library => exact ⟨_, rfl⟩

/-- **Nothing goes wrong** but where a handler is deregistered that has no
record. -/
theorem Happening.exec_error_iff {f : Fault} (ho : w.evnt.Owns lost) (hbox : w.tbox.Owned) :
    h.exec K L debug w = .error f ↔
      ∃ c, h = .handlers c ∧ c.Unheld w.evnt.tracked ∧
        f = if debug then .assertFailed else .abort := by
  by_cases hh : ∃ c, h = .handlers c
  · obtain ⟨c, rfl⟩ := hh
    simp only [Happening.handlers.injEq, exists_eq_left']
    by_cases hc : c.Unheld w.evnt.tracked
    · simp only [Happening.exec, exec_of_untracked K L.evnt debug w.env hc, hc, true_and]
      constructor
      · intro he
        cases he
        rfl
      · rintro rfl
        rfl
    · obtain ⟨e₁, s₁, env₁, he₁, -⟩ := exec_of_tracked K L.evnt debug w.env ho hc
      simp only [Happening.exec, he₁, hc, false_and, iff_false]
      intro he
      cases he
  · push Not at hh
    obtain ⟨r, he⟩ := Happening.exec_returns K debug hbox hh
    rw [he]
    constructor
    · intro hf
      cases hf
    · rintro ⟨c, rfl, -⟩
      exact absurd rfl (hh c)

end Steps

/-! ## Runs -/

section Runs

variable {K : Kernel} {L : Libs σ} {w : World σ} {idBlocks : Addr → IdBlock} {env₀ : σ}
variable {hs : List (Happening L.evnt.held)}

/-- **What leaks is what is still recorded, or was forgotten.** In every
run from start-up, with any answers of the allocator and the libraries and
any number of initialisations, the live blocks of handlers are those of the
records on the three lists, one each, and of those that were on them when
the event library was initialised; no address is both. So it is for
objects, with the Toolbox. The next call fails to return if and only if it
deregisters a handler without a record: no block is freed twice. -/
theorem blocks_are_recorded_or_forgotten
    (hrun : Run (Happens K L debug) (.fresh idBlocks env₀) hs w) :
    Accounts (Forgotten (Happens K L debug) (fun w => w.evnt.recordAddrs)
      Happening.InitialisesEvents (.fresh idBlocks env₀) hs) w.evnt.recordAddrs w.evnt.blocks ∧
    Accounts (Forgotten (Happens K L debug) (fun w => addrs w.tbox.objects)
      Happening.InitialisesToolbox (.fresh idBlocks env₀) hs) (addrs w.tbox.objects)
      w.tbox.records ∧
    ∀ (h : Happening L.evnt.held) f, h.exec K L debug w = .error f ↔
      ∃ c, h = .handlers c ∧ c.Unheld w.evnt.tracked ∧
        f = if debug then .assertFailed else .abort := by
  have hbox : w.tbox.Owned := owned_of_run hrun
  have hhandlers : Accounts (Forgotten (Happens K L debug) (fun w => w.evnt.recordAddrs)
      Happening.InitialisesEvents (.fresh idBlocks env₀) hs) w.evnt.recordAddrs w.evnt.blocks :=
    hrun.accounts (I := fun w : World σ => w.tbox.Owned) (fun _ _ _ _ => happens_unique)
      Tbox.wf_initial.owned (fun _ _ _ ho hstep => owned_of_happens ho hstep) ⟨rfl, rfl⟩
      (fun _ _ _ _ ho hstep hclear => hstep.evnt_owns ho hclear)
      (fun _ _ _ _ hstep hclear => hstep.evnt_cleared hclear)
  have hobjects : Accounts (Forgotten (Happens K L debug) (fun w => addrs w.tbox.objects)
      Happening.InitialisesToolbox (.fresh idBlocks env₀) hs) (addrs w.tbox.objects)
      w.tbox.records :=
    hrun.accounts (I := fun _ : World σ => True) (fun _ _ _ _ => happens_unique) trivial
      (fun _ _ _ _ _ => trivial) ⟨rfl, rfl⟩
      (fun _ _ _ _ _ hstep hclear => hstep.tbox_owns hclear)
      (fun _ _ _ _ hstep hclear => hstep.tbox_cleared hclear)
  refine ⟨hhandlers, hobjects, fun h f => ?_⟩
  obtain ⟨lost, hlost⟩ := hhandlers.finite.exists_finset_coe
  exact Happening.exec_error_iff (owns_iff_accounts.mpr (hlost ▸ hhandlers)) hbox

/-- A message handler that is registered, an object that is created, and
the event library initialised again: the block of the handler's record is
forgotten, and the object's is not. -/
theorem blocks_are_recorded_or_forgotten_reinitialised :
    let h : PseudoEventMessageHandler := ⟨4, ⟨7⟩, 0⟩
    let hs : List (Happening Libs.refusing.evnt.held) := [.handlers (.registerMessage (.only 1) h),
      .createObject (.only 2) 99 true 0 0 none, .recording (.eventInitialise true 9)]
    let w : World Registries := ⟨⟨[], [], [], some 9, {1}⟩,
      { Tbox.initial with objects := [⟨2, ⟨5, false⟩⟩], records := {2} }, fun _ => ⟨0⟩,
      ⟨0, 0, {h}⟩⟩
    Run (Happens .plain .refusing true) (.fresh (fun _ => ⟨0⟩) ⟨0, 0, 0⟩) hs w ∧
    1 ∈ Forgotten (Happens .plain .refusing true) (fun w => w.evnt.recordAddrs)
      Happening.InitialisesEvents (.fresh (fun _ => ⟨0⟩) ⟨0, 0, 0⟩) hs ∧
    2 ∉ Forgotten (Happens .plain .refusing true) (fun w => addrs w.tbox.objects)
      Happening.InitialisesToolbox (.fresh (fun _ => ⟨0⟩) ⟨0, 0, 0⟩) hs := by
  intro h hs w
  let w₁ : World Registries := ⟨⟨[], [], [⟨1, h⟩], none, {1}⟩, Tbox.initial, fun _ => ⟨0⟩,
    ⟨0, 0, {h}⟩⟩
  let w₂ : World Registries := { w₁ with tbox :=
    { Tbox.initial with objects := [⟨2, ⟨5, false⟩⟩], records := {2} } }
  have hregister : Happens .plain .refusing true (.fresh (fun _ => ⟨0⟩) ⟨0, 0, 0⟩)
      (.handlers (.registerMessage (.only 1) h)) w₁ := ⟨none, rfl⟩
  have hcreate : Happens .plain .refusing true w₁ (.createObject (.only 2) 99 true 0 0 none)
      w₂ := ⟨none, rfl⟩
  have hinit : Happens .plain .refusing true w₂ (.recording (.eventInitialise true 9)) w :=
    ⟨some ⟨dummyErrno, "NoMem"⟩, rfl⟩
  have hrun := ((Run.nil.snoc hregister).snoc hcreate).snoc hinit
  obtain ⟨hhandlers, hobjects, -⟩ := blocks_are_recorded_or_forgotten hrun
  refine ⟨hrun, ?_, fun hlost => ?_⟩
  · -- its block is live, and no record is on a list
    rcases (hhandlers.mem_live 1).mp (Finset.mem_singleton_self 1) with hin | hlost
    · cases hin
    · exact hlost
  · exact hobjects.notMem 2 hlost (List.mem_singleton_self 2)

end Runs

end Evnt

end CBPseudo
