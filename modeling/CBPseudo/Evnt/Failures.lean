import CBPseudo.Evnt.IdleTrace
import CBPseudo.Evnt.Recording
import CBPseudo.Evnt.Registry

/-!
# Calls that fail

What is reachable is reached by the calls that change what is recorded, in
any order and with any answers of the libraries. Polling is among them as
the tracking of the event polled; what the handlers do is made of the other
calls. In each such state a call that records what it asks keeps its record
true exactly where it can do no harm, and where no call does any the
trackers agree with the event library throughout.
-/

namespace CBPseudo

open Common

namespace Evnt

variable {σ : Type}

/-! ## Runs -/

/-- **What else goes on** in the libraries: the handlers are left alone. -/
structure Elsewhere (held : σ → Registries) where
  move : σ → σ
  held_move : ∀ x, held (move x) = held x

/-- **What happens**: a call that changes what is recorded, with the answer
the allocator will give, or something else. -/
inductive Happening (held : σ → Registries)
  | recording (c : Recording)
  | handlers (c : Call)
  /-- `pseudo_toolbox_create_object`. -/
  | createObject (A : Allocator) (garbage : ObjectId) (allow : Bool) (flags : UInt32)
      (nameOrTemplate : Addr) (id : Option ObjectId)
  /-- `pseudo_toolbox_object_created`. -/
  | objectCreated (A : Allocator) (id : ObjectId)
  /-- `pseudo_toolbox_object_deleted`. -/
  | objectDeleted (id : ObjectId)
  /-- `pseudo_toolbox_reset`. -/
  | toolboxReset
  /-- `print_event`, of an event that has been polled. -/
  | print (A : Allocator) (eventCode : ℤ) (pollBlock : WimpPollBlock)
  /-- Something that leaves the records alone. -/
  | elsewhere (saveAs : Tbox.SaveAs) (idBlocks : Addr → IdBlock) (library : Elsewhere held)

/-- The call itself. -/
def Happening.exec (K : Kernel) (L : Libs σ) (debug : Bool) (w : World σ) :
    Happening L.evnt.held → Except Fault (Option KernelOserror × World σ)
  | .recording c => c.exec K L w
  | .handlers c => do
    let (e, evnt, env) ← c.exec K L.evnt debug w.evnt w.env
    .ok (e, { w with evnt := evnt, env := env })
  | .createObject A garbage allow flags nameOrTemplate id => do
    let (e, _, tbox, env) ← Tbox.pseudoToolboxCreateObject K L.tbox A garbage allow flags
      nameOrTemplate id w.tbox w.env
    .ok (e, { w with tbox := tbox, env := env })
  | .objectCreated A id =>
    .ok (none, { w with tbox := Tbox.pseudoToolboxObjectCreated A id w.tbox })
  | .objectDeleted id => do
    let tbox ← Tbox.pseudoToolboxObjectDeleted id w.tbox
    .ok (none, { w with tbox := tbox })
  | .toolboxReset => .ok (none, { w with tbox := Tbox.pseudoToolboxReset w.tbox })
  | .print A eventCode pollBlock => do
    let w ← printEvent A eventCode pollBlock w
    .ok (none, w)
  | .elsewhere saveAs idBlocks library =>
    .ok (none, { w with tbox := { w.tbox with saveAs := saveAs }, idBlocks := idBlocks,
                        env := library.move w.env })

/-- A call that can do no harm, if it is one of the five. -/
def Happening.Harmless (L : Libs σ) (w : World σ) : Happening L.evnt.held → Prop
  | .recording c => c.Harmless L w
  | _ => True

/-- The world at start-up. -/
def World.fresh (idBlocks : Addr → IdBlock) (env : σ) : World σ :=
  ⟨initial, Tbox.initial, idBlocks, env⟩

section System

variable (K : Kernel) (L : Libs σ) (debug : Bool)

/-- A call that returns, with or without an error. -/
def Happens (w : World σ) (h : Happening L.evnt.held) (w' : World σ) : Prop :=
  ∃ e, h.exec K L debug w = .ok (e, w')

/-- A call that returns, and can have done no harm. -/
def HappensHarmlessly (w : World σ) (h : Happening L.evnt.held) (w' : World σ) : Prop :=
  h.Harmless L w ∧ Happens K L debug w h w'

end System

/-- **The documented effects of the libraries**: those of the event library,
which where it cannot be initialised again holds what it held; and the
Toolbox leaves the handlers alone. -/
structure Libs.Lawful (L : Libs σ) : Prop where
  evnt : L.evnt.Lawful
  initialise_failed : ∀ b x, (L.evnt.eventInitialise b x).1 ≠ none →
    L.evnt.held (L.evnt.eventInitialise b x).2 = L.evnt.held x
  toolboxInitialise : ∀ args x, L.evnt.held (L.toolboxInitialise args x).2 = L.evnt.held x
  createObject : ∀ flags n garbage x,
    L.evnt.held (L.tbox.toolboxCreateObject flags n garbage x).2.2 = L.evnt.held x
  deleteObject : ∀ flags id x, L.evnt.held (L.tbox.toolboxDeleteObject flags id x).2 = L.evnt.held x
  showObject : ∀ flags id showType type parent component x,
    L.evnt.held (L.tbox.toolboxShowObject flags id showType type parent component x).2 =
      L.evnt.held x
  hideObject : ∀ flags id x, L.evnt.held (L.tbox.toolboxHideObject flags id x).2 = L.evnt.held x

variable {K : Kernel} {L : Libs σ} {debug : Bool} {w w' : World σ} {e : Option KernelOserror}
variable {h : Happening L.evnt.held} {lost : Finset Addr} {idBlocks : Addr → IdBlock} {env₀ : σ}

/-! ## What a step can do -/

/-- **A step is one of the five calls, a call on handlers, or one that
leaves the trackers alone**, and of the object records keeps the list in
order. -/
theorem Happens.cases (ho : w.tbox.Owned) (hstep : Happens K L debug w h w') :
    (∃ c e, h = .recording c ∧ c.exec K L w = .ok (e, w')) ∨
    (∃ c e evnt env, h = .handlers c ∧
      c.exec K L.evnt debug w.evnt w.env = .ok (e, evnt, env) ∧
      w' = { w with evnt := evnt, env := env }) ∨
    (w'.evnt = w.evnt ∧ w'.tbox.Owned ∧
      (L.Lawful → L.evnt.held w'.env = L.evnt.held w.env)) := by
  obtain ⟨e, he⟩ := hstep
  cases h with
  | recording c => exact Or.inl ⟨c, e, rfl, he⟩
  | handlers c =>
    obtain ⟨⟨e₁, evnt, env⟩, hexec, he⟩ := bind_eq_ok.mp he
    cases he
    exact Or.inr (Or.inl ⟨c, _, evnt, env, rfl, hexec, rfl⟩)
  | createObject A garbage allow flags nameOrTemplate id =>
    obtain ⟨e₁, out, tbox, env, hcreate, ho', henv⟩ :=
      ho.createObject K L.tbox A garbage allow flags nameOrTemplate id w.env
    rw [Happening.exec, hcreate] at he
    cases he
    refine Or.inr (Or.inr ⟨rfl, ho', fun hL => ?_⟩)
    rcases henv with rfl | rfl
    · rfl
    · exact hL.createObject flags nameOrTemplate garbage w.env
  | objectCreated A id =>
    cases he
    exact Or.inr (Or.inr ⟨rfl, ho.objectCreated A id, fun _ => rfl⟩)
  | objectDeleted id =>
    obtain ⟨tbox, hdelete, ho', -⟩ := ho.objectDeleted id
    rw [Happening.exec, hdelete] at he
    cases he
    exact Or.inr (Or.inr ⟨rfl, ho', fun _ => rfl⟩)
  | toolboxReset =>
    cases he
    exact Or.inr (Or.inr ⟨rfl, ho.reset, fun _ => rfl⟩)
  | print A ec pb =>
    obtain ⟨tbox, hprint, ho'⟩ := printEvent_owned A ec pb ho
    rw [Happening.exec, hprint] at he
    cases he
    exact Or.inr (Or.inr ⟨rfl, ho', fun _ => rfl⟩)
  | elsewhere saveAs idBlocks library =>
    cases he
    exact Or.inr (Or.inr ⟨rfl, ho.of_addrs rfl rfl, fun _ => library.held_move w.env⟩)

/-- **A step keeps the object records in order.** -/
theorem owned_of_happens (ho : w.tbox.Owned) (hstep : Happens K L debug w h w') :
    w'.tbox.Owned := by
  obtain ⟨c, e, -, he⟩ | ⟨c, e, evnt, env, -, -, rfl⟩ | ⟨-, ho', -⟩ := hstep.cases ho
  · obtain ⟨evnt, tbox, hrecord, ho', -⟩ := c.record_spec ho
    rw [c.exec_eq, hrecord] at he
    split at he
    · cases he
      exact ho'
    · cases he
      exact ho
  · exact ho
  · exact ho'

/-! ## The trackers -/

theorem Tracks.of_eq (hs : Tracks L.evnt.held lost w.evnt w.env) (hevnt : w'.evnt = w.evnt)
    (hheld : L.evnt.held w'.env = L.evnt.held w.env) :
    Tracks L.evnt.held lost w'.evnt w'.env := by
  refine ⟨hevnt ▸ hs.owns, ?_⟩
  rw [hevnt, hheld]
  exact hs.tracked

/-- A call of the Toolbox leaves the trackers alone, and the handlers. -/
theorem Recording.leaves_evnt (hL : L.Lawful) {c : Recording}
    (hc : ∀ allow block, c ≠ .eventInitialise allow block) (he : c.exec K L w = .ok (e, w')) :
    w'.evnt = w.evnt ∧ L.evnt.held w'.env = L.evnt.held w.env := by
  rw [c.exec_eq] at he
  split at he
  · obtain ⟨w₁, hrecord, he⟩ := bind_eq_ok.mp he
    cases he
    cases c with
    | eventInitialise allow block => exact absurd rfl (hc allow block)
    | toolboxInitialise allow args =>
      cases hrecord
      exact ⟨rfl, hL.toolboxInitialise args w.env⟩
    | deleteObject flags id =>
      obtain ⟨t, -, ht⟩ := bind_eq_ok.mp hrecord
      cases ht
      exact ⟨rfl, hL.deleteObject flags id w.env⟩
    | showObject allow flags id showType type parent parentComponent =>
      cases hrecord
      exact ⟨rfl, hL.showObject flags id showType type parent parentComponent w.env⟩
    | hideObject allow flags id =>
      cases hrecord
      exact ⟨rfl, hL.hideObject flags id w.env⟩
  · cases he
    exact ⟨rfl, rfl⟩

/-- **Initialising the event library** again, harmlessly, keeps the
trackers in agreement: with what it holds now if it succeeds, where the
blocks of the records are lost, and otherwise with what it held. -/
theorem tracks_of_initialise (hL : L.Lawful) {allow : Bool} {block : Addr}
    (hs : Tracks L.evnt.held lost w.evnt w.env)
    (hharm : (Recording.eventInitialise allow block).Harmless L w)
    (he : (Recording.eventInitialise allow block).exec K L w = .ok (e, w')) :
    ∃ lost, Tracks L.evnt.held lost w'.evnt w'.env := by
  cases allow with
  | false =>
    cases he
    exact ⟨lost, hs⟩
  | true =>
    cases he
    by_cases hnone : (L.evnt.eventInitialise block w.env).1 = none
    · refine ⟨w.evnt.blocks, ⟨by simp [State.recordAddrs], fun a => ?_, fun a _ => ?_⟩, ?_⟩
      · simp [State.recordAddrs]
      · simp [State.recordAddrs]
      · exact (hL.evnt.initialise _ _ hnone).symm
    · obtain ⟨hclient, hwimp, htb, hmsg⟩ : (Recording.eventInitialise true block).NothingNew w := by
        rcases hharm with hallow | hanswer | hnew
        · cases hallow
        · exact absurd hanswer hnone
        · exact hnew
      -- there was nothing to forget
      refine ⟨lost, hs.of_eq ?_ (hL.initialise_failed _ _ hnone)⟩
      show { w.evnt with clientBlock := some block, wimpHandlers := [], tbHandlers := [],
                         msgHandlers := [] } = w.evnt
      rw [← hclient, ← hwimp, ← htb, ← hmsg]

/-- **A harmless step keeps the trackers in agreement.** -/
theorem tracks_of_happens (hL : L.Lawful) (ho : w.tbox.Owned)
    (hs : Tracks L.evnt.held lost w.evnt w.env) (hstep : HappensHarmlessly K L debug w h w') :
    ∃ lost, Tracks L.evnt.held lost w'.evnt w'.env := by
  obtain ⟨hharm, hstep⟩ := hstep
  obtain ⟨c, e, rfl, he⟩ | ⟨c, e, evnt, env, -, hexec, rfl⟩ | ⟨hevnt, -, hheld⟩ :=
    hstep.cases ho
  · by_cases hc : ∀ allow block, c ≠ .eventInitialise allow block
    · obtain ⟨hevnt, hheld⟩ := Recording.leaves_evnt hL hc he
      exact ⟨lost, hs.of_eq hevnt hheld⟩
    · push Not at hc
      obtain ⟨allow, block, rfl⟩ := hc
      exact tracks_of_initialise hL hs hharm he
  · exact ⟨lost, (exec_ok hL.evnt hs hexec).1⟩
  · exact ⟨lost, hs.of_eq hevnt (hheld hL)⟩

/-! ## Runs -/

theorem owned_of_run {hs : List (Happening L.evnt.held)}
    (hrun : Run (Happens K L debug) (.fresh idBlocks env₀) hs w) : w.tbox.Owned :=
  hrun.invariant (I := fun w : World σ => w.tbox.Owned) Tbox.wf_initial.owned
    fun _ _ _ ho hstep => owned_of_happens ho hstep

/-- **A call that fails leaves what is recorded intact** exactly where it
can do no harm: in whatever state the calls before it have led to, a call
of the five returns, and with no error or with nothing changed, if and only
if an error was injected, the library returned none, or there was nothing
new to record. And where no call of a run does harm, a handler that is
still registered can be deregistered. -/
theorem failed_calls_keep_track_iff (K : Kernel) (L : Libs σ) (debug : Bool)
    (idBlocks : Addr → IdBlock) (env₀ : σ) :
    (∀ hs w, Run (Happens K L debug) (.fresh idBlocks env₀) hs w →
      ∀ c : Recording, c.KeepsTrack K L w ↔ c.Harmless L w) ∧
    (L.Lawful → L.evnt.held env₀ = ⟨0, 0, 0⟩ → ∀ hs w,
      Run (HappensHarmlessly K L debug) (.fresh idBlocks env₀) hs w →
      w.evnt.tracked = L.evnt.held w.env ∧ ∀ c : Call, ¬ c.Unheld (L.evnt.held w.env) →
        ∃ r, c.exec K L.evnt debug w.evnt w.env = .ok r) := by
  refine ⟨fun hs w hrun c => Recording.keepsTrack_iff (owned_of_run hrun), ?_⟩
  intro hL hempty hs w hrun
  have hinv : w.tbox.Owned ∧ ∃ lost, Tracks L.evnt.held lost w.evnt w.env := by
    refine hrun.invariant (I := fun w : World σ => w.tbox.Owned ∧
      ∃ lost, Tracks L.evnt.held lost w.evnt w.env) ⟨Tbox.wf_initial.owned, ∅, ?_⟩ ?_
    · exact ⟨wf_iff_owns.mp wf_initial, hempty.symm⟩
    · rintro w h w' ⟨ho, lost, htracks⟩ hstep
      exact ⟨owned_of_happens ho hstep.2, tracks_of_happens hL ho htracks hstep⟩
  obtain ⟨-, lost, htracks⟩ := hinv
  refine ⟨htracks.tracked, fun c hc => ?_⟩
  obtain ⟨e, s', env', he, -⟩ := exec_of_held K debug hL.evnt htracks hc
  exact ⟨_, he⟩

/-! ## Libraries that refuse -/

/-- Libraries of which the event library cannot be initialised while it
holds message handlers, and the Toolbox shows nothing. -/
def Libs.refusing : Libs Registries where
  evnt :=
    { EventLib.plain with
      eventInitialise := fun _ r =>
        if r.msg = 0 then (none, ⟨0, 0, 0⟩) else (some ⟨dummyErrno, "NoMem"⟩, r) }
  tbox :=
    { toolboxCreateObject := fun _ _ _ r => (none, 5, r)
      toolboxDeleteObject := fun _ _ r => (none, r)
      toolboxShowObject := fun _ _ _ _ _ _ r => (some ⟨dummyErrno, "NoMem"⟩, r)
      toolboxHideObject := fun _ _ r => (none, r) }
  toolboxInitialise := fun _ r => (none, r)

theorem Libs.refusing_lawful : Libs.refusing.Lawful where
  evnt :=
    { EventLib.plain_lawful with
      initialise := fun b x => by
        by_cases hmsg : x.msg = 0 <;> simp [Libs.refusing, EventLib.plain, hmsg] }
  initialise_failed := fun b x => by
    by_cases hmsg : x.msg = 0 <;> simp [Libs.refusing, EventLib.plain, hmsg]
  toolboxInitialise := fun _ _ => rfl
  createObject := fun _ _ _ _ => rfl
  deleteObject := fun _ _ _ => rfl
  showObject := fun _ _ _ _ _ _ _ => rfl
  hideObject := fun _ _ _ => rfl

/-- After an error was injected hiding an object does no harm, and the
handler that is still registered can be deregistered. -/
theorem failed_calls_keep_track_iff_injected :
    let h : PseudoEventMessageHandler := ⟨4, ⟨7⟩, 0⟩
    let w : World Registries := ⟨⟨[], [], [⟨1, h⟩], some 9, {1}⟩, Tbox.initial, fun _ => ⟨0⟩,
      ⟨0, 0, {h}⟩⟩
    (Recording.hideObject true 0 5).KeepsTrack .plain .refusing w ∧
    ∃ r, (Call.deregisterMessage h).exec .plain Libs.refusing.evnt true w.evnt w.env = .ok r := by
  intro h w
  have hinit : HappensHarmlessly .plain .refusing true (.fresh (fun _ => ⟨0⟩) ⟨0, 0, 0⟩)
      (.recording (.eventInitialise true 9))
      ⟨⟨[], [], [], some 9, ∅⟩, Tbox.initial, fun _ => ⟨0⟩, ⟨0, 0, 0⟩⟩ :=
    ⟨Or.inr (Or.inl rfl), none, rfl⟩
  have hregister : HappensHarmlessly .plain .refusing true
      ⟨⟨[], [], [], some 9, ∅⟩, Tbox.initial, fun _ => ⟨0⟩, ⟨0, 0, 0⟩⟩
      (.handlers (.registerMessage (.only 1) h)) w := ⟨trivial, none, rfl⟩
  have hinjected : HappensHarmlessly .plain .refusing true w
      (.recording (.eventInitialise false 9)) w := ⟨Or.inl rfl, some (oom .plain), rfl⟩
  have hrun := ((Run.nil.snoc hinit).snoc hregister).snoc hinjected
  obtain ⟨hkeeps, hheld⟩ :=
    failed_calls_keep_track_iff .plain .refusing true (fun _ => ⟨0⟩) ⟨0, 0, 0⟩
  refine ⟨(hkeeps _ _ (hrun.mono fun _ _ _ hstep => hstep.2) _).mpr (Or.inr (Or.inl rfl)), ?_⟩
  refine (hheld Libs.refusing_lawful rfl _ _ hrun).2 (.deregisterMessage h) ?_
  exact not_not.mpr (Multiset.mem_singleton_self h)

/-- **What has failed is recorded**: an object that the Toolbox could not
show is marked as showing; and where the event library could not be
initialised again the handler it still holds is forgotten, so that
deregistering it ends the program. -/
theorem failed_calls_lose_track :
    let h : PseudoEventMessageHandler := ⟨4, ⟨7⟩, 0⟩
    ∃ hs w, Run (Happens .plain .refusing false) (.fresh (fun _ => ⟨0⟩) ⟨0, 0, 0⟩) hs w ∧
      ¬ (Recording.showObject true 0 5 0 none 0 0).KeepsTrack .plain .refusing w ∧
      ¬ (Recording.eventInitialise true 9).KeepsTrack .plain .refusing w ∧
      ∃ e w', (Recording.eventInitialise true 9).exec .plain .refusing w = .ok (some e, w') ∧
        h ∈ w'.env.msg ∧
        (Call.deregisterMessage h).exec .plain Libs.refusing.evnt false w'.evnt w'.env =
          .error .abort := by
  intro h
  let w₁ : World Registries := ⟨⟨[], [], [], some 9, ∅⟩, Tbox.initial, fun _ => ⟨0⟩, ⟨0, 0, 0⟩⟩
  let w₂ : World Registries := ⟨⟨[], [], [⟨1, h⟩], some 9, {1}⟩, Tbox.initial, fun _ => ⟨0⟩,
    ⟨0, 0, {h}⟩⟩
  let w₃ : World Registries := { w₂ with tbox :=
    { Tbox.initial with objects := [⟨2, ⟨5, false⟩⟩], records := {2} } }
  have hinit : Happens .plain .refusing false (.fresh (fun _ => ⟨0⟩) ⟨0, 0, 0⟩)
      (.recording (.eventInitialise true 9)) w₁ := ⟨none, rfl⟩
  have hregister : Happens .plain .refusing false w₁ (.handlers (.registerMessage (.only 1) h))
      w₂ := ⟨none, rfl⟩
  have hcreate : Happens .plain .refusing false w₂ (.createObject (.only 2) 99 true 0 0 none)
      w₃ := ⟨none, rfl⟩
  have hrun := ((Run.nil.snoc hinit).snoc hregister).snoc hcreate
  have ho := owned_of_run hrun
  refine ⟨_, w₃, hrun, ?_, ?_, ⟨dummyErrno, "NoMem"⟩, _, rfl, ?_, rfl⟩
  · rw [Recording.keepsTrack_iff ho]
    rintro (hallow | hanswer | hnew)
    · cases hallow
    · cases hanswer
    · exact absurd (hnew ⟨2, ⟨5, false⟩⟩ rfl) (by decide)
  · rw [Recording.keepsTrack_iff ho]
    rintro (hallow | hanswer | ⟨-, -, -, hmsg⟩)
    · cases hallow
    · cases hanswer
    · cases hmsg
  · exact Multiset.mem_singleton_self h

end Evnt

end CBPseudo
