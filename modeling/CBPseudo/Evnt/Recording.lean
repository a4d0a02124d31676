import CBPseudo.Evnt.Model.Poll
import CBPseudo.Tbox.Ownership

/-!
# Recording what is asked

Five functions keep a record of what they ask of a library, and make it
before they ask: where the library then returns an error, the record is of
something that has not happened. An error that is injected is returned
before that, and does no harm.
-/

namespace CBPseudo

open Common

namespace Evnt

variable {σ : Type}

/-- **The libraries that are called**, on one state. -/
structure Libs (σ : Type) where
  evnt : EventLib σ
  tbox : Tbox.ToolboxLib σ
  toolboxInitialise : Tbox.InitialiseArgs → σ → Option KernelOserror × σ

/-- **A call that keeps a record**, with its arguments. -/
inductive Recording
  /-- `pseudo_event_initialise`. -/
  | eventInitialise (allow : Bool) (block : Addr)
  /-- `pseudo_toolbox_initialise`. -/
  | toolboxInitialise (allow : Bool) (args : Tbox.InitialiseArgs)
  /-- `pseudo_toolbox_delete_object`. -/
  | deleteObject (flags : UInt32) (id : ObjectId)
  /-- `pseudo_toolbox_show_object`. -/
  | showObject (allow : Bool) (flags : UInt32) (id : ObjectId) (showType : ℤ)
      (type : Option Addr) (parent : ObjectId) (parentComponent : ℤ)
  /-- `pseudo_toolbox_hide_object`. -/
  | hideObject (allow : Bool) (flags : UInt32) (id : ObjectId)

namespace Recording

variable (K : Kernel) (L : Libs σ)

/-- The call itself. -/
def exec (w : World σ) : Recording → Except Fault (Option KernelOserror × World σ)
  | .eventInitialise allow block =>
    let (e, evnt, env) := pseudoEventInitialise K L.evnt allow block w.evnt w.env
    .ok (e, { w with evnt := evnt, env := env })
  | .toolboxInitialise allow args =>
    let (e, tbox, env) :=
      Tbox.pseudoToolboxInitialise K L.toolboxInitialise allow args w.tbox w.env
    .ok (e, { w with tbox := tbox, env := env })
  | .deleteObject flags id => do
    let (e, tbox, env) ← Tbox.pseudoToolboxDeleteObject L.tbox flags id w.tbox w.env
    .ok (e, { w with tbox := tbox, env := env })
  | .showObject allow flags id showType type parent parentComponent =>
    let (e, tbox, env) := Tbox.pseudoToolboxShowObject K L.tbox allow flags id showType type
      parent parentComponent w.tbox w.env
    .ok (e, { w with tbox := tbox, env := env })
  | .hideObject allow flags id =>
    let (e, tbox, env) := Tbox.pseudoToolboxHideObject K L.tbox allow flags id w.tbox w.env
    .ok (e, { w with tbox := tbox, env := env })

/-- Whether the call goes ahead; into a deletion no error is injected. -/
def allows : Recording → Bool
  | .eventInitialise allow _ => allow
  | .toolboxInitialise allow _ => allow
  | .deleteObject _ _ => true
  | .showObject allow _ _ _ _ _ _ => allow
  | .hideObject allow _ _ => allow

/-- What the library answers. -/
def answer (env : σ) : Recording → Option KernelOserror × σ
  | .eventInitialise _ block => L.evnt.eventInitialise block env
  | .toolboxInitialise _ args => L.toolboxInitialise args env
  | .deleteObject flags id => L.tbox.toolboxDeleteObject flags id env
  | .showObject _ flags id showType type parent parentComponent =>
    L.tbox.toolboxShowObject flags id showType type parent parentComponent env
  | .hideObject _ flags id => L.tbox.toolboxHideObject flags id env

/-- The record that is made. -/
def record (w : World σ) : Recording → Except Fault (World σ)
  | .eventInitialise _ block =>
    .ok { w with evnt := { w.evnt with clientBlock := some block, wimpHandlers := [],
                                       tbHandlers := [], msgHandlers := [] } }
  | .toolboxInitialise _ _ => .ok { w with tbox := { w.tbox with objects := [] } }
  | .deleteObject _ id => do
    let tbox ← Tbox.pseudoToolboxObjectDeleted id w.tbox
    .ok { w with tbox := tbox }
  | .showObject _ _ id _ _ _ _ => .ok { w with tbox := Tbox.setShowing id true w.tbox }
  | .hideObject _ _ id => .ok { w with tbox := Tbox.setShowing id false w.tbox }

/-- A call whose record says nothing new. -/
def NothingNew (w : World σ) : Recording → Prop
  | .eventInitialise _ block => w.evnt.clientBlock = some block ∧ w.evnt.wimpHandlers = [] ∧
      w.evnt.tbHandlers = [] ∧ w.evnt.msgHandlers = []
  | .toolboxInitialise _ _ => w.tbox.objects = []
  | .deleteObject _ id => findItem (Tbox.objectIdMatches id) w.tbox.objects = none
  | .showObject _ _ id _ _ _ _ => ∀ it,
      findItem (Tbox.objectIdMatches id) w.tbox.objects = some it → it.val.isShowing = true
  | .hideObject _ _ id => ∀ it,
      findItem (Tbox.objectIdMatches id) w.tbox.objects = some it → it.val.isShowing = false

/-- **A call that can do no harm**: an error is injected, the library
returns none, or there is nothing new to record. -/
def Harmless (w : World σ) (c : Recording) : Prop :=
  c.allows = false ∨ (c.answer L w.env).1 = none ∨ c.NothingNew w

end Recording

/-- **What is recorded** is the same in two worlds. -/
structure Intact (w w' : World σ) : Prop where
  clientBlock : w'.evnt.clientBlock = w.evnt.clientBlock
  wimpHandlers : w'.evnt.wimpHandlers = w.evnt.wimpHandlers
  tbHandlers : w'.evnt.tbHandlers = w.evnt.tbHandlers
  msgHandlers : w'.evnt.msgHandlers = w.evnt.msgHandlers
  objects : w'.tbox.objects = w.tbox.objects

variable {K : Kernel} {L : Libs σ} {w : World σ} {c : Recording}

theorem Intact.of_tbox {tbox : Tbox.State} {env : σ} :
    Intact w { w with tbox := tbox, env := env } ↔ tbox.objects = w.tbox.objects :=
  ⟨fun h => h.objects, fun h => ⟨rfl, rfl, rfl, rfl, h⟩⟩

/-- The five calls are one: **record, then ask**. -/
theorem Recording.exec_eq (K : Kernel) (L : Libs σ) (c : Recording) (w : World σ) :
    c.exec K L w = if c.allows then do
        let w' ← c.record w
        .ok ((c.answer L w.env).1, { w' with env := (c.answer L w.env).2 })
      else .ok (some (oom K), w) := by
  cases c with
  | eventInitialise allow block => cases allow <;> rfl
  | toolboxInitialise allow args => cases allow <;> rfl
  | deleteObject flags id =>
    show (Tbox.pseudoToolboxDeleteObject L.tbox flags id w.tbox w.env >>= fun r => _) =
      (Tbox.pseudoToolboxObjectDeleted id w.tbox >>= fun t => _) >>= fun w' => _
    unfold Tbox.pseudoToolboxDeleteObject
    cases Tbox.pseudoToolboxObjectDeleted id w.tbox <;> rfl
  | showObject allow flags id showType type parent parentComponent => cases allow <;> rfl
  | hideObject allow flags id => cases allow <;> rfl

/-- **Making the record** does not fault, and is seen unless it says nothing
new. -/
theorem Recording.record_spec (ho : w.tbox.Owned) (c : Recording) :
    ∃ evnt tbox, c.record w = .ok { w with evnt := evnt, tbox := tbox } ∧ tbox.Owned ∧
      ∀ env, Intact w { w with evnt := evnt, tbox := tbox, env := env } ↔ c.NothingNew w := by
  cases c with
  | eventInitialise allow block =>
    refine ⟨_, _, rfl, ho, fun env => ⟨fun h => ?_, fun h => ?_⟩⟩
    · exact ⟨h.clientBlock.symm, h.wimpHandlers.symm, h.tbHandlers.symm, h.msgHandlers.symm⟩
    · exact ⟨h.1.symm, h.2.1.symm, h.2.2.1.symm, h.2.2.2.symm, rfl⟩
  | toolboxInitialise allow args =>
    exact ⟨_, _, rfl, Tbox.owned_of_nil rfl, fun env => Intact.of_tbox.trans eq_comm⟩
  | deleteObject flags id =>
    obtain ⟨t, ht, ho', hobjects⟩ := ho.objectDeleted id
    refine ⟨_, t, ?_, ho', fun env => Intact.of_tbox.trans ?_⟩
    · show (Tbox.pseudoToolboxObjectDeleted id w.tbox >>= fun t => _) = _
      rw [ht]
      rfl
    · rw [hobjects]
      show _ ↔ findItem (Tbox.objectIdMatches id) w.tbox.objects = none
      cases hf : findItem (Tbox.objectIdMatches id) w.tbox.objects with
      | none => simp
      | some it => simpa using removeItem_ne_self (mem_of_findItem hf)
  | showObject allow flags id showType type parent parentComponent =>
    exact ⟨_, _, rfl, ho.setShowing id true,
      fun env => Intact.of_tbox.trans ho.setShowing_objects_eq_iff⟩
  | hideObject allow flags id =>
    exact ⟨_, _, rfl, ho.setShowing id false,
      fun env => Intact.of_tbox.trans ho.setShowing_objects_eq_iff⟩

/-- **A call that keeps its record true**: it returns, and where it returns
an error, what is recorded is what was. -/
def Recording.KeepsTrack (K : Kernel) (L : Libs σ) (w : World σ) (c : Recording) : Prop :=
  ∃ e w', c.exec K L w = .ok (e, w') ∧ (e ≠ none → Intact w w')

/-- **A call keeps its record true** if and only if it can do no harm. -/
theorem Recording.keepsTrack_iff (ho : w.tbox.Owned) :
    c.KeepsTrack K L w ↔ c.Harmless L w := by
  unfold KeepsTrack Harmless
  rw [c.exec_eq]
  cases hallow : c.allows with
  | false =>
    simp only [Bool.false_eq_true, if_false, true_or, iff_true]
    exact ⟨_, w, rfl, fun _ => ⟨rfl, rfl, rfl, rfl, rfl⟩⟩
  | true =>
    obtain ⟨evnt, tbox, hrecord, -, hintact⟩ := c.record_spec ho
    simp only [if_true, hrecord, ok_bind, Except.ok.injEq, Prod.mk.injEq, Bool.true_eq_false,
      false_or]
    constructor
    · rintro ⟨_, _, ⟨rfl, rfl⟩, h⟩
      by_cases hanswer : (c.answer L w.env).1 = none
      · exact Or.inl hanswer
      · exact Or.inr ((hintact _).mp (h hanswer))
    · rintro (hanswer | hidle)
      · exact ⟨_, _, ⟨rfl, rfl⟩, fun hne => absurd hanswer hne⟩
      · exact ⟨_, _, ⟨rfl, rfl⟩, fun _ => (hintact _).mpr hidle⟩

end Evnt

end CBPseudo
