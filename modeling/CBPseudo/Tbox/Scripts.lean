import CBPseudo.Common.StackScript
import CBPseudo.Tbox.Calls

/-!
# Object records — what handlers do

A handler makes creations, deletions, shows and hides, one after another.
To the stack of each id that is a script, and `net` is what it comes to.
-/

namespace CBPseudo

open Common

namespace Tbox

/-- What an event does to the stack of an object, unless it is a reset. -/
def Event.on (id : ObjectId) : Event → Option (StackOp Bool)
  | .record i => if id = i then some (.push false) else none
  | .drop i => if id = i then some .pop else none
  | .mark i b => if id = i then some (.setTop b) else none
  | .clear => none

/-- **A call that a handler may make**, where no error is injected and the
record is granted. -/
def Op.Client : Op → Prop
  | .createObject A _ allow _ _ _ _ => A.Generous ∧ allow = true
  | .deleteObject _ _ => True
  | .showObject allow _ _ _ _ _ _ => allow = true
  | .hideObject allow _ _ => allow = true
  | _ => False

/-- What a sequence of calls comes to, for one object. -/
def net (id : ObjectId) (script : List Op) : Net Bool :=
  .ofOps ((history script).filterMap (Event.on id))

variable {K : Kernel} {s : State} {op : Op} {script : List Op} {e : Event} {id : ObjectId}

theorem Event.apply_on (S : Stacks ObjectId Bool) (he : e ≠ .clear) :
    e.apply S id = (e.on id).elim (S id) (StackOp.run (S id)) := by
  cases e with
  | record i =>
    by_cases hi : id = i
    · subst hi
      simp [Event.apply, Event.on, StackOp.run]
    · simp [Event.apply, Event.on, hi, Stacks.push_of_ne]
  | drop i =>
    by_cases hi : id = i
    · subst hi
      simp [Event.apply, Event.on, StackOp.run]
    · simp [Event.apply, Event.on, hi, Stacks.pop_of_ne]
  | mark i b =>
    by_cases hi : id = i
    · subst hi
      simp [Event.apply, Event.on, StackOp.run]
    · simp [Event.apply, Event.on, hi, Stacks.setTop_of_ne]
  | clear => exact absurd rfl he

theorem Op.Client.granted (h : op.Client) (s : State) : op.Granted s := by
  cases op with
  | createObject A _ allow _ _ _ _ => exact h.1 s.records
  | objectCreated A id => exact h.elim
  | _ => trivial

/-- A handler resets nothing. -/
theorem Op.Client.event_ne_clear (h : op.Client) (he : op.event = some e) : e ≠ .clear := by
  rintro rfl
  cases op with
  | createObject A _ allow _ _ _ _ => cases allow <;> simp [Op.event] at he
  | objectCreated A id => exact h.elim
  | objectDeleted id => exact h.elim
  | deleteObject flags id => simp [Op.event] at he
  | showObject allow _ _ _ _ _ _ => cases allow <;> simp [Op.event] at he
  | hideObject allow _ _ => cases allow <;> simp [Op.event] at he
  | reset => exact h.elim

/-- **A handler's calls succeed**, keep the records in order, and come to
`net` for each object. -/
theorem script_cases (K : Kernel) (hw : s.WF) (hscript : ∀ op ∈ script, op.Client) :
    ∃ s', script.foldlM (Op.exec K) s = .ok s' ∧ s'.WF ∧
      ∀ id, s'.stacks id = (net id script).run (s.stacks id) := by
  simp only [net, Net.run_ofOps]
  induction script generalizing s with
  | nil => exact ⟨s, rfl, hw, fun _ => rfl⟩
  | cons op script ih =>
    have hop : op.Client := hscript op List.mem_cons_self
    obtain ⟨s₁, he, hw₁, hst⟩ := exec_cases K hw (hop.granted s)
    obtain ⟨s₂, hes, hw₂, hsts⟩ := ih hw₁ fun o ho => hscript o (List.mem_cons_of_mem _ ho)
    refine ⟨s₂, ?_, hw₂, fun id => ?_⟩
    · rw [List.foldlM_cons, he]
      exact hes
    · -- a call about another object is none of this object's operations
      rw [hsts id, hst]
      cases hev : op.event with
      | none => simp [history, hev]
      | some e =>
        rw [Option.elim_some, Event.apply_on s.stacks (hop.event_ne_clear hev)]
        cases hon : e.on id with
        | none => simp [history, hev, hon]
        | some o => simp [history, hev, hon]

end Tbox

end CBPseudo
