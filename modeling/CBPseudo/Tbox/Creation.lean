import CBPseudo.Tbox.Records

/-!
# Object records — creating an object

`pseudo_toolbox_create_object` can fail at three points: the record is not
allocated, an error is injected, the Toolbox returns one. The variable
that the Toolbox leaves the id in is that of the record itself, and its
contents go to the caller whatever the Toolbox answered.
-/

namespace CBPseudo

open Common

namespace Tbox

variable {σ : Type} {K : Kernel} {T : ToolboxLib σ} {A : Allocator} {s : State} {env env' : σ}
variable {id : ObjectId} {e : KernelOserror} {out : Option ObjectId}

/-- **A creation the Toolbox refuses** gives the record back, and the caller
what the Toolbox left in it. -/
theorem createObject_failed (K : Kernel) (T : ToolboxLib σ) (garbage : ObjectId) (flags : UInt32)
    (nameOrTemplate : Addr) (out : Option ObjectId) (env : σ) (hg : (A.grant s.records).isSome)
    (hT : T.toolboxCreateObject flags nameOrTemplate garbage env = (some e, id, env')) :
    pseudoToolboxCreateObject K T A garbage true flags nameOrTemplate out s env =
      .ok (some e, out.map fun _ => id, s, env') := by
  obtain ⟨a, ha⟩ := Option.isSome_iff_exists.mp hg
  rw [pseudoToolboxCreateObject, ha]
  simp only [pseudokernFail_true, hT, freeRecord, Finset.mem_insert_self, if_true, ok_bind,
    Finset.erase_insert (A.fresh ha)]

/-- **A creation that is not allocated its record** does nothing. -/
theorem createObject_noMemory (K : Kernel) (T : ToolboxLib σ) (garbage : ObjectId) (allow : Bool)
    (flags : UInt32) (nameOrTemplate : Addr) (out : Option ObjectId) (env : σ)
    (hg : A.grant s.records = none) :
    pseudoToolboxCreateObject K T A garbage allow flags nameOrTemplate out s env =
      .ok (some (oom K), out, s, env) := by
  rw [pseudoToolboxCreateObject, hg]

/-- **A creation that succeeds** puts a record at the head. -/
theorem createObject_succeeded (K : Kernel) (T : ToolboxLib σ) (garbage : ObjectId)
    (flags : UInt32) (nameOrTemplate : Addr) (out : Option ObjectId) (env : σ) {a : Addr}
    (ha : A.grant s.records = some a)
    (hT : T.toolboxCreateObject flags nameOrTemplate garbage env = (none, id, env')) :
    pseudoToolboxCreateObject K T A garbage true flags nameOrTemplate out s env =
      .ok (none, out.map fun _ => id, { s with
        objects := ⟨a, { objectId := id, isShowing := false }⟩ :: s.objects
        records := insert a s.records }, env') := by
  rw [pseudoToolboxCreateObject, ha]
  simp only [pseudokernFail_true, hT]

/-- **All or nothing**: a call that returns no error has put one record at
the head, not showing, with the id that the Toolbox returned, and given the
caller that id; one that returns an error has left the records and the
caller's variable as they were. -/
structure AllOrNothing (id : ObjectId) (out : Option ObjectId) (s : State)
    (e : Option KernelOserror) (out' : Option ObjectId) (s' : State) : Prop where
  all : e = none → (∃ a, a ∉ s.records ∧ s'.records = insert a s.records ∧
      s'.objects = ⟨a, { objectId := id, isShowing := false }⟩ :: s.objects) ∧
    out' = out.map fun _ => id
  nothing : e ≠ none → s'.objects = s.objects ∧ s'.records = s.records ∧ out' = out

/-- An error that has changed nothing. -/
theorem AllOrNothing.refused : AllOrNothing id out s (some e) out s where
  all := fun h => by cases h
  nothing := fun _ => ⟨rfl, rfl, rfl⟩

/-- Giving the caller garbage goes unnoticed only where there is no
variable, or it held the same. -/
theorem AllOrNothing.failed_iff {garbage : ObjectId} :
    AllOrNothing id out s (some e) (out.map fun _ => garbage) s ↔
      out = none ∨ out = some garbage := by
  constructor
  · intro h
    obtain ⟨-, -, hout⟩ := h.nothing (by simp)
    cases out with
    | none => exact Or.inl rfl
    | some x => exact Or.inr hout.symm
  · rintro (rfl | rfl) <;> exact .refused

/-- **Creating an object is all or nothing** exactly where no call of the
Toolbox fails that would give the caller's variable what the record's
memory held before: where the record is refused, an error is injected or
the Toolbox returns none, where there is no variable, or where it held the
same. The Toolbox is taken to write an id only where it returns no
error. -/
theorem createObject_allOrNothing_iff (K : Kernel) (T : ToolboxLib σ) (A : Allocator)
    (garbage : ObjectId) (allow : Bool) (flags : UInt32) (nameOrTemplate : Addr)
    (out : Option ObjectId) (s : State) (env : σ)
    (hT : ∀ e, (T.toolboxCreateObject flags nameOrTemplate garbage env).1 = some e →
      (T.toolboxCreateObject flags nameOrTemplate garbage env).2.1 = garbage) :
    (∃ r, pseudoToolboxCreateObject K T A garbage allow flags nameOrTemplate out s env = .ok r ∧
      AllOrNothing (T.toolboxCreateObject flags nameOrTemplate garbage env).2.1 out s r.1 r.2.1
        r.2.2.1) ↔
    A.grant s.records = none ∨ allow = false ∨
      (T.toolboxCreateObject flags nameOrTemplate garbage env).1 = none ∨
      out = none ∨ out = some garbage := by
  cases hg : A.grant s.records with
  | none =>
    rw [createObject_noMemory K T garbage allow flags nameOrTemplate out env hg]
    simp only [Except.ok.injEq, exists_eq_left', true_or, iff_true]
    exact .refused
  | some a =>
    cases allow with
    | false =>
      rw [createObject_refused]
      simp only [Except.ok.injEq, exists_eq_left', true_or, or_true, iff_true]
      exact .refused
    | true =>
      rcases hcall : T.toolboxCreateObject flags nameOrTemplate garbage env with ⟨answer, id, env'⟩
      rw [hcall] at hT
      cases answer with
      | none =>
        rw [createObject_succeeded K T garbage flags nameOrTemplate out env hg hcall]
        simp only [Except.ok.injEq, exists_eq_left', true_or, or_true, iff_true]
        exact ⟨fun _ => ⟨⟨a, A.fresh hg, rfl, rfl⟩, rfl⟩, fun h => absurd rfl h⟩
      | some e =>
        -- the Toolbox has written nothing, so the caller gets what the memory held
        obtain rfl : id = garbage := hT e rfl
        rw [createObject_failed K T id flags nameOrTemplate out env (by rw [hg]; rfl) hcall]
        simp only [Except.ok.injEq, exists_eq_left', AllOrNothing.failed_iff, reduceCtorEq,
          false_or, Bool.true_eq_false]

/-- A Toolbox that has run out of memory. -/
def ToolboxLib.exhausted : ToolboxLib Unit where
  toolboxCreateObject := fun _ _ garbage _ => (some ⟨dummyErrno, "NoMem"⟩, garbage, ())
  toolboxDeleteObject := fun _ _ _ => (none, ())
  toolboxShowObject := fun _ _ _ _ _ _ _ => (none, ())
  toolboxHideObject := fun _ _ _ => (none, ())

/-- A refusal that reaches no variable is one that nobody sees. -/
theorem createObject_allOrNothing_iff_exhausted :
    ∃ r, pseudoToolboxCreateObject .plain .exhausted .next 99 true 0 0 none initial () = .ok r ∧
      AllOrNothing 99 none initial r.1 r.2.1 r.2.2.1 :=
  (createObject_allOrNothing_iff .plain .exhausted .next 99 true 0 0 none initial ()
    (fun _ _ => rfl)).mpr (Or.inr (Or.inr (Or.inr (Or.inl rfl))))

/-- **The caller's variable is not left alone**: it held 5, the creation
fails, and it holds what the record's memory did. -/
theorem createObject_gives_garbage :
    pseudoToolboxCreateObject .plain .exhausted .next 99 true 0 0 (some 5) initial () =
      .ok (some ⟨dummyErrno, "NoMem"⟩, some 99, initial, ()) ∧
    ¬ ∃ r, pseudoToolboxCreateObject .plain .exhausted .next 99 true 0 0 (some 5) initial () =
        .ok r ∧ AllOrNothing 99 (some 5) initial r.1 r.2.1 r.2.2.1 := by
  have hcall : pseudoToolboxCreateObject .plain .exhausted .next 99 true 0 0 (some 5) initial () =
      .ok (some ⟨dummyErrno, "NoMem"⟩, some 99, initial, ()) := by rfl
  refine ⟨hcall, ?_⟩
  rintro ⟨r, he, h⟩
  obtain rfl := Except.ok.inj (hcall.symm.trans he)
  obtain ⟨-, -, hout⟩ := h.nothing (by decide)
  exact absurd hout (by decide)

end Tbox

end CBPseudo
