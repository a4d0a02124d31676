import CBPseudo.Common.Run
import CBPseudo.Tbox.Calls
import Mathlib.Data.List.Infix

/-!
# The showing query and its documentation

The header documents `pseudo_toolbox_object_is_showing` by the history of
calls: an object is showing if it has been shown since it was last hidden
and since the last reset. `Documented` is that answer, read off the events
so far. The code answers from the newest record of the object, and the
two agree over a run exactly as long as its steps keep one mark for each
object: `Event.Keeps` is the condition on a step, and
`showing_iff_documented` the equivalence.
-/

namespace CBPseudo

open Common

namespace Tbox

/-! ## The documented answer -/

/-- What an event does to the number of records of an object. -/
def Event.count (id : ObjectId) (n : ℕ) : Event → ℕ
  | .record i => if id = i then n + 1 else n
  | .drop i => if id = i then n - 1 else n
  | _ => n

/-- The number of records of an object, after a history. -/
def recordCount (id : ObjectId) (history : List Event) : ℕ := history.foldl (Event.count id) 0

/-- **The documented answer**: since the object last came to have a record
it has been shown, after it was last hidden and after the last reset. -/
def Documented (history : List Event) (id : ObjectId) : Prop :=
  ∃ before after, history = before ++ .mark id true :: after ∧
    (∀ p, p <+: after → 0 < recordCount id (before ++ .mark id true :: p)) ∧
    .mark id false ∉ after ∧ .clear ∉ after

variable {h : List Event} {e : Event} {id : ObjectId} {S : Stacks ObjectId Bool}

@[simp] theorem recordCount_snoc : recordCount id (h ++ [e]) = e.count id (recordCount id h) := by
  rw [recordCount, List.foldl_append]
  rfl

theorem not_documented_nil : ¬ Documented [] id := by
  rintro ⟨before, after, he, -⟩
  exact absurd he (by simp)

/-- An object that the documentation calls showing has a record. -/
theorem Documented.count_pos (hd : Documented h id) : 0 < recordCount id h := by
  obtain ⟨before, after, rfl, hpos, -⟩ := hd
  exact hpos after (List.prefix_refl after)

/-- **The documented answer, event by event.** -/
theorem documented_snoc : Documented (h ++ [e]) id ↔
    0 < e.count id (recordCount id h) ∧
      (e = .mark id true ∨ Documented h id ∧ e ≠ .mark id false ∧ e ≠ .clear) := by
  rw [← recordCount_snoc]
  constructor
  · intro hd
    refine ⟨hd.count_pos, ?_⟩
    obtain ⟨before, after, he, hpos, hhide, hclear⟩ := hd
    -- the show that counts is the last event, or came before it
    rcases List.eq_nil_or_concat after with rfl | ⟨after, e', rfl⟩
    · left
      simpa using (List.append_inj' he rfl).2
    · right
      rw [List.concat_eq_append, ← List.cons_append, ← List.append_assoc] at he
      obtain ⟨rfl, he⟩ := List.append_inj' he rfl
      obtain rfl : e = e' := by simpa using he
      simp only [List.concat_eq_append, List.mem_append, List.mem_singleton, not_or] at hhide hclear
      refine ⟨⟨before, after, rfl, fun p hp => hpos p (hp.trans ?_), hhide.1, hclear.1⟩,
        Ne.symm hhide.2, Ne.symm hclear.2⟩
      rw [List.concat_eq_append]
      exact List.prefix_append _ _
  · rintro ⟨hpos, rfl | ⟨⟨before, after, rfl, hall, hhide, hclear⟩, hne, hne'⟩⟩
    · refine ⟨h, [], rfl, fun p hp => ?_, List.not_mem_nil, List.not_mem_nil⟩
      rw [List.prefix_nil.mp hp]
      exact hpos
    · refine ⟨before, after ++ [e], by simp, fun p hp => ?_, ?_, ?_⟩
      · rcases List.prefix_concat_iff.mp (by simpa using hp) with rfl | hp
        · simpa using hpos
        · exact hall p hp
      · simpa using ⟨hhide, Ne.symm hne⟩
      · simpa using ⟨hclear, Ne.symm hne'⟩

/-! ## The two answers -/

/-- The stacks are as high as the history says. -/
def Counted (h : List Event) (S : Stacks ObjectId Bool) : Prop :=
  ∀ id, (S id).length = recordCount id h

/-- The tops of the stacks are the documented answers. -/
def Agrees (h : List Event) (S : Stacks ObjectId Bool) : Prop :=
  ∀ id, (S id).headD false = true ↔ Documented h id

theorem counted_nil : Counted [] fun _ => [] := fun _ => rfl

theorem agrees_nil : Agrees [] fun _ => [] := fun _ => by
  simp [not_documented_nil]

/-- Every event keeps the stacks as high as the history says. -/
theorem Counted.apply (hc : Counted h S) (e : Event) : Counted (h ++ [e]) (e.apply S) := by
  intro id
  rw [recordCount_snoc, ← hc id]
  cases e with
  | record i =>
    by_cases hi : id = i
    · subst hi
      simp [Event.apply, Event.count]
    · simp [Event.apply, Event.count, hi, Stacks.push_of_ne]
  | drop i =>
    by_cases hi : id = i
    · subst hi
      simp [Event.apply, Event.count]
    · simp [Event.apply, Event.count, hi, Stacks.pop_of_ne]
  | mark i b =>
    by_cases hi : id = i
    · subst hi
      simp [Event.apply, Event.count]
    · simp [Event.apply, Event.count, hi, Stacks.setTop_of_ne]
  | clear => simp [Event.apply, Event.count]

/-- **An event keeps one mark for each object**: an object is not recorded
again while its newest record is marked as showing, and the newest of
several records is not dropped unless the next has the same mark. -/
def Event.Keeps (S : Stacks ObjectId Bool) : Event → Prop
  | .record id => (S id).headD false = false
  | .drop id => (S id).tail = [] ∨ (S id).tail.headD false = (S id).headD false
  | _ => True

/-- An event about another object leaves both answers. -/
theorem agrees_of_ne (ha : Agrees h S) (happly : e.apply S id = S id)
    (hcount : ∀ n, e.count id n = n) (hmark : ∀ b, e ≠ .mark id b) (hclear : e ≠ .clear) :
    (e.apply S id).headD false = true ↔ Documented (h ++ [e]) id := by
  rw [happly, ha id, documented_snoc, hcount]
  constructor
  · intro hd
    exact ⟨hd.count_pos, Or.inr ⟨hd, hmark false, hclear⟩⟩
  · rintro ⟨-, he | ⟨hd, -⟩⟩
    · exact absurd he (hmark true)
    · exact hd

/-- **After an event about one object** the answers agree if those about it
do. -/
theorem agrees_iff_self (ha : Agrees h S) {i : ObjectId}
    (happly : ∀ id, id ≠ i → e.apply S id = S id)
    (hcount : ∀ id, id ≠ i → ∀ n, e.count id n = n)
    (hmark : ∀ id, id ≠ i → ∀ b, e ≠ .mark id b) (hclear : e ≠ .clear) :
    Agrees (h ++ [e]) (e.apply S) ↔
      ((e.apply S i).headD false = true ↔ Documented (h ++ [e]) i) := by
  constructor
  · intro hall
    exact hall i
  · intro hi id
    by_cases hne : id = i
    · rw [hne]
      exact hi
    · exact agrees_of_ne ha (happly id hne) (hcount id hne) (hmark id hne) hclear

/-- A new record is not marked, and the documented answer stays. -/
theorem agrees_record_iff (ha : Agrees h S) (i : ObjectId) :
    Agrees (h ++ [.record i]) ((Event.record i).apply S) ↔ (S i).headD false = false := by
  have hself : ((Event.record i).apply S i).headD false = true ↔ False := by
    simp [Event.apply]
  have hdoc : Documented (h ++ [.record i]) i ↔ Documented h i := by
    rw [documented_snoc]
    simp [Event.count]
  rw [agrees_iff_self (e := .record i) ha (fun _ hne => Stacks.push_of_ne S hne)
    (fun _ hne _ => if_neg hne) (by simp) (by simp), hself, hdoc, ← ha i, false_iff,
    Bool.not_eq_true]

/-- When a record is dropped the query goes by the next, the documentation
by the one dropped. -/
theorem agrees_drop_iff (hc : Counted h S) (ha : Agrees h S) (i : ObjectId) :
    Agrees (h ++ [.drop i]) ((Event.drop i).apply S) ↔
      (S i).tail = [] ∨ (S i).tail.headD false = (S i).headD false := by
  have hself : ((Event.drop i).apply S i).headD false = (S i).tail.headD false := by
    simp [Event.apply]
  have hdoc : Documented (h ++ [.drop i]) i ↔ (S i).tail ≠ [] ∧ (S i).headD false = true := by
    rw [documented_snoc, ha i, Event.count, if_pos rfl, ← hc i, ← List.length_tail,
      List.length_pos_iff]
    simp
  rw [agrees_iff_self (e := .drop i) ha (fun _ hne => Stacks.pop_of_ne S hne)
    (fun _ hne _ => if_neg hne) (by simp) (by simp), hself, hdoc]
  by_cases htail : (S i).tail = []
  · simp [htail]
  · rw [and_iff_right htail, or_iff_right htail]
    exact Bool.eq_iff_iff.symm

/-- A mark is seen by both, if there is a record to mark. -/
theorem agrees_mark (hc : Counted h S) (ha : Agrees h S) (i : ObjectId) (b : Bool) :
    Agrees (h ++ [.mark i b]) ((Event.mark i b).apply S) := by
  have hcount : (Event.mark i b).count i (recordCount i h) = (S i).length := (hc i).symm
  rw [agrees_iff_self (e := .mark i b) ha (fun _ hne => Stacks.setTop_of_ne S hne)
    (fun _ _ _ => rfl) (fun _ hne _ he => hne (Event.mark.inj he).1.symm) (by simp),
    documented_snoc, hcount]
  cases hS : S i with
  | nil => simp [Event.apply, hS]
  | cons f l => cases b <;> simp [Event.apply, hS]

/-- After a reset neither has anything showing. -/
theorem agrees_clear : Agrees (h ++ [.clear]) (Event.clear.apply S) := by
  intro id
  rw [documented_snoc]
  cases hS : S id <;> simp [Event.apply, hS]

/-- **Two answers that agree still agree after an event if and only if it
keeps one mark for each object.** -/
theorem agrees_apply_iff (hc : Counted h S) (ha : Agrees h S) :
    Agrees (h ++ [e]) (e.apply S) ↔ e.Keeps S := by
  cases e with
  | record i => exact agrees_record_iff ha i
  | drop i => exact agrees_drop_iff hc ha i
  | mark i b => exact iff_of_true (agrees_mark hc ha i b) trivial
  | clear => exact iff_of_true agrees_clear trivial

/-! ## Runs -/

variable {K : Kernel} {s s' t : State} {ops : List Op} {op : Op}

/-- A call keeps one mark for each object, where its event does. -/
def Op.Keeps (s : State) (op : Op) : Prop := ∀ e, op.event = some e → e.Keeps s.stacks

theorem history_snoc_of_none (h : op.event = none) : history (ops ++ [op]) = history ops := by
  simp [history, h]

theorem history_snoc_of_some (h : op.event = some e) :
    history (ops ++ [op]) = history ops ++ [e] := by
  simp [history, h]

/-- Along a run the records are in order and as many as the history
says. -/
theorem counted_of_run (hrun : Run (Step K) initial ops s) :
    s.WF ∧ Counted (history ops) s.stacks := by
  refine hrun.history
    (I := fun (ops : List Op) (s : State) => s.WF ∧ Counted (history ops) s.stacks)
    ⟨wf_initial, counted_nil⟩ ?_
  rintro ops t op u ⟨hw, hc⟩ hs
  obtain ⟨hw', hst⟩ := hs.cases hw
  refine ⟨hw', ?_⟩
  rw [hst]
  cases he : op.event with
  | none =>
    rw [history_snoc_of_none he]
    exact hc
  | some e =>
    rw [history_snoc_of_some he]
    exact hc.apply e

/-- **One step of a run**: answers that agree before it agree after it if
and only if the call keeps one mark for each object. -/
theorem step_agrees_iff (hrun : Run (Step K) initial ops s) (hs : Step K s op s')
    (ha : Agrees (history ops) s.stacks) :
    Agrees (history (ops ++ [op])) s'.stacks ↔ op.Keeps s := by
  obtain ⟨hw, hc⟩ := counted_of_run hrun
  obtain ⟨-, hst⟩ := hs.cases hw
  rw [hst, Op.Keeps]
  cases he : op.event with
  | none =>
    rw [history_snoc_of_none he]
    simpa using ha
  | some e =>
    rw [history_snoc_of_some he]
    simpa using agrees_apply_iff hc ha

theorem Step.unique {op : Op} {u : State} (h : Step K s op t) (h' : Step K s op u) : t = u :=
  Except.ok.inj (h.2.symm.trans h'.2)

/-- **The query answers as documented, exactly on the runs that keep one
mark for each object.** Over a run of creations, notifications,
deletions, shows, hides and resets, with errors injected anywhere, the
query answers for every id in every state reached as the header documents
if and only if every step keeps one mark for each object. -/
theorem showing_iff_documented (K : Kernel) {ops : List Op} {s : State}
    (hrun : Run (Step K) initial ops s) :
    (∀ before after t, ops = before ++ after → Run (Step K) initial before t →
      ∀ id, pseudoToolboxObjectIsShowing id t = true ↔ Documented (history before) id) ↔
    Run (fun t op u => Step K t op u ∧ op.Keeps t) initial ops s := by
  simp only [isShowing_eq]
  constructor
  · intro hall
    induction hrun with
    | nil => exact Run.nil
    | @snoc ops t u op hrun hs ih =>
      have hbefore := ih fun before after v he hv =>
        hall before (after ++ [op]) v (by rw [he, List.append_assoc]) hv
      have hat : Agrees (history ops) t.stacks := hall ops [op] t rfl hrun
      have hau : Agrees (history (ops ++ [op])) u.stacks :=
        hall (ops ++ [op]) [] u (by simp) (hrun.snoc hs)
      exact hbefore.snoc ⟨hs, (step_agrees_iff hrun hs hat).mp hau⟩
  · rintro hkept before after t rfl hrun'
    obtain ⟨t', hkept', -⟩ := hkept.split
    have hstep : ∀ t a u, Step K t a u ∧ a.Keeps t → Step K t a u := fun _ _ _ h => h.1
    obtain rfl := hrun'.unique (hkept'.mono hstep) fun _ _ _ _ => Step.unique
    -- agreement is kept along the run up to here
    have key : Run (Step K) initial before t ∧ Agrees (history before) t.stacks := by
      refine hkept'.history
        (I := fun (ops : List Op) (s : State) =>
          Run (Step K) initial ops s ∧ Agrees (history ops) s.stacks)
        ⟨Run.nil, agrees_nil⟩ ?_
      rintro ops t op u ⟨hr, ha⟩ ⟨hs, hkeep⟩
      exact ⟨hr.snoc hs, (step_agrees_iff hr hs ha).mpr hkeep⟩
    exact key.2

/-- A shared object created twice, shown and deleted once is showing by the
documentation and not by the query: the mark went with the newer
record. -/
theorem showing_after_one_deletion :
    ¬ ∀ (K : Kernel) (ops : List Op) (s : State), Run (Step K) initial ops s →
      ∀ id, pseudoToolboxObjectIsShowing id s = true ↔ Documented (history ops) id := by
  intro hall
  have hfirst : Step Kernel.plain initial (.createObject (.only 1) 0 true 0 0 none 5)
      ⟨[⟨1, ⟨5, false⟩⟩], {1}, .initial⟩ := ⟨rfl, rfl⟩
  have hsecond : Step Kernel.plain ⟨[⟨1, ⟨5, false⟩⟩], {1}, .initial⟩
      (.createObject (.only 2) 0 true 0 0 none 5)
      ⟨[⟨2, ⟨5, false⟩⟩, ⟨1, ⟨5, false⟩⟩], {2, 1}, .initial⟩ := ⟨rfl, rfl⟩
  have hshow : Step Kernel.plain ⟨[⟨2, ⟨5, false⟩⟩, ⟨1, ⟨5, false⟩⟩], {2, 1}, .initial⟩
      (.showObject true 0 5 0 none 0 0)
      ⟨[⟨2, ⟨5, true⟩⟩, ⟨1, ⟨5, false⟩⟩], {2, 1}, .initial⟩ := ⟨trivial, rfl⟩
  have hdelete : Step Kernel.plain ⟨[⟨2, ⟨5, true⟩⟩, ⟨1, ⟨5, false⟩⟩], {2, 1}, .initial⟩
      (.deleteObject 0 5) ⟨[⟨1, ⟨5, false⟩⟩], {1}, .initial⟩ := ⟨trivial, rfl⟩
  have hdoc : Documented [.record 5, .record 5, .mark 5 true, .drop 5] 5 := by
    refine ⟨[.record 5, .record 5], [.drop 5], rfl, fun p hp => ?_, by simp, by simp⟩
    rcases List.prefix_cons_iff.mp hp with rfl | ⟨q, rfl, hq⟩
    · decide
    · rw [List.prefix_nil.mp hq]
      decide
  have hrun := (((Run.nil.snoc hfirst).snoc hsecond).snoc hshow).snoc hdelete
  have hquery := (hall Kernel.plain _ _ hrun 5).mpr hdoc
  exact absurd hquery (by decide)

/-- An object created, shown and hidden. -/
theorem showing_iff_documented_hidden :
    pseudoToolboxObjectIsShowing 5 ⟨[⟨1, ⟨5, false⟩⟩], {1}, .initial⟩ = true ↔
      Documented (history [.createObject (.only 1) 0 true 0 0 none 5,
        .showObject true 0 5 0 none 0 0, .hideObject true 0 5]) 5 := by
  have hcreate : Step Kernel.plain initial (.createObject (.only 1) 0 true 0 0 none 5)
      ⟨[⟨1, ⟨5, false⟩⟩], {1}, .initial⟩ := ⟨rfl, rfl⟩
  have hshow : Step Kernel.plain ⟨[⟨1, ⟨5, false⟩⟩], {1}, .initial⟩
      (.showObject true 0 5 0 none 0 0) ⟨[⟨1, ⟨5, true⟩⟩], {1}, .initial⟩ := ⟨trivial, rfl⟩
  have hhide : Step Kernel.plain ⟨[⟨1, ⟨5, true⟩⟩], {1}, .initial⟩ (.hideObject true 0 5)
      ⟨[⟨1, ⟨5, false⟩⟩], {1}, .initial⟩ := ⟨trivial, rfl⟩
  have hkeep : ∀ e, Op.event (.createObject (.only 1) 0 true 0 0 none 5) = some e →
      e.Keeps initial.stacks := by
    rintro e he
    obtain rfl := Option.some.inj he
    rfl
  have hrun := ((Run.nil.snoc hcreate).snoc hshow).snoc hhide
  have hkept : Run (fun t op u => Step Kernel.plain t op u ∧ op.Keeps t) initial
      [.createObject (.only 1) 0 true 0 0 none 5, .showObject true 0 5 0 none 0 0,
        .hideObject true 0 5] ⟨[⟨1, ⟨5, false⟩⟩], {1}, .initial⟩ :=
    ((Run.nil.snoc ⟨hcreate, hkeep⟩).snoc ⟨hshow, fun e he => by
      obtain rfl := Option.some.inj he; trivial⟩).snoc ⟨hhide, fun e he => by
      obtain rfl := Option.some.inj he; trivial⟩
  exact (showing_iff_documented Kernel.plain hrun).mpr hkept _ [] _ (List.append_nil _).symm hrun 5

end Tbox

end CBPseudo
