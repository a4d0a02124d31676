import CBPseudo.Common.Cancelling
import CBPseudo.Common.Run
import CBPseudo.Tbox.Calls

/-!
# Object records — finding by template name

The list of records, read as the ids in it, is what is left of a history
of creations and deletions, the newest first: `remaining`. Marks and
resets do not touch it, nor does what the Toolbox answers to a deletion, a
show or a hide. The search by template name takes the first that the
Toolbox gives that name for.
-/

namespace CBPseudo

open Common

namespace Tbox

variable {K : Kernel} {s s' : State} {id : ObjectId} {A : Allocator} {op : Op}

/-! ## The ids recorded -/

/-- The ids recorded, the newest first. -/
def State.ids (s : State) : List ObjectId := (vals s.objects).map PseudoTboxObject.objectId

/-- What an event does to the ids: an object recorded is made, one dropped
is cancelled. -/
def Event.entry : Event → Option (Entry ObjectId)
  | .record id => some (.made id)
  | .drop id => some (.cancelled id)
  | .mark _ _ => none
  | .clear => none

/-- The creations and deletions of a sequence of calls. -/
def creations (ops : List Op) : List (Entry ObjectId) := (history ops).filterMap Event.entry

/-- Dropping a record takes away the first of its id. -/
theorem objectDeleted_ids (hw : s.WF) (h : pseudoToolboxObjectDeleted id s = .ok s') :
    s'.ids = s.ids.erase id := by
  unfold pseudoToolboxObjectDeleted at h
  cases hf : findItem (objectIdMatches id) s.objects with
  | none =>
    rw [hf] at h
    obtain rfl := Except.ok.inj h
    have hmem : id ∉ s.ids := by
      intro hm
      obtain ⟨r, hr, hrid⟩ := List.mem_map.mp hm
      obtain ⟨it, hit, rfl⟩ := List.mem_map.mp hr
      exact findItem_eq_none.mp hf it hit (by simp [objectIdMatches, hrid])
    rw [List.erase_of_not_mem hmem]
  | some it =>
    have hlive : it.addr ∈ s.records :=
      (hw.mem_records _).mpr (mem_addrs_of_mem (mem_of_findItem hf))
    rw [hf] at h
    simp only [freeRecord, if_pos hlive] at h
    obtain rfl := Except.ok.inj h
    rw [State.ids, State.ids, vals_removeItem hw.nodup hf, List.erase_eq_eraseP, List.eraseP_map]
    rfl

theorem setShowing_ids {b : Bool} : (setShowing id b s).ids = s.ids := by
  unfold setShowing
  cases findItem (objectIdMatches id) s.objects with
  | none => rfl
  | some it =>
    exact map_vals_modifyItem PseudoTboxObject.objectId
      (fun r : PseudoTboxObject => { r with isShowing := b }) fun _ => rfl

theorem reset_ids (hw : s.WF) : (pseudoToolboxReset s).ids = s.ids := by
  rw [pseudoToolboxReset, forEach_resetObjectRecord hw.nodup (List.nil_append s.objects).symm,
    State.ids, State.ids, vals, vals]
  simp only [List.nil_append, List.map_map]
  rfl

/-- **A call does to the ids what its event says.** -/
theorem exec_ids (hw : s.WF) (hg : op.Granted s) (h : op.exec K s = .ok s') :
    s'.ids = (op.event.bind Event.entry).elim s.ids (noteEntry s.ids) := by
  cases op with
  | createObject A garbage allow flags nameOrTemplate out id =>
    cases allow with
    | false =>
      rw [Op.exec, createObject_refused] at h
      obtain rfl := Except.ok.inj h
      rfl
    | true =>
      obtain ⟨a, ha⟩ := Option.isSome_iff_exists.mp hg
      rw [Op.exec, pseudoToolboxCreateObject, ha] at h
      obtain rfl := Except.ok.inj h
      rfl
  | objectCreated A id =>
    obtain ⟨a, ha⟩ := Option.isSome_iff_exists.mp hg
    rw [Op.exec, pseudoToolboxObjectCreated, ha] at h
    obtain rfl := Except.ok.inj h
    rfl
  | objectDeleted id => exact objectDeleted_ids hw h
  | deleteObject flags id =>
    obtain ⟨⟨e, t, env⟩, he, hout⟩ := bind_eq_ok.mp h
    obtain ⟨t', hdel, hout'⟩ := bind_eq_ok.mp he
    obtain rfl : t = s' := Except.ok.inj hout
    obtain ⟨-, rfl⟩ : _ ∧ t' = t := by simpa using hout'
    exact objectDeleted_ids hw hdel
  | showObject allow flags id showType type parent parentComponent =>
    obtain rfl := Except.ok.inj h
    cases allow with
    | false => rfl
    | true => exact setShowing_ids
  | hideObject allow flags id =>
    obtain rfl := Except.ok.inj h
    cases allow with
    | false => rfl
    | true => exact setShowing_ids
  | reset =>
    obtain rfl := Except.ok.inj h
    exact reset_ids hw

/-! ## Runs -/

/-- A Toolbox that makes an object with a given id, and answers anything
else with a given error or none. -/
def ToolboxLib.replying (id : ObjectId) (e : Option KernelOserror) : ToolboxLib Unit where
  toolboxCreateObject := fun _ _ _ _ => (none, id, ())
  toolboxDeleteObject := fun _ _ _ => (e, ())
  toolboxShowObject := fun _ _ _ _ _ _ _ => (e, ())
  toolboxHideObject := fun _ _ _ => (e, ())

/-- The state after a call, where the Toolbox answers so. -/
def Op.execReplying (K : Kernel) (e : Option KernelOserror) (s : State) : Op → Except Fault State
  | .createObject A garbage allow flags nameOrTemplate out id => do
    let (_, _, s, _) ← pseudoToolboxCreateObject K (.replying id e) A garbage allow flags
      nameOrTemplate out s ()
    .ok s
  | .objectCreated A id => .ok (pseudoToolboxObjectCreated A id s)
  | .objectDeleted id => pseudoToolboxObjectDeleted id s
  | .deleteObject flags id => do
    let (_, s, _) ← pseudoToolboxDeleteObject (.replying id e) flags id s ()
    .ok s
  | .showObject allow flags id showType type parent parentComponent =>
    .ok (pseudoToolboxShowObject K (.replying id e) allow flags id showType type parent
      parentComponent s ()).2.1
  | .hideObject allow flags id =>
    .ok (pseudoToolboxHideObject K (.replying id e) allow flags id s ()).2.1
  | .reset => .ok (pseudoToolboxReset s)

/-- **What the Toolbox answers to a deletion, a show or a hide** is nothing
to the records. -/
theorem execReplying_eq {e : Option KernelOserror} : op.execReplying K e s = op.exec K s := by
  cases op with
  | createObject A garbage allow flags nameOrTemplate out id => rfl
  | objectCreated A id => rfl
  | objectDeleted id => rfl
  | deleteObject flags id =>
    rw [Op.execReplying, Op.exec, pseudoToolboxDeleteObject, pseudoToolboxDeleteObject]
    cases pseudoToolboxObjectDeleted id s <;> rfl
  | showObject allow flags id showType type parent parentComponent => cases allow <;> rfl
  | hideObject allow flags id => cases allow <;> rfl
  | reset => rfl

/-- A step: a call that is granted its record, whatever the Toolbox
answers, and returns. -/
def ReplyStep (K : Kernel) (s : State) (op : Op) (s' : State) : Prop :=
  op.Granted s ∧ ∃ e, op.execReplying K e s = .ok s'

variable {ops : List Op}

theorem creations_snoc : creations (ops ++ [op]) =
    creations ops ++ (op.event.bind Event.entry).toList := by
  rw [creations, creations, history, history, List.filterMap_append, List.filterMap_append]
  cases hev : op.event with
  | none => simp [hev]
  | some ev => cases hentry : ev.entry <;> simp [hev, hentry]

/-- **The ids recorded are those left of the creations**, after every
run. -/
theorem ids_of_run (h : Run (ReplyStep K) initial ops s) :
    s.WF ∧ s.ids = remaining (creations ops) := by
  refine h.history (I := fun ops s => s.WF ∧ s.ids = remaining (creations ops))
    ⟨wf_initial, rfl⟩ ?_
  rintro ops t op u ⟨hw, hids⟩ ⟨hg, e, he⟩
  rw [execReplying_eq] at he
  have hstep : Step K t op u := ⟨hg, he⟩
  refine ⟨(hstep.cases hw).1, ?_⟩
  rw [exec_ids hw hg he, creations_snoc, hids]
  cases op.event.bind Event.entry with
  | none => rw [Option.elim_none, Option.toList_none, List.append_nil]
  | some ev => rw [Option.elim_some, Option.toList_some, remaining_snoc]

/-- The ids recorded were created. -/
theorem created_of_mem_ids (h : Run (ReplyStep K) initial ops s) (hid : id ∈ s.ids) :
    .record id ∈ history ops := by
  rw [(ids_of_run h).2] at hid
  obtain ⟨ev, hev, hentry⟩ := List.mem_filterMap.mp (made_mem_of_mem_remaining hid)
  cases ev with
  | record i =>
    obtain rfl : i = id := by simpa [Event.entry] using hentry
    exact hev
  | drop i => cases hentry
  | mark i b => cases hentry
  | clear => cases hentry

/-! ## The search -/

/-- **The Toolbox gives an object's template a name**: a buffer that is
large enough holds it, and the number of bytes is one the buffer has. -/
def TemplateLib.Names {σ : Type} (N : TemplateLib σ) (id : ObjectId) (name : CString) : Prop :=
  ∀ size env, name.strlen < size → ∃ nbytes env',
    N.toolboxGetTemplateName 0 id size env = (none, name, nbytes, env') ∧
      0 ≤ nbytes ∧ nbytes ≤ size

section Search

variable {σ : Type} {N : TemplateLib σ} {name : ObjectId → CString}

/-- The callback compares the name. -/
theorem templateNameMatches_eq (debug : Bool) (templateName : CString)
    {it : Item PseudoTboxObject} (hlen : (name it.val.objectId).strlen < templateNameSize)
    (hN : N.Names it.val.objectId (name it.val.objectId)) (env : σ) :
    ∃ env', templateNameMatches N debug templateName it env =
      .ok (decide (name it.val.objectId = templateName), env') := by
  obtain ⟨nbytes, env', hcall, h0, hle⟩ := hN templateNameSize env hlen
  have hsize : toSizeT nbytes ≤ templateNameSize := by
    rw [toSizeT_eq_toNat h0 (by simp only [templateNameSize, intMax] at hle ⊢; omega)]
    omega
  refine ⟨env', ?_⟩
  rw [templateNameMatches, hcall]
  simp only [ge_iff_le, cassert_of h0, cassert_of hsize, ok_bind]

/-- **The search answers with the first id of the name**, and with no id
where there is none. -/
theorem findByTemplateName_eq (debug : Bool) (templateName : CString)
    (hN : ∀ id ∈ s.ids, (name id).strlen < templateNameSize ∧ N.Names id (name id)) (env : σ) :
    ∃ env', pseudoToolboxFindByTemplateName N debug templateName s env =
      .ok ((s.ids.find? fun id => name id = templateName).getD nullObjectId, env') := by
  have hcallback : ∀ it ∈ s.objects, ∀ env, ∃ env',
      templateNameMatches N debug templateName it env =
        .ok (decide (name it.val.objectId = templateName), env') := by
    intro it hit env
    have hid : it.val.objectId ∈ s.ids := List.mem_map_of_mem (List.mem_map_of_mem hit)
    exact templateNameMatches_eq debug templateName (hN _ hid).1 (hN _ hid).2 env
  have hfirst : (s.ids.find? fun id => decide (name id = templateName)) =
      (s.objects.find? fun it => decide (name it.val.objectId = templateName)).map
        fun it => it.val.objectId := by
    rw [State.ids, vals, List.map_map, List.find?_map]
    rfl
  obtain ⟨env', hvisit⟩ := forEach_eq_find? hcallback env
  refine ⟨env', ?_⟩
  rw [pseudoToolboxFindByTemplateName, hvisit, ok_bind, hfirst]
  cases s.objects.find? fun it => decide (name it.val.objectId = templateName) <;> rfl

/-- **Finding by template name returns the newest surviving object.** After
every run of creations, deletions, shows, hides and resets, the search
returns the id of the latest recorded creation of that template that has
not been cancelled since, where a deletion cancels the latest creation of
its id that is left; and it returns `NULL_ObjectId` exactly where there is
no such creation. -/
theorem find_by_template_name_newest (K : Kernel) (N : TemplateLib σ) (debug : Bool)
    (name : ObjectId → CString) (h : Run (ReplyStep K) initial ops s)
    (hN : ∀ id, .record id ∈ history ops →
      id ≠ nullObjectId ∧ (name id).strlen < templateNameSize ∧ N.Names id (name id))
    (templateName : CString) (env : σ) :
    ∃ id env', pseudoToolboxFindByTemplateName N debug templateName s env = .ok (id, env') ∧
      (id ≠ nullObjectId → LatestSurvivor (creations ops) (fun i => name i = templateName) id) ∧
      (id = nullObjectId ↔ ∀ before i after, creations ops = before ++ .made i :: after →
        Survives i after → name i ≠ templateName) := by
  have hcreated : ∀ id ∈ s.ids, id ≠ nullObjectId ∧ (name id).strlen < templateNameSize ∧
      N.Names id (name id) := fun id hid => hN id (created_of_mem_ids h hid)
  obtain ⟨env', he⟩ := findByTemplateName_eq debug templateName
    (fun id hid => (hcreated id hid).2) env
  have hids := (ids_of_run h).2
  refine ⟨_, env', he, ?_⟩
  cases hf : s.ids.find? fun id => decide (name id = templateName) with
  | none =>
    rw [hids] at hf
    refine ⟨fun hne => absurd rfl hne, fun _ before i after heq hs hname => ?_, fun _ => rfl⟩
    exact find?_remaining_eq_none.mp hf before i after heq hs (decide_eq_true hname)
  | some id =>
    have hne : id ≠ nullObjectId := (hcreated id (List.mem_of_find?_eq_some hf)).1
    rw [hids] at hf
    have hlatest := latestSurvivor_of_find? hf
    refine ⟨fun _ => hlatest, fun hnull => absurd hnull hne, fun hall => ?_⟩
    obtain ⟨before, after, heq, hs, hname, -⟩ := hlatest
    exact absurd (of_decide_eq_true hname) (hall before id after heq hs)

end Search

/-- A Toolbox in which every object is made from the template `A`. -/
def TemplateLib.oneTemplate : TemplateLib Unit where
  toolboxGetTemplateName := fun _ _ _ _ => (none, ⟨[65], by decide⟩, 2, ())

/-- Two objects of one template, the newer of which is deleted. -/
theorem find_by_template_name_newest_left :
    Run (ReplyStep .plain) initial [.objectCreated (.only 1) 5, .objectCreated (.only 2) 6,
      .objectDeleted 6] ⟨[⟨1, ⟨5, false⟩⟩], {1}, .initial⟩ ∧
    LatestSurvivor (creations [.objectCreated (.only 1) 5, .objectCreated (.only 2) 6,
      .objectDeleted 6]) (fun _ => true) 5 := by
  let A : CString := ⟨[65], by decide⟩
  have hfirst : ReplyStep .plain initial (.objectCreated (.only 1) 5)
      ⟨[⟨1, ⟨5, false⟩⟩], {1}, .initial⟩ := ⟨rfl, none, rfl⟩
  have hsecond : ReplyStep .plain ⟨[⟨1, ⟨5, false⟩⟩], {1}, .initial⟩ (.objectCreated (.only 2) 6)
      ⟨[⟨2, ⟨6, false⟩⟩, ⟨1, ⟨5, false⟩⟩], {2, 1}, .initial⟩ := ⟨rfl, none, rfl⟩
  have hdelete : ReplyStep .plain ⟨[⟨2, ⟨6, false⟩⟩, ⟨1, ⟨5, false⟩⟩], {2, 1}, .initial⟩
      (.objectDeleted 6) ⟨[⟨1, ⟨5, false⟩⟩], {1}, .initial⟩ := ⟨trivial, none, rfl⟩
  have hrun := ((Run.nil.snoc hfirst).snoc hsecond).snoc hdelete
  have hN : ∀ id, .record id ∈ history [.objectCreated (.only 1) 5, .objectCreated (.only 2) 6,
      .objectDeleted 6] → id ≠ nullObjectId ∧ A.strlen < templateNameSize ∧
        TemplateLib.oneTemplate.Names id A := by
    intro id hid
    have hids : id = 5 ∨ id = 6 := by simpa [history, Op.event] using hid
    refine ⟨by rcases hids with rfl | rfl <;> decide, by decide, fun size env hsize => ?_⟩
    have hone : A.strlen = 1 := rfl
    exact ⟨2, (), rfl, by decide, by omega⟩
  obtain ⟨id, env', he, hlatest, -⟩ :=
    find_by_template_name_newest .plain .oneTemplate true (fun _ => A) hrun hN A ()
  have hcomputed : pseudoToolboxFindByTemplateName .oneTemplate true A
      ⟨[⟨1, ⟨5, false⟩⟩], {1}, .initial⟩ () = .ok (5, ()) := rfl
  obtain rfl : 5 = id := by simpa using hcomputed.symm.trans he
  exact ⟨hrun, by simpa using hlatest (by decide)⟩

end Tbox

end CBPseudo
