import CBPseudo.Desktop.Bench
import CBPseudo.Tbox.Ownership

/-!
# The substitutes and the bench

When what the substitutes keep shows a bench: the trackers its handlers, the
trap its messages, the records its objects and the recorders theirs
(`Layer.Shows`). Each function of the substitutes' that reads or writes one
of the last three does to it what the bench does.
-/

namespace CBPseudo

open Common

namespace Desktop

variable {σ α : Type} {B : Build σ} {L : Libs σ} {N : Tbox.TemplateLib σ}

/-! ## States that correspond -/

/-- **The trackers show a bench's handlers.** -/
structure ShowsHandlers (s : Evnt.State) (t : Bench) : Prop where
  counts : Evnt.Counts s t.handlers
  clientBlock : s.clientBlock = t.clientBlock

/-- **A trap shows a bench's messages.** -/
structure ShowsTrap (s : Wimp.State) (t : Bench) : Prop where
  capture : s.capture = t.trapped.isSome
  log : s.log = t.messages
  myRef : s.myRef = t.references

/-- **The records of objects show a list of objects.** -/
structure ShowsObjects (s : Tbox.State) (objects : List Tbox.PseudoTboxObject) : Prop where
  owned : s.Owned
  vals_eq : vals s.objects = objects

/-- **The recorders show a bench's.** -/
structure ShowsRecorders (s : Tbox.SaveAs) (t : Bench) : Prop where
  filled : Tbox.Holds s t.filled.held
  filledArmed : s.interceptSaveasBufferFilled = t.filled.armed
  saved : Tbox.HoldsName s t.saved.held
  savedArmed : s.interceptFileSaveCompleted = t.saved.armed

/-- Where the unit test says that the pointer is. -/
def told (p : Wimp.Pointer) : Option Wimp.WimpGetPointerInfoBlock :=
  if p.pointerInfoIsFake then some p.fakePointerInfo else none

/-- **What the substitutes keep shows a bench.** -/
structure Layer.Shows (s : Layer) (t : Bench) : Prop where
  handlers : ShowsHandlers s.evnt t
  trap : ShowsTrap s.wimp t
  objects : ShowsObjects s.tbox t.objects
  recorders : ShowsRecorders s.tbox.saveAs t
  pointer : told s.pointer = t.pointer

/-- **The substitutes and the bench, in states that correspond**: the
libraries are in the same. -/
structure Shows (x : Layer × σ) (y : Bench × σ) : Prop where
  env_eq : x.2 = y.2
  layer : x.1.Shows y.1

variable {s s' : Layer} {t t' : Bench} {env env' : σ} {w : Wimp.State} {o : Tbox.State}
variable {r : Tbox.SaveAs} {objects : List Tbox.PseudoTboxObject} {id : ObjectId} {b : Bool}

/-! ## Objects -/

namespace ShowsObjects

theorem objectCreated (h : ShowsObjects o objects) {A : Allocator} (hA : A.Generous)
    (id : ObjectId) : ShowsObjects (Tbox.pseudoToolboxObjectCreated A id o)
      ({ objectId := id, isShowing := false } :: objects) := by
  obtain ⟨a, ha⟩ := Option.isSome_iff_exists.mp (hA o.records)
  rw [Tbox.pseudoToolboxObjectCreated, ha]
  exact ⟨h.owned.insert (A.fresh ha), by rw [vals_cons, h.vals_eq]⟩

theorem objectDeleted (h : ShowsObjects o objects) (id : ObjectId) :
    ∃ o', Tbox.pseudoToolboxObjectDeleted id o = .ok o' ∧ o'.saveAs = o.saveAs ∧
      ShowsObjects o' (objects.eraseP fun r => id = r.objectId) := by
  obtain ⟨o', hdelete, howned, hobjects⟩ := h.owned.objectDeleted id
  refine ⟨o', hdelete, Tbox.objectDeleted_saveAs hdelete, howned, ?_⟩
  rw [hobjects, ← h.vals_eq]
  cases hf : findItem (Tbox.objectIdMatches id) o.objects with
  | none =>
    have hnone := map_val_findItem (p := Tbox.objectIdMatches id) (l := o.objects)
    rw [hf, Option.map_none, eq_comm, List.find?_eq_none] at hnone
    exact (List.eraseP_of_forall_not hnone).symm
  | some it => exact vals_removeItem h.owned.nodup hf

theorem setShowing (h : ShowsObjects o objects) (id : ObjectId) (b : Bool) :
    ShowsObjects (Tbox.setShowing id b o)
      (modifyFirst (fun r => id = r.objectId) (fun r => { r with isShowing := b }) objects) := by
  refine ⟨h.owned.setShowing id b, ?_⟩
  rw [← h.vals_eq]
  unfold Tbox.setShowing
  cases hf : findItem (Tbox.objectIdMatches id) o.objects with
  | none =>
    have hnone := map_val_findItem (p := Tbox.objectIdMatches id) (l := o.objects)
    rw [hf, Option.map_none, eq_comm, List.find?_eq_none] at hnone
    exact (modifyFirst_of_forall_not hnone).symm
  | some it => exact vals_modifyItem (f := fun r => { r with isShowing := b }) h.owned.nodup hf

theorem reset (h : ShowsObjects o objects) :
    ShowsObjects (Tbox.pseudoToolboxReset o)
      (objects.map fun r => { r with isShowing := false }) := by
  refine ⟨h.owned.reset, ?_⟩
  rw [Tbox.pseudoToolboxReset,
    Tbox.forEach_resetObjectRecord h.owned.nodup (List.nil_append o.objects).symm, ← h.vals_eq]
  show vals (o.objects.map Tbox.unmarked) = _
  rw [vals, vals, List.map_map, List.map_map]
  rfl

theorem isShowing (h : ShowsObjects o objects) (id : ObjectId) :
    Tbox.pseudoToolboxObjectIsShowing id o =
      (objects.find? fun r => id = r.objectId).any (·.isShowing) := by
  have hfind := map_val_findItem (p := Tbox.objectIdMatches id) (l := o.objects)
  rw [h.vals_eq] at hfind
  rw [Tbox.pseudoToolboxObjectIsShowing]
  show _ = (objects.find? (Tbox.objectIdMatches id)).any _
  rw [← hfind]
  cases findItem (Tbox.objectIdMatches id) o.objects <;> rfl

end ShowsObjects

/-- **The search through the records** is the search through the ids. -/
theorem findByTemplateName_eq_firstOfTemplate (templateName : CString) (o : Tbox.State) (env : σ) :
    Tbox.pseudoToolboxFindByTemplateName N true templateName o env =
      firstOfTemplate N templateName ((vals o.objects).map (·.objectId)) env := by
  rw [Tbox.pseudoToolboxFindByTemplateName]
  generalize o.objects = l
  induction l generalizing env with
  | nil => rfl
  | cons it l ih =>
    rw [vals_cons, List.map_cons, firstOfTemplate]
    -- what the callback answers, and the rest of the search where it goes on
    have hgoes : ∀ env', Tbox.templateNameMatches N true templateName it env = .ok (false, env') →
        forEach (Tbox.templateNameMatches N true templateName) (it :: l) env =
          forEach (Tbox.templateNameMatches N true templateName) l env' :=
      fun env' h => forEach_cons_state h
    rcases hN : N.toolboxGetTemplateName 0 it.val.objectId Tbox.templateNameSize env with
      ⟨_ | e, buffer, nbytes, env'⟩
    · simp only
      split
      · next hbytes =>
        have hcallback : Tbox.templateNameMatches N true templateName it env =
            .ok (decide (buffer = templateName), env') := by
          rw [Tbox.templateNameMatches, hN]
          simp only [ge_iff_le, cassert_of hbytes.1, cassert_of hbytes.2, ok_bind]
        split
        · next hname =>
          have hstop : forEach (Tbox.templateNameMatches N true templateName) (it :: l) env =
              .ok (some it, env') := by
            show (Tbox.templateNameMatches N true templateName it env >>= fun r => _) = _
            rw [hcallback, decide_eq_true hname]
            rfl
          rw [hstop]
          rfl
        · next hname =>
          rw [hgoes env' (by rw [hcallback, decide_eq_false hname]), ih]
      · next hbytes =>
        have hcallback : Tbox.templateNameMatches N true templateName it env =
            .error .assertFailed := by
          rw [Tbox.templateNameMatches, hN]
          by_cases h0 : 0 ≤ nbytes
          · have hsize : ¬ toSizeT nbytes ≤ Tbox.templateNameSize := fun h => hbytes ⟨h0, h⟩
            simp only [ge_iff_le, cassert_of h0, ok_bind, cassert_of_not hsize, error_bind]
          · simp only [ge_iff_le, cassert_of_not h0, error_bind]
        show ((Tbox.templateNameMatches N true templateName it env >>= fun r => _) >>= _) = _
        rw [hcallback]
        rfl
    · have hcallback : Tbox.templateNameMatches N true templateName it env = .ok (false, env') := by
        rw [Tbox.templateNameMatches, hN]
      rw [hgoes env' hcallback, ih]

/-! ## Messages -/

namespace ShowsTrap

theorem reset (h : ShowsTrap w t) :
    ShowsTrap (Wimp.pseudoWimpReset w) { t with trapped := some [] } where
  capture := rfl
  log := rfl
  myRef := h.myRef

/-- Reading a message back. -/
theorem getMessage (h : ShowsTrap w t) (index : ℕ) :
    Wimp.pseudoWimpGetMessage true index w =
      match t.messages[index]? with
      | none => .error .assertFailed
      | some m => .ok m.block := by
  rw [← h.log]
  cases hm : w.log[index]? with
  | none =>
    have hlen := List.getElem?_eq_none_iff.mp hm
    rw [w.length_log] at hlen
    rw [Wimp.pseudoWimpGetMessage, cassert_of_not (Nat.not_lt.mpr hlen), error_bind]
  | some m => exact Wimp.getMessage_of_log true hm

theorem getMessage2 (h : ShowsTrap w t) (index : ℕ) (out : Wimp.Message2) :
    Wimp.pseudoWimpGetMessage2 true index out w =
      match t.messages[index]? with
      | none => .error .assertFailed
      | some m => .ok (m.reply out) := by
  rw [← h.log]
  cases hm : w.log[index]? with
  | none =>
    have hlen := List.getElem?_eq_none_iff.mp hm
    rw [w.length_log] at hlen
    rw [Wimp.pseudoWimpGetMessage2, cassert_of_not (Nat.not_lt.mpr hlen), error_bind]
  | some m => exact Wimp.getMessage2_of_log true out hm

end ShowsTrap

section Trap

variable {code handle icon : ℤ} {block : WimpPollBlock} {th : Option ℤ} {msgs : List Wimp.Msg}
variable {debug : Bool}

/-- **The header of a trapped message**, of a Wimp that returns the task
handle. -/
theorem fillInHeader_eq (hW : L.wimp.Succeeds) :
    Wimp.fillInHeader L.wimp.toMessageLib debug code block w env =
      if Wimp.IsUserMessage code ∧ ¬ InInt (w.myRef + 1) then .error .intOverflow
      else .ok (none, Wimp.stamped (L.wimp.taskHandle env) (w.myRef + 1) code block,
        w.counted code, if Wimp.IsUserMessage code then
          (L.wimp.wimpReadSysInfo Wimp.taskHandleAndVersion env).2 else env) := by
  unfold Wimp.fillInHeader
  by_cases huser : Wimp.IsUserMessage code
  · simp only [cassert_of (hW.sysInfo env), ok_bind, huser, true_and, Wimp.State.counted,
      Wimp.stamped]
    by_cases hint : InInt (w.myRef + 1)
    · rw [toInt_of hint, ok_bind, if_neg (not_not_intro hint), hW.sysInfo env]
      rfl
    · rw [toInt, if_neg hint, error_bind, if_pos hint]
      rfl
  · simp only [huser, false_and, if_false, Wimp.State.counted, Wimp.stamped]

theorem findTaskHandle_eq (hW : L.wimp.Succeeds) :
    Wimp.findTaskHandle L.wimp.toMessageLib debug none handle icon th env =
      .ok (none, (findTask L handle icon th env).1, (findTask L handle icon th env).2) := by
  unfold Wimp.findTaskHandle findTask
  split
  · simp only [cassert_of (hW.query handle icon th env), ok_bind]
    rw [hW.query handle icon th env]
  · rfl

/-- **A message trapped** is at the end of the bench's list. -/
theorem sendMessage_trapped (K : Kernel) (debug : Bool) (hW : L.wimp.Succeeds) (h : ShowsTrap w t)
    (htrapped : t.trapped = some msgs) (code : ℤ) (block : WimpPollBlock) (handle icon : ℤ)
    (th : Option ℤ) (env : σ) :
    (∃ r w' t' env', Wimp.pseudoWimpSendMessage K L.wimp.toMessageLib debug true code block handle
          icon th w env = .ok (r, w', env') ∧
        t.trap L msgs code block handle icon th env = .ok (r, (t', env')) ∧
        ShowsTrap w' t' ∧ t' = { t with trapped := t'.trapped, references := t'.references }) ∨
      ∃ e, Wimp.pseudoWimpSendMessage K L.wimp.toMessageLib debug true code block handle icon th w
          env = .error e ∧
        t.trap L msgs code block handle icon th env = .error e := by
  have hcapture : w.capture = true := by rw [h.capture, htrapped]; rfl
  rw [Wimp.pseudoWimpSendMessage, pseudokernFail_true]
  simp only [hcapture, if_true, fillInHeader_eq hW, h.myRef, Bench.trap]
  by_cases hover : Wimp.IsUserMessage code ∧ ¬ InInt (t.references + 1)
  · right
    exact ⟨_, by rw [if_pos hover]; rfl, by rw [if_pos hover]⟩
  · left
    simp only [if_neg hover, ok_bind, findTaskHandle_eq hW]
    refine ⟨_, _, _, _, rfl, rfl, ?_, rfl⟩
    constructor
    · rw [Wimp.recordMessage_capture, Wimp.State.counted_capture, hcapture]
      rfl
    · rw [Wimp.log_recordMessage, Wimp.State.counted_log, h.log, Bench.messages, htrapped]
      exact take_take_append msgs _
    · rw [Wimp.recordMessage_myRef, Wimp.State.counted_myRef, h.myRef]

end Trap

/-! ## Recorders -/

namespace ShowsRecorders

variable {flags : UInt32} {saveas : ObjectId} {content : List UInt8} {bytesWritten : CInt}

theorem resetFilled (h : ShowsRecorders r t) :
    ShowsRecorders (Tbox.pseudoSaveasResetBufferFilled r) { t with filled := .reset [] } where
  filled := ⟨rfl, rfl, rfl, Nat.zero_le _, rfl⟩
  filledArmed := rfl
  saved := ⟨h.saved.flags, h.saved.id, h.saved.filename⟩
  savedArmed := h.savedArmed

theorem resetSaved (h : ShowsRecorders r t) :
    ShowsRecorders (Tbox.pseudoSaveasResetFileSaveCompleted r)
      { t with saved := .reset .empty } where
  filled := ⟨h.filled.flags, h.filled.id, h.filled.written, h.filled.fits, h.filled.buffer⟩
  filledArmed := h.filledArmed
  saved := ⟨rfl, rfl, rfl⟩
  savedArmed := rfl

/-- **Data taken in**, or a mistake of the program's. -/
theorem bufferFilled (h : ShowsRecorders r t) (harmed : t.filled.armed = true) (K : Kernel)
    (S : Tbox.SaveAsLib σ) (allow : Bool) (flags : UInt32) (saveas : ObjectId)
    (content : List UInt8) (bytesWritten : CInt) (env : σ) :
    if 0 ≤ bytesWritten.val ∧ bytesWritten.val ≤ Tbox.bufferFilledSize then
      if bytesWritten.val ≤ content.length then
        ∃ r', Tbox.pseudoSaveasBufferFilled K S true allow flags saveas content bytesWritten.val r
            env = .ok (none, r', env) ∧
          ShowsRecorders r' { t with
            filled := .took ⟨flags, saveas, content.take bytesWritten.val.toNat⟩ }
      else Tbox.pseudoSaveasBufferFilled K S true allow flags saveas content bytesWritten.val r
        env = .error .outOfBounds
    else Tbox.pseudoSaveasBufferFilled K S true allow flags saveas content bytesWritten.val r env =
      .error .assertFailed := by
  have hr : r.interceptSaveasBufferFilled = true := h.filledArmed.trans harmed
  have hmax := bytesWritten.property.2
  split
  · next hsize =>
    have htoNat := toSizeT_eq_toNat hsize.1 hmax
    split
    · next hlen =>
      obtain ⟨r', he, hholds, hdisarmed, hsame⟩ := Tbox.bufferFilled_armed K S true allow flags
        saveas env hr hsize.1 (by omega) (by omega : bytesWritten.val.toNat ≤ content.length)
      exact ⟨r', he, hholds, hdisarmed, hsame.holds h.saved, hsame.armed.trans h.savedArmed⟩
    · next hlen =>
      have hfits : toSizeT bytesWritten.val ≤ Tbox.bufferFilledSize := by omega
      have hout : ¬ (toSizeT bytesWritten.val ≤ Tbox.bufferFilledSize ∧
          toSizeT bytesWritten.val ≤ content.length) := by omega
      rw [Tbox.pseudoSaveasBufferFilled, if_pos hr]
      simp only [ge_iff_le, cassert_of hsize.1, cassert_of hfits, ok_bind, if_neg hout]
  · next hsize =>
    rw [Tbox.pseudoSaveasBufferFilled, if_pos hr]
    by_cases h0 : 0 ≤ bytesWritten.val
    · have htoNat := toSizeT_eq_toNat h0 hmax
      have hfits : ¬ toSizeT bytesWritten.val ≤ Tbox.bufferFilledSize := by omega
      simp only [ge_iff_le, cassert_of h0, cassert_of_not hfits, ok_bind, error_bind]
    · simp only [ge_iff_le, cassert_of_not h0, error_bind]

/-- **The data read back.** -/
theorem getBufferFilled (h : ShowsRecorders r t) (flags : Option UInt32)
    (buffer : Option (List UInt8)) (buffSize : CInt) (nbytes : Option ℤ) :
    Tbox.pseudoSaveasGetBufferFilled flags buffer buffSize.val nbytes r =
      replyData t.filled.held flags buffer buffSize nbytes := by
  have hholds := h.filled
  have hfits := hholds.fits
  have hint := buffSize.property
  unfold replyData
  cases buffer with
  | none =>
    rw [Tbox.getBufferFilled_null hholds]
    rfl
  | some dest =>
    simp only
    split
    · next hn =>
      -- the length of the data is as good a bound as the buffer's
      have hsame : Tbox.pseudoSaveasGetBufferFilled flags (some dest) buffSize.val nbytes r =
          Tbox.pseudoSaveasGetBufferFilled flags (some dest)
            (min buffSize.val t.filled.held.content.length) nbytes r := by
        unfold Tbox.pseudoSaveasGetBufferFilled
        rw [hholds.written, min_assoc, min_self]
      have hin : InInt (min buffSize.val t.filled.held.content.length) := by
        simp only [InInt, intMin, intMax] at hint ⊢
        omega
      rw [hsame, Tbox.getBufferFilled_of_nonneg hholds hin hn.1
        (fun d hd => by rw [← Option.some.inj hd]; exact hn.2), min_assoc, min_self]
      rfl
    · next hn =>
      by_cases hneg : buffSize.val < 0
      · rw [Tbox.getBufferFilled_of_neg flags dest nbytes hholds hint hneg]
        rfl
      · have hsize : toSizeT (min buffSize.val t.filled.held.content.length) =
            (min buffSize.val t.filled.held.content.length).toNat :=
          toSizeT_eq_toNat (by omega) (by have := hint.2; omega)
        have hout : ¬ (toSizeT (min buffSize.val t.filled.held.content.length) ≤
            Tbox.bufferFilledSize ∧
            toSizeT (min buffSize.val t.filled.held.content.length) ≤ dest.length) := by omega
        rw [Tbox.pseudoSaveasGetBufferFilled, hholds.written]
        simp only [if_neg hout, error_bind]

/-- **The name read back.** -/
theorem getFileSaveCompleted (h : ShowsRecorders r t) (flags : Option UInt32)
    (buffer : Option (List UInt8)) (buffSize : CInt) (nbytes : Option ℤ) :
    Tbox.pseudoSaveasGetFileSaveCompleted flags buffer buffSize.val nbytes r =
      replyName t.saved.held flags buffer buffSize nbytes := by
  unfold Tbox.pseudoSaveasGetFileSaveCompleted replyName
  simp only [h.saved.filename, h.saved.id, h.saved.flags]
  cases buffer with
  | none => rfl
  | some dest =>
    by_cases hpos : buffSize.val ≤ 0
    · simp only [gt_iff_lt, if_pos hpos, if_neg (not_lt.mpr hpos)]
    · simp only [gt_iff_lt, if_neg hpos, if_pos (not_le.mp hpos), Tbox.overwrite]

end ShowsRecorders

end Desktop

end CBPseudo
