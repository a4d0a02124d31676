import CBPseudo.Desktop.Correspondence
import CBPseudo.Desktop.Polling

/-!
# Test sessions

Whatever a unit test, the program under test and its handlers do, in
whatever order and with whatever errors injected, the substitutes answer as
the bench does (`session_is_bench`): call by call, a step of the one is a
step of the other.
-/

namespace CBPseudo

open Common

namespace Desktop

variable {σ α : Type} {B : Build σ} {L : Libs σ} {E : Events σ} {N : Tbox.TemplateLib σ}
variable {P : Evnt.PollLib (Besides σ)} {s s' : Layer} {t t' : Bench} {env env' : σ}
variable {objects : List Tbox.PseudoTboxObject} {id : ObjectId}

/-! ## Calls -/

/-- **What else is documented**: the Wimp returns the task handle, and takes the
message that finds another's. -/
structure Libs.DocumentedForTests (L : Libs σ) : Prop extends L.Documented where
  succeeds : L.wimp.Succeeds

namespace Layer.Shows

/-- Other handlers. -/
theorem of_evnt (h : s.Shows t) {evnt : Evnt.State} {handlers : Evnt.Registries}
    {clientBlock : Option Addr} (hcounts : Evnt.Counts evnt handlers)
    (hblock : evnt.clientBlock = clientBlock) :
    Layer.Shows { s with evnt := evnt }
      { t with handlers := handlers, clientBlock := clientBlock } where
  handlers := ⟨hcounts, hblock⟩
  trap := ⟨h.trap.capture, h.trap.log, h.trap.myRef⟩
  objects := h.objects
  recorders := ⟨h.recorders.filled, h.recorders.filledArmed, h.recorders.saved,
    h.recorders.savedArmed⟩
  pointer := h.pointer

/-- Other objects. -/
theorem of_tbox (h : s.Shows t) {tbox : Tbox.State} (hobjects : ShowsObjects tbox objects)
    (hsaveAs : tbox.saveAs = s.tbox.saveAs) :
    Layer.Shows { s with tbox := tbox } { t with objects := objects } where
  handlers := ⟨h.handlers.counts, h.handlers.clientBlock⟩
  trap := ⟨h.trap.capture, h.trap.log, h.trap.myRef⟩
  objects := hobjects
  recorders := by
    rw [hsaveAs]
    exact ⟨h.recorders.filled, h.recorders.filledArmed, h.recorders.saved, h.recorders.savedArmed⟩
  pointer := h.pointer

/-- Other recorders. -/
theorem of_saveAs (h : s.Shows t) {saveAs : Tbox.SaveAs} {filled : Slot (List UInt8)}
    {saved : Slot CString}
    (hrecorders : ShowsRecorders saveAs { t with filled := filled, saved := saved }) :
    Layer.Shows { s with tbox := { s.tbox with saveAs := saveAs } }
      { t with filled := filled, saved := saved } where
  handlers := ⟨h.handlers.counts, h.handlers.clientBlock⟩
  trap := ⟨h.trap.capture, h.trap.log, h.trap.myRef⟩
  objects := ⟨⟨h.objects.owned.nodup, h.objects.owned.allocated⟩, h.objects.vals_eq⟩
  recorders := hrecorders
  pointer := h.pointer

/-- Another trap. -/
theorem of_wimp (h : s.Shows t) {wimp : Wimp.State} {trapped : Option (List Wimp.Msg)}
    {references : ℤ}
    (htrap : ShowsTrap wimp { t with trapped := trapped, references := references }) :
    Layer.Shows { s with wimp := wimp }
      { t with trapped := trapped, references := references } where
  handlers := ⟨h.handlers.counts, h.handlers.clientBlock⟩
  trap := htrap
  objects := h.objects
  recorders := ⟨h.recorders.filled, h.recorders.filledArmed, h.recorders.saved,
    h.recorders.savedArmed⟩
  pointer := h.pointer

end Layer.Shows

/-- **A call of the program's that is let through** is answered as by the
bench. -/
theorem answer_alike (hL : L.DocumentedForTests) (hB : ∀ x, (B.malloc x).Generous)
    (hdebug : B.debug = true) (h : s.Shows t) (c : Call) (env : σ) :
    Alike Shows (substitute B L true c (s, env)) (Bench.answer B.toSetting L c (t, env)) := by
  cases c with
  | eventInitialise block =>
    obtain ⟨evnt, he, hcounts, hblock⟩ :=
      Evnt.counts_initialise B.kernel L.evnt block s.evnt env
    rw [substitute, he]
    exact .ok ⟨rfl, h.of_evnt hcounts hblock⟩
  | handlers c =>
    show Alike Shows _ (L.strict B.toSetting (.handlers c) (t.handlers, env) >>= _)
    rcases handlers_cases hB h.handlers.counts c env with
      ⟨e, hstrict, hs⟩ | ⟨e, handlers, evnt, env', hstrict, hs, hcounts, hblock⟩
    · rw [hs, hstrict]
      exact .error
    · rw [hs, hstrict]
      exact .ok ⟨rfl, h.of_evnt hcounts (hblock.trans h.handlers.clientBlock)⟩
  | setMask mask => exact .ok ⟨rfl, h⟩
  | toolbox c =>
    rw [substitute, Tbox.Veneer.substitute_eq]
    exact .ok ⟨rfl, h⟩
  | wimp c =>
    rw [substitute, Wimp.Veneer.substitute_eq]
    exact .ok ⟨rfl, h⟩
  | readSysInfo reason results => exact .ok ⟨rfl, h⟩
  | toolboxInitialise args => exact .ok ⟨rfl, h.of_tbox ⟨Tbox.owned_of_nil rfl, rfl⟩ rfl⟩
  | createObject flags nameOrTemplate id =>
    rcases hT : L.tbox.toolboxCreateObject flags nameOrTemplate (id.getD nullObjectId) env with
      ⟨e, objectId, env'⟩
    obtain ⟨tbox, hs, hcase⟩ := createObject_cases hL.toDocumented hB s flags nameOrTemplate id hT
    rw [hs, Bench.answer]
    simp only [hT]
    rcases hcase with ⟨hne, rfl⟩ | ⟨rfl, a, ha, rfl⟩
    · obtain ⟨e, rfl⟩ := Option.ne_none_iff_exists'.mp hne
      exact .ok ⟨rfl, h⟩
    · refine .ok ⟨rfl, h.of_tbox ⟨h.objects.owned.insert ha, ?_⟩ rfl⟩
      rw [vals_cons, h.objects.vals_eq]
  | deleteObject flags id =>
    obtain ⟨tbox, hdelete, hsaveAs, hobjects⟩ := h.objects.objectDeleted id
    rw [substitute, Tbox.pseudoToolboxDeleteObject, hdelete]
    exact .ok ⟨rfl, h.of_tbox hobjects hsaveAs⟩
  | showObject flags id showType type parent parentComponent =>
    exact .ok ⟨rfl, h.of_tbox (h.objects.setShowing id true)
      (Tbox.setShowing_saveAs id true s.tbox)⟩
  | hideObject flags id =>
    exact .ok ⟨rfl, h.of_tbox (h.objects.setShowing id false)
      (Tbox.setShowing_saveAs id false s.tbox)⟩
  | redrawWindow block more =>
    rw [substitute, L.redraw.pseudoWimpRedrawWindow_eq]
    exact .ok ⟨rfl, h⟩
  | getRectangle block more =>
    rw [substitute, L.redraw.pseudoWimpGetRectangle_eq]
    exact .ok ⟨rfl, h⟩
  | bufferFilled flags saveas buffer bytesWritten =>
    rw [substitute, hdebug, Bench.answer]
    cases harmed : t.filled.armed with
    | true =>
      have htaken := h.recorders.bufferFilled harmed B.kernel L.saveAs true flags saveas buffer
        bytesWritten env
      rw [if_pos rfl]
      split at htaken
      · next hsize =>
        rw [if_pos hsize]
        split at htaken
        · next hlen =>
          rw [if_pos hlen]
          obtain ⟨r', hr', hrecorders⟩ := htaken
          rw [hr']
          exact .ok ⟨rfl, h.of_saveAs hrecorders⟩
        · next hlen =>
          rw [if_neg hlen, htaken]
          exact .error
      · next hsize =>
        rw [if_neg hsize, htaken]
        exact .error
    | false =>
      have hr := h.recorders.filledArmed.trans harmed
      rw [Tbox.pseudoSaveasBufferFilled, hr]
      exact .ok ⟨rfl, h⟩
  | fileSaveCompleted flags saveas filename =>
    rw [substitute, Bench.answer]
    cases harmed : t.saved.armed with
    | true =>
      have hr := h.recorders.savedArmed.trans harmed
      rw [Tbox.pseudoSaveasFileSaveCompleted, hr]
      refine .ok ⟨rfl, h.of_saveAs ?_⟩
      have hfilled := h.recorders.filled
      exact ⟨⟨hfilled.flags, hfilled.id, hfilled.written, hfilled.fits, hfilled.buffer⟩,
        h.recorders.filledArmed, ⟨rfl, rfl, rfl⟩, rfl⟩
    | false =>
      have hr := h.recorders.savedArmed.trans harmed
      rw [Tbox.pseudoSaveasFileSaveCompleted, hr]
      exact .ok ⟨rfl, h⟩
  | sendMessage code block handle icon th =>
    rw [substitute, hdebug, Bench.answer]
    cases htrapped : t.trapped with
    | none =>
      have hcapture : s.wimp.capture = false := by rw [h.trap.capture, htrapped]; rfl
      rw [Wimp.send_forwarded _ _ _ _ _ _ _ _ _ hcapture]
      exact .ok ⟨rfl, h⟩
    | some msgs =>
      rcases sendMessage_trapped B.kernel true hL.succeeds h.trap htrapped code block handle
        icon th env with ⟨r, w', t', env', hsend, htrap, hshows, ht'⟩ | ⟨e, hsend, htrap⟩
      · simp only [hsend, htrap]
        rw [ht'] at hshows ⊢
        exact .ok ⟨rfl, h.of_wimp hshows⟩
      · simp only [hsend, htrap]
        exact .error
  | getPointerInfo block =>
    rw [substitute, Wimp.pseudoWimpGetPointerInfo, pseudokernFail_true, Bench.answer, ← h.pointer]
    unfold told
    cases s.pointer.pointerInfoIsFake with
    | true => exact .ok ⟨rfl, h⟩
    | false => exact .ok ⟨rfl, h⟩
  | transferBlock sh sbuf dh dbuf size =>
    rw [substitute, Wimp.pseudoWimpTransferBlock, pseudokernFail_true, h.trap.capture,
      Bench.answer]
    cases t.trapped.isSome with
    | true =>
      simp only [if_true]
      cases hcopy : L.memory.memcpy dbuf sbuf (toSizeT size) env with
      | error e => exact .error
      | ok env' => exact .ok ⟨rfl, h⟩
    | false => exact .ok ⟨rfl, h⟩

/-- **A call of the unit test** is answered as by the bench. -/
theorem tests_alike (hB : ∀ x, (B.malloc x).Generous) (hdebug : B.debug = true) (h : s.Shows t)
    (c : TestCall) (env : σ) : Alike Shows (c.exec B N (s, env)) (Bench.tests N c (t, env)) := by
  cases c with
  | getClientIdBlock =>
    rw [Bench.tests, ← h.handlers.clientBlock]
    exact .ok ⟨rfl, h⟩
  | wimpReset => exact .ok ⟨rfl, h.of_wimp h.trap.reset⟩
  | getMessageCount =>
    rw [Bench.tests, ← h.trap.log, Wimp.State.length_log]
    exact .ok ⟨rfl, h⟩
  | getMessage index =>
    rw [TestCall.exec, hdebug, h.trap.getMessage, Bench.tests]
    cases t.messages[index]? with
    | none => exact .error
    | some m => exact .ok ⟨rfl, h⟩
  | getMessage2 index out =>
    rw [TestCall.exec, hdebug, h.trap.getMessage2, Bench.tests]
    cases t.messages[index]? with
    | none => exact .error
    | some m => exact .ok ⟨rfl, h⟩
  | setPointerInfo block =>
    exact .ok ⟨rfl, ⟨h.handlers.counts, h.handlers.clientBlock⟩,
      ⟨h.trap.capture, h.trap.log, h.trap.myRef⟩, h.objects,
      ⟨h.recorders.filled, h.recorders.filledArmed, h.recorders.saved, h.recorders.savedArmed⟩,
      rfl⟩
  | toolboxReset =>
    refine .ok ⟨rfl, ⟨h.handlers.counts, h.handlers.clientBlock⟩,
      ⟨h.trap.capture, h.trap.log, h.trap.myRef⟩, h.objects.reset, ?_, h.pointer⟩
    show ShowsRecorders (Tbox.pseudoToolboxReset s.tbox).saveAs _
    rw [h.objects.owned.reset_saveAs]
    exact ⟨⟨rfl, rfl, rfl, Nat.zero_le _, rfl⟩, rfl, ⟨rfl, rfl, rfl⟩, rfl⟩
  | objectIsShowing id =>
    rw [TestCall.exec, h.objects.isShowing]
    exact .ok ⟨rfl, h⟩
  | findByTemplateName templateName =>
    rw [TestCall.exec, hdebug, findByTemplateName_eq_firstOfTemplate, h.objects.vals_eq,
      Bench.tests]
    cases hfind : firstOfTemplate N templateName (t.objects.map (·.objectId)) env with
    | error e => exact .error
    | ok r => exact .ok ⟨rfl, h⟩
  | objectCreated id =>
    exact .ok ⟨rfl, h.of_tbox (h.objects.objectCreated (hB (s, env)) id)
      (Tbox.objectCreated_saveAs _ id s.tbox)⟩
  | objectDeleted id =>
    obtain ⟨tbox, hdelete, hsaveAs, hobjects⟩ := h.objects.objectDeleted id
    rw [TestCall.exec, hdelete]
    exact .ok ⟨rfl, h.of_tbox hobjects hsaveAs⟩
  | resetBufferFilled =>
    exact .ok ⟨rfl, h.of_saveAs h.recorders.resetFilled⟩
  | getBufferFilled flags buffer buffSize nbytes =>
    rw [TestCall.exec, h.recorders.getBufferFilled, Bench.tests]
    cases replyData t.filled.held flags buffer buffSize nbytes with
    | error e => exact .error
    | ok r => exact .ok ⟨rfl, h⟩
  | resetFileSaveCompleted =>
    exact .ok ⟨rfl, h.of_saveAs h.recorders.resetSaved⟩
  | getFileSaveCompleted flags buffer buffSize nbytes =>
    rw [TestCall.exec, h.recorders.getFileSaveCompleted, Bench.tests]
    cases replyName t.saved.held flags buffer buffSize nbytes with
    | error e => exact .error
    | ok r => exact .ok ⟨rfl, h⟩

/-! ## Sessions -/

theorem Layer.Shows.takenIn (h : s.Shows t) (c : Call) : c.takenIn s.tbox.saveAs = t.takesIn c := by
  cases c with
  | bufferFilled flags saveas buffer bytesWritten => exact h.recorders.filledArmed
  | fileSaveCompleted flags saveas filename => exact h.recorders.savedArmed
  | _ => rfl

/-- **An event is tracked** as by the bench. -/
theorem track_alike {A : Allocator} (hA : A.Generous) (h : s.Shows t) (event : ℤ × WimpPollBlock)
    (f : Schedule) (env : σ) :
    ∃ w, Evnt.printEvent A event.1 event.2 (E.world (f, (s, env))) = .ok w ∧
      OnSchedule Shows (ofWorld w) (f, (t.track (fun a => E.idBlock a env) event, env)) := by
  have hreported : t.clientBlock.bind (fun b => Evnt.tracked event.1 event.2
      (E.idBlock b env).selfId) = (E.world (f, (s, env))).reported event.1 event.2 := by
    rw [← h.handlers.clientBlock]
    rfl
  rw [Bench.track, hreported]
  obtain ⟨hnone, he⟩ | ⟨id, hrecord, he⟩ | ⟨id, hdrop, he⟩ :=
    Evnt.printEvent_inv A event.1 event.2 (E.world (f, (s, env)))
  · rw [hnone]
    exact ⟨_, he, rfl, rfl, h⟩
  · rw [hrecord]
    exact ⟨_, he, rfl, rfl, h.of_tbox (h.objects.objectCreated hA id)
      (Tbox.objectCreated_saveAs _ id s.tbox)⟩
  · rw [hdrop]
    obtain ⟨tbox, hdelete, hsaveAs, hobjects⟩ := h.objects.objectDeleted id
    refine ⟨{ E.world (f, (s, env)) with tbox := tbox }, he.trans ?_, rfl, rfl,
      h.of_tbox hobjects hsaveAs⟩
    show (Tbox.pseudoToolboxObjectDeleted id s.tbox >>= _) = _
    rw [hdelete]
    rfl

/-- **Call by call**, the substitutes answer the program as the bench does. -/
theorem bench_alike (hL : L.DocumentedForTests) (hB : ∀ x, (B.malloc x).Generous)
    (hdebug : B.debug = true) :
    AnswerAlike (OnSchedule Shows) (library B L) (Bench.library B.toSetting L) := by
  refine scheduled_alike (fun c x y h => by rw [h.layer.takenIn c]) ?_
  rintro c allow ⟨s, env⟩ ⟨t, env'⟩ hallow h
  obtain rfl : env = env' := h.env_eq
  cases allow with
  | true => exact answer_alike hL hB hdebug h.layer c env
  | false =>
    -- it is asked about, so it can fail and is not taken in
    have hasked : (c.canFail && !c.takenIn s.tbox.saveAs) = true := by
      by_contra hno
      exact absurd (hallow (Bool.eq_false_iff.mpr hno)) (by decide)
    rw [Bool.and_eq_true, Bool.not_eq_true'] at hasked
    rw [substitute_false hasked.1 hasked.2]
    exact .ok ⟨rfl, h.layer⟩

theorem session_alike (hL : L.DocumentedForTests) (hB : ∀ x, (B.malloc x).Generous)
    (hdebug : B.debug = true) (P : Evnt.PollLib (Besides σ)) :
    AnswerAlike (OnSchedule Shows) (underTest B N L E P) (Bench.session B.toSetting L E N) := by
  have hbench := bench_alike hL hB hdebug
  refine (hbench.sum ?_).sum (beside_alike ?_)
  · refine events_library_alike P hbench (fun _ _ h => h.env_eq) (fun _ _ _ h => ⟨rfl, h.layer⟩)
      ?_ hB
    rintro A f ⟨s, env⟩ ⟨t, env'⟩ event hA h
    obtain rfl : env = env' := h.env_eq
    exact track_alike hA h.layer event f env
  · rintro c ⟨s, env⟩ ⟨t, env'⟩ h
    obtain rfl : env = env' := h.env_eq
    exact tests_alike hB hdebug h.layer c env

/-- **No test session can tell the substitutes from the bench.** Whatever
the unit test, the program under test and its handlers do, and whichever
errors are injected, both end with the same results after the same calls
with the same answers, or go wrong in the same way, and the libraries end in
the same state. -/
theorem session_is_bench (hL : L.DocumentedForTests) (hB : ∀ x, (B.malloc x).Generous)
    (hdebug : B.debug = true) (E : Events σ) (N : Tbox.TemplateLib σ)
    (P : Evnt.PollLib (Besides σ)) (client : Client session α) (f : Schedule) {x : Layer × σ}
    {y : Bench × σ} (h : Shows x y) :
    Alike (OnSchedule Shows) (client.run (underTest B N L E P) (f, x))
      (client.run (Bench.session B.toSetting L E N) (f, y)) :=
  run_alike (session_alike hL hB hdebug P) client ⟨rfl, h⟩

/-! ## A session that counts -/

/-- At start-up. -/
theorem shows_initial (env : σ) : Shows (Layer.initial, env) (Bench.initial, env) where
  env_eq := rfl
  layer := ⟨⟨Evnt.counts_initial, rfl⟩, ⟨rfl, rfl, rfl⟩, ⟨Tbox.owned_of_nil rfl, rfl⟩,
    ⟨⟨rfl, rfl, rfl, Nat.zero_le _, rfl⟩, rfl, ⟨rfl, rfl, rfl⟩, rfl⟩, rfl⟩

/-- A Toolbox whose templates have no names. -/
def namelessTemplates : Tbox.TemplateLib Plain where
  toolboxGetTemplateName := fun _ _ _ env => (none, .empty, 1, env)

theorem Libs.plain_documentedForTests : Libs.plain.DocumentedForTests where
  toDocumented := Libs.plain_documented
  succeeds := ⟨fun _ => rfl, fun _ _ _ _ => rfl⟩

/-- A unit test that resets the trap, lets the program poll, fail to create an
object, redraw a window and send a message, and counts messages and looks for
an object. -/
def countsMessages : Client session (ℕ × ObjectId) :=
  .call (.inr .wimpReset) fun _ =>
    .call (.inl (.inl (.eventInitialise 8))) fun _ =>
      .call (.inl (.inl (.handlers (.registerMessage quitHandler)))) fun _ =>
        .call (.inl (.inr (.eventPoll none none none))) fun _ =>
          .call (.inl (.inl (.createObject 0 0 (some 5)))) fun _ =>
            .call (.inl (.inl (.redrawWindow mainWindow 0))) fun _ =>
              .call (.inl (.inl (.sendMessage wimpEUserMessage ⟨fun _ => 0⟩ 0 0 none))) fun _ =>
                .call (.inr .getMessageCount) fun (n : ℕ) =>
                  .call (.inr (.findByTemplateName .empty)) fun (id : ObjectId) => .done (n, id)

/-- It comes to the same on the bench as of the substitutes, with its redraw
made to fail. -/
theorem session_is_bench_counts :
    Alike (OnSchedule Shows)
      (countsMessages.run (underTest .plain namelessTemplates .plain Events.plain idlePoll)
        (.allBut 4, (.initial, .initial)))
      (countsMessages.run (Bench.session Build.plain.toSetting .plain Events.plain
        namelessTemplates) (.allBut 4, (.initial, .initial))) :=
  session_is_bench (B := .plain) Libs.plain_documentedForTests (fun _ => Allocator.next_generous)
    rfl Events.plain namelessTemplates idlePoll countsMessages _ (shows_initial _)

end Desktop

end CBPseudo
