import CBPseudo.Desktop.Sessions

/-!
# Isolation

What a test session can tell of the libraries is what the bench asks of
them. So once the trap has been reset and the pointer set, no message of
the program's, no transfer and no question about the pointer reaches the
Wimp: it makes no difference what would have become of them
(`session_is_isolated`).
-/

namespace CBPseudo

open Common

namespace Desktop

variable {σ α : Type} {B : Build σ} {S : Setting σ} {L : Libs σ} {E : Events σ}
variable {N : Tbox.TemplateLib σ} {t : Bench} {env : σ}

/-- **Libraries that differ in what is kept from them** only: in what becomes
of a message that is not a question for a task's handle, of a transfer, and
of a question about the pointer. -/
structure Libs.DifferInTrapped (L L' : Libs σ) : Prop where
  evnt : L'.evnt = L.evnt
  eventSetMask : L'.eventSetMask = L.eventSetMask
  tbox : L'.tbox = L.tbox
  toolboxInitialise : L'.toolboxInitialise = L.toolboxInitialise
  toolboxOther : L'.toolboxOther = L.toolboxOther
  saveAs : L'.saveAs = L.saveAs
  redraw : L'.redraw = L.redraw
  memory : L'.memory = L.memory
  wimpReadSysInfo : L'.wimp.wimpReadSysInfo = L.wimp.wimpReadSysInfo
  veneered : L'.wimp.veneered = L.wimp.veneered
  query : L'.wimp.wimpSendMessage wimpEUserMessageAcknowledge Wimp.query =
    L.wimp.wimpSendMessage wimpEUserMessageAcknowledge Wimp.query

/-- The trap has been reset, and the pointer set. -/
structure Bench.Isolated (t : Bench) : Prop where
  trapped : t.trapped.isSome
  pointer : t.pointer.isSome

/-- The same bench, isolated. -/
def SameIsolated (y y' : Bench × σ) : Prop := y = y' ∧ y.1.Isolated

/-- An isolated bench that stays one. -/
def StaysIsolated {ρ : Type} (x : Except Fault (ρ × (Bench × σ))) : Prop :=
  ∀ r y, x = .ok (r, y) → y.1.Isolated

theorem alike_of_staysIsolated {ρ : Type} {x x' : Except Fault (ρ × (Bench × σ))} (h : x' = x)
    (hstays : StaysIsolated x) : Alike SameIsolated x x' := by
  rw [h]
  rcases x with e | ⟨r, y⟩
  · exact .error
  · exact .ok ⟨rfl, hstays r y rfl⟩

theorem staysIsolated_ok {ρ : Type} {r : ρ} (h : t.Isolated) :
    StaysIsolated (.ok (r, (t, env))) := by
  rintro _ _ ⟨rfl⟩
  exact h

theorem staysIsolated_error {ρ : Type} {e : Fault} :
    StaysIsolated (.error e : Except Fault (ρ × (Bench × σ))) := by
  rintro _ _ ⟨⟩

/-- What may be an error, and leaves the bench isolated otherwise. -/
theorem staysIsolated_bind {ρ τ : Type} {x : Except Fault τ} {f : τ → ρ} {g : τ → Bench}
    {e : τ → σ} (h : ∀ z, (g z).Isolated) :
    StaysIsolated (x >>= fun z => .ok (f z, (g z, e z))) := by
  cases x with
  | error e => exact staysIsolated_error
  | ok z => exact staysIsolated_ok (h z)

variable {L' : Libs σ}

theorem findTask_eq (hLL' : L.DifferInTrapped L') (handle icon : ℤ) (th : Option ℤ) (env : σ) :
    findTask L' handle icon th env = findTask L handle icon th env := by
  unfold findTask
  rw [hLL'.query]

/-- A refused redraw is finished alike. -/
theorem refusing_eq {τ : Type} (hLL' : L.DifferInTrapped L') (K : Kernel) (c : Call) (y : τ × σ) :
    refusing K L' c y = refusing K L c y := by
  unfold refusing
  cases c with
  | redrawWindow block more | getRectangle block more => simp only [refused, hLL'.redraw]
  | _ => rfl

/-- **An isolated bench does not ask the functions in question.** -/
theorem answer_eq_of_isolated (hLL' : L.DifferInTrapped L') (S : Setting σ) (c : Call)
    (h : t.Isolated) (env : σ) :
    Bench.answer S L' c (t, env) = Bench.answer S L c (t, env) := by
  cases c with
  | eventInitialise block => simp only [Bench.answer, hLL'.evnt]
  | handlers c => simp only [Bench.answer, Libs.strict, Libs.answer, hLL'.evnt]
  | setMask mask => simp only [Bench.answer, Libs.strict, Libs.answer, hLL'.eventSetMask]
  | toolbox c => simp only [Bench.answer, Libs.strict, Libs.answer, hLL'.toolboxOther]
  | wimp c => simp only [Bench.answer, Libs.strict, Libs.answer, hLL'.veneered]
  | readSysInfo reason results =>
    simp only [Bench.answer, Libs.strict, Libs.answer, hLL'.wimpReadSysInfo]
  | redrawWindow _ _ | getRectangle _ _ =>
    simp only [Bench.answer, Libs.strict, Libs.answer, hLL'.redraw]
  | toolboxInitialise args => simp only [Bench.answer, hLL'.toolboxInitialise]
  | createObject _ _ _ | deleteObject _ _ | showObject _ _ _ _ _ _ | hideObject _ _ =>
    simp only [Bench.answer, hLL'.tbox]
  | bufferFilled _ _ _ _ | fileSaveCompleted _ _ _ => simp only [Bench.answer, hLL'.saveAs]
  | sendMessage code block handle icon th =>
    obtain ⟨msgs, hmsgs⟩ := Option.isSome_iff_exists.mp h.trapped
    simp only [Bench.answer, hmsgs, Bench.trap, Wimp.MessageLib.taskHandle, hLL'.wimpReadSysInfo,
      findTask_eq hLL']
    rfl
  | getPointerInfo block =>
    obtain ⟨said, hsaid⟩ := Option.isSome_iff_exists.mp h.pointer
    simp only [Bench.answer, hsaid]
  | transferBlock sh sbuf dh dbuf size =>
    simp only [Bench.answer, h.trapped, if_true, hLL'.memory]

/-- **No call of the program's ends the isolation.** -/
theorem answer_staysIsolated (S : Setting σ) (L : Libs σ) (c : Call) (h : t.Isolated) (env : σ) :
    StaysIsolated (Bench.answer S L c (t, env)) := by
  have hsame : ∀ {objects : List Tbox.PseudoTboxObject},
      Bench.Isolated { t with objects := objects } := ⟨h.trapped, h.pointer⟩
  cases c with
  | eventInitialise block => exact staysIsolated_ok ⟨h.trapped, h.pointer⟩
  | toolboxInitialise args => exact staysIsolated_ok hsame
  | createObject flags nameOrTemplate id =>
    simp only [Bench.answer]
    cases (L.tbox.toolboxCreateObject flags nameOrTemplate (id.getD nullObjectId) env).1 with
    | none => exact staysIsolated_ok hsame
    | some e => exact staysIsolated_ok h
  | deleteObject flags id => exact staysIsolated_ok hsame
  | showObject flags id showType type parent parentComponent => exact staysIsolated_ok hsame
  | hideObject flags id => exact staysIsolated_ok hsame
  | bufferFilled flags saveas buffer bytesWritten =>
    rw [Bench.answer]
    split
    · split
      · split
        · exact staysIsolated_ok ⟨h.trapped, h.pointer⟩
        · exact staysIsolated_error
      · exact staysIsolated_error
    · exact staysIsolated_ok h
  | fileSaveCompleted flags saveas filename =>
    rw [Bench.answer]
    split
    · exact staysIsolated_ok ⟨h.trapped, h.pointer⟩
    · exact staysIsolated_ok h
  | sendMessage code block handle icon th =>
    obtain ⟨msgs, hmsgs⟩ := Option.isSome_iff_exists.mp h.trapped
    rw [Bench.answer, hmsgs]
    simp only [Bench.trap]
    split
    · exact staysIsolated_error
    · exact staysIsolated_ok ⟨rfl, h.pointer⟩
  | getPointerInfo block =>
    obtain ⟨said, hsaid⟩ := Option.isSome_iff_exists.mp h.pointer
    rw [Bench.answer, hsaid]
    exact staysIsolated_ok h
  | transferBlock sh sbuf dh dbuf size =>
    rw [Bench.answer, h.trapped]
    exact staysIsolated_bind fun _ => h
  | handlers c | setMask mask | toolbox c | wimp c | readSysInfo reason results
  | redrawWindow block more | getRectangle block more =>
    exact staysIsolated_bind (x := L.strict S _ (t.handlers, env)) fun _ => ⟨h.trapped, h.pointer⟩

theorem tests_isolated (c : TestCall) (h : t.Isolated) (env : σ) :
    StaysIsolated (Bench.tests N c (t, env)) := by
  cases c with
  | wimpReset => exact staysIsolated_ok ⟨rfl, h.pointer⟩
  | setPointerInfo block => exact staysIsolated_ok ⟨h.trapped, rfl⟩
  | getMessage index | getMessage2 index out =>
    rw [Bench.tests]
    cases t.messages[index]? with
    | none => exact staysIsolated_error
    | some m => exact staysIsolated_ok h
  | findByTemplateName templateName =>
    rw [Bench.tests]
    exact staysIsolated_bind fun _ => h
  | getBufferFilled flags buffer buffSize nbytes
  | getFileSaveCompleted flags buffer buffSize nbytes =>
    rw [Bench.tests]
    exact staysIsolated_bind fun _ => h
  | getMessageCount | objectIsShowing id => exact staysIsolated_ok h
  | _ => exact staysIsolated_ok ⟨h.trapped, h.pointer⟩

/-- Nor does an event. -/
theorem Bench.Isolated.track (h : t.Isolated) (idBlocks : Addr → Evnt.IdBlock)
    (event : ℤ × WimpPollBlock) : (t.track idBlocks event).Isolated := by
  unfold Bench.track
  split <;> exact ⟨h.trapped, h.pointer⟩

/-- **An isolated bench does not tell the libraries apart**, by its answers to
the program. -/
theorem bench_isolated (hLL' : L.DifferInTrapped L') (S : Setting σ) :
    AnswerAlike (OnSchedule SameIsolated) (Bench.library S L) (Bench.library S L') := by
  refine scheduled_alike ?_ ?_
  · rintro c y _ ⟨rfl, -⟩
    rfl
  · rintro c allow ⟨t, env⟩ _ - ⟨rfl, h⟩
    cases allow with
    | true =>
      exact alike_of_staysIsolated (answer_eq_of_isolated hLL' S c h env)
        (answer_staysIsolated S L c h env)
    | false =>
      rw [refusing_eq hLL']
      exact .ok ⟨rfl, h⟩

/-- Nor in a whole session. -/
theorem session_isolated (hLL' : L.DifferInTrapped L') (S : Setting σ) (E : Events σ)
    (N : Tbox.TemplateLib σ) :
    AnswerAlike (OnSchedule SameIsolated) (Bench.session S L E N) (Bench.session S L' E N) := by
  have hbench := bench_isolated hLL' S
  refine (hbench.sum ?_).sum (beside_alike ?_)
  · refine polling_alike S hbench ?_ ?_ ?_
    · rintro y _ ⟨rfl, -⟩
      rfl
    · rintro y _ env ⟨rfl, h⟩
      exact ⟨rfl, h⟩
    · rintro y _ event ⟨rfl, h⟩
      exact ⟨rfl, h.track _ event⟩
  · rintro c ⟨t, env⟩ _ ⟨rfl, h⟩
    exact alike_of_staysIsolated rfl (tests_isolated c h env)

/-- **A test session is isolated** from when the trap has been reset and the
pointer set, until it ends: it goes the same way, and leaves the libraries
in the same state, whatever the libraries would have done with a message of
the program's, with a transfer and with a question about the pointer. -/
theorem session_is_isolated (hL : L.DocumentedForTests) (hL' : L'.DocumentedForTests)
    (hLL' : L.DifferInTrapped L') (hB : ∀ x, (B.malloc x).Generous) (hdebug : B.debug = true)
    (E : Events σ) (N : Tbox.TemplateLib σ) (P : Evnt.PollLib (Besides σ))
    (client : Client session α) (f : Schedule) {x : Layer × σ} {y : Bench × σ} (h : Shows x y)
    (hy : y.1.Isolated) :
    Alike (fun z z' : Schedule × (Layer × σ) => z.1 = z'.1 ∧ z.2.2 = z'.2.2)
      (client.run (underTest B N L E P) (f, x)) (client.run (underTest B N L' E P) (f, x)) := by
  have hbench := run_alike (session_isolated hLL' B.toSetting E N) client
    (⟨rfl, rfl, hy⟩ : OnSchedule SameIsolated (f, y) (f, y))
  refine (((session_is_bench hL hB hdebug E N P client f h).comp hbench).comp
    (session_is_bench hL' hB hdebug E N P client f h).symm).mono ?_
  rintro ⟨f₁, x₁⟩ ⟨f₂, x₂⟩ ⟨⟨_, y₂⟩, ⟨⟨_, y₁⟩, ⟨rfl, h₁⟩, rfl, rfl, -⟩, rfl, h₂⟩
  exact ⟨rfl, h₁.env_eq.trans h₂.env_eq.symm⟩

/-- The plain libraries, where no transfer succeeds. -/
def Libs.untransferring : Libs Plain :=
  { Libs.plain with
    wimp := { Libs.plain.wimp with
      wimpTransferBlock := fun _ _ _ _ _ env => (some ⟨1, "Transfer"⟩, env) } }

theorem Libs.untransferring_documentedForTests : Libs.untransferring.DocumentedForTests where
  readsNothing := Libs.plain_documented.readsNothing
  writesId := Libs.plain_documented.writesId
  writesNothing := Libs.plain_documented.writesNothing
  succeeds := ⟨fun _ => rfl, fun _ _ _ _ => rfl⟩

/-- With the trap reset and the pointer set, a transfer of no bytes succeeds
even so, after the program has polled. -/
theorem session_is_isolated_transfer :
    let client : Client session (Option KernelOserror) :=
      .call (.inl (.inr (.eventPoll none none none))) fun _ =>
        .call (.inl (.inl (.transferBlock 1 8 2 16 0))) fun e => .done e
    let layer : Layer := { Layer.initial with
      wimp := Wimp.pseudoWimpReset .initial
      pointer := Wimp.pseudoWimpSetPointerInfo ⟨fun _ => 0⟩ .initial }
    Alike (fun z z' : Schedule × (Layer × Plain) => z.1 = z'.1 ∧ z.2.2 = z'.2.2)
      (client.run (underTest .plain namelessTemplates .plain Events.plain idlePoll)
        (.always, (layer, .initial)))
      (client.run (underTest .plain namelessTemplates .untransferring Events.plain idlePoll)
        (.always, (layer, .initial))) := by
  intro client layer
  have hinitial := (shows_initial Plain.initial).layer
  have h : Shows (layer, Plain.initial)
      ({ Bench.initial with trapped := some [], pointer := some ⟨fun _ => 0⟩ }, .initial) :=
    ⟨rfl, ⟨hinitial.handlers.counts, rfl⟩, ⟨rfl, rfl, rfl⟩, hinitial.objects,
      ⟨hinitial.recorders.filled, rfl, hinitial.recorders.saved, rfl⟩, rfl⟩
  exact session_is_isolated (B := .plain) Libs.plain_documentedForTests
    Libs.untransferring_documentedForTests ⟨rfl, rfl, rfl, rfl, rfl, rfl, rfl, rfl, rfl, rfl, rfl⟩
    (fun _ => Allocator.next_generous) rfl Events.plain namelessTemplates idlePoll client .always h
    ⟨rfl, rfl⟩

end Desktop

end CBPseudo
