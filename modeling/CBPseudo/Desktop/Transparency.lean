import CBPseudo.Desktop.Calls
import CBPseudo.Tbox.Ownership
import CBPseudo.Wimp.Sends

/-!
# The substitutes as a faulty desktop

As long as no unit test has asked for anything to be kept from the
libraries, no application can tell the substitutes from the libraries
themselves, made faulty: a call into which an error is injected reports it,
leaves the caller's variables alone and does nothing else, and any other
call is the library's own. But for three things. A program that deregisters
a handler that it has not registered ends there, which is what the trackers
are for; a creation that fails leaves in the caller's variable what memory
held; and a redraw into which an error is injected is finished.
-/

namespace CBPseudo

open Common

namespace Desktop

variable {σ α : Type} {B : Build σ} {L : Libs σ} {s s' : Layer} {env env' : σ} {c : Call}
variable {held : Evnt.Registries}

/-! ## Substitutes that keep nothing -/

/-- **What is documented of the Toolbox**: a creation does not read the
variable for the new object's id, and writes it only where it returns no
error. -/
structure Libs.Documented (L : Libs σ) : Prop where
  readsNothing : ∀ flags nameOrTemplate id id' env,
    (L.tbox.toolboxCreateObject flags nameOrTemplate id env).1 =
      (L.tbox.toolboxCreateObject flags nameOrTemplate id' env).1 ∧
    (L.tbox.toolboxCreateObject flags nameOrTemplate id env).2.2 =
      (L.tbox.toolboxCreateObject flags nameOrTemplate id' env).2.2
  writesId : ∀ flags nameOrTemplate id id' env,
    (L.tbox.toolboxCreateObject flags nameOrTemplate id env).1 = none →
      (L.tbox.toolboxCreateObject flags nameOrTemplate id env).2.1 =
        (L.tbox.toolboxCreateObject flags nameOrTemplate id' env).2.1
  writesNothing : ∀ flags nameOrTemplate id env,
    (L.tbox.toolboxCreateObject flags nameOrTemplate id env).1 ≠ none →
      (L.tbox.toolboxCreateObject flags nameOrTemplate id env).2.1 = id

/-- **Nothing is kept from the libraries**, and the list of objects owns its
records. -/
structure Layer.PassesOn (s : Layer) : Prop where
  owned : s.tbox.Owned
  capture : s.wimp.capture = false
  pointer : s.pointer.pointerInfoIsFake = false
  bufferFilled : s.tbox.saveAs.interceptSaveasBufferFilled = false
  fileSaveCompleted : s.tbox.saveAs.interceptFileSaveCompleted = false

/-- **The substitutes and the libraries, in states that correspond**: the
libraries' is the same, and the trackers count the handlers that the
application has registered. -/
structure Corresponds (x : Layer × σ) (y : Evnt.Registries × σ) : Prop where
  env_eq : x.2 = y.2
  counts : Evnt.Counts x.1.evnt y.1
  passesOn : x.1.PassesOn

/-- Other records of objects. -/
theorem Layer.PassesOn.of_tbox (h : s.PassesOn) {tbox : Tbox.State} (howned : tbox.Owned)
    (hsaveAs : tbox.saveAs = s.tbox.saveAs) : Layer.PassesOn { s with tbox := tbox } where
  owned := howned
  capture := h.capture
  pointer := h.pointer
  bufferFilled := hsaveAs ▸ h.bufferFilled
  fileSaveCompleted := hsaveAs ▸ h.fileSaveCompleted

/-- Other records of handlers. -/
theorem Layer.PassesOn.of_evnt (h : s.PassesOn) (evnt : Evnt.State) :
    Layer.PassesOn { s with evnt := evnt } :=
  ⟨h.owned, h.capture, h.pointer, h.bufferFilled, h.fileSaveCompleted⟩

/-- A call that leaves what is kept as it was, whatever the libraries do. -/
theorem Corresponds.of_env (h : Corresponds (s, env) (held, env)) (env' : σ) :
    Corresponds (s, env') (held, env') := ⟨rfl, h.counts, h.passesOn⟩

/-- A call that records objects, whatever the libraries do. -/
theorem Corresponds.of_tbox (h : Corresponds (s, env) (held, env)) (env' : σ) {tbox : Tbox.State}
    (howned : tbox.Owned) (hsaveAs : tbox.saveAs = s.tbox.saveAs) :
    Corresponds ({ s with tbox := tbox }, env') (held, env') :=
  ⟨rfl, h.counts, h.passesOn.of_tbox howned hsaveAs⟩

/-! ## Calls that fail -/

variable {τ : Type} {K : Kernel}

theorem isSome_refusal : (refusal (τ := τ) K L c).isSome = c.canFail := by
  unfold refusal
  cases c.canFail <;> rfl

/-- **A refused call tells the simulated error.** -/
theorem error_refused (K : Kernel) (L : Libs σ) (c : Call) (env : σ) :
    c.error (refused K L c env).1 = some (oom K) := by
  cases c <;> rfl

/-- But for a redraw, the libraries do not see it. -/
theorem refused_snd (hc : c.isRedraw = false) : (refused K L c env).2 = env := by
  cases c with
  | redrawWindow block more | getRectangle block more => cases hc
  | _ => rfl

/-- **A call into which an error is injected** does nothing else. -/
theorem substitute_false (hc : c.canFail = true) (htaken : c.takenIn s.tbox.saveAs = false) :
    substitute B L false c (s, env) = .ok (refusing B.kernel L c (s, env)) := by
  cases c with
  | handlers c =>
    show ((c.call .refuse).exec B.kernel L.evnt B.debug s.evnt env >>= _) = _
    rw [Evnt.exec_refuse hc]
    rfl
  | toolbox c =>
    rw [substitute, Tbox.Veneer.substitute_eq]
    rfl
  | wimp c =>
    rw [substitute, Wimp.Veneer.substitute_eq]
    rfl
  | createObject flags nameOrTemplate id =>
    rw [substitute, Tbox.createObject_refused]
    rfl
  | deleteObject flags id => cases hc
  | bufferFilled flags saveas buffer bytesWritten =>
    have htaken : s.tbox.saveAs.interceptSaveasBufferFilled = false := htaken
    rw [substitute, Tbox.pseudoSaveasBufferFilled, htaken]
    rfl
  | fileSaveCompleted flags saveas filename =>
    have htaken : s.tbox.saveAs.interceptFileSaveCompleted = false := htaken
    rw [substitute, Tbox.pseudoSaveasFileSaveCompleted, htaken]
    rfl
  | redrawWindow block more =>
    rw [substitute, L.redraw.pseudoWimpRedrawWindow_eq]
    rfl
  | getRectangle block more =>
    rw [substitute, L.redraw.pseudoWimpGetRectangle_eq]
    rfl
  | _ => rfl

/-! ## Calls that are let through -/

/-- **A creation** is answered as the Toolbox answers, and the object is
recorded, if there is one; if there is none, the caller is left what memory
held. -/
theorem createObject_cases (hL : L.Documented) (hB : ∀ x, (B.malloc x).Generous) (s : Layer)
    (flags : UInt32) (nameOrTemplate : Addr) (id : Option ObjectId) {e : Option KernelOserror}
    {objectId : ObjectId}
    (hT : L.tbox.toolboxCreateObject flags nameOrTemplate (id.getD nullObjectId) env =
      (e, objectId, env')) :
    ∃ tbox, substitute B L true (.createObject flags nameOrTemplate id) (s, env) =
        .ok ((Call.createObject flags nameOrTemplate id).spoilt (B.garbage env)
          (e, id.map fun _ => objectId), ({ s with tbox := tbox }, env')) ∧
      (e ≠ none ∧ tbox = s.tbox ∨
        e = none ∧ ∃ a ∉ s.tbox.records, tbox = { s.tbox with
          objects := ⟨a, { objectId := objectId, isShowing := false }⟩ :: s.tbox.objects
          records := insert a s.tbox.records }) := by
  obtain ⟨a, ha⟩ := Option.isSome_iff_exists.mp (hB (s, env) s.tbox.records)
  have hreads := hL.readsNothing flags nameOrTemplate (B.garbage env) (id.getD nullObjectId) env
  have hwrites := hL.writesId flags nameOrTemplate (B.garbage env) (id.getD nullObjectId) env
  have hkeeps := hL.writesNothing flags nameOrTemplate (B.garbage env) env
  -- the id is left in the record rather than in the caller's variable
  rcases hT' : L.tbox.toolboxCreateObject flags nameOrTemplate (B.garbage env) env with
    ⟨e', objectId', env₁⟩
  rw [hT'] at hkeeps
  rw [hT, hT'] at hreads hwrites
  obtain ⟨rfl, rfl⟩ : e' = e ∧ env₁ = env' := hreads
  rw [substitute]
  cases e' with
  | none =>
    obtain rfl : objectId' = objectId := hwrites rfl
    rw [Tbox.createObject_succeeded _ _ _ _ _ id env ha hT']
    exact ⟨_, rfl, .inr ⟨rfl, a, (B.malloc (s, env)).fresh ha, rfl⟩⟩
  | some e =>
    obtain rfl : objectId' = B.garbage env := hkeeps (by simp)
    have hsome : ((B.malloc (s, env)).grant s.tbox.records).isSome := hB (s, env) _
    rw [Tbox.createObject_failed _ _ _ _ _ id env hsome hT']
    exact ⟨s.tbox, rfl, .inl ⟨by simp, rfl⟩⟩

/-- **A call on handlers** is answered as the event library answers, or ends
the program. -/
theorem handlers_cases (hB : ∀ x, (B.malloc x).Generous) (h : Evnt.Counts s.evnt held)
    (c : Evnt.Request) (env : σ) :
    (∃ e, L.strict B.toSetting (.handlers c) (held, env) = .error e ∧
      substitute B L true (.handlers c) (s, env) = .error e) ∨
    ∃ e held' evnt env',
      L.strict B.toSetting (.handlers c) (held, env) = .ok (e, (held', env')) ∧
      substitute B L true (.handlers c) (s, env) = .ok (e, ({ s with evnt := evnt }, env')) ∧
      Evnt.Counts evnt held' ∧ evnt.clientBlock = s.evnt.clientBlock := by
  have hs : substitute B L true (.handlers c) (s, env) =
      (c.call (B.malloc (s, env))).exec B.kernel L.evnt B.debug s.evnt env >>=
        fun r => .ok (r.1, ({ s with evnt := r.2.1 }, r.2.2)) := rfl
  have hstrict : L.strict B.toSetting (.handlers c) (held, env) =
      if c.unheld held then .error (if B.debug then .assertFailed else .abort)
      else .ok ((c.answer L.evnt env).1, (c.registered (c.answer L.evnt env).1 held,
        (c.answer L.evnt env).2)) := rfl
  rcases h.exec B.kernel L.evnt B.debug (hB (s, env) _) c env with
    ⟨hc, he⟩ | ⟨hc, evnt, he, hcounts, hblock⟩
  · exact .inl ⟨_, hstrict.trans (if_pos hc), by rw [hs, he]; rfl⟩
  · refine .inr ⟨_, _, evnt, _, hstrict.trans (if_neg (by rw [hc]; decide)), ?_, hcounts, hblock⟩
    rw [hs, he]
    rfl

/-- **A call that is let through** is answered as the libraries answer. -/
theorem substitute_true (hL : L.Documented) (hB : ∀ x, (B.malloc x).Generous)
    (h : Corresponds (s, env) (held, env)) (c : Call) :
    Alike Corresponds (substitute B L true c (s, env)) (L.strict B.toSetting c (held, env)) := by
  have hpass : s.PassesOn := h.passesOn
  cases c with
  | eventInitialise block =>
    obtain ⟨evnt, he, hcounts, -⟩ :=
      Evnt.counts_initialise B.kernel L.evnt block s.evnt env
    rw [substitute, he]
    exact .ok ⟨rfl, hcounts, hpass.of_evnt evnt⟩
  | handlers c =>
    rcases handlers_cases hB h.counts c env with
      ⟨e, hstrict, hs⟩ | ⟨e, held', evnt, env', hstrict, hs, hcounts, -⟩
    · rw [hs, hstrict]
      exact .error
    · rw [hs, hstrict]
      exact .ok ⟨rfl, hcounts, hpass.of_evnt evnt⟩
  | toolbox c =>
    rw [substitute, Tbox.Veneer.substitute_eq]
    exact .ok (h.of_env _)
  | wimp c =>
    rw [substitute, Wimp.Veneer.substitute_eq]
    exact .ok (h.of_env _)
  | toolboxInitialise args => exact .ok (h.of_tbox _ (Tbox.owned_of_nil rfl) rfl)
  | createObject flags nameOrTemplate id =>
    rcases hT : L.tbox.toolboxCreateObject flags nameOrTemplate (id.getD nullObjectId) env with
      ⟨e, objectId, env'⟩
    obtain ⟨tbox, hs, hcase⟩ := createObject_cases hL hB s flags nameOrTemplate id hT
    have hstrict : L.strict B.toSetting (.createObject flags nameOrTemplate id) (held, env) =
        .ok ((Call.createObject flags nameOrTemplate id).spoilt (B.garbage env)
          (e, id.map fun _ => objectId), (held, env')) := by
      simp only [Libs.strict, Libs.answer, hT]
      rfl
    rw [hs, hstrict]
    rcases hcase with ⟨-, rfl⟩ | ⟨-, a, ha, rfl⟩
    · exact .ok (h.of_env env')
    · exact .ok (h.of_tbox env' (hpass.owned.insert ha) rfl)
  | deleteObject flags id =>
    obtain ⟨tbox, hdelete, howned, -⟩ := hpass.owned.objectDeleted id
    rw [substitute, Tbox.pseudoToolboxDeleteObject, hdelete]
    exact .ok (h.of_tbox _ howned (Tbox.objectDeleted_saveAs hdelete))
  | showObject flags id showType type parent parentComponent =>
    exact .ok (h.of_tbox _ (hpass.owned.setShowing id true) (Tbox.setShowing_saveAs id true s.tbox))
  | hideObject flags id =>
    exact .ok (h.of_tbox _ (hpass.owned.setShowing id false)
      (Tbox.setShowing_saveAs id false s.tbox))
  | bufferFilled flags saveas buffer bytesWritten =>
    rw [substitute, Tbox.pseudoSaveasBufferFilled, hpass.bufferFilled]
    exact .ok (h.of_env _)
  | fileSaveCompleted flags saveas filename =>
    rw [substitute, Tbox.pseudoSaveasFileSaveCompleted, hpass.fileSaveCompleted]
    exact .ok (h.of_env _)
  | sendMessage code block handle icon th =>
    rw [substitute, Wimp.send_forwarded _ _ _ _ _ _ _ _ _ hpass.capture]
    exact .ok (h.of_env _)
  | getPointerInfo block =>
    rw [substitute, Wimp.pseudoWimpGetPointerInfo, hpass.pointer]
    exact .ok (h.of_env _)
  | transferBlock sh sbuf dh dbuf size =>
    rw [substitute, Wimp.pseudoWimpTransferBlock, hpass.capture]
    exact .ok (h.of_env _)
  | redrawWindow block more =>
    rw [substitute, L.redraw.pseudoWimpRedrawWindow_eq]
    exact .ok (h.of_env _)
  | getRectangle block more =>
    rw [substitute, L.redraw.pseudoWimpGetRectangle_eq]
    exact .ok (h.of_env _)
  | setMask mask => exact .ok (h.of_env _)
  | readSysInfo reason results => exact .ok (h.of_env _)

/-- No call is taken in. -/
theorem Layer.PassesOn.takenIn (h : s.PassesOn) (c : Call) :
    c.takenIn s.tbox.saveAs = false := by
  cases c with
  | bufferFilled flags saveas buffer bytesWritten => exact h.bufferFilled
  | fileSaveCompleted flags saveas filename => exact h.fileSaveCompleted
  | _ => rfl

/-- **The substitutes are the libraries made faulty**, call by call. -/
theorem substitute_alike (hL : L.Documented) (hB : ∀ x, (B.malloc x).Generous) (c : Call)
    (allow : Bool) (x : Layer × σ) (y : Evnt.Registries × σ)
    (hallow : c.canFail = false → allow = true) (h : Corresponds x y) :
    Alike Corresponds (substitute B L allow c x)
      (letThroughOr (refusal B.kernel L) (L.strict B.toSetting) c allow y) := by
  obtain ⟨s, env⟩ := x
  obtain ⟨held, env₁⟩ := y
  obtain rfl : env = env₁ := h.env_eq
  cases allow with
  | true =>
    rw [letThroughOr_true]
    exact substitute_true hL hB h c
  | false =>
    have hfail : c.canFail = true := by
      by_contra hno
      exact absurd (hallow (Bool.eq_false_iff.mpr hno)) (by decide)
    rw [substitute_false hfail (h.passesOn.takenIn c), letThroughOr_false (if_pos hfail)]
    exact .ok (h.of_env _)

/-! ## Applications -/

variable {x : Layer × σ} {y y' : Evnt.Registries × σ}

theorem library_alike (hL : L.Documented) (hB : ∀ x, (B.malloc x).Generous) :
    AnswerAlike (OnSchedule Corresponds) (library B L)
      (faulty (refusal B.kernel L) (L.strict B.toSetting)) := by
  -- every call that can fail is asked about
  have hasks : ∀ c (x : Layer × σ) y, Corresponds x y →
      (Call.canFail c && !Call.takenIn x.1.tbox.saveAs c) = Call.canFail c := by
    intro c x y h
    rw [h.passesOn.takenIn c, Bool.not_false, Bool.and_true]
  refine scheduled_alike_faulty (fun c x y h => (hasks c x y h).trans isSome_refusal.symm) ?_
  intro c allow x y hallow h
  rw [hasks c x y h] at hallow
  exact substitute_alike hL hB c allow x y hallow h

/-- **No application can tell the substitutes from the libraries made
faulty**, whichever errors are injected: it ends with the same result,
after the same calls with the same answers, or goes wrong in the same way;
and the libraries end in the same state. -/
theorem desktop_is_faulty (hL : L.Documented) (hB : ∀ x, (B.malloc x).Generous)
    (client : Client calls α) (f : Schedule) (h : Corresponds x y) :
    Alike (OnSchedule Corresponds) (client.run (library B L) (f, x))
      (client.run (faulty (refusal B.kernel L) (L.strict B.toSetting)) (f, y)) :=
  run_alike (library_alike hL hB) client ⟨rfl, h⟩

/-- The number of calls into which an error can be injected. -/
def canFail (log : List (Exchange calls)) : ℕ := log.countP fun x => Call.canFail x.1

theorem asked_eq (K : Kernel) (L : Libs σ) (log : List (Exchange calls)) :
    asked (refusal (τ := τ) K L) log = canFail log :=
  List.countP_congr fun x _ => by rw [isSome_refusal]

/-- **A test that fails one call at a time goes through an application's
calls.** Of the calls that it makes of the libraries, and into which an
error can be injected, each is made to fail by one such schedule: the
application gets to it as it did, is told the simulated error, and goes on
as with the libraries in the state that they were in, or, if it redraws a
window, in the state after the redraw. By a schedule past the last of them
none is, and the application does what it did. -/
theorem desktop_failures_one_by_one (hL : L.Documented) (hB : ∀ x, (B.malloc x).Generous)
    (client : Client calls α) (hx : Corresponds x y) {a : α} {log : List (Exchange calls)}
    (h : client.run (L.strict B.toSetting) y = .ok ((a, log), y')) :
    (∀ n, canFail log ≤ n → ∃ z, client.run (library B L) (.allBut n, x) = .ok ((a, log), z) ∧
      Corresponds z.2 y') ∧
    ∀ before c r after, log = before ++ ⟨c, r⟩ :: after → Call.canFail c = true →
      ∃ held₁ env₁ r₁ env₂ next,
        Run (Exchanges (L.strict B.toSetting)) y before (held₁, env₁) ∧
        client.After before (.call c next) ∧
        refused B.kernel L c env₁ = (r₁, env₂) ∧ Call.error c r₁ = some (oom B.kernel) ∧
        (Call.isRedraw c = false → env₂ = env₁) ∧
        Alike (fun (z : Schedule × (Layer × σ)) y' => z.1 = .always ∧ Corresponds z.2 y')
          (client.run (library B L) (.allBut (canFail before), x))
          (prepend (before ++ [⟨c, r₁⟩])
            ((next r₁).run (L.strict B.toSetting) (held₁, env₂))) := by
  constructor
  · intro n hn
    have halike := desktop_is_faulty hL hB client (.allBut n) hx
    rw [run_allBut_of_le h (by rwa [asked_eq])] at halike
    obtain ⟨z, hz, -, hcorr⟩ := halike.to_ok
    exact ⟨z, hz, hcorr⟩
  · rintro before c r after rfl hfail
    have hrefuse : refusal (τ := Evnt.Registries) B.kernel L c = some (refusing B.kernel L c) :=
      if_pos hfail
    obtain ⟨⟨held₁, env₁⟩, next, hbefore, hafter, halike⟩ := run_allBut_of_split hrefuse h
    rw [asked_eq] at halike
    refine ⟨held₁, env₁, _, _, next, hbefore, hafter, rfl, error_refused _ _ _ _, refused_snd, ?_⟩
    refine ((desktop_is_faulty hL hB client _ hx).comp halike).mono ?_
    rintro z y' ⟨u, ⟨hf, hcorr⟩, hu, rfl⟩
    exact ⟨hf.trans hu, hcorr⟩

/-! ## What the libraries see -/

/-- **What the libraries see of a call**, let through or not. -/
inductive Libs.Sees (S : Setting σ) (L : Libs σ) :
    Evnt.Registries × σ → Exchange calls × Bool → Evnt.Registries × σ → Prop
  /-- A call that is let through. -/
  | passed {c : Call} {r : c.Answer} {y y' : Evnt.Registries × σ}
    (h : L.strict S c y = .ok (r, y')) : Sees S L y (⟨c, r⟩, true) y'
  /-- Of a redraw that is not, the calls that finish it. -/
  | finished {c : Call} {r : c.Answer} {held : Evnt.Registries} {env env' : σ}
    (hc : c.isRedraw = true) (h : refused S.kernel L c env = (r, env')) :
    Sees S L (held, env) (⟨c, r⟩, false) (held, env')
  /-- And of any other call that is not, nothing. -/
  | nothing {c : Call} {r : c.Answer} {y : Evnt.Registries × σ} (hfail : c.canFail = true)
    (hc : c.isRedraw = false) (h : (refused S.kernel L c y.2).1 = r) :
    Sees S L y (⟨c, r⟩, false) y

theorem sees_of_marked {x : Exchange calls × Bool}
    (h : Marked (refusal B.kernel L) (L.strict B.toSetting) y x y') :
    L.Sees B.toSetting y x y' := by
  cases h with
  | passed h => exact .passed h
  | @refused c refuse y h =>
    have hfail : Call.canFail c = true := by rw [← isSome_refusal (K := B.kernel), h]; rfl
    obtain rfl : refusing B.kernel L c = refuse := Option.some.inj ((if_pos hfail).symm.trans h)
    cases hc : Call.isRedraw c with
    | true => exact .finished hc rfl
    | false =>
      have hsame : (refusing B.kernel L c y).2 = y := Prod.ext rfl (refused_snd hc)
      rw [hsame]
      exact .nothing hfail hc rfl

/-- **The libraries see what is let through**, and nothing else but the rest
of each redraw that is not: those exchanges are a run of them, and every
other call was answered with the simulated error. -/
theorem desktop_passed (hL : L.Documented) (hB : ∀ x, (B.malloc x).Generous)
    (client : Client calls α) {f f' : Schedule} {x' : Layer × σ} (hx : Corresponds x y) {a : α}
    {log : List (Exchange calls)}
    (h : client.run (library B L) (f, x) = .ok ((a, log), (f', x'))) :
    ∃ held, Run (L.Sees B.toSetting) y
        (marked (refusal (τ := Evnt.Registries) B.kernel L) f log) (held, x'.2) ∧
      ∀ c r, (⟨c, r⟩, false) ∈ marked (refusal (τ := Evnt.Registries) B.kernel L) f log →
        Call.error c r = some (oom B.kernel) := by
  have halike := desktop_is_faulty hL hB client f hx
  rw [h] at halike
  obtain ⟨⟨f₁, held, env₁⟩, hrun, -, hcorr⟩ := halike.of_ok
  obtain rfl : x'.2 = env₁ := hcorr.env_eq
  have hsees := (run_marked hrun).mono fun _ _ _ => sees_of_marked
  refine ⟨held, hsees, fun c r hmem => ?_⟩
  obtain ⟨y₁, y₂, hs⟩ := hsees.exists_step_of_mem hmem
  cases hs with
  | finished hc h =>
    rw [← error_refused B.kernel L c, h]
  | nothing hfail hc h =>
    rw [← h, error_refused]

/-! ## An application -/

/-- What the plain libraries are in: the handlers held, and a redraw. -/
abbrev Plain := Evnt.Registries × Wimp.Session

/-- A function of the handlers only. -/
def onHandlers {β : Type} (call : Evnt.Registries → β × Evnt.Registries) (env : Plain) :
    β × Plain := ((call env.1).1, ((call env.1).2, env.2))

/-- A function of the redraw only. -/
def onSession {β : Type} (call : Wimp.Session → β × Wimp.Session) (env : Plain) : β × Plain :=
  ((call env.2).1, (env.1, (call env.2).2))

/-- A Wimp with one rectangle of each window to redraw. -/
def oneRectangle : Wimp.FiniteRedrawLib Wimp.Session :=
  .session (fun _ => [⟨fun _ => 1, -1, by decide⟩]) fun _ => 0

/-- Libraries that return no errors, but for a creation of which the template
is at address zero. -/
def Libs.plain : Libs Plain where
  evnt :=
    { eventInitialise := fun block => onHandlers (Evnt.EventLib.plain.eventInitialise block)
      eventRegisterWimpHandler := fun h =>
        onHandlers (Evnt.EventLib.plain.eventRegisterWimpHandler h)
      eventDeregisterWimpHandler := fun h =>
        onHandlers (Evnt.EventLib.plain.eventDeregisterWimpHandler h)
      eventDeregisterWimpHandlersForObject := fun id =>
        onHandlers (Evnt.EventLib.plain.eventDeregisterWimpHandlersForObject id)
      eventRegisterToolboxHandler := fun h =>
        onHandlers (Evnt.EventLib.plain.eventRegisterToolboxHandler h)
      eventDeregisterToolboxHandler := fun h =>
        onHandlers (Evnt.EventLib.plain.eventDeregisterToolboxHandler h)
      eventDeregisterToolboxHandlersForObject := fun id =>
        onHandlers (Evnt.EventLib.plain.eventDeregisterToolboxHandlersForObject id)
      eventRegisterMessageHandler := fun h =>
        onHandlers (Evnt.EventLib.plain.eventRegisterMessageHandler h)
      eventDeregisterMessageHandler := fun h =>
        onHandlers (Evnt.EventLib.plain.eventDeregisterMessageHandler h)
      held := Prod.fst }
  eventSetMask _ env := (none, env)
  tbox :=
    { toolboxCreateObject := fun _ nameOrTemplate id env =>
        if nameOrTemplate = 0 then (some ⟨1, "NoTemplate"⟩, id, env) else (none, 7, env)
      toolboxDeleteObject := fun _ _ env => (none, env)
      toolboxShowObject := fun _ _ _ _ _ _ env => (none, env)
      toolboxHideObject := fun _ _ env => (none, env) }
  toolboxInitialise _ env := (none, env)
  toolboxOther _ env := (none, env)
  saveAs :=
    { saveasBufferFilled := fun _ _ _ _ env => (none, env)
      saveasFileSaveCompleted := fun _ _ _ env => (none, env) }
  wimp :=
    { wimpReadSysInfo := fun _ env => ((none, 42), env)
      wimpSendMessage := fun _ block _ _ th env => (⟨none, block, th⟩, env)
      veneered := fun _ env => (none, env)
      wimpGetPointerInfo := fun block env => ((none, block), env)
      wimpTransferBlock := fun _ _ _ _ _ env => (none, env) }
  redraw :=
    { wimpRedrawWindow := fun block more => onSession (oneRectangle.wimpRedrawWindow block more)
      wimpGetRectangle := fun block more => onSession (oneRectangle.wimpGetRectangle block more)
      left := fun env => oneRectangle.left env.2
      left_lt := fun block more env => oneRectangle.left_lt block more env.2 }
  memory := { bytes := fun _ _ => none, write := fun _ env => env }

theorem Libs.plain_documented : Libs.plain.Documented where
  readsNothing flags nameOrTemplate id id' env := by
    by_cases h : nameOrTemplate = 0
    · simp only [Libs.plain, if_pos h, and_self]
    · simp only [Libs.plain, if_neg h, and_self]
  writesId flags nameOrTemplate id id' env hnone := by
    by_cases h : nameOrTemplate = 0
    · simp only [Libs.plain, if_pos h] at hnone
      cases hnone
    · simp only [Libs.plain, if_neg h]
  writesNothing flags nameOrTemplate id env hsome := by
    by_cases h : nameOrTemplate = 0
    · simp only [Libs.plain, if_pos h]
    · exact absurd (by simp only [Libs.plain, if_neg h]) hsome

/-- A build with memory to spare, in which it held other things before. -/
def Build.plain : Build Plain where
  kernel := .plain
  debug := true
  nameSize := 212
  garbage _ := 99
  locals _ := ⟨0, ⟨fun _ => 0⟩⟩
  malloc _ := .next

/-- At start-up. -/
def Layer.initial : Layer := ⟨Evnt.initial, Tbox.initial, .initial, .initial⟩

/-- At start-up no handlers are held, and no redraw is open. -/
def Plain.initial : Plain := (⟨0, 0, 0⟩, ⟨false, [], []⟩)

theorem corresponds_initial (env : σ) : Corresponds (.initial, env) (⟨0, 0, 0⟩, env) where
  env_eq := rfl
  counts := Evnt.counts_initial
  passesOn := ⟨Tbox.owned_of_nil rfl, rfl, rfl, rfl, rfl⟩

/-- A message handler. -/
def quitHandler : Evnt.PseudoEventMessageHandler := ⟨0, ⟨7⟩, 0⟩

/-- A window to redraw. -/
def mainWindow : Wimp.WimpRedrawWindowBlock := ⟨3, fun _ => 0⟩

/-- An application that registers a handler, fails to create an object, redraws
a window, and deregisters the handler. It ends with what is in the variable
for the object's id. -/
def application : Client calls (Option ObjectId) :=
  .call (.eventInitialise 8) fun _ =>
    .call (.handlers (.registerMessage quitHandler)) fun _ =>
      .call (.createObject 0 0 (some 5)) fun r =>
        .call (.redrawWindow mainWindow 0) fun _ =>
          .call (.handlers (.deregisterMessage quitHandler)) fun _ =>
            .done (r : Option KernelOserror × Option ObjectId).2

/-- It cannot tell which it is given, with an error injected into its
redraw. -/
theorem desktop_is_faulty_application :
    Alike (OnSchedule Corresponds)
      (application.run (library .plain Libs.plain) (.allBut 3, (.initial, .initial)))
      (application.run
        (faulty (refusal .plain Libs.plain) (Libs.plain.strict Build.plain.toSetting))
        (.allBut 3, (⟨0, 0, 0⟩, .initial))) :=
  desktop_is_faulty (B := .plain) Libs.plain_documented (fun _ => Allocator.next_generous)
    application _ (corresponds_initial _)

/-- The calls that it makes up to its redraw. -/
def beforeRedraw : List (Exchange calls) :=
  [⟨.eventInitialise 8, (none : Option KernelOserror)⟩,
    ⟨.handlers (.registerMessage quitHandler), (none : Option KernelOserror)⟩,
    ⟨.createObject 0 0 (some 5), ((some ⟨1, "NoTemplate"⟩, some 99) :
      Option KernelOserror × Option ObjectId)⟩]

/-- Its redraw is made to fail. -/
theorem desktop_failures_one_by_one_application :
    ∃ held₁ env₁ r₁ env₂ next,
      Run (Exchanges (Libs.plain.strict Build.plain.toSetting)) (⟨0, 0, 0⟩, .initial) beforeRedraw
        (held₁, env₁) ∧
      application.After beforeRedraw (.call (.redrawWindow mainWindow 0) next) ∧
      refused .plain Libs.plain (.redrawWindow mainWindow 0) env₁ = (r₁, env₂) ∧
      Call.error (.redrawWindow mainWindow 0) r₁ = some (oom .plain) ∧
      (Call.isRedraw (.redrawWindow mainWindow 0) = false → env₂ = env₁) ∧
      Alike (fun (z : Schedule × (Layer × Plain)) y' => z.1 = .always ∧ Corresponds z.2 y')
        (application.run (library .plain Libs.plain) (.allBut 3, (.initial, .initial)))
        (prepend (beforeRedraw ++ [⟨.redrawWindow mainWindow 0, r₁⟩])
          ((next r₁).run (Libs.plain.strict Build.plain.toSetting) (held₁, env₂))) := by
  have h : application.run (Libs.plain.strict Build.plain.toSetting) (⟨0, 0, 0⟩, .initial) =
      .ok ((some 99, beforeRedraw ++ ⟨.redrawWindow mainWindow 0, ⟨none, ⟨3, fun _ => 1⟩, -1⟩⟩ ::
        [⟨.handlers (.deregisterMessage quitHandler), (none : Option KernelOserror)⟩]),
        (⟨0, 0, 0⟩, (⟨0, 0, 0⟩, ⟨true, [], [.redrawWindow 3]⟩))) := by
    rfl
  exact (desktop_failures_one_by_one (B := .plain) Libs.plain_documented
    (fun _ => Allocator.next_generous) application (corresponds_initial _) h).2 beforeRedraw
    (.redrawWindow mainWindow 0) ⟨none, ⟨3, fun _ => 1⟩, -1⟩ _ rfl rfl

/-- Of two calls, the first of which is a redraw and is made to fail, the
libraries see the redraw finished, and the second. -/
theorem desktop_passed_two :
    let log : List (Exchange calls) :=
      [⟨.redrawWindow mainWindow 5, ⟨some (oom .plain), mainWindow, 0⟩⟩,
        ⟨.hideObject 0 7, (none : Option KernelOserror)⟩]
    let env : Plain := (⟨0, 0, 0⟩, ⟨false, [], [.redrawWindow 3, .getRectangle 3]⟩)
    ∃ held, Run (Libs.plain.Sees Build.plain.toSetting) (⟨0, 0, 0⟩, .initial)
        (marked (refusal (τ := Evnt.Registries) .plain Libs.plain) (.allBut 0) log) (held, env) ∧
      ∀ c r, (⟨c, r⟩, false) ∈
          marked (refusal (τ := Evnt.Registries) .plain Libs.plain) (.allBut 0) log →
        Call.error c r = some (oom .plain) := by
  intro log env
  let client : Client calls Unit :=
    .call (.redrawWindow mainWindow 5) fun _ => .call (.hideObject 0 7) fun _ => .done ()
  have h : client.run (library .plain Libs.plain) (.allBut 0, (.initial, .initial)) =
      .ok (((), log), (.always, (.initial, env))) := by
    rfl
  exact desktop_passed (B := .plain) Libs.plain_documented (fun _ => Allocator.next_generous)
    client (corresponds_initial _) h

end Desktop

end CBPseudo
