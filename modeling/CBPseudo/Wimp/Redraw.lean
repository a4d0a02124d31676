import CBPseudo.Wimp.Model.Redraw

/-!
# An injected error leaves no redraw unfinished

The Wimp's side of a redraw as a session: opened by `wimp_redraw_window`,
it reports one rectangle a call and is closed by the call that finds none
left. Whatever a client does and wherever an error is injected, the calls
that have been made and those still due come to the same list
(`Session.due`): so the session is closed when none are due, after as many
calls as without any error (`redraw_is_finished`).

Of another Wimp it is enough to know that it comes to the end of every
redraw (`FiniteRedrawLib`): then so does the loop that finishes one.
-/

namespace CBPseudo

open Common

namespace Wimp

/-! ## The session -/

/-- A rectangle to redraw: what the Wimp returns in the block and as
`more`, which is not zero. -/
structure Rectangle where
  returned : Fin 10 → ℤ
  more : ℤ
  more_ne : more ≠ 0

/-- A call of the Wimp's own, with the window it is for. -/
inductive RedrawCall
  | redrawWindow (windowHandle : ℤ)
  | getRectangle (windowHandle : ℤ)
  deriving DecidableEq

/-- **A redraw, on the Wimp's side**: whether it is open, the rectangles it
has not reported yet, and the calls made. -/
structure Session where
  isOpen : Bool
  left : List Rectangle
  calls : List RedrawCall

/-- Report the next rectangle; or that there is none left, and close. -/
def Session.report (final : Fin 10 → ℤ) (block : WimpRedrawWindowBlock) (s : Session) :
    Redrawn × Session :=
  match s.left with
  | [] => (⟨none, { block with returned := final }, 0⟩, { s with isOpen := false })
  | r :: left => (⟨none, { block with returned := r.returned }, r.more⟩, { s with left := left })

/-- **The Wimp**, of windows with given rectangles to redraw; `final` is
what it leaves in a block when there are none. -/
def RedrawLib.session (rectangles : ℤ → List Rectangle) (final : Fin 10 → ℤ) :
    RedrawLib Session where
  wimpRedrawWindow := fun block _ s =>
    Session.report final block { isOpen := true, left := rectangles block.windowHandle,
                                 calls := s.calls ++ [.redrawWindow block.windowHandle] }
  wimpGetRectangle := fun block _ s =>
    Session.report final block
      { s with calls := s.calls ++ [.getRectangle block.windowHandle] }

/-- The number of calls that will close the session. -/
def Session.pending (s : Session) : ℕ := if s.isOpen then s.left.length + 1 else 0

/-- **The calls made and those still due** for a window. -/
def Session.due (h : ℤ) (s : Session) : List RedrawCall :=
  s.calls ++ List.replicate s.pending (.getRectangle h)

/-- **In a session**: what the last call returned, and the session after it.
There is no error, there is more as long as the session is open, and the
calls come to `total`. -/
structure InSession (h : ℤ) (total : List RedrawCall) (r : Redrawn) (s : Session) : Prop where
  error : r.error = none
  handle : r.block.windowHandle = h
  more : r.more ≠ 0 ↔ s.isOpen = true
  due : s.due h = total

/-- **A redraw that is over**: the session is closed, there is no more, and
the calls made are `total`. -/
structure IsOver (total : List RedrawCall) (r : Redrawn) (s : Session) : Prop where
  closed : s.isOpen = false
  more : r.more = 0
  calls : s.calls = total

/-- The calls of one redraw, without any error. -/
def redrawCalls (h : ℤ) (n : ℕ) : List RedrawCall :=
  .redrawWindow h :: List.replicate n (.getRectangle h)

section Sessions

variable {rectangles : ℤ → List Rectangle} {final : Fin 10 → ℤ} {block : WimpRedrawWindowBlock}
variable {h more : ℤ} {total : List RedrawCall} {r : Redrawn} {s : Session}

theorem InSession.goesOn_iff (hin : InSession h total r s) : r.goesOn = s.isOpen := by
  rw [Redrawn.goesOn, hin.error, Option.isNone_none, Bool.true_and, Bool.eq_iff_iff, bne_iff_ne]
  exact hin.more

/-- In a session that is not open the redraw is over. -/
theorem InSession.isOver (hin : InSession h total r s) (hclosed : s.isOpen = false) :
    IsOver total r s := by
  refine ⟨hclosed, ?_, ?_⟩
  · by_contra hne
    rw [hin.more.mp hne] at hclosed
    cases hclosed
  · rw [← hin.due, Session.due, Session.pending, hclosed, if_neg (by decide), List.replicate_zero,
      List.append_nil]

/-- **A report** of an open session: one call fewer is due. -/
theorem inSession_report (final : Fin 10 → ℤ) (block : WimpRedrawWindowBlock)
    (hopen : s.isOpen = true)
    (htotal : s.calls ++ List.replicate s.left.length (.getRectangle block.windowHandle) = total) :
    InSession block.windowHandle total (s.report final block).1 (s.report final block).2 ∧
      (s.report final block).2.pending = s.left.length := by
  unfold Session.report
  cases hleft : s.left with
  | nil =>
    rw [hleft] at htotal
    exact ⟨⟨rfl, rfl, by simp, htotal⟩, rfl⟩
  | cons rect left =>
    rw [hleft] at htotal
    -- each rectangle left takes one call, and one more finds that none is left
    have hpending : ({ s with left := left } : Session).pending = left.length + 1 := if_pos hopen
    refine ⟨⟨rfl, rfl, iff_of_true rect.more_ne hopen, ?_⟩, hpending⟩
    rw [Session.due, hpending]
    exact htotal

/-- A redraw is opened. -/
theorem inSession_redrawWindow (rectangles : ℤ → List Rectangle) (final : Fin 10 → ℤ)
    (block : WimpRedrawWindowBlock) (more : ℤ) (s : Session) :
    InSession block.windowHandle
        (s.calls ++ redrawCalls block.windowHandle (rectangles block.windowHandle).length)
        ((RedrawLib.session rectangles final).wimpRedrawWindow block more s).1
        ((RedrawLib.session rectangles final).wimpRedrawWindow block more s).2 ∧
      ((RedrawLib.session rectangles final).wimpRedrawWindow block more s).2.pending =
        (rectangles block.windowHandle).length :=
  inSession_report final block rfl (by rw [List.append_assoc]; rfl)

/-- A redraw goes on. -/
theorem inSession_getRectangle (rectangles : ℤ → List Rectangle) (final : Fin 10 → ℤ)
    (block : WimpRedrawWindowBlock) (more : ℤ) (hopen : s.isOpen = true) :
    InSession block.windowHandle (s.due block.windowHandle)
        ((RedrawLib.session rectangles final).wimpGetRectangle block more s).1
        ((RedrawLib.session rectangles final).wimpGetRectangle block more s).2 ∧
      ((RedrawLib.session rectangles final).wimpGetRectangle block more s).2.pending =
        s.left.length := by
  have hpending : s.pending = s.left.length + 1 := if_pos hopen
  refine inSession_report final block hopen ?_
  rw [Session.due, hpending, List.append_assoc]
  rfl

/-! ## The loops -/

/-- **The rest of a redraw is finished**, from any point of it. -/
theorem finishRedraw_isOver (rectangles : ℤ → List Rectangle) (final : Fin 10 → ℤ) {fuel : ℕ}
    (hin : InSession h total r s) (hfuel : s.pending < fuel) :
    ∃ r' s', finishRedraw (.session rectangles final) fuel (r, s) = some (r', s') ∧
      IsOver total r' s' := by
  -- one rectangle fewer is pending after each turn
  have hstep : ∀ t : Redrawn × Session, InSession h total t.1 t.2 → t.1.goesOn = true →
      ∃ u, some ((RedrawLib.session rectangles final).wimpGetRectangle t.1.block t.1.more t.2) =
        some u ∧ InSession h total u.1 u.2 ∧ u.2.pending < t.2.pending := by
    rintro ⟨r, s⟩ ht hgoes
    have hopen : s.isOpen = true := ht.goesOn_iff.symm.trans hgoes
    have hpending : s.pending = s.left.length + 1 := if_pos hopen
    obtain ⟨hnext, hleft⟩ := inSession_getRectangle rectangles final r.block r.more hopen
    rw [ht.handle, ht.due] at hnext
    exact ⟨_, rfl, hnext, by rw [hpending, hleft]; exact Nat.lt_succ_self _⟩
  obtain ⟨⟨r', s'⟩, hloop, hin', hcond⟩ := loop_total (s := (r, s))
    (fun t : Redrawn × Session => t.2.pending) hstep hin hfuel
  exact ⟨r', s', hloop, hin'.isOver (hin'.goesOn_iff.symm.trans hcond)⟩

/-- **A call with an error injected** finishes the redraw: in a block of
its own, so that the caller's is left as it was. -/
theorem redrawOrFinish_refused (K : Kernel) (rectangles : ℤ → List Rectangle) (final : Fin 10 → ℤ)
    {call : WimpRedrawWindowBlock → ℤ → Session → Redrawn × Session} {fuel : ℕ}
    (hcall : ∀ b : WimpRedrawWindowBlock, b.windowHandle = block.windowHandle →
      InSession block.windowHandle total (call b more s).1 (call b more s).2 ∧
        (call b more s).2.pending < fuel) :
    ∃ s', redrawOrFinish K (.session rectangles final) call fuel false block more s =
        some (⟨some (oom K), block, 0⟩, s') ∧ IsOver total ⟨some (oom K), block, 0⟩ s' := by
  obtain ⟨hin, hfuel⟩ := hcall ⟨block.windowHandle, fun _ => 0⟩ rfl
  obtain ⟨r', s', hfinish, hover⟩ :=
    finishRedraw_isOver rectangles final hin hfuel
  refine ⟨s', ?_, hover.closed, rfl, hover.calls⟩
  have hrest : finishRedraw (.session rectangles final) fuel
      (call ⟨block.windowHandle, fun _ => 0⟩ more s) = some (r', s') := hfinish
  rw [redrawOrFinish, pseudokernFail_false]
  simp only [hrest, Option.bind_eq_bind, Option.bind_some, hover.more]

end Sessions

/-! ## The client -/

/-- **A client in the middle of a redraw**: what its last call answered, the
world after it, and the number of calls so far. -/
structure Client (σ : Type) where
  redrawn : Redrawn
  env : σ
  turn : ℕ

/-- One turn of the client: it goes on with the redraw. -/
def Client.getRectangle {σ : Type} (K : Kernel) (L : RedrawLib σ) (fuel : ℕ) (allow : ℕ → Bool)
    (c : Client σ) : Option (Client σ) := do
  let (r, env) ← pseudoWimpGetRectangle K L fuel (allow c.turn) c.redrawn.block c.redrawn.more c.env
  some ⟨r, env, c.turn + 1⟩

/-- **A client redraws a window**: it starts, and goes on while there is no
error and there is more. `allow` are the error injection's answers. -/
def redrawClient {σ : Type} (K : Kernel) (L : RedrawLib σ) (fuel : ℕ) (allow : ℕ → Bool)
    (block : WimpRedrawWindowBlock) (more : ℤ) (env : σ) : Option (Client σ) := do
  let (r, env) ← pseudoWimpRedrawWindow K L fuel (allow 0) block more env
  loop (fun c => c.redrawn.goesOn) (Client.getRectangle K L fuel allow) fuel ⟨r, env, 1⟩

section Clients

variable {K : Kernel} {rectangles : ℤ → List Rectangle} {final : Fin 10 → ℤ} {fuel : ℕ}
variable {block : WimpRedrawWindowBlock} {more h : ℤ} {s : Session}

/-- A redraw with an injected error, from its start. -/
theorem redrawWindow_refused (K : Kernel) (rectangles : ℤ → List Rectangle) (final : Fin 10 → ℤ)
    (block : WimpRedrawWindowBlock) (more : ℤ) (s : Session)
    (hfuel : (rectangles block.windowHandle).length < fuel) :
    ∃ s', pseudoWimpRedrawWindow K (.session rectangles final) fuel false block more s =
        some (⟨some (oom K), block, 0⟩, s') ∧
      IsOver (s.calls ++ redrawCalls block.windowHandle (rectangles block.windowHandle).length)
        ⟨some (oom K), block, 0⟩ s' := by
  refine redrawOrFinish_refused K rectangles final fun b hb => ?_
  obtain ⟨hin, hpending⟩ := inSession_redrawWindow rectangles final b more s
  rw [hb] at hin hpending
  exact ⟨hin, by rw [hpending]; exact hfuel⟩

/-- A redraw with an injected error, from any point of it. -/
theorem getRectangle_refused (K : Kernel) (rectangles : ℤ → List Rectangle) (final : Fin 10 → ℤ)
    (block : WimpRedrawWindowBlock) (more : ℤ) (hopen : s.isOpen = true)
    (hfuel : s.left.length < fuel) :
    ∃ s', pseudoWimpGetRectangle K (.session rectangles final) fuel false block more s =
        some (⟨some (oom K), block, 0⟩, s') ∧
      IsOver (s.due block.windowHandle) ⟨some (oom K), block, 0⟩ s' := by
  refine redrawOrFinish_refused K rectangles final fun b hb => ?_
  obtain ⟨hin, hpending⟩ := inSession_getRectangle rectangles final b more hopen
  rw [hb] at hin
  exact ⟨hin, by rw [hpending]; exact hfuel⟩

/-- **Where a client stands**: in the session, with few enough calls due, or
at the end of the redraw with the injected error. -/
def Client.Redraws (K : Kernel) (h : ℤ) (total : List RedrawCall) (fuel : ℕ) (c : Client Session) :
    Prop :=
  (InSession h total c.redrawn c.env ∧ c.env.pending < fuel) ∨
  (c.redrawn.error = some (oom K) ∧ IsOver total c.redrawn c.env)

/-- One turn of the client. -/
theorem Client.Redraws.getRectangle (allow : ℕ → Bool) {total : List RedrawCall}
    {c : Client Session} (hc : c.Redraws K h total fuel) (hgoes : c.redrawn.goesOn = true) :
    ∃ c', Client.getRectangle K (.session rectangles final) fuel allow c = some c' ∧
      c'.Redraws K h total fuel ∧ c'.env.pending < c.env.pending := by
  rcases hc with ⟨hin, hfuel⟩ | ⟨herror, -⟩
  · obtain ⟨r, s, n⟩ := c
    have hopen : s.isOpen = true := hin.goesOn_iff.symm.trans hgoes
    have hpending : s.pending = s.left.length + 1 := if_pos hopen
    rw [hpending] at hfuel
    cases hallow : allow n with
    | true =>
      obtain ⟨hnext, hleft⟩ := inSession_getRectangle rectangles final r.block r.more hopen
      rw [hin.handle, hin.due] at hnext
      refine ⟨⟨_, _, n + 1⟩, ?_, Or.inl ⟨hnext, by rw [hleft]; omega⟩, ?_⟩
      · rw [Client.getRectangle, hallow]
        rfl
      · rw [hpending, hleft]
        omega
    | false =>
      obtain ⟨s', hcall, hover⟩ := getRectangle_refused K rectangles final r.block r.more hopen
        (show s.left.length < fuel by omega)
      rw [hin.handle, hin.due] at hover
      refine ⟨⟨_, s', n + 1⟩, ?_, Or.inr ⟨rfl, hover⟩, ?_⟩
      · rw [Client.getRectangle, hallow]
        simp only [hcall, Option.bind_eq_bind, Option.bind_some]
      · rw [hpending, Session.pending, hover.closed, if_neg (by decide)]
        omega
  · -- the client has stopped at the injected error
    rw [Redrawn.goesOn, herror] at hgoes
    cases hgoes

/-- **A client's redraw ends**, with the redraw over. -/
theorem redrawClient_isOver (K : Kernel) (rectangles : ℤ → List Rectangle) (final : Fin 10 → ℤ)
    (allow : ℕ → Bool) (block : WimpRedrawWindowBlock) (more : ℤ) (s : Session)
    (hfuel : (rectangles block.windowHandle).length < fuel) :
    ∃ c, redrawClient K (.session rectangles final) fuel allow block more s = some c ∧
      IsOver (s.calls ++ redrawCalls block.windowHandle (rectangles block.windowHandle).length)
        c.redrawn c.env := by
  -- the client starts in the session, or with the redraw over
  have hstart : ∃ r s', pseudoWimpRedrawWindow K (.session rectangles final) fuel (allow 0) block
      more s = some (r, s') ∧ s'.pending < fuel ∧
      Client.Redraws K block.windowHandle
        (s.calls ++ redrawCalls block.windowHandle (rectangles block.windowHandle).length) fuel
        ⟨r, s', 1⟩ := by
    cases allow 0 with
    | true =>
      obtain ⟨hin, hpending⟩ := inSession_redrawWindow rectangles final block more s
      rw [← hpending] at hfuel
      exact ⟨_, _, rfl, hfuel, Or.inl ⟨hin, hfuel⟩⟩
    | false =>
      obtain ⟨s', hcall, hover⟩ := redrawWindow_refused K rectangles final block more s hfuel
      refine ⟨_, s', hcall, ?_, Or.inr ⟨rfl, hover⟩⟩
      rw [Session.pending, hover.closed, if_neg (by decide)]
      omega
  obtain ⟨r, s', hcall, hpending, hc⟩ := hstart
  obtain ⟨c, hloop, hc', hcond⟩ := loop_total (s := ⟨r, s', 1⟩)
    (fun c : Client Session => c.env.pending)
    (fun _ hc hgoes => hc.getRectangle allow hgoes) hc hpending
  refine ⟨c, ?_, ?_⟩
  · rw [redrawClient, hcall]
    exact hloop
  · rcases hc' with ⟨hin, -⟩ | ⟨-, hover⟩
    · exact hin.isOver (hin.goesOn_iff.symm.trans hcond)
    · exact hover

/-- **An injected error never leaves a redraw unfinished.** For windows of
any number of rectangles and errors injected anywhere, the client's loop
ends, with the session closed, no more to redraw, and as many calls of the
Wimp's own as without an error. The call that returns the error makes the
calls that are left, for the caller's window, and leaves the caller's block
as it was. -/
theorem redraw_is_finished (K : Kernel) (rectangles : ℤ → List Rectangle) (final : Fin 10 → ℤ)
    (allow : ℕ → Bool) (block : WimpRedrawWindowBlock) (more : ℤ) (s : Session) (fuel : ℕ)
    (hfuel : (rectangles block.windowHandle).length < fuel) :
    (∃ c c₀, redrawClient K (.session rectangles final) fuel allow block more s = some c ∧
      redrawClient K (.session rectangles final) fuel (fun _ => true) block more s = some c₀ ∧
      c.env.isOpen = false ∧ c.redrawn.more = 0 ∧ c.env.calls.length = c₀.env.calls.length) ∧
    (∃ s', pseudoWimpRedrawWindow K (.session rectangles final) fuel false block more s =
        some (⟨some (oom K), block, 0⟩, s') ∧ s'.isOpen = false ∧
      s'.calls = s.calls ++ .redrawWindow block.windowHandle ::
        List.replicate (rectangles block.windowHandle).length (.getRectangle block.windowHandle)) ∧
    ∀ (block : WimpRedrawWindowBlock) (more : ℤ) (s : Session), s.isOpen = true →
      s.left.length < fuel →
      ∃ s', pseudoWimpGetRectangle K (.session rectangles final) fuel false block more s =
          some (⟨some (oom K), block, 0⟩, s') ∧ s'.isOpen = false ∧
        s'.calls = s.calls ++
          List.replicate (s.left.length + 1) (.getRectangle block.windowHandle) := by
  obtain ⟨c, hc, hover⟩ :=
    redrawClient_isOver K rectangles final allow block more s hfuel
  obtain ⟨c₀, hc₀, hover₀⟩ :=
    redrawClient_isOver K rectangles final (fun _ => true) block more s hfuel
  refine ⟨⟨c, c₀, hc, hc₀, hover.closed, hover.more, by rw [hover.calls, hover₀.calls]⟩, ?_, ?_⟩
  · obtain ⟨s', hcall, hover⟩ := redrawWindow_refused K rectangles final block more s hfuel
    exact ⟨s', hcall, hover.closed, hover.calls⟩
  · intro block more s hopen hfuel
    obtain ⟨s', hcall, hover⟩ :=
      getRectangle_refused K rectangles final block more hopen hfuel
    refine ⟨s', hcall, hover.closed, hover.calls.trans ?_⟩
    rw [Session.due, Session.pending, if_pos hopen]

/-- A window of two rectangles, with an error injected into the second
call. -/
theorem redraw_is_finished_second :
    ∃ c c₀, redrawClient .plain
        (.session (fun _ => [⟨fun _ => 1, -1, by decide⟩, ⟨fun _ => 2, -1, by decide⟩]) fun _ => 0)
        3 (fun n => n != 1) ⟨7, fun _ => 0⟩ 0 ⟨false, [], []⟩ = some c ∧
      redrawClient .plain
        (.session (fun _ => [⟨fun _ => 1, -1, by decide⟩, ⟨fun _ => 2, -1, by decide⟩]) fun _ => 0)
        3 (fun _ => true) ⟨7, fun _ => 0⟩ 0 ⟨false, [], []⟩ = some c₀ ∧
      c.env.isOpen = false ∧ c.redrawn.more = 0 ∧ c.env.calls.length = c₀.env.calls.length :=
  (redraw_is_finished .plain _ _ _ _ _ _ 3 (by decide)).1

end Clients

/-! ## Any Wimp that comes to the end -/

/-- **A Wimp that comes to the end of every redraw**: `left` bounds the
rectangles that it has still to report, and each that it reports is one
fewer. -/
structure FiniteRedrawLib (σ : Type) extends RedrawLib σ where
  left : σ → ℕ
  left_lt : ∀ block more env, (wimpGetRectangle block more env).1.goesOn = true →
    left (wimpGetRectangle block more env).2 < left env

/-- The Wimp of the sessions comes to the end. -/
def FiniteRedrawLib.session (rectangles : ℤ → List Rectangle) (final : Fin 10 → ℤ) :
    FiniteRedrawLib Session where
  toRedrawLib := .session rectangles final
  left s := s.left.length
  left_lt := by
    rintro block more ⟨isOpen, left, calls⟩ hgoes
    cases left with
    | nil => cases hgoes
    | cons r left => exact Nat.lt_succ_self left.length

namespace FiniteRedrawLib

variable {σ : Type} (L : FiniteRedrawLib σ)

/-- The turns that a loop takes, at most. -/
def turns (t : Redrawn × σ) : ℕ := if t.1.goesOn then L.left t.2 + 1 else 0

variable {fuel : ℕ} {t : Redrawn × σ}

/-- The rest of a redraw comes to an end. -/
theorem finishRedraw_total (h : L.turns t < fuel) :
    ∃ u, finishRedraw L.toRedrawLib fuel t = some u ∧ u.1.goesOn = false := by
  -- the last turn finds none left, and any other leaves one fewer
  have hstep : ∀ t : Redrawn × σ, True → t.1.goesOn = true →
      ∃ u, some (L.wimpGetRectangle t.1.block t.1.more t.2) = some u ∧ True ∧
        L.turns u < L.turns t := by
    intro t _ hgoes
    refine ⟨_, rfl, trivial, ?_⟩
    rw [turns, turns, if_pos hgoes]
    split
    · next hmore => exact Nat.add_lt_add_right (L.left_lt _ _ _ hmore) 1
    · exact Nat.succ_pos _
  obtain ⟨u, hloop, -, hcond⟩ := loop_total (s := t) L.turns hstep trivial h
  exact ⟨u, hloop, hcond⟩

/-- **What finishing a redraw comes to**, from any point of it. -/
def finish (t : Redrawn × σ) : Redrawn × σ :=
  (finishRedraw L.toRedrawLib (L.turns t + 1) t).get
    (Option.isSome_iff_exists.mpr
      ((L.finishRedraw_total (Nat.lt_succ_self _)).imp fun _ => And.left))

theorem finishRedraw_eq (h : L.turns t < fuel) :
    finishRedraw L.toRedrawLib fuel t = some (L.finish t) :=
  loop_mono (Option.some_get _).symm h

/-- When it is finished there are no more rectangles, or there was an error. -/
theorem goesOn_finish (t : Redrawn × σ) : (L.finish t).1.goesOn = false := by
  obtain ⟨u, hu, hgoes⟩ := L.finishRedraw_total (Nat.lt_succ_self (L.turns t))
  rw [L.finishRedraw_eq (Nat.lt_succ_self _)] at hu
  rwa [Option.some.inj hu]

/-- **What a refused call answers**: the error, the caller's block as it was,
and how many more rectangles there were said to be when the redraw had been
finished. -/
def refused (K : Kernel) (call : WimpRedrawWindowBlock → ℤ → σ → Redrawn × σ)
    (block : WimpRedrawWindowBlock) (more : ℤ) (env : σ) : Redrawn × σ :=
  let (r, env) := L.finish (call ⟨block.windowHandle, fun _ => 0⟩ more env)
  (⟨some (oom K), block, r.more⟩, env)

/-- Enough turns for a call and those after it. -/
def enough (call : WimpRedrawWindowBlock → ℤ → σ → Redrawn × σ) (block : WimpRedrawWindowBlock)
    (more : ℤ) (env : σ) : ℕ := L.turns (call ⟨block.windowHandle, fun _ => 0⟩ more env) + 1

/-- **A call, or a refused call**: with enough turns it returns. -/
theorem redrawOrFinish_eq (K : Kernel) {call : WimpRedrawWindowBlock → ℤ → σ → Redrawn × σ}
    {block : WimpRedrawWindowBlock} {more : ℤ} {env : σ}
    (h : L.enough call block more env ≤ fuel) (allow : Bool) :
    redrawOrFinish K L.toRedrawLib call fuel allow block more env =
      some (if allow then call block more env else L.refused K call block more env) := by
  cases allow with
  | true => rfl
  | false =>
    rw [redrawOrFinish, pseudokernFail_false]
    simp only [L.finishRedraw_eq h, Option.bind_eq_bind, Option.bind_some]
    rfl

/-- `pseudo_wimp_redraw_window`, of a Wimp that comes to the end. -/
def pseudoWimpRedrawWindow (K : Kernel) (allow : Bool) (block : WimpRedrawWindowBlock) (more : ℤ)
    (env : σ) : Redrawn × σ :=
  (Wimp.pseudoWimpRedrawWindow K L.toRedrawLib (L.enough L.wimpRedrawWindow block more env) allow
    block more env).get (Option.isSome_of_eq_some (L.redrawOrFinish_eq K le_rfl allow))

/-- `pseudo_wimp_get_rectangle`. -/
def pseudoWimpGetRectangle (K : Kernel) (allow : Bool) (block : WimpRedrawWindowBlock) (more : ℤ)
    (env : σ) : Redrawn × σ :=
  (Wimp.pseudoWimpGetRectangle K L.toRedrawLib (L.enough L.wimpGetRectangle block more env) allow
    block more env).get (Option.isSome_of_eq_some (L.redrawOrFinish_eq K le_rfl allow))

theorem pseudoWimpRedrawWindow_eq (K : Kernel) (allow : Bool) (block : WimpRedrawWindowBlock)
    (more : ℤ) (env : σ) : L.pseudoWimpRedrawWindow K allow block more env =
      if allow then L.wimpRedrawWindow block more env
      else L.refused K L.wimpRedrawWindow block more env :=
  Option.get_of_eq_some _ (L.redrawOrFinish_eq K le_rfl allow)

theorem pseudoWimpGetRectangle_eq (K : Kernel) (allow : Bool) (block : WimpRedrawWindowBlock)
    (more : ℤ) (env : σ) : L.pseudoWimpGetRectangle K allow block more env =
      if allow then L.wimpGetRectangle block more env
      else L.refused K L.wimpGetRectangle block more env :=
  Option.get_of_eq_some _ (L.redrawOrFinish_eq K le_rfl allow)

end FiniteRedrawLib

end Wimp

end CBPseudo
