import CBPseudo.Common.Faulty
import CBPseudo.Kern.Model.Kernel

/-!
# Clients of the kernel

To its clients the kernel with injected errors is the kernel made faulty:
a call that can fail is let through or refused, and a refused call reports
an error and does nothing else but note it as the last one
(`substitute_eq`). So a test that refuses one call at a time goes through
all that can fail (`kernel_failures_one_by_one`), and a client that is told
of an error and asks for it learns which (`last_error_is_reported`).
-/

namespace CBPseudo

open Common

namespace Kern

/-! ## The interface -/

/-- **A call of the kernel.** -/
inductive Call
  | swi (no : UInt32) (in_ out : Addr)
  | swiC (no : UInt32) (in_ out carry : Addr)
  | osbyte (op x y : ℤ)
  | osrdch
  | oswrch (ch : ℤ)
  | osbget (handle : UInt32)
  | osbput (ch : ℤ) (handle : UInt32)
  | osgbpb (op : ℤ) (handle inout : Addr)
  | osword (op : ℤ) (data : Addr)
  | osfind (op : ℤ) (name : Addr)
  | osfile (op : ℤ) (name inout : Addr)
  | osargs (op : ℤ) (handle : UInt32) (arg : ℤ)
  | oscli (s : Addr)
  | getenv (name buffer : Addr) (size : UInt32)
  | setenv (name value : Addr)
  | system (string : Addr) (chain : ℤ)
  /-- `_kernel_last_oserror`. -/
  | lastOserror
  deriving DecidableEq

/-- **The two ways of reporting an error.** -/
inductive Returns
  /-- A pointer to the error, null where there is none. -/
  | pointer
  /-- A number, `_kernel_ERROR` where there is one. -/
  | number

namespace Returns

/-- What is returned. -/
def Answer : Returns → Type
  | .pointer => Option KernelOserror
  | .number => ℤ

/-- The answer that reports an error. -/
def failed (e : KernelOserror) : (k : Returns) → k.Answer
  | .pointer => some e
  | .number => kernelError

/-- Whether an answer reports an error. -/
def Reports : (k : Returns) → k.Answer → Prop
  | .pointer, r => r ≠ (none : Option KernelOserror)
  | .number, r => r = kernelError

/-- **An error, if any, that an answer leaves open**: the one pointed to, or
any. -/
def Explains (x : Option KernelOserror) : (k : Returns) → k.Answer → Prop
  | .pointer, r => x = r
  | .number, _ => x.isSome = true

end Returns

/-- How a call reports an error. -/
def Call.returns : Call → Returns
  | .swi _ _ _ | .swiC _ _ _ _ | .getenv _ _ _ | .setenv _ _ | .lastOserror => .pointer
  | _ => .number

/-- The calls that are made to fail: not a SWI with the bit, and not the
question for the last error. -/
def Call.canFail : Call → Bool
  | .swi no _ _ | .swiC no _ _ _ => decide (kernelNonx &&& no = 0)
  | .lastOserror => false
  | _ => true

/-- What a call is answered with. -/
abbrev Call.Answer (c : Call) : Type := c.returns.Answer

/-- The answer by which a call reports an error. -/
abbrev Call.failed (e : KernelOserror) (c : Call) : c.Answer := c.returns.failed e

/-- The interface of the kernel. -/
abbrev calls : Interface := ⟨Call, Call.Answer⟩

section Libraries

variable {σ : Type} (N : KernelLib σ)

/-- The kernel's own answer to a call. -/
def KernelLib.answer : (c : Call) → σ → c.Answer × σ
  | .swi no in_ out => N.kernelSwi no in_ out
  | .swiC no in_ out carry => N.kernelSwiC no in_ out carry
  | .osbyte op x y => N.kernelOsbyte op x y
  | .osrdch => N.kernelOsrdch
  | .oswrch ch => N.kernelOswrch ch
  | .osbget handle => N.kernelOsbget handle
  | .osbput ch handle => N.kernelOsbput ch handle
  | .osgbpb op handle inout => N.kernelOsgbpb op handle inout
  | .osword op data => N.kernelOsword op data
  | .osfind op name => N.kernelOsfind op name
  | .osfile op name inout => N.kernelOsfile op name inout
  | .osargs op handle arg => N.kernelOsargs op handle arg
  | .oscli s => N.kernelOscli s
  | .getenv name buffer size => N.kernelGetenv name buffer size
  | .setenv name value => N.kernelSetenv name value
  | .system string chain => N.kernelSystem string chain
  | .lastOserror => N.kernelLastOserror

/-- The substitutes' answer. -/
def substitute : (c : Call) → Bool → σ → c.Answer × σ
  | .swi no in_ out, allow => pseudokernSwi N allow no in_ out
  | .swiC no in_ out carry, allow => pseudokernSwiC N allow no in_ out carry
  | .osbyte op x y, allow => pseudokernOsbyte N allow op x y
  | .osrdch, allow => pseudokernOsrdch N allow
  | .oswrch ch, allow => pseudokernOswrch N allow ch
  | .osbget handle, allow => pseudokernOsbget N allow handle
  | .osbput ch handle, allow => pseudokernOsbput N allow ch handle
  | .osgbpb op handle inout, allow => pseudokernOsgbpb N allow op handle inout
  | .osword op data, allow => pseudokernOsword N allow op data
  | .osfind op name, allow => pseudokernOsfind N allow op name
  | .osfile op name inout, allow => pseudokernOsfile N allow op name inout
  | .osargs op handle arg, allow => pseudokernOsargs N allow op handle arg
  | .oscli s, allow => pseudokernOscli N allow s
  | .getenv name buffer size, allow => pseudokernGetenv N allow name buffer size
  | .setenv name value, allow => pseudokernSetenv N allow name value
  | .system string chain, allow => pseudokernSystem N allow string chain
  | .lastOserror, _ => N.kernelLastOserror

/-- The kernel. -/
def KernelLib.library : Library calls Fault σ := fun c env => .ok (N.answer c env)

/-- The kernel with injected errors. -/
def library : Library calls Fault (Schedule × σ) :=
  scheduled (fun c _ => Call.canFail c) fun c allow env => .ok (substitute N c allow env)

/-- The simulated error. -/
def KernelLib.noMemory (env : σ) : KernelOserror × σ :=
  N.errorLookup { errnum := dummyErrno, errmess := "NoMem" } env

/-- **Refusing a call**: it reports the simulated error. -/
def refusal : Refusal calls σ := fun c =>
  if c.canFail then some fun env => (c.failed (N.noMemory env).1, (N.noMemory env).2) else none

end Libraries

variable {σ α : Type} {N : KernelLib σ} {c : Call} {env env' : σ}

/-- A call that is let through is the kernel's own. -/
theorem substitute_true (c : Call) (env : σ) : substitute N c true env = N.answer c env := by
  cases c with
  | swi no in_ out =>
    show (if _ then N.kernelSwi no in_ out env else N.kernelSwi no in_ out env) = _
    rw [ite_self]
    rfl
  | swiC no in_ out carry =>
    show (if _ then N.kernelSwiC no in_ out carry env else N.kernelSwiC no in_ out carry env) = _
    rw [ite_self]
    rfl
  | _ => rfl

/-- A call that is not let through reports the simulated error. -/
theorem substitute_false (h : c.canFail = true) (env : σ) :
    substitute N c false env = (c.failed (N.noMemory env).1, (N.noMemory env).2) := by
  cases c with
  | swi no in_ out => exact if_pos (of_decide_eq_true h)
  | swiC no in_ out carry => exact if_pos (of_decide_eq_true h)
  | lastOserror => cases h
  | _ => rfl

/-- **The kernel with injected errors is the kernel made faulty.** -/
theorem substitute_eq (allow : Bool) (env : σ) (h : c.canFail = false → allow = true) :
    (.ok (substitute N c allow env) : Except Fault (c.Answer × σ)) =
      letThroughOr (refusal N) N.library c allow env := by
  cases allow with
  | true =>
    rw [substitute_true, letThroughOr_true]
    rfl
  | false =>
    have hfail : c.canFail = true := by
      by_contra hno
      exact absurd (h (Bool.eq_false_iff.mpr hno)) (by decide)
    rw [substitute_false hfail, letThroughOr_false (if_pos hfail)]

theorem isSome_refusal : ((refusal N) c).isSome = c.canFail := by
  unfold refusal
  cases c.canFail <;> rfl

theorem library_eq (N : KernelLib σ) : library N = faulty (refusal N) N.library := by
  funext c ⟨f, env⟩
  have hallow : c.canFail = false → (if c.canFail then f 0 else true) = true := by
    intro hno
    rw [hno]
    rfl
  unfold library faulty scheduled
  simp only [isSome_refusal]
  rw [← substitute_eq (N := N) _ env hallow]

/-- No client can tell them apart. -/
theorem run_library (client : Client calls α) (f : Schedule) (env : σ) :
    client.run (library N) (f, env) = client.run (faulty (refusal N) N.library) (f, env) := by
  rw [library_eq]

/-! ## The simulated error -/

/-- The other files' model of the kernel knows how it looks errors up. -/
def KernelLib.LooksUpAs (N : KernelLib σ) (K : Kernel) : Prop :=
  ∀ e env, (N.errorLookup e env).1 = K.errorLookup e

/-- **Both models of `pseudokern_fail`** tell the same error; this one also
says what becomes of the kernel. -/
theorem pseudokernFail_eq {K : Kernel} (h : N.LooksUpAs K) (allow : Bool) (env : σ) :
    pseudokernFail N allow env = (CBPseudo.pseudokernFail K allow,
      if allow then env else (N.noMemory env).2) := by
  cases allow with
  | true => rfl
  | false =>
    rw [pseudokernFail, if_neg Bool.false_ne_true, if_neg Bool.false_ne_true,
      CBPseudo.pseudokernFail_false, oom, ← h _ env]
    rfl

/-- So the functions here that return an error return what the veneers of the
other files do. -/
theorem unlessFailed_eq {K : Kernel} (h : N.LooksUpAs K) (allow : Bool)
    (call : σ → Option KernelOserror × σ) (env : σ) :
    unlessFailed N allow call env = ((veneer K allow call env).1,
      if allow then (veneer K allow call env).2 else (N.noMemory env).2) := by
  unfold unlessFailed veneer
  rw [pseudokernFail_eq h]
  cases allow <;> rfl

/-! ## One failure at a time -/

/-- The number of calls that can fail. -/
def canFail (log : List (Exchange calls)) : ℕ := log.countP fun x => Call.canFail x.1

theorem asked_eq (log : List (Exchange calls)) : asked (refusal N) log = canFail log :=
  List.countP_congr fun x _ => by rw [isSome_refusal]

/-- **A test that fails one call at a time goes through all that can
fail.** Of the calls that a client makes when none fails, and that can
fail, each is made to fail by one such schedule: the client gets to it as
it did, is told the simulated error, and goes on with the kernel's own
answers. By a schedule past the last of them none is. -/
theorem kernel_failures_one_by_one (N : KernelLib σ) (client : Client calls α) {env env' : σ}
    {a : α} {log : List (Exchange calls)} (h : client.run N.library env = .ok ((a, log), env')) :
    (∀ n, canFail log ≤ n → ∃ f, client.run (library N) (.allBut n, env) =
      .ok ((a, log), (f, env'))) ∧
    ∀ before c r after, log = before ++ ⟨c, r⟩ :: after → Call.canFail c = true →
      ∃ env₁ next b rest env₂,
        Run (Exchanges N.library) env before env₁ ∧ client.After before (.call c next) ∧
        (next (c.failed (N.noMemory env₁).1)).run N.library (N.noMemory env₁).2 =
          .ok ((b, rest), env₂) ∧
        client.run (library N) (.allBut (canFail before), env) =
          .ok ((b, before ++ ⟨c, c.failed (N.noMemory env₁).1⟩ :: rest), (.always, env₂)) := by
  constructor
  · intro n hn
    rw [run_library, run_allBut_of_le h (by rwa [asked_eq])]
    exact ⟨_, rfl⟩
  · rintro before c r after rfl hfail
    have hrefuse : refusal N c = some fun env =>
        (Call.failed (N.noMemory env).1 c, (N.noMemory env).2) := if_pos hfail
    obtain ⟨env₁, next, hbefore, hafter, halike⟩ := run_allBut_of_split hrefuse h
    -- the kernel always answers, so the rest of the client comes to its end
    obtain ⟨b, rest, env₂, hrest⟩ := exists_run (L := N.library) (fun c s => ⟨_, rfl⟩)
      (next (Call.failed (N.noMemory env₁).1 c)) (N.noMemory env₁).2
    rw [← run_library, asked_eq, hrest] at halike
    obtain ⟨⟨f, env₃⟩, hrun, rfl, rfl⟩ := halike.to_ok
    refine ⟨env₁, next, b, rest, env₃, hbefore, hafter, hrest, ?_⟩
    rw [hrun, List.append_assoc]
    rfl

/-- Three calls of a client, the second of which cannot fail, and the last of
which is made to. -/
theorem kernel_failures_one_by_one_plain :
    let client : Client calls Unit := .call (.osbyte 129 0 0) fun _ =>
      .call (.swi kernelNonx 0 0) fun _ => .call (.oscli 0) fun _ => .done ()
    let before : List (Exchange calls) :=
      [⟨.osbyte 129 0 0, (0 : ℤ)⟩, ⟨.swi kernelNonx 0 0, (none : Option KernelOserror)⟩]
    ∃ env₁ next b rest env₂,
      Run (Exchanges KernelLib.plain.library) none before env₁ ∧
      client.After before (.call (.oscli 0) next) ∧
      (next kernelError).run KernelLib.plain.library (KernelLib.plain.noMemory env₁).2 =
        .ok ((b, rest), env₂) ∧
      client.run (library KernelLib.plain) (.allBut 1, none) =
        .ok ((b, before ++ ⟨.oscli 0, kernelError⟩ :: rest), (.always, env₂)) := by
  intro client before
  have h : client.run KernelLib.plain.library none =
      .ok (((), before ++ [⟨.oscli 0, (0 : ℤ)⟩]), none) := rfl
  exact (kernel_failures_one_by_one KernelLib.plain client h).2 before (.oscli 0) (0 : ℤ) []
    rfl rfl

/-! ## The last error -/

/-- **A kernel that keeps the last error**, as its documentation says:
`last` is the error noted since it was last asked for. -/
structure KernelLib.KeepsLast (N : KernelLib σ) (last : σ → Option KernelOserror) : Prop where
  asked : ∀ env, N.kernelLastOserror env = (last env, (N.kernelLastOserror env).2)
  forgets : ∀ env, last (N.kernelLastOserror env).2 = none
  notes : ∀ (c : Call) env, c ≠ .lastOserror → c.returns.Reports (N.answer c env).1 →
    c.returns.Explains (last (N.answer c env).2) (N.answer c env).1
  keeps : ∀ (c : Call) env, c ≠ .lastOserror → ¬ c.returns.Reports (N.answer c env).1 →
    last (N.answer c env).2 = last env
  lookup : ∀ e env, last (N.errorLookup e env).2 = some (N.errorLookup e env).1

/-- Calls none of which reports an error, or asks for the last. -/
def Quiet (log : List (Exchange calls)) : Prop :=
  ∀ x ∈ log, x.1 ≠ Call.lastOserror ∧ ¬ Returns.Reports (Call.returns x.1) x.2

variable {last : σ → Option KernelOserror} {f f' : Schedule} {r : c.Answer}

/-- The answer that reports an error does, and leaves open which it is. -/
theorem reports_failed (e : KernelOserror) (k : Returns) :
    k.Reports (k.failed e) ∧ k.Explains (some e) (k.failed e) := by
  cases k with
  | pointer => exact ⟨Option.some_ne_none e, rfl⟩
  | number => exact ⟨rfl, rfl⟩

theorem noMemory_last (hN : N.KeepsLast last) (env : σ) :
    last (N.noMemory env).2 = some (N.noMemory env).1 := hN.lookup _ env

/-- **What a call can be**: the kernel's own, or one that is made to fail. -/
theorem call_cases (h : faulty (refusal N) N.library c (f, env) = .ok (r, (f', env'))) :
    N.answer c env = (r, env') ∨ c.canFail = true ∧ f 0 = false ∧
      (c.failed (N.noMemory env).1, (N.noMemory env).2) = (r, env') := by
  rcases faulty_cases h with ⟨hanswer, -⟩ | ⟨hf, refuse, hrefuse, hs⟩
  · exact .inl (Except.ok.inj hanswer)
  · unfold refusal at hrefuse
    split at hrefuse
    · next hfail =>
      obtain rfl := Option.some.inj hrefuse
      exact .inr ⟨hfail, hf, hs⟩
    · cases hrefuse

/-- **A call that reports an error**, injected or not, is explained by the
last error after it. -/
theorem explained_of_reports (hN : N.KeepsLast last) (hc : c ≠ .lastOserror)
    (h : faulty (refusal N) N.library c (f, env) = .ok (r, (f', env')))
    (hr : c.returns.Reports r) : c.returns.Explains (last env') r := by
  rcases call_cases h with hanswer | ⟨-, -, hfailed⟩
  · have hnotes := hN.notes c env hc
    rw [hanswer] at hnotes
    exact hnotes hr
  · obtain ⟨rfl, rfl⟩ := Prod.mk.inj hfailed
    rw [noMemory_last hN]
    exact (reports_failed _ _).2

/-- A call that reports no error leaves the last error. -/
theorem last_of_not_reports (hN : N.KeepsLast last) (hc : c ≠ .lastOserror)
    (h : faulty (refusal N) N.library c (f, env) = .ok (r, (f', env')))
    (hr : ¬ c.returns.Reports r) : last env' = last env := by
  rcases call_cases h with hanswer | ⟨-, -, hfailed⟩
  · have hkeeps := hN.keeps c env hc
    rw [hanswer] at hkeeps
    exact hkeeps hr
  · obtain ⟨rfl, rfl⟩ := Prod.mk.inj hfailed
    exact absurd (reports_failed _ _).1 hr

theorem last_of_quiet (hN : N.KeepsLast last) {log : List (Exchange calls)}
    (h : Run (Exchanges (faulty (refusal N) N.library)) (f, env) log (f', env'))
    (hquiet : Quiet log) : last env' = last env := by
  refine Run.history (I := fun log s => Quiet log → last s.2 = last env) h (fun _ => rfl) ?_
    hquiet
  rintro log ⟨f₁, env₁⟩ ⟨c, r⟩ ⟨f₂, env₂⟩ ih hs hquiet
  obtain ⟨hc, hr⟩ := hquiet ⟨c, r⟩ (by simp)
  rw [← ih fun x hx => hquiet x (by simp [hx])]
  exact last_of_not_reports hN hc hs hr

/-- What is asked for is the last error. -/
theorem last_of_asked (hN : N.KeepsLast last) {x : Option KernelOserror}
    (h : faulty (refusal N) N.library .lastOserror (f, env) = .ok (x, (f', env'))) :
    x = last env ∧ last env' = none := by
  rcases call_cases h with hanswer | ⟨hfail, -⟩
  · have hforgets := hN.forgets env
    have hasked := (hN.asked env).symm.trans hanswer
    exact ⟨(Prod.mk.inj hasked).1.symm, (congrArg last (Prod.mk.inj hasked).2).symm.trans hforgets⟩
  · cases hfail

/-- **A client that asks for the last error learns it.** Where none of the
calls since another has reported an error, nor has the client asked, it is
told the last error right after that call: the error that the call
reported, if it did; the simulated one, if it was made to fail; and none,
if the client had asked already. -/
theorem last_error_is_reported (N : KernelLib σ) (hN : N.KeepsLast last) (client : Client calls α)
    {a : α} {before between after : List (Exchange calls)} {x : Option KernelOserror}
    (h : client.run (library N) (f, env) =
      .ok ((a, before ++ ⟨c, r⟩ :: (between ++ ⟨.lastOserror, x⟩ :: after)), (f', env')))
    (hquiet : Quiet between) :
    ∃ f₁ env₁ f₂ env₂,
      Run (Exchanges (library N)) (f, env) before (f₁, env₁) ∧
      library N c (f₁, env₁) = .ok (r, (f₂, env₂)) ∧ x = last env₂ ∧
      (c ≠ .lastOserror → c.returns.Reports r → c.returns.Explains x r) ∧
      (c.canFail = true → f (canFail before) = false →
        r = c.failed (N.noMemory env₁).1 ∧ x = some (N.noMemory env₁).1) ∧
      (c = .lastOserror → x = none) := by
  obtain ⟨⟨f₁, env₁⟩, hbefore, hrest⟩ := (run_exchanges h).split
  obtain ⟨⟨f₂, env₂⟩, hcall, hrest⟩ := hrest.of_cons
  refine ⟨f₁, env₁, f₂, env₂, hbefore, hcall, ?_⟩
  rw [library_eq] at hbefore hcall hrest
  obtain ⟨⟨f₃, env₃⟩, hbetween, hrest⟩ := hrest.split
  obtain ⟨⟨f₄, env₄⟩, hasked, -⟩ := hrest.of_cons
  have hx : x = last env₂ :=
    (last_of_asked hN hasked).1.trans (last_of_quiet hN hbetween hquiet)
  refine ⟨hx, fun hc hr => ?_, fun hfail hf => ?_, ?_⟩
  · rw [hx]
    exact explained_of_reports hN hc hcall hr
  · -- the decision about the call is the next after those about the calls before it
    have hf₁ : f₁ 0 = false := by
      rw [run_faulty_fst hbefore, asked_eq]
      simpa using hf
    have hrefused : faulty (refusal N) N.library c (f₁, env₁) = _ :=
      faulty_of_false (if_pos hfail) hf₁
    obtain ⟨rfl, hs⟩ := Prod.mk.inj (Except.ok.inj (hrefused.symm.trans hcall))
    rw [hx, ← (Prod.mk.inj hs).2, noMemory_last hN]
    exact ⟨rfl, rfl⟩
  · rintro rfl
    exact hx.trans (last_of_asked hN hcall).2

/-- The plain kernel keeps the last error. -/
theorem keepsLast_plain : KernelLib.plain.KeepsLast id where
  asked _ := rfl
  forgets _ := rfl
  notes c _ hc hr := by
    cases c with
    | lastOserror => exact absurd rfl hc
    | swi _ _ _ | swiC _ _ _ _ | getenv _ _ _ | setenv _ _ => exact absurd rfl hr
    | _ => exact absurd (show (0 : ℤ) = kernelError from hr) (by decide)
  keeps c _ hc _ := by cases c <;> first | rfl | exact absurd rfl hc
  lookup _ _ := rfl

/-- A command that is made to fail, and a call that is not before its error
is asked for. -/
theorem last_error_is_reported_plain :
    let client : Client calls Unit := .call (.oscli 0) fun _ => .call (.oswrch 7) fun _ =>
      .call .lastOserror fun _ => .done ()
    let oom : KernelOserror := { errnum := dummyErrno, errmess := "NoMem" }
    client.run (library KernelLib.plain) (.allBut 0, none) =
      .ok (((), [⟨.oscli 0, kernelError⟩, ⟨.oswrch 7, (0 : ℤ)⟩, ⟨.lastOserror, some oom⟩]),
        (.always, none)) ∧
    ∃ f₁ env₁ f₂ env₂, library KernelLib.plain (.oscli 0) (f₁, env₁) =
        .ok (kernelError, (f₂, env₂)) ∧ some oom = id env₂ ∧
      some oom = some (KernelLib.plain.noMemory env₁).1 := by
  intro client oom
  have h : client.run (library KernelLib.plain) (.allBut 0, none) =
      .ok (((), [⟨.oscli 0, kernelError⟩, ⟨.oswrch 7, (0 : ℤ)⟩, ⟨.lastOserror, some oom⟩]),
        (.always, none)) := rfl
  have hquiet : Quiet [⟨.oswrch 7, (0 : ℤ)⟩] := by
    intro x hx
    obtain rfl := List.mem_singleton.mp hx
    exact ⟨by decide, show ¬ (0 : ℤ) = kernelError by decide⟩
  have hsplit : client.run (library KernelLib.plain) (.allBut 0, none) =
      .ok (((), [] ++ ⟨.oscli 0, kernelError⟩ :: ([⟨.oswrch 7, (0 : ℤ)⟩] ++
        ⟨.lastOserror, some oom⟩ :: [])), (.always, none)) := rfl
  obtain ⟨f₁, env₁, f₂, env₂, -, hcall, hlast, -, hsimulated, -⟩ :=
    last_error_is_reported KernelLib.plain keepsLast_plain client hsplit hquiet
  exact ⟨h, f₁, env₁, f₂, env₂, hcall, hlast, (hsimulated rfl rfl).2⟩

end Kern

end CBPseudo
