import Mathlib.Data.List.Basic

/-!
# Scripts on a stack

A script puts entries on a stack, takes them off and overwrites the top;
taking from an empty stack and overwriting its top do nothing. What a
script comes to is the same whatever the stack: it removes a number of the
entries that were there, overwrites the one then exposed or not, and
leaves some of its own on top. `Net` is that summary, and `Net.ofOps`
computes it.

Whether a script commutes with putting one more entry on the stack
beforehand, or with taking one off, can be read off the summary, as far as
height and top are concerned: `push_commutes_iff` and `pop_commutes_iff`.
-/

namespace Common

variable {β : Type*}

/-- **One operation on a stack.** -/
inductive StackOp (β : Type*)
  /-- Put an entry on. -/
  | push (b : β)
  /-- Take the top off. -/
  | pop
  /-- Overwrite the top. -/
  | setTop (b : β)

/-- The stack after an operation, the top first. -/
def StackOp.run (L : List β) : StackOp β → List β
  | .push b => b :: L
  | .pop => L.tail
  | .setTop b => L.modifyHead fun _ => b

/-- **What a script comes to**: how many of the entries that were there it
removes, what it overwrites the one then exposed with, and what it leaves
on top. -/
structure Net (β : Type*) where
  removed : ℕ
  exposed : Option β
  pushed : List β

namespace Net

variable {N : Net β} {L : List β} {b : β}

/-- The entries that are left of those that were there. -/
def under (N : Net β) (L : List β) : List β :=
  N.exposed.elim (L.drop N.removed) fun b => (L.drop N.removed).modifyHead fun _ => b

/-- The stack after the script. -/
def run (N : Net β) (L : List β) : List β := N.pushed ++ N.under L

/-- The summary with one operation more. -/
def step : Net β → StackOp β → Net β
  | ⟨k, t, p⟩, .push b => ⟨k, t, b :: p⟩
  | ⟨k, _, []⟩, .pop => ⟨k + 1, none, []⟩
  | ⟨k, t, _ :: p⟩, .pop => ⟨k, t, p⟩
  | ⟨k, _, []⟩, .setTop b => ⟨k, some b, []⟩
  | ⟨k, t, _ :: p⟩, .setTop b => ⟨k, t, b :: p⟩

/-- The summary of a script. -/
def ofOps (ops : List (StackOp β)) : Net β := ops.foldl step ⟨0, none, []⟩

@[simp] theorem length_under : (N.under L).length = L.length - N.removed := by
  cases h : N.exposed <;> simp [under, h]

@[simp] theorem length_run : (N.run L).length = N.pushed.length + (L.length - N.removed) := by
  rw [run, List.length_append, length_under]

theorem tail_under : (N.under L).tail = L.drop (N.removed + 1) := by
  cases h : N.exposed <;> simp [under, h]

/-- **One operation more** on the stack is one more on the summary. -/
theorem run_step (N : Net β) (op : StackOp β) (L : List β) :
    (N.step op).run L = op.run (N.run L) := by
  obtain ⟨k, t, p⟩ := N
  cases op with
  | push b => rfl
  | pop =>
    -- an entry of the script's own comes off first
    cases p with
    | nil =>
      show _ = (under _ L).tail
      rw [tail_under]
      rfl
    | cons f p => rfl
  | setTop b =>
    cases p with
    | nil => cases t <;> cases h : L.drop k <;> simp [step, run, under, StackOp.run, h]
    | cons f p => rfl

/-- **A script does what its summary says.** -/
theorem run_ofOps (ops : List (StackOp β)) (L : List β) :
    (ofOps ops).run L = ops.foldl StackOp.run L := by
  have key : ∀ N : Net β, (ops.foldl step N).run L = ops.foldl StackOp.run (N.run L) := by
    induction ops with
    | nil => exact fun _ => rfl
    | cons op ops ih => exact fun N => by rw [List.foldl_cons, ih, run_step, List.foldl_cons]
  exact key ⟨0, none, []⟩

/-! ## The top -/

/-- The top of the entries left: what overwrote it, or what it was. -/
def underTop (N : Net β) (L : List β) : Option β :=
  if N.removed < L.length then N.exposed.or L[N.removed]? else none

/-- The top after the script. -/
def top (N : Net β) (L : List β) : Option β := N.pushed.head?.or (N.underTop L)

theorem head?_under : (N.under L).head? = N.underTop L := by
  unfold underTop
  by_cases hk : N.removed < L.length
  · rw [if_pos hk]
    cases h : N.exposed with
    | none => simp [under, h, List.head?_drop]
    | some b =>
      rw [under, h, Option.elim_some, List.drop_eq_getElem_cons hk]
      rfl
  · rw [if_neg hk, List.head?_eq_none_iff, ← List.length_eq_zero_iff, length_under]
    omega

theorem head?_run : (N.run L).head? = N.top L := by
  rw [run, List.head?_append, head?_under, top]

/-! ## Commuting -/

/-- **Putting an entry on before the script or after it** comes to the same
height and top if and only if the script does not remove it along with all
the others, and what it leaves on top is equal to it. -/
theorem push_commutes_iff :
    ((b :: N.run L).length = (N.run (b :: L)).length ∧
      (b :: N.run L).head? = (N.run (b :: L)).head?) ↔
    N.removed ≤ L.length ∧ N.top (b :: L) = some b := by
  rw [head?_run, List.head?_cons, length_run, List.length_cons, length_run, List.length_cons]
  constructor
  · rintro ⟨hlen, htop⟩
    exact ⟨by omega, htop.symm⟩
  · rintro ⟨hlen, htop⟩
    exact ⟨by omega, htop.symm⟩

/-- When a script commutes with taking an entry off: if it leaves entries of
its own, then it has left some of the others too, and the top is equal to
the entry below; if it leaves none, then none is left, or the next of the
others is not overwritten with another. -/
def PopCommutes (N : Net β) (L : List β) : Prop :=
  match N.pushed with
  | [] => L.length ≤ N.removed + 1 ∨ N.exposed = none ∨ N.exposed = L[N.removed + 1]?
  | f :: p => N.removed < L.length ∧ p.head?.or (N.underTop L) = some f

/-- **Taking an entry off before the script or after it** comes to the same
height and top if and only if `PopCommutes`. -/
theorem pop_commutes_iff :
    ((N.run L).tail.length = (N.run L.tail).length ∧
      (N.run L).tail.head? = (N.run L.tail).head?) ↔ N.PopCommutes L := by
  obtain ⟨k, t, p⟩ := N
  cases p with
  | nil =>
    have htail : (run ⟨k, t, []⟩ L).tail = L.drop (k + 1) := tail_under
    have hlen : (L.drop (k + 1)).length = (run ⟨k, t, []⟩ L.tail).length := by
      simp only [List.length_drop, length_run, List.length_nil, List.length_tail]
      omega
    rw [htail, head?_run, and_iff_right hlen, List.head?_drop]
    show L[k + 1]? = underTop ⟨k, t, []⟩ L.tail ↔ L.length ≤ k + 1 ∨ t = none ∨ t = L[k + 1]?
    unfold underTop
    -- the entry below the one taken off is the next of the others, if there is one
    by_cases hk : k < L.tail.length
    · rw [if_pos hk, List.getElem?_tail]
      rw [List.length_tail] at hk
      cases t with
      | none => simp
      | some b =>
        rw [Option.some_or, eq_comm]
        constructor
        · intro h
          exact Or.inr (Or.inr h)
        · rintro (h | h | h)
          · omega
          · cases h
          · exact h
    · rw [if_neg hk, List.getElem?_eq_none_iff]
      rw [List.length_tail] at hk
      constructor
      · intro h
        exact Or.inl h
      · intro _
        exact by omega
  | cons f p =>
    -- the entry taken off is one the script put on
    have htail : (run ⟨k, t, f :: p⟩ L).tail = run ⟨k, t, p⟩ L := rfl
    rw [htail, head?_run, head?_run, length_run, length_run]
    show _ ∧ p.head?.or (underTop ⟨k, t, f :: p⟩ L) = some f ↔
      k < L.length ∧ p.head?.or (underTop ⟨k, t, f :: p⟩ L) = some f
    simp only [List.length_cons, List.length_tail]
    constructor
    · rintro ⟨hlen, htop⟩
      exact ⟨by omega, htop⟩
    · rintro ⟨hlen, htop⟩
      exact ⟨by omega, htop⟩

end Net

end Common
