import CBPseudo.Common.ItemList
import Mathlib.Logic.Function.Basic

/-!
# Stacks, one for each key

A list whose entries have keys, where entries are put on at the front and
every search takes the first entry of a key, is a stack for each key:
`ofList` reads the stacks off the list. Putting an entry on, taking the
first of a key off and writing the first of a key are then operations on
one stack, which leave the others alone.
-/

namespace Common

/-- **A stack for each key**, the top first. -/
abbrev Stacks (ι β : Type*) := ι → List β

namespace Stacks

variable {ι α β : Type*} [DecidableEq ι] {i j : ι} {b : β}

/-- Put an entry on the stack of a key. -/
def push (i : ι) (b : β) (S : Stacks ι β) : Stacks ι β := Function.update S i (b :: S i)

/-- Take an entry off the stack of a key, if there is one. -/
def pop (i : ι) (S : Stacks ι β) : Stacks ι β := Function.update S i (S i).tail

/-- Overwrite the top of the stack of a key, if there is one. -/
def setTop (i : ι) (b : β) (S : Stacks ι β) : Stacks ι β :=
  Function.update S i ((S i).modifyHead fun _ => b)

@[simp] theorem push_self (S : Stacks ι β) : S.push i b i = b :: S i := Function.update_self ..

@[simp] theorem pop_self (S : Stacks ι β) : S.pop i i = (S i).tail := Function.update_self ..

@[simp] theorem setTop_self (S : Stacks ι β) :
    S.setTop i b i = (S i).modifyHead fun _ => b := Function.update_self ..

theorem push_of_ne (S : Stacks ι β) (h : j ≠ i) : S.push i b j = S j := Function.update_of_ne h ..

theorem pop_of_ne (S : Stacks ι β) (h : j ≠ i) : S.pop i j = S j := Function.update_of_ne h ..

theorem setTop_of_ne (S : Stacks ι β) (h : j ≠ i) : S.setTop i b j = S j :=
  Function.update_of_ne h ..

/-- Writing what is not there writes nothing. -/
theorem setTop_of_nil {S : Stacks ι β} (h : S i = []) : S.setTop i b = S := by
  rw [setTop, h, List.modifyHead_nil, ← h, Function.update_eq_self]

/-- Taking from an empty stack takes nothing. -/
theorem pop_of_nil {S : Stacks ι β} (h : S i = []) : S.pop i = S := by
  rw [pop, h, List.tail_nil, ← h, Function.update_eq_self]

/-! ## Reading the stacks off a list -/

/-- The stacks of a list: the entries of each key, in order. -/
def ofList (key : α → ι) (val : α → β) (l : List α) : Stacks ι β := fun i =>
  (l.filter fun x => i = key x).map val

variable {key : α → ι} {val : α → β} {x : α} {l : List α}

theorem ofList_cons_self : ofList key val (x :: l) (key x) = val x :: ofList key val l (key x) := by
  rw [ofList, List.filter_cons_of_pos (by simp)]
  rfl

theorem ofList_cons_of_ne (h : i ≠ key x) :
    ofList key val (x :: l) i = ofList key val l i := by
  rw [ofList, List.filter_cons_of_neg (by simpa using h)]
  rfl

/-- **An entry put at the front** goes on the stack of its key. -/
theorem ofList_cons : ofList key val (x :: l) = (ofList key val l).push (key x) (val x) := by
  funext i
  by_cases h : i = key x
  · subst h
    rw [ofList_cons_self, push_self]
  · rw [ofList_cons_of_ne h, push_of_ne _ h]

/-- **The first entry of a key taken out** comes off its stack. -/
theorem ofList_eraseP :
    ofList key val (l.eraseP fun x => i = key x) = (ofList key val l).pop i := by
  induction l with
  | nil => rw [List.eraseP_nil, pop_of_nil rfl]
  | cons x l ih =>
    by_cases hx : i = key x
    · subst hx
      rw [List.eraseP_cons_of_pos (by simp), ofList_cons]
      funext j
      by_cases hj : j = key x
      · subst hj
        rw [pop_self, push_self, List.tail_cons]
      · rw [pop_of_ne _ hj, push_of_ne _ hj]
    · rw [List.eraseP_cons_of_neg (by simpa using hx), ofList_cons, ih, ofList_cons]
      funext j
      -- one of the two keys is not `j`'s
      by_cases hj : j = i
      · subst hj
        rw [push_of_ne _ hx, pop_self, pop_self, push_of_ne _ hx]
      · rw [pop_of_ne _ hj]
        by_cases hjx : j = key x
        · subst hjx
          rw [push_self, push_self, pop_of_ne _ hj]
        · rw [push_of_ne _ hjx, push_of_ne _ hjx, pop_of_ne _ hj]

/-- **The first entry of a key written** writes the top of its stack. -/
theorem ofList_modifyFirst {f : α → α} (hkey : ∀ x, key (f x) = key x) (hval : ∀ x, val (f x) = b) :
    ofList key val (modifyFirst (fun x => i = key x) f l) = (ofList key val l).setTop i b := by
  induction l with
  | nil => rw [modifyFirst, setTop_of_nil rfl]
  | cons x l ih =>
    by_cases hx : i = key x
    · subst hx
      rw [modifyFirst, if_pos (by simp), ofList_cons, ofList_cons, hkey, hval]
      funext j
      by_cases hj : j = key x
      · subst hj
        rw [setTop_self, push_self, push_self, List.modifyHead_cons]
      · rw [setTop_of_ne _ hj, push_of_ne _ hj, push_of_ne _ hj]
    · rw [modifyFirst, if_neg (by simpa using hx), ofList_cons, ih, ofList_cons]
      funext j
      -- one of the two keys is not `j`'s
      by_cases hj : j = i
      · subst hj
        rw [push_of_ne _ hx, setTop_self, setTop_self, push_of_ne _ hx]
      · rw [setTop_of_ne _ hj]
        by_cases hjx : j = key x
        · subst hjx
          rw [push_self, push_self, setTop_of_ne _ hj]
        · rw [push_of_ne _ hjx, push_of_ne _ hjx, setTop_of_ne _ hj]

/-- **The first entry of a key** is the top of its stack. -/
theorem head?_ofList : (ofList key val l i).head? = (l.find? fun x => i = key x).map val := by
  rw [ofList, List.head?_map, List.head?_filter]

/-- Writing every entry writes every stack. -/
theorem ofList_map {f : α → α} (hkey : ∀ x, key (f x) = key x) (hval : ∀ x, val (f x) = b) :
    ofList key val (l.map f) = fun i => (ofList key val l i).map fun _ => b := by
  funext i
  rw [ofList, ofList, List.filter_map, List.map_map, List.map_map]
  simp only [Function.comp_def, hkey, hval]

/-- The entries of a key are as many as its stack is high. -/
theorem length_ofList : (ofList key val l i).length = (l.map key).count i := by
  induction l with
  | nil => rfl
  | cons x l ih =>
    by_cases h : i = key x
    · subst h
      rw [ofList_cons_self, List.length_cons, ih, List.map_cons, List.count_cons_self]
    · rw [ofList_cons_of_ne h, ih, List.map_cons, List.count_cons_of_ne (Ne.symm h)]

end Stacks

end Common
