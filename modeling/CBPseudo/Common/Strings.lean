import CBPseudo.Common.Run
import Mathlib.Logic.Function.Basic
import Mathlib.Order.Basic

/-!
# A store of strings

Strings of elements, by key, that grow and shrink in the middle and are
handed from one key to another. An element has a place, a key and an
index, and `Op.moves` says where each operation takes the element at a
place; `at_of_run` says that a run takes each element where its operations
do, unchanged. Elements that an operation makes room for may be any.
-/

namespace Common

/-- **A store of strings**: what is kept under each key, if anything is. -/
abbrev Strings (κ β : Type*) := κ → Option (List β)

namespace Strings

variable {κ β : Type*}

/-- **An operation.** -/
inductive Op (κ β : Type*)
  /-- Keep a string of length `n` under a key. -/
  | make (k : κ) (n : ℕ)
  /-- Keep nothing under it. -/
  | drop (k : κ)
  /-- Lengthen the string under a key, or cut it. -/
  | resize (k : κ) (n : ℕ)
  /-- Make room for `n` elements at index `i`. -/
  | insert (k : κ) (i n : ℕ)
  /-- Remove the `n` elements from index `i` on. -/
  | remove (k : κ) (i n : ℕ)
  /-- Keep a string under another key. -/
  | rename (to_ from_ : κ)
  /-- Write elements over those from index `i` on. -/
  | write (k : κ) (i : ℕ) (new : List β)

variable [DecidableEq κ]

/-- **A step**, where the operation can be done. -/
inductive Step (m : Strings κ β) : Op κ β → Strings κ β → Prop
  | make {k : κ} {l : List β} : m k = none →
      Step m (.make k l.length) (Function.update m k (some l))
  | drop {k : κ} {l : List β} : m k = some l → Step m (.drop k) (Function.update m k none)
  | resize {k : κ} {l l' : List β} : m k = some l →
      (∀ j, j < l.length → j < l'.length → l'[j]? = l[j]?) →
      Step m (.resize k l'.length) (Function.update m k (some l'))
  | insert {k : κ} {i n : ℕ} {l l' : List β} : m k = some l → i ≤ l.length →
      l'.length = l.length + n → (∀ j < i, l'[j]? = l[j]?) → (∀ j, i ≤ j → l'[j + n]? = l[j]?) →
      Step m (.insert k i n) (Function.update m k (some l'))
  | remove {k : κ} {i n : ℕ} {l : List β} : m k = some l → i + n ≤ l.length →
      Step m (.remove k i n) (Function.update m k (some (l.take i ++ l.drop (i + n))))
  | rename {to_ from_ : κ} {l : List β} : m from_ = some l → m to_ = none →
      Step m (.rename to_ from_)
        (Function.update (Function.update m to_ (some l)) from_ none)
  | write {k : κ} {i : ℕ} {l new : List β} : m k = some l → i + new.length ≤ l.length →
      Step m (.write k i new)
        (Function.update m k (some (l.take i ++ new ++ l.drop (i + new.length))))

/-! ## Places -/

/-- The element at a place. -/
def at_ (m : Strings κ β) (p : κ × ℕ) : Option β := (m p.1).bind fun l => l[p.2]?

/-- Elements of one string are taken to other indices, or nowhere. -/
def within (k : κ) (f : ℕ → Option ℕ) (p : κ × ℕ) : Option (κ × ℕ) :=
  if p.1 = k then (f p.2).map (Prod.mk k) else some p

/-- **Where an operation takes an element**: nowhere, where it is removed or
written over. -/
def Op.moves : Op κ β → κ × ℕ → Option (κ × ℕ)
  | .make _ _ => some
  | .drop k => within k fun _ => none
  | .resize k n => within k fun j => if j < n then some j else none
  | .insert k i n => within k fun j => if j < i then some j else some (j + n)
  | .remove k i n => within k fun j =>
    if j < i then some j else if j < i + n then none else some (j - n)
  | .rename to_ from_ => fun p => if p.1 = from_ then some (to_, p.2) else some p
  | .write k i new => within k fun j => if i ≤ j ∧ j < i + new.length then none else some j

/-- Where a sequence of operations takes it. -/
def moves (ops : List (Op κ β)) (p : κ × ℕ) : Option (κ × ℕ) :=
  ops.foldlM (fun p op => op.moves p) p

variable {m m' : Strings κ β} {op : Op κ β} {ops : List (Op κ β)} {p p' : κ × ℕ} {k : κ} {b : β}
variable {l l' new : List β} {i j n : ℕ}

@[simp] theorem moves_nil : moves ([] : List (Op κ β)) p = some p := rfl

theorem moves_concat : moves (ops ++ [op]) p = (moves ops p).bind op.moves := by
  rw [moves, List.foldlM_append, moves]
  simp

theorem at_update_self {x : Option (List β)} :
    Strings.at_ (Function.update m k x) (k, i) = x.bind fun l => l[i]? := by
  rw [at_, Function.update_self]

theorem at_update_of_ne {x : Option (List β)} (h : p.1 ≠ k) :
    Strings.at_ (Function.update m k x) p = m.at_ p := by
  rw [at_, Function.update_of_ne h, at_]

omit [DecidableEq κ] in
/-- A key under which an element is, and one under which nothing is. -/
theorem ne_of_at (hb : m.at_ p = some b) (hk : m k = none) : p.1 ≠ k := by
  rintro rfl
  simp [at_, hk] at hb

/-- **Changing one string** takes its elements where they are in the new
one. -/
theorem at_within {f : ℕ → Option ℕ} (hc : m k = some l)
    (hf : ∀ j j' b, f j = some j' → l[j]? = some b → l'[j']? = some b)
    (hmoves : within k f p = some p') (hb : m.at_ p = some b) :
    Strings.at_ (Function.update m k (some l')) p' = some b := by
  unfold within at hmoves
  split at hmoves
  · next hk =>
    obtain ⟨j', hj', rfl⟩ := Option.map_eq_some_iff.mp hmoves
    rw [at_, hk, hc, Option.bind_some] at hb
    rw [at_update_self, Option.bind_some]
    exact hf _ _ _ hj' hb
  · next hk =>
    obtain rfl := Option.some.inj hmoves
    rw [at_update_of_ne hk, hb]

/-! ## Elements of one string -/

theorem getElem?_removed (h : l[j]? = some b) :
    (j < i → (l.take i ++ l.drop (i + n))[j]? = some b) ∧
      (i + n ≤ j → (l.take i ++ l.drop (i + n))[j - n]? = some b) := by
  have hlt : j < l.length := (List.getElem?_eq_some_iff.mp h).1
  constructor
  · intro hi
    rw [List.getElem?_append_left (by rw [List.length_take]; omega), List.getElem?_take_of_lt hi, h]
  · intro hi
    have hlen : (l.take i).length = i := List.length_take_of_le (by omega)
    have hidx : i + n + (j - n - i) = j := by omega
    rw [List.getElem?_append_right (by omega), hlen, List.getElem?_drop, hidx, h]

theorem getElem?_written (hi : i + new.length ≤ l.length) :
    (∀ j, ¬ (i ≤ j ∧ j < i + new.length) →
      (l.take i ++ new ++ l.drop (i + new.length))[j]? = l[j]?) ∧
      ∀ j < new.length, (l.take i ++ new ++ l.drop (i + new.length))[i + j]? = new[j]? := by
  have hlen : (l.take i).length = i := List.length_take_of_le (by omega)
  constructor
  · intro j hj
    by_cases hlt : j < i
    · rw [List.append_assoc, List.getElem?_append_left (by omega), List.getElem?_take_of_lt hlt]
    · have hge : i + new.length ≤ j := by omega
      have hidx : i + new.length + (j - (i + new.length)) = j := by omega
      rw [List.getElem?_append_right (by rw [List.length_append]; omega), List.length_append,
        hlen, List.getElem?_drop, hidx]
  · intro j hj
    rw [List.getElem?_append_left (by rw [List.length_append]; omega),
      List.getElem?_append_right (by omega), hlen, Nat.add_sub_cancel_left]

/-! ## Runs -/

/-- **A step takes each element where it says.** -/
theorem at_of_step (h : Step m op m') (hmoves : op.moves p = some p') (hb : m.at_ p = some b) :
    m'.at_ p' = some b := by
  cases h with
  | make hnone =>
    obtain rfl := Option.some.inj hmoves
    rw [at_update_of_ne (ne_of_at hb hnone), hb]
  | drop hc =>
    simp only [Op.moves, within, Option.map_none] at hmoves
    split at hmoves
    · cases hmoves
    · next hne =>
      obtain rfl := Option.some.inj hmoves
      rw [at_update_of_ne hne, hb]
  | resize hc hsame =>
    rw [Op.moves] at hmoves
    refine at_within hc (fun j j' b hj h => ?_) hmoves hb
    split at hj
    · next hlt =>
      obtain rfl := Option.some.inj hj
      rw [hsame j (List.getElem?_eq_some_iff.mp h).1 hlt, h]
    · cases hj
  | insert hc hi hlen hbelow habove =>
    rw [Op.moves] at hmoves
    refine at_within hc (fun j j' b hj h => ?_) hmoves hb
    split at hj
    · next hlt =>
      obtain rfl := Option.some.inj hj
      rw [hbelow j hlt, h]
    · next hge =>
      obtain rfl := Option.some.inj hj
      rw [habove j (Nat.le_of_not_lt hge), h]
  | remove hc hi =>
    rw [Op.moves] at hmoves
    refine at_within hc (fun j j' b hj h => ?_) hmoves hb
    split at hj
    · next hlt =>
      obtain rfl := Option.some.inj hj
      exact (getElem?_removed h).1 hlt
    · split at hj
      · cases hj
      · next hge =>
        obtain rfl := Option.some.inj hj
        exact (getElem?_removed h).2 (Nat.le_of_not_lt hge)
  | @rename to_ from_ l hc hnone =>
    have hdiff : to_ ≠ from_ := fun he => by rw [he, hc] at hnone; cases hnone
    simp only [Op.moves] at hmoves
    split at hmoves
    · next hk =>
      obtain rfl := Option.some.inj hmoves
      rw [at_, hk, hc] at hb
      rw [at_update_of_ne hdiff, at_update_self, hb]
    · next hk =>
      obtain rfl := Option.some.inj hmoves
      rw [at_update_of_ne hk, at_update_of_ne (ne_of_at hb hnone), hb]
  | write hc hi =>
    rw [Op.moves] at hmoves
    refine at_within hc (fun j j' b hj h => ?_) hmoves hb
    split at hj
    · cases hj
    · next hout =>
      obtain rfl := Option.some.inj hj
      rw [(getElem?_written hi).1 j hout, h]

/-- **A run takes each element where its operations do.** -/
theorem at_of_run (h : Run Step m ops m') (hmoves : moves ops p = some p')
    (hb : m.at_ p = some b) : m'.at_ p' = some b := by
  induction h generalizing p' with
  | nil =>
    obtain rfl := Option.some.inj hmoves
    exact hb
  | @snoc ops t u op _ hs ih =>
    rw [moves_concat] at hmoves
    obtain ⟨q, hq, hp'⟩ := Option.bind_eq_some_iff.mp hmoves
    exact at_of_step hs hp' (ih hq)

/-- What has been written is there. -/
theorem at_of_write (h : Step m (.write k i new) m') (hj : new[j]? = some b) :
    m'.at_ (k, i + j) = some b := by
  cases h with
  | write hc hi =>
    have hlt : j < new.length := (List.getElem?_eq_some_iff.mp hj).1
    rw [at_update_self, Option.bind_some, (getElem?_written hi).2 j hlt, hj]

end Strings

end Common
