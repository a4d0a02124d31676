import CBPseudo.Common.Run
import Mathlib.Data.List.Basic
import Mathlib.Data.List.Nodup
import Mathlib.Data.Finset.Image

/-!
# Intrusive linked lists

A list of items is the list of the records it links, in link order, each
with the address it lives at. An item is handed about by address, as a C
program hands about a pointer to it, and is removed or written through
that address. Where no address occurs twice these operations are the
ordinary ones on the list of values: `vals_removeItem` and
`vals_modifyItem` say so for an item that a search has found.

The operations stand for those of a list library. What is relied on of one
is this: an item inserted with none to come after is linked at the head;
a visit goes from the head, knows the next item before it calls back, so
that the callback may unlink the item that it is given, and ends with the
first for which the callback answers true; and unlinking an item leaves
the others linked in their order.
-/

namespace Common

/-- A machine address. -/
abbrev Addr := ℕ

/-- A record and the address it lives at. -/
structure Item (α : Type*) where
  /-- Where the record lives. -/
  addr : Addr
  /-- What it holds. -/
  val : α
  deriving DecidableEq, Repr

variable {α : Type*} {l : List (Item α)} {p : α → Bool} {it : Item α} {a : Addr}

/-- The addresses of the items, in order. -/
def addrs (l : List (Item α)) : List Addr := l.map Item.addr

/-- The values of the items, in order. -/
def vals (l : List (Item α)) : List α := l.map Item.val

@[simp] theorem addrs_nil : addrs ([] : List (Item α)) = [] := rfl

@[simp] theorem addrs_cons : addrs (it :: l) = it.addr :: addrs l := rfl

@[simp] theorem vals_cons : vals (it :: l) = it.val :: vals l := rfl

theorem mem_addrs_of_mem (h : it ∈ l) : it.addr ∈ addrs l := List.mem_map_of_mem h

/-- **An address names one item** of a list that repeats none. -/
theorem eq_of_addr_eq (hnd : (addrs l).Nodup) {x y : Item α} (hx : x ∈ l) (hy : y ∈ l)
    (h : x.addr = y.addr) : x = y :=
  List.inj_on_of_nodup_map hnd hx hy h

/-! ## The operations -/

/-- Visit the items from the head, stopping at the first for which the
callback answers true, and return that one. -/
def forEach {m : Type → Type} [Monad m] {α : Type} (callback : Item α → m Bool) :
    List (Item α) → m (Option (Item α))
  | [] => pure none
  | item :: rest => do
    if ← callback item then pure (some item) else forEach callback rest

/-- The first item whose value answers true: a visit by a callback that
changes nothing. -/
def findItem {α : Type} (p : α → Bool) (l : List (Item α)) : Option (Item α) :=
  forEach (m := Id) (fun it => p it.val) l

/-- Unlink the item at an address. -/
def removeItem (a : Addr) (l : List (Item α)) : List (Item α) :=
  l.eraseP fun it => it.addr = a

/-- Write the record at an address. -/
def modifyItem (a : Addr) (f : α → α) (l : List (Item α)) : List (Item α) :=
  l.map fun it => if it.addr = a then { it with val := f it.val } else it

/-- Write the first value that answers true. -/
def modifyFirst (p : α → Bool) (f : α → α) : List α → List α
  | [] => []
  | x :: xs => if p x then f x :: xs else x :: modifyFirst p f xs

/-- Writing the first value that answers, where none does. -/
theorem modifyFirst_of_forall_not {p : α → Bool} {f : α → α} {xs : List α}
    (h : ∀ x ∈ xs, ¬ p x) : modifyFirst p f xs = xs := by
  induction xs with
  | nil => rfl
  | cons x xs ih =>
    rw [modifyFirst, if_neg (h x List.mem_cons_self),
      ih fun y hy => h y (List.mem_cons_of_mem x hy)]

/-- Keeping items by their values keeps those values. -/
theorem vals_filter {p : α → Bool} : vals (l.filter fun it => p it.val) = (vals l).filter p := by
  rw [vals, vals, List.filter_map]
  rfl

/-- A visit by a callback that has effects. -/
theorem forEach_cons_state {τ α : Type} {m : Type → Type} [Monad m] [LawfulMonad m]
    {callback : Item α → StateT τ m Bool} {it : Item α} {l : List (Item α)} {s s' : τ}
    (h : callback it s = pure (false, s')) :
    forEach callback (it :: l) s = forEach callback l s' := by
  show (callback it s >>= fun p => _) = _
  rw [h, pure_bind]
  rfl

/-- **A visit that stops nowhere** is a run, which takes each item once, from
the head. -/
theorem forEach_run {τ ε α : Type} {callback : Item α → StateT τ (Except ε) Bool}
    {l : List (Item α)} {s s' : τ} (h : forEach callback l s = .ok (none, s')) :
    Run (fun s it s' => callback it s = .ok (false, s')) s l s' := by
  induction l generalizing s with
  | nil =>
    cases h
    exact Run.nil
  | cons it l ih =>
    cases hstep : callback it s with
    | error e =>
      replace h : (callback it s >>= fun r => _) = .ok (none, s') := h
      rw [hstep] at h
      cases h
    | ok r =>
      obtain ⟨_ | _, s₁⟩ := r
      · rw [forEach_cons_state hstep] at h
        exact Run.cons hstep (ih h)
      · -- the visit would have stopped here
        replace h : (callback it s >>= fun r => _) = .ok (none, s') := h
        rw [hstep] at h
        cases h

/-- **A visit by a callback that changes what it will, and answers as a
predicate does**, stops where a search for that would. -/
theorem forEach_eq_find? {τ ε α : Type} {callback : Item α → StateT τ (Except ε) Bool}
    {p : Item α → Bool} {l : List (Item α)}
    (h : ∀ it ∈ l, ∀ s, ∃ s', callback it s = .ok (p it, s')) (s : τ) :
    ∃ s', forEach callback l s = .ok (l.find? p, s') := by
  induction l generalizing s with
  | nil => exact ⟨s, rfl⟩
  | cons it l ih =>
    obtain ⟨s₁, hstep⟩ := h it List.mem_cons_self s
    cases hp : p it with
    | true =>
      refine ⟨s₁, ?_⟩
      show (callback it s >>= fun r => _) = _
      rw [hstep, hp, List.find?_cons_of_pos hp]
      rfl
    | false =>
      rw [hp] at hstep
      obtain ⟨s₂, hrest⟩ := ih (fun x hx => h x (List.mem_cons_of_mem _ hx)) s₁
      refine ⟨s₂, ?_⟩
      rw [forEach_cons_state hstep, hrest, List.find?_cons_of_neg (by simp [hp])]

/-! ## Searching -/

section Search

variable {α : Type} {l : List (Item α)} {p : α → Bool} {it : Item α}

/-- A search by a callback without effects is `List.find?`. -/
theorem findItem_eq (p : α → Bool) (l : List (Item α)) :
    findItem p l = l.find? fun it => p it.val := by
  induction l with
  | nil => rfl
  | cons x xs ih =>
    rw [List.find?_cons]
    simp only [findItem, forEach] at ih ⊢
    cases h : p x.val <;> simp_all [pure, bind]

theorem mem_of_findItem (h : findItem p l = some it) : it ∈ l := by
  rw [findItem_eq] at h
  exact List.mem_of_find?_eq_some h

theorem findItem_prop (h : findItem p l = some it) : p it.val := by
  rw [findItem_eq] at h
  simpa using List.find?_some h

theorem findItem_eq_none : findItem p l = none ↔ ∀ it ∈ l, ¬ p it.val := by
  rw [findItem_eq, List.find?_eq_none]

theorem findItem_isSome : (findItem p l).isSome ↔ ∃ it ∈ l, p it.val := by
  rw [findItem_eq, List.find?_isSome]

/-- What a search finds, as a value. -/
theorem map_val_findItem : (findItem p l).map Item.val = (vals l).find? p := by
  rw [findItem_eq, vals, List.find?_map]
  rfl

end Search

/-! ## Unlinking -/

theorem addrs_removeItem : addrs (removeItem a l) = (addrs l).erase a := by
  rw [addrs, removeItem, addrs, List.erase_eq_eraseP, List.eraseP_map]
  simp only [Function.comp_def, beq_eq_decide, eq_comm]

theorem nodup_addrs_removeItem (hnd : (addrs l).Nodup) : (addrs (removeItem a l)).Nodup := by
  rw [addrs_removeItem]
  exact hnd.erase a

/-- **Unlinking removes one item and no other.** -/
theorem mem_removeItem (hnd : (addrs l).Nodup) {x : Item α} :
    x ∈ removeItem a l ↔ x ∈ l ∧ x.addr ≠ a := by
  induction l with
  | nil => simp [removeItem]
  | cons y ys ih =>
    obtain ⟨hy, hys⟩ := List.nodup_cons.mp hnd
    rw [removeItem, List.eraseP_cons]
    by_cases hya : y.addr = a
    · -- the item that goes is the head, and its address is not met again
      simp only [hya, decide_true, cond_true, List.mem_cons]
      constructor
      · intro hx
        exact ⟨Or.inr hx, fun hxa => hy (hya ▸ hxa ▸ mem_addrs_of_mem hx)⟩
      · rintro ⟨rfl | hx, hxa⟩
        · exact absurd hya hxa
        · exact hx
    · simp only [hya, decide_false, cond_false, List.mem_cons]
      rw [← removeItem, ih hys]
      constructor
      · rintro (rfl | ⟨hx, hxa⟩)
        · exact ⟨Or.inl rfl, hya⟩
        · exact ⟨Or.inr hx, hxa⟩
      · rintro ⟨rfl | hx, hxa⟩
        · exact Or.inl rfl
        · exact Or.inr ⟨hx, hxa⟩

/-- Unlinking an item in the middle. -/
theorem removeItem_append_cons {before after : List (Item α)}
    (hnd : (addrs (before ++ it :: after)).Nodup) :
    removeItem it.addr (before ++ it :: after) = before ++ after := by
  have hbefore : ∀ x ∈ before, ¬ decide (x.addr = it.addr) = true := by
    intro x hx
    rw [addrs, List.map_append] at hnd
    have hdisj := List.disjoint_of_nodup_append hnd (mem_addrs_of_mem hx)
    intro he
    exact hdisj (of_decide_eq_true he ▸ List.mem_cons_self)
  rw [removeItem, List.eraseP_append_right _ hbefore]
  simp

/-- Unlinking takes one item out. -/
theorem perm_removeItem (hnd : (addrs l).Nodup) (h : it ∈ l) :
    l.Perm (it :: removeItem it.addr l) := by
  obtain ⟨before, after, rfl⟩ := List.append_of_mem h
  rw [removeItem_append_cons hnd]
  exact List.perm_middle

/-- It is not seen among the items of which it is none. -/
theorem filter_removeItem {p : Item α → Bool} (hnd : (addrs l).Nodup) (h : it ∈ l)
    (hp : ¬ p it) : (removeItem it.addr l).filter p = l.filter p := by
  obtain ⟨before, after, rfl⟩ := List.append_of_mem h
  rw [removeItem_append_cons hnd, List.filter_append, List.filter_append,
    List.filter_cons_of_neg hp]

/-- Unlinking an item of the list is seen. -/
theorem removeItem_ne_self (h : it ∈ l) : removeItem it.addr l ≠ l := by
  intro he
  have hlength := List.length_eraseP_of_mem (p := fun x => decide (x.addr = it.addr)) h (by simp)
  rw [← removeItem, he] at hlength
  have hpos := List.length_pos_of_mem h
  omega

/-- **Unlinking what a search found** removes the first value that
answers. -/
theorem vals_removeItem {α : Type} {l : List (Item α)} {p : α → Bool} {it : Item α}
    (hnd : (addrs l).Nodup) (h : findItem p l = some it) :
    vals (removeItem it.addr l) = (vals l).eraseP p := by
  rw [findItem_eq] at h
  induction l with
  | nil => simp at h
  | cons y ys ih =>
    obtain ⟨hy, hys⟩ := List.nodup_cons.mp hnd
    rw [List.find?_cons] at h
    rw [removeItem, List.eraseP_cons, vals_cons, List.eraseP_cons]
    cases hp : p y.val with
    | true =>
      obtain rfl : y = it := by simpa [hp] using h
      simp
    | false =>
      have hit : ys.find? (fun it => p it.val) = some it := by simpa [hp] using h
      -- the head does not answer, so what was found lies behind it
      have hne : y.addr ≠ it.addr := fun he =>
        hy (he ▸ mem_addrs_of_mem (List.mem_of_find?_eq_some hit))
      simp only [hne, decide_false, cond_false, vals_cons]
      rw [← removeItem, ih hys hit]

/-! ## Writing -/

@[simp] theorem addrs_modifyItem {f : α → α} : addrs (modifyItem a f l) = addrs l := by
  rw [addrs, modifyItem, addrs, List.map_map]
  refine List.map_congr_left fun x _ => ?_
  simp only [Function.comp_apply]
  split <;> rfl

theorem mem_modifyItem {f : α → α} {x : Item α} :
    x ∈ modifyItem a f l ↔
      ∃ y ∈ l, x = if y.addr = a then { y with val := f y.val } else y := by
  simp only [modifyItem, List.mem_map, eq_comm]

/-- **Writing one item changes that item** and no other. -/
theorem mem_modifyItem_of_mem {f : α → α} (hnd : (addrs l).Nodup) (hit : it ∈ l) {x : Item α} :
    x ∈ modifyItem it.addr f l ↔ x = ⟨it.addr, f it.val⟩ ∨ x ∈ l ∧ x ≠ it := by
  rw [mem_modifyItem]
  constructor
  · rintro ⟨y, hy, rfl⟩
    by_cases hya : y.addr = it.addr
    · obtain rfl := eq_of_addr_eq hnd hy hit hya
      rw [if_pos rfl]
      exact Or.inl rfl
    · rw [if_neg hya]
      exact Or.inr ⟨hy, fun he => hya (he ▸ rfl)⟩
  · rintro (rfl | ⟨hx, hne⟩)
    · exact ⟨it, hit, by rw [if_pos rfl]⟩
    · have hxa : x.addr ≠ it.addr := fun he => hne (eq_of_addr_eq hnd hx hit he)
      exact ⟨x, hx, by rw [if_neg hxa]⟩

/-- A write is seen unless it writes what was there. -/
theorem modifyItem_eq_self_iff {f : α → α} (hnd : (addrs l).Nodup) (hit : it ∈ l) :
    modifyItem it.addr f l = l ↔ f it.val = it.val := by
  constructor
  · intro he
    have hwritten : ⟨it.addr, f it.val⟩ ∈ modifyItem it.addr f l :=
      (mem_modifyItem_of_mem hnd hit).mpr (Or.inl rfl)
    rw [he] at hwritten
    exact congrArg Item.val (eq_of_addr_eq hnd hwritten hit rfl)
  · intro hf
    unfold modifyItem
    conv_rhs => rw [← List.map_id l]
    refine List.map_congr_left fun x hx => ?_
    split
    · next ha =>
      obtain rfl := eq_of_addr_eq hnd hx hit ha
      rw [hf, id]
    · rfl

/-- Writing at an address the list does not have writes nothing. -/
theorem modifyItem_of_notMem {f : α → α} (h : a ∉ addrs l) : modifyItem a f l = l := by
  unfold modifyItem
  conv_rhs => rw [← List.map_id l]
  refine List.map_congr_left fun x hx => ?_
  rw [if_neg fun he : x.addr = a => h (he ▸ mem_addrs_of_mem hx), id]

/-- A write that keeps the keys of values. -/
theorem map_vals_modifyItem {β : Type*} (key : α → β) (f : α → α)
    (hf : ∀ x, key (f x) = key x) :
    (vals (modifyItem a f l)).map key = (vals l).map key := by
  rw [vals, vals, modifyItem, List.map_map, List.map_map, List.map_map]
  refine List.map_congr_left fun x _ => ?_
  simp only [Function.comp_apply]
  split <;> simp only [hf]

/-- Writing an item in the middle. -/
theorem modifyItem_append_cons {f : α → α} {before after : List (Item α)}
    (hnd : (addrs (before ++ it :: after)).Nodup) :
    modifyItem it.addr f (before ++ it :: after) = before ++ ⟨it.addr, f it.val⟩ :: after := by
  rw [addrs, List.map_append, List.map_cons] at hnd
  obtain ⟨-, hcons, hdisj⟩ := List.nodup_append.mp hnd
  have hbefore : modifyItem it.addr f before = before :=
    modifyItem_of_notMem fun h => hdisj _ h _ List.mem_cons_self rfl
  have hafter : modifyItem it.addr f after = after :=
    modifyItem_of_notMem (List.nodup_cons.mp hcons).1
  unfold modifyItem at hbefore hafter ⊢
  rw [List.map_append, List.map_cons, if_pos rfl, hbefore, hafter]

/-- **A search after a write that it does not see** finds what it found
before, as written. -/
theorem findItem_modifyItem {α : Type} {l : List (Item α)} {p : α → Bool} {it : Item α}
    {f : α → α} (hp : ∀ x, p (f x) = p x) (h : findItem p l = some it) :
    findItem p (modifyItem it.addr f l) = some ⟨it.addr, f it.val⟩ := by
  have hsame : (fun x : Item α => p (if x.addr = it.addr then { x with val := f x.val } else x).val)
      = fun x => p x.val := by
    funext x
    split <;> simp only [hp]
  rw [findItem_eq] at h
  rw [findItem_eq, modifyItem, List.find?_map, Function.comp_def, hsame, h, Option.map_some,
    if_pos rfl]

/-- **Writing what a search found** writes the first value that
answers. -/
theorem vals_modifyItem {α : Type} {l : List (Item α)} {p : α → Bool} {it : Item α} {f : α → α}
    (hnd : (addrs l).Nodup) (h : findItem p l = some it) :
    vals (modifyItem it.addr f l) = modifyFirst p f (vals l) := by
  rw [findItem_eq] at h
  induction l with
  | nil => simp at h
  | cons y ys ih =>
    obtain ⟨hy, hys⟩ := List.nodup_cons.mp hnd
    rw [List.find?_cons] at h
    cases hp : p y.val with
    | true =>
      obtain rfl : y = it := by simpa [hp] using h
      -- the head is what was found; the write passes over the rest
      have hrest : modifyItem y.addr f ys = ys := modifyItem_of_notMem hy
      unfold modifyItem at hrest ⊢
      simp [modifyFirst, hp, hrest]
    | false =>
      have hit : ys.find? (fun it => p it.val) = some it := by simpa [hp] using h
      have hne : y.addr ≠ it.addr := fun he =>
        hy (he ▸ mem_addrs_of_mem (List.mem_of_find?_eq_some hit))
      have htail := ih hys hit
      unfold modifyItem at htail ⊢
      simp [modifyFirst, hp, hne, htail]

end Common
