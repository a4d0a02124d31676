import CBPseudo.Common.ItemList
import CBPseudo.Common.Machine
import Mathlib.Data.Finset.Lattice.Fold
import Mathlib.Logic.Function.Basic
import Mathlib.Order.Lattice.Nat

/-!
# A heap of byte blocks

The heap a C program sees: which addresses are allocated, and the bytes
of each block. Whether a request is granted, at which address, and what
the granted memory held before are the allocator's business, and an
`Allocator` is any answer to these that never hands out an address in
use. A call that is granted nothing leaves the heap as it was.
-/

namespace Common

/-- **An allocator's answer to a request.** It sees which addresses are in
use and hands out none of them; granting nothing is refusing. -/
structure Allocator where
  /-- The address granted, given those in use. -/
  grant : Finset Addr → Option Addr
  /-- What the granted memory holds. -/
  fill : ℕ → UInt8
  fresh : ∀ {live a}, grant live = some a → a ∉ live

/-- The allocator that refuses. -/
def Allocator.refuse : Allocator where
  grant := fun _ => none
  fill := fun _ => 0
  fresh := fun h => by cases h

/-- The allocator that grants one address, as long as it is not in use. -/
def Allocator.only (a : Addr) : Allocator where
  grant := fun live => if a ∈ live then none else some a
  fill := fun _ => 0
  fresh := by
    intro live b h
    by_cases ha : a ∈ live
    · rw [if_pos ha] at h; cases h
    · rw [if_neg ha] at h
      exact Option.some.inj h ▸ ha

/-- An allocator that never refuses. -/
def Allocator.Generous (A : Allocator) : Prop := ∀ live, (A.grant live).isSome

/-- The allocator that grants the address after every one in use. -/
def Allocator.next : Allocator where
  grant := fun live => some (live.sup id + 1)
  fill := fun _ => 0
  fresh := by
    intro live b h hb
    have hle : b ≤ live.sup id := Finset.le_sup (f := id) hb
    have hb' : live.sup id + 1 = b := Option.some.inj h
    rw [← hb'] at hle
    exact absurd hle (Nat.not_succ_le_self _)

theorem Allocator.next_generous : Allocator.next.Generous := fun _ => rfl

/-- **The heap.** -/
structure Heap where
  /-- The addresses of the allocated blocks. -/
  live : Finset Addr
  /-- The bytes of the block at each address. -/
  bytes : Addr → List UInt8

namespace Heap

variable {h h' : Heap} {a b : Addr} {p : Option Addr} {n : ℕ} {A : Allocator}

/-- The heap with one more block, or with a block given other bytes. -/
def put (a : Addr) (c : List UInt8) (h : Heap) : Heap :=
  { live := insert a h.live, bytes := Function.update h.bytes a c }

/-- The heap without a block. -/
def drop (a : Addr) (h : Heap) : Heap := { h with live := h.live.erase a }

@[simp] theorem put_live {c : List UInt8} : (h.put a c).live = insert a h.live := rfl

@[simp] theorem put_bytes_self {c : List UInt8} : (h.put a c).bytes a = c :=
  Function.update_self ..

theorem put_bytes_of_ne {c : List UInt8} (hne : b ≠ a) : (h.put a c).bytes b = h.bytes b :=
  Function.update_of_ne hne ..

@[simp] theorem drop_live : (h.drop a).live = h.live.erase a := rfl

@[simp] theorem drop_bytes : (h.drop a).bytes = h.bytes := rfl

/-- The later of two writes to a block is the one that lasts. -/
@[simp] theorem put_put {c c' : List UInt8} : (h.put a c).put a c' = h.put a c' := by
  simp [put]

/-- Dropping one block and writing another commute. -/
theorem drop_put {c : List UInt8} (hne : a ≠ b) : (h.put a c).drop b = (h.drop b).put a c := by
  simp only [put, drop, Heap.mk.injEq, and_true]
  exact Finset.erase_insert_of_ne hne

/-! ## Allocation -/

/-- `malloc`. -/
def malloc (A : Allocator) (n : ℕ) (h : Heap) : Option Addr × Heap :=
  match A.grant h.live with
  | none => (none, h)
  | some a => (some a, h.put a ((List.range n).map A.fill))

/-- `free`, which does nothing to a null pointer. -/
def free (p : Option Addr) (h : Heap) : Except Fault Heap :=
  match p with
  | none => .ok h
  | some a => if a ∈ h.live then .ok (h.drop a) else .error .badFree

/-- The bytes of a block resized to `n`: its own, as far as they fit, and
what the memory behind them holds. -/
def resize (A : Allocator) (n : ℕ) (c : List UInt8) : List UInt8 :=
  c.take n ++ (List.range (n - c.length)).map A.fill

/-- `realloc`. The block may stay where it is or move. -/
def realloc (A : Allocator) (p : Option Addr) (n : ℕ) (h : Heap) :
    Except Fault (Option Addr × Heap) :=
  match p with
  | none => .ok (h.malloc A n)
  | some a =>
    if a ∈ h.live then
      match A.grant (h.live.erase a) with
      | none => .ok (none, h)
      | some b => .ok (some b, (h.drop a).put b (resize A n (h.bytes a)))
    else .error .badFree

@[simp] theorem length_resize {c : List UInt8} : (resize A n c).length = n := by
  simp only [resize, List.length_append, List.length_take, List.length_map, List.length_range]
  omega

/-- Growing a block keeps its bytes in front. -/
theorem resize_of_le {c : List UInt8} (h : c.length ≤ n) :
    resize A n c = c ++ (List.range (n - c.length)).map A.fill := by
  rw [resize, List.take_of_length_le h]

/-- The bytes in front that fit are its own. -/
theorem take_resize {c : List UInt8} {m : ℕ} (hn : m ≤ n) (hc : m ≤ c.length) :
    (resize A n c).take m = c.take m := by
  rw [resize, List.take_append_of_le_length (by rw [List.length_take]; omega), List.take_take,
    Nat.min_eq_left hn]

/-- Shrinking a block leaves its bytes in front and nothing else. -/
theorem resize_of_ge {c : List UInt8} (h : n ≤ c.length) : resize A n c = c.take n := by
  rw [resize, Nat.sub_eq_zero_of_le h, List.range_zero, List.map_nil, List.append_nil]

/-- **`malloc` refuses and changes nothing, or adds a block at an address
not in use.** -/
theorem malloc_cases (A : Allocator) (n : ℕ) (h : Heap) :
    h.malloc A n = (none, h) ∨
    ∃ a, a ∉ h.live ∧ h.malloc A n = (some a, h.put a ((List.range n).map A.fill)) := by
  unfold malloc
  cases hg : A.grant h.live with
  | none => exact Or.inl rfl
  | some a => exact Or.inr ⟨a, A.fresh hg, rfl⟩

/-- **`realloc` of an allocated block refuses and changes nothing, or
leaves the resized block as the only one in its place.** -/
theorem realloc_cases (A : Allocator) (n : ℕ) (ha : a ∈ h.live) :
    h.realloc A (some a) n = .ok (none, h) ∨
    ∃ b, b ∉ h.live.erase a ∧
      h.realloc A (some a) n = .ok (some b, (h.drop a).put b (resize A n (h.bytes a))) := by
  simp only [realloc, if_pos ha]
  cases hg : A.grant (h.live.erase a) with
  | none => exact Or.inl rfl
  | some b => exact Or.inr ⟨b, A.fresh hg, rfl⟩

theorem free_of_live (ha : a ∈ h.live) : h.free (some a) = .ok (h.drop a) := if_pos ha

/-! ## Copying -/

/-- A range of `n` bytes at offset `off` lies within the block at `a`. -/
def InBlock (a : Addr) (off : ℤ) (n : ℕ) (h : Heap) : Prop :=
  a ∈ h.live ∧ 0 ≤ off ∧ off + n ≤ (h.bytes a).length

instance (a : Addr) (off : ℤ) (n : ℕ) (h : Heap) : Decidable (h.InBlock a off n) :=
  inferInstanceAs (Decidable (_ ∧ _ ∧ _))

/-- Bytes `c` written over a block from offset `off` on. -/
def splice (off : ℕ) (c block : List UInt8) : List UInt8 :=
  block.take off ++ c ++ block.drop (off + c.length)

/-- `memmove`: the ranges may overlap. -/
def memmove (dst : Option Addr) (doff : ℤ) (src : Option Addr) (soff : ℤ) (n : ℕ) (h : Heap) :
    Except Fault Heap :=
  match dst, src with
  | some d, some s =>
    if h.InBlock d doff n ∧ h.InBlock s soff n then
      .ok (h.put d (splice doff.toNat (((h.bytes s).drop soff.toNat).take n) (h.bytes d)))
    else .error .outOfBounds
  | _, _ => .error .outOfBounds

/-- `memcpy`: the ranges must not overlap. -/
def memcpy (dst : Option Addr) (doff : ℤ) (src : Option Addr) (soff : ℤ) (n : ℕ) (h : Heap) :
    Except Fault Heap :=
  if dst = src ∧ doff < soff + n ∧ soff < doff + n then .error .overlap
  else h.memmove dst doff src soff n

theorem memmove_of {d s : Addr} {doff soff : ℤ} (hd : h.InBlock d doff n)
    (hs : h.InBlock s soff n) :
    h.memmove (some d) doff (some s) soff n =
      .ok (h.put d (splice doff.toNat (((h.bytes s).drop soff.toNat).take n) (h.bytes d))) :=
  if_pos ⟨hd, hs⟩

/-- Between different blocks `memcpy` is `memmove`. -/
theorem memcpy_of_ne {d s : Addr} {doff soff : ℤ} (hne : d ≠ s) :
    h.memcpy (some d) doff (some s) soff n = h.memmove (some d) doff (some s) soff n :=
  if_neg fun hc => hne (Option.some.inj hc.1)

/-- **Copying from one block into another that has just been written.** -/
theorem memcpy_put {c : List UInt8} {doff soff : ℤ} (hne : b ≠ a) (ha : a ∈ h.live)
    (hd0 : 0 ≤ doff) (hd : doff + n ≤ c.length) (hs0 : 0 ≤ soff)
    (hs : soff + n ≤ (h.bytes a).length) :
    (h.put b c).memcpy (some b) doff (some a) soff n =
      .ok (h.put b (splice doff.toNat (((h.bytes a).drop soff.toNat).take n) c)) := by
  have hdst : (h.put b c).InBlock b doff n :=
    ⟨Finset.mem_insert_self b _, hd0, by rw [put_bytes_self]; exact hd⟩
  have hsrc : (h.put b c).InBlock a soff n :=
    ⟨Finset.mem_insert_of_mem ha, hs0, by rw [put_bytes_of_ne hne.symm]; exact hs⟩
  rw [memcpy_of_ne hne, memmove_of hdst hsrc, put_put, put_bytes_self, put_bytes_of_ne hne.symm]

/-- **Moving bytes within a block that has just been written.** -/
theorem memmove_put {c : List UInt8} {doff soff : ℤ} (hd0 : 0 ≤ doff) (hd : doff + n ≤ c.length)
    (hs0 : 0 ≤ soff) (hs : soff + n ≤ c.length) :
    (h.put b c).memmove (some b) doff (some b) soff n =
      .ok (h.put b (splice doff.toNat ((c.drop soff.toNat).take n) c)) := by
  have hin : ∀ off : ℤ, 0 ≤ off → off + n ≤ c.length → (h.put b c).InBlock b off n :=
    fun off h0 hle => ⟨Finset.mem_insert_self b _, h0, by rw [put_bytes_self]; exact hle⟩
  rw [memmove_of (hin doff hd0 hd) (hin soff hs0 hs), put_put, put_bytes_self]

/-- Freeing one block after writing another. -/
theorem free_put {c : List UInt8} (hne : b ≠ a) (ha : a ∈ h.live) :
    (h.put b c).free (some a) = .ok ((h.drop a).put b c) := by
  rw [free_of_live (Finset.mem_insert_of_mem ha), drop_put hne]

/-- Writing within a block keeps its length. -/
theorem length_splice {off : ℕ} {c block : List UInt8} (h : off + c.length ≤ block.length) :
    (splice off c block).length = block.length := by
  simp only [splice, List.length_append, List.length_take, List.length_drop]
  omega

end Heap

end Common
