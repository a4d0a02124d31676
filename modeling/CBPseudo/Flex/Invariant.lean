import CBPseudo.Flex.Operations

/-!
# The pseudo-flex heap — the representation invariant

`Linked` ties the record list, the anchors and the heap together: a
record and a block each for every registered anchor, and nothing else
allocated. How the size on record goes with the length of the block is a
parameter of it, and the four states the functions end in each preserve
it whatever that is. `Inv` is the tie a client that keeps to the interface
can count on: the size is the length. Under it every registered anchor is
in order (`Inv.anchored_of_found`), which is what the functions' own
lemmas ask.
-/

namespace CBPseudo

open Common

namespace Flex

variable {s : State} {anchor to_ from_ : FlexPtr} {pfr : Item PseudoFlexRecord} {a b p : Addr}
variable {n : ℤ} {c : List UInt8} {fits : ℤ → ℕ → Prop}

/-- **Records, anchors and blocks tied together**, where a size on record
fits the length of its block. -/
structure Linked (fits : ℤ → ℕ → Prop) (s : State) : Prop where
  addrs_nodup : (addrs s.blockList).Nodup
  /-- The record allocations are the records of the list. -/
  mem_records : ∀ p, p ∈ s.records ↔ p ∈ addrs s.blockList
  /-- No two records have the same anchor. -/
  anchor_inj : ∀ r ∈ s.blockList, ∀ r' ∈ s.blockList, r.val.anchor = r'.val.anchor → r = r'
  /-- Each anchor holds the address of a block that fits the record. -/
  anchored : ∀ r ∈ s.blockList, ∃ a ∈ s.heap.live, s.anchors r.val.anchor = some a ∧
    fits r.val.size (s.heap.bytes a).length
  /-- Different records hold different blocks. -/
  block_inj : ∀ r ∈ s.blockList, ∀ r' ∈ s.blockList,
    s.anchors r.val.anchor = s.anchors r'.val.anchor → r = r'
  /-- Every block is held by some record. -/
  owned : ∀ a ∈ s.heap.live, ∃ r ∈ s.blockList, s.anchors r.val.anchor = some a

/-- At start-up there is nothing to keep in order. -/
theorem linked_initial {anchors : FlexPtr → Option Addr} : Linked fits (initial anchors) where
  addrs_nodup := List.nodup_nil
  mem_records := fun _ => by simp [initial]
  anchor_inj := fun r hr => by simp [initial] at hr
  anchored := fun r hr => by simp [initial] at hr
  block_inj := fun r hr => by simp [initial] at hr
  owned := fun a ha => by simp [initial] at ha

namespace Linked

/-- A record that the search finds is where it should be. -/
theorem located_of_found (hi : Linked fits s) (h : findAnchor anchor s = some pfr) :
    ∃ a, Located s anchor pfr a ∧ fits pfr.val.size (s.heap.bytes a).length := by
  have hmem := mem_of_findAnchor h
  have hanchor := anchor_of_findAnchor h
  obtain ⟨a, ha, hholds, hfits⟩ := hi.anchored pfr hmem
  exact ⟨a, ⟨h, (hi.mem_records _).mpr (mem_addrs_of_mem hmem), hanchor ▸ hholds, ha⟩, hfits⟩

/-- The search finds the one record of an anchor. -/
theorem findAnchor_of_mem (hi : Linked fits s) {r : Item PseudoFlexRecord}
    (hr : r ∈ s.blockList) : findAnchor r.val.anchor s = some r := by
  obtain ⟨pfr, hf⟩ := exists_findAnchor ⟨r, hr, rfl⟩
  rw [hf, hi.anchor_inj pfr (mem_of_findAnchor hf) r hr (anchor_of_findAnchor hf)]

/-- An anchor names one record. -/
theorem anchor_eq_iff (hi : Linked fits s) (h : Located s anchor pfr a)
    {r : Item PseudoFlexRecord} (hr : r ∈ s.blockList) : r.val.anchor = anchor ↔ r = pfr := by
  have hpfr := mem_of_findAnchor h.found
  have hanchor := anchor_of_findAnchor h.found
  constructor
  · intro he
    exact hi.anchor_inj r hr pfr hpfr (he.trans hanchor.symm)
  · rintro rfl
    exact hanchor

/-- One record holds a block. -/
theorem holds_iff (hi : Linked fits s) (h : Located s anchor pfr a)
    {r : Item PseudoFlexRecord} (hr : r ∈ s.blockList) :
    s.anchors r.val.anchor = some a ↔ r = pfr := by
  have hpfr := mem_of_findAnchor h.found
  have hanchor := anchor_of_findAnchor h.found
  constructor
  · intro hh
    exact hi.block_inj r hr pfr hpfr (by rw [hh, hanchor, h.holds])
  · rintro rfl
    rw [hanchor, h.holds]

/-- **Linking a new block** at an anchor that no record names. -/
theorem link (hi : Linked fits s) (hp : p ∉ s.records) (hb : b ∉ s.heap.live)
    (ha : ¬ Registered anchor s) (hc : fits n c.length) :
    Linked fits (s.link p b anchor n c) := by
  -- the old records' anchors and blocks are out of the new ones' way
  have hother : ∀ r ∈ s.blockList, r.val.anchor ≠ anchor := fun r hr he => ha ⟨r, hr, he⟩
  have hkeep : ∀ r ∈ s.blockList, (s.link p b anchor n c).anchors r.val.anchor =
      s.anchors r.val.anchor := fun r hr => State.link_anchors_of_ne (hother r hr)
  have hself : (s.link p b anchor n c).anchors anchor = some b := State.link_anchors_self
  have hneb : ∀ r ∈ s.blockList, s.anchors r.val.anchor ≠ some b := by
    intro r hr he
    obtain ⟨a, ha, hh, -⟩ := hi.anchored r hr
    exact hb (Option.some.inj (hh.symm.trans he) ▸ ha)
  constructor
  · exact List.nodup_cons.mpr ⟨fun hm => hp ((hi.mem_records p).mpr hm), hi.addrs_nodup⟩
  · intro q
    simp only [State.link, Finset.mem_insert, addrs_cons, List.mem_cons, hi.mem_records]
  · rintro r (_ | ⟨_, hr⟩) r' (_ | ⟨_, hr'⟩) he
    · rfl
    · exact absurd he.symm (hother r' hr')
    · exact absurd he (hother r hr)
    · exact hi.anchor_inj r hr r' hr' he
  · rintro r (_ | ⟨_, hr⟩)
    · exact ⟨b, Finset.mem_insert_self b _, hself, by simp [State.link, hc]⟩
    · obtain ⟨a, ha, hh, hlen⟩ := hi.anchored r hr
      refine ⟨a, Finset.mem_insert_of_mem ha, by rw [hkeep r hr]; exact hh, ?_⟩
      have hab : a ≠ b := fun he => hb (he ▸ ha)
      rw [State.link, Heap.put_bytes_of_ne hab]
      exact hlen
  · rintro r (_ | ⟨_, hr⟩) r' (_ | ⟨_, hr'⟩) he
    · rfl
    · rw [hself, hkeep r' hr'] at he
      exact absurd he.symm (hneb r' hr')
    · rw [hself, hkeep r hr] at he
      exact absurd he (hneb r hr)
    · rw [hkeep r hr, hkeep r' hr'] at he
      exact hi.block_inj r hr r' hr' he
  · intro a ha
    rcases Finset.mem_insert.mp ha with rfl | ha
    · exact ⟨_, List.mem_cons_self, hself⟩
    · obtain ⟨r, hr, hh⟩ := hi.owned a ha
      exact ⟨r, List.mem_cons_of_mem _ hr, by rw [hkeep r hr]; exact hh⟩

/-- **Unlinking a block.** -/
theorem unlink (hi : Linked fits s) (h : Located s anchor pfr a) :
    Linked fits (s.unlink pfr anchor a) := by
  have hpfr := mem_of_findAnchor h.found
  have hmem : ∀ r, r ∈ (s.unlink pfr anchor a).blockList ↔ r ∈ s.blockList ∧ r ≠ pfr := by
    intro r
    rw [State.unlink, mem_removeItem hi.addrs_nodup]
    refine and_congr_right fun hr => not_congr ⟨?_, fun he => he ▸ rfl⟩
    exact eq_of_addr_eq hi.addrs_nodup hr hpfr
  have hkeep : ∀ r ∈ s.blockList, r ≠ pfr → (s.unlink pfr anchor a).anchors r.val.anchor =
      s.anchors r.val.anchor := fun r hr hne =>
    State.unlink_anchors_of_ne (mt (hi.anchor_eq_iff h hr).mp hne)
  constructor
  · exact nodup_addrs_removeItem hi.addrs_nodup
  · intro q
    rw [State.unlink, addrs_removeItem, hi.addrs_nodup.mem_erase_iff, Finset.mem_erase,
      hi.mem_records]
  · intro r hr r' hr'
    exact hi.anchor_inj r ((hmem r).mp hr).1 r' ((hmem r').mp hr').1
  · intro r hr
    obtain ⟨hr, hne⟩ := (hmem r).mp hr
    obtain ⟨a', ha', hh, hlen⟩ := hi.anchored r hr
    -- two records that hold one block are one record
    have hne' : a' ≠ a := fun he => hne ((hi.holds_iff h hr).mp (he ▸ hh))
    exact ⟨a', Finset.mem_erase.mpr ⟨hne', ha'⟩, by rw [hkeep r hr hne]; exact hh, hlen⟩
  · intro r hr r' hr' he
    obtain ⟨hr, hne⟩ := (hmem r).mp hr
    obtain ⟨hr', hne'⟩ := (hmem r').mp hr'
    rw [hkeep r hr hne, hkeep r' hr' hne'] at he
    exact hi.block_inj r hr r' hr' he
  · intro a' ha'
    obtain ⟨hne, ha'⟩ := Finset.mem_erase.mp ha'
    obtain ⟨r, hr, hh⟩ := hi.owned a' ha'
    have hrp : r ≠ pfr := fun he =>
      hne (Option.some.inj (hh.symm.trans ((hi.holds_iff h hr).mpr he)))
    exact ⟨r, (hmem r).mpr ⟨hr, hrp⟩, by rw [hkeep r hr hrp]; exact hh⟩

/-- What resizing does to the records: the size of one of them. -/
theorem mem_resized {r : Item PseudoFlexRecord} (hi : Linked fits s)
    (h : Located s anchor pfr a) :
    r ∈ (s.resized pfr anchor a b n c).blockList ↔
      r = ⟨pfr.addr, { size := n, anchor := anchor }⟩ ∨ r ∈ s.blockList ∧ r ≠ pfr := by
  have hpfr := mem_of_findAnchor h.found
  have hanchor := anchor_of_findAnchor h.found
  rw [State.resized, State.setBlock, mem_modifyItem_of_mem hi.addrs_nodup hpfr, hanchor]

/-- What reanchoring does to the records: the anchor of one of them. -/
theorem mem_rename {r : Item PseudoFlexRecord} (hi : Linked fits s) (h : Located s from_ pfr a) :
    r ∈ (s.rename pfr to_ from_ a).blockList ↔
      r = ⟨pfr.addr, { size := pfr.val.size, anchor := to_ }⟩ ∨ r ∈ s.blockList ∧ r ≠ pfr := by
  have hpfr := mem_of_findAnchor h.found
  rw [State.rename, mem_modifyItem_of_mem hi.addrs_nodup hpfr]

/-- **Changing one record**, and the block of it: what both resizing and
reanchoring come to. -/
theorem changed {s' : State} {new : Item PseudoFlexRecord} (hi : Linked fits s)
    (h : Located s anchor pfr a) (haddrs : addrs s'.blockList = addrs s.blockList)
    (hrecords : s'.records = s.records)
    (hmem : ∀ r, r ∈ s'.blockList ↔ r = new ∨ r ∈ s.blockList ∧ r ≠ pfr)
    (hother : ∀ r ∈ s.blockList, r ≠ pfr → r.val.anchor ≠ new.val.anchor)
    (hself : s'.anchors new.val.anchor = some b)
    (hfits : fits new.val.size (s'.heap.bytes b).length)
    (hkeep : ∀ r ∈ s.blockList, r ≠ pfr → s'.anchors r.val.anchor = s.anchors r.val.anchor)
    (hlive : s'.heap.live = insert b (s.heap.live.erase a)) (hb : b ∉ s.heap.live.erase a)
    (hbytes : ∀ a' ≠ b, s'.heap.bytes a' = s.heap.bytes a') : Linked fits s' := by
  -- the other records' blocks are neither the old block nor the new one
  have hblock : ∀ r ∈ s.blockList, r ≠ pfr → ∀ a', s.anchors r.val.anchor = some a' →
      a' ∈ s.heap.live.erase a ∧ a' ≠ b := by
    intro r hr hne a' hh
    obtain ⟨a'', ha'', hh', -⟩ := hi.anchored r hr
    obtain rfl := Option.some.inj (hh'.symm.trans hh)
    have hin : a'' ∈ s.heap.live.erase a := Finset.mem_erase.mpr
      ⟨fun he => hne ((hi.holds_iff h hr).mp (he ▸ hh')), ha''⟩
    exact ⟨hin, fun he => hb (he ▸ hin)⟩
  constructor
  · rw [haddrs]
    exact hi.addrs_nodup
  · intro q
    rw [haddrs, hrecords]
    exact hi.mem_records q
  · intro r hr r' hr' he
    rcases (hmem r).mp hr with rfl | ⟨hr, hne⟩ <;> rcases (hmem r').mp hr' with rfl | ⟨hr', hne'⟩
    · rfl
    · exact absurd he.symm (hother r' hr' hne')
    · exact absurd he (hother r hr hne)
    · exact hi.anchor_inj r hr r' hr' he
  · intro r hr
    rcases (hmem r).mp hr with rfl | ⟨hr, hne⟩
    · exact ⟨b, by rw [hlive]; exact Finset.mem_insert_self b _, hself, hfits⟩
    · obtain ⟨a', ha', hh, hlen⟩ := hi.anchored r hr
      obtain ⟨hin, hab⟩ := hblock r hr hne a' hh
      refine ⟨a', ?_, by rw [hkeep r hr hne]; exact hh, by rw [hbytes a' hab]; exact hlen⟩
      rw [hlive]
      exact Finset.mem_insert_of_mem hin
  · intro r hr r' hr' he
    rcases (hmem r).mp hr with rfl | ⟨hr, hne⟩ <;> rcases (hmem r').mp hr' with rfl | ⟨hr', hne'⟩
    · rfl
    · rw [hself, hkeep r' hr' hne'] at he
      exact absurd rfl (hblock r' hr' hne' b he.symm).2
    · rw [hself, hkeep r hr hne] at he
      exact absurd rfl (hblock r hr hne b he).2
    · rw [hkeep r hr hne, hkeep r' hr' hne'] at he
      exact hi.block_inj r hr r' hr' he
  · intro a' ha'
    rw [hlive] at ha'
    rcases Finset.mem_insert.mp ha' with rfl | ha'
    · exact ⟨_, (hmem _).mpr (Or.inl rfl), hself⟩
    · obtain ⟨hne, ha'⟩ := Finset.mem_erase.mp ha'
      obtain ⟨r, hr, hh⟩ := hi.owned a' ha'
      have hrp : r ≠ pfr := fun he =>
        hne (Option.some.inj (hh.symm.trans ((hi.holds_iff h hr).mpr he)))
      exact ⟨r, (hmem r).mpr (Or.inr ⟨hr, hrp⟩), by rw [hkeep r hr hrp]; exact hh⟩

/-- **Replacing a block** by one elsewhere, of another size. -/
theorem resized (hi : Linked fits s) (h : Located s anchor pfr a)
    (hb : b ∉ s.heap.live.erase a) (hc : fits n c.length) :
    Linked fits (s.resized pfr anchor a b n c) := by
  have hother : ∀ r ∈ s.blockList, r ≠ pfr → r.val.anchor ≠ anchor := fun r hr hne =>
    mt (hi.anchor_eq_iff h hr).mp hne
  have haddrs : addrs (s.resized pfr anchor a b n c).blockList = addrs s.blockList := by
    rw [State.resized, State.setBlock, addrs_modifyItem]
  have hfits : fits n ((s.resized pfr anchor a b n c).heap.bytes b).length := by
    rw [State.resized, State.setBlock, Heap.put_bytes_self]
    exact hc
  refine hi.changed h haddrs rfl (fun r => hi.mem_resized h) hother State.resized_anchors_self
    hfits (fun r hr hne => State.resized_anchors_of_ne (hother r hr hne)) rfl hb fun a' hab => ?_
  rw [State.resized, State.setBlock, Heap.put_bytes_of_ne hab, Heap.drop_bytes]

/-- **Renaming an anchor** to one that no record names. -/
theorem rename (hi : Linked fits s) (h : Located s from_ pfr a)
    (hfits : fits pfr.val.size (s.heap.bytes a).length) (hto : ¬ Registered to_ s) :
    Linked fits (s.rename pfr to_ from_ a) := by
  have hpfr := mem_of_findAnchor h.found
  have hanchor := anchor_of_findAnchor h.found
  have hne_to : ∀ r ∈ s.blockList, r.val.anchor ≠ to_ := fun r hr he => hto ⟨r, hr, he⟩
  have hne_from : ∀ r ∈ s.blockList, r ≠ pfr → r.val.anchor ≠ from_ := fun r hr hne =>
    mt (hi.anchor_eq_iff h hr).mp hne
  have hdiff : to_ ≠ from_ := fun he => hne_to pfr hpfr (hanchor.trans he.symm)
  have haddrs : addrs (s.rename pfr to_ from_ a).blockList = addrs s.blockList := by
    rw [State.rename, addrs_modifyItem]
  have hlive : (s.rename pfr to_ from_ a).heap.live = insert a (s.heap.live.erase a) :=
    (Finset.insert_erase h.live).symm
  exact hi.changed h haddrs rfl (fun r => hi.mem_rename h) (fun r hr _ => hne_to r hr)
    (State.rename_anchors_to hdiff) hfits
    (fun r hr hne => State.rename_anchors_of_ne (hne_to r hr) (hne_from r hr hne)) hlive
    (Finset.notMem_erase a _) fun _ _ => rfl

end Linked

/-! ## The size is the length -/

/-- The tie that the interface promises. -/
def IsLength (size : ℤ) (n : ℕ) : Prop := (n : ℤ) = size ∧ size ≤ intMax

/-- **The representation invariant**: the size on record is the length of the
block. -/
def Inv (s : State) : Prop := Linked IsLength s

theorem inv_initial {anchors : FlexPtr → Option Addr} : Inv (initial anchors) := linked_initial

namespace Inv

theorem linked (hi : Inv s) : Linked IsLength s := hi

/-- **Under the invariant a record that the search finds is in order.** -/
theorem anchored_of_found (hi : Inv s) (h : findAnchor anchor s = some pfr) :
    ∃ a, Anchored s anchor pfr a := by
  obtain ⟨a, hl, hlen, hle⟩ := hi.linked.located_of_found h
  exact ⟨a, hl.found, hl.record_live, hl.holds, hl.live, hlen, hle⟩

/-- So every registered anchor is. -/
theorem anchored_of_registered (hi : Inv s) (h : Registered anchor s) :
    ∃ pfr a, Anchored s anchor pfr a := by
  obtain ⟨pfr, hf⟩ := exists_findAnchor h
  exact ⟨pfr, hi.anchored_of_found hf⟩

theorem link (hi : Inv s) (hp : p ∉ s.records) (hb : b ∉ s.heap.live)
    (ha : ¬ Registered anchor s) (hc : (c.length : ℤ) = n) (hn : n ≤ intMax) :
    Inv (s.link p b anchor n c) :=
  hi.linked.link hp hb ha ⟨hc, hn⟩

theorem unlink (hi : Inv s) (h : Anchored s anchor pfr a) : Inv (s.unlink pfr anchor a) :=
  hi.linked.unlink h.located

theorem replace (hi : Inv s) (h : Anchored s anchor pfr a) (hb : b ∉ s.heap.live.erase a)
    (hc : (c.length : ℤ) ≤ intMax) : Inv (s.replace pfr anchor a b c) :=
  hi.linked.resized h.located hb ⟨rfl, hc⟩

theorem rename (hi : Inv s) (h : Anchored s from_ pfr a) (hto : ¬ Registered to_ s) :
    Inv (s.rename pfr to_ from_ a) :=
  hi.linked.rename h.located ⟨h.length_eq, h.size_le⟩ hto

end Inv

end Flex

end CBPseudo
