import GameServer.Lib.Table
import GameServer.Scene.SnapshotDao

/-!
# The bag of a player

Stacks by item, each with its slot. Slots are given out by a counter, which only
an emptied bag starts again. A bag carries the limits that it keeps to, so that
every operation shows that it keeps to them.
-/

namespace Scene

/-- The limits of a bag. -/
structure Bag.Sound (capacity nextSlot : Nat) (items : Table UInt32 ItemStack) : Prop where
  capacity_pos : 0 < capacity
  capacity_le : capacity ≤ 65536
  nextSlot_le : nextSlot ≤ 65536
  used_le : items.size ≤ capacity
  stack : ∀ {id st}, items.lookup id = some st →
    st.itemId = id ∧ id ≠ 0 ∧ st.count ≠ 0 ∧ st.slot.toNat < nextSlot
  slots : ∀ {i j a b}, items.lookup i = some a → items.lookup j = some b → a.slot = b.slot → i = j

/-- `items` is the map from an item to its stack. -/
structure Bag where
  capacity : Nat
  nextSlot : Nat
  items : Table UInt32 ItemStack
  sound : Bag.Sound capacity nextSlot items

namespace Bag

section Sound

variable {capacity nextSlot : Nat} {items : Table UInt32 ItemStack}

theorem Sound.empty (hpos : 0 < capacity) (hle : capacity ≤ 65536) : Sound capacity 0 ∅ where
  capacity_pos := hpos
  capacity_le := hle
  nextSlot_le := Nat.zero_le _
  used_le := Nat.zero_le _
  stack := fun h => nomatch h
  slots := fun h => nomatch h

/-- The count of a stack changes. -/
theorem Sound.setCount (h : Sound capacity nextSlot items) {id : UInt32} {st : ItemStack}
    (hst : items.lookup id = some st) {count : UInt16} (hcount : count ≠ 0) :
    Sound capacity nextSlot (items.insert id { st with count }) where
  capacity_pos := h.capacity_pos
  capacity_le := h.capacity_le
  nextSlot_le := h.nextSlot_le
  used_le := by
    rw [Table.size_insert_of_lookup _ hst]
    exact h.used_le
  stack := by
    intro j b hb
    rw [Table.lookup_insert] at hb
    split at hb
    · rename_i hj
      obtain ⟨hid, hne, -, hslot⟩ := h.stack hst
      rw [← Option.some.inj hb, hj]
      exact ⟨hid, hne, hcount, hslot⟩
    · exact h.stack hb
  slots := by
    -- the stack keeps its slot
    have hold : ∀ {j b}, (items.insert id { st with count }).lookup j = some b →
        ∃ c, items.lookup j = some c ∧ c.slot = b.slot := by
      intro j b hb
      rw [Table.lookup_insert] at hb
      split at hb
      · rename_i hj
        exact ⟨st, hj ▸ hst, by rw [← Option.some.inj hb]⟩
      · exact ⟨b, hb, rfl⟩
    intro i j a b ha hb hslot
    obtain ⟨a', ha', hslota⟩ := hold ha
    obtain ⟨b', hb', hslotb⟩ := hold hb
    exact h.slots ha' hb' (hslota.trans (hslot.trans hslotb.symm))

/-- A new stack takes the next slot. -/
theorem Sound.addStack (h : Sound capacity nextSlot items) {id : UInt32}
    (hid : id ≠ 0) {count : UInt16} (hcount : count ≠ 0) (hroom : items.size < capacity) (hslot : nextSlot < 65536) :
    Sound capacity (nextSlot + 1)
      (items.insert id { itemId := id, count, slot := UInt16.ofNat nextSlot }) where
  capacity_pos := h.capacity_pos
  capacity_le := h.capacity_le
  nextSlot_le := hslot
  used_le := le_trans (Table.size_insert_le _ _ _) hroom
  stack := by
    intro j b hb
    rw [Table.lookup_insert] at hb
    split at hb
    · rename_i hj
      rw [← Option.some.inj hb, hj]
      refine ⟨rfl, hid, hcount, ?_⟩
      simp only [UInt16.toNat_ofNat', Nat.mod_eq_of_lt hslot]
      exact Nat.lt_succ_self _
    · obtain ⟨hkey, hne, hpos, hlt⟩ := h.stack hb
      exact ⟨hkey, hne, hpos, Nat.lt_succ_of_lt hlt⟩
  slots := by
    have hfree : ∀ {j b}, items.lookup j = some b → b.slot ≠ UInt16.ofNat nextSlot := by
      intro j b hb heq
      have hlt := (h.stack hb).2.2.2
      rw [heq, UInt16.toNat_ofNat', Nat.mod_eq_of_lt hslot] at hlt
      exact Nat.lt_irrefl _ hlt
    intro i j a b ha hb hab
    rw [Table.lookup_insert] at ha hb
    split at ha <;> split at hb
    · rename_i hi hj
      rw [hi, hj]
    · exact absurd (hab.symm.trans (by rw [← Option.some.inj ha])) (hfree hb)
    · exact absurd (hab.trans (by rw [← Option.some.inj hb])) (hfree ha)
    · exact h.slots ha hb hab

theorem Sound.erase (h : Sound capacity nextSlot items) (id : UInt32) :
    Sound capacity nextSlot (items.erase id) where
  capacity_pos := h.capacity_pos
  capacity_le := h.capacity_le
  nextSlot_le := h.nextSlot_le
  used_le := le_trans (Table.size_erase_le _ _) h.used_le
  stack := by
    intro j b hb
    rw [Table.lookup_erase] at hb
    split at hb
    · cases hb
    · exact h.stack hb
  slots := by
    intro i j a b ha hb
    rw [Table.lookup_erase] at ha hb
    split at ha
    · cases ha
    split at hb
    · cases hb
    exact h.slots ha hb

end Sound

/-- A bag as it is made. -/
def fresh : Bag := ⟨64, 0, ∅, .empty (by decide) (by decide)⟩

variable (b : Bag)

def used : Nat := b.items.size

def view : List ItemStack := bySlot (b.items.entries.map (·.2))

/-- `none` is an item that the bag does not take. -/
def addItem (itemId : UInt32) (num : UInt16) : Option Bag :=
  if hzero : itemId = 0 ∨ num = 0 then none
  else match hst : b.items.lookup itemId with
    | some st =>
      if hmax : 65535 < st.count.toNat + num.toNat then none
      else some
        { b with
          items := b.items.insert itemId { st with count := st.count + num }
          sound := b.sound.setCount hst (by
            intro hcount
            have hnat := congrArg UInt16.toNat hcount
            rw [UInt16.toNat_add, Nat.mod_eq_of_lt (by omega)] at hnat
            have hpos := UInt16.toNat_inj.not.mpr (not_or.mp hzero).2
            simp only [UInt16.toNat_zero] at hnat hpos
            omega) }
    | none =>
      if hfull : b.capacity ≤ b.used ∨ 65536 ≤ b.nextSlot then none
      else some
        { b with
          nextSlot := b.nextSlot + 1
          items := b.items.insert itemId
            { itemId, count := num, slot := UInt16.ofNat b.nextSlot }
          sound := b.sound.addStack (not_or.mp hzero).1 (not_or.mp hzero).2
            (Nat.lt_of_not_le (not_or.mp hfull).1) (Nat.lt_of_not_le (not_or.mp hfull).2) }

/-- `none` is an item that the bag does not have so many of. -/
def reduceItem (itemId : UInt32) (num : UInt16) : Option Bag :=
  if itemId = 0 ∨ num = 0 then none
  else match hst : b.items.lookup itemId with
    | none => none
    | some st =>
      if st.count < num then none
      else if hcount : st.count - num = 0 then
        some { b with items := b.items.erase itemId, sound := b.sound.erase itemId }
      else some
        { b with
          items := b.items.insert itemId { st with count := st.count - num }
          sound := b.sound.setCount hst hcount }

def countOf (itemId : UInt32) : UInt16 := ((b.items.lookup itemId).map (·.count)).getD 0

def clear : Bag :=
  { b with
    nextSlot := 0
    items := ∅
    sound := .empty b.sound.capacity_pos b.sound.capacity_le }

section Restore

/-- The loop of `restore`. -/
def restoreItems (nextSlot : Nat) :
    List ItemStack → List UInt16 → Table UInt32 ItemStack → Option (Table UInt32 ItemStack)
  | [], _, restored => some restored
  | item :: items, slots, restored =>
    if item.itemId = 0 ∨ item.count = 0 ∨ nextSlot ≤ item.slot.toNat ∨ item.slot ∈ slots ∨
        item.itemId ∈ restored then none
    else restoreItems nextSlot items (item.slot :: slots) (restored.insert item.itemId item)

theorem restoreItems_eq_some_iff {nextSlot : Nat} {items : List ItemStack} {slots : List UInt16}
    {t u : Table UInt32 ItemStack} :
    restoreItems nextSlot items slots t = some u ↔
      ((∀ item ∈ items, item.itemId ≠ 0 ∧ item.count ≠ 0 ∧ item.slot.toNat < nextSlot) ∧
        ((items.map (·.itemId)).Nodup ∧ ∀ item ∈ items, item.itemId ∉ t) ∧
        ((items.map (·.slot)).Nodup ∧ ∀ item ∈ items, item.slot ∉ slots)) ∧
      u.entries = (items.map fun item => ⟨item.itemId, item⟩).reverse ++ t.entries := by
  induction items generalizing slots t with
  | nil =>
    simp only [restoreItems, Option.some.injEq]
    exact ⟨fun h => by simp [h], fun h => AList.ext (by simpa using h.2.symm)⟩
  | cons item items ih =>
    simp only [restoreItems]
    split
    · rename_i hbad
      refine ⟨nofun, ?_⟩
      rintro ⟨⟨hvalid, ⟨-, hids⟩, -, hslots⟩, -⟩
      refine absurd hbad ?_
      obtain ⟨h1, h2, h3⟩ := hvalid item List.mem_cons_self
      simp only [not_or, Nat.not_le]
      exact ⟨h1, h2, h3, hslots item List.mem_cons_self, hids item List.mem_cons_self⟩
    · rename_i hgood
      simp only [not_or, Nat.not_le] at hgood
      obtain ⟨h1, h2, h3, h4, h5⟩ := hgood
      rw [ih, AList.entries_insert_of_notMem h5]
      simp only [forall_eq_or_imp, List.map_cons, List.nodup_cons, List.mem_map, not_exists,
        not_and, AList.mem_insert, not_or, List.mem_cons, List.reverse_cons, List.append_assoc,
        List.cons_append, List.nil_append]
      refine and_congr_left fun _ => ⟨?_, ?_⟩
      · rintro ⟨hvalid, ⟨hids, hfree⟩, hslots, hunused⟩
        exact ⟨⟨⟨h1, h2, h3⟩, hvalid⟩, ⟨⟨fun x hx => (hfree x hx).1, hids⟩, h5,
          fun x hx => (hfree x hx).2⟩, ⟨fun x hx => (hunused x hx).1, hslots⟩, h4,
          fun x hx => (hunused x hx).2⟩
      · rintro ⟨⟨-, hvalid⟩, ⟨⟨hne, hids⟩, -, hfree⟩, ⟨hslot, hslots⟩, -, hunused⟩
        exact ⟨hvalid, ⟨hids, fun x hx => ⟨hne x hx, hfree x hx⟩⟩, hslots,
          fun x hx => ⟨hslot x hx, hunused x hx⟩⟩

/-- The stacks that a loop has restored. -/
theorem lookup_restoreItems {nextSlot : Nat} {items : List ItemStack}
    {t : Table UInt32 ItemStack} (ht : restoreItems nextSlot items [] ∅ = some t) (id : UInt32)
    (st : ItemStack) : t.lookup id = some st ↔ st ∈ items ∧ st.itemId = id := by
  obtain ⟨-, hentries⟩ := restoreItems_eq_some_iff.mp ht
  rw [← Table.mem_entries, hentries]
  simp only [AList.empty_entries, List.append_nil, List.mem_reverse, List.mem_map, Sigma.mk.injEq]
  constructor
  · rintro ⟨item, hitem, rfl, hst⟩
    rw [← eq_of_heq hst]
    exact ⟨hitem, rfl⟩
  · rintro ⟨hst, rfl⟩
    exact ⟨st, hst, rfl, HEq.rfl⟩

theorem Sound.restored {capacity nextSlot : Nat} {items : List ItemStack}
    {t : Table UInt32 ItemStack}
    (hmeta : ¬ (capacity = 0 ∨ 65536 < capacity ∨ 65536 < nextSlot ∨ capacity < items.length))
    (ht : restoreItems nextSlot items [] ∅ = some t) : Sound capacity nextSlot t := by
  obtain ⟨⟨hvalid, -, hslots, -⟩, hentries⟩ := restoreItems_eq_some_iff.mp ht
  simp only [not_or, Nat.not_lt] at hmeta
  obtain ⟨hpos, hle, hnext, hlen⟩ := hmeta
  exact {
    capacity_pos := Nat.pos_of_ne_zero hpos
    capacity_le := hle
    nextSlot_le := hnext
    used_le := by simpa [Table.size, hentries] using hlen
    stack := by
      intro id st hst
      obtain ⟨hitem, rfl⟩ := (lookup_restoreItems ht id st).mp hst
      exact ⟨rfl, hvalid st hitem⟩
    slots := by
      intro i j a b ha hb hab
      obtain ⟨hitem, rfl⟩ := (lookup_restoreItems ht i a).mp ha
      obtain ⟨hitem', rfl⟩ := (lookup_restoreItems ht j b).mp hb
      rw [List.inj_on_of_nodup_map hslots hitem hitem' hab] }

/-- `none` is a state that no bag has. -/
def restore (capacity nextSlot : Nat) (items : List ItemStack) : Option Bag :=
  if hmeta : capacity = 0 ∨ 65536 < capacity ∨ 65536 < nextSlot ∨ capacity < items.length then none
  else match hitems : restoreItems nextSlot items [] ∅ with
    | none => none
    | some t => some ⟨capacity, nextSlot, t, .restored hmeta hitems⟩

/-- A valid list of stacks is restored as it is. -/
theorem restore_valid {capacity nextSlot : Nat} {items : List ItemStack}
    (hmeta : ¬ (capacity = 0 ∨ 65536 < capacity ∨ 65536 < nextSlot ∨ capacity < items.length))
    (hvalid : PlayerSnapshotDao.validItems nextSlot items = true) :
    ∃ b, restore capacity nextSlot items = some b ∧ b.capacity = capacity ∧
      b.nextSlot = nextSlot ∧
      ∀ id st, b.items.lookup id = some st ↔ st ∈ items ∧ st.itemId = id := by
  simp only [PlayerSnapshotDao.validItems, Bool.decide_and, Bool.and_eq_true, List.all_eq_true,
    decide_eq_true_eq] at hvalid
  obtain ⟨hall, hids, hslots⟩ := hvalid
  have hkeys : (items.map fun item =>
      (⟨item.itemId, item⟩ : Σ _ : UInt32, ItemStack)).reverse.NodupKeys := by
    unfold List.NodupKeys List.keys
    rw [List.map_reverse, List.map_map, List.nodup_reverse]
    exact hids
  obtain ⟨t, ht⟩ : ∃ t, restoreItems nextSlot items [] ∅ = some t :=
    ⟨⟨_, hkeys⟩, restoreItems_eq_some_iff.mpr
      ⟨⟨fun item hitem => ⟨(hall item hitem).1, (hall item hitem).2.1, (hall item hitem).2.2⟩,
        ⟨hids, fun _ _ => AList.notMem_empty _⟩, hslots, fun _ _ => List.not_mem_nil⟩, by simp⟩⟩
  refine ⟨⟨capacity, nextSlot, t, .restored hmeta ht⟩, ?_, rfl, rfl, lookup_restoreItems ht⟩
  unfold restore
  rw [dif_neg hmeta]
  split
  · rename_i hnone
    exact absurd (hnone.symm.trans ht) nofun
  · rename_i u hu
    have heq : u = t := Option.some.inj (hu.symm.trans ht)
    subst heq
    rfl

end Restore

section View

variable {b}

theorem mem_view {st : ItemStack} : st ∈ b.view ↔ b.items.lookup st.itemId = some st := by
  unfold view bySlot
  rw [List.mem_mergeSort, ← Table.mem_entries]
  constructor
  · intro hst
    obtain ⟨⟨id, st⟩, hrow, rfl⟩ := List.mem_map.mp hst
    have hid : st.itemId = id := (b.sound.stack (Table.lookup_of_mem hrow)).1
    subst hid
    exact hrow
  · exact fun hrow => List.mem_map_of_mem hrow

theorem length_view : b.view.length = b.used := by
  unfold view bySlot used Table.size
  rw [List.length_mergeSort, List.length_map]

/-- The stacks of a bag are ones that can be saved and restored. -/
theorem validItems_view : PlayerSnapshotDao.validItems b.nextSlot b.view = true := by
  have hperm : b.view.Perm (b.items.entries.map (·.2)) := List.mergeSort_perm _ _
  have hkey : ∀ r ∈ b.items.entries, r.2.itemId = r.1 := fun r hr =>
    (b.sound.stack (Table.lookup_of_mem hr)).1
  simp only [PlayerSnapshotDao.validItems, Bool.decide_and, Bool.and_eq_true, List.all_eq_true,
    decide_eq_true_eq]
  refine ⟨fun st hst => ?_, ?_, ?_⟩
  · obtain ⟨-, hid, hcount, hslot⟩ := b.sound.stack (mem_view.mp hst)
    exact ⟨hid, hcount, hslot⟩
  · rw [(hperm.map _).nodup_iff, List.map_map]
    have hmap : b.items.entries.map ((·.itemId) ∘ (·.2)) = b.items.entries.map (·.1) :=
      List.map_congr_left hkey
    rw [hmap]
    exact b.items.nodupKeys
  · rw [(hperm.map _).nodup_iff, List.map_map]
    refine List.Nodup.map_on (fun r hr q hq hslot => ?_) (List.NodupKeys.nodup b.items.nodupKeys)
    have hkeys : r.1 = q.1 :=
      b.sound.slots (Table.lookup_of_mem hr) (Table.lookup_of_mem hq) hslot
    have hlookup := (Table.lookup_of_mem hr).symm.trans (hkeys ▸ Table.lookup_of_mem hq)
    exact Sigma.ext hkeys (heq_of_eq (Option.some.inj hlookup))

end View

/-- Two bags that hold the same, in whatever order. -/
structure Same (a b : Bag) : Prop where
  capacity : a.capacity = b.capacity
  nextSlot : a.nextSlot = b.nextSlot
  items : ∀ id, a.items.lookup id = b.items.lookup id

/-- A bag is restored from its stacks. -/
theorem restore_view : ∃ b', restore b.capacity b.nextSlot b.view = some b' ∧ Same b' b := by
  obtain ⟨b', hb', hcapacity, hnextSlot, hitems⟩ := @restore_valid b.capacity b.nextSlot b.view
    (by
      have hpos := b.sound.capacity_pos
      have hle := b.sound.capacity_le
      have hnext := b.sound.nextSlot_le
      have hused := b.sound.used_le
      rw [length_view, used]
      omega) validItems_view
  refine ⟨b', hb', hcapacity, hnextSlot, fun id => Option.ext fun st => ?_⟩
  rw [hitems, mem_view]
  constructor
  · rintro ⟨hst, rfl⟩
    exact hst
  · intro hst
    obtain ⟨hid, -⟩ := b.sound.stack hst
    exact ⟨hid.symm ▸ hst, hid⟩

end Bag

end Scene
