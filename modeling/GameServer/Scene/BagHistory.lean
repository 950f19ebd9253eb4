import GameServer.Scene.Bag

/-!
# The history of a bag

A bag is compared with a ledger that only adds and subtracts what the bag has taken and
given, and counts the stacks that were opened. The counts are those of the ledger. What
keeps a bag from taking a new item is the room it has, or that it has opened as many
stacks as there are slots: a stack that is used up does not give its slot back.
-/

namespace Scene

namespace Bag

inductive Op where
  | addItem (itemId : UInt32) (num : UInt16)
  | reduceItem (itemId : UInt32) (num : UInt16)
  | clear
  | restore (capacity nextSlot : Nat) (items : List ItemStack)

/-- `none` is an operation that the bag refuses. -/
def perform (b : Bag) : Op → Option Bag
  | .addItem itemId num => b.addItem itemId num
  | .reduceItem itemId num => b.reduceItem itemId num
  | .clear => some b.clear
  | .restore capacity nextSlot items => restore capacity nextSlot items

/-- What was added of each item less what was removed, and the stacks that were opened, both since
the bag was cleared or restored. -/
structure Ledger where
  net : UInt32 → Int := fun _ => 0
  opened : Nat := 0

namespace Ledger

/-- An operation that the bag has accepted. -/
def book (l : Ledger) : Op → Ledger
  | .addItem itemId num =>
    { net := Function.update l.net itemId (l.net itemId + num.toNat)
      opened := if l.net itemId = 0 then l.opened + 1 else l.opened }
  | .reduceItem itemId num => { l with net := Function.update l.net itemId (l.net itemId - num.toNat) }
  | .clear => {}
  | .restore _ nextSlot items =>
    { net := fun itemId => ((items.filter (·.itemId = itemId)).map fun st => (st.count.toNat : Int)).sum
      opened := nextSlot }

end Ledger

def step (s : Bag × Ledger) (op : Op) : Bag × Ledger :=
  match s.1.perform op with
  | none => s
  | some b => (b, s.2.book op)

/-- A fresh bag and an empty ledger after a history. -/
def history (ops : List Op) : Bag × Ledger := ops.foldl step (fresh, {})

variable {b b' : Bag} {itemId : UInt32} {num : UInt16}

/-- How an item is added. -/
inductive Added (b : Bag) (itemId : UInt32) (num : UInt16) (b' : Bag) : Prop
  | stacked (st : ItemStack) (hst : b.items.lookup itemId = some st)
      (hmax : st.count.toNat + num.toNat ≤ 65535) (hslot : b'.nextSlot = b.nextSlot)
      (hitems : b'.items = b.items.insert itemId { st with count := st.count + num })
  | opened (hnone : b.items.lookup itemId = none) (hslot : b'.nextSlot = b.nextSlot + 1)
      (hitems : b'.items =
        b.items.insert itemId { itemId, count := num, slot := UInt16.ofNat b.nextSlot })

theorem addItem_added (h : b.addItem itemId num = some b') : Added b itemId num b' := by
  unfold addItem at h
  split at h
  · cases h
  split at h
  · rename_i st hst
    split at h
    · cases h
    · rename_i hmax
      cases h
      exact .stacked st hst (Nat.le_of_not_lt hmax) rfl rfl
  · rename_i hnone
    split at h
    · cases h
    · cases h
      exact .opened hnone rfl rfl

/-- An item that is not in the bag is taken when there is room and a slot is left. -/
theorem addItem_isSome_iff (hid : itemId ≠ 0) (hnum : num ≠ 0)
    (hnone : b.items.lookup itemId = none) :
    (b.addItem itemId num).isSome = true ↔ b.used < b.capacity ∧ b.nextSlot < 65536 := by
  unfold addItem
  rw [dif_neg (not_or.mpr ⟨hid, hnum⟩)]
  split
  · rename_i st hst
    cases hnone.symm.trans hst
  · split
    · rename_i hfull
      simp only [Option.isSome_none, Bool.false_eq_true, false_iff]
      omega
    · rename_i hroom
      simp only [Option.isSome_some, true_iff]
      omega

/-- How an item is removed. -/
structure Reduced (b : Bag) (itemId : UInt32) (num : UInt16) (b' : Bag) (st : ItemStack) : Prop where
  found : b.items.lookup itemId = some st
  enough : num.toNat ≤ st.count.toNat
  nextSlot : b'.nextSlot = b.nextSlot
  items : b'.items =
    if st.count - num = 0 then b.items.erase itemId
    else b.items.insert itemId { st with count := st.count - num }

theorem reduceItem_reduced (h : b.reduceItem itemId num = some b') :
    ∃ st, Reduced b itemId num b' st := by
  unfold reduceItem at h
  split at h
  · cases h
  split at h
  · cases h
  rename_i st hst
  split at h
  · cases h
  rename_i henough
  have hle : num.toNat ≤ st.count.toNat := Nat.le_of_not_lt henough
  split at h
  · rename_i hzero
    cases h
    exact ⟨st, hst, hle, rfl, (if_pos hzero).symm⟩
  · rename_i hzero
    cases h
    exact ⟨st, hst, hle, rfl, (if_neg hzero).symm⟩

section Counts

theorem countOf_of_lookup {st : ItemStack} (h : b.items.lookup itemId = some st) :
    b.countOf itemId = st.count := by rw [countOf, h]; rfl

theorem countOf_of_none (h : b.items.lookup itemId = none) : b.countOf itemId = 0 := by
  rw [countOf, h]; rfl

/-- An item is in the bag if the bag has any of it. -/
theorem countOf_eq_zero_iff : b.countOf itemId = 0 ↔ b.items.lookup itemId = none := by
  constructor
  · intro hzero
    cases hst : b.items.lookup itemId with
    | none => rfl
    | some st =>
      rw [countOf_of_lookup hst] at hzero
      exact absurd hzero (b.sound.stack hst).2.2.1
  · exact countOf_of_none

theorem Added.countOf (h : Added b itemId num b') (id : UInt32) :
    (b'.countOf id).toNat = (b.countOf id).toNat + if id = itemId then num.toNat else 0 := by
  unfold Bag.countOf
  cases h with
  | stacked st hst hmax hslot hitems =>
    rw [hitems, Table.lookup_insert]
    by_cases hid : id = itemId
    · subst hid
      rw [if_pos rfl, if_pos rfl, hst]
      exact (UInt16.toNat_add st.count num).trans (Nat.mod_eq_of_lt (by omega))
    · rw [if_neg hid, if_neg hid, Nat.add_zero]
  | opened hnone hslot hitems =>
    rw [hitems, Table.lookup_insert]
    by_cases hid : id = itemId
    · subst hid
      rw [if_pos rfl, if_pos rfl, hnone]
      simp
    · rw [if_neg hid, if_neg hid, Nat.add_zero]

theorem Reduced.countOf {st : ItemStack} (h : Reduced b itemId num b' st) (id : UInt32) :
    (b'.countOf id).toNat + (if id = itemId then num.toNat else 0) = (b.countOf id).toNat := by
  have hsub : (st.count - num).toNat = st.count.toNat - num.toNat :=
    UInt16.toNat_sub_of_le st.count num h.enough
  have henough := h.enough
  unfold Bag.countOf
  rw [h.items]
  by_cases hid : id = itemId
  · subst hid
    rw [if_pos rfl, h.found]
    split
    · rename_i hzero
      rw [Table.lookup_erase, if_pos rfl]
      have hnat := congrArg UInt16.toNat hzero
      rw [hsub] at hnat
      simp only [UInt16.toNat_zero] at hnat
      simp only [Option.map_none, Option.getD_none, UInt16.toNat_zero, Option.map_some,
        Option.getD_some]
      omega
    · rw [Table.lookup_insert, if_pos rfl]
      simp only [Option.map_some, Option.getD_some, hsub]
      omega
  · rw [if_neg hid, Nat.add_zero]
    split
    · rw [Table.lookup_erase, if_neg hid]
    · rw [Table.lookup_insert, if_neg hid]

/-- Among stacks of different items there is one of an item at most. -/
theorem filter_itemId {items : List ItemStack} (hids : (items.map (·.itemId)).Nodup)
    {st : ItemStack} (hst : st ∈ items) : (items.filter (·.itemId = st.itemId)) = [st] := by
  induction items with
  | nil => cases hst
  | cons a items ih =>
    rw [List.map_cons, List.nodup_cons] at hids
    rw [List.filter_cons]
    rcases List.mem_cons.mp hst with rfl | hmem
    · have hnone : items.filter (·.itemId = st.itemId) = [] := by
        refine List.filter_eq_nil_iff.mpr fun c hc heq => hids.1 ?_
        rw [← of_decide_eq_true heq]
        exact List.mem_map_of_mem hc
      rw [if_pos (decide_eq_true rfl), hnone]
    · have hne : a.itemId ≠ st.itemId := fun heq => hids.1 (heq ▸ List.mem_map_of_mem hmem)
      rw [if_neg (by simpa using hne), ih hids.2 hmem]

/-- A restored bag has of each item what its stacks add up to. -/
theorem restore_countOf {capacity nextSlot : Nat} {items : List ItemStack}
    (h : restore capacity nextSlot items = some b) (id : UInt32) :
    ((items.filter (·.itemId = id)).map fun st => (st.count.toNat : Int)).sum =
      ((b.countOf id).toNat : Int) := by
  unfold restore at h
  split at h
  · cases h
  split at h
  · cases h
  rename_i t ht
  cases h
  obtain ⟨⟨-, ⟨hids, -⟩, -⟩, -⟩ := restoreItems_eq_some_iff.mp ht
  have hlookup := lookup_restoreItems ht id
  unfold Bag.countOf
  dsimp only
  cases hst : t.lookup id with
  | none =>
    have hnone : items.filter (·.itemId = id) = [] := by
      refine List.filter_eq_nil_iff.mpr fun c hc heq => ?_
      cases hst.symm.trans ((hlookup c).mpr ⟨hc, of_decide_eq_true heq⟩)
    rw [hnone]
    rfl
  | some st =>
    obtain ⟨hmem, rfl⟩ := (hlookup st).mp hst
    rw [filter_itemId hids hmem]
    simp

end Counts

/-- The bag holds what the ledger says. -/
structure Booked (s : Bag × Ledger) : Prop where
  net : ∀ id, s.2.net id = ((s.1.countOf id).toNat : Int)
  opened : s.1.nextSlot = s.2.opened

theorem booked_fresh : Booked (fresh, {}) := ⟨fun _ => rfl, rfl⟩

theorem Booked.step {s : Bag × Ledger} (hs : Booked s) (op : Op) : Booked (Bag.step s op) := by
  obtain ⟨b, l⟩ := s
  obtain ⟨hnet, hopened⟩ := hs
  dsimp only at hnet hopened
  unfold Bag.step
  cases hb : b.perform op with
  | none => exact ⟨hnet, hopened⟩
  | some b' =>
    cases op with
    | addItem itemId num =>
      have hadded := addItem_added hb
      refine ⟨fun id => ?_, ?_⟩
      · have hcount := hadded.countOf id
        change Function.update l.net itemId (l.net itemId + num.toNat) id = _
        by_cases hid : id = itemId
        · subst hid
          rw [Function.update_self, hnet, hcount, if_pos rfl]
          rfl
        · rw [Function.update_of_ne hid, hnet, hcount, if_neg hid, Nat.add_zero]
      · change b'.nextSlot = if l.net itemId = 0 then l.opened + 1 else l.opened
        have hzero : l.net itemId = 0 ↔ b.items.lookup itemId = none := by
          rw [hnet, ← countOf_eq_zero_iff, ← UInt16.toNat_inj]
          exact Int.natCast_eq_zero
        cases hadded with
        | stacked st hst hmax hslot hitems =>
          have hsome : ¬ l.net itemId = 0 := fun h => by
            cases hst.symm.trans (hzero.mp h)
          rw [if_neg hsome, hslot, hopened]
        | opened hnone hslot hitems => rw [if_pos (hzero.mpr hnone), hslot, hopened]
    | reduceItem itemId num =>
      obtain ⟨st, hreduced⟩ := reduceItem_reduced hb
      refine ⟨fun id => ?_, hreduced.nextSlot.trans hopened⟩
      have hcount := hreduced.countOf id
      change Function.update l.net itemId (l.net itemId - num.toNat) id = ((b'.countOf id).toNat : Int)
      by_cases hid : id = itemId
      · subst hid
        rw [if_pos rfl] at hcount
        rw [Function.update_self, hnet]
        omega
      · rw [if_neg hid, Nat.add_zero] at hcount
        rw [Function.update_of_ne hid, hnet, hcount]
    | clear =>
      cases hb
      exact ⟨fun _ => rfl, rfl⟩
    | restore capacity nextSlot items =>
      refine ⟨restore_countOf hb, ?_⟩
      change restore capacity nextSlot items = some b' at hb
      unfold restore at hb
      split at hb
      · cases hb
      split at hb
      · cases hb
      · cases hb
        rfl

theorem booked_history (ops : List Op) : Booked (history ops) :=
  List.foldlRecOn (motive := Booked) ops _ booked_fresh fun _ hs op _ => hs.step op

/-- An item that is not in the bag is taken exactly if there is room and fewer stacks than slots
were opened; items and slots are distinct, counts in range, and of each item there is what was
added less what was removed. -/
theorem bag_available (ops : List Op) :
    (∀ itemId num, itemId ≠ 0 → num ≠ 0 → (history ops).1.countOf itemId = 0 →
      (((history ops).1.addItem itemId num).isSome = true ↔
        (history ops).1.used < (history ops).1.capacity ∧ (history ops).2.opened < 65536)) ∧
    ((history ops).1.view.map (·.itemId)).Nodup ∧ ((history ops).1.view.map (·.slot)).Nodup ∧
    (∀ st ∈ (history ops).1.view, 1 ≤ st.count.toNat ∧ st.count.toNat ≤ 65535) ∧
    ∀ id, (history ops).2.net id = (((history ops).1.countOf id).toNat : Int) := by
  have hbooked := booked_history ops
  have hvalid := validItems_view (b := (history ops).1)
  simp only [PlayerSnapshotDao.validItems, Bool.decide_and, Bool.and_eq_true, List.all_eq_true,
    decide_eq_true_eq] at hvalid
  obtain ⟨hall, hids, hslots⟩ := hvalid
  refine ⟨fun itemId num hid hnum hzero => ?_, hids, hslots, fun st hst => ?_, hbooked.net⟩
  · rw [addItem_isSome_iff hid hnum (countOf_eq_zero_iff.mp hzero), hbooked.opened]
  · have hcount := UInt16.toNat_inj.not.mpr (hall st hst).2.1
    rw [UInt16.toNat_zero] at hcount
    have hlt := st.count.toNat_lt
    omega

/-- One stack in the last slot, used up again. -/
def lastSlot : List Op := [.restore 64 65535 [], .addItem 1 1, .reduceItem 1 1]

/-- The bag is empty and takes no new item. -/
theorem lastSlot_full : (history lastSlot).1.used = 0 ∧ (history lastSlot).1.capacity = 64 ∧
    (history lastSlot).1.countOf 2 = 0 ∧ ((history lastSlot).1.addItem 2 1).isNone = true := by
  decide +kernel

end Bag

end Scene
