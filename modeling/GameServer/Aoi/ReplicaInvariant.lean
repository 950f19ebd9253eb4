import GameServer.Aoi.Replica

/-!
# What the grid lists

The grid repeats what the entity table says: a cell lists the entities placed in
it, and is watched by the local entities whose square contains it. Every handler
is one update of one key, so the agreement of the two is proved once, for an
update, and each handler is shown to be one.
-/

namespace Aoi

namespace AoiReplica

/-- How often the cell should list an entity in this state. -/
def listedAt (e : Option AoiEntity) (c : Nat) : Nat :=
  if e.map (·.cellIdx) = some c then 1 else 0

/-- How often the entity should be among the watchers of the cell. -/
def watchesAt (g : AoiGrid) (wId : WorkerId) (e : Option AoiEntity) (c : Nat) : Nat :=
  if e.any (fun e => e.ownerWorker = wId ∧ c ∈ g.watchSquare e.cellIdx) then 1 else 0

/-- The entity table and the grid agree. -/
structure Agree (g : AoiGrid) (wId : WorkerId) (ents : Table EntityId AoiEntity)
    (cells : Cells) : Prop where
  key : ∀ id e, ents.lookup id = some e → e.entityId = id
  cell : ∀ id e, ents.lookup id = some e → g.tryCellOf e.x e.y = some e.cellIdx
  listed : ∀ c id, (cells c).entys.count id = listedAt (ents.lookup id) c
  watched : ∀ c id, (cells c).watchers.count id = watchesAt g wId (ents.lookup id) c

/-- From `cells` to `cells'` only the listings of `k` changed; they are now those of `new`. -/
structure Placed (g : AoiGrid) (wId : WorkerId) (cells cells' : Cells) (k : EntityId)
    (new : Option AoiEntity) : Prop where
  listed : ∀ c id, (cells' c).entys.count id =
    if id = k then listedAt new c else (cells c).entys.count id
  watched : ∀ c id, (cells' c).watchers.count id =
    if id = k then watchesAt g wId new c else (cells c).watchers.count id

variable {g : AoiGrid} {wId : WorkerId}

@[simp] theorem listedAt_none (c : Nat) : listedAt none c = 0 := by simp [listedAt]

@[simp] theorem listedAt_some (e : AoiEntity) (c : Nat) :
    listedAt (some e) c = if e.cellIdx = c then 1 else 0 := by simp [listedAt]

@[simp] theorem watchesAt_none (c : Nat) : watchesAt g wId none c = 0 := by simp [watchesAt]

theorem watchesAt_local {e : AoiEntity} (h : e.ownerWorker = wId) (c : Nat) :
    watchesAt g wId (some e) c = if c ∈ g.watchSquare e.cellIdx then 1 else 0 := by
  simp [watchesAt, h]

theorem watchesAt_remote {e : AoiEntity} (h : e.ownerWorker ≠ wId) (c : Nat) :
    watchesAt g wId (some e) c = 0 := by
  simp [watchesAt, h]

section Agree

variable {ents : Table EntityId AoiEntity} {cells : Cells}

theorem Agree.cell_lt (h : Agree g wId ents cells) {id : EntityId} {e : AoiEntity}
    (he : ents.lookup id = some e) : e.cellIdx < g.size :=
  AoiGrid.tryCellOf_lt (h.cell id e he)

theorem Agree.mem_entities (h : Agree g wId ents cells) {c : Nat} {id : EntityId} :
    id ∈ g.entities cells c ↔ ∃ e, ents.lookup id = some e ∧ e.cellIdx = c := by
  have hcount := h.listed c id
  have hiff : id ∈ (cells c).entys ↔ ∃ e, ents.lookup id = some e ∧ e.cellIdx = c := by
    rw [← List.count_pos_iff, hcount]
    cases ents.lookup id <;> simp [Nat.pos_iff_ne_zero]
  unfold AoiGrid.entities
  split
  · rename_i hc
    simp only [List.not_mem_nil, false_iff]
    rintro ⟨e, he, rfl⟩
    exact absurd (h.cell_lt he) (by omega)
  · exact hiff

/-- The watchers of a cell are the local entities with the cell in their square. -/
theorem Agree.mem_watchers (h : Agree g wId ents cells) {c o : Nat} :
    o ∈ g.watchers cells c ↔
      ∃ e, ents.lookup o = some e ∧ e.ownerWorker = wId ∧ c ∈ g.watchSquare e.cellIdx := by
  have hiff : o ∈ (cells c).watchers ↔
      ∃ e, ents.lookup o = some e ∧ e.ownerWorker = wId ∧ c ∈ g.watchSquare e.cellIdx := by
    rw [← List.count_pos_iff, h.watched c o, watchesAt]
    cases ents.lookup o <;> simp [Nat.pos_iff_ne_zero]
  unfold AoiGrid.watchers
  split
  · rename_i hc
    simp only [List.not_mem_nil, false_iff]
    rintro ⟨e, he, _, hmem⟩
    exact absurd (AoiGrid.watchSquare_lt (h.cell_lt he) hmem) (by omega)
  · exact hiff

theorem agree_empty : Agree g wId ∅ (fun _ => {}) where
  key := by simp
  cell := by simp
  listed := by simp
  watched := by simp

theorem Agree.placed_refl (h : Agree g wId ents cells) (k : EntityId) :
    Placed g wId cells cells k (ents.lookup k) where
  listed := fun c id => by
    split
    · rename_i hid; rw [hid, h.listed]
    · rfl
  watched := fun c id => by
    split
    · rename_i hid; rw [hid, h.watched]
    · rfl

/-- An update of the table at `k` with the matching update of the grid. -/
theorem Agree.placed (h : Agree g wId ents cells) {ents' : Table EntityId AoiEntity}
    {cells' : Cells} {k : EntityId} {new : Option AoiEntity}
    (hents : ∀ id, ents'.lookup id = if id = k then new else ents.lookup id)
    (hnew : ∀ e, new = some e → e.entityId = k ∧ g.tryCellOf e.x e.y = some e.cellIdx)
    (hp : Placed g wId cells cells' k new) : Agree g wId ents' cells' where
  key := fun id e he => by
    rw [hents] at he
    split at he
    · rename_i hid; rw [hid]; exact (hnew e he).1
    · exact h.key id e he
  cell := fun id e he => by
    rw [hents] at he
    split at he
    · exact (hnew e he).2
    · exact h.cell id e he
  listed := fun c id => by
    rw [hp.listed, hents]
    split
    · rfl
    · exact h.listed c id
  watched := fun c id => by
    rw [hp.watched, hents]
    split
    · rfl
    · exact h.watched c id

end Agree

namespace Placed

variable {cells cells' : Cells} {k : EntityId} {e : AoiEntity}

theorem congr {new new' : Option AoiEntity} (h : Placed g wId cells cells' k new)
    (hcell : new'.map (·.cellIdx) = new.map (·.cellIdx))
    (howner : new'.map (·.ownerWorker) = new.map (·.ownerWorker)) :
    Placed g wId cells cells' k new' := by
  have hl : ∀ c, listedAt new' c = listedAt new c := fun c => by simp [listedAt, hcell]
  have hw : ∀ c, watchesAt g wId new' c = watchesAt g wId new c := fun c => by
    cases new' <;> cases new <;> simp_all [watchesAt]
  exact ⟨fun c id => by rw [h.listed, hl], fun c id => by rw [h.watched, hw]⟩

/-- Take a local entity off its cell and off its square. -/
theorem remove_local (h : Placed g wId cells cells' k (some e)) (hown : e.ownerWorker = wId)
    (hlt : e.cellIdx < g.size) :
    Placed g wId cells
      (g.removeEntity (g.removeWatchers cells' k (g.watchSquare e.cellIdx)) k e.cellIdx)
      k none where
  listed := fun c id => by
    rw [AoiGrid.count_entys_removeEntity hlt, AoiGrid.entys_removeWatchers, h.listed]
    by_cases hid : id = k <;> by_cases hc : c = e.cellIdx <;> simp [hid, hc, eq_comm]
  watched := fun c id => by
    rw [AoiGrid.watchers_removeEntity,
      AoiGrid.count_watchers_removeWatchers fun w hw => AoiGrid.watchSquare_lt hlt hw, h.watched,
      watchesAt_local hown]
    by_cases hid : id = k <;> simp [hid]

/-- Take a remote entity off its cell; it watches nothing. -/
theorem remove_remote (h : Placed g wId cells cells' k (some e)) (hown : e.ownerWorker ≠ wId)
    (hlt : e.cellIdx < g.size) :
    Placed g wId cells (g.removeEntity cells' k e.cellIdx) k none where
  listed := fun c id => by
    rw [AoiGrid.count_entys_removeEntity hlt, h.listed]
    by_cases hid : id = k <;> by_cases hc : c = e.cellIdx <;> simp [hid, hc, eq_comm]
  watched := fun c id => by
    rw [AoiGrid.watchers_removeEntity, h.watched, watchesAt_remote hown, watchesAt_none]

theorem add_local (h : Placed g wId cells cells' k none) (hown : e.ownerWorker = wId)
    (hlt : e.cellIdx < g.size) :
    Placed g wId cells
      (g.addEntity (g.addWatchers cells' k (g.watchSquare e.cellIdx)) k e.cellIdx)
      k (some e) where
  listed := fun c id => by
    rw [AoiGrid.count_entys_addEntity hlt, AoiGrid.entys_addWatchers, h.listed]
    by_cases hid : id = k <;> simp [hid, eq_comm]
  watched := fun c id => by
    rw [AoiGrid.watchers_addEntity, AoiGrid.count_watchers_addWatchers
      (AoiGrid.nodup_watchSquare _) fun w hw => AoiGrid.watchSquare_lt hlt hw, h.watched,
      watchesAt_local hown]
    by_cases hid : id = k <;> simp [hid]

theorem add_remote (h : Placed g wId cells cells' k none) (hown : e.ownerWorker ≠ wId)
    (hlt : e.cellIdx < g.size) :
    Placed g wId cells (g.addEntity cells' k e.cellIdx) k (some e) where
  listed := fun c id => by
    rw [AoiGrid.count_entys_addEntity hlt, h.listed]
    by_cases hid : id = k <;> simp [hid, eq_comm]
  watched := fun c id => by
    rw [AoiGrid.watchers_addEntity, h.watched, watchesAt_remote hown, watchesAt_none]

/-- `onLocalLeave` takes the watcher off its own cell once more. -/
theorem remove_watcher_again (h : Placed g wId cells cells' k none) {c : Nat}
    (hlt : c < g.size) : Placed g wId cells (g.removeWatcher cells' k c) k none where
  listed := fun d id => by rw [AoiGrid.entys_removeWatcher, h.listed]
  watched := fun d id => by
    rw [AoiGrid.count_watchers_removeWatcher hlt, h.watched]
    by_cases hid : id = k <;> simp [hid]

theorem mem_watchers_ne {new : Option AoiEntity} (h : Placed g wId cells cells' k new)
    {o c : Nat} (ho : o ≠ k) : o ∈ g.watchers cells' c ↔ o ∈ g.watchers cells c := by
  have hcount : (cells' c).watchers.count o = (cells c).watchers.count o := by
    rw [h.watched, if_neg ho]
  unfold AoiGrid.watchers
  split
  · rfl
  · rw [← List.count_pos_iff, ← List.count_pos_iff, hcount]

end Placed

@[simp] theorem mem_markCell {cells : Cells} {c o : Nat} {dirty : Observers} :
    o ∈ markCell g cells c dirty ↔ o ∈ dirty ∨ o ∈ g.watchers cells c := by
  simp [markCell]

theorem subset_markCell {cells : Cells} {c : Nat} {dirty : Observers} :
    dirty ⊆ markCell g cells c dirty := Finset.subset_union_left

/-- The table, the grid and the dirty set of a replica. -/
def next (rep : AoiReplica) (dirty : Observers) : Next where
  ents := rep.ents
  cells := rep.cells
  dirty := dirty

/-- One update: the key `k` becomes `new`, and whoever could see it before or after is marked. -/
structure Updated (g : AoiGrid) (wId : WorkerId) (a b : Next) (k : EntityId)
    (new : Option AoiEntity) : Prop where
  ents : ∀ id, b.ents.lookup id = if id = k then new else a.ents.lookup id
  valid : ∀ e, new = some e → e.entityId = k ∧ g.tryCellOf e.x e.y = some e.cellIdx
  placed : Placed g wId a.cells b.cells k new
  mono : a.dirty ⊆ b.dirty
  marked_old : ∀ e, a.ents.lookup k = some e →
    ∀ o, o ≠ k → o ∈ g.watchers a.cells e.cellIdx → o ∈ b.dirty
  marked_new : ∀ e, new = some e → ∀ o, o ∈ g.watchers b.cells e.cellIdx → o ∈ b.dirty

namespace Updated

variable {a b : Next} {k : EntityId} {new : Option AoiEntity}

theorem agree (h : Updated g wId a b k new) (ha : Agree g wId a.ents a.cells) :
    Agree g wId b.ents b.cells := ha.placed h.ents h.valid h.placed

/-- Installing an entity and marking the watchers of its cell. -/
theorem of_installed {ents' : Table EntityId AoiEntity} {cells' : Cells} {dirty' : Observers}
    {e : AoiEntity} (hents : ∀ id, ents'.lookup id = if id = k then some e else a.ents.lookup id)
    (hkey : e.entityId = k) (hcell : g.tryCellOf e.x e.y = some e.cellIdx)
    (hp : Placed g wId a.cells cells' k (some e)) (hmono : a.dirty ⊆ dirty')
    (hold : ∀ e', a.ents.lookup k = some e' →
      ∀ o, o ≠ k → o ∈ g.watchers a.cells e'.cellIdx → o ∈ markCell g cells' e.cellIdx dirty') :
    Updated g wId a ⟨ents', cells', markCell g cells' e.cellIdx dirty'⟩ k (some e) where
  ents := hents
  valid := fun e' he => by
    cases he
    exact ⟨hkey, hcell⟩
  placed := hp
  mono := hmono.trans subset_markCell
  marked_old := hold
  marked_new := fun e' he o ho => by
    cases he
    exact mem_markCell.mpr (.inr ho)

theorem of_removed {ents' : Table EntityId AoiEntity} {cells' : Cells} {dirty' : Observers}
    (hents : ∀ id, ents'.lookup id = if id = k then none else a.ents.lookup id)
    (hp : Placed g wId a.cells cells' k none) (hmono : a.dirty ⊆ dirty')
    (hold : ∀ e, a.ents.lookup k = some e →
      ∀ o, o ≠ k → o ∈ g.watchers a.cells e.cellIdx → o ∈ dirty') :
    Updated g wId a ⟨ents', cells', dirty'⟩ k none where
  ents := hents
  valid := by simp
  placed := hp
  mono := hmono
  marked_old := hold
  marked_new := by simp

end Updated

/-- What an observer sees of an entity: its entry, when its cell is in the observer's square. -/
def sees (g : AoiGrid) (ents : Table EntityId AoiEntity) (o id : EntityId) : Option AoiEntity :=
  (ents.lookup o).bind fun ob => (ents.lookup id).filter fun e => e.cellIdx ∈ g.watchSquare ob.cellIdx

/-- From `a` to `b` every local observer whose view changed was marked. -/
structure Marks (g : AoiGrid) (wId : WorkerId) (a b : Next) : Prop where
  mono : a.dirty ⊆ b.dirty
  same : ∀ o, o ∉ b.dirty → ∀ ob, b.ents.lookup o = some ob → ob.ownerWorker = wId →
    a.ents.lookup o = some ob ∧ ∀ id, sees g b.ents o id = sees g a.ents o id

namespace Marks

variable {a b c : Next}

theorem refl (a : Next) : Marks g wId a a where
  mono := subset_rfl
  same := fun _ _ _ hob _ => ⟨hob, fun _ => rfl⟩

theorem trans (hab : Marks g wId a b) (hbc : Marks g wId b c) : Marks g wId a c where
  mono := hab.mono.trans hbc.mono
  same := fun o ho ob hob hown => by
    obtain ⟨hb, hsees⟩ := hbc.same o ho ob hob hown
    obtain ⟨ha, hsees'⟩ := hab.same o (fun hmem => ho (hbc.mono hmem)) ob hb hown
    exact ⟨ha, fun id => (hsees id).trans (hsees' id)⟩

theorem weaken (h : Marks g wId a b) {dirty : Observers} (hsub : b.dirty ⊆ dirty) :
    Marks g wId a { b with dirty := dirty } where
  mono := h.mono.trans hsub
  same := fun o ho => h.same o fun hmem => ho (hsub hmem)

end Marks

/-- An observer that was not marked by an update watches neither the old nor the new cell. -/
theorem Updated.marks {a b : Next} {k : EntityId} {new : Option AoiEntity}
    (h : Updated g wId a b k new) (ha : Agree g wId a.ents a.cells) : Marks g wId a b where
  mono := h.mono
  same := fun o ho ob hob hown => by
    have hb := h.agree ha
    have hok : o ≠ k := by
      rintro rfl
      have hnew : new = some ob := by simpa [h.ents] using hob
      refine ho (h.marked_new ob hnew o (hb.mem_watchers.mpr ⟨ob, hob, hown, ?_⟩))
      exact AoiGrid.self_mem_watchSquare (hb.cell_lt hob)
    have hoa : a.ents.lookup o = some ob := by simpa [h.ents, hok] using hob
    refine ⟨hoa, fun id => ?_⟩
    simp only [sees, hob, hoa, Option.bind_some]
    by_cases hid : id = k
    · subst hid
      have hsquare : ∀ e, (a.ents.lookup id = some e ∨ new = some e) →
          e.cellIdx ∉ g.watchSquare ob.cellIdx := by
        rintro e (he | he) hmem
        · exact ho (h.marked_old e he o hok (ha.mem_watchers.mpr ⟨ob, hoa, hown, hmem⟩))
        · exact ho (h.marked_new e he o (hb.mem_watchers.mpr ⟨ob, hob, hown, hmem⟩))
      have hnone : ∀ x : Option AoiEntity, (∀ e, x = some e → e.cellIdx ∉ g.watchSquare ob.cellIdx) →
          x.filter (fun e => e.cellIdx ∈ g.watchSquare ob.cellIdx) = none := by
        rintro (_ | e) hx
        · rfl
        · simpa using hx e rfl
      rw [h.ents, if_pos rfl, hnone new fun e he => hsquare e (.inr he),
        hnone _ fun e he => hsquare e (.inl he)]
    · rw [h.ents, if_neg hid]

section Handlers

variable {rep rep' : AoiReplica} {ev : AoiEvent} {cellIdx : Nat} {dirty dirty' : Observers}

theorem onLocalEntry_updated (h : Agree g wId rep.ents rep.cells)
    (hown : ev.ownerThreadId = wId)
    (hold : ∀ e, rep.ents.lookup ev.eId = some e → e.ownerWorker = wId)
    (hcell : g.tryCellOf ev.target_x ev.target_y = some cellIdx)
    (hrun : onLocalEntry g rep ev cellIdx dirty = some (rep', dirty')) :
    Updated g wId (rep.next dirty) (rep'.next dirty') ev.eId (some (updateEntity ev cellIdx)) ∧
      rep'.tombstones = rep.tombstones ∧ rep'.ownerSnapshotSeq = rep.ownerSnapshotSeq := by
  have hlt := AoiGrid.tryCellOf_lt hcell
  have hrefl := h.placed_refl ev.eId
  unfold onLocalEntry at hrun
  cases hold' : rep.ents.lookup ev.eId with
  | none =>
    rw [hold'] at hrefl
    simp only [hold', Option.bind_eq_bind, Option.bind_some, Option.bind_eq_some_iff] at hrun
    obtain ⟨watch, hwatch, hout⟩ := hrun
    cases AoiGrid.getWatchCellIdx_some hcell hwatch
    cases hout
    refine ⟨Updated.of_installed (fun id => Table.lookup_insert _ _ id _) rfl hcell
      (hrefl.add_local (e := updateEntity ev cellIdx) hown hlt) subset_rfl ?_, rfl, rfl⟩
    intro e he
    simp [next, hold'] at he
  | some ent =>
    have hent := hold ent hold'
    rw [hold'] at hrefl
    simp only [hold', Option.bind_eq_bind, Option.bind_eq_some_iff] at hrun
    obtain ⟨oldWatch, hoW, _, hout, watch, hwatch, hfin⟩ := hrun
    cases hout
    cases AoiGrid.getWatchCellIdx_some hcell hwatch
    cases AoiGrid.getWatchCellIdx_some (h.cell _ _ hold') hoW
    have hkey := h.key _ _ hold'
    rw [hkey] at hfin
    cases hfin
    have hrem := hrefl.remove_local hent (h.cell_lt hold')
    refine ⟨Updated.of_installed (fun id => Table.lookup_insert _ _ id _) rfl hcell
      (hrem.add_local (e := updateEntity ev cellIdx) hown hlt) subset_markCell ?_, rfl, rfl⟩
    intro e he o ho hw
    cases hold'.symm.trans he
    exact mem_markCell.mpr (.inl (mem_markCell.mpr (.inr ((hrem.mem_watchers_ne ho).mpr hw))))

theorem onLocalMove_updated (h : Agree g wId rep.ents rep.cells)
    (hown : ev.ownerThreadId = wId) {ent : AoiEntity}
    (hlook : rep.ents.lookup ev.eId = some ent) (hent : ent.ownerWorker = wId)
    (hcell : g.tryCellOf ev.target_x ev.target_y = some cellIdx)
    (hrun : onLocalMove g rep ev cellIdx dirty = some (rep', dirty')) :
    Updated g wId (rep.next dirty) (rep'.next dirty') ev.eId (some (updateEntity ev cellIdx)) ∧
      rep'.tombstones = rep.tombstones ∧ rep'.ownerSnapshotSeq = rep.ownerSnapshotSeq := by
  have hlt := AoiGrid.tryCellOf_lt hcell
  have hrefl := h.placed_refl ev.eId
  rw [hlook] at hrefl
  simp only [onLocalMove, hlook] at hrun
  split at hrun
  · simp only [Option.bind_eq_bind, Option.bind_eq_some_iff] at hrun
    obtain ⟨oldWatch, hoW, newWatch, hwatch, hfin⟩ := hrun
    cases AoiGrid.getWatchCellIdx_some hcell hwatch
    cases AoiGrid.getWatchCellIdx_some (h.cell _ _ hlook) hoW
    cases hfin
    have hrem := hrefl.remove_local hent (h.cell_lt hlook)
    refine ⟨Updated.of_installed (fun id => Table.lookup_insert _ _ id _) rfl hcell
      (hrem.add_local (e := updateEntity ev cellIdx) hown hlt) subset_markCell ?_, rfl, rfl⟩
    intro e he o ho hw
    cases hlook.symm.trans he
    exact mem_markCell.mpr (.inl (mem_markCell.mpr (.inr ((hrem.mem_watchers_ne ho).mpr hw))))
  · rename_i hsame
    obtain rfl : cellIdx = ent.cellIdx := not_not.mp hsame
    cases hrun
    refine ⟨Updated.of_installed (e := updateEntity ev ent.cellIdx)
      (fun id => Table.lookup_insert _ _ id _) rfl hcell
      (hrefl.congr (by simp [updateEntity]) (by simp [updateEntity, hown, hent]))
      subset_rfl ?_, rfl, rfl⟩
    intro e he o ho hw
    cases hlook.symm.trans he
    exact mem_markCell.mpr (.inr hw)

theorem onLocalLeave_updated (h : Agree g wId rep.ents rep.cells)
    (hold : ∀ e, rep.ents.lookup ev.eId = some e → e.ownerWorker = wId)
    (hrun : onLocalLeave g rep ev dirty = some (rep', dirty')) :
    Updated g wId (rep.next dirty) (rep'.next dirty') ev.eId none ∧
      rep'.tombstones = rep.tombstones.insert ev.eId (initTombstone ev) ∧
      rep'.ownerSnapshotSeq = rep.ownerSnapshotSeq := by
  have hrefl := h.placed_refl ev.eId
  unfold onLocalLeave at hrun
  cases hlook : rep.ents.lookup ev.eId with
  | none =>
    rw [hlook] at hrefl
    simp only [hlook] at hrun
    cases hrun
    refine ⟨Updated.of_removed (fun id => ?_) hrefl subset_rfl ?_, rfl, rfl⟩
    · split
      · rename_i hid; rw [hid]; exact hlook
      · rfl
    · intro e he
      cases hlook.symm.trans he
  | some ent =>
    rw [hlook] at hrefl
    simp only [hlook, Option.bind_eq_bind, Option.bind_eq_some_iff] at hrun
    obtain ⟨oldWatch, hoW, hfin⟩ := hrun
    cases AoiGrid.getWatchCellIdx_some (h.cell _ _ hlook) hoW
    cases hfin
    have hrem := hrefl.remove_local (hold ent hlook) (h.cell_lt hlook)
    refine ⟨Updated.of_removed (fun id => Table.lookup_erase _ _ id)
      (hrem.remove_watcher_again (h.cell_lt hlook)) subset_markCell ?_, rfl, rfl⟩
    intro e he o ho hw
    cases hlook.symm.trans he
    exact mem_markCell.mpr (.inr hw)

theorem onRemoteEntry_updated (h : Agree g wId rep.ents rep.cells)
    (hown : ev.ownerThreadId ≠ wId)
    (hold : ∀ e, rep.ents.lookup ev.eId = some e → e.ownerWorker ≠ wId)
    (hcell : g.tryCellOf ev.target_x ev.target_y = some cellIdx)
    (hrun : onRemoteEntry g rep ev cellIdx dirty = (rep', dirty')) :
    Updated g wId (rep.next dirty) (rep'.next dirty') ev.eId (some (updateEntity ev cellIdx)) ∧
      rep'.tombstones = rep.tombstones ∧ rep'.ownerSnapshotSeq = rep.ownerSnapshotSeq := by
  have hlt := AoiGrid.tryCellOf_lt hcell
  have hrefl := h.placed_refl ev.eId
  unfold onRemoteEntry at hrun
  cases hlook : rep.ents.lookup ev.eId with
  | none =>
    rw [hlook] at hrefl
    simp only [hlook] at hrun
    cases hrun
    refine ⟨Updated.of_installed (fun id => Table.lookup_insert _ _ id _) rfl hcell
      (hrefl.add_remote (e := updateEntity ev cellIdx) hown hlt) subset_rfl ?_, rfl, rfl⟩
    intro e he
    cases hlook.symm.trans he
  | some ent =>
    rw [hlook] at hrefl
    simp only [hlook, h.key _ _ hlook] at hrun
    cases hrun
    have hrem := hrefl.remove_remote (hold ent hlook) (h.cell_lt hlook)
    refine ⟨Updated.of_installed (fun id => Table.lookup_insert _ _ id _) rfl hcell
      (hrem.add_remote (e := updateEntity ev cellIdx) hown hlt) subset_markCell ?_, rfl, rfl⟩
    intro e he o ho hw
    cases hlook.symm.trans he
    exact mem_markCell.mpr (.inl (mem_markCell.mpr (.inr hw)))

theorem onRemoteMove_updated (h : Agree g wId rep.ents rep.cells)
    (hown : ev.ownerThreadId ≠ wId) {ent : AoiEntity}
    (hlook : rep.ents.lookup ev.eId = some ent) (hent : ent.ownerWorker ≠ wId)
    (hsameOwner : ent.ownerWorker = ev.ownerThreadId)
    (hcell : g.tryCellOf ev.target_x ev.target_y = some cellIdx)
    (hrun : onRemoteMove g rep ev cellIdx dirty = (rep', dirty')) :
    Updated g wId (rep.next dirty) (rep'.next dirty') ev.eId (some (updateEntity ev cellIdx)) ∧
      rep'.tombstones = rep.tombstones ∧ rep'.ownerSnapshotSeq = rep.ownerSnapshotSeq := by
  have hlt := AoiGrid.tryCellOf_lt hcell
  have hrefl := h.placed_refl ev.eId
  rw [hlook] at hrefl
  simp only [onRemoteMove, hlook] at hrun
  split at hrun
  · rw [h.key _ _ hlook] at hrun
    cases hrun
    have hrem := hrefl.remove_remote hent (h.cell_lt hlook)
    refine ⟨Updated.of_installed (fun id => Table.lookup_insert _ _ id _) rfl hcell
      (hrem.add_remote (e := updateEntity ev cellIdx) hown hlt) subset_markCell ?_, rfl, rfl⟩
    intro e he o ho hw
    cases hlook.symm.trans he
    exact mem_markCell.mpr (.inl (mem_markCell.mpr (.inr hw)))
  · rename_i hsame
    obtain rfl : cellIdx = ent.cellIdx := not_not.mp hsame
    cases hrun
    refine ⟨Updated.of_installed (e := updateEntity ev ent.cellIdx)
      (fun id => Table.lookup_insert _ _ id _) rfl hcell
      (hrefl.congr (by simp [updateEntity]) (by simp [updateEntity, hsameOwner]))
      subset_rfl ?_, rfl, rfl⟩
    intro e he o ho hw
    cases hlook.symm.trans he
    exact mem_markCell.mpr (.inr hw)

theorem onRemoteLeave_updated (h : Agree g wId rep.ents rep.cells)
    (hold : ∀ e, rep.ents.lookup ev.eId = some e → e.ownerWorker ≠ wId)
    (hrun : onRemoteLeave g rep ev dirty = (rep', dirty')) :
    Updated g wId (rep.next dirty) (rep'.next dirty') ev.eId none ∧
      rep'.tombstones = rep.tombstones.insert ev.eId (initTombstone ev) ∧
      rep'.ownerSnapshotSeq = rep.ownerSnapshotSeq := by
  have hrefl := h.placed_refl ev.eId
  unfold onRemoteLeave at hrun
  cases hlook : rep.ents.lookup ev.eId with
  | none =>
    rw [hlook] at hrefl
    simp only [hlook] at hrun
    cases hrun
    refine ⟨Updated.of_removed (fun id => ?_) hrefl subset_rfl ?_, rfl, rfl⟩
    · split
      · rename_i hid; rw [hid]; exact hlook
      · rfl
    · intro e he
      cases hlook.symm.trans he
  | some ent =>
    rw [hlook] at hrefl
    simp only [hlook] at hrun
    cases hrun
    refine ⟨Updated.of_removed (fun id => Table.lookup_erase _ _ id)
      (hrefl.remove_remote (hold ent hlook) (h.cell_lt hlook)) subset_markCell ?_, rfl, rfl⟩
    intro e he o _ hw
    cases hlook.symm.trans he
    exact mem_markCell.mpr (.inr hw)

end Handlers

end AoiReplica

end Aoi
