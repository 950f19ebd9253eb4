import GameServer.Aoi.ReplicaSpec

/-!
# What an accepted owner snapshot does

The snapshot is collected into a table first; then the owner's entities it no
longer lists are dropped, and the listed ones are installed unless the replica
already holds something newer.
-/

namespace Aoi

namespace AoiReplica

variable {sc : Scene} {wId : WorkerId}

/-- What the first loop of `ApplyOwnerSnapshot` has checked about an entity. -/
structure Listed (sc : Scene) (rep : AoiReplica) (snap : AoiOwnerSnapshot) (ent : AoiEntity) :
    Prop where
  id_ne : ent.entityId ≠ 0
  kind : validEntityKind ent.kind = true
  owner : ent.ownerWorker = snap.ownerWorkerId
  seq : ent.ownerSeq ≤ snap.seq
  cell : ∃ c, sc.grid.tryCellOf ent.x ent.y = some c
  oldOwner : ∀ e, rep.ents.lookup ent.entityId = some e → e.ownerWorker = snap.ownerWorkerId
  tombOwner : ∀ t, rep.tombstones.lookup ent.entityId = some t →
    t.ownerWorker = snap.ownerWorkerId
  newer : ∀ e, rep.ents.lookup ent.entityId = some e → e.ownerSeq ≤ snap.seq →
    e.entityGeneration < ent.entityGeneration ∨
      (e.entityGeneration = ent.entityGeneration ∧ e.spatialVersion ≤ ent.spatialVersion ∧
        e.kind = ent.kind ∧ e.businessId = ent.businessId)
  tombOlder : ∀ t, rep.tombstones.lookup ent.entityId = some t → t.ownerSeq ≤ snap.seq →
    t.generation < ent.entityGeneration

/-- The entity as it is installed: the cell is recomputed from the position. -/
def normalized (g : AoiGrid) (ent : AoiEntity) : AoiEntity :=
  { ent with cellIdx := (g.tryCellOf ent.x ent.y).getD 0 }

theorem collectOne_ok {rep : AoiReplica} {snap : AoiOwnerSnapshot}
    {inc inc' : Table EntityId AoiEntity} {ent : AoiEntity}
    (h : collectOne sc rep snap inc ent = .ok inc') :
    Listed sc rep snap ent ∧ ent.entityId ∉ inc ∧
      inc' = inc.insert ent.entityId (normalized sc.grid ent) := by
  simp only [collectOne] at h
  split at h
  · cases h
  rename_i hid
  split at h
  · cases h
  split at h
  · cases h
  rename_i c hc
  split at h
  · cases h
  rename_i howner
  split at h
  · cases h
  rename_i hnewer
  split at h
  · cases h
  rename_i htomb
  cases h
  push Not at hid howner
  refine ⟨?_, hid.2.2.2.2, by simp [normalized, hc]⟩
  exact
    { id_ne := hid.1
      kind := by simpa using hid.2.1
      owner := hid.2.2.1
      seq := hid.2.2.2.1
      cell := ⟨c, hc⟩
      oldOwner := fun e he => by simpa [he] using howner.1
      tombOwner := fun t ht => by simpa [ht] using howner.2
      newer := fun e he hle => by
        simp only [he, Option.any_some, decide_eq_true_eq] at hnewer
        push Not at hnewer
        obtain ⟨hgen, hrest⟩ := hnewer hle
        rcases Nat.lt_or_eq_of_le hgen with hlt | heq
        · exact .inl hlt
        · exact .inr ⟨heq, hrest heq⟩
      tombOlder := fun t ht hle => by
        simp only [ht, Option.any_some, decide_eq_true_eq] at htomb
        push Not at htomb
        exact htomb hle }

theorem collect_foldlM {rep : AoiReplica} {snap : AoiOwnerSnapshot} {ents : List AoiEntity}
    {inc inc' : Table EntityId AoiEntity}
    (h : ents.foldlM (collectOne sc rep snap) inc = .ok inc') :
    (∀ ent ∈ ents, Listed sc rep snap ent ∧ ent.entityId ∉ inc) ∧
      ∀ id, inc'.lookup id =
        match ents.find? (·.entityId = id) with
        | some ent => some (normalized sc.grid ent)
        | none => inc.lookup id := by
  induction ents generalizing inc with
  | nil =>
    cases h
    simp
  | cons ent ents ih =>
    rw [List.foldlM_cons] at h
    cases hone : collectOne sc rep snap inc ent with
    | error r => simp [hone, bind, Except.bind] at h
    | ok inc1 =>
      simp only [hone, bind, Except.bind] at h
      obtain ⟨hlisted, hnew, rfl⟩ := collectOne_ok hone
      obtain ⟨hall, hlook⟩ := ih h
      constructor
      · intro e he
        rcases List.mem_cons.mp he with rfl | he
        · exact ⟨hlisted, hnew⟩
        · exact ⟨(hall e he).1, fun hmem => (hall e he).2 (AList.mem_insert _ |>.mpr (.inr hmem))⟩
      · intro id
        rw [hlook id]
        by_cases hid : ent.entityId = id
        · have hnone : ents.find? (·.entityId = id) = none := by
            rw [List.find?_eq_none]
            intro e he heq
            refine (hall e he).2 (AList.mem_insert _ |>.mpr (.inl ?_))
            rw [hid]
            simpa using heq
          rw [hnone, List.find?_cons_of_pos (by simpa using hid)]
          simp [hid]
        · rw [List.find?_cons_of_neg (by simpa using hid)]
          simp [Ne.symm hid]

/-- The collected table: the snapshot's entities by id, each normalised. -/
theorem collect_ok {rep : AoiReplica} {snap : AoiOwnerSnapshot} {inc : Table EntityId AoiEntity}
    (h : collect sc rep snap = .ok inc) :
    (∀ ent ∈ snap.ents, Listed sc rep snap ent) ∧
      ∀ id, inc.lookup id =
        (snap.ents.find? (·.entityId = id)).map (normalized sc.grid) := by
  obtain ⟨hall, hlook⟩ := collect_foldlM h
  refine ⟨fun ent he => (hall ent he).1, fun id => ?_⟩
  rw [hlook id]
  cases snap.ents.find? (·.entityId = id) <;> simp

theorem collect_valid {rep : AoiReplica} {snap : AoiOwnerSnapshot} {inc : Table EntityId AoiEntity}
    (h : collect sc rep snap = .ok inc) {id : EntityId} {e : AoiEntity}
    (he : inc.lookup id = some e) : id ≠ 0 ∧ validEntityKind e.kind = true := by
  obtain ⟨hall, hlook⟩ := collect_ok h
  rw [hlook id, Option.map_eq_some_iff] at he
  obtain ⟨ent, hfind, rfl⟩ := he
  have hlisted := hall ent (List.mem_of_find?_eq_some hfind)
  have hid : ent.entityId = id := by simpa using List.find?_some hfind
  exact ⟨hid ▸ hlisted.id_ne, hlisted.kind⟩

/-- A collected row sits under its own id, in the cell of its position. -/
theorem collect_row {rep : AoiReplica} {snap : AoiOwnerSnapshot} {inc : Table EntityId AoiEntity}
    (h : collect sc rep snap = .ok inc) {id : EntityId} {e : AoiEntity}
    (he : inc.lookup id = some e) :
    e.entityId = id ∧ sc.grid.tryCellOf e.x e.y = some e.cellIdx ∧
      e.ownerWorker = snap.ownerWorkerId := by
  obtain ⟨hall, hlook⟩ := collect_ok h
  rw [hlook id, Option.map_eq_some_iff] at he
  obtain ⟨ent, hfind, rfl⟩ := he
  have hlisted := hall ent (List.mem_of_find?_eq_some hfind)
  obtain ⟨c, hc⟩ := hlisted.cell
  exact ⟨by simpa [normalized] using List.find?_some hfind, by simp [normalized, hc],
    hlisted.owner⟩

theorem collectOne_listed {rep : AoiReplica} {snap : AoiOwnerSnapshot}
    {inc : Table EntityId AoiEntity} {ent : AoiEntity} (h : Listed sc rep snap ent)
    (hx : ent.x < sc.map.length) (hy : ent.y < sc.map.width) (hnew : ent.entityId ∉ inc) :
    ∃ inc', collectOne sc rep snap inc ent = .ok inc' := by
  obtain ⟨c, hc⟩ := h.cell
  have hold : ∀ e, rep.ents.lookup ent.entityId = some e → e.ownerSeq ≤ snap.seq →
      ¬ (e.entityGeneration > ent.entityGeneration ∨
        (e.entityGeneration = ent.entityGeneration ∧
          (e.spatialVersion > ent.spatialVersion ∨
            e.kind ≠ ent.kind ∨ e.businessId ≠ ent.businessId))) := by
    intro e he hle hbad
    rcases h.newer e he hle with hlt | ⟨heq, hversion, hkind, hbusiness⟩
    · omega
    · rcases hbad with hgt | ⟨_, hgt | hne | hne⟩
      · omega
      · omega
      · exact hne hkind
      · exact hne hbusiness
  have htomb : ∀ t, rep.tombstones.lookup ent.entityId = some t → t.ownerSeq ≤ snap.seq →
      ¬ t.generation ≥ ent.entityGeneration :=
    fun t ht hle => Nat.not_le_of_lt (h.tombOlder t ht hle)
  have hid : ¬ (ent.entityId = 0 ∨ (!validEntityKind ent.kind) = true ∨
      ent.ownerWorker ≠ snap.ownerWorkerId ∨ ent.ownerSeq > snap.seq ∨ ent.entityId ∈ inc) := by
    simp [h.id_ne, h.kind, h.owner, h.seq, hnew]
  have howner : ¬ ((rep.ents.lookup ent.entityId).any
        (fun e => e.ownerWorker ≠ snap.ownerWorkerId) = true ∨
      (rep.tombstones.lookup ent.entityId).any
        (fun t => t.ownerWorker ≠ snap.ownerWorkerId) = true) := by
    simp only [Option.any_eq_true, decide_eq_true_eq]
    rintro (⟨e, he, hne⟩ | ⟨t, ht, hne⟩)
    · exact hne (h.oldOwner e he)
    · exact hne (h.tombOwner t ht)
  simp only [collectOne]
  rw [if_neg hid, if_neg (by omega)]
  simp only [hc]
  rw [if_neg howner, if_neg ?_, if_neg ?_]
  · exact ⟨_, rfl⟩
  · simp only [Option.any_eq_true, decide_eq_true_eq]
    rintro ⟨t, ht, hle, hge⟩
    exact htomb t ht hle hge
  · simp only [Option.any_eq_true, decide_eq_true_eq]
    rintro ⟨e, he, hle, hbad⟩
    exact hold e he hle hbad

/-- A snapshot whose entities all pass the checks is collected. -/
theorem collect_listed {rep : AoiReplica} {snap : AoiOwnerSnapshot}
    (h : ∀ ent ∈ snap.ents, Listed sc rep snap ent ∧ ent.x < sc.map.length ∧ ent.y < sc.map.width)
    (hnodup : (snap.ents.map (·.entityId)).Nodup) : ∃ inc, collect sc rep snap = .ok inc := by
  suffices hall : ∀ (ents : List AoiEntity) (inc : Table EntityId AoiEntity),
      (∀ ent ∈ ents, (Listed sc rep snap ent ∧ ent.x < sc.map.length ∧ ent.y < sc.map.width) ∧
        ent.entityId ∉ inc) → (ents.map (·.entityId)).Nodup →
      ∃ inc', ents.foldlM (collectOne sc rep snap) inc = .ok inc' from
    hall snap.ents ∅ (fun ent hent => ⟨h ent hent, AList.notMem_empty _⟩) hnodup
  intro ents
  induction ents with
  | nil => exact fun inc _ _ => ⟨inc, rfl⟩
  | cons ent ents ih =>
    intro inc hents hnd
    obtain ⟨⟨hlisted, hx, hy⟩, hnew⟩ := hents ent List.mem_cons_self
    rw [List.map_cons, List.nodup_cons] at hnd
    obtain ⟨inc1, hone⟩ := collectOne_listed hlisted hx hy hnew
    obtain ⟨_, _, rfl⟩ := collectOne_ok hone
    obtain ⟨inc', hrest⟩ := ih _ (fun e he => by
      refine ⟨(hents e (List.mem_cons_of_mem _ he)).1, fun hmem => ?_⟩
      rcases (AList.mem_insert _).mp hmem with heq | hin
      · exact hnd.1 (List.mem_map.mpr ⟨e, he, heq⟩)
      · exact (hents e (List.mem_cons_of_mem _ he)).2 hin) hnd.2
    refine ⟨inc', ?_⟩
    rw [List.foldlM_cons, hone]
    exact hrest

/-- The entry an id keeps after the dropping loop. -/
def kept (snap : AoiOwnerSnapshot) (incoming : Table EntityId AoiEntity)
    (old : Option AoiEntity) : Option AoiEntity :=
  old.filter fun e => !dropped snap incoming e

theorem dropOne_lookup {g : AoiGrid} {snap : AoiOwnerSnapshot}
    {incoming : Table EntityId AoiEntity} {next : Next} {row : Σ _ : EntityId, AoiEntity}
    (id : EntityId) :
    (dropOne g snap incoming next row).ents.lookup id =
      if id = row.1 then (if dropped snap incoming row.2 then none else next.ents.lookup row.1)
      else next.ents.lookup id := by
  unfold dropOne
  by_cases hd : dropped snap incoming row.2
  · simp [hd]
  · by_cases hid : id = row.1
    · subst hid
      simp [hd]
    · simp [hd, hid]

theorem dropOne_updated {g : AoiGrid} {snap : AoiOwnerSnapshot}
    {incoming : Table EntityId AoiEntity} {next : Next} {row : Σ _ : EntityId, AoiEntity}
    (h : Agree g wId next.ents next.cells) (hsnap : snap.ownerWorkerId ≠ wId)
    (hrow : next.ents.lookup row.1 = some row.2) (hd : dropped snap incoming row.2) :
    Updated g wId next (dropOne g snap incoming next row) row.1 none := by
  have hown : row.2.ownerWorker ≠ wId := by
    simp only [dropped, decide_eq_true_eq] at hd
    exact hd.1 ▸ hsnap
  have hrefl := h.placed_refl row.1
  rw [hrow] at hrefl
  simp only [dropOne, hd, if_true, h.key _ _ hrow]
  refine Updated.of_removed (fun id => Table.lookup_erase _ _ id)
    (hrefl.remove_remote hown (h.cell_lt hrow)) subset_markCell ?_
  intro e he o _ hw
  cases hrow.symm.trans he
  exact mem_markCell.mpr (.inr hw)

theorem drop_loop {g : AoiGrid} (snap : AoiOwnerSnapshot) (incoming : Table EntityId AoiEntity)
    (hsnap : snap.ownerWorkerId ≠ wId) {rows : List (Σ _ : EntityId, AoiEntity)}
    (hnd : rows.NodupKeys) (next : Next) (h : Agree g wId next.ents next.cells)
    (hrows : ∀ row ∈ rows, next.ents.lookup row.1 = some row.2) :
    let last := rows.foldl (dropOne g snap incoming) next
    Agree g wId last.ents last.cells ∧ Marks g wId next last := by
  induction rows generalizing next with
  | nil => exact ⟨h, Marks.refl _⟩
  | cons row rows ih =>
    obtain ⟨hrow, hnd'⟩ := List.nodupKeys_cons.mp hnd
    have hrest : ∀ r ∈ rows,
        (dropOne g snap incoming next row).ents.lookup r.1 = some r.2 := by
      intro r hr
      have hne : r.1 ≠ row.1 := fun heq => hrow (heq ▸ List.mem_keys_of_mem hr)
      rw [dropOne_lookup, if_neg hne]
      exact hrows r (List.mem_cons_of_mem _ hr)
    by_cases hd : dropped snap incoming row.2
    · have hu := dropOne_updated h hsnap (hrows row List.mem_cons_self) hd
      obtain ⟨hagree, hmarks⟩ := ih hnd' _ (hu.agree h) hrest
      exact ⟨hagree, (hu.marks h).trans hmarks⟩
    · have hsame : dropOne g snap incoming next row = next := by simp [dropOne, hd]
      rw [hsame] at hrest
      rw [List.foldl_cons, hsame]
      exact ih hnd' next h hrest

theorem installOne_skip {g : AoiGrid} {tombs : Table EntityId Tombstone} {seq : Nat}
    {next : Next} {row : Σ _ : EntityId, AoiEntity}
    (h : newerThan seq (next.ents.lookup row.2.entityId) (tombs.lookup row.2.entityId)) :
    installOne g tombs seq next row = next := by
  simp only [installOne]
  rw [if_pos h]

theorem installOne_updated {g : AoiGrid} {tombs : Table EntityId Tombstone} {seq : Nat}
    {next : Next} {row : Σ _ : EntityId, AoiEntity} (h : Agree g wId next.ents next.cells)
    (hkey : row.2.entityId = row.1) (hcell : g.tryCellOf row.2.x row.2.y = some row.2.cellIdx)
    (hown : row.2.ownerWorker ≠ wId)
    (hold : ∀ e, next.ents.lookup row.1 = some e → e.ownerWorker ≠ wId)
    (hn : ¬ newerThan seq (next.ents.lookup row.1) (tombs.lookup row.1)) :
    Updated g wId next (installOne g tombs seq next row) row.1 (some row.2) := by
  obtain ⟨k, ent⟩ := row
  obtain rfl : ent.entityId = k := hkey
  have hlt := AoiGrid.tryCellOf_lt hcell
  have hrefl := h.placed_refl ent.entityId
  simp only [installOne]
  rw [if_neg hn]
  cases hlook : next.ents.lookup ent.entityId with
  | none =>
    rw [hlook] at hrefl
    refine Updated.of_installed (fun id => Table.lookup_insert _ _ id _) rfl hcell
      (hrefl.add_remote hown hlt) subset_rfl ?_
    intro e he
    cases hlook.symm.trans he
  | some o =>
    rw [hlook] at hrefl
    have hrem := hrefl.remove_remote (hold o hlook) (h.cell_lt hlook)
    refine Updated.of_installed (fun id => Table.lookup_insert _ _ id _) rfl hcell
      (hrem.add_remote hown hlt) subset_markCell ?_
    intro e he o _ hw
    cases hlook.symm.trans he
    exact mem_markCell.mpr (.inl (mem_markCell.mpr (.inr hw)))

theorem installOne_lookup {g : AoiGrid} {tombs : Table EntityId Tombstone} {seq : Nat}
    {next : Next} {row : Σ _ : EntityId, AoiEntity} (hkey : row.2.entityId = row.1)
    (id : EntityId) :
    (installOne g tombs seq next row).ents.lookup id =
      if id = row.1 then
        (if newerThan seq (next.ents.lookup row.1) (tombs.lookup row.1) then next.ents.lookup row.1
          else some row.2)
      else next.ents.lookup id := by
  by_cases hn : newerThan seq (next.ents.lookup row.1) (tombs.lookup row.1)
  · rw [installOne_skip (by rwa [hkey]), if_pos hn]
    split
    · rename_i hid; rw [hid]
    · rfl
  · obtain ⟨k, ent⟩ := row
    obtain rfl : ent.entityId = k := hkey
    simp only [installOne]
    rw [if_neg hn, if_neg hn]
    exact Table.lookup_insert _ _ id _

/-- The rows of a collected snapshot, as far as the installing loop needs them. -/
def Installable (g : AoiGrid) (wId : WorkerId) (row : Σ _ : EntityId, AoiEntity) : Prop :=
  row.2.entityId = row.1 ∧ g.tryCellOf row.2.x row.2.y = some row.2.cellIdx ∧
    row.2.ownerWorker ≠ wId

theorem install_loop {g : AoiGrid} (tombs : Table EntityId Tombstone) (seq : Nat)
    {rows : List (Σ _ : EntityId, AoiEntity)} (hrows : ∀ row ∈ rows, Installable g wId row)
    {next : Next} (h : Agree g wId next.ents next.cells)
    (hold : ∀ row ∈ rows, ∀ e, next.ents.lookup row.1 = some e → e.ownerWorker ≠ wId) :
    let last := rows.foldl (installOne g tombs seq) next
    Agree g wId last.ents last.cells ∧ Marks g wId next last := by
  induction rows generalizing next with
  | nil => exact ⟨h, Marks.refl _⟩
  | cons row rows ih =>
    obtain ⟨hkey, hcell, hown⟩ := hrows row List.mem_cons_self
    have hrows' := fun r hr => hrows r (List.mem_cons_of_mem _ hr)
    rw [List.foldl_cons]
    by_cases hn : newerThan seq (next.ents.lookup row.1) (tombs.lookup row.1)
    · rw [installOne_skip (by rwa [hkey])]
      exact ih hrows' h fun r hr => hold r (List.mem_cons_of_mem _ hr)
    · have hu := installOne_updated h hkey hcell hown (hold row List.mem_cons_self) hn
      have hold' : ∀ r ∈ rows, ∀ e,
          (installOne g tombs seq next row).ents.lookup r.1 = some e → e.ownerWorker ≠ wId := by
        intro r hr e he
        rw [hu.ents] at he
        split at he
        · cases he
          exact hown
        · exact hold r (List.mem_cons_of_mem _ hr) e he
      obtain ⟨hagree, hmarks⟩ := ih hrows' (hu.agree h) hold'
      exact ⟨hagree, (hu.marks h).trans hmarks⟩

theorem applyOwnerSnapshot_unchanged {rep rep' : AoiReplica} {snap : AoiOwnerSnapshot}
    {dirty dirty' : Observers} {res : ApplyResult}
    (h : applyOwnerSnapshot sc wId rep snap dirty = (res, rep', dirty')) (hres : res ≠ .applied) :
    rep' = rep ∧ dirty' = dirty := by
  unfold applyOwnerSnapshot at h
  split at h
  · cases h; exact ⟨rfl, rfl⟩
  split at h
  · cases h; exact ⟨rfl, rfl⟩
  split at h
  · cases h; exact ⟨rfl, rfl⟩
  · simp only [Prod.mk.injEq] at h
    exact absurd h.1.symm hres

/-- An accepted snapshot, entry by entry. -/
structure SnapshotEffect (sc : Scene) (wId : WorkerId) (rep rep' : AoiReplica)
    (snap : AoiOwnerSnapshot) (incoming : Table EntityId AoiEntity) (dirty dirty' : Observers) :
    Prop where
  owner_ne : snap.ownerWorkerId ≠ wId
  fresh : ∀ w, rep.ownerSnapshotSeq.lookup snap.ownerWorkerId = some w → w < snap.seq
  collected : collect sc rep snap = .ok incoming
  agree : Agree sc.grid wId rep'.ents rep'.cells
  marks : Marks sc.grid wId (rep.next dirty) (rep'.next dirty')
  ents : ∀ id, rep'.ents.lookup id =
    match incoming.lookup id with
    | none => kept snap incoming (rep.ents.lookup id)
    | some e =>
      if newerThan snap.seq (kept snap incoming (rep.ents.lookup id)) (rep.tombstones.lookup id) then
        kept snap incoming (rep.ents.lookup id)
      else some e
  tombs : rep'.tombstones = rep.tombstones
  water : rep'.ownerSnapshotSeq = rep.ownerSnapshotSeq.insert snap.ownerWorkerId snap.seq

/-- Every entry after a snapshot is an old or an incoming one. -/
theorem SnapshotEffect.entry {rep rep' : AoiReplica} {snap : AoiOwnerSnapshot}
    {incoming : Table EntityId AoiEntity} {dirty dirty' : Observers}
    (h : SnapshotEffect sc wId rep rep' snap incoming dirty dirty') {id : EntityId}
    {e : AoiEntity} (he : rep'.ents.lookup id = some e) :
    rep.ents.lookup id = some e ∨ incoming.lookup id = some e := by
  have hkept : ∀ old, kept snap incoming old = some e → old = some e :=
    fun old hold => (Option.filter_eq_some_iff.mp hold).1
  rw [h.ents] at he
  split at he
  · exact .inl (hkept _ he)
  · rename_i hin
    split at he
    · exact .inl (hkept _ he)
    · exact .inr (hin.trans he)

theorem collectOne_ne_applied {rep : AoiReplica} {snap : AoiOwnerSnapshot}
    {inc : Table EntityId AoiEntity} {ent : AoiEntity} :
    collectOne sc rep snap inc ent ≠ .error .applied := by
  simp only [collectOne]
  split
  · simp
  split
  · simp
  split
  · simp
  split
  · simp
  split
  · simp
  split <;> simp

theorem collect_ne_applied {rep : AoiReplica} {snap : AoiOwnerSnapshot} :
    collect sc rep snap ≠ .error .applied := by
  unfold collect
  generalize (∅ : Table EntityId AoiEntity) = inc
  generalize snap.ents = ents
  induction ents generalizing inc with
  | nil => simp [pure, Except.pure]
  | cons ent ents ih =>
    rw [List.foldlM_cons]
    cases hone : collectOne sc rep snap inc ent with
    | error r =>
      simp only [bind, Except.bind, ne_eq, Except.error.injEq]
      rintro rfl
      exact collectOne_ne_applied hone
    | ok inc1 => exact ih inc1

theorem applyOwnerSnapshot_applied {rep rep' : AoiReplica} {snap : AoiOwnerSnapshot}
    {dirty dirty' : Observers} (hagree : Agree sc.grid wId rep.ents rep.cells)
    (h : applyOwnerSnapshot sc wId rep snap dirty = (.applied, rep', dirty')) :
    ∃ incoming, SnapshotEffect sc wId rep rep' snap incoming dirty dirty' := by
  unfold applyOwnerSnapshot at h
  split at h
  · cases h
  rename_i hne
  split at h
  · cases h
  rename_i hwater
  split at h
  · rename_i res hres
    simp only [Prod.mk.injEq] at h
    exact absurd (h.1 ▸ hres) collect_ne_applied
  rename_i incoming hinc
  cases h
  have hrow : ∀ {id e}, incoming.lookup id = some e → _ := collect_row hinc
  -- after the dropping loop
  have hdrop := drop_loop snap incoming hne rep.ents.nodupKeys
    (rep.next dirty) hagree fun row hr => Table.lookup_of_mem hr
  have hkept : ∀ id, (rep.ents.entries.foldl (dropOne sc.grid snap incoming)
      (rep.next dirty)).ents.lookup id = kept snap incoming (rep.ents.lookup id) := by
    intro id
    rw [Table.foldl_rows rep.ents (fun n id => n.ents.lookup id) (dropOne sc.grid snap incoming)
      (fun _ v x => if dropped snap incoming v then none else x)
      (fun n r _ k => dropOne_lookup k)]
    cases hlook : rep.ents.lookup id with
    | none => exact hlook
    | some e =>
      have : (rep.next dirty).ents.lookup id = some e := hlook
      by_cases hd : dropped snap incoming e <;> simp [kept, hd, this, Option.filter]
  -- after the installing loop
  have hold : ∀ row ∈ incoming.entries, ∀ e,
      (rep.ents.entries.foldl (dropOne sc.grid snap incoming) (rep.next dirty)).ents.lookup
        row.1 = some e → e.ownerWorker ≠ wId := by
    intro row hr e he
    rw [hkept, kept, Option.filter_eq_some_iff] at he
    obtain ⟨ent, hfind, hent⟩ := Option.map_eq_some_iff.mp
      (((collect_ok hinc).2 row.1).symm.trans (Table.lookup_of_mem hr))
    have hid : ent.entityId = row.1 := by simpa using List.find?_some hfind
    have hlisted := (collect_ok hinc).1 ent (List.mem_of_find?_eq_some hfind)
    rw [hlisted.oldOwner e (hid ▸ he.1)]
    exact hne
  have hrows : ∀ row ∈ incoming.entries, Installable sc.grid wId row := fun row hr =>
    let ⟨hkey, hcell, hown⟩ := hrow (Table.lookup_of_mem hr)
    ⟨hkey, hcell, hown ▸ hne⟩
  have hinstall := install_loop rep.tombstones snap.seq hrows hdrop.1 hold
  refine ⟨incoming, ?_⟩
  exact
    { owner_ne := hne
      fresh := fun w hw => by simpa [hw] using hwater
      collected := hinc
      agree := hinstall.1
      marks := hdrop.2.trans hinstall.2
      ents := fun id => by
        have hfold := Table.foldl_rows incoming (fun n id => n.ents.lookup id)
          (installOne sc.grid rep.tombstones snap.seq)
          (fun k v x => if newerThan snap.seq x (rep.tombstones.lookup k) then x else some v)
          (fun n r hr k => installOne_lookup (hrow (Table.lookup_of_mem hr)).1 k)
          (rep.ents.entries.foldl (dropOne sc.grid snap incoming) (rep.next dirty)) id
        rw [hkept] at hfold
        cases hlook : incoming.lookup id with
        | none =>
          simp only [hlook] at hfold ⊢
          exact hfold
        | some e =>
          simp only [hlook] at hfold ⊢
          exact hfold
      tombs := rfl
      water := rfl }

end AoiReplica

end Aoi
