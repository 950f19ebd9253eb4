import GameServer.Lib.Run
import GameServer.Aoi.SnapshotSpec

/-!
# What an observer sees, over whole runs

`getVisibleEntity` walks the observer's square and returns every entity listed
there once. Together with the agreement of the table and the grid this gives
Chebyshev visibility in every state that a run of the replica can reach.
-/

namespace Aoi

namespace AoiReplica

section Query

variable {rep : AoiReplica} {o : EntityId} {inc : Bool}

/-- The loop of `getVisibleEntity` after the candidates `ps`, each with the cell it came from. -/
structure Scanned (rep : AoiReplica) (o : EntityId) (inc : Bool) (ps : List (Nat × EntityId))
    (acc : Finset EntityId × List AoiEntity) : Prop where
  seen : ∀ id, id ∈ acc.1 ↔ (inc = true ∨ id ≠ o) ∧ ∃ idx, (idx, id) ∈ ps
  out : ∀ e, e ∈ acc.2 ↔ e.entityId ∈ acc.1 ∧ rep.ents.lookup e.entityId = some e
  nodup : (acc.2.map (·.entityId)).Nodup

theorem Scanned.visit {ps : List (Nat × EntityId)} {acc : Finset EntityId × List AoiEntity}
    (h : Scanned rep o inc ps acc) {idx : Nat} {id : EntityId} {e : AoiEntity}
    (he : rep.ents.lookup id = some e) (hkey : e.entityId = id) (hcell : e.cellIdx = idx) :
    Scanned rep o inc (ps ++ [(idx, id)]) (visit rep o inc idx acc id) := by
  have hself : (!inc && id == o) = true ↔ ¬ (inc = true ∨ id ≠ o) := by
    cases inc <;> simp
  unfold AoiReplica.visit
  by_cases hskip : ((!inc && id == o) || decide (id ∈ acc.1)) = true
  · -- the candidate is the observer itself, or was seen before
    rw [if_pos hskip]
    rw [Bool.or_eq_true, hself, decide_eq_true_eq] at hskip
    refine ⟨fun i => ?_, h.out, h.nodup⟩
    rw [h.seen]
    refine and_congr_right fun hi => ⟨fun ⟨j, hj⟩ => ⟨j, List.mem_append_left _ hj⟩, ?_⟩
    rintro ⟨j, hj⟩
    rcases List.mem_append.mp hj with hj | hj
    · exact ⟨j, hj⟩
    · obtain ⟨rfl, rfl⟩ : j = idx ∧ i = id := by simpa using hj
      rcases hskip with hskip | hskip
      · exact absurd hi hskip
      · exact ((h.seen i).mp hskip).2
  · rw [if_neg hskip]
    rw [Bool.or_eq_true, hself, decide_eq_true_eq, not_or, not_not] at hskip
    obtain ⟨hok, hnew⟩ := hskip
    simp only [he, hcell, if_true]
    refine ⟨fun i => ?_, fun e' => ?_, ?_⟩
    · simp only [Finset.mem_insert, h.seen, List.mem_append, List.mem_singleton, Prod.mk.injEq]
      constructor
      · rintro (rfl | ⟨hi, j, hj⟩)
        · exact ⟨hok, idx, .inr ⟨rfl, rfl⟩⟩
        · exact ⟨hi, j, .inl hj⟩
      · rintro ⟨hi, j, hj | ⟨_, rfl⟩⟩
        · exact .inr ⟨hi, j, hj⟩
        · exact .inl rfl
    · simp only [List.mem_append, List.mem_singleton, Finset.mem_insert, h.out]
      constructor
      · rintro (⟨hs, hl⟩ | rfl)
        · exact ⟨.inr hs, hl⟩
        · exact ⟨.inl hkey, hkey ▸ he⟩
      · rintro ⟨hid | hs, hl⟩
        · rw [hid, he] at hl
          exact .inr (Option.some.inj hl).symm
        · exact .inl ⟨hs, hl⟩
    · rw [List.map_append, List.nodup_append]
      refine ⟨h.nodup, by simp, ?_⟩
      intro i hi j hj heq
      obtain ⟨e', he', rfl⟩ := List.mem_map.mp hi
      obtain rfl : j = id := by simpa [hkey] using hj
      exact hnew (heq ▸ ((h.out e').mp he').1)

/-- The candidates in the order the two loops meet them. -/
def candidates (g : AoiGrid) (cells : Cells) (watch : List Nat) : List (Nat × EntityId) :=
  watch.flatMap fun idx => (g.entities cells idx).map fun id => (idx, id)

theorem scanned_all {ps : List (Nat × EntityId)}
    (hps : ∀ p ∈ ps, ∃ e, rep.ents.lookup p.2 = some e ∧ e.entityId = p.2 ∧ e.cellIdx = p.1) :
    Scanned rep o inc ps (ps.foldl (fun acc p => visit rep o inc p.1 acc p.2) (∅, [])) := by
  induction ps using List.reverseRecOn with
  | nil => exact ⟨by simp, by simp, by simp⟩
  | append_singleton ps p ih =>
    rw [List.foldl_append]
    obtain ⟨e, he, hkey, hcell⟩ := hps p (by simp)
    exact (ih fun q hq => hps q (List.mem_append_left _ hq)).visit he hkey hcell

variable {g : AoiGrid} {wId : WorkerId}

/-- The query finds exactly the entities placed in the observer's square, each once. -/
theorem getVisibleEntity_some (h : Agree g wId rep.ents rep.cells) {ob : AoiEntity}
    (hob : rep.ents.lookup o = some ob) {res : Bool × List AoiEntity}
    (hrun : getVisibleEntity g rep o inc = some res) :
    res.1 = true ∧ (res.2.map (·.entityId)).Nodup ∧
      ∀ e, e ∈ res.2 ↔ rep.ents.lookup e.entityId = some e ∧ (inc = true ∨ e.entityId ≠ o) ∧
        e.cellIdx ∈ g.watchSquare ob.cellIdx := by
  simp only [getVisibleEntity, findById, hob, Option.bind_eq_bind, Option.bind_eq_some_iff] at hrun
  obtain ⟨watch, hwatch, hres⟩ := hrun
  cases AoiGrid.getWatchCellIdx_some (h.cell _ _ hob) hwatch
  cases hres
  have hfold : (g.watchSquare ob.cellIdx).foldl
      (fun acc idx => (g.entities rep.cells idx).foldl (visit rep o inc idx) acc) (∅, []) =
      (candidates g rep.cells (g.watchSquare ob.cellIdx)).foldl
        (fun acc p => visit rep o inc p.1 acc p.2) (∅, []) := by
    rw [candidates, List.foldl_flatMap]
    simp only [List.foldl_map]
  have hmem : ∀ p, p ∈ candidates g rep.cells (g.watchSquare ob.cellIdx) ↔
      p.1 ∈ g.watchSquare ob.cellIdx ∧ ∃ e, rep.ents.lookup p.2 = some e ∧ e.cellIdx = p.1 := by
    rintro ⟨idx, id⟩
    simp [candidates, h.mem_entities]
  have hscan : Scanned rep o inc (candidates g rep.cells (g.watchSquare ob.cellIdx)) _ :=
    scanned_all fun p hp =>
    let ⟨_, e, he, hcell⟩ := (hmem p).mp hp
    ⟨e, he, h.key _ _ he, hcell⟩
  rw [← hfold] at hscan
  refine ⟨rfl, hscan.nodup, fun e => ?_⟩
  rw [hscan.out, hscan.seen]
  constructor
  · rintro ⟨⟨hok, idx, hidx⟩, he⟩
    obtain ⟨hsq, e', he', hcell⟩ := (hmem _).mp hidx
    cases he.symm.trans he'
    exact ⟨he, hok, hcell ▸ hsq⟩
  · rintro ⟨he, hok, hsq⟩
    exact ⟨⟨hok, e.cellIdx, (hmem _).mpr ⟨hsq, e, he, rfl⟩⟩, he⟩

variable (inc) in
theorem getVisibleEntity_of_fits (h : Agree g wId rep.ents rep.cells) {ob : AoiEntity}
    (hob : rep.ents.lookup o = some ob) (hfit : g.Fits ob.cellIdx) :
    ∃ res, getVisibleEntity g rep o inc = some res := by
  simp only [getVisibleEntity, findById, hob,
    AoiGrid.getWatchCellIdx_of_fits (h.cell _ _ hob) hfit, Option.bind_eq_bind, Option.bind_some]
  exact ⟨_, rfl⟩

end Query

section Runs

/-- A call that changes the replica. -/
inductive Call where
  | apply (ev : AoiEvent) (src : Source)
  | applyOwnerSnapshot (snap : AoiOwnerSnapshot)

variable (sc : Scene) (wId : WorkerId)

def call (s : AoiReplica × Observers) : Call → Option (ApplyResult × AoiReplica × Observers)
  | .apply ev src => apply sc wId s.1 ev src s.2
  | .applyOwnerSnapshot snap => some (applyOwnerSnapshot sc wId s.1 snap s.2)

def step (s : AoiReplica × Observers) (c : Call) : Option (AoiReplica × Observers) :=
  (call sc wId s c).map (·.2)

/-- The grid lists what the table says, and the query answers by Chebyshev distance. -/
structure Represents (rep : AoiReplica) : Prop where
  listed : ∀ id e, rep.ents.lookup id = some e →
    ∃ cell, sc.grid.tryCellOf e.x e.y = some cell ∧
      ∀ c, (rep.cells c).entys.count id = if c = cell then 1 else 0
  watcher : ∀ id e, rep.ents.lookup id = some e → e.ownerWorker = wId →
    ∃ cell, sc.grid.tryCellOf e.x e.y = some cell ∧
      ∀ c, (rep.cells c).watchers.count id =
        if RowMajor.Near sc.grid.cols sc.grid.r cell c ∧ c < sc.grid.size then 1 else 0
  remote : ∀ id e, rep.ents.lookup id = some e → e.ownerWorker ≠ wId →
    ∀ c, id ∉ (rep.cells c).watchers
  visible : ∀ o ob cell, rep.ents.lookup o = some ob → sc.grid.tryCellOf ob.x ob.y = some cell →
    ∃ out, getVisibleEntity sc.grid rep o false = some (true, out) ∧
      (out.map (·.entityId)).Nodup ∧
      ∀ e, e ∈ out ↔ rep.ents.lookup e.entityId = some e ∧ e.entityId ≠ o ∧
        ∃ c, sc.grid.tryCellOf e.x e.y = some c ∧ RowMajor.Near sc.grid.cols sc.grid.r cell c

/-- Every sequence of calls from the empty replica runs, represents the entities, and
a call that is not applied changes nothing. -/
def RunsRepresent : Prop :=
  ∀ (calls : List Call) (dirty : Observers),
    ∃ s, Run.exec (step sc wId) ({}, dirty) calls = some s ∧ Represents sc wId s.1 ∧
      ∀ c res s', call sc wId s c = some (res, s') → res ≠ .applied → s' = s

variable {sc wId}

theorem call_unchanged {s s' : AoiReplica × Observers} {c : Call} {res : ApplyResult}
    (h : call sc wId s c = some (res, s')) (hres : res ≠ .applied) : s' = s := by
  cases c with
  | apply ev src =>
    obtain ⟨h1, h2⟩ := apply_unchanged h hres
    exact Prod.ext h1 h2
  | applyOwnerSnapshot snap =>
    obtain ⟨h1, h2⟩ := applyOwnerSnapshot_unchanged (Option.some.inj h) hres
    exact Prod.ext h1 h2

theorem call_agree {s s' : AoiReplica × Observers} {c : Call} {res : ApplyResult}
    (hs : Agree sc.grid wId s.1.ents s.1.cells) (h : call sc wId s c = some (res, s')) :
    Agree sc.grid wId s'.1.ents s'.1.cells := by
  by_cases hres : res = .applied
  · subst hres
    cases c with
    | apply ev src =>
      obtain ⟨_, _, heff⟩ := apply_applied hs h
      exact heff.updated.agree hs
    | applyOwnerSnapshot snap =>
      obtain ⟨_, heff⟩ := applyOwnerSnapshot_applied hs (Option.some.inj h)
      exact heff.agree
  · rw [call_unchanged h hres]
    exact hs

theorem step_agree {s s' : AoiReplica × Observers} {c : Call}
    (hs : Agree sc.grid wId s.1.ents s.1.cells) (h : step sc wId s c = some s') :
    Agree sc.grid wId s'.1.ents s'.1.cells := by
  obtain ⟨⟨res, t⟩, ht, rfl⟩ := Option.map_eq_some_iff.mp h
  exact call_agree hs ht

/-- No cell of the scene lets the borders of a square leave `int32_t`. -/
def NoOverflow (sc : Scene) : Prop :=
  sc.grid.cols - 1 + sc.grid.r ≤ int32Max ∧ sc.grid.rows - 1 + sc.grid.r ≤ int32Max

theorem NoOverflow.fits (h : NoOverflow sc) {c : Nat} (hc : c < sc.grid.size) :
    sc.grid.Fits c := by
  have hcol := AoiGrid.cell_mod_lt (g := sc.grid) c
  have hrow := AoiGrid.cell_div_lt hc
  obtain ⟨h1, h2⟩ := h
  unfold AoiGrid.Fits
  omega

theorem NoOverflow.getWatchCellIdx (h : NoOverflow sc) (x y : Nat) :
    ∃ watch, sc.grid.getWatchCellIdx x y = some watch := by
  cases hcell : sc.grid.tryCellOf x y with
  | none => exact ⟨[], by simp [AoiGrid.getWatchCellIdx, hcell]⟩
  | some cell =>
    exact ⟨_, AoiGrid.getWatchCellIdx_of_fits hcell (h.fits (AoiGrid.tryCellOf_lt hcell))⟩

theorem NoOverflow.processLocal (h : NoOverflow sc) (rep : AoiReplica) (ev : AoiEvent)
    (cellIdx : Nat) (dirty : Observers) :
    ∃ out, processLocalAoiMsg sc.grid rep ev cellIdx dirty = some out := by
  obtain ⟨watch, hwatch⟩ := h.getWatchCellIdx ev.target_x ev.target_y
  unfold processLocalAoiMsg
  cases ev.msgKind with
  | entry =>
    unfold onLocalEntry
    cases hlook : rep.ents.lookup ev.eId with
    | none => simp [hwatch]
    | some ent =>
      obtain ⟨oldWatch, hold⟩ := h.getWatchCellIdx ent.x ent.y
      simp [hwatch, hold]
  | move =>
    unfold onLocalMove
    cases hlook : rep.ents.lookup ev.eId with
    | none => simp
    | some ent =>
      obtain ⟨oldWatch, hold⟩ := h.getWatchCellIdx ent.x ent.y
      by_cases hcell : cellIdx = ent.cellIdx <;> simp [hwatch, hold, hcell]
  | leave =>
    unfold onLocalLeave
    cases hlook : rep.ents.lookup ev.eId with
    | none => simp
    | some ent =>
      obtain ⟨oldWatch, hold⟩ := h.getWatchCellIdx ent.x ent.y
      simp [hold]
  | invalid => exact ⟨_, rfl⟩

variable (wId) in
theorem NoOverflow.step (h : NoOverflow sc) (s : AoiReplica × Observers) (c : Call) :
    ∃ t, step sc wId s c = some t := by
  cases c with
  | apply ev src =>
    simp only [AoiReplica.step, call, apply, Option.map_eq_some_iff]
    cases check sc wId s.1 ev src with
    | error res => simp
    | ok cellIdx =>
      cases src with
      | kLocal =>
        obtain ⟨out, hout⟩ := h.processLocal s.1 ev cellIdx s.2
        simp [hout]
      | kRemote => simp
  | applyOwnerSnapshot snap => exact ⟨_, rfl⟩

variable (wId) in
theorem NoOverflow.exec (h : NoOverflow sc) (s : AoiReplica × Observers) (calls : List Call) :
    ∃ t, Run.exec (AoiReplica.step sc wId) s calls = some t := by
  induction calls generalizing s with
  | nil => exact ⟨s, rfl⟩
  | cons c calls ih =>
    obtain ⟨t, ht⟩ := h.step wId s c
    obtain ⟨u, hu⟩ := ih t
    exact ⟨u, by rw [Run.exec_cons, ht]; exact hu⟩

theorem represents_of_agree (hfit : NoOverflow sc) {rep : AoiReplica}
    (h : Agree sc.grid wId rep.ents rep.cells) : Represents sc wId rep where
  listed := fun id e he => by
    refine ⟨e.cellIdx, h.cell id e he, fun c => ?_⟩
    rw [h.listed, he, listedAt_some]
    simp only [eq_comm]
  watcher := fun id e he hown => by
    refine ⟨e.cellIdx, h.cell id e he, fun c => ?_⟩
    rw [h.watched, he, watchesAt_local hown]
    simp only [AoiGrid.mem_watchSquare (h.cell_lt he)]
  remote := fun id e he hown c => by
    rw [← List.count_pos_iff, h.watched, he, watchesAt_remote hown]
    exact Nat.lt_irrefl 0
  visible := fun o ob cell hob hcell => by
    obtain rfl : ob.cellIdx = cell := Option.some.inj ((h.cell o ob hob).symm.trans hcell)
    have hlt := h.cell_lt hob
    obtain ⟨⟨ok, out⟩, hrun⟩ := getVisibleEntity_of_fits false h hob (hfit.fits hlt)
    obtain ⟨rfl, hnd, hmem⟩ := getVisibleEntity_some h hob hrun
    refine ⟨out, hrun, hnd, fun e => ?_⟩
    rw [hmem]
    simp only [Bool.false_eq_true, false_or]
    refine and_congr_right fun he => and_congr_right fun _ => ?_
    rw [AoiGrid.mem_watchSquare hlt, h.cell _ e he]
    simp [h.cell_lt he]

/-- The position of the first point of the last cell of the scene. -/
def lastCell (sc : Scene) : Nat × Nat :=
  ((sc.grid.cols - 1) * sc.grid.cellSize, (sc.grid.rows - 1) * sc.grid.cellSize)

theorem tryCellOf_lastCell (sc : Scene) :
    sc.grid.tryCellOf (lastCell sc).1 (lastCell sc).2 =
      some ((sc.grid.rows - 1) * sc.grid.cols + (sc.grid.cols - 1)) := by
  have hcell := sc.grid.cellSize_pos
  have hcols := sc.grid.cols_pos
  have hrows := sc.grid.rows_pos
  have hlt : ∀ n, 0 < n → (n - 1) * sc.grid.cellSize < n * sc.grid.cellSize :=
    fun n hn => Nat.mul_lt_mul_of_pos_right (by omega) hcell
  have hminX : sc.grid.minX = 0 := rfl
  have hminY : sc.grid.minY = 0 := rfl
  unfold AoiGrid.tryCellOf lastCell
  rw [if_neg (by omega), if_neg]
  · simp [hminX, hminY, Nat.mul_div_cancel _ hcell]
  · have h1 := hlt _ hcols
    have h2 := hlt _ hrows
    omega

/-- A player of this worker entering at the last cell. -/
def enterLastCell (sc : Scene) (wId : WorkerId) : AoiEvent where
  msgKind := .entry
  entityKind := .player
  eId := 1
  businessId := 1
  target_x := (lastCell sc).1
  target_y := (lastCell sc).2
  target_dir := 0
  entityGeneration := 1
  actorEpoch := 1
  spatialVersion := 1
  ownerThreadId := wId
  ownerSeq := 1

theorem noOverflow_of_runs (h : RunsRepresent sc wId) : NoOverflow sc := by
  obtain ⟨s, hs, -⟩ := h [.apply (enterLastCell sc wId) .kLocal] ∅
  obtain ⟨t, ht, -⟩ := Run.exec_cons_some hs
  have hlastX : (lastCell sc).1 < sc.map.length :=
    sub_one_mul_lt sc.map.cellSize_pos sc.map.length_pos
  have hlastY : (lastCell sc).2 < sc.map.width :=
    sub_one_mul_lt sc.map.cellSize_pos sc.map.width_pos
  have hcheck : check sc wId {} (enterLastCell sc wId) .kLocal =
      .ok ((sc.grid.rows - 1) * sc.grid.cols + (sc.grid.cols - 1)) := by
    refine check_cases.mpr ⟨?_, ?_, ?_⟩
    · simp [checkSource, enterLastCell, validEntityKind]
    · simp [checkLife]
    · simp only [checkTarget, enterLastCell, tryCellOf_lastCell]
      simp
      omega
  have hcols := sc.grid.cols_pos
  by_contra hover
  have hfit : ¬ sc.grid.Fits ((sc.grid.rows - 1) * sc.grid.cols + (sc.grid.cols - 1)) := by
    unfold AoiGrid.Fits
    rw [RowMajor.index_mod (by omega), RowMajor.index_div (by omega)]
    exact hover
  have hnone : sc.grid.getWatchCellIdx (lastCell sc).1 (lastCell sc).2 = none :=
    AoiGrid.getWatchCellIdx_of_not_fits (tryCellOf_lastCell sc) hfit
  simp only [step, call, apply, hcheck] at ht
  simp [processLocalAoiMsg, onLocalEntry, enterLastCell, hnone] at ht

/-- Two cells and the largest view range that the configuration check lets pass. -/
def wideScene : Scene where
  cfg := { cellSize := 1, viewRange := 2147483647 }
  map :=
    { length := 2
      width := 1
      cellSize := 1
      cellSize_pos := by decide
      cellSize_le := by decide
      length_pos := by decide
      width_pos := by decide
      length_le := by decide
      width_le := by decide
      cells_le := by decide }
  valid := rfl
  sameCell := rfl

theorem wideScene_overflows : ¬ RunsRepresent wideScene 1 := by
  intro h
  obtain ⟨s, hs, -⟩ := h [.apply (enterLastCell wideScene 1) .kLocal] ∅
  have hnone : (step wideScene 1 ({}, ∅) (.apply (enterLastCell wideScene 1) .kLocal)).isNone := by
    decide
  obtain ⟨t, ht, -⟩ := Run.exec_cons_some hs
  rw [ht] at hnone
  cases hnone

/-- The replica represents the scene in every run exactly when no square can overflow. -/
theorem runs_represent_iff : RunsRepresent sc wId ↔ NoOverflow sc := by
  refine ⟨noOverflow_of_runs, fun hfit calls dirty => ?_⟩
  obtain ⟨s, hs⟩ := hfit.exec wId ({}, dirty) calls
  have hagree : Agree sc.grid wId s.1.ents s.1.cells :=
    Run.exec_invariant (fun s => Agree sc.grid wId s.1.ents s.1.cells)
      (fun _ _ _ hi hst => step_agree hi hst) agree_empty hs
  exact ⟨s, hs, represents_of_agree hfit hagree, fun _ _ _ => call_unchanged⟩

end Runs

end AoiReplica

end Aoi
