import Mathlib.Data.Finset.Basic
import GameServer.Lib.RowMajor
import GameServer.Aoi.Types

/-!
# The AOI grid

Every cell lists the entities in it and the observers watching it. An observer
watches the square of cells within `r` of its own, clipped at the borders.
-/

namespace Aoi

structure AoiCell where
  entys : List EntityId := []
  watchers : List EntityId := []
  deriving DecidableEq, Repr

/-- The grid of a scene. The last fields are what the map and configuration checks leave. -/
structure AoiGrid where
  minX : Nat
  minY : Nat
  cols : Nat
  rows : Nat
  cellSize : Nat
  r : Nat
  cols_pos : 0 < cols
  rows_pos : 0 < rows
  cellSize_pos : 0 < cellSize
  cols_le : cols ≤ int32Max
  rows_le : rows ≤ int32Max
  size_le : cols * rows ≤ uint32Max
  r_le : r ≤ int32Max

/-- `cells_`, by index. Only indices below `AoiGrid.size` are ever written. -/
abbrev Cells := Nat → AoiCell

def Scene.grid (sc : Scene) : AoiGrid where
  minX := sc.map.getMinX
  minY := sc.map.getMinY
  cols := sc.map.getCols
  rows := sc.map.getRows
  cellSize := sc.map.cellSize
  r := sc.cfg.viewRadiusCells
  cols_pos := sc.map.getCols_pos
  rows_pos := sc.map.getRows_pos
  cellSize_pos := sc.map.cellSize_pos
  cols_le := sc.map.getCols_le
  rows_le := sc.map.getRows_le
  size_le := sc.map.cells_le
  r_le := AoiConfig.viewRadiusCells_le sc.valid

namespace AoiGrid

variable (g : AoiGrid)

/-- `cells_.size()` -/
def size : Nat := g.cols * g.rows

/-- Coordinates to a cell index. The source computes the borders in 64 bits. -/
def tryCellOf (x y : Nat) : Option Nat :=
  if g.cellSize = 0 ∨ g.cols = 0 ∨ g.rows = 0 then none
  else if x < g.minX ∨ g.minX + g.cols * g.cellSize ≤ x ∨
      y < g.minY ∨ g.minY + g.rows * g.cellSize ≤ y then none
  else
    let col := (x - g.minX) / g.cellSize
    let row := (y - g.minY) / g.cellSize
    some (row * g.cols + col)

/-- The two loops of `getWatchCellIdx`: the square around a cell, clipped to the grid. -/
def watchSquare (cell : Nat) : List Nat :=
  let centerCol := cell % g.cols
  let centerRow := cell / g.cols
  let col0 := centerCol - g.r
  let row0 := centerRow - g.r
  let col1 := min (centerCol + g.r) (g.cols - 1)
  let row1 := min (centerRow + g.r) (g.rows - 1)
  RowMajor.rect g.cols row0 (row1 + 1 - row0) col0 (col1 + 1 - col0)

/-- `centerCol + r` and `centerRow + r` stay within `int32_t`. -/
def Fits (cell : Nat) : Prop :=
  cell % g.cols + g.r ≤ int32Max ∧ cell / g.cols + g.r ≤ int32Max

instance (cell : Nat) : Decidable (g.Fits cell) := inferInstanceAs (Decidable (_ ∧ _))

/-- `none` is a signed overflow, after which the source's behaviour is undefined. -/
def getWatchCellIdx (x y : Nat) : Option (List Nat) :=
  match g.tryCellOf x y with
  | none => some []
  | some cell => if g.Fits cell then some (g.watchSquare cell) else none

def visible (cellA cellB : Nat) : Bool :=
  if g.size ≤ cellA ∨ g.size ≤ cellB then false
  else
    Nat.dist (cellA % g.cols) (cellB % g.cols) ≤ g.r ∧
      Nat.dist (cellA / g.cols) (cellB / g.cols) ≤ g.r

def entities (cells : Cells) (cell : Nat) : List EntityId :=
  if g.size ≤ cell then [] else (cells cell).entys

def watchers (cells : Cells) (cell : Nat) : List EntityId :=
  if g.size ≤ cell then [] else (cells cell).watchers

def addEntity (cells : Cells) (entityId : EntityId) (cell : Nat) : Cells :=
  if g.size ≤ cell then cells
  else Function.update cells cell
    { cells cell with entys := (cells cell).entys ++ [entityId] }

def removeEntity (cells : Cells) (entityId : EntityId) (cell : Nat) : Cells :=
  if g.size ≤ cell then cells
  else Function.update cells cell
    { cells cell with entys := (cells cell).entys.filter (· ≠ entityId) }

def addWatcher (cells : Cells) (observerId : EntityId) (cell : Nat) : Cells :=
  if g.size ≤ cell then cells
  else Function.update cells cell
    { cells cell with watchers := (cells cell).watchers ++ [observerId] }

def removeWatcher (cells : Cells) (observerId : EntityId) (cell : Nat) : Cells :=
  if g.size ≤ cell then cells
  else Function.update cells cell
    { cells cell with watchers := (cells cell).watchers.filter (· ≠ observerId) }

/-- `for (auto idx : watch) grid_->addWatcher(id, idx)` -/
def addWatchers (cells : Cells) (observerId : EntityId) (watch : List Nat) : Cells :=
  watch.foldl (fun cs idx => g.addWatcher cs observerId idx) cells

/-- `for (auto idx : watch) grid_->removeWatcher(id, idx)` -/
def removeWatchers (cells : Cells) (observerId : EntityId) (watch : List Nat) : Cells :=
  watch.foldl (fun cs idx => g.removeWatcher cs observerId idx) cells

variable {g}

theorem cell_mod_lt (cell : Nat) : cell % g.cols < g.cols := Nat.mod_lt _ g.cols_pos

theorem cell_div_lt {cell : Nat} (h : cell < g.size) : cell / g.cols < g.rows :=
  Nat.div_lt_of_lt_mul h

theorem tryCellOf_lt {x y cell : Nat} (h : g.tryCellOf x y = some cell) : cell < g.size := by
  unfold tryCellOf at h
  split at h
  · cases h
  split at h
  · cases h
  rename_i hin
  push Not at hin
  obtain ⟨hx, hx', hy, hy'⟩ := hin
  have hcol : (x - g.minX) / g.cellSize < g.cols :=
    Nat.div_lt_of_lt_mul (by rw [Nat.mul_comm]; omega)
  have hrow : (y - g.minY) / g.cellSize < g.rows :=
    Nat.div_lt_of_lt_mul (by rw [Nat.mul_comm]; omega)
  cases h
  calc (y - g.minY) / g.cellSize * g.cols + (x - g.minX) / g.cellSize
      < (y - g.minY) / g.cellSize * g.cols + g.cols := by omega
    _ = ((y - g.minY) / g.cellSize + 1) * g.cols := by rw [Nat.add_mul, Nat.one_mul]
    _ ≤ g.rows * g.cols := Nat.mul_le_mul_right _ hrow
    _ = g.size := Nat.mul_comm _ _

/-- The square holds exactly the cells of the grid at Chebyshev distance at most `r`. -/
theorem mem_watchSquare {cell c : Nat} (h : cell < g.size) :
    c ∈ g.watchSquare cell ↔ RowMajor.Near g.cols g.r cell c ∧ c < g.size := by
  have hcol := cell_mod_lt (g := g) cell
  have hrow := cell_div_lt h
  unfold watchSquare
  rw [RowMajor.mem_rect (by omega), RowMajor.mem_clipped hrow, RowMajor.mem_clipped hcol]
  have hc := cell_mod_lt (g := g) c
  have hlt : c / g.cols < g.rows ↔ c < g.size :=
    ⟨fun hr => (Nat.div_lt_iff_lt_mul g.cols_pos).mp hr |>.trans_eq (Nat.mul_comm _ _),
      cell_div_lt⟩
  simp only [RowMajor.Near, hlt]
  tauto

theorem nodup_watchSquare (cell : Nat) : (g.watchSquare cell).Nodup := by
  have hcol := cell_mod_lt (g := g) cell
  exact RowMajor.nodup_rect (by omega)

theorem watchSquare_lt {cell c : Nat} (h : cell < g.size) (hc : c ∈ g.watchSquare cell) :
    c < g.size := ((mem_watchSquare h).mp hc).2

theorem self_mem_watchSquare {cell : Nat} (h : cell < g.size) : cell ∈ g.watchSquare cell :=
  (mem_watchSquare h).mpr ⟨RowMajor.near_self _ _ _, h⟩

/-- Watching is mutual: `c` lies in the square of `d` just when `d` lies in that of `c`. -/
theorem mem_watchSquare_comm {c d : Nat} (hc : c < g.size) (hd : d < g.size) :
    c ∈ g.watchSquare d ↔ d ∈ g.watchSquare c := by
  rw [mem_watchSquare hd, mem_watchSquare hc, RowMajor.near_comm]
  simp [hc, hd]

theorem visible_iff {a b : Nat} (ha : a < g.size) :
    g.visible a b = true ↔ b ∈ g.watchSquare a := by
  rw [mem_watchSquare ha]
  unfold visible
  split
  · simp; omega
  · rename_i h
    simp only [RowMajor.Near, decide_eq_true_eq]
    omega

theorem getWatchCellIdx_some {x y cell : Nat} {watch : List Nat}
    (hcell : g.tryCellOf x y = some cell) (h : g.getWatchCellIdx x y = some watch) :
    watch = g.watchSquare cell := by
  simp only [getWatchCellIdx, hcell] at h
  split at h
  · exact (Option.some.inj h).symm
  · cases h

theorem getWatchCellIdx_of_fits {x y cell : Nat} (hcell : g.tryCellOf x y = some cell)
    (hfit : g.Fits cell) : g.getWatchCellIdx x y = some (g.watchSquare cell) := by
  simp [getWatchCellIdx, hcell, hfit]

theorem getWatchCellIdx_of_not_fits {x y cell : Nat} (hcell : g.tryCellOf x y = some cell)
    (hfit : ¬ g.Fits cell) : g.getWatchCellIdx x y = none := by
  simp [getWatchCellIdx, hcell, hfit]

section Counts

/-! How often an id is listed after each update. -/

variable {cells : Cells} {id i : EntityId} {cell c : Nat}

@[simp] theorem entys_addWatcher : (g.addWatcher cells id cell c).entys = (cells c).entys := by
  unfold addWatcher
  split
  · rfl
  · by_cases h : c = cell <;> simp [h]

@[simp] theorem entys_removeWatcher :
    (g.removeWatcher cells id cell c).entys = (cells c).entys := by
  unfold removeWatcher
  split
  · rfl
  · by_cases h : c = cell <;> simp [h]

@[simp] theorem entys_addWatchers {watch : List Nat} :
    (g.addWatchers cells id watch c).entys = (cells c).entys := by
  induction watch generalizing cells with
  | nil => rfl
  | cons w ws ih => exact ih.trans entys_addWatcher

@[simp] theorem entys_removeWatchers {watch : List Nat} :
    (g.removeWatchers cells id watch c).entys = (cells c).entys := by
  induction watch generalizing cells with
  | nil => rfl
  | cons w ws ih => exact ih.trans entys_removeWatcher

@[simp] theorem watchers_addEntity :
    (g.addEntity cells id cell c).watchers = (cells c).watchers := by
  unfold addEntity
  split
  · rfl
  · by_cases h : c = cell <;> simp [h]

@[simp] theorem watchers_removeEntity :
    (g.removeEntity cells id cell c).watchers = (cells c).watchers := by
  unfold removeEntity
  split
  · rfl
  · by_cases h : c = cell <;> simp [h]

theorem count_filter_ne {l : List EntityId} :
    (l.filter (· ≠ id)).count i = if i = id then 0 else l.count i := by
  split
  · rename_i h
    simp [h, List.count_eq_zero]
  · rename_i h
    exact List.count_filter (by simpa using h)

theorem count_entys_addEntity (hcell : cell < g.size) :
    (g.addEntity cells id cell c).entys.count i =
      (cells c).entys.count i + if i = id ∧ c = cell then 1 else 0 := by
  unfold addEntity
  rw [if_neg (by omega)]
  by_cases h : c = cell
  · subst h
    simp [List.count_singleton, eq_comm (a := i)]
  · simp [h]

theorem count_entys_removeEntity (hcell : cell < g.size) :
    (g.removeEntity cells id cell c).entys.count i =
      if i = id ∧ c = cell then 0 else (cells c).entys.count i := by
  unfold removeEntity
  rw [if_neg (by omega)]
  by_cases h : c = cell
  · subst h
    simpa using count_filter_ne
  · simp [h]

theorem count_watchers_addWatcher (hcell : cell < g.size) :
    (g.addWatcher cells id cell c).watchers.count i =
      (cells c).watchers.count i + if i = id ∧ c = cell then 1 else 0 := by
  unfold addWatcher
  rw [if_neg (by omega)]
  by_cases h : c = cell
  · subst h
    simp [List.count_singleton, eq_comm (a := i)]
  · simp [h]

theorem count_watchers_removeWatcher (hcell : cell < g.size) :
    (g.removeWatcher cells id cell c).watchers.count i =
      if i = id ∧ c = cell then 0 else (cells c).watchers.count i := by
  unfold removeWatcher
  rw [if_neg (by omega)]
  by_cases h : c = cell
  · subst h
    simpa using count_filter_ne
  · simp [h]

theorem count_watchers_addWatchers {watch : List Nat} (hnd : watch.Nodup)
    (hin : ∀ w ∈ watch, w < g.size) :
    (g.addWatchers cells id watch c).watchers.count i =
      (cells c).watchers.count i + if i = id ∧ c ∈ watch then 1 else 0 := by
  induction watch generalizing cells with
  | nil => simp [addWatchers]
  | cons w ws ih =>
    have hw := List.nodup_cons.mp hnd
    have hstep := @ih (g.addWatcher cells id w) hw.2
      fun v hv => hin v (List.mem_cons_of_mem _ hv)
    simp only [addWatchers, List.foldl_cons] at hstep ⊢
    rw [hstep, count_watchers_addWatcher (hin w List.mem_cons_self)]
    by_cases hc : c = w
    · subst hc
      simp [hw.1]
    · simp [hc]

theorem count_watchers_removeWatchers {watch : List Nat} (hin : ∀ w ∈ watch, w < g.size) :
    (g.removeWatchers cells id watch c).watchers.count i =
      if i = id ∧ c ∈ watch then 0 else (cells c).watchers.count i := by
  induction watch generalizing cells with
  | nil => simp [removeWatchers]
  | cons w ws ih =>
    have hstep := @ih (g.removeWatcher cells id w)
      fun v hv => hin v (List.mem_cons_of_mem _ hv)
    simp only [removeWatchers, List.foldl_cons] at hstep ⊢
    rw [hstep, count_watchers_removeWatcher (hin w List.mem_cons_self)]
    by_cases hi : i = id
    · by_cases hc : c = w <;> by_cases hm : c ∈ ws <;> simp [hi, hc, hm]
    · simp [hi]

end Counts

end AoiGrid

end Aoi
