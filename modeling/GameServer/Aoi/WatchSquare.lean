import GameServer.Lib.Checked
import GameServer.Aoi.ServiceInvariant
import GameServer.Aoi.Visible

/-!
# The arithmetic of the watch square

`getWatchCellIdx` and `visible` narrow columns, rows and the radius to 32-bit signed
integers. Here each of their operations is checked on its own; on the grids that a
configuration and a map can make, only the sums of a column or a row with the radius
can overflow.
-/

namespace Aoi

open Checked

namespace AoiGrid

variable (g : AoiGrid)

/-- The borders of the square in one direction, clipped to `len` cells. -/
def borders (center len r : Int) : Option (Int × Int) := do
  let first ← int32 (center - r)
  let last ← int32 (center + r)
  let last ← if len ≤ last then int32 (len - 1) else some last
  some (if first < 0 then 0 else first, last)

/-- `last - first + 1`, for the room that is reserved. -/
def extent (first last : Int) : Option Int := do int32 ((← int32 (last - first)) + 1)

/-- One row of the square, with the indices of its cells computed in 32 bits. -/
def rowCells (col0 col1 j : Int) : Option (List Nat) :=
  (upTo col0 col1).map fun is => is.map fun i => (j.toNat * g.cols + i.toNat) % 2 ^ 32

/-- `getWatchCellIdx` as it computes; `none` is a signed overflow. -/
def watchCells (x y : Nat) : Option (List Nat) :=
  match g.tryCellOf x y with
  | none => some []
  | some idx => do
    let (col0, col1) ← borders (ofUInt32 (idx % g.cols)) (ofUInt32 g.cols) (ofUInt32 g.r)
    let (row0, row1) ← borders (ofUInt32 (idx / g.cols)) (ofUInt32 g.rows) (ofUInt32 g.r)
    let _ ← extent col0 col1
    let _ ← extent row0 row1
    let rows ← (← upTo row0 row1).mapM (g.rowCells col0 col1)
    some rows.flatten

/-- The distance of two columns or rows. -/
def apart (a b : Int) : Option Int := int32 (if a > b then a - b else b - a)

/-- `visible` as it computes. -/
def sees (cellA cellB : Nat) : Option Bool :=
  if g.size ≤ cellA ∨ g.size ≤ cellB then some false
  else do
    let dx ← apart (ofUInt32 (cellA % g.cols)) (ofUInt32 (cellB % g.cols))
    let dy ← apart (ofUInt32 (cellA / g.cols)) (ofUInt32 (cellB / g.cols))
    some (dx ≤ ofUInt32 g.r ∧ dy ≤ ofUInt32 g.r)

section Axis

variable {center len r : Nat}

theorem maxInt32_eq : maxInt32 = int32Max := rfl

theorem minInt32_eq : minInt32 = -(int32Max : Int) - 1 := rfl

theorem ofUInt32_le {n : Nat} (h : n ≤ int32Max) : ofUInt32 n = n :=
  ofUInt32_eq (by rw [maxInt32_eq]; omega)

/-- Only the sum with the radius can overflow. -/
theorem borders_eq (hcenter : center < len) (hlen : len ≤ int32Max) (hr : r ≤ int32Max) :
    borders center len r =
      if center + r ≤ int32Max then
        some (((center - r : Nat) : Int), ((min (center + r) (len - 1) : Nat) : Int))
      else none := by
  have hmax := maxInt32_eq
  have hmin := minInt32_eq
  unfold borders
  rw [@int32_eq (center - r) (by omega) (by omega)]
  by_cases hfit : center + r ≤ int32Max
  · rw [if_pos hfit, @int32_eq (center + r) (by omega) (by omega)]
    simp only [Option.bind_eq_bind, Option.bind_some]
    have hfirst : (if (center : Int) - r < 0 then 0 else (center : Int) - r) =
        ((center - r : Nat) : Int) := by
      split <;> omega
    rw [hfirst]
    split
    · rw [int32_eq (by omega) (by omega), Option.bind_some]
      congr 2
      omega
    · congr 2
      omega
  · rw [if_neg hfit, int32_eq_none (by omega)]
    rfl

theorem extent_eq {first last : Nat} (hfirst : first ≤ int32Max) (hlast : last < int32Max) :
    extent first last = some ((last : Int) - first + 1) := by
  have hmax := maxInt32_eq
  have hmin := minInt32_eq
  unfold extent
  rw [int32_eq (by omega) (by omega)]
  simp only [Option.bind_eq_bind, Option.bind_some]
  exact int32_eq (by omega) (by omega)

theorem apart_eq {a b : Nat} (ha : a ≤ int32Max) (hb : b ≤ int32Max) :
    apart a b = some (Nat.dist a b : Int) := by
  have hmax := maxInt32_eq
  have hmin := minInt32_eq
  unfold apart
  have hdist : (if (a : Int) > b then (a : Int) - b else b - a) = (Nat.dist a b : Int) := by
    unfold Nat.dist
    split <;> omega
  rw [hdist]
  refine int32_eq ?_ ?_ <;> unfold Nat.dist <;> omega

end Axis

variable {g}

theorem rowCells_eq {col0 col1 j : Nat} (hcol : col1 < g.cols) (hj : j < g.rows) :
    g.rowCells col0 col1 j =
      some ((List.range' col0 (col1 + 1 - col0)).map fun i => j * g.cols + i) := by
  have hcols := g.cols_le
  have hmax := maxInt32_eq
  unfold rowCells
  rw [upTo_eq (by omega), Option.map_some, List.map_map]
  congr 1
  refine List.map_congr_left fun i hi => ?_
  rw [List.mem_range'_1] at hi
  have hlt : j * g.cols + i < g.size := by
    calc j * g.cols + i < j * g.cols + g.cols := by omega
      _ = (j + 1) * g.cols := by rw [Nat.add_mul, Nat.one_mul]
      _ ≤ g.rows * g.cols := Nat.mul_le_mul_right _ hj
      _ = g.size := Nat.mul_comm _ _
  have hsize : g.size ≤ uint32Max := g.size_le
  simp only [Function.comp_apply, Int.toNat_natCast]
  refine Nat.mod_eq_of_lt (Nat.lt_of_lt_of_le hlt (Nat.le_trans hsize ?_))
  decide

/-- The loops list the square row by row. -/
theorem loops_eq {row0 row1 col0 col1 : Nat} (hrow : row1 < g.rows) (hcol : col1 < g.cols) :
    ((upTo row0 row1).bind fun js =>
      (js.mapM (g.rowCells col0 col1)).bind fun rows => some rows.flatten) =
      some (RowMajor.rect g.cols row0 (row1 + 1 - row0) col0 (col1 + 1 - col0)) := by
  have hmax := maxInt32_eq
  have hrows := g.rows_le
  rw [upTo_eq (by omega), Option.bind_some, List.mapM_map]
  have hmap : ∀ js : List Nat, (∀ j ∈ js, j < g.rows) →
      (js.mapM fun (j : Nat) => g.rowCells col0 col1 j) =
        some (js.map fun j => (List.range' col0 (col1 + 1 - col0)).map fun i => j * g.cols + i) := by
    intro js
    induction js with
    | nil => exact fun _ => rfl
    | cons j js ih =>
      intro hjs
      rw [List.mapM_cons, rowCells_eq hcol (hjs j List.mem_cons_self),
        ih fun k hk => hjs k (List.mem_cons_of_mem _ hk)]
      rfl
  change ((List.range' row0 (row1 + 1 - row0)).mapM fun (j : Nat) => g.rowCells col0 col1 j).bind
    (fun rows => some rows.flatten) = _
  rw [hmap _ fun j hj => ?_]
  · rfl
  · rw [List.mem_range'_1] at hj
    omega

theorem watchCells_eq (g : AoiGrid) (x y : Nat) : g.watchCells x y = g.getWatchCellIdx x y := by
  unfold watchCells getWatchCellIdx
  cases hcell : g.tryCellOf x y with
  | none => rfl
  | some cell =>
    have hcol := cell_mod_lt (g := g) cell
    have hrow := cell_div_lt (tryCellOf_lt hcell)
    have hcols := g.cols_le
    have hrows := g.rows_le
    dsimp only
    rw [ofUInt32_le hcols, ofUInt32_le hrows, ofUInt32_le g.r_le,
      ofUInt32_le (Nat.le_trans (Nat.le_of_lt hcol) hcols),
      ofUInt32_le (Nat.le_trans (Nat.le_of_lt hrow) hrows), borders_eq hcol hcols g.r_le,
      borders_eq hrow hrows g.r_le]
    by_cases hc : cell % g.cols + g.r ≤ int32Max
    · by_cases hr : cell / g.cols + g.r ≤ int32Max
      · have hfit : g.Fits cell := ⟨hc, hr⟩
        rw [if_pos hc, if_pos hr, if_pos hfit]
        have hcol0 : cell % g.cols - g.r ≤ int32Max :=
          Nat.le_trans (Nat.sub_le _ _) (Nat.le_trans (Nat.le_of_lt hcol) hcols)
        have hrow0 : cell / g.cols - g.r ≤ int32Max :=
          Nat.le_trans (Nat.sub_le _ _) (Nat.le_trans (Nat.le_of_lt hrow) hrows)
        have hcol1 : min (cell % g.cols + g.r) (g.cols - 1) < g.cols :=
          Nat.lt_of_le_of_lt (Nat.min_le_right _ _) (Nat.sub_lt g.cols_pos Nat.one_pos)
        have hrow1 : min (cell / g.cols + g.r) (g.rows - 1) < g.rows :=
          Nat.lt_of_le_of_lt (Nat.min_le_right _ _) (Nat.sub_lt g.rows_pos Nat.one_pos)
        simp only [Option.bind_eq_bind, Option.bind_some]
        rw [extent_eq hcol0 (Nat.lt_of_lt_of_le hcol1 hcols),
          extent_eq hrow0 (Nat.lt_of_lt_of_le hrow1 hrows)]
        simp only [Option.bind_some]
        exact loops_eq hrow1 hcol1
      · have hfit : ¬ g.Fits cell := fun h => hr h.2
        rw [if_pos hc, if_neg hr, if_neg hfit]
        rfl
    · have hfit : ¬ g.Fits cell := fun h => hc h.1
      rw [if_neg hc, if_neg hfit]
      rfl

theorem sees_eq (g : AoiGrid) (a b : Nat) : g.sees a b = some (g.visible a b) := by
  unfold sees visible
  split
  · rfl
  · rename_i hin
    obtain ⟨ha, hb⟩ := not_or.mp hin
    have hcols := g.cols_le
    have hrows := g.rows_le
    have hcolA := cell_mod_lt (g := g) a
    have hcolB := cell_mod_lt (g := g) b
    have hrowA := cell_div_lt (Nat.lt_of_not_le ha)
    have hrowB := cell_div_lt (Nat.lt_of_not_le hb)
    rw [ofUInt32_le (by omega), ofUInt32_le (by omega), ofUInt32_le (by omega),
      ofUInt32_le (by omega), ofUInt32_le g.r_le, apart_eq (by omega) (by omega),
      apart_eq (by omega) (by omega)]
    simp

theorem visible_comm (g : AoiGrid) (a b : Nat) : g.visible a b = g.visible b a := by
  unfold visible
  rw [Nat.dist_comm (a % g.cols), Nat.dist_comm (a / g.cols)]
  simp only [or_comm]

end AoiGrid

section Scene

open AoiReplica (wideScene)

variable (sc : Scene)

/-- `getWatchCellIdx` computes without overflow, and lists the visible cells once each. -/
def WatchesVisible (x y : Nat) : Prop :=
  ∃ cell watch, sc.grid.tryCellOf x y = some cell ∧ sc.grid.watchCells x y = some watch ∧
    watch.Nodup ∧ ∀ c, c ∈ watch ↔ sc.grid.sees cell c = some true

variable {sc}

/-- A position inside the map lies in the cell of its column and row. -/
theorem tryCellOf_inside {x y : Nat} (hx : x < sc.map.length) (hy : y < sc.map.width) :
    ∃ cell, sc.grid.tryCellOf x y = some cell ∧ cell % sc.grid.cols = x / sc.cfg.cellSize ∧
      cell / sc.grid.cols = y / sc.cfg.cellSize := by
  have hsize := sc.map.cellSize_pos
  have hx' : x < sc.grid.cols * sc.grid.cellSize := lt_cellsAcross_mul hsize hx
  have hy' : y < sc.grid.rows * sc.grid.cellSize := lt_cellsAcross_mul hsize hy
  have hcol : x / sc.grid.cellSize < sc.grid.cols :=
    Nat.div_lt_of_lt_mul (by rw [Nat.mul_comm]; exact hx')
  have hcell : sc.grid.tryCellOf x y =
      some (y / sc.grid.cellSize * sc.grid.cols + x / sc.grid.cellSize) := by
    unfold AoiGrid.tryCellOf
    rw [if_neg, if_neg]
    · rfl
    · change ¬ (x < 0 ∨ 0 + _ ≤ x ∨ y < 0 ∨ 0 + _ ≤ y)
      omega
    · have hcols := sc.grid.cols_pos
      have hrows := sc.grid.rows_pos
      have hcell := sc.grid.cellSize_pos
      omega
  refine ⟨_, hcell, ?_, ?_⟩
  · rw [RowMajor.index_mod hcol, ← sc.sameCell]
    rfl
  · rw [RowMajor.index_div hcol, ← sc.sameCell]
    rfl

/-- The square of a position is right exactly when the radius, added to its column and to its row,
stays within a signed integer; and `visible` is always symmetric. -/
theorem watches_visible_iff (sc : Scene) {x y : Nat} (hx : x < sc.map.length)
    (hy : y < sc.map.width) :
    (WatchesVisible sc x y ↔
      x / sc.cfg.cellSize + sc.cfg.viewRadiusCells ≤ int32Max ∧
        y / sc.cfg.cellSize + sc.cfg.viewRadiusCells ≤ int32Max) ∧
    ∀ a b, sc.grid.sees a b = sc.grid.sees b a := by
  obtain ⟨cell, hcell, hcol, hrow⟩ := tryCellOf_inside hx hy
  refine ⟨?_, fun a b => ?_⟩
  · rw [← hcol, ← hrow]
    constructor
    · rintro ⟨cell', watch, -, hwatch, -⟩
      rw [AoiGrid.watchCells_eq] at hwatch
      exact fits_of_getWatchCellIdx hcell hwatch
    · intro hfit
      refine ⟨cell, sc.grid.watchSquare cell, hcell, ?_, AoiGrid.nodup_watchSquare cell, fun c => ?_⟩
      · rw [AoiGrid.watchCells_eq, AoiGrid.getWatchCellIdx_of_fits hcell hfit]
      · rw [AoiGrid.sees_eq, Option.some.injEq, AoiGrid.visible_iff (AoiGrid.tryCellOf_lt hcell)]
  · rw [AoiGrid.sees_eq, AoiGrid.sees_eq, AoiGrid.visible_comm]

theorem watches_visible_iff_firstCell :
    (WatchesVisible wideScene 0 0 ↔
      0 / 1 + wideScene.cfg.viewRadiusCells ≤ int32Max ∧
        0 / 1 + wideScene.cfg.viewRadiusCells ≤ int32Max) ∧
    ∀ a b, wideScene.grid.sees a b = wideScene.grid.sees b a :=
  watches_visible_iff wideScene (by decide) (by decide)

/-- The second column and the largest radius that is admitted overflow. -/
theorem wideScene_not_watches :
    (1 < wideScene.map.length ∧ 0 < wideScene.map.width) ∧ ¬ WatchesVisible wideScene 1 0 := by
  refine ⟨by decide, ?_⟩
  rintro ⟨cell, watch, -, hwatch, -⟩
  have hnone : (wideScene.grid.watchCells 1 0).isNone := by decide
  rw [hwatch] at hnone
  cases hnone

end Scene

end Aoi
