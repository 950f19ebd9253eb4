import Mathlib.Data.List.Nodup
import Mathlib.Data.Nat.Dist
import Mathlib.Tactic.Ring

/-!
# Rectangles of a row-major grid

Cell `c` of a grid with `cols` columns lies in row `c / cols` and column
`c % cols`. A rectangle is listed row by row; each of its cells is listed once.
-/

namespace RowMajor

/-- The cells of `nrows` rows from `row` on and `ncols` columns from `col` on. -/
def rect (cols row nrows col ncols : Nat) : List Nat :=
  (List.range' row nrows).flatMap fun j => (List.range' col ncols).map fun i => j * cols + i

theorem index_div {cols j i : Nat} (hi : i < cols) : (j * cols + i) / cols = j := by
  rw [Nat.mul_comm, Nat.mul_add_div (by omega), Nat.div_eq_of_lt hi, Nat.add_zero]

theorem index_mod {cols j i : Nat} (hi : i < cols) : (j * cols + i) % cols = i := by
  rw [Nat.mul_comm, Nat.mul_add_mod, Nat.mod_eq_of_lt hi]

theorem index_split (cols c : Nat) : c / cols * cols + c % cols = c := by
  rw [Nat.mul_comm]
  exact Nat.div_add_mod c cols

theorem mem_rect {cols row nrows col ncols c : Nat} (hfit : col + ncols ≤ cols) :
    c ∈ rect cols row nrows col ncols ↔
      (row ≤ c / cols ∧ c / cols < row + nrows) ∧ (col ≤ c % cols ∧ c % cols < col + ncols) := by
  simp only [rect, List.mem_flatMap, List.mem_map, List.mem_range'_1]
  constructor
  · rintro ⟨j, hj, i, hi, rfl⟩
    rw [index_div (by omega), index_mod (by omega)]
    exact ⟨hj, hi⟩
  · rintro ⟨hj, hi⟩
    exact ⟨c / cols, hj, c % cols, hi, index_split cols c⟩

theorem nodup_rect {cols row nrows col ncols : Nat} (hfit : col + ncols ≤ cols) :
    (rect cols row nrows col ncols).Nodup := by
  refine List.nodup_flatMap.mpr ⟨fun j _ => ?_, ?_⟩
  · exact (List.nodup_range' 1).map fun a b h => by omega
  · refine (List.nodup_range' 1).imp fun {j k} hne => ?_
    rw [Function.onFun_apply, List.disjoint_left]
    intro c hj hk
    simp only [List.mem_map, List.mem_range'_1] at hj hk
    obtain ⟨a, ha, rfl⟩ := hj
    obtain ⟨b, hb, hc⟩ := hk
    apply hne
    rw [← @index_div cols j a (by omega), ← hc, index_div (by omega)]

/-- Two cells at Chebyshev distance at most `r`. -/
def Near (cols r a b : Nat) : Prop :=
  Nat.dist (a % cols) (b % cols) ≤ r ∧ Nat.dist (a / cols) (b / cols) ≤ r

instance (cols r a b : Nat) : Decidable (Near cols r a b) :=
  inferInstanceAs (Decidable (_ ∧ _))

theorem near_comm {cols r a b : Nat} : Near cols r a b ↔ Near cols r b a := by
  simp only [Near, Nat.dist_comm (a % cols), Nat.dist_comm (a / cols)]

theorem near_self (cols r a : Nat) : Near cols r a a := by
  simp [Near]

/-- Clipping an interval around `a` to `[0, n)` keeps exactly the near points below `n`. -/
theorem mem_clipped {a b n r : Nat} (ha : a < n) :
    (a - r ≤ b ∧ b < (a - r) + (min (a + r) (n - 1) + 1 - (a - r))) ↔
      Nat.dist a b ≤ r ∧ b < n := by
  simp only [Nat.dist]
  omega

end RowMajor
