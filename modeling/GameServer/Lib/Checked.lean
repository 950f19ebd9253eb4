import Mathlib.Data.Int.Notation
import Mathlib.Data.List.Basic
import Mathlib.Tactic.Ring

/-!
# Signed arithmetic that can overflow

The result of an operation on 32-bit signed integers is there only if the type can hold
it. A counting loop steps its counter past the last value, which may be one too far.
-/

namespace Checked

def minInt32 : Int := -2 ^ 31
def maxInt32 : Int := 2 ^ 31 - 1

/-- The value of an operation; `none` is a signed overflow. -/
def int32 (i : Int) : Option Int := if minInt32 ≤ i ∧ i ≤ maxInt32 then some i else none

/-- An unsigned 32-bit value as a signed one. -/
def ofUInt32 (n : Nat) : Int := if (n : Int) ≤ maxInt32 then n else n - 2 ^ 32

theorem int32_eq {i : Int} (hmin : minInt32 ≤ i) (hmax : i ≤ maxInt32) : int32 i = some i :=
  if_pos ⟨hmin, hmax⟩

theorem int32_eq_none {i : Int} (h : maxInt32 < i) : int32 i = none :=
  if_neg fun hfit => absurd hfit.2 (Int.not_le.mpr h)

theorem ofUInt32_eq {n : Nat} (h : (n : Int) ≤ maxInt32) : ofUInt32 n = n := if_pos h

/-- The values of the counter in `for (int32_t i = lo; i <= hi; ++i)`. -/
def upTo (lo hi : Int) : Option (List Int) :=
  if lo ≤ hi then
    (int32 (hi + 1)).map fun past => (List.range (past - lo).toNat).map fun (k : Nat) => lo + k
  else some []

/-- A loop from one natural number to another counts through the numbers between them. -/
theorem upTo_eq {lo hi : Nat} (h : (hi : Int) < maxInt32) :
    upTo lo hi = some ((List.range' lo (hi + 1 - lo)).map fun (i : Nat) => (i : Int)) := by
  unfold upTo
  split
  · rename_i hle
    rw [int32_eq (by unfold minInt32; omega) (by omega), Option.map_some, Option.some.injEq,
      List.range'_eq_map_range, List.map_map]
    have hlength : ((hi : Int) + 1 - lo).toNat = hi + 1 - lo := by omega
    rw [hlength]
    exact List.map_congr_left fun k _ => by simp
  · rename_i hlt
    rw [show hi + 1 - lo = 0 by omega]
    rfl

end Checked
