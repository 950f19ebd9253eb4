import Mathlib.Tactic.Positivity
import Mathlib.Tactic.Zify
import GameServer.Lib.Codec
import GameServer.Net.Proto

/-!
# Numbers at the front of bytes

Both sides of a channel in the process write numbers with the least byte first, and
signed numbers as the unsigned ones with the same bits.
-/

namespace Net

open Codec (Reader Reads)
open Gateway (Bytes putLE getLE)

@[simp] theorem length_putLE (n v : Nat) : (putLE n v).length = n := by simp [putLE]

theorem getLE_lt (s : Bytes) : getLE s < 256 ^ s.length := by
  induction s with
  | nil => exact Nat.one_pos
  | cons b s ih =>
    change b.toNat + 256 * getLE s < 256 ^ (s.length + 1)
    have hb := b.toNat_lt
    rw [Nat.pow_succ]
    omega

/-- Bytes are those of the number that they are read as. -/
theorem putLE_getLE (s : Bytes) : putLE s.length (getLE s) = s := by
  induction s with
  | nil => rfl
  | cons b s ih =>
    have hb := b.toNat_lt
    have hdiv : (b.toNat + 256 * getLE s) / 256 = getLE s := by omega
    rw [List.length_cons, putLE_succ]
    change UInt8.ofNat (b.toNat + 256 * getLE s) :: putLE s.length ((b.toNat + 256 * getLE s) / 256) = _
    rw [hdiv, ih, List.cons.injEq, ← UInt8.toNat_inj, UInt8.toNat_ofNat']
    exact ⟨by omega, rfl⟩

/-- A number of so many bytes. -/
def read (n : Nat) : Reader UInt8 Nat := do return getLE (← Codec.take n)

theorem read_eq_some_iff {n v : Nat} {s rest : Bytes} :
    read n s = some (v, rest) ↔ v < 256 ^ n ∧ s = putLE n v ++ rest := by
  unfold read
  constructor
  · intro h
    obtain ⟨w, mid, hw, h⟩ := Codec.bind_eq_some_iff.mp h
    obtain ⟨rfl, rfl⟩ := Codec.pure_eq_some_iff.mp h
    obtain ⟨rfl, rfl⟩ := Codec.take_eq_some_iff.mp hw
    exact ⟨getLE_lt w, by rw [putLE_getLE]⟩
  · rintro ⟨hv, rfl⟩
    refine Codec.bind_eq_some_iff.mpr ⟨putLE n v, rest, ?_, ?_⟩
    · exact Codec.take_eq_some_iff.mpr ⟨length_putLE n v, rfl⟩
    · rw [Codec.pure_eq_some_iff, getLE_putLE hv]
      exact ⟨rfl, rfl⟩

theorem reads_read {n v : Nat} (h : v < 256 ^ n) : Reads (read n) (putLE n v) v :=
  fun _ => read_eq_some_iff.mpr ⟨h, rfl⟩

section Signed

/-- The unsigned number of so many bits with the bits of a signed one. -/
def unsigned (bits : Nat) (i : Int) : Nat := (i % 2 ^ bits).toNat

/-- The signed number of so many bits with the bits of an unsigned one. -/
def signed (bits v : Nat) : Int := if v < 2 ^ (bits - 1) then v else (v : Int) - 2 ^ bits

variable {bits v : Nat} {i : Int}

theorem unsigned_lt (bits : Nat) (i : Int) : unsigned bits i < 2 ^ bits := by
  unfold unsigned
  have hpos : (0 : Int) < 2 ^ bits := by positivity
  have hlt := Int.emod_lt_of_pos i hpos
  have hnonneg := Int.emod_nonneg i (Int.ne_of_gt hpos)
  zify
  rw [Int.toNat_of_nonneg hnonneg]
  exact_mod_cast hlt

theorem signed_unsigned (hlow : -2 ^ (bits - 1) ≤ i) (hhigh : i < 2 ^ (bits - 1))
    (hbits : 0 < bits) : signed bits (unsigned bits i) = i := by
  have hpow : (2 : Int) ^ bits = 2 * 2 ^ (bits - 1) := by
    rw [← pow_succ', Nat.sub_add_cancel hbits]
  have hpos : (0 : Int) < 2 ^ (bits - 1) := by positivity
  unfold signed unsigned
  rcases Int.lt_or_le i 0 with hneg | hnonneg
  · have hmod : i % 2 ^ bits = i + 2 ^ bits := by
      rw [← Int.add_emod_right, Int.emod_eq_of_lt] <;> omega
    rw [hmod, if_neg, Int.toNat_of_nonneg (by omega)]
    · omega
    · zify
      rw [Int.toNat_of_nonneg (by omega)]
      omega
  · have hmod : i % 2 ^ bits = i := Int.emod_eq_of_lt hnonneg (by omega)
    rw [hmod, if_pos, Int.toNat_of_nonneg hnonneg]
    zify
    rw [Int.toNat_of_nonneg hnonneg]
    exact hhigh

theorem unsigned_signed (h : v < 2 ^ bits) : unsigned bits (signed bits v) = v := by
  have hcast : (v : Int) < 2 ^ bits := by exact_mod_cast h
  unfold signed unsigned
  split
  · rw [Int.emod_eq_of_lt (Int.natCast_nonneg v) hcast]
    rfl
  · rw [Int.sub_emod_right, Int.emod_eq_of_lt (Int.natCast_nonneg v) hcast]
    rfl

theorem signed_range (h : v < 2 ^ bits) (hbits : 0 < bits) :
    -2 ^ (bits - 1) ≤ signed bits v ∧ signed bits v < 2 ^ (bits - 1) := by
  have hpow : (2 : Int) ^ bits = 2 * 2 ^ (bits - 1) := by
    rw [← pow_succ', Nat.sub_add_cancel hbits]
  have hcast : (v : Int) < 2 ^ bits := by exact_mod_cast h
  have hpos : (0 : Int) < 2 ^ (bits - 1) := by positivity
  unfold signed
  split
  · rename_i hlt
    have hlt' : (v : Int) < 2 ^ (bits - 1) := by exact_mod_cast hlt
    omega
  · rename_i hge
    have hge' : (2 : Int) ^ (bits - 1) ≤ v := by exact_mod_cast Nat.le_of_not_lt hge
    omega

end Signed

end Net
