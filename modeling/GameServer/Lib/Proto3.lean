import Mathlib.Algebra.Group.Int.Defs
import Mathlib.Algebra.Group.Nat.Defs
import Mathlib.Data.List.Basic

/-!
# The wire format of proto3 messages

A number is written seven bits to a byte, the low ones first; a field is a tag and its
value, and a field with the value zero is left out. Of the lengths only what bounds a
message is stated.
-/

namespace Proto3

abbrev Bytes := List UInt8

def varint (v : Nat) : Bytes :=
  if v < 128 then [UInt8.ofNat v] else UInt8.ofNat (v % 128 + 128) :: varint (v / 128)
  termination_by v
  decreasing_by omega

theorem varint_short {v : Nat} (h : v < 128) : varint v = [UInt8.ofNat v] := by
  rw [varint, if_pos h]

theorem length_varint_pos (v : Nat) : 0 < (varint v).length := by
  rw [varint]
  split <;> simp

theorem length_varint_le {n v : Nat} (h : v < 128 ^ (n + 1)) : (varint v).length ≤ n + 1 := by
  induction n generalizing v with
  | zero =>
    rw [varint_short (by simpa using h)]
    exact Nat.le_refl _
  | succ n ih =>
    rw [varint]
    split
    · simp
    · rw [List.length_cons]
      have hdiv : v / 128 < 128 ^ (n + 1) := by
        rw [Nat.pow_succ] at h
        exact Nat.div_lt_of_lt_mul (Nat.mul_comm _ _ ▸ h)
      exact Nat.succ_le_succ (ih hdiv)

/-- A field of a number. -/
def uint (field v : Nat) : Bytes := if v = 0 then [] else varint (field * 8) ++ varint v

def uint64 (field v : Nat) : Bytes := uint field (v % 2 ^ 64)

def uint32 (field v : Nat) : Bytes := uint field (v % 2 ^ 32)

/-- A negative number is written with all its 64 bits. -/
def int32 (field : Nat) (i : Int) : Bytes := uint field ((i.bmod (2 ^ 32)) % 2 ^ 64).toNat

/-- A field of a message. -/
def message (field : Nat) (body : Bytes) : Bytes :=
  varint (field * 8 + 2) ++ varint body.length ++ body

section Length

variable {field v n : Nat}

theorem length_uint_le (hfield : field < 16) (h : v < 128 ^ (n + 1)) :
    (uint field v).length ≤ n + 2 := by
  unfold uint
  split
  · simp
  · have hv := length_varint_le h
    rw [List.length_append, varint_short (by omega), List.length_singleton]
    omega

/-- A field that is not left out has a tag and a value. -/
theorem two_le_length_uint (field : Nat) (h : v ≠ 0) : 2 ≤ (uint field v).length := by
  have htag := length_varint_pos (field * 8)
  have hvalue := length_varint_pos v
  rw [uint, if_neg h, List.length_append]
  omega

theorem length_uint64_le (hfield : field < 16) (v : Nat) : (uint64 field v).length ≤ 11 :=
  length_uint_le hfield (n := 9) (Nat.lt_of_lt_of_le (Nat.mod_lt _ (by decide)) (by decide))

theorem length_uint32_le (hfield : field < 16) (v : Nat) : (uint32 field v).length ≤ 6 :=
  length_uint_le hfield (n := 4) (Nat.lt_of_lt_of_le (Nat.mod_lt _ (by decide)) (by decide))

theorem length_int32_le (hfield : field < 16) (i : Int) : (int32 field i).length ≤ 11 := by
  refine length_uint_le hfield (n := 9) (Nat.lt_of_lt_of_le ?_ (by decide : 2 ^ 64 ≤ 128 ^ 10))
  have hlt := Int.emod_lt_of_pos (i.bmod (2 ^ 32)) (by decide : (0 : Int) < 2 ^ 64)
  omega

/-- A message of less than 128 bytes has one byte for its length. -/
theorem length_message {body : Bytes} (hfield : field < 15) (h : body.length < 128) :
    (message field body).length = body.length + 2 := by
  unfold message
  rw [List.length_append, List.length_append, varint_short (by omega), varint_short h]
  simp only [List.length_singleton]
  omega

end Length

end Proto3
