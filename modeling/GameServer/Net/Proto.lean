import Mathlib.Data.List.Range
import GameServer.Lib.Framing
import GameServer.Gateway.Wire

/-!
# Frames between services, as bytes

The header has 32 bytes, its numbers with the greatest byte first. A decoder takes
the frames of its own service and passes over what is not one of them.
-/

namespace Net

open Gateway (Bytes putLE getLE)

section Numbers

theorem putLE_succ (n v : Nat) : putLE (n + 1) v = UInt8.ofNat v :: putLE n (v / 256) := by
  unfold putLE
  rw [List.range_succ_eq_map, List.map_cons, List.map_map]
  simp only [Nat.pow_zero, Nat.div_one, List.cons.injEq, true_and]
  refine List.map_congr_left fun i _ => ?_
  simp only [Function.comp_apply, Nat.succ_eq_add_one]
  rw [Nat.pow_succ', Nat.div_div_eq_div_mul]

theorem getLE_putLE {n v : Nat} (h : v < 256 ^ n) : getLE (putLE n v) = v := by
  induction n generalizing v with
  | zero =>
    have hv : v = 0 := by simpa using h
    rw [hv]
    rfl
  | succ n ih =>
    have hdiv : v / 256 < 256 ^ n := by
      rw [Nat.pow_succ] at h
      omega
    rw [putLE_succ]
    show (UInt8.ofNat v).toNat + 256 * getLE (putLE n (v / 256)) = v
    rw [ih hdiv, UInt8.toNat_ofNat']
    omega

/-- The bytes of a number, the greatest one first. -/
def putBE (n v : Nat) : Bytes := (putLE n v).reverse

def getBE (s : Bytes) : Nat := getLE s.reverse

theorem getBE_putBE {n v : Nat} (h : v < 256 ^ n) : getBE (putBE n v) = v := by
  unfold getBE putBE
  rw [List.reverse_reverse, getLE_putLE h]

@[simp] theorem length_putBE (n v : Nat) : (putBE n v).length = n := by
  simp [putBE, putLE]

/-- The number of so many bytes at an offset. -/
def fieldBE (s : Bytes) (off n : Nat) : Nat := getBE ((s.drop off).take n)

variable {s t : Bytes} {off n v : Nat}

theorem drop_append_le (h : s.length ≤ off) : (s ++ t).drop off = t.drop (off - s.length) := by
  rw [List.drop_append, List.drop_of_length_le h, List.nil_append]

/-- A field after some bytes. -/
theorem fieldBE_append (h : s.length ≤ off) :
    fieldBE (s ++ t) off n = fieldBE t (off - s.length) n := by
  unfold fieldBE
  rw [drop_append_le h]

theorem fieldBE_putBE (h : v < 256 ^ n) : fieldBE (putBE n v ++ t) 0 n = v := by
  unfold fieldBE
  rw [List.drop_zero, List.take_left' (length_putBE n v), getBE_putBE h]

theorem fieldBE_byte (b : UInt8) : fieldBE ([b] ++ t) 0 1 = b.toNat := by
  show b.toNat + 256 * 0 = b.toNat
  rw [Nat.mul_zero, Nat.add_zero]

/-- A field in the first bytes. -/
theorem fieldBE_take {k : Nat} (h : off + n ≤ k) : fieldBE (s.take k) off n = fieldBE s off n := by
  unfold fieldBE
  rw [List.drop_take, List.take_take, Nat.min_eq_left (by omega)]

end Numbers

def kMagic : Nat := 0xC1EA
def kVersion : Nat := 1
def kHeaderSize : Nat := 32
def kMaxMessageSize : Nat := 10 * 1024 * 1024
def kMaxResyncPerCall : Nat := 16

structure Header where
  retrFlag : UInt8 := 0
  msgType : UInt8 := 0
  module : UInt16 := 0
  method : UInt16 := 0
  seq : UInt64 := 0
  playerId : UInt64 := 0
  totalLen : UInt32 := 0
  srcServiceID : UInt8 := 0
  dstServiceID : UInt8 := 0
  deriving DecidableEq, Repr

structure GateFrame where
  head : Header
  body : Bytes
  deriving DecidableEq, Repr

/-- `EncodeFrame`. The frame goes to the end of `out`. -/
def encodeFrame (out : Bytes) (head : Header) (body : Bytes) : Bytes :=
  let totalLen := UInt32.ofNat (kHeaderSize + body.length)
  out ++ (putBE 2 kMagic ++ putBE 2 kVersion ++ [head.msgType] ++ [head.retrFlag] ++
    putBE 2 head.module.toNat ++ putBE 2 head.method.toNat ++ putBE 8 head.seq.toNat ++
    putBE 8 head.playerId.toNat ++ putBE 4 totalLen.toNat ++ [head.srcServiceID] ++
    [head.dstServiceID]) ++ body

/-- The frames that `DecodeFrame` takes for a service. -/
def gateFraming (expectedDstServiceID : UInt8) : Framing UInt8 GateFrame where
  first := 0xC1
  second := 0xEA
  first_ne := by decide
  headerSize := kHeaderSize
  two_le := by decide
  accepts := fun header =>
    fieldBE header 2 2 = kVersion ∧ kHeaderSize ≤ fieldBE header 26 4 ∧
      fieldBE header 26 4 ≤ kMaxMessageSize ∧
      (expectedDstServiceID = 0 ∨ fieldBE header 31 1 = expectedDstServiceID.toNat)
  totalLen := fun header => fieldBE header 26 4
  headerSize_le := fun _ h => (of_decide_eq_true h).2.1
  parse := fun frame => some
    { head :=
        { msgType := UInt8.ofNat (fieldBE frame 4 1)
          totalLen := UInt32.ofNat (fieldBE frame 26 4)
          retrFlag := UInt8.ofNat (fieldBE frame 5 1)
          module := UInt16.ofNat (fieldBE frame 6 2)
          method := UInt16.ofNat (fieldBE frame 8 2)
          seq := UInt64.ofNat (fieldBE frame 10 8)
          playerId := UInt64.ofNat (fieldBE frame 18 8)
          srcServiceID := UInt8.ofNat (fieldBE frame 30 1)
          dstServiceID := UInt8.ofNat (fieldBE frame 31 1) }
      body := frame.drop kHeaderSize }

def decodeFrame (buf : Bytes) (expectedDstServiceID : UInt8) :
    Option (Framing.Status GateFrame × Bytes) :=
  (gateFraming expectedDstServiceID).decode kMaxResyncPerCall buf

section Encode

variable {head : Header} {body : Bytes}

/-- The header with the length of its frame. -/
def Header.withLength (head : Header) (body : Bytes) : Header :=
  { head with totalLen := UInt32.ofNat (kHeaderSize + body.length) }

theorem length_encodeFrame : (encodeFrame [] head body).length = kHeaderSize + body.length := by
  simp only [encodeFrame, putBE, putLE, kHeaderSize, List.length_append, List.length_reverse,
    List.length_map, List.length_range, List.length_cons, List.length_nil]

/-- The fields of an encoded frame. -/
theorem fields_encodeFrame (hlen : kHeaderSize + body.length ≤ kMaxMessageSize) {frame : Bytes}
    (hframe : encodeFrame [] head body = frame) :
    fieldBE frame 2 2 = kVersion ∧ fieldBE frame 4 1 = head.msgType.toNat ∧
      fieldBE frame 5 1 = head.retrFlag.toNat ∧ fieldBE frame 6 2 = head.module.toNat ∧
      fieldBE frame 8 2 = head.method.toNat ∧ fieldBE frame 10 8 = head.seq.toNat ∧
      fieldBE frame 18 8 = head.playerId.toNat ∧
      fieldBE frame 26 4 = kHeaderSize + body.length ∧
      fieldBE frame 30 1 = head.srcServiceID.toNat ∧
      fieldBE frame 31 1 = head.dstServiceID.toNat := by
  have htotal : (UInt32.ofNat (kHeaderSize + body.length)).toNat = kHeaderSize + body.length := by
    rw [UInt32.toNat_ofNat', Nat.mod_eq_of_lt (Nat.lt_of_le_of_lt hlen (by decide))]
  have hmodule := head.module.toNat_lt
  have hmethod := head.method.toNat_lt
  have hseq := head.seq.toNat_lt
  have hplayer := head.playerId.toNat_lt
  have hmax : kHeaderSize + body.length < 256 ^ 4 := Nat.lt_of_le_of_lt hlen (by decide)
  have hversion : kVersion < 256 ^ 2 := by decide
  obtain rfl := hframe
  simp only [encodeFrame, List.nil_append, List.append_assoc, htotal]
  simp (disch := simp) only [fieldBE_append, length_putBE, List.length_singleton, Nat.reduceSub]
  refine ⟨fieldBE_putBE hversion, fieldBE_byte _, fieldBE_byte _, fieldBE_putBE hmodule,
    fieldBE_putBE hmethod, fieldBE_putBE hseq, fieldBE_putBE hplayer, fieldBE_putBE hmax,
    fieldBE_byte _, fieldBE_byte _⟩

/-- What is encoded for a service is a frame of it. -/
theorem encodeFrame_writes {expectedDstServiceID : UInt8}
    (hlen : kHeaderSize + body.length ≤ kMaxMessageSize)
    (hdst : expectedDstServiceID = 0 ∨ head.dstServiceID = expectedDstServiceID) :
    (gateFraming expectedDstServiceID).Writes (encodeFrame [] head body)
      ⟨head.withLength body, body⟩ := by
  obtain ⟨hversion, hmsgType, hretrFlag, hmodule, hmethod, hseq, hplayer, htotal, hsrc, hdst'⟩ :=
    fields_encodeFrame hlen rfl
  constructor
  · have hmagic : putBE 2 kMagic = [0xC1, 0xEA] := by decide
    unfold Framing.marked encodeFrame
    simp [hmagic, gateFraming]
  · simp only [Framing.header, gateFraming, decide_eq_true_eq]
    rw [fieldBE_take (by decide), fieldBE_take (by decide), fieldBE_take (by decide), hversion,
      htotal, hdst']
    exact ⟨rfl, Nat.le_add_right _ _, hlen, hdst.imp id fun h => congrArg UInt8.toNat h⟩
  · simp only [Framing.header, gateFraming]
    rw [fieldBE_take (by decide), htotal, length_encodeFrame]
  · simp only [gateFraming, Option.some.injEq, GateFrame.mk.injEq]
    refine ⟨?_, ?_⟩
    · rw [hmsgType, hretrFlag, hmodule, hmethod, hseq, hplayer, htotal, hsrc, hdst']
      simp only [UInt8.ofNat_toNat, UInt16.ofNat_toNat, UInt64.ofNat_toNat]
      rfl
    · unfold encodeFrame
      simp only [List.nil_append]
      exact List.drop_left' (by simp [kHeaderSize])

end Encode

end Net
