import GameServer.Net.Proto

/-!
# Frames of clients, as bytes

The header has 32 bytes, the last twelve for the name of a role. A frame with a name
that is not valid is dropped when it is whole.
-/

namespace Net

open Gateway (Bytes continues padName unpadName validRoleName validUtf8 kRoleNameSize)

def kClientMagic : Nat := 0xC1EB
def kClientVersion : Nat := 2
def kClientHeaderSize : Nat := 32
def kMaxClientFrameSize : Nat := 64 * 1024

/-- The kind is kept as it came. -/
structure ClientHeader where
  kind : UInt8 := 1
  module : UInt16 := 0
  method : UInt16 := 0
  requestId : UInt64 := 0
  totalLen : UInt32 := 0
  roleName : Bytes := []
  deriving DecidableEq, Repr

structure ClientFrame where
  head : ClientHeader
  body : Bytes
  deriving DecidableEq, Repr

/-- `EncodeClientFrame`. -/
def encodeClientFrame (out : Bytes) (head : ClientHeader) (body : Bytes) : Except String Bytes :=
  if !validRoleName head.roleName then .error "invalid ClientFrame roleName"
  else
    let totalLen := UInt32.ofNat (kClientHeaderSize + body.length)
    .ok (out ++ (putBE 2 kClientMagic ++ [UInt8.ofNat kClientVersion] ++ [head.kind] ++
      putBE 2 head.module.toNat ++ putBE 2 head.method.toNat ++ putBE 8 head.requestId.toNat ++
      putBE 4 totalLen.toNat ++ padName head.roleName) ++ body)

/-- The frames that `DecodeClientFrame` takes. -/
def clientFraming : Framing UInt8 ClientFrame where
  first := 0xC1
  second := 0xEB
  first_ne := by decide
  headerSize := kClientHeaderSize
  two_le := by decide
  accepts := fun header =>
    fieldBE header 2 1 = kClientVersion ∧ kClientHeaderSize ≤ fieldBE header 16 4 ∧
      fieldBE header 16 4 ≤ kMaxClientFrameSize
  totalLen := fun header => fieldBE header 16 4
  headerSize_le := fun _ h => (of_decide_eq_true h).2.1
  parse := fun frame =>
    match unpadName ((frame.drop 20).take kRoleNameSize) with
    | none => none
    | some roleName =>
      if !validRoleName roleName then none
      else some
        { head :=
            { totalLen := UInt32.ofNat (fieldBE frame 16 4)
              kind := UInt8.ofNat (fieldBE frame 3 1)
              module := UInt16.ofNat (fieldBE frame 4 2)
              method := UInt16.ofNat (fieldBE frame 6 2)
              requestId := UInt64.ofNat (fieldBE frame 8 8)
              roleName }
          body := frame.drop kClientHeaderSize }

def decodeClientFrame (buf : Bytes) : Option (Framing.Status ClientFrame × Bytes) :=
  clientFraming.decode kMaxResyncPerCall buf

section RoleName

/-- A valid name has no zero. -/
theorem zero_notMem_of_validUtf8 {name : Bytes} (h : validUtf8 name = true) : 0 ∉ name := by
  have hlead : ∀ {c : UInt8}, ¬ (c < 0x20 ∨ c = 0x7f) → 0 ≠ c := by
    rintro c hc rfl
    exact hc (by decide)
  have hnext : ∀ {b : UInt8}, continues b = true → 0 ≠ b := by
    rintro b hb rfl
    exact absurd hb (by decide)
  fun_induction validUtf8 name with
  | case1 => exact List.not_mem_nil
  | case3 c rest hc _ ih =>
    rw [List.mem_cons, not_or]
    exact ⟨hlead hc, ih h⟩
  | case4 c hc _ _ b1 rest ih =>
    simp only [Bool.and_eq_true] at h
    simp only [List.mem_cons, not_or]
    exact ⟨hlead hc, hnext h.1, ih h.2⟩
  | case6 c hc _ _ _ b1 b2 rest ih =>
    simp only [Bool.and_eq_true] at h
    simp only [List.mem_cons, not_or]
    exact ⟨hlead hc, hnext h.1.1.1.1, hnext h.1.1.1.2, ih h.2⟩
  | case8 c hc _ _ _ _ b1 b2 b3 rest ih =>
    simp only [Bool.and_eq_true] at h
    simp only [List.mem_cons, not_or]
    exact ⟨hlead hc, hnext h.1.1.1.1.1, hnext h.1.1.1.1.2, hnext h.1.1.1.2, ih h.2⟩
  | case2 | case5 | case7 | case9 | case10 => cases h

/-- A valid name is read from its field. -/
theorem unpadName_padName {name : Bytes} (h : validRoleName name = true) :
    unpadName (padName name) = some name := by
  simp only [validRoleName, Bool.and_eq_true, decide_eq_true_eq] at h
  obtain ⟨hlen, hvalid⟩ := h
  have hname : (padName name).takeWhile (· ≠ 0) = name := by
    have hall : ∀ b ∈ name, decide (b ≠ 0) = true := fun b hb =>
      decide_eq_true fun hzero => zero_notMem_of_validUtf8 hvalid (hzero ▸ hb)
    unfold padName
    rw [List.takeWhile_append_of_pos hall]
    cases kRoleNameSize - name.length with
    | zero => simp
    | succ n => simp [List.replicate_succ]
  unfold unpadName
  simp only [hname]
  unfold padName
  rw [List.drop_left, if_pos (by simp)]

theorem length_padName {name : Bytes} (h : validRoleName name = true) :
    (padName name).length = kRoleNameSize := by
  simp only [validRoleName, Bool.and_eq_true, decide_eq_true_eq] at h
  unfold padName
  rw [List.length_append, List.length_replicate]
  omega

end RoleName

section Encode

variable {head : ClientHeader} {body bytes : Bytes}

/-- The header with the length of its frame. -/
def ClientHeader.withLength (head : ClientHeader) (body : Bytes) : ClientHeader :=
  { head with totalLen := UInt32.ofNat (kClientHeaderSize + body.length) }

theorem encodeClientFrame_ok (hname : validRoleName head.roleName = true) (out : Bytes) :
    encodeClientFrame out head body = .ok (out ++ (putBE 2 kClientMagic ++
      [UInt8.ofNat kClientVersion] ++ [head.kind] ++ putBE 2 head.module.toNat ++
      putBE 2 head.method.toNat ++ putBE 8 head.requestId.toNat ++
      putBE 4 (UInt32.ofNat (kClientHeaderSize + body.length)).toNat ++
      padName head.roleName) ++ body) := by
  unfold encodeClientFrame
  rw [hname, if_neg (by decide)]

/-- The fields of an encoded frame. -/
theorem fields_encodeClientFrame (hlen : kClientHeaderSize + body.length ≤ kMaxClientFrameSize)
    (hbytes : encodeClientFrame [] head body = .ok bytes) :
    validRoleName head.roleName = true ∧ bytes.length = kClientHeaderSize + body.length ∧
      bytes.take 2 = [0xC1, 0xEB] ∧ fieldBE bytes 2 1 = kClientVersion ∧
      fieldBE bytes 3 1 = head.kind.toNat ∧ fieldBE bytes 4 2 = head.module.toNat ∧
      fieldBE bytes 6 2 = head.method.toNat ∧ fieldBE bytes 8 8 = head.requestId.toNat ∧
      fieldBE bytes 16 4 = kClientHeaderSize + body.length ∧
      (bytes.drop 20).take kRoleNameSize = padName head.roleName ∧
      bytes.drop kClientHeaderSize = body := by
  by_cases hname : validRoleName head.roleName = true
  case neg =>
    unfold encodeClientFrame at hbytes
    rw [if_pos (by simpa using hname)] at hbytes
    cases hbytes
  have htotal : (UInt32.ofNat (kClientHeaderSize + body.length)).toNat =
      kClientHeaderSize + body.length := by
    rw [UInt32.toNat_ofNat', Nat.mod_eq_of_lt (Nat.lt_of_le_of_lt hlen (by decide))]
  have hpad := length_padName hname
  have hmodule := head.module.toNat_lt
  have hmethod := head.method.toNat_lt
  have hrequest := head.requestId.toNat_lt
  have hmax : kClientHeaderSize + body.length < 256 ^ 4 := Nat.lt_of_le_of_lt hlen (by decide)
  have hmagic : putBE 2 kClientMagic = [0xC1, 0xEB] := by decide
  rw [encodeClientFrame_ok hname] at hbytes
  obtain rfl := Except.ok.inj hbytes
  simp only [List.nil_append, List.append_assoc, htotal]
  simp (disch := simp) only [fieldBE_append, drop_append_le, length_putBE, List.length_singleton,
    Nat.reduceSub]
  refine ⟨hname, ?_, ?_, fieldBE_byte _, fieldBE_byte _, fieldBE_putBE hmodule,
    fieldBE_putBE hmethod, fieldBE_putBE hrequest, fieldBE_putBE hmax, ?_, ?_⟩
  · simp only [List.length_append, length_putBE, List.length_singleton, hpad, kClientHeaderSize,
      kRoleNameSize]
    omega
  · rw [hmagic]
    rfl
  · rw [List.drop_zero]
    exact List.take_left' hpad
  · rw [kClientHeaderSize]
    simp (disch := simp) only [drop_append_le, length_putBE, List.length_singleton, Nat.reduceSub]
    exact List.drop_left' hpad

/-- What is encoded is a frame. -/
theorem encodeClientFrame_writes (hlen : kClientHeaderSize + body.length ≤ kMaxClientFrameSize)
    (hbytes : encodeClientFrame [] head body = .ok bytes) :
    clientFraming.Writes bytes ⟨head.withLength body, body⟩ := by
  obtain ⟨hname, hlength, hmagic, hversion, hkind, hmodule, hmethod, hrequest, htotal, hrole,
    hbody⟩ := fields_encodeClientFrame hlen hbytes
  constructor
  · exact decide_eq_true hmagic
  · simp only [Framing.header, clientFraming, decide_eq_true_eq]
    rw [fieldBE_take (by decide), fieldBE_take (by decide), hversion, htotal]
    exact ⟨rfl, Nat.le_add_right _ _, hlen⟩
  · simp only [Framing.header, clientFraming]
    rw [fieldBE_take (by decide), htotal, hlength]
  · simp only [clientFraming, hrole, unpadName_padName hname]
    rw [hname, if_neg (by decide), hkind, hmodule, hmethod, hrequest, htotal, hbody]
    simp only [UInt8.ofNat_toNat, UInt16.ofNat_toNat, UInt64.ofNat_toNat]
    rfl

/-- A frame is taken as it was sent exactly if it is not too long. -/
theorem decodeClientFrame_encoded_iff (hbytes : encodeClientFrame [] head body = .ok bytes) :
    decodeClientFrame bytes = some (.ok ⟨head.withLength body, body⟩, []) ↔
      kClientHeaderSize + body.length ≤ kMaxClientFrameSize := by
  constructor
  · intro h
    obtain ⟨part, hpart⟩ := Framing.decode_ok h
    have haccept := hpart.accepts
    have htotal := hpart.totalLen
    have hparse := hpart.parse
    have hsize := hpart.headerSize_le
    simp only [clientFraming, decide_eq_true_eq] at haccept htotal hparse hsize
    have hbody : body = part.drop kClientHeaderSize := by
      split at hparse
      · cases hparse
      split at hparse
      · cases hparse
      · exact (congrArg ClientFrame.body (Option.some.inj hparse)).symm
    rw [hbody, List.length_drop]
    omega
  · intro hlen
    have hdecode := @Framing.Writes.decode _ _ _ _ _ _ kMaxResyncPerCall
      (encodeClientFrame_writes hlen hbytes) []
    rwa [List.append_nil] at hdecode

end Encode

end Net
