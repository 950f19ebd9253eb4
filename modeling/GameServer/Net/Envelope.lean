import GameServer.Net.GatewayClientIndex
import GameServer.Net.Words

/-!
# Player envelopes and handshakes, as bytes

Both have fields of fixed sizes with the least byte first. What is packed is unpacked again, and
nothing else is: an envelope that is accepted is the one that its content packs to.
-/

namespace Net

open Gateway (Bytes ClientData putLE getLE field)

section Fields

variable {s t : Bytes} {off n v : Nat}

theorem field_lt (s : Bytes) (off n : Nat) : field s off n < 256 ^ n :=
  Nat.lt_of_lt_of_le (getLE_lt _) (Nat.pow_le_pow_right (by decide) (List.length_take_le n _))

/-- The bytes from a field on. -/
theorem drop_field (h : off + n ≤ s.length) :
    s.drop off = putLE n (field s off n) ++ s.drop (off + n) := by
  have hlen : ((s.drop off).take n).length = n := by
    rw [List.length_take, List.length_drop]
    omega
  have hfield := putLE_getLE ((s.drop off).take n)
  rw [hlen] at hfield
  unfold field
  rw [hfield, ← List.drop_drop, List.take_append_drop]

/-- A field is what was put before the rest. -/
theorem field_of_drop (h : s.drop off = putLE n v ++ t) (hv : v < 256 ^ n) :
    field s off n = v ∧ s.drop (off + n) = t := by
  unfold field
  rw [← List.drop_drop, h, List.take_left' (length_putLE n v), List.drop_left' (length_putLE n v)]
  exact ⟨getLE_putLE hv, rfl⟩

end Fields

section Envelope

open Gateway.GatewayPlayer (pack unpack valid)

/-- The fields of a binding fit into the envelope. -/
structure Fits (d : ClientData) : Prop where
  playerId : d.playerId < 256 ^ 8
  clientSession : d.clientSession < 256 ^ 8
  clientEpoch : d.clientEpoch < 256 ^ 4
  gatewayId : d.gatewayId < 256 ^ 4
  sceneId : d.sceneId < 256 ^ 4

theorem length_pack (d : ClientData) (payload : Bytes) :
    (pack d payload).length = Gateway.GatewayPlayer.kHeaderSize + payload.length := by
  simp only [pack, List.length_append, length_putLE]
  rfl

/-- What is packed is unpacked. -/
theorem unpack_pack {d : ClientData} (hvalid : valid d = true) (hfits : Fits d) (payload : Bytes) :
    unpack (pack d payload) = some (d, payload) := by
  have hlen := length_pack d payload
  have hpack : (pack d payload).drop 0 = putLE 2 0x4750 ++ (putLE 2 1 ++ (putLE 8 d.playerId ++
      (putLE 8 d.clientSession ++ (putLE 4 d.clientEpoch ++ (putLE 4 d.gatewayId ++
        (putLE 4 d.sceneId ++ payload)))))) := by
    simp only [pack, List.drop_zero, List.append_assoc]
  generalize pack d payload = s at hlen hpack
  obtain ⟨hmagic, h⟩ := field_of_drop hpack (by decide)
  obtain ⟨hversion, h⟩ := field_of_drop h (by decide)
  obtain ⟨hplayer, h⟩ := field_of_drop h hfits.playerId
  obtain ⟨hsession, h⟩ := field_of_drop h hfits.clientSession
  obtain ⟨hepoch, h⟩ := field_of_drop h hfits.clientEpoch
  obtain ⟨hgateway, h⟩ := field_of_drop h hfits.gatewayId
  obtain ⟨hscene, h⟩ := field_of_drop h hfits.sceneId
  simp only [Nat.zero_add, Nat.reduceAdd] at hversion hplayer hsession hepoch hgateway hscene h
  unfold unpack
  rw [if_neg (by omega)]
  simp only [hplayer, hsession, hepoch, hgateway, hscene, hvalid, Bool.not_true, Bool.false_eq_true,
    if_false]
  exact congrArg (fun rest => some (d, rest)) h

/-- An envelope is accepted exactly if it is a valid binding packed in front of the payload. -/
theorem unpack_eq_some_iff {s payload : Bytes} {d : ClientData} :
    unpack s = some (d, payload) ↔ valid d = true ∧ Fits d ∧ s = pack d payload := by
  constructor
  · intro h
    unfold unpack at h
    split at h
    · cases h
    rename_i hok
    rw [not_or, not_or, not_not, not_not, Nat.not_lt] at hok
    obtain ⟨hlen, hmagic, hversion⟩ := hok
    change 32 ≤ s.length at hlen
    dsimp only at h
    split at h
    · cases h
    rename_i hvalid
    cases h
    refine ⟨by simpa using hvalid, ⟨field_lt .., field_lt .., field_lt .., field_lt ..,
      field_lt ..⟩, ?_⟩
    have h0 : s.drop 0 = putLE 2 (field s 0 2) ++ s.drop 2 := drop_field (by omega)
    have h2 : s.drop 2 = putLE 2 (field s 2 2) ++ s.drop 4 := drop_field (by omega)
    have h4 : s.drop 4 = putLE 8 (field s 4 8) ++ s.drop 12 := drop_field (by omega)
    have h12 : s.drop 12 = putLE 8 (field s 12 8) ++ s.drop 20 := drop_field (by omega)
    have h20 : s.drop 20 = putLE 4 (field s 20 4) ++ s.drop 24 := drop_field (by omega)
    have h24 : s.drop 24 = putLE 4 (field s 24 4) ++ s.drop 28 := drop_field (by omega)
    have h28 : s.drop 28 = putLE 4 (field s 28 4) ++ s.drop 32 := drop_field (by omega)
    calc s = s.drop 0 := List.drop_zero.symm
      _ = _ := by
        rw [h0, h2, h4, h12, h20, h24, h28, hmagic, hversion]
        simp only [pack, List.append_assoc]
        rfl
  · rintro ⟨hvalid, hfits, rfl⟩
    exact unpack_pack hvalid hfits payload

end Envelope

section Handshake

open Gateway (BackendHandshake packBackendHandshake unpackBackendHandshake validBackendHandshake)

/-- The fields of a handshake fit into its bytes. -/
structure HandshakeFits (h : BackendHandshake) : Prop where
  serviceId : h.serviceId < 256 ^ 1
  zoneId : h.zoneId < 256 ^ 4
  sceneId : h.sceneId < 256 ^ 4
  sceneIncarnation : h.sceneIncarnation < 256 ^ 8
  targetGatewayId : h.targetGatewayId < 256 ^ 4
  channelId : h.channelId < 256 ^ 4

theorem unpack_packBackendHandshake {h : BackendHandshake} (hvalid : validBackendHandshake h = true)
    (hfits : HandshakeFits h) : unpackBackendHandshake (packBackendHandshake h) = some h := by
  have hversion : h.protocolVersion < 256 ^ 2 := by
    have hone : h.protocolVersion = 1 := by
      unfold validBackendHandshake at hvalid
      split at hvalid
      · cases hvalid
      · rename_i hno
        rw [not_or, not_not] at hno
        exact hno.1
    rw [hone]
    decide
  have hlen : (packBackendHandshake h).length = 27 := by
    simp only [packBackendHandshake, List.length_append, length_putLE]
  have hpack : (packBackendHandshake h).drop 0 = putLE 2 h.protocolVersion ++ (putLE 1 h.serviceId ++
      (putLE 4 h.zoneId ++ (putLE 4 h.sceneId ++ (putLE 8 h.sceneIncarnation ++
        (putLE 4 h.targetGatewayId ++ (putLE 4 h.channelId ++ [])))))) := by
    simp only [packBackendHandshake, List.drop_zero, List.append_assoc, List.append_nil]
  generalize packBackendHandshake h = s at hlen hpack
  obtain ⟨hversion, t⟩ := field_of_drop hpack hversion
  obtain ⟨hservice, t⟩ := field_of_drop t hfits.serviceId
  obtain ⟨hzone, t⟩ := field_of_drop t hfits.zoneId
  obtain ⟨hscene, t⟩ := field_of_drop t hfits.sceneId
  obtain ⟨hincarnation, t⟩ := field_of_drop t hfits.sceneIncarnation
  obtain ⟨hgateway, t⟩ := field_of_drop t hfits.targetGatewayId
  obtain ⟨hchannel, t⟩ := field_of_drop t hfits.channelId
  simp only [Nat.zero_add, Nat.reduceAdd] at hservice hzone hscene hincarnation hgateway hchannel
  unfold unpackBackendHandshake
  rw [if_neg (by omega)]
  simp only [hversion, hservice, hzone, hscene, hincarnation, hgateway, hchannel, hvalid, if_true]

/-- A handshake is accepted exactly if it is valid and packs to the body. -/
theorem unpackBackendHandshake_eq_some_iff {s : Bytes} {h : BackendHandshake} :
    unpackBackendHandshake s = some h ↔
      validBackendHandshake h = true ∧ HandshakeFits h ∧ s = packBackendHandshake h := by
  constructor
  · intro hs
    unfold unpackBackendHandshake at hs
    split at hs
    · cases hs
    rename_i hlen
    rw [not_not] at hlen
    dsimp only at hs
    split at hs
    · rename_i hvalid
      cases hs
      refine ⟨hvalid, ⟨field_lt .., field_lt .., field_lt .., field_lt .., field_lt ..,
        field_lt ..⟩, ?_⟩
      have h0 : s.drop 0 = putLE 2 (field s 0 2) ++ s.drop 2 := drop_field (by omega)
      have h2 : s.drop 2 = putLE 1 (field s 2 1) ++ s.drop 3 := drop_field (by omega)
      have h3 : s.drop 3 = putLE 4 (field s 3 4) ++ s.drop 7 := drop_field (by omega)
      have h7 : s.drop 7 = putLE 4 (field s 7 4) ++ s.drop 11 := drop_field (by omega)
      have h11 : s.drop 11 = putLE 8 (field s 11 8) ++ s.drop 19 := drop_field (by omega)
      have h19 : s.drop 19 = putLE 4 (field s 19 4) ++ s.drop 23 := drop_field (by omega)
      have h23 : s.drop 23 = putLE 4 (field s 23 4) ++ s.drop 27 := drop_field (by omega)
      calc s = s.drop 0 := List.drop_zero.symm
        _ = _ := by
          rw [h0, h2, h3, h7, h11, h19, h23, List.drop_of_length_le hlen.le, List.append_nil]
          simp only [packBackendHandshake, List.append_assoc]
    · cases hs
  · rintro ⟨hvalid, hfits, rfl⟩
    exact unpack_packBackendHandshake hvalid hfits

end Handshake

end Net
