import GameServer.Aoi.Cluster
import GameServer.Net.Words

/-!
# AOI events as bytes

The workers exchange events and the snapshots of their own entities as bytes, the least
byte first. A body that is not exactly an encoding is refused as a whole. The cell of an
entity is not sent.
-/

namespace Aoi

open Codec (Reader Reads)
open Gateway (Bytes putLE)
open Net (read signed unsigned read_eq_some_iff)

def EntityKind.ofCode : Nat → EntityKind
  | 1 => .player
  | 2 => .monster
  | 3 => .npc
  | 4 => .drop
  | _ => .invalid

def AoiMsgKind.code : AoiMsgKind → Nat
  | .entry => 1
  | .move => 2
  | .leave => 3
  | .invalid => 255

def AoiMsgKind.ofCode : Nat → AoiMsgKind
  | 1 => .entry
  | 2 => .move
  | 3 => .leave
  | _ => .invalid

namespace AoiWire.Body

def kVersion : Nat := 1
def kEventBytes : Nat := 62

def validEvent (e : AoiEvent) : Bool :=
  e.eId ≠ 0 ∧ validEntityKind e.entityKind ∧
    (e.msgKind = .entry ∨ e.msgKind = .move ∨ e.msgKind = .leave)

def writeEvent (e : AoiEvent) : Bytes :=
  putLE 2 e.msgKind.code ++ putLE 2 e.entityKind.code ++ putLE 8 e.eId ++ putLE 8 e.businessId ++
    putLE 4 e.target_x ++ putLE 4 e.target_y ++ putLE 4 (unsigned 32 e.target_dir) ++
    putLE 4 e.entityGeneration ++ putLE 4 e.actorEpoch ++ putLE 8 e.spatialVersion ++
    putLE 4 e.ownerThreadId ++ putLE 8 e.ownerSeq

def readEvent : Reader UInt8 AoiEvent := do
  let msgKind ← read 2
  guard (1 ≤ msgKind ∧ msgKind ≤ 3)
  let entityKind ← read 2
  guard (1 ≤ entityKind ∧ entityKind ≤ 4)
  let eId ← read 8
  let businessId ← read 8
  let target_x ← read 4
  let target_y ← read 4
  let dir ← read 4
  let entityGeneration ← read 4
  let actorEpoch ← read 4
  let spatialVersion ← read 8
  let ownerThreadId ← read 4
  let ownerSeq ← read 8
  let e : AoiEvent :=
    { msgKind := .ofCode msgKind, entityKind := .ofCode entityKind, eId, businessId, target_x,
      target_y, target_dir := signed 32 dir, entityGeneration, actorEpoch, spatialVersion,
      ownerThreadId, ownerSeq }
  guard (validEvent e)
  return e

/-- The output of a function that assigns it at its end only. -/
def assigned {α : Type} (out : α) : Option α → Bool × α
  | none => (false, out)
  | some a => (true, a)

def encodeEvent (e : AoiEvent) (out : Bytes) : Bool × Bytes :=
  assigned out (if validEvent e then some (putLE 2 kVersion ++ writeEvent e) else none)

def decodeEvent (s : Bytes) (out : AoiEvent) : Bool × AoiEvent :=
  assigned out (Codec.whole (do guard ((← read 2) = kVersion); readEvent) s)

/-- The loop of `encodeSnapshot`. -/
def writeEnts (owner : WorkerId) (seq : Nat) : List AoiEntity → List EntityId → Option Bytes
  | [], _ => some []
  | ent :: ents, seen =>
    if validEvent (snapshotEvent ent) = false ∨ (snapshotEvent ent).ownerThreadId ≠ owner ∨
        seq < (snapshotEvent ent).ownerSeq ∨ (snapshotEvent ent).eId ∈ seen then none
    else (writeEnts owner seq ents ((snapshotEvent ent).eId :: seen)).map
      (writeEvent (snapshotEvent ent) ++ ·)

def encodeSnapshot (snap : AoiOwnerSnapshot) (out : Bytes) : Bool × Bytes :=
  assigned out
    (if kMaxSnapshotEntities < snap.ents.length then none
    else (writeEnts snap.ownerWorkerId snap.seq snap.ents []).map
      (putLE 2 kVersion ++ putLE 4 snap.ownerWorkerId ++ putLE 8 snap.seq ++
        putLE 4 snap.ents.length ++ ·))

/-- The loop of `decodeSnapshot`. -/
def readEnts (owner : WorkerId) (seq : Nat) : Nat → List EntityId → Reader UInt8 (List AoiEntity)
  | 0, _ => return []
  | n + 1, seen => do
    let e ← readEvent
    guard (e.msgKind = .entry ∧ e.ownerThreadId = owner ∧ e.ownerSeq ≤ seq ∧ e.eId ∉ seen)
    let ents ← readEnts owner seq n (e.eId :: seen)
    return updateEntity e 0 :: ents

def readSnapshot : Reader UInt8 AoiOwnerSnapshot := do
  guard ((← read 2) = kVersion)
  let ownerWorkerId ← read 4
  let seq ← read 8
  let count ← read 4
  guard (count ≤ kMaxSnapshotEntities)
  let left ← Codec.remaining
  guard (left = count * (kEventBytes - 2))
  return { seq, ownerWorkerId, ents := ← readEnts ownerWorkerId seq count [] }

def decodeSnapshot (s : Bytes) (out : AoiOwnerSnapshot) : Bool × AoiOwnerSnapshot :=
  assigned out ((readSnapshot s).map (·.1))

section Ranges

/-- The values that the types of an event's fields hold. -/
structure InRange (e : AoiEvent) : Prop where
  eId : e.eId < 256 ^ 8
  businessId : e.businessId < 256 ^ 8
  target_x : e.target_x < 256 ^ 4
  target_y : e.target_y < 256 ^ 4
  target_dir : -2 ^ 31 ≤ e.target_dir ∧ e.target_dir < 2 ^ 31
  entityGeneration : e.entityGeneration < 256 ^ 4
  actorEpoch : e.actorEpoch < 256 ^ 4
  spatialVersion : e.spatialVersion < 256 ^ 8
  ownerThreadId : e.ownerThreadId < 256 ^ 4
  ownerSeq : e.ownerSeq < 256 ^ 8

/-- The same of a snapshot. -/
structure SnapshotInRange (snap : AoiOwnerSnapshot) : Prop where
  seq : snap.seq < 256 ^ 8
  ownerWorkerId : snap.ownerWorkerId < 256 ^ 4
  ents : ∀ ent ∈ snap.ents, InRange (snapshotEvent ent)

end Ranges

section Events

variable {e : AoiEvent} {s rest : Bytes}

theorem ofCode_msgKind {k : AoiMsgKind} (h : k = .entry ∨ k = .move ∨ k = .leave) :
    1 ≤ k.code ∧ k.code ≤ 3 ∧ AoiMsgKind.ofCode k.code = k := by
  rcases h with rfl | rfl | rfl <;> decide

theorem ofCode_entityKind {k : EntityKind} (h : validEntityKind k = true) :
    1 ≤ k.code ∧ k.code ≤ 4 ∧ EntityKind.ofCode k.code = k := by
  cases k with
  | invalid => cases h
  | player | monster | npc | drop => decide

theorem code_msgKind {v : Nat} (h : 1 ≤ v ∧ v ≤ 3) : (AoiMsgKind.ofCode v).code = v := by
  obtain rfl | rfl | rfl : v = 1 ∨ v = 2 ∨ v = 3 := by omega
  all_goals rfl

theorem code_entityKind {v : Nat} (h : 1 ≤ v ∧ v ≤ 4) : (EntityKind.ofCode v).code = v := by
  obtain rfl | rfl | rfl | rfl : v = 1 ∨ v = 2 ∨ v = 3 ∨ v = 4 := by omega
  all_goals rfl

theorem length_writeEvent (e : AoiEvent) : (writeEvent e).length = 60 := by
  simp [writeEvent]

/-- A valid event is read where it was written. -/
theorem reads_writeEvent (hvalid : validEvent e = true) (h : InRange e) :
    Reads readEvent (writeEvent e) e := by
  obtain ⟨heId, hkind, hmsg⟩ := of_decide_eq_true hvalid
  obtain ⟨hmsg1, hmsg3, hofMsg⟩ := ofCode_msgKind hmsg
  obtain ⟨hkind1, hkind4, hofKind⟩ := ofCode_entityKind hkind
  have hdir : signed 32 (unsigned 32 e.target_dir) = e.target_dir :=
    Net.signed_unsigned h.target_dir.1 h.target_dir.2 (by decide)
  unfold readEvent writeEvent
  simp only [List.append_assoc]
  refine .bind (Net.reads_read (by omega)) (.guarded ⟨hmsg1, hmsg3⟩ ?_)
  refine .bind (Net.reads_read (by omega)) (.guarded ⟨hkind1, hkind4⟩ ?_)
  refine .bind (Net.reads_read h.eId) (.bind (Net.reads_read h.businessId) ?_)
  refine .bind (Net.reads_read h.target_x) (.bind (Net.reads_read h.target_y) ?_)
  refine .bind (Net.reads_read (Net.unsigned_lt 32 _)) (.bind (Net.reads_read h.entityGeneration) ?_)
  refine .bind (Net.reads_read h.actorEpoch) (.bind (Net.reads_read h.spatialVersion) ?_)
  refine .bind (Net.reads_read h.ownerThreadId) ?_
  rw [← List.append_nil (putLE 8 e.ownerSeq)]
  refine .bind (Net.reads_read h.ownerSeq) ?_
  rw [hofMsg, hofKind, hdir]
  exact .guarded hvalid (Codec.reads_pure e)

/-- What is read is a valid event where it was written. -/
theorem readEvent_eq_some (h : readEvent s = some (e, rest)) :
    validEvent e = true ∧ InRange e ∧ s = writeEvent e ++ rest := by
  unfold readEvent at h
  simp only [Codec.bind_eq_some_iff, read_eq_some_iff, Codec.guard_eq_some_iff,
    Codec.pure_eq_some_iff] at h
  obtain ⟨msgKind, _, ⟨-, rfl⟩, -, _, ⟨hmsg, rfl⟩, entityKind, _, ⟨-, rfl⟩, -, _, ⟨hkind, rfl⟩, h⟩ := h
  obtain ⟨eId, _, ⟨heId, rfl⟩, businessId, _, ⟨hbusinessId, rfl⟩, h⟩ := h
  obtain ⟨x, _, ⟨hx, rfl⟩, y, _, ⟨hy, rfl⟩, dir, _, ⟨hdir, rfl⟩, h⟩ := h
  obtain ⟨generation, _, ⟨hgeneration, rfl⟩, actorEpoch, _, ⟨hactorEpoch, rfl⟩, h⟩ := h
  obtain ⟨version, _, ⟨hversion, rfl⟩, owner, _, ⟨howner, rfl⟩, seq, _, ⟨hseq, rfl⟩, h⟩ := h
  obtain ⟨-, _, ⟨hvalid, rfl⟩, rfl, rfl⟩ := h
  refine ⟨hvalid, ⟨heId, hbusinessId, hx, hy, Net.signed_range hdir (by decide), hgeneration,
    hactorEpoch, hversion, howner, hseq⟩, ?_⟩
  have hdir' : unsigned 32 (signed 32 dir) = dir := Net.unsigned_signed hdir
  simp only [writeEvent, code_msgKind hmsg, code_entityKind hkind, hdir', List.append_assoc]

end Events

section Snapshots

variable {owner seq n : Nat} {seen : List EntityId} {ents : List AoiEntity} {w s rest : Bytes}

/-- An entity as it arrives. -/
def uncelled (ent : AoiEntity) : AoiEntity := { ent with cellIdx := 0 }

theorem snapshotEvent_updateEntity {e : AoiEvent} (h : e.msgKind = .entry) :
    snapshotEvent (updateEntity e 0) = e := by
  cases e
  cases h
  rfl

theorem writeEnts_cons_eq_some_iff {ent : AoiEntity} :
    writeEnts owner seq (ent :: ents) seen = some w ↔
      (validEvent (snapshotEvent ent) = true ∧ ent.ownerWorker = owner ∧ ent.ownerSeq ≤ seq ∧
        ent.entityId ∉ seen) ∧
      ∃ v, writeEnts owner seq ents (ent.entityId :: seen) = some v ∧
        writeEvent (snapshotEvent ent) ++ v = w := by
  rw [writeEnts]
  split
  · rename_i hbad
    refine ⟨nofun, fun ⟨⟨hvalid, howner, hseq, hseen⟩, _⟩ => ?_⟩
    rcases hbad with hbad | hbad | hbad | hbad
    · cases hbad.symm.trans hvalid
    · exact absurd howner hbad
    · exact absurd hseq (Nat.not_le.mpr hbad)
    · exact absurd hbad hseen
  · rename_i hgood
    simp only [not_or, Bool.not_eq_false, ne_eq, not_not, Nat.not_lt] at hgood
    rw [Option.map_eq_some_iff]
    exact ⟨fun h => ⟨hgood, h⟩, fun h => h.2⟩

theorem length_writeEnts (h : writeEnts owner seq ents seen = some w) :
    w.length = ents.length * 60 := by
  induction ents generalizing seen w with
  | nil =>
    cases h
    rfl
  | cons ent ents ih =>
    obtain ⟨-, v, hv, rfl⟩ := writeEnts_cons_eq_some_iff.mp h
    rw [List.length_append, length_writeEvent, ih hv, List.length_cons]
    omega

theorem reads_writeEnts (h : writeEnts owner seq ents seen = some w)
    (hents : ∀ ent ∈ ents, InRange (snapshotEvent ent)) :
    Reads (readEnts owner seq ents.length seen) w (ents.map uncelled) := by
  induction ents generalizing seen w with
  | nil =>
    cases h
    exact Codec.reads_pure []
  | cons ent ents ih =>
    obtain ⟨⟨hvalid, howner, hseq, hseen⟩, v, hv, rfl⟩ := writeEnts_cons_eq_some_iff.mp h
    refine .bind (reads_writeEvent hvalid (hents ent List.mem_cons_self)) ?_
    refine .guarded ⟨rfl, howner, hseq, hseen⟩ ?_
    exact (ih hv fun x hx => hents x (List.mem_cons_of_mem _ hx)).map
      fun ents => updateEntity (snapshotEvent ent) 0 :: ents

theorem readEnts_eq_some (h : readEnts owner seq n seen s = some (ents, rest)) :
    ents.length = n ∧ (∀ ent ∈ ents, InRange (snapshotEvent ent)) ∧
      ∃ w, writeEnts owner seq ents seen = some w ∧ s = w ++ rest := by
  induction n generalizing seen s ents with
  | zero =>
    obtain ⟨rfl, rfl⟩ := Codec.pure_eq_some_iff.mp h
    exact ⟨rfl, fun _ hent => (List.not_mem_nil hent).elim, [], rfl, rfl⟩
  | succ n ih =>
    unfold readEnts at h
    simp only [Codec.bind_eq_some_iff, Codec.guard_eq_some_iff, Codec.pure_eq_some_iff] at h
    obtain ⟨e, _, he, -, _, ⟨⟨hmsg, howner, hseq, hseen⟩, rfl⟩, tail, _, htail, rfl, rfl⟩ := h
    obtain ⟨hvalid, hrange, rfl⟩ := readEvent_eq_some he
    obtain ⟨hlen, hents, v, hv, rfl⟩ := ih htail
    have hevent : snapshotEvent (updateEntity e 0) = e := snapshotEvent_updateEntity hmsg
    refine ⟨by rw [List.length_cons, hlen], ?_, writeEvent e ++ v, ?_, (List.append_assoc ..).symm⟩
    · intro ent hent
      rcases List.mem_cons.mp hent with rfl | hent
      · rw [hevent]
        exact hrange
      · exact hents ent hent
    · refine writeEnts_cons_eq_some_iff.mpr ⟨⟨?_, howner, hseq, hseen⟩, v, hv, by rw [hevent]⟩
      rw [hevent]
      exact hvalid

end Snapshots

section Bodies

theorem assigned_eq_true_iff {α : Type} {out a : α} {o : Option α} :
    assigned out o = (true, a) ↔ o = some a := by
  cases o with
  | none => exact ⟨nofun, nofun⟩
  | some b => exact ⟨fun h => congrArg some (Prod.mk.inj h).2, fun h => congrArg _ (Option.some.inj h)⟩

theorem assigned_refused {α : Type} {out : α} {o : Option α} (h : (assigned out o).1 = false) :
    (assigned out o).2 = out := by
  cases o with
  | none => rfl
  | some b => cases h

variable {e : AoiEvent} {snap : AoiOwnerSnapshot} {s out : Bytes}

theorem encodeEvent_eq_true_iff : encodeEvent e out = (true, s) ↔
    validEvent e = true ∧ putLE 2 kVersion ++ writeEvent e = s := by
  unfold encodeEvent
  rw [assigned_eq_true_iff, Option.ite_none_right_eq_some, Option.some.injEq]

theorem decodeEvent_eq_true_iff {e₀ : AoiEvent} : decodeEvent s e₀ = (true, e) ↔
    validEvent e = true ∧ InRange e ∧ s = putLE 2 kVersion ++ writeEvent e := by
  unfold decodeEvent
  rw [assigned_eq_true_iff, Codec.whole_eq_some_iff]
  constructor
  · intro h
    simp only [Codec.bind_eq_some_iff, read_eq_some_iff, Codec.guard_eq_some_iff] at h
    obtain ⟨_, _, ⟨-, rfl⟩, -, _, ⟨rfl, rfl⟩, h⟩ := h
    obtain ⟨hvalid, hrange, rfl⟩ := readEvent_eq_some h
    exact ⟨hvalid, hrange, by rw [List.append_nil]⟩
  · rintro ⟨hvalid, hrange, rfl⟩
    rw [← List.append_nil (putLE 2 kVersion ++ writeEvent e)]
    exact (Reads.bind (Net.reads_read (by decide)) (.guarded rfl (reads_writeEvent hvalid hrange))) []

theorem encodeSnapshot_eq_true_iff : encodeSnapshot snap out = (true, s) ↔
    snap.ents.length ≤ kMaxSnapshotEntities ∧
      ∃ w, writeEnts snap.ownerWorkerId snap.seq snap.ents [] = some w ∧
        putLE 2 kVersion ++ putLE 4 snap.ownerWorkerId ++ putLE 8 snap.seq ++
          putLE 4 snap.ents.length ++ w = s := by
  unfold encodeSnapshot
  rw [assigned_eq_true_iff, Option.ite_none_left_eq_some, Nat.not_lt, Option.map_eq_some_iff]

theorem decodeSnapshot_eq_true {snap₀ : AoiOwnerSnapshot}
    (h : decodeSnapshot s snap₀ = (true, snap)) :
    SnapshotInRange snap ∧ encodeSnapshot snap out = (true, s) := by
  unfold decodeSnapshot at h
  rw [assigned_eq_true_iff, Option.map_eq_some_iff] at h
  obtain ⟨⟨snap, rest⟩, h, rfl⟩ := h
  unfold readSnapshot at h
  simp only [Codec.bind_eq_some_iff, read_eq_some_iff, Codec.guard_eq_some_iff,
    Codec.pure_eq_some_iff] at h
  obtain ⟨_, _, ⟨-, rfl⟩, -, _, ⟨rfl, rfl⟩, owner, _, ⟨howner, rfl⟩, seq, _, ⟨hseq, rfl⟩, h⟩ := h
  obtain ⟨count, _, ⟨-, rfl⟩, -, _, ⟨hcount, rfl⟩, left, left', hleft, -, _, ⟨hexact, rfl⟩, h⟩ := h
  obtain ⟨rfl, rfl⟩ := Prod.mk.inj (Option.some.inj hleft)
  obtain ⟨ents, rest, hents, rfl, rfl⟩ := h
  obtain ⟨rfl, hrange, w, hw, rfl⟩ := readEnts_eq_some hents
  -- so many entities leave nothing of so many bytes
  have hrest : rest = [] := by
    rw [List.length_append, length_writeEnts hw] at hexact
    exact List.length_eq_zero_iff.mp (by simpa [kEventBytes] using hexact)
  subst hrest
  refine ⟨⟨hseq, howner, hrange⟩, encodeSnapshot_eq_true_iff.mpr ⟨hcount, w, hw, ?_⟩⟩
  simp only [List.append_assoc, List.append_nil]

theorem decodeSnapshot_encode {out₀ : AoiOwnerSnapshot} (hrange : SnapshotInRange snap)
    (h : encodeSnapshot snap out = (true, s)) :
    decodeSnapshot s out₀ = (true, { snap with ents := snap.ents.map uncelled }) := by
  obtain ⟨hcount, w, hw, rfl⟩ := encodeSnapshot_eq_true_iff.mp h
  unfold decodeSnapshot
  rw [assigned_eq_true_iff, Option.map_eq_some_iff]
  refine ⟨({ snap with ents := snap.ents.map uncelled }, []), ?_, rfl⟩
  have hlen : snap.ents.length < 256 ^ 4 := Nat.lt_of_le_of_lt hcount (by decide)
  have hexact : w.length = snap.ents.length * (kEventBytes - 2) := length_writeEnts hw
  have hents := reads_writeEnts hw hrange.ents []
  rw [List.append_nil] at hents
  unfold readSnapshot
  simp only [Codec.bind_eq_some_iff, read_eq_some_iff, Codec.guard_eq_some_iff,
    Codec.pure_eq_some_iff, List.append_assoc]
  refine ⟨_, _, ⟨by decide, rfl⟩, (), _, ⟨rfl, rfl⟩, _, _, ⟨hrange.ownerWorkerId, rfl⟩, _, _,
    ⟨hrange.seq, rfl⟩, _, _, ⟨hlen, rfl⟩, (), _, ⟨hcount, rfl⟩, _, _, rfl, (), _, ⟨hexact, rfl⟩, ?_⟩
  exact ⟨_, _, hents, rfl, rfl⟩

end Bodies

section Carried

variable {owner seq : Nat} {seen : List EntityId} {ents : List AoiEntity}

theorem validEvent_eq (e : AoiEvent) : validEvent e = AoiService.validEvent e := by
  unfold validEvent AoiService.validEvent
  cases e.msgKind <;> simp

/-- The entities that the loop writes. -/
theorem exists_writeEnts_iff : (∃ w, writeEnts owner seq ents seen = some w) ↔
    (∀ e ∈ ents, AoiService.validEvent (snapshotEvent e) = true ∧ e.ownerWorker = owner ∧
      e.ownerSeq ≤ seq) ∧
    (ents.map (·.entityId)).Nodup ∧ ∀ e ∈ ents, e.entityId ∉ seen := by
  induction ents generalizing seen with
  | nil => simp [writeEnts]
  | cons ent ents ih =>
    simp only [writeEnts_cons_eq_some_iff, validEvent_eq]
    constructor
    · rintro ⟨w, ⟨hvalid, howner, hseq, hseen⟩, v, hv, -⟩
      obtain ⟨hall, hnodup, hnew⟩ := ih.mp ⟨v, hv⟩
      refine ⟨List.forall_mem_cons.mpr ⟨⟨hvalid, howner, hseq⟩, hall⟩, ?_,
        List.forall_mem_cons.mpr ⟨hseen, fun e he hmem => hnew e he (List.mem_cons_of_mem _ hmem)⟩⟩
      rw [List.map_cons, List.nodup_cons]
      refine ⟨fun hmem => ?_, hnodup⟩
      obtain ⟨e, he, hid⟩ := List.mem_map.mp hmem
      exact hnew e he (hid ▸ List.mem_cons_self)
    · rintro ⟨hall, hnodup, hnew⟩
      rw [List.forall_mem_cons] at hall hnew
      rw [List.map_cons, List.nodup_cons] at hnodup
      obtain ⟨v, hv⟩ := ih.mpr ⟨hall.2, hnodup.2, fun e he hmem => by
        rcases List.mem_cons.mp hmem with hid | hmem
        · exact hnodup.1 (List.mem_map.mpr ⟨e, he, hid⟩)
        · exact hnew.2 e he hmem⟩
      exact ⟨_, ⟨hall.1.1, hall.1.2.1, hall.1.2.2, hnew.1⟩, v, hv, rfl⟩

/-- The bytes carry what a snapshot is taken to carry. -/
theorem bytes_carry {snap : AoiOwnerSnapshot} (hrange : SnapshotInRange snap) (out : Bytes)
    (out₀ : AoiOwnerSnapshot) :
    match AoiWire.encodeSnapshot snap with
    | none => encodeSnapshot snap out = (false, out)
    | some snap' => ∃ s, encodeSnapshot snap out = (true, s) ∧
        decodeSnapshot s out₀ = (true, snap') := by
  have hvalid : AoiWire.validSnapshot snap = true ↔ ∃ s, encodeSnapshot snap out = (true, s) := by
    simp only [encodeSnapshot_eq_true_iff, AoiWire.validSnapshot, decide_eq_true_eq]
    have hents := @exists_writeEnts_iff snap.ownerWorkerId snap.seq [] snap.ents
    constructor
    · rintro ⟨hcount, hall, hnodup⟩
      obtain ⟨w, hw⟩ := hents.mpr ⟨hall, hnodup, fun _ _ => List.not_mem_nil⟩
      exact ⟨_, hcount, w, hw, rfl⟩
    · rintro ⟨s, hcount, w, hw, -⟩
      obtain ⟨hall, hnodup, -⟩ := hents.mp ⟨w, hw⟩
      exact ⟨hcount, hall, hnodup⟩
  unfold AoiWire.encodeSnapshot
  by_cases h : AoiWire.validSnapshot snap = true
  · rw [if_pos h]
    obtain ⟨s, hs⟩ := hvalid.mp h
    exact ⟨s, hs, decodeSnapshot_encode hrange hs⟩
  · rw [if_neg h]
    change encodeSnapshot snap out = (false, out)
    have hfail : (encodeSnapshot snap out).1 = false := by
      rw [← Bool.not_eq_true]
      exact fun htrue => h (hvalid.mpr ⟨_, Prod.ext htrue rfl⟩)
    exact Prod.ext hfail (assigned_refused hfail)

end Carried

/-- What is encoded is decoded to what it was, but for the cells; what is decoded is encoded to
what it was; and what is refused leaves the output. -/
theorem wire_exact :
    (∀ e out out₀, InRange e → validEvent e = true →
      ∃ s, encodeEvent e out = (true, s) ∧ decodeEvent s out₀ = (true, e)) ∧
    (∀ snap s out out₀, SnapshotInRange snap → encodeSnapshot snap out = (true, s) →
      decodeSnapshot s out₀ = (true, { snap with ents := snap.ents.map uncelled })) ∧
    (∀ s e out out₀, decodeEvent s out₀ = (true, e) → encodeEvent e out = (true, s)) ∧
    (∀ s snap out out₀, decodeSnapshot s out₀ = (true, snap) →
      encodeSnapshot snap out = (true, s)) ∧
    (∀ s out₀, (decodeEvent s out₀).1 = false → (decodeEvent s out₀).2 = out₀) ∧
    ∀ s out₀, (decodeSnapshot s out₀).1 = false → (decodeSnapshot s out₀).2 = out₀ := by
  refine ⟨fun e out out₀ hrange hvalid => ⟨_, encodeEvent_eq_true_iff.mpr ⟨hvalid, rfl⟩, ?_⟩,
    fun snap s out out₀ hrange h => decodeSnapshot_encode hrange h, fun s e out out₀ h => ?_,
    fun s snap out out₀ h => (decodeSnapshot_eq_true h).2, fun s out₀ h => assigned_refused h,
    fun s out₀ h => assigned_refused h⟩
  · exact decodeEvent_eq_true_iff.mpr ⟨hvalid, hrange, rfl⟩
  · obtain ⟨hvalid, -, rfl⟩ := decodeEvent_eq_true_iff.mp h
    exact encodeEvent_eq_true_iff.mpr ⟨hvalid, rfl⟩

/-- An event towards the west. -/
def westward : AoiEvent where
  msgKind := .move
  entityKind := .player
  eId := 7
  businessId := 7
  target_x := 3
  target_y := 4
  target_dir := -90
  entityGeneration := 1
  actorEpoch := 1
  spatialVersion := 2
  ownerThreadId := 0
  ownerSeq := 5

theorem wire_exact_westward : ∃ s, encodeEvent westward [] = (true, s) ∧
    decodeEvent s westward = (true, westward) :=
  wire_exact.1 westward [] westward (by constructor <;> decide) (by decide)

end AoiWire.Body

end Aoi
