import Mathlib.Algebra.Order.BigOperators.Group.List
import GameServer.Lib.Proto3
import GameServer.Net.ClientProto
import GameServer.Aoi.ClientViewSpec
import GameServer.Aoi.Freshness

/-!
# View frames on the link of a client

The gateway puts what a scene pushes into a client frame, which the client takes up
to a limit. A snapshot is cut into parts that stay below it. A delta is one frame,
however much has changed.
-/

namespace Aoi

open Gateway (Bytes)
open Net (ClientHeader encodeClientFrame decodeClientFrame kClientHeaderSize kMaxClientFrameSize)
open Proto3 (uint64 uint32 int32 message)
open ClientView AoiViewSet

section Messages

/-- `gs::ViewEntity` on the wire. -/
def wireEntity (e : ViewEntity) : Bytes :=
  uint64 1 e.entity_id ++ uint64 2 e.business_id ++ uint32 3 e.entity_kind.code ++
    uint32 4 e.entity_generation ++ uint64 5 e.spatial_version ++ uint32 6 e.actor_epoch ++
    int32 7 e.x ++ int32 8 e.y ++ int32 9 e.dir

/-- `gs::SCPushViewDelta` on the wire. -/
def wireDelta (delta : SCPushViewDelta) : Bytes :=
  uint64 1 delta.view_seq ++ delta.entered.flatMap (fun e => message 2 (wireEntity e)) ++
    delta.moved.flatMap (fun e => message 3 (wireEntity e)) ++
    delta.left.flatMap (fun e => message 4 (wireEntity e))

/-- `gs::SCPushViewSnapshotPart` on the wire. -/
def wirePart (part : SCPushViewSnapshotPart) : Bytes :=
  uint64 1 part.snapshot_id ++ uint64 2 part.view_seq ++ uint32 3 part.part_index ++
    uint32 4 part.part_count ++ part.entities.flatMap fun e => message 5 (wireEntity e)

/-- The generated classes of the messages. What they write is as long as the wire format says. -/
structure ViewCodec where
  serializeDelta : SCPushViewDelta → Bytes
  serializePart : SCPushViewSnapshotPart → Bytes
  length_delta : ∀ delta, (serializeDelta delta).length = (wireDelta delta).length
  length_part : ∀ part, (serializePart part).length = (wirePart part).length

def wireCodec : ViewCodec := ⟨wireDelta, wirePart, fun _ => rfl, fun _ => rfl⟩

theorem length_wireEntity_le (e : ViewEntity) : (wireEntity e).length ≤ 84 := by
  have h1 := Proto3.length_uint64_le (by decide : 1 < 16) e.entity_id
  have h2 := Proto3.length_uint64_le (by decide : 2 < 16) e.business_id
  have h3 := Proto3.length_uint32_le (by decide : 3 < 16) e.entity_kind.code
  have h4 := Proto3.length_uint32_le (by decide : 4 < 16) e.entity_generation
  have h5 := Proto3.length_uint64_le (by decide : 5 < 16) e.spatial_version
  have h6 := Proto3.length_uint32_le (by decide : 6 < 16) e.actor_epoch
  have h7 := Proto3.length_int32_le (by decide : 7 < 16) e.x
  have h8 := Proto3.length_int32_le (by decide : 8 < 16) e.y
  have h9 := Proto3.length_int32_le (by decide : 9 < 16) e.dir
  simp only [wireEntity, List.length_append]
  omega

/-- The size of an entity in a message. -/
def itemSize (e : ViewEntity) : Nat := (wireEntity e).length + 2

theorem length_item {field : Nat} (hfield : field < 15) (e : ViewEntity) :
    (message field (wireEntity e)).length = itemSize e :=
  Proto3.length_message hfield (Nat.lt_of_le_of_lt (length_wireEntity_le e) (by decide))

theorem length_items {field : Nat} (hfield : field < 15) (es : List ViewEntity) :
    (es.flatMap fun e => message field (wireEntity e)).length = (es.map itemSize).sum := by
  rw [List.length_flatMap]
  exact congrArg List.sum (List.map_congr_left fun e _ => length_item hfield e)

end Messages

section Changes

/-- What an entity of the view adds to a delta. -/
def changeSize (baseline : ViewBaseline) (entity : AoiEntity) : Nat :=
  if (deltaKind baseline entity).isSome then itemSize (toProto entity) else 0

/-- What a row of the baseline adds to a delta. -/
def goneSize (current : List AoiEntity) (row : Σ _ : EntityId, SentEntityState) : Nat :=
  if gone current row.1 then itemSize (ofState row.1 row.2) else 0

/-- What differs between the view and the baseline, in bytes. -/
def changesSize (viewSeq : Nat) (current : List AoiEntity) (baseline : ViewBaseline) : Nat :=
  (uint64 1 viewSeq).length + (current.map (changeSize baseline)).sum +
    (baseline.entries.map (goneSize current)).sum

variable {current : List AoiEntity} {baseline : ViewBaseline}

theorem deltaKind_cases (baseline : ViewBaseline) (entity : AoiEntity) :
    deltaKind baseline entity = none ∨ deltaKind baseline entity = some .entry ∨
      deltaKind baseline entity = some .move := by
  unfold deltaKind
  split
  · exact .inr (.inl rfl)
  split
  · exact .inr (.inl rfl)
  split
  · exact .inr (.inr rfl)
  · exact .inl rfl

theorem sum_changes (baseline : ViewBaseline) (current : List AoiEntity) :
    (((current.filter fun e => deltaKind baseline e = some .entry).map toProto).map itemSize).sum +
      (((current.filter fun e => deltaKind baseline e = some .move).map toProto).map itemSize).sum =
      (current.map (changeSize baseline)).sum := by
  induction current with
  | nil => rfl
  | cons e current ih =>
    rw [List.map_cons, List.sum_cons, ← ih]
    unfold changeSize
    rcases deltaKind_cases baseline e with h | h | h
    · simp [h]
    · simp [h]
      omega
    · simp [h]
      omega

theorem sum_gone (current : List AoiEntity) (baseline : ViewBaseline) :
    (((leftRows current baseline).map fun row => ofState row.1 row.2).map itemSize).sum =
      (baseline.entries.map (goneSize current)).sum := by
  unfold leftRows
  induction baseline.entries with
  | nil => rfl
  | cons row rows ih =>
    rw [List.map_cons, List.sum_cons, ← ih]
    unfold goneSize
    by_cases h : gone current row.1 = true
    · simp [h]
    · simp [h]

theorem length_wireDelta (viewSeq : Nat) (current : List AoiEntity) (baseline : ViewBaseline) :
    (wireDelta (delta viewSeq current baseline)).length = changesSize viewSeq current baseline := by
  unfold wireDelta changesSize delta
  simp only [List.length_append, length_items (by decide : 2 < 15), length_items (by decide : 3 < 15),
    length_items (by decide : 4 < 15)]
  rw [sum_gone, ← sum_changes]
  omega

/-- A part of a snapshot has at most 128 entities. -/
theorem length_wirePart_le (token : ViewSnapshotToken) (frozen : ViewBaseline) (part : Nat) :
    (wirePart (snapshotPart token frozen part)).length ≤ 11042 := by
  have h1 := Proto3.length_uint64_le (by decide : 1 < 16) token.snapshotId
  have h2 := Proto3.length_uint64_le (by decide : 2 < 16) token.viewSeq
  have h3 := Proto3.length_uint32_le (by decide : 3 < 16) part
  have h4 := Proto3.length_uint32_le (by decide : 4 < 16) token.partCount
  have hcount : (snapshotPart token frozen part).entities.length ≤ 128 := by
    simp only [snapshotPart, List.length_map, List.length_take]
    exact Nat.min_le_left _ _
  have hsum := List.sum_le_card_nsmul ((snapshotPart token frozen part).entities.map itemSize) 86
    fun n hn => by
      obtain ⟨e, -, rfl⟩ := List.mem_map.mp hn
      have hle := length_wireEntity_le e
      unfold itemSize
      omega
  rw [List.length_map, Nat.nsmul_eq_mul] at hsum
  unfold wirePart
  simp only [List.length_append, length_items (by decide : 5 < 15)]
  simp only [snapshotPart] at hsum hcount ⊢
  omega

end Changes

section Link

/-- The header that the gateway gives to a push of the scene. -/
def pushHeader : AoiPushBody → ClientHeader
  | .viewDelta _ => { kind := 3, module := 100, method := 7 }
  | .viewSnapshot _ => { kind := 3, module := 100, method := 8 }

def ViewCodec.serialize (codec : ViewCodec) : AoiPushBody → Bytes
  | .viewDelta delta => codec.serializeDelta delta
  | .viewSnapshot part => codec.serializePart part

/-- The client's decoder takes the frame of a push as it was made. -/
def Taken (codec : ViewCodec) (request : AoiClientPushRequest) : Prop :=
  ∃ bytes, encodeClientFrame [] (pushHeader request.body) (codec.serialize request.body) =
      .ok bytes ∧
    decodeClientFrame bytes = some (.ok ⟨(pushHeader request.body).withLength
      (codec.serialize request.body), codec.serialize request.body⟩, [])

theorem taken_iff {codec : ViewCodec} {request : AoiClientPushRequest} :
    Taken codec request ↔ (codec.serialize request.body).length ≤ 65504 := by
  have hname : Gateway.validRoleName (pushHeader request.body).roleName = true := by
    cases request.body <;> rfl
  have hbytes := @Net.encodeClientFrame_ok (pushHeader request.body)
    (codec.serialize request.body) hname []
  have hiff := Net.decodeClientFrame_encoded_iff hbytes
  unfold Taken
  constructor
  · rintro ⟨bytes, hbytes', hdecode⟩
    cases hbytes.symm.trans hbytes'
    have hlen := hiff.mp hdecode
    simp only [kClientHeaderSize, kMaxClientFrameSize] at hlen
    omega
  · intro hlen
    refine ⟨_, hbytes, hiff.mpr ?_⟩
    simp only [kClientHeaderSize, kMaxClientFrameSize]
    omega

variable (sc : Scene) (s : AoiService) (o : EntityId)

/-- A push that the pass of an observer hands to some sink, which takes it. -/
def Pushes (request : AoiClientPushRequest) : Prop :=
  ∃ sink ok s', processAoiClientObserver sc sink s o = some (ok, s') ∧
    request ∈ s'.clientQueue.drop s.clientQueue.length

/-- The next frame of the observer is a delta. -/
structure DeltaDue (pid : Nat) (v : ObserverSnapshot) (current : List AoiEntity) : Prop where
  view : s.viewSet.views.lookup o = some v
  synced : v.needResync = false
  player : s.businessIdOf o = some pid
  ready : (s.viewSet.prepareSend o).isSome = true
  seen : currentView sc s o = some current
  changed : acceptedPushes current v.committedState ≠ []

variable {sc s o}

theorem pushes_cases {request : AoiClientPushRequest} (h : Pushes sc s o request) :
    (∃ pid v current, DeltaDue sc s o pid v current ∧ request = deltaRequest pid v current) ∨
      ∃ pid token frozen part, request = partRequest pid token frozen part := by
  obtain ⟨sink, ok, s', hrun, hmem⟩ := h
  have hparts : ∀ {token : ViewSnapshotToken} {frozen : ViewBaseline} {n : Nat},
      Queued o token frozen 0 n s s' →
      ∃ pid token frozen part, request = partRequest pid token frozen part := by
    rintro token frozen n (⟨-, hqueue⟩ | ⟨pid, -, hqueue⟩)
    · rw [hqueue, List.drop_length] at hmem
      cases hmem
    · rw [hqueue, List.drop_left] at hmem
      obtain ⟨part, -, rfl⟩ := List.mem_map.mp hmem
      exact ⟨pid, token, frozen, part, rfl⟩
  rcases process_pass hrun with ⟨-, rfl⟩ | ⟨current, hcurrent, hpass⟩
  · rw [List.drop_length] at hmem
    cases hmem
  cases hpass with
  | idle | upToDate =>
    rw [List.drop_length] at hmem
    cases hmem
  | delta hv hr hpid htoken _ hne =>
    rw [List.drop_left, List.mem_singleton] at hmem
    exact .inl ⟨_, _, _, ⟨hv, hr, hpid, Option.isSome_of_eq_some htoken, hcurrent, hne⟩, hmem⟩
  | uncommitted hv hr hpid htoken _ hne =>
    rw [List.drop_left, List.mem_singleton] at hmem
    exact .inl ⟨_, _, _, ⟨hv, hr, hpid, Option.isSome_of_eq_some htoken, hcurrent, hne⟩, hmem⟩
  | snapshot _ _ _ _ _ _ _ _ hqueue => exact .inr (hparts hqueue)
  | aborted _ _ _ _ _ _ _ _ _ hqueue => exact .inr (hparts hqueue)

/-- A delta that is due is handed over. -/
theorem DeltaDue.pushes {pid : Nat} {v : ObserverSnapshot} {current : List AoiEntity}
    (h : DeltaDue sc s o pid v current) : Pushes sc s o (deltaRequest pid v current) := by
  obtain ⟨token, htoken⟩ := Option.isSome_iff_exists.mp h.ready
  obtain ⟨v', hv', -, -, hepoch, hseq⟩ := prepareSend_some htoken
  cases h.view.symm.trans hv'
  let committed := s.viewSet.commitAccepted o token (acceptedPushes current v.committedState)
  refine ⟨⟨fun _ => .accepted, fun _ _ => true⟩, committed.1,
    { s with
      clientQueue := s.clientQueue ++ [deltaRequest pid v current]
      viewSet := committed.2 }, ?_, by simp⟩
  unfold processAoiClientObserver
  simp only [htoken, h.seen, Option.bind_eq_bind, Option.bind_some,
    AoiViewSet.borrowCommittedBaseline, AoiViewSet.needResync, h.view, Option.map_some,
    Option.any_some, h.synced, Bool.false_eq_true, if_false, Option.some.injEq]
  unfold sendDelta
  simp only [h.changed, if_false, h.player, AoiViewSet.findObserver, h.view, Option.isNone_some,
    Bool.false_eq_true, AoiService.pushToClient, hepoch, hseq]
  rfl

/-- Every frame of an observer fits exactly if its next delta is not too long. -/
theorem frames_fit_iff (codec : ViewCodec) (sc : Scene) (s : AoiService) (o : EntityId) :
    (∀ request, Pushes sc s o request → Taken codec request) ↔
      ∀ pid v current, DeltaDue sc s o pid v current →
        changesSize v.nextViewSeq current v.committedState ≤ 65504 := by
  have hdelta : ∀ pid v current, Taken codec (deltaRequest pid v current) ↔
      changesSize v.nextViewSeq current v.committedState ≤ 65504 := by
    intro pid v current
    rw [taken_iff, ← length_wireDelta]
    show (codec.serializeDelta _).length ≤ _ ↔ _
    rw [codec.length_delta]
  constructor
  · exact fun h pid v current hdue => (hdelta pid v current).mp (h _ hdue.pushes)
  · intro h request hpush
    rcases pushes_cases hpush with ⟨pid, v, current, hdue, rfl⟩ | ⟨pid, token, frozen, part, rfl⟩
    · exact (hdelta pid v current).mpr (h pid v current hdue)
    · have hle := length_wirePart_le token frozen part
      rw [taken_iff]
      show (codec.serializePart _).length ≤ _
      rw [codec.length_part]
      omega

/-- A player whose committed view has left it since the last frame. -/
def deserted (crowd : ViewBaseline) : AoiService where
  replica :=
    { ents := AList.insert 4294967297
        { entityId := 4294967297, kind := .player, businessId := 7, x := 0, y := 0, dir := 0,
          cellIdx := 0, entityGeneration := 1, actorEpoch := 1, spatialVersion := 1
          ownerWorker := 1, ownerSeq := 1 } ∅
      cells := fun idx =>
        { entys := if idx = 0 then [4294967297] else []
          watchers := if idx = 0 then [4294967297] else [] } }
  identities := AList.insert 7 { id := 4294967297, generation := 1 } ∅
  viewSet :=
    { views := AList.insert 4294967297
        { committedState := crowd, clientViewEpoch := 1, nextViewSeq := 2 } ∅ }
  nextEntityCounter := 2
  ownerSeq := 1

theorem deserted_due {crowd : ViewBaseline} (hsome : 0 < crowd.entries.length) :
    DeltaDue smallScene (deserted crowd) 4294967297 7
      { committedState := crowd, clientViewEpoch := 1, nextViewSeq := 2 } [] where
  view := Table.lookup_insert_same _ _ _
  synced := rfl
  player := rfl
  ready := by
    have hview : (deserted crowd).viewSet.views.lookup 4294967297 =
        some { committedState := crowd, clientViewEpoch := 1, nextViewSeq := 2 } :=
      Table.lookup_insert_same _ _ _
    unfold AoiViewSet.prepareSend
    rw [hview]
    rfl
  seen := by
    have hempty : currentView smallScene (deserted ∅) 4294967297 = some [] := by decide +kernel
    exact hempty
  changed := by
    intro hnil
    simp only [acceptedPushes, List.filterMap_nil, List.nil_append, List.map_eq_nil_iff] at hnil
    have hall : leftRows [] crowd = crowd.entries := List.filter_eq_self.mpr fun _ _ => rfl
    rw [hall] at hnil
    rw [hnil] at hsome
    exact Nat.lt_irrefl 0 hsome

/-- What was sent of the `i`-th player of a crowd. -/
def crowdRow (i : Nat) : Σ _ : EntityId, SentEntityState :=
  ⟨4294967298 + i,
    { businessId := 8 + i, entityGeneration := 1, spatialVersion := 1, x := 1, y := 1, dir := 1 }⟩

def crowd (n : Nat) : ViewBaseline where
  entries := (List.range n).map crowdRow
  nodupKeys := by
    unfold List.NodupKeys List.keys
    rw [List.map_map]
    exact List.nodup_range.map (add_right_injective 4294967298)

theorem length_crowd (n : Nat) : (crowd n).entries.length = n := by
  rw [crowd, List.length_map, List.length_range]

theorem goneSize_crowdRow (i : Nat) (hi : i < 2 ^ 32) : 18 ≤ goneSize [] (crowdRow i) := by
  have hmod : (4294967298 + i) % 2 ^ 64 ≠ 0 := by omega
  have hid := Proto3.two_le_length_uint 1 hmod
  have hbusiness := Proto3.two_le_length_uint 2 (v := (8 + i) % 2 ^ 64) (by omega)
  have hkind := Proto3.two_le_length_uint 3 (v := 1 % 2 ^ 32) (by decide)
  have hgeneration := Proto3.two_le_length_uint 4 (v := 1 % 2 ^ 32) (by decide)
  have hversion := Proto3.two_le_length_uint 5 (v := 1 % 2 ^ 64) (by decide)
  have hx := Proto3.two_le_length_uint 7 (v := ((1 : Int).bmod (2 ^ 32) % 2 ^ 64).toNat) (by decide)
  have hy := Proto3.two_le_length_uint 8 (v := ((1 : Int).bmod (2 ^ 32) % 2 ^ 64).toNat) (by decide)
  have hdir := Proto3.two_le_length_uint 9 (v := ((1 : Int).bmod (2 ^ 32) % 2 ^ 64).toNat) (by decide)
  have hgone : gone [] (crowdRow i).1 = true := rfl
  unfold goneSize
  rw [if_pos hgone]
  simp only [itemSize, wireEntity, ofState, crowdRow, List.length_append, uint64, uint32, int32,
    EntityKind.code]
  omega

/-- A delta with 3700 entities that have left does not fit. -/
theorem delta_too_long : ¬ ∀ codec sc s o request, Pushes sc s o request → Taken codec request := by
  intro hclaim
  obtain ⟨n, hn⟩ : ∃ n, n = 3700 := ⟨3700, rfl⟩
  have hsome : 0 < (crowd n).entries.length := by
    rw [length_crowd]
    omega
  have hfits := (frames_fit_iff wireCodec smallScene (deserted (crowd n)) 4294967297).mp
    (hclaim wireCodec smallScene (deserted (crowd n)) 4294967297) _ _ _ (deserted_due hsome)
  have hsum := List.card_nsmul_le_sum ((crowd n).entries.map (goneSize [])) 18 fun size hsize => by
    obtain ⟨row, hrow, rfl⟩ := List.mem_map.mp hsize
    obtain ⟨i, hi, rfl⟩ := List.mem_map.mp hrow
    have hi : i < n := List.mem_range.mp hi
    exact goneSize_crowdRow i (by omega)
  rw [List.length_map, length_crowd, Nat.nsmul_eq_mul] at hsum
  simp only [changesSize] at hfits
  omega

end Link

end Aoi
