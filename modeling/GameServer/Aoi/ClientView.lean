import GameServer.Aoi.Service

/-!
# Deltas and snapshots for a client

`ProcessAoiClientObserver` compares what the observer sees now with the
committed view and sends either a delta or, when a resync is due, a snapshot in
parts. The committed view follows only what the sink accepted.
-/

namespace Aoi

namespace ClientView

def toProto (entity : AoiEntity) : ViewEntity where
  entity_id := entity.entityId
  business_id := entity.businessId
  entity_kind := entity.kind
  entity_generation := entity.entityGeneration
  spatial_version := entity.spatialVersion
  actor_epoch := entity.actorEpoch
  x := entity.x
  y := entity.y
  dir := entity.dir

/-- A `left` item, and an entity of a snapshot part: both come from a committed state. -/
def ofState (id : EntityId) (state : SentEntityState) : ViewEntity where
  entity_id := id
  business_id := state.businessId
  entity_kind := state.kind
  entity_generation := state.entityGeneration
  spatial_version := state.spatialVersion
  x := state.x
  y := state.y
  dir := state.dir

def toState (entity : AoiEntity) : SentEntityState where
  kind := entity.kind
  businessId := entity.businessId
  entityGeneration := entity.entityGeneration
  spatialVersion := entity.spatialVersion
  x := entity.x
  y := entity.y
  dir := entity.dir

/-- The visible entities, sorted by id. -/
def currentView (sc : Scene) (s : AoiService) (observer : EntityId) : Option (List AoiEntity) := do
  let (_, entities) ← s.viewOf sc observer
  some (entities.insertionSort fun a b => a.entityId ≤ b.entityId)

def toBaseline (entities : List AoiEntity) : ViewBaseline :=
  entities.foldl
    (fun result entity =>
      if entity.entityId ∈ result then result
      else result.insert entity.entityId (toState entity))
    ∅

/-- How an entity of the current view differs from the baseline, if it does. -/
def deltaKind (baseline : ViewBaseline) (entity : AoiEntity) : Option AoiMsgKind :=
  match baseline.lookup entity.entityId with
  | none => some .entry
  | some old =>
    if old.entityGeneration ≠ entity.entityGeneration then some .entry
    else if old.spatialVersion ≠ entity.spatialVersion then some .move
    else none

/-- `accepted.push_back({kind, id, {kind, businessId, generation, version}})`: the position and
the direction are not filled in. -/
def pushOf (kind : AoiMsgKind) (entity : AoiEntity) : AcceptedPush where
  kind := kind
  targetId := entity.entityId
  state :=
    { kind := entity.kind
      businessId := entity.businessId
      entityGeneration := entity.entityGeneration
      spatialVersion := entity.spatialVersion }

/-- `lower_bound` in the sorted view does not find the id. -/
def gone (current : List AoiEntity) (id : EntityId) : Bool :=
  match current.find? fun entity => id ≤ entity.entityId with
  | none => true
  | some entity => entity.entityId ≠ id

def leftRows (current : List AoiEntity) (baseline : ViewBaseline) :
    List (Σ _ : EntityId, SentEntityState) :=
  baseline.entries.filter fun row => gone current row.1

def delta (viewSeq : Nat) (current : List AoiEntity) (baseline : ViewBaseline) :
    SCPushViewDelta where
  view_seq := viewSeq
  entered := (current.filter fun e => deltaKind baseline e = some .entry).map toProto
  moved := (current.filter fun e => deltaKind baseline e = some .move).map toProto
  left := (leftRows current baseline).map fun row => ofState row.1 row.2

def acceptedPushes (current : List AoiEntity) (baseline : ViewBaseline) : List AcceptedPush :=
  (current.filterMap fun e => (deltaKind baseline e).map fun kind => pushOf kind e) ++
    (leftRows current baseline).map fun row =>
      { kind := .leave, targetId := row.1, state := row.2 }

def sendDelta (sink : Sink) (s : AoiService) (observer : EntityId) (token : ViewSendToken)
    (current : List AoiEntity) (baseline : ViewBaseline) : Bool × AoiService :=
  let accepted := acceptedPushes current baseline
  if accepted = [] then (true, s)
  else match s.businessIdOf observer with
    | none => (false, s)
    | some observerPlayerId =>
      if (s.viewSet.findObserver observer).isNone then (false, s)
      else
        let request : AoiClientPushRequest :=
          { observerPlayerId := observerPlayerId
            clientViewEpoch := token.clientViewEpoch
            body := .viewDelta (delta token.nextViewSeq current baseline) }
        match s.pushToClient sink request with
        | (.accepted, s) =>
          let (committed, viewSet) := s.viewSet.commitAccepted observer token accepted
          (committed, { s with viewSet := viewSet })
        | (_, s) => (false, s)

def partSize : Nat := 128

def partCount (frozen : ViewBaseline) : Nat :=
  max 1 ((frozen.size + partSize - 1) / partSize)

/-- The frozen view sorted by id, as the parts carry it. -/
def ordered (frozen : ViewBaseline) : List (Σ _ : EntityId, SentEntityState) :=
  frozen.entries.insertionSort fun a b => a.1 ≤ b.1

def snapshotPart (token : ViewSnapshotToken) (frozen : ViewBaseline) (part : Nat) :
    SCPushViewSnapshotPart where
  snapshot_id := token.snapshotId
  view_seq := token.viewSeq
  part_index := part
  part_count := token.partCount
  entities := (((ordered frozen).drop (part * partSize)).take partSize).map
    fun row => ofState row.1 row.2

/-- `abortSnapshot` and `OnClientSendFailed`, when a part was refused. -/
def abandon (s : AoiService) (observer : EntityId) (token : ViewSnapshotToken) : AoiService :=
  let s := { s with viewSet := (s.viewSet.abortSnapshot token).2 }
  (s.onClientSendFailed observer token.clientViewEpoch).2

/-- The parts still to be sent, and the commit after the last one. -/
def sendParts (sink : Sink) (observer : EntityId) (token : ViewSnapshotToken)
    (frozen : ViewBaseline) : List Nat → AoiService → Bool × AoiService
  | [], s =>
    let (committed, viewSet) := s.viewSet.commitSnapshot token
    (committed, { s with viewSet := viewSet })
  | part :: rest, s =>
    match s.businessIdOf observer with
    | none => (false, abandon s observer token)
    | some observerPlayerId =>
      let request : AoiClientPushRequest :=
        { observerPlayerId := observerPlayerId
          clientViewEpoch := token.clientViewEpoch
          body := .viewSnapshot (snapshotPart token frozen part) }
      match s.pushToClient sink request with
      | (.accepted, s) =>
        sendParts sink observer token frozen rest
          { s with viewSet := (s.viewSet.markSnapshotPartAccepted token part).2 }
      | (_, s) => (false, abandon s observer token)

def sendSnapshot (sink : Sink) (s : AoiService) (observer : EntityId) (current : List AoiEntity) :
    Bool × AoiService :=
  let frozen := toBaseline current
  match s.viewSet.beginSnapshot observer frozen (partCount frozen) with
  | (none, _) => (false, s)
  | (some token, viewSet) =>
    sendParts sink observer token frozen (List.range (partCount frozen))
      { s with viewSet := viewSet }

def processAoiClientObserver (sc : Scene) (sink : Sink) : AoiService.ProcessObserver :=
  fun s observer =>
    match s.viewSet.prepareSend observer with
    | none => some (false, s)
    | some token => do
      let current ← currentView sc s observer
      match s.viewSet.borrowCommittedBaseline observer with
      | none => some (false, s)
      | some baseline =>
        if s.viewSet.needResync observer then some (sendSnapshot sink s observer current)
        else some (sendDelta sink s observer token current baseline)

end ClientView

/-- A call of the service between two ticks. -/
inductive Op where
  | enter (p : PlayerPose)
  | reenter (p : PlayerPose)
  | leave (id : EntityId)
  | moved (p : PlayerPose)
  | remote (sender : WorkerId) (ev : AoiEvent)
  | ownerSnapshot (sender : WorkerId) (snap : AoiOwnerSnapshot)
  | online (pid clientViewEpoch : Nat)
  | rebind (pid oldEpoch newEpoch : Nat)
  | offline (pid clientViewEpoch : Nat)
  | resync (pid clientViewEpoch : Nat)

/-- The pieces a run consists of: a call, or one of the three parts of a tick. -/
inductive Act where
  | call (op : Op)
  | flush (nextTickTime : Int)
  | retry (sink : Sink)
  | process (observer : EntityId) (sink : Sink)

/-- What the owning thread does with its service. -/
inductive Work where
  | call (op : Op)
  | tick (now : Int) (sink : Sink)

namespace AoiService

variable (sc : Scene) (wId : WorkerId) (targets : List WorkerId)

/-- `none` is a signed overflow in `getWatchCellIdx`. -/
def call (s : AoiService) : Op → Option AoiService
  | .enter p => (s.onEntityEnter sc wId targets p).map (·.2)
  | .reenter p => (s.onEntityReenter sc wId targets p).map (·.2)
  | .leave id => (s.onEntityLeave sc wId targets id).map (·.2)
  | .moved p => (s.onLocalEntityMoved sc wId targets p).map (·.2)
  | .remote sender ev => (s.onRemoteEntityEvent sc wId sender ev).map (·.2)
  | .ownerSnapshot sender snap => some (s.applyOwnerSnapshot sc wId sender snap).2
  | .online pid epoch => some (s.onPlayerOnline pid epoch).2
  | .rebind pid oldEpoch newEpoch => some (s.onPlayerRebind pid oldEpoch newEpoch).2
  | .offline pid epoch => some (s.onPlayerOffline pid epoch).2
  | .resync pid epoch => some (s.onViewResyncReq pid epoch).2

def act (s : AoiService) : Act → Option AoiService
  | .call op => s.call sc wId targets op
  | .flush nextTickTime => flushRemoteMoves sc wId { s with nextTickTime := nextTickTime }
  | .retry sink => some (retryPublishes sink s)
  | .process observer sink =>
    processOne (ClientView.processAoiClientObserver sc sink) s observer

def work (s : AoiService) : Work → Option AoiService
  | .call op => s.call sc wId targets op
  | .tick now sink => s.onTick sc wId sink (ClientView.processAoiClientObserver sc sink) now

end AoiService

end Aoi
