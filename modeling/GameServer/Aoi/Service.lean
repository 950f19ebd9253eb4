import Mathlib.Data.List.Sort
import GameServer.Aoi.ViewSet

/-!
# The AOI service of a worker

The service owns the replica, the observers' committed views, the identities of
the local players and the queue of events for the other workers. The sink and
the observer hook are parameters: each call of the sink may be accepted or
refused for any reason.
-/

namespace Aoi

/-- The fields of a `Player` that the service reads. -/
structure PlayerPose where
  id : Nat
  x : Int
  y : Int
  dir : Int
  epoch : Nat
  deriving DecidableEq, Repr

structure LocalIdentity where
  id : EntityId
  generation : Nat := 0
  deriving DecidableEq, Repr

structure PublishTask where
  event : AoiEvent
  remaining : List WorkerId
  deriving DecidableEq, Repr

/-- `gs::ViewEntity` -/
structure ViewEntity where
  entity_id : EntityId
  business_id : Nat
  entity_kind : EntityKind
  entity_generation : Nat
  spatial_version : Nat
  actor_epoch : Nat := 0
  x : Int
  y : Int
  dir : Int
  deriving DecidableEq, Repr

/-- `gs::SCPushViewDelta` -/
structure SCPushViewDelta where
  view_seq : Nat
  entered : List ViewEntity
  moved : List ViewEntity
  left : List ViewEntity
  deriving DecidableEq, Repr

/-- `gs::SCPushViewSnapshotPart` -/
structure SCPushViewSnapshotPart where
  snapshot_id : Nat
  view_seq : Nat
  part_index : Nat
  part_count : Nat
  entities : List ViewEntity
  deriving DecidableEq, Repr

/-- The body of a push, before serialisation: `AOI_VIEW_DELTA` or `AOI_VIEW_SNAPSHOT`. -/
inductive AoiPushBody where
  | viewDelta (delta : SCPushViewDelta)
  | viewSnapshot (part : SCPushViewSnapshotPart)
  deriving DecidableEq, Repr

structure AoiClientPushRequest where
  observerPlayerId : Nat
  clientViewEpoch : Nat
  body : AoiPushBody
  deriving DecidableEq, Repr

inductive AoiPushResult where
  | accepted | queueFull | observerOffline | sessionChanged | invalidRequest
  deriving DecidableEq, Repr

/-- The state of the service. `clientQueue` is what the sink has accepted for the clients and
`workerQueue` what it has accepted for the other workers, oldest first. -/
structure AoiService where
  viewSet : AoiViewSet := {}
  replica : AoiReplica := {}
  identities : Table Nat LocalIdentity := ∅
  dirtyObservers : Observers := ∅
  pendingRemoteMoves : Table EntityId AoiEvent := ∅
  ownersNeedingSnapshot : Finset WorkerId := ∅
  pendingPublishes : List PublishTask := []
  nextEntityCounter : Nat := 1
  ownerSeq : Nat := 0
  nextTickTime : Int := 0
  clientQueue : List AoiClientPushRequest := []
  workerQueue : List (WorkerId × AoiEvent) := []

/-- The verdicts of the sink during one call of the service. -/
structure Sink where
  sendToClient : AoiClientPushRequest → AoiPushResult
  publishToWorkers : AoiEvent → WorkerId → Bool

inductive RemoteResult where
  | queued | applied | ignored | rejected
  deriving DecidableEq, Repr

def int64Max : Int := 9223372036854775807

/-- The constructor's clean-up of `publishTargets`. -/
def publishTargets (wId : WorkerId) (targets : List WorkerId) : List WorkerId :=
  ((targets.insertionSort (· ≤ ·)).dedup).filter (· ≠ wId)

namespace AoiService

variable (sc : Scene) (wId : WorkerId) (targets : List WorkerId)

def entityOf (s : AoiService) (pid : Nat) : Option EntityId :=
  (s.identities.lookup pid).map (·.id)

def isEntityActive (s : AoiService) (id : EntityId) : Bool := (s.replica.findById id).isSome

def businessIdOf (s : AoiService) (id : EntityId) : Option Nat :=
  match s.replica.findById id with
  | none => none
  | some entity => if entity.businessId = 0 then none else some entity.businessId

def viewOf (s : AoiService) (observer : EntityId) : Option (Bool × List AoiEntity) :=
  s.replica.getVisibleEntity sc.grid observer false

def validPosition (p : PlayerPose) : Bool := sc.map.contains p.x p.y

/-- Publish and apply a local event; a refused event leaves no trace. -/
def applyLocal (s : AoiService) (event : AoiEvent) : Option (ApplyResult × AoiService) :=
  if s.ownerSeq = uint64Max then some (.invalid, s)
  else do
    let ev := { event with ownerSeq := s.ownerSeq + 1 }
    let (result, replica, dirty) ← s.replica.apply sc wId ev .kLocal s.dirtyObservers
    let s := { s with replica := replica, dirtyObservers := dirty }
    if result ≠ .applied then some (result, s)
    else
      some (result,
        { s with
          ownerSeq := ev.ownerSeq
          pendingPublishes :=
            if targets = [] then s.pendingPublishes
            else s.pendingPublishes ++ [{ event := ev, remaining := targets }] })

/-- `(uint64_t(wId_) << 32) | counter` -/
def makeEntityId (counter : Nat) : EntityId := wId * 4294967296 + counter

/-- The first part of `Enter`: the identity of the player, given out at the first visit. -/
def identify (s : AoiService) (pid : Nat) : Option (LocalIdentity × AoiService) :=
  match s.identities.lookup pid with
  | some identity => some (identity, s)
  | none =>
    if s.nextEntityCounter = uint32Max then none
    else
      let identity : LocalIdentity := { id := makeEntityId wId s.nextEntityCounter }
      some (identity,
        { s with
          identities := s.identities.insert pid identity
          nextEntityCounter := s.nextEntityCounter + 1 })

def enterEvent (p : PlayerPose) (identity : LocalIdentity) : AoiEvent where
  msgKind := .entry
  entityKind := .player
  eId := identity.id
  businessId := p.id
  target_x := p.x.toNat
  target_y := p.y.toNat
  target_dir := p.dir
  entityGeneration := identity.generation + 1
  actorEpoch := p.epoch
  spatialVersion := 1
  ownerThreadId := wId
  ownerSeq := 0

def enter (s : AoiService) (p : PlayerPose) (reenter : Bool) :
    Option (ApplyResult × AoiService) :=
  if p.id = 0 then some (.invalid, s)
  else if !validPosition sc p then some (.outOfBounds, s)
  else match identify wId s p.id with
    | none => some (.invalid, s)
    | some (identity, s) =>
      if !reenter && s.isEntityActive identity.id then some (.ignored, s)
      else if identity.generation = uint32Max then some (.invalid, s)
      else do
        let ev := enterEvent wId p identity
        let (result, s) ← applyLocal sc wId targets s ev
        if result = .applied then
          some (result,
            { s with
              identities := s.identities.insert p.id
                { identity with generation := ev.entityGeneration } })
        else some (result, s)

def onEntityEnter (s : AoiService) (p : PlayerPose) := enter sc wId targets s p false

def onEntityReenter (s : AoiService) (p : PlayerPose) := enter sc wId targets s p true

def onEntityLeave (s : AoiService) (id : EntityId) : Option (ApplyResult × AoiService) :=
  match s.replica.findById id with
  | none => some (.ignored, s)
  | some ent =>
    if ent.ownerWorker ≠ wId then some (.badSource, s)
    else if ent.spatialVersion = uint64Max then some (.invalid, s)
    else do
      let ev := { fromEntity ent .leave with spatialVersion := ent.spatialVersion + 1 }
      let (result, s) ← applyLocal sc wId targets s ev
      if result = .applied then
        some (result,
          { s with
            viewSet :=
              match s.viewSet.findObserver id with
              | none => s.viewSet
              | some observer => (s.viewSet.removeObserver id observer.clientViewEpoch).2
            dirtyObservers := s.dirtyObservers.erase id })
      else some (result, s)

/-- The player has already been moved. -/
def onLocalEntityMoved (s : AoiService) (p : PlayerPose) : Option (ApplyResult × AoiService) :=
  match (s.entityOf p.id).bind s.replica.findById with
  | none => some (.needSnapshot, s)
  | some ent =>
    if !validPosition sc p then some (.outOfBounds, s)
    else if ent.x = p.x.toNat ∧ ent.y = p.y.toNat ∧ ent.dir = p.dir then some (.ignored, s)
    else if ent.spatialVersion = uint64Max then some (.invalid, s)
    else
      applyLocal sc wId targets s
        { fromEntity ent .move with
          target_x := p.x.toNat
          target_y := p.y.toNat
          target_dir := p.dir
          actorEpoch := p.epoch
          spatialVersion := ent.spatialVersion + 1 }

/-- A remote MOVE waits for the tick; the newest one per entity is kept. -/
def queueRemoteMove (s : AoiService) (sender : WorkerId) (ev : AoiEvent) :
    RemoteResult × AoiService :=
  if ev.eId = 0 ∨ sc.map.length ≤ ev.target_x ∨ sc.map.width ≤ ev.target_y ∨
      !validEntityKind ev.entityKind then (.rejected, s)
  else
    let queued := (RemoteResult.queued,
      { s with pendingRemoteMoves := s.pendingRemoteMoves.insert ev.eId ev })
    match s.pendingRemoteMoves.lookup ev.eId with
    | none => queued
    | some old =>
      if old.ownerThreadId ≠ sender then (.rejected, s)
      else if ev.entityGeneration < old.entityGeneration ∨
          (ev.entityGeneration = old.entityGeneration ∧ ev.spatialVersion ≤ old.spatialVersion) then
        (.ignored, s)
      else queued

/-- An applied ENTRY or LEAVE makes the queued MOVE of an older state pointless. -/
def supersedes (sender : WorkerId) (ev move : AoiEvent) : Bool :=
  move.ownerThreadId = sender ∧
    (move.entityGeneration < ev.entityGeneration ∨
      (move.entityGeneration = ev.entityGeneration ∧
        (ev.msgKind = .leave ∨ move.spatialVersion ≤ ev.spatialVersion)))

def onRemoteEntityEvent (s : AoiService) (sender : WorkerId) (ev : AoiEvent) :
    Option (RemoteResult × AoiService) :=
  if sender = wId ∨ sender ≠ ev.ownerThreadId then some (.rejected, s)
  else if ev.msgKind = .move then some (queueRemoteMove sc s sender ev)
  else do
    let (result, replica, dirty) ← s.replica.apply sc wId ev .kRemote s.dirtyObservers
    let s := { s with replica := replica, dirtyObservers := dirty }
    if result = .applied then
      some (.applied,
        { s with
          pendingRemoteMoves :=
            if (s.pendingRemoteMoves.lookup ev.eId).any (supersedes sender ev) then
              s.pendingRemoteMoves.erase ev.eId
            else s.pendingRemoteMoves })
    else some (if result = .ignored then .ignored else .rejected, s)

def applyOwnerSnapshot (s : AoiService) (sender : WorkerId) (snap : AoiOwnerSnapshot) :
    ApplyResult × AoiService :=
  if sender = wId ∨ sender ≠ snap.ownerWorkerId then (.badSource, s)
  else
    let (result, replica, dirty) := s.replica.applyOwnerSnapshot sc wId snap s.dirtyObservers
    let s := { s with replica := replica, dirtyObservers := dirty }
    if result = .applied then
      (result,
        { s with
          pendingRemoteMoves := s.pendingRemoteMoves.keep fun _ move =>
            !(move.ownerThreadId = sender ∧ move.ownerSeq ≤ snap.seq)
          ownersNeedingSnapshot := s.ownersNeedingSnapshot.erase sender })
    else (result, s)

def buildOwnerSnapshot (s : AoiService) : AoiOwnerSnapshot where
  seq := s.ownerSeq
  ownerWorkerId := wId
  ents := s.replica.forEachOwned wId

def pushToClient (sink : Sink) (s : AoiService) (request : AoiClientPushRequest) :
    AoiPushResult × AoiService :=
  match sink.sendToClient request with
  | .accepted => (.accepted, { s with clientQueue := s.clientQueue ++ [request] })
  | refusal => (refusal, s)

def onPlayerOnline (s : AoiService) (pid clientViewEpoch : Nat) : Bool × AoiService :=
  match s.entityOf pid with
  | none => (false, s)
  | some id =>
    if !s.isEntityActive id then (false, s)
    else match s.viewSet.registryObserver id clientViewEpoch with
      | (false, _) => (false, s)
      | (true, vs) =>
        (true, { s with viewSet := vs, dirtyObservers := insert id s.dirtyObservers })

def onPlayerRebind (s : AoiService) (pid oldEpoch newEpoch : Nat) : Bool × AoiService :=
  match s.entityOf pid with
  | none => (false, s)
  | some id =>
    match s.viewSet.resetObserver id oldEpoch newEpoch with
    | (false, _) => (false, s)
    | (true, vs) =>
      (true, { s with viewSet := vs, dirtyObservers := insert id s.dirtyObservers })

def onPlayerOffline (s : AoiService) (pid clientViewEpoch : Nat) : Bool × AoiService :=
  match s.entityOf pid with
  | none => (false, s)
  | some id =>
    match s.viewSet.removeObserver id clientViewEpoch with
    | (false, _) => (false, s)
    | (true, vs) =>
      (true, { s with viewSet := vs, dirtyObservers := s.dirtyObservers.erase id })

def onClientSendFailed (s : AoiService) (observer : EntityId) (clientViewEpoch : Nat) :
    Bool × AoiService :=
  match s.viewSet.markNeedResync observer clientViewEpoch with
  | (false, _) => (false, s)
  | (true, vs) =>
    (true, { s with viewSet := vs, dirtyObservers := insert observer s.dirtyObservers })

def onViewResyncReq (s : AoiService) (pid clientViewEpoch : Nat) : Bool × AoiService :=
  match s.entityOf pid with
  | none => (false, s)
  | some id => s.onClientSendFailed id clientViewEpoch

/-- One round of `FlushRemoteMoves`. -/
def flushOne (s : AoiService) (row : Σ _ : EntityId, AoiEvent) : Option AoiService := do
  let (result, replica, dirty) ← s.replica.apply sc wId row.2 .kRemote s.dirtyObservers
  some
    { s with
      replica := replica
      dirtyObservers := dirty
      ownersNeedingSnapshot :=
        if result = .needSnapshot then insert row.2.ownerThreadId s.ownersNeedingSnapshot
        else s.ownersNeedingSnapshot }

def flushRemoteMoves (s : AoiService) : Option AoiService :=
  s.pendingRemoteMoves.entries.foldlM (flushOne sc wId) { s with pendingRemoteMoves := ∅ }

/-- `EncodeEvent` accepts the event. -/
def validEvent (ev : AoiEvent) : Bool :=
  ev.eId ≠ 0 ∧ validEntityKind ev.entityKind ∧ ev.msgKind ≠ .invalid

/-- One round of `RetryPublishes`: the targets that refuse stay. -/
def retryOne (sink : Sink) (task : PublishTask) : List (WorkerId × AoiEvent) × PublishTask :=
  if !validEvent task.event then ([], task)
  else
    ((task.remaining.filter fun target => sink.publishToWorkers task.event target).map
        fun target => (target, task.event),
      { task with
        remaining := task.remaining.filter fun target => !sink.publishToWorkers task.event target })

def retryPublishes (sink : Sink) (s : AoiService) : AoiService :=
  let rounds := s.pendingPublishes.map (retryOne sink)
  { s with
    workerQueue := s.workerQueue ++ rounds.flatMap (·.1)
    pendingPublishes := (rounds.map (·.2)).filter fun task =>
      !validEvent task.event || task.remaining ≠ [] }

/-- The hook `processObserver`: whether the observer has been dealt with in this round. -/
abbrev ProcessObserver := AoiService → EntityId → Option (Bool × AoiService)

def processOne (hook : ProcessObserver) (s : AoiService) (observer : EntityId) :
    Option AoiService :=
  if observer ∈ s.dirtyObservers ∨ s.viewSet.hasPending observer ∨
      s.viewSet.needResync observer then do
    let (done, s) ← hook s observer
    if done then some { s with dirtyObservers := s.dirtyObservers.erase observer }
    else some s
  else some s

def processObservers (hook : ProcessObserver) (s : AoiService) : Option AoiService :=
  s.viewSet.forEachObserver.foldlM (processOne hook) s

def onTick (sink : Sink) (hook : ProcessObserver) (s : AoiService) (now : Int) :
    Option AoiService :=
  if now < 0 ∨ now < s.nextTickTime then some s
  else do
    let nextTickTime :=
      if now > int64Max - sc.cfg.tickMs then int64Max else now + sc.cfg.tickMs
    let s ← flushRemoteMoves sc wId { s with nextTickTime := nextTickTime }
    processObservers hook (retryPublishes sink s)

end AoiService

end Aoi
