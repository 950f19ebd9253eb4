import GameServer.Aoi.Replica

/-!
# The committed view of each observer

For every observer the server keeps what it believes the client holds: the
entity states of the frames that were queued successfully, the next sequence
number, and whether the client needs a replacing snapshot. A snapshot is sent in
parts; while its parts are on the way no delta is sent.
-/

namespace Aoi

structure SentEntityState where
  kind : EntityKind := .player
  businessId : Nat := 0
  entityGeneration : Nat := 0
  spatialVersion : Nat := 0
  x : Int := 0
  y : Int := 0
  dir : Int := 0
  deriving DecidableEq, Repr

abbrev ViewBaseline := Table EntityId SentEntityState

structure ObserverSnapshot where
  committedState : ViewBaseline := ∅
  pendings : Finset EntityId := ∅
  clientViewEpoch : Nat := 0
  nextViewSeq : Nat := 1
  needResync : Bool := false
  resyncRevision : Nat := 0

structure ViewSendToken where
  observerId : EntityId
  clientViewEpoch : Nat
  nextViewSeq : Nat
  deriving DecidableEq, Repr

structure AcceptedPush where
  kind : AoiMsgKind
  targetId : EntityId
  state : SentEntityState
  deriving DecidableEq, Repr

structure ViewSnapshotToken where
  observerId : EntityId
  clientViewEpoch : Nat
  viewSeq : Nat
  resyncRevision : Nat
  snapshotId : Nat
  partCount : Nat
  deriving DecidableEq, Repr

structure SnapshotTask where
  token : ViewSnapshotToken
  baseline : ViewBaseline
  acceptedParts : List Bool
  acceptedCount : Nat := 0

structure AoiViewSet where
  views : Table EntityId ObserverSnapshot := ∅
  snapshotTasks : Table EntityId SnapshotTask := ∅
  nextSnapshotId : Nat := 1

namespace AoiViewSet

variable (vs : AoiViewSet) (observerId : EntityId)

def registryObserver (clientViewEpoch : Nat) : Bool × AoiViewSet :=
  if (vs.views.lookup observerId).any (fun v => v.clientViewEpoch ≥ clientViewEpoch) then
    (false, vs)
  else
    (true,
      { vs with
        views := vs.views.insert observerId
          { clientViewEpoch := clientViewEpoch, needResync := true }
        snapshotTasks := vs.snapshotTasks.erase observerId })

def resetObserver (expectedOldViewEpoch newViewEpoch : Nat) : Bool × AoiViewSet :=
  match vs.views.lookup observerId with
  | none => (false, vs)
  | some v =>
    if v.clientViewEpoch ≠ expectedOldViewEpoch ∨ v.clientViewEpoch ≥ newViewEpoch then (false, vs)
    else
      (true,
        { vs with
          views := vs.views.insert observerId
            { clientViewEpoch := newViewEpoch, needResync := true }
          snapshotTasks := vs.snapshotTasks.erase observerId })

def removeObserver (expectedViewEpoch : Nat) : Bool × AoiViewSet :=
  match vs.views.lookup observerId with
  | none => (false, vs)
  | some v =>
    if v.clientViewEpoch ≠ expectedViewEpoch then (false, vs)
    else
      (true,
        { vs with
          views := vs.views.erase observerId
          snapshotTasks := vs.snapshotTasks.erase observerId })

def prepareSend : Option ViewSendToken :=
  match vs.views.lookup observerId with
  | none => none
  | some v =>
    -- a delta may not overtake the parts of a snapshot
    if observerId ∈ vs.snapshotTasks then none
    else some
      { observerId := observerId
        clientViewEpoch := v.clientViewEpoch
        nextViewSeq := v.nextViewSeq }

def findObserver : Option ObserverSnapshot := vs.views.lookup observerId

def processEntry (push : AcceptedPush) (obss : ObserverSnapshot) : Option ObserverSnapshot :=
  match obss.committedState.lookup push.targetId with
  | none => some
      { obss with committedState := obss.committedState.insert push.targetId push.state }
  | some old =>
    if push.state.kind ≠ old.kind ∨ push.state.businessId ≠ old.businessId ∨
        push.state.entityGeneration < old.entityGeneration ∨
        (push.state.entityGeneration = old.entityGeneration ∧
          push.state.spatialVersion < old.spatialVersion) then none
    else some
      { obss with committedState := obss.committedState.insert push.targetId push.state }

def processMove (push : AcceptedPush) (obss : ObserverSnapshot) : Option ObserverSnapshot :=
  match obss.committedState.lookup push.targetId with
  | none => none
  | some old =>
    if push.state.kind ≠ old.kind ∨ push.state.businessId ≠ old.businessId ∨
        push.state.entityGeneration ≠ old.entityGeneration ∨
        push.state.spatialVersion < old.spatialVersion then none
    else some
      { obss with committedState := obss.committedState.insert push.targetId push.state }

def processLeave (push : AcceptedPush) (obss : ObserverSnapshot) : Option ObserverSnapshot :=
  match obss.committedState.lookup push.targetId with
  | none => some obss
  | some old =>
    -- the LEAVE of an older generation must not remove a newer one
    if push.state.entityGeneration < old.entityGeneration then some obss
    else if push.state.entityGeneration ≠ old.entityGeneration ∨ push.state.kind ≠ old.kind ∨
        push.state.businessId ≠ old.businessId then none
    else some { obss with committedState := obss.committedState.erase push.targetId }

/-- The `switch` of `commitAccepted`. -/
def processPush (push : AcceptedPush) (obss : ObserverSnapshot) : Option ObserverSnapshot :=
  match push.kind with
  | .entry => processEntry push obss
  | .move => processMove push obss
  | .leave => processLeave push obss
  | .invalid => none

/-- One round of the loop of `commitAccepted`. -/
def commitOne (obss : ObserverSnapshot) (push : AcceptedPush) : Option ObserverSnapshot :=
  if push.targetId = 0 ∨ !validEntityKind push.state.kind then none
  else (processPush push obss).map fun obss =>
    { obss with pendings := obss.pendings.erase push.targetId }

/-- One accepted frame: all of its items are committed and one number is used, or nothing is. -/
def commitAccepted (token : ViewSendToken) (items : List AcceptedPush) : Bool × AoiViewSet :=
  if observerId ∈ vs.snapshotTasks then (false, vs)
  else match vs.views.lookup observerId with
    | none => (false, vs)
    | some v =>
      if token.observerId ≠ observerId ∨ token.clientViewEpoch ≠ v.clientViewEpoch ∨
          token.nextViewSeq ≠ v.nextViewSeq then (false, vs)
      else if items = [] then (true, vs)
      else if v.nextViewSeq = uint64Max then (false, vs)
      else match items.foldlM commitOne v with
        | none => (false, vs)
        | some next =>
          (true,
            { vs with
              views := vs.views.insert observerId
                { v with
                  committedState := next.committedState
                  pendings := next.pendings
                  nextViewSeq := v.nextViewSeq + 1 } })

def markPending (targetId : EntityId) (token : ViewSendToken) : Bool × AoiViewSet :=
  match vs.views.lookup observerId with
  | none => (false, vs)
  | some v =>
    if token.observerId ≠ observerId ∨ token.clientViewEpoch ≠ v.clientViewEpoch ∨
        token.nextViewSeq ≠ v.nextViewSeq then (false, vs)
    else
      (true,
        { vs with
          views := vs.views.insert observerId { v with pendings := insert targetId v.pendings } })

def clearResolvedPending (targetId : EntityId) : Bool × AoiViewSet :=
  match vs.views.lookup observerId with
  | none => (false, vs)
  | some v =>
    if targetId ∉ v.pendings then (false, vs)
    else
      (true,
        { vs with
          views := vs.views.insert observerId { v with pendings := v.pendings.erase targetId } })

def hasPending : Bool := (vs.views.lookup observerId).any fun v => v.pendings ≠ ∅

def needResync : Bool := (vs.views.lookup observerId).any fun v => v.needResync

def borrowCommittedBaseline : Option ViewBaseline :=
  (vs.views.lookup observerId).map fun v => v.committedState

def forEachObserver : List EntityId := vs.views.keys

def markNeedResync (clientEpoch : Nat) : Bool × AoiViewSet :=
  match vs.views.lookup observerId with
  | none => (false, vs)
  | some v =>
    if clientEpoch ≠ v.clientViewEpoch then (false, vs)
    else if v.resyncRevision = uint32Max then (false, vs)
    else
      (true,
        { vs with
          views := vs.views.insert observerId
            { v with needResync := true, resyncRevision := v.resyncRevision + 1 }
          snapshotTasks := vs.snapshotTasks.erase observerId })

/-- The task of a token that is still the current one in every respect. -/
def findSnapshotTask (token : ViewSnapshotToken) : Option SnapshotTask :=
  match vs.views.lookup token.observerId, vs.snapshotTasks.lookup token.observerId with
  | some state, some task =>
    if !state.needResync ∨ state.clientViewEpoch ≠ token.clientViewEpoch ∨
        state.resyncRevision ≠ token.resyncRevision ∨ state.nextViewSeq ≠ token.viewSeq ∨
        task.token.snapshotId ≠ token.snapshotId ∨
        task.token.clientViewEpoch ≠ token.clientViewEpoch ∨
        task.token.resyncRevision ≠ token.resyncRevision ∨ task.token.viewSeq ≠ token.viewSeq ∨
        task.token.partCount ≠ token.partCount then none
    else some task
  | _, _ => none

def beginSnapshot (frozenBaseline : ViewBaseline) (partCount : Nat) :
    Option ViewSnapshotToken × AoiViewSet :=
  match vs.views.lookup observerId with
  | none => (none, vs)
  | some v =>
    if !v.needResync ∨ partCount = 0 ∨ observerId ∈ vs.snapshotTasks ∨
        vs.nextSnapshotId = uint64Max ∨ v.nextViewSeq = uint64Max then (none, vs)
    else if frozenBaseline.entries.any (fun kv => kv.1 = 0 ∨ !validEntityKind kv.2.kind) then
      (none, vs)
    else
      let token : ViewSnapshotToken :=
        { observerId := observerId
          clientViewEpoch := v.clientViewEpoch
          viewSeq := v.nextViewSeq
          resyncRevision := v.resyncRevision
          snapshotId := vs.nextSnapshotId
          partCount := partCount }
      (some token,
        { vs with
          snapshotTasks := vs.snapshotTasks.insert observerId
            { token := token
              baseline := frozenBaseline
              acceptedParts := List.replicate partCount false }
          nextSnapshotId := vs.nextSnapshotId + 1 })

/-- Called once a part was queued; a second confirmation of the same part changes nothing. -/
def markSnapshotPartAccepted (token : ViewSnapshotToken) (partIndex : Nat) : Bool × AoiViewSet :=
  match vs.findSnapshotTask token with
  | none => (false, vs)
  | some task =>
    match task.acceptedParts[partIndex]? with
    | none => (false, vs)
    | some true => (true, vs)
    | some false =>
      (true,
        { vs with
          snapshotTasks := vs.snapshotTasks.insert token.observerId
            { task with
              acceptedParts := task.acceptedParts.set partIndex true
              acceptedCount := task.acceptedCount + 1 } })

def commitSnapshot (token : ViewSnapshotToken) : Bool × AoiViewSet :=
  match vs.findSnapshotTask token, vs.views.lookup token.observerId with
  | some task, some v =>
    if task.acceptedCount ≠ token.partCount then (false, vs)
    else
      (true,
        { vs with
          views := vs.views.insert token.observerId
            { v with
              committedState := task.baseline
              pendings := ∅
              nextViewSeq := v.nextViewSeq + 1
              needResync := false }
          snapshotTasks := vs.snapshotTasks.erase token.observerId })
  | _, _ => (false, vs)

def abortSnapshot (token : ViewSnapshotToken) : Bool × AoiViewSet :=
  match vs.findSnapshotTask token with
  | none => (false, vs)
  | some _ => (true, { vs with snapshotTasks := vs.snapshotTasks.erase token.observerId })

end AoiViewSet

end Aoi
