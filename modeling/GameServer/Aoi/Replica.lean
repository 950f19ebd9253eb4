import Mathlib.Data.Finset.Lattice.Basic
import GameServer.Aoi.Grid

/-!
# The AOI replica

Each worker keeps a replica of every entity in the scene: its own and those of
the other workers. Events and whole-owner snapshots are checked first; only what
passes reaches the entity table, the grid and the tombstones.
-/

namespace Aoi

inductive Source where
  | kLocal | kRemote
  deriving DecidableEq, Repr

inductive ApplyResult where
  | ignored | applied | newGeneration | badSource | outOfBounds | invalid | needSnapshot
  deriving DecidableEq, Repr

structure Tombstone where
  generation : Nat
  version : Nat
  ownerSeq : Nat
  ownerWorker : WorkerId
  deriving DecidableEq, Repr

def initTombstone (ev : AoiEvent) : Tombstone where
  generation := ev.entityGeneration
  version := ev.spatialVersion
  ownerSeq := ev.ownerSeq
  ownerWorker := ev.ownerThreadId

structure AoiReplica where
  ents : Table EntityId AoiEntity := ∅
  cells : Cells := fun _ => {}
  tombstones : Table EntityId Tombstone := ∅
  ownerSnapshotSeq : Table WorkerId Nat := ∅

/-- The set `dirtyObservers` that every handler adds to. -/
abbrev Observers := Finset EntityId

/-- Insert the watchers of a cell into the dirty set. -/
def markCell (g : AoiGrid) (cells : Cells) (cell : Nat) (dirty : Observers) : Observers :=
  dirty ∪ (g.watchers cells cell).toFinset

namespace AoiReplica

def findById (rep : AoiReplica) (id : EntityId) : Option AoiEntity := rep.ents.lookup id

section Handlers

variable (g : AoiGrid) (rep : AoiReplica) (ev : AoiEvent) (cellIdx : Nat) (dirty : Observers)

def onLocalEntry : Option (AoiReplica × Observers) := do
  let (cells, dirty) ← match rep.ents.lookup ev.eId with
    | none => some (rep.cells, dirty)
    | some ent => do
      let oldWatch ← g.getWatchCellIdx ent.x ent.y
      let cells := g.removeWatchers rep.cells ev.eId oldWatch
      let cells := g.removeEntity cells ent.entityId ent.cellIdx
      some (cells, markCell g cells ent.cellIdx dirty)
  let watch ← g.getWatchCellIdx ev.target_x ev.target_y
  let cells := g.addWatchers cells ev.eId watch
  let cells := g.addEntity cells ev.eId cellIdx
  some ({ rep with ents := rep.ents.insert ev.eId (updateEntity ev cellIdx), cells := cells },
    markCell g cells cellIdx dirty)

def onLocalMove : Option (AoiReplica × Observers) :=
  match rep.ents.lookup ev.eId with
  | none => some (rep, dirty)
  | some ent =>
    let ents := rep.ents.insert ev.eId (updateEntity ev cellIdx)
    if cellIdx ≠ ent.cellIdx then do
      let oldWatch ← g.getWatchCellIdx ent.x ent.y
      let cells := g.removeWatchers rep.cells ev.eId oldWatch
      let cells := g.removeEntity cells ev.eId ent.cellIdx
      let dirty := markCell g cells ent.cellIdx dirty
      let newWatch ← g.getWatchCellIdx ev.target_x ev.target_y
      let cells := g.addWatchers cells ev.eId newWatch
      let cells := g.addEntity cells ev.eId cellIdx
      some ({ rep with ents := ents, cells := cells }, markCell g cells cellIdx dirty)
    else
      some ({ rep with ents := ents }, markCell g rep.cells cellIdx dirty)

def onLocalLeave : Option (AoiReplica × Observers) :=
  let tombstones := rep.tombstones.insert ev.eId (initTombstone ev)
  match rep.ents.lookup ev.eId with
  | none => some ({ rep with tombstones := tombstones }, dirty)
  | some ent => do
    let dirty := markCell g rep.cells ent.cellIdx dirty
    let oldWatch ← g.getWatchCellIdx ent.x ent.y
    let cells := g.removeWatchers rep.cells ev.eId oldWatch
    let cells := g.removeEntity cells ev.eId ent.cellIdx
    let cells := g.removeWatcher cells ev.eId ent.cellIdx
    some ({ rep with ents := rep.ents.erase ev.eId, cells := cells, tombstones := tombstones },
      dirty)

def onRemoteEntry : AoiReplica × Observers :=
  let (cells, dirty) := match rep.ents.lookup ev.eId with
    | none => (rep.cells, dirty)
    | some ent =>
      (g.removeEntity rep.cells ent.entityId ent.cellIdx,
        markCell g rep.cells ent.cellIdx dirty)
  let cells := g.addEntity cells ev.eId cellIdx
  ({ rep with ents := rep.ents.insert ev.eId (updateEntity ev cellIdx), cells := cells },
    markCell g cells cellIdx dirty)

def onRemoteMove : AoiReplica × Observers :=
  match rep.ents.lookup ev.eId with
  | none => (rep, dirty)
  | some ent =>
    let ents := rep.ents.insert ev.eId (updateEntity ev cellIdx)
    if cellIdx ≠ ent.cellIdx then
      let dirty := markCell g rep.cells ent.cellIdx dirty
      let cells := g.removeEntity rep.cells ent.entityId ent.cellIdx
      let cells := g.addEntity cells ev.eId cellIdx
      ({ rep with ents := ents, cells := cells }, markCell g cells cellIdx dirty)
    else
      ({ rep with ents := ents }, markCell g rep.cells cellIdx dirty)

def onRemoteLeave : AoiReplica × Observers :=
  let tombstones := rep.tombstones.insert ev.eId (initTombstone ev)
  match rep.ents.lookup ev.eId with
  | none => ({ rep with tombstones := tombstones }, dirty)
  | some ent =>
    ({ rep with
        ents := rep.ents.erase ev.eId
        cells := g.removeEntity rep.cells ev.eId ent.cellIdx
        tombstones := tombstones },
      markCell g rep.cells ent.cellIdx dirty)

def processLocalAoiMsg : Option (AoiReplica × Observers) :=
  match ev.msgKind with
  | .entry => onLocalEntry g rep ev cellIdx dirty
  | .move => onLocalMove g rep ev cellIdx dirty
  | .leave => onLocalLeave g rep ev dirty
  | .invalid => some (rep, dirty)

def processRemoteAoiMsg : AoiReplica × Observers :=
  match ev.msgKind with
  | .entry => onRemoteEntry g rep ev cellIdx dirty
  | .move => onRemoteMove g rep ev cellIdx dirty
  | .leave => onRemoteLeave g rep ev dirty
  | .invalid => (rep, dirty)

end Handlers

section Apply

variable (sc : Scene) (wId : WorkerId)

/-- The checks of `Apply` on the event alone and on the water mark of its owner. -/
def checkSource (rep : AoiReplica) (ev : AoiEvent) (src : Source) : Except ApplyResult Unit :=
  if (src = .kLocal) ≠ (ev.ownerThreadId = wId) then .error .badSource
  else if ev.msgKind = .invalid ∨ ev.eId = 0 ∨ !validEntityKind ev.entityKind then
    .error .invalid
  else if src = .kRemote ∧
      (rep.ownerSnapshotSeq.lookup ev.ownerThreadId).any (fun water => ev.ownerSeq ≤ water) then
    .error .ignored
  else .ok ()

/-- The checks against the entity and the tombstone of the same id. -/
def checkLife (old : Option AoiEntity) (tomb : Option Tombstone) (ev : AoiEvent) :
    Except ApplyResult Unit :=
  -- the owner of an entity never changes
  if old.any (fun e => e.ownerWorker ≠ ev.ownerThreadId) ∨
      tomb.any (fun t => t.ownerWorker ≠ ev.ownerThreadId) then
    .error .badSource
  else if tomb.any (fun t => ev.entityGeneration ≤ t.generation) then .error .ignored
  else if old.any (fun e => ev.entityGeneration < e.entityGeneration ∨
      (ev.entityGeneration = e.entityGeneration ∧ ev.spatialVersion ≤ e.spatialVersion)) then
    .error .ignored
  else if old.any (fun e => ev.entityGeneration = e.entityGeneration ∧
      (ev.entityKind ≠ e.kind ∨ ev.businessId ≠ e.businessId)) then
    .error .invalid
  else .ok ()

/-- The bounds check, and the rule that a MOVE never starts a lifetime. -/
def checkTarget (old : Option AoiEntity) (ev : AoiEvent) : Except ApplyResult Nat :=
  if ev.msgKind = .leave then .ok 0
  else if sc.map.length ≤ ev.target_x ∨ sc.map.width ≤ ev.target_y then .error .outOfBounds
  else match sc.grid.tryCellOf ev.target_x ev.target_y with
    | none => .error .outOfBounds
    | some cellIdx =>
      if ev.msgKind = .move ∧ old.all (fun e => ev.entityGeneration ≠ e.entityGeneration) then
        .error .needSnapshot
      else .ok cellIdx

/-- `Apply` up to the handlers: the result it stops with, or the target cell. -/
def check (rep : AoiReplica) (ev : AoiEvent) (src : Source) : Except ApplyResult Nat := do
  checkSource wId rep ev src
  checkLife (rep.ents.lookup ev.eId) (rep.tombstones.lookup ev.eId) ev
  checkTarget sc (rep.ents.lookup ev.eId) ev

/-- `none` is a signed overflow in `getWatchCellIdx`. -/
def apply (rep : AoiReplica) (ev : AoiEvent) (src : Source) (dirty : Observers) :
    Option (ApplyResult × AoiReplica × Observers) :=
  match check sc wId rep ev src with
  | .error res => some (res, rep, dirty)
  | .ok cellIdx =>
    match src with
    | .kLocal =>
      (processLocalAoiMsg sc.grid rep ev cellIdx dirty).map fun out => (.applied, out)
    | .kRemote => some (.applied, processRemoteAoiMsg sc.grid rep ev cellIdx dirty)

/-- One round of the first loop of `ApplyOwnerSnapshot`: check an entity and normalise its cell. -/
def collectOne (rep : AoiReplica) (snap : AoiOwnerSnapshot)
    (incoming : Table EntityId AoiEntity) (ent : AoiEntity) :
    Except ApplyResult (Table EntityId AoiEntity) :=
  let old := rep.ents.lookup ent.entityId
  let tomb := rep.tombstones.lookup ent.entityId
  if ent.entityId = 0 ∨ !validEntityKind ent.kind ∨ ent.ownerWorker ≠ snap.ownerWorkerId ∨
      ent.ownerSeq > snap.seq ∨ ent.entityId ∈ incoming then
    .error .invalid
  else if sc.map.length ≤ ent.x ∨ sc.map.width ≤ ent.y then .error .outOfBounds
  else match sc.grid.tryCellOf ent.x ent.y with
    | none => .error .outOfBounds
    | some cellIdx =>
      if old.any (fun e => e.ownerWorker ≠ snap.ownerWorkerId) ∨
          tomb.any (fun t => t.ownerWorker ≠ snap.ownerWorkerId) then
        .error .badSource
      else if old.any (fun e => e.ownerSeq ≤ snap.seq ∧
          (e.entityGeneration > ent.entityGeneration ∨
            (e.entityGeneration = ent.entityGeneration ∧
              (e.spatialVersion > ent.spatialVersion ∨
                e.kind ≠ ent.kind ∨ e.businessId ≠ ent.businessId)))) then
        .error .invalid
      else if tomb.any (fun t => t.ownerSeq ≤ snap.seq ∧
          t.generation ≥ ent.entityGeneration) then
        .error .invalid
      else .ok (incoming.insert ent.entityId { ent with cellIdx := cellIdx })

def collect (rep : AoiReplica) (snap : AoiOwnerSnapshot) :
    Except ApplyResult (Table EntityId AoiEntity) :=
  snap.ents.foldlM (collectOne sc rep snap) ∅

/-- An owned entity that the snapshot supersedes and no longer lists. -/
def dropped (snap : AoiOwnerSnapshot) (incoming : Table EntityId AoiEntity) (e : AoiEntity) : Bool :=
  e.ownerWorker = snap.ownerWorkerId ∧ e.ownerSeq ≤ snap.seq ∧ e.entityId ∉ incoming

/-- The temporaries `nextEnts`, `nextGrid` and `nextDirty`. -/
structure Next where
  ents : Table EntityId AoiEntity
  cells : Cells
  dirty : Observers

/-- One round of the second loop: `it = nextEnts.erase(it)` for a dropped entity. -/
def dropOne (g : AoiGrid) (snap : AoiOwnerSnapshot) (incoming : Table EntityId AoiEntity)
    (next : Next) (row : Σ _ : EntityId, AoiEntity) : Next :=
  if dropped snap incoming row.2 then
    { ents := next.ents.erase row.1
      cells := g.removeEntity next.cells row.2.entityId row.2.cellIdx
      dirty := markCell g next.cells row.2.cellIdx next.dirty }
  else next

/-- The replica knows something newer about an entity than the snapshot does. -/
def newerThan (seq : Nat) (old : Option AoiEntity) (tomb : Option Tombstone) : Bool :=
  old.any (fun e => e.ownerSeq > seq) || tomb.any (fun t => t.ownerSeq > seq)

/-- One round of the third loop: install an incoming entity unless the replica knows better. -/
def installOne (g : AoiGrid) (tombstones : Table EntityId Tombstone) (seq : Nat)
    (next : Next) (row : Σ _ : EntityId, AoiEntity) : Next :=
  let ent := row.2
  let old := next.ents.lookup ent.entityId
  if newerThan seq old (tombstones.lookup ent.entityId) then next
  else
    let (cells, dirty) := match old with
      | none => (next.cells, next.dirty)
      | some o =>
        (g.removeEntity next.cells ent.entityId o.cellIdx,
          markCell g next.cells o.cellIdx next.dirty)
    let cells := g.addEntity cells ent.entityId ent.cellIdx
    { ents := next.ents.insert ent.entityId ent
      cells := cells
      dirty := markCell g cells ent.cellIdx dirty }

def applyOwnerSnapshot (rep : AoiReplica) (snap : AoiOwnerSnapshot) (dirty : Observers) :
    ApplyResult × AoiReplica × Observers :=
  if snap.ownerWorkerId = wId then (.badSource, rep, dirty)
  else if (rep.ownerSnapshotSeq.lookup snap.ownerWorkerId).any
      (fun water => snap.seq ≤ water) then
    (.ignored, rep, dirty)
  else match collect sc rep snap with
    | .error res => (res, rep, dirty)
    | .ok incoming =>
      let next : Next := { ents := rep.ents, cells := rep.cells, dirty := dirty }
      let next := rep.ents.entries.foldl (dropOne sc.grid snap incoming) next
      let next := incoming.entries.foldl (installOne sc.grid rep.tombstones snap.seq) next
      (.applied,
        { rep with
          ents := next.ents
          cells := next.cells
          ownerSnapshotSeq := rep.ownerSnapshotSeq.insert snap.ownerWorkerId snap.seq },
        next.dirty)

end Apply

section Query

variable (g : AoiGrid) (rep : AoiReplica) (observerId : EntityId) (includeSelf : Bool)

/-- One candidate of `getVisibleEntity`; the state is `seen` and `out`. -/
def visit (idx : Nat) (acc : Finset EntityId × List AoiEntity) (eId : EntityId) :
    Finset EntityId × List AoiEntity :=
  if (!includeSelf && eId == observerId) || eId ∈ acc.1 then acc
  else
    (insert eId acc.1,
      match rep.ents.lookup eId with
      | some ent => if ent.cellIdx = idx then acc.2 ++ [ent] else acc.2
      | none => acc.2)

/-- The flag and `out`; `none` is a signed overflow in `getWatchCellIdx`. -/
def getVisibleEntity : Option (Bool × List AoiEntity) :=
  match rep.findById observerId with
  | none => some (false, [])
  | some ob => do
    let watchCellIdx ← g.getWatchCellIdx ob.x ob.y
    let (_, out) := watchCellIdx.foldl (fun acc idx =>
      (g.entities rep.cells idx).foldl (visit rep observerId includeSelf idx) acc) (∅, [])
    some (true, out)

end Query

/-- `ForEachOwned`: the entities of this worker, in table order. -/
def forEachOwned (wId : WorkerId) (rep : AoiReplica) : List AoiEntity :=
  (rep.ents.entries.map (·.2)).filter (·.ownerWorker = wId)

end AoiReplica

end Aoi
