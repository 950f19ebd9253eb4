import Mathlib.Data.Finset.Sort
import GameServer.Aoi.MirrorRun

/-!
# The workers of a scene

Every worker owns some entities and keeps a replica of the rest. Its events go to
each of the others through a queue that may refuse them; a worker that misses the
beginning of an entity asks the owner for a snapshot, which the owner builds at
once and sends when the queue takes it.
-/

namespace Aoi

/-- The body of an internal AOI message. -/
inductive ServiceBody where
  | event (ev : AoiEvent)
  | ownerSnapshot (snap : AoiOwnerSnapshot)
  | ownerSnapshotReq
  deriving DecidableEq

structure ServiceMsg where
  sender : WorkerId
  body : ServiceBody

namespace AoiWire

def kMaxSnapshotEntities : Nat := 65536

def snapshotEvent (e : AoiEntity) : AoiEvent := fromEntity e .entry

/-- The checks of `EncodeSnapshot`. -/
def validSnapshot (snap : AoiOwnerSnapshot) : Bool :=
  snap.ents.length ≤ kMaxSnapshotEntities ∧
    (∀ e ∈ snap.ents, AoiService.validEvent (snapshotEvent e) = true ∧
      e.ownerWorker = snap.ownerWorkerId ∧ e.ownerSeq ≤ snap.seq) ∧
    (snap.ents.map (·.entityId)).Nodup

/-- What `DecodeSnapshot` makes of an encoded snapshot: the cells are not on the wire. -/
def carried (snap : AoiOwnerSnapshot) : AoiOwnerSnapshot :=
  { snap with ents := snap.ents.map fun e => updateEntity (snapshotEvent e) 0 }

def encodeSnapshot (snap : AoiOwnerSnapshot) : Option AoiOwnerSnapshot :=
  if validSnapshot snap then some (carried snap) else none

end AoiWire

namespace AoiServiceRouter

inductive Result where
  | handled | rejected | snapshotRequested
  deriving DecidableEq, Repr

def dispatch (sc : Scene) (wId workerCount : Nat) (s : AoiService) (msg : ServiceMsg) :
    Option (Result × AoiService) :=
  if workerCount ≤ msg.sender ∨ msg.sender = wId then some (.rejected, s)
  else match msg.body with
    | .event ev =>
      if !AoiService.validEvent ev ∨ ev.ownerThreadId ≠ msg.sender then some (.rejected, s)
      else (s.onRemoteEntityEvent sc wId msg.sender ev).map fun out =>
        (if out.1 = .rejected then .rejected else .handled, out.2)
    | .ownerSnapshot snap =>
      if !AoiWire.validSnapshot snap ∨ snap.ownerWorkerId ≠ msg.sender then some (.rejected, s)
      else
        let (result, s) := s.applyOwnerSnapshot sc wId msg.sender snap
        some (if result = .applied ∨ result = .ignored then .handled else .rejected, s)
    | .ownerSnapshotReq => some (.snapshotRequested, s)

end AoiServiceRouter

/-- The AOI part of a `LogicThread`. -/
structure LogicAoi where
  aoiService : AoiService := {}
  pendingAoiSnapshots : Table WorkerId AoiOwnerSnapshot := ∅
  nextSnapshotRequestAt : Table WorkerId Int := ∅
  nextAoiRecoveryAt : Int := 0

namespace LogicAoi

variable (sc : Scene) (numWorker : Nat) (wId : WorkerId)

def onService (w : LogicAoi) (msg : ServiceMsg) : Option LogicAoi := do
  let (result, service) ← AoiServiceRouter.dispatch sc wId numWorker w.aoiService msg
  let w := { w with aoiService := service }
  match result, msg.body with
  | .snapshotRequested, _ =>
    match AoiWire.encodeSnapshot (service.buildOwnerSnapshot wId) with
    | none => some w
    | some snap =>
      some { w with pendingAoiSnapshots := w.pendingAoiSnapshots.insert msg.sender snap }
  | .handled, .ownerSnapshot _ =>
    some { w with nextSnapshotRequestAt := w.nextSnapshotRequestAt.erase msg.sender }
  | _, _ => some w

def retryMs : Int := 1000

/-- `publishToWorkers` with one target. -/
def publishes (accepts : WorkerId → ServiceBody → Bool) (target : WorkerId)
    (body : ServiceBody) : Bool :=
  target < numWorker && target ≠ wId && accepts target body

/-- Send the waiting snapshots, then ask the owners whose snapshot is needed and due. -/
def advanceAoiRecovery (w : LogicAoi) (now : Int) (accepts : WorkerId → ServiceBody → Bool) :
    LogicAoi × List (WorkerId × ServiceBody) :=
  if now < w.nextAoiRecoveryAt then (w, [])
  else
    let nextAt := if now > int64Max - retryMs then int64Max else now + retryMs
    let taken := fun target snap => publishes numWorker wId accepts target (.ownerSnapshot snap)
    let owners := w.aoiService.ownersNeedingSnapshot
    let requestAt := w.nextSnapshotRequestAt.keep fun owner _ => owner ∈ owners
    let due := (owners.sort (· ≤ ·)).filter fun owner =>
      owner < numWorker ∧ owner ≠ wId ∧ (requestAt.lookup owner).all fun previous => previous ≤ now
    ({ w with
        pendingAoiSnapshots := w.pendingAoiSnapshots.keep fun target snap => !taken target snap
        nextSnapshotRequestAt := due.foldl (fun t owner => t.insert owner nextAt) requestAt
        nextAoiRecoveryAt := nextAt },
      ((w.pendingAoiSnapshots.entries.filter fun row => taken row.1 row.2).map
          fun row => (row.1, .ownerSnapshot row.2)) ++
        ((due.filter fun owner => publishes numWorker wId accepts owner .ownerSnapshotReq).map
          fun owner => (owner, .ownerSnapshotReq)))

end LogicAoi

/-- The MOVEs that a flush of these rows drops for want of their entity. -/
def missedMoves (sc : Scene) (wId : WorkerId) :
    List (Σ _ : EntityId, AoiEvent) → AoiService → List AoiEvent
  | [], _ => []
  | row :: rows, s =>
    match s.replica.apply sc wId row.2 .kRemote s.dirtyObservers,
        AoiService.flushOne sc wId s row with
    | some (result, _), some s =>
      (if result = .needSnapshot then [row.2] else []) ++ missedMoves sc wId rows s
    | _, _ => []

/-- All workers and the queues between them. `missed` is no part of the program: it records
which MOVEs each worker has dropped for want of their entity. -/
structure Cluster where
  workers : WorkerId → LogicAoi := fun _ => {}
  inbox : WorkerId → List ServiceMsg := fun _ => []
  missed : WorkerId → List AoiEvent := fun _ => []

/-- A call that a worker makes on its own service. -/
def Op.Own : Op → Prop
  | .remote _ _ => False
  | .ownerSnapshot _ _ => False
  | _ => True

instance : DecidablePred Op.Own
  | .remote _ _ | .ownerSnapshot _ _ => inferInstanceAs (Decidable False)
  | .enter _ | .reenter _ | .leave _ | .moved _ | .online _ _ | .rebind _ _ _ | .offline _ _
  | .resync _ _ => inferInstanceAs (Decidable True)

inductive ClusterStep where
  | call (w : WorkerId) (op : Op)
  | tick (w : WorkerId) (now : Int) (sink : Sink)
  | recover (w : WorkerId) (now : Int) (accepts : WorkerId → ServiceBody → Bool)
  | deliver (w : WorkerId)

namespace Cluster

/-- Append messages to the queues of their targets. -/
def post (inbox : WorkerId → List ServiceMsg) (sender : WorkerId)
    (sends : List (WorkerId × ServiceBody)) : WorkerId → List ServiceMsg :=
  fun target =>
    inbox target ++ ((sends.filter (·.1 = target)).map fun send => { sender, body := send.2 })

def setService (c : Cluster) (w : WorkerId) (s : AoiService) : WorkerId → LogicAoi :=
  Function.update c.workers w { c.workers w with aoiService := s }

variable (sc : Scene) (numWorker : Nat)

/-- The other workers, as `PublishHooks` lists them. -/
def targetsOf (wId : WorkerId) : List WorkerId := publishTargets wId (List.range numWorker)

/-- The MOVEs that the tick of a worker drops. -/
def tickMissed (s : AoiService) (w : WorkerId) (now : Int) : List AoiEvent :=
  if now < 0 ∨ now < s.nextTickTime then []
  else missedMoves sc w s.pendingRemoteMoves.entries { s with pendingRemoteMoves := ∅ }

def step (c : Cluster) : ClusterStep → Option Cluster
  | .call w op =>
    if w < numWorker ∧ op.Own then
      ((c.workers w).aoiService.call sc w (targetsOf numWorker w) op).map fun s =>
        { c with workers := c.setService w s }
    else none
  | .tick w now sink =>
    if w < numWorker then
      let s := (c.workers w).aoiService
      (s.work sc w (targetsOf numWorker w) (.tick now sink)).map fun s' =>
        { workers := c.setService w s'
          inbox := post c.inbox w
            ((s'.workerQueue.drop s.workerQueue.length).map fun sent => (sent.1, .event sent.2))
          missed := Function.update c.missed w (c.missed w ++ tickMissed sc s w now) }
    else none
  | .recover w now accepts =>
    if w < numWorker then
      let (worker, sends) := (c.workers w).advanceAoiRecovery numWorker w now accepts
      some
        { c with
          workers := Function.update c.workers w worker
          inbox := post c.inbox w sends }
    else none
  | .deliver w =>
    match c.inbox w with
    | [] => none
    | msg :: rest =>
      if w < numWorker then
        ((c.workers w).onService sc numWorker w msg).map fun worker =>
          { c with
            workers := Function.update c.workers w worker
            inbox := Function.update c.inbox w rest }
      else none

end Cluster

end Aoi
