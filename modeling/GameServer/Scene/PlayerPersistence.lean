import GameServer.Lib.Table
import GameServer.Scene.Player

/-!
# Saves of players

The record of a player holds what has been frozen of it: the snapshot that a save
is under way for, and the latest one that waits behind it. A record of a player
that has left is kept until its last snapshot is known to be stored.
-/

namespace Scene

open Gateway (Bytes text)
open Db (DbResult DbTask)

/-- The message that asks for a save. -/
structure SaveTask where
  playerId : Nat
  epoch : Nat
  taskId : Nat
  body : DbTask

/-- What the delivery of tasks answers. -/
structure SaveDelivery where
  submit : SaveTask → Bool
  newTaskId : Nat

namespace PlayerPersistence

def kMaxPlayers : Nat := 65536

/-- The greatest version of a save. -/
def maxVersion : Nat := 2 ^ 63 - 1

inductive State where
  | idle
  | awaitResult
  | blocked
  deriving DecidableEq, Repr

structure Record where
  actorEpoch : Nat := 0
  token : Nat := 0
  nextVersion : Nat := 0
  confirmedVersion : Nat := 0
  confirmedRevision : Nat := 0
  taskId : Nat := 0
  state : State := .idle
  offline : Bool := false
  active : Option PlayerSaveSnapshot := none
  queued : Option PlayerSaveSnapshot := none
  error : Bytes := []
  deriving DecidableEq, Repr

namespace Record

variable (r : Record)

/-- `dispatch`, with what was handed over. -/
def dispatch (d : SaveDelivery) : Record × List SaveTask :=
  match r.state, r.queued with
  | .idle, some snapshot =>
    match PlayerSnapshotDao.buildSave snapshot with
    | .error error => ({ r with state := .blocked, error := text error }, [])
    | .ok body =>
      let taskId := if r.taskId = 0 then d.newTaskId else r.taskId
      let message : SaveTask := { playerId := body.playerId, epoch := r.actorEpoch, taskId, body }
      if d.submit message then
        ({ r with taskId, active := some snapshot, queued := none, state := .awaitResult }, [message])
      else ({ r with taskId }, [])
  | _, _ => (r, [])

/-- The record takes over a snapshot of the player. -/
def enqueue (snapshot : PlayerSaveSnapshot) : Record :=
  { r with
    nextVersion := r.nextVersion + 1
    taskId := if r.state = .idle then 0 else r.taskId
    queued := some snapshot }

/-- `request`, once the record is there: its answer, the record unless it is erased, and what
was handed over. `none` is an exception. -/
def request (player : Player) (offline : Bool) (d : SaveDelivery) :
    Option (Bool × Option Record × List SaveTask) :=
  if r.actorEpoch ≠ player.epoch ∧ r.offline then some (false, some r, [])
  else
    let r := { r with actorEpoch := player.epoch, offline := r.offline || offline }
    let revision := player.mutationRevision
    if r.active.any (·.capturedRevision = revision) ∧ r.queued.isNone then some (true, some r, [])
    else if r.queued.any (·.capturedRevision = revision) then some (true, some r, [])
    else if !player.dirty ∧ revision = r.confirmedRevision ∧ r.active.isNone then
      some (true, if offline then none else some r, [])
    else if maxVersion ≤ r.nextVersion then
      some (false, some { r with state := .blocked, error := text "save version exhausted" }, [])
    else match player.freezeSaveSnapshot (r.nextVersion + 1) r.token with
      | .error _ => none
      | .ok snapshot =>
        match PlayerSnapshotDao.buildSave snapshot with
        | .error error => some (false, some { r with error := text error }, [])
        | .ok _ =>
          let out := (r.enqueue snapshot).dispatch d
          some (true, some out.1, out.2)

/-- The record of a save whose result was not taken. -/
def block (error : Bytes) : Record := { r with state := .blocked, error }

/-- The record of a save that is stored. -/
def confirm (snapshot : PlayerSaveSnapshot) : Record :=
  { r with
    confirmedVersion := snapshot.saveVersion
    confirmedRevision := snapshot.capturedRevision
    active := none
    taskId := 0
    state := .idle }

end Record

/-- Whether a result is the one of a snapshot. -/
def answers (result : DbResult) (snapshot : PlayerSaveSnapshot) (token : Nat) : Bool :=
  result.playerId = snapshot.playerId ∧ result.saveVersion = snapshot.saveVersion ∧
    result.capturedRevision = snapshot.capturedRevision ∧ result.saveLifecycleToken = token

end PlayerPersistence

open PlayerPersistence (Record kMaxPlayers answers)

structure PlayerPersistence where
  nextToken : Nat := 0
  records : Table Nat Record := ∅

namespace PlayerPersistence

variable (s : PlayerPersistence)

/-- The record of the player, or a new one if there is room. -/
def open_ (player : Player) : Option (PlayerPersistence × Record) :=
  match s.records.lookup player.playerId with
  | some r => some (s, r)
  | none =>
    if kMaxPlayers ≤ s.records.size ∨ player.playerId = 0 then none
    else some
      ({ s with nextToken := s.nextToken + 1 },
        { actorEpoch := player.epoch
          token := s.nextToken + 1
          nextVersion := player.persistedVersion
          confirmedVersion := player.persistedVersion
          confirmedRevision := player.persistedRevision })

/-- The row of a player is written, or erased. -/
def put (playerId : Nat) (r : Option Record) : PlayerPersistence :=
  { s with
    records := match r with
      | none => s.records.erase playerId
      | some r => s.records.insert playerId r }

def request (player : Player) (offline : Bool) (d : SaveDelivery) :
    Option (Bool × PlayerPersistence × List SaveTask) :=
  match s.open_ player with
  | none => some (false, s, [])
  | some (s, r) =>
    (r.request player offline d).map fun (ok, r, sent) => (ok, s.put player.playerId r, sent)

/-- One round of `tick`. -/
def dispatch (playerId : Nat) (d : SaveDelivery) : PlayerPersistence × List SaveTask :=
  match s.records.lookup playerId with
  | none => (s, [])
  | some r =>
    let out := r.dispatch d
    (s.put playerId (some out.1), out.2)

def owns (taskId : Nat) : Bool :=
  taskId ≠ 0 ∧ s.records.entries.any fun row => row.2.active.isSome ∧ row.2.taskId = taskId

/-- What `complete` leaves, and the snapshot that is now known to be stored. -/
structure Completed where
  ok : Bool
  persistence : PlayerPersistence
  live : Option Player
  confirmed : Option PlayerSaveSnapshot := none

/-- `complete`, once the record of the task is found. -/
def finish (playerId : Nat) (r : Record) (result : DbResult) (live : Option Player) : Completed :=
  match r.active with
  | none => { ok := false, persistence := s, live }
  | some snapshot =>
    if r.state ≠ .awaitResult then { ok := false, persistence := s, live }
    else if result.errcode ≠ 0 ∨ result.classification ≠ .success then
      { ok := true, persistence := s.put playerId (some (r.block result.errmsg)), live }
    else if !answers result snapshot r.token then
      { ok := false
        persistence := s.put playerId (some (r.block (text "save result identity mismatch")))
        live }
    else
      { ok := true
        persistence :=
          s.put playerId (if r.offline ∧ r.queued.isNone then none else some (r.confirm snapshot))
        live := live.map fun p =>
          if p.playerId = result.playerId ∧ p.epoch = r.actorEpoch ∧ !r.offline then
            p.confirmSave snapshot.saveVersion snapshot.capturedRevision
          else p
        confirmed := some snapshot }

def complete (taskId : Nat) (result : DbResult) (live : Option Player) : Completed :=
  match s.records.entries.find? fun row => row.2.taskId = taskId with
  | none => { ok := false, persistence := s, live }
  | some row => s.finish row.1 row.2 result live

def blocksLogin (playerId : Nat) : Bool := (s.records.lookup playerId).any (·.offline)

end PlayerPersistence

end Scene
