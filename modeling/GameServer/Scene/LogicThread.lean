import Mathlib.Data.Finset.Insert
import Mathlib.Data.Finset.Erase
import GameServer.Scene.PlayerPersistence

/-!
# The players of a logic thread

A logic thread holds the players that are online, the loads that are under way for
players that come online, and the saves of players. What other parts answer is given
with each step: the delivery of database tasks, the AOI service, the scripts.

`log` records what happened to saves, loads and players. No function reads it.
-/

namespace Scene

open Gateway (Bytes ClientData)
open Db (DbResult DbTask)

/-- A change that scripts and services make. The other two are the logic thread's own. -/
def Player.Op.gameplay : Player.Op → Bool
  | .restoreSaveSnapshot _ => false
  | .confirmSave _ _ => false
  | _ => true

abbrev GameOp := { op : Player.Op // op.gameplay = true }

structure PlayerManager where
  nextEpoch : Nat := 1
  actors : Table Nat Player := ∅

namespace PlayerManager

variable (m : PlayerManager)

def get (playerId : Nat) : Option Player := m.actors.lookup playerId

def put (playerId : Nat) (p : Player) : PlayerManager :=
  { m with actors := m.actors.insert playerId p }

/-- `nextEpoch_++` of a `uint32_t`. -/
def advance : PlayerManager := { m with nextEpoch := (m.nextEpoch + 1) % 2 ^ 32 }

def getOrCreate (playerId session : Nat) : Option (Player × PlayerManager) :=
  if playerId = 0 then none
  else match m.get playerId with
    | some p =>
      if p.session = session then some (p, m)
      else
        let p := { p with session, epoch := m.nextEpoch }
        some (p, (m.put playerId p).advance)
    | none =>
      let p : Player := { playerId, session, epoch := m.nextEpoch }
      some (p, (m.put playerId p).advance)

def renewEpoch (playerId : Nat) : PlayerManager :=
  match m.get playerId with
  | some p => (m.put playerId { p with epoch := m.nextEpoch }).advance
  | none => m

def remove (playerId : Nat) : PlayerManager := { m with actors := m.actors.erase playerId }

end PlayerManager

/-- The message that a client came online or went offline. -/
structure BindingMsg where
  method : Nat
  session : Nat
  playerId : Nat
  hasClientBinding : Bool := true
  clientBinding : ClientData
  body : Bytes := []
  deriving DecidableEq, Repr

/-- What `onPlayerBinding` asks of a message first. -/
def BindingMsg.valid (m : BindingMsg) : Bool :=
  m.hasClientBinding && Gateway.GatewayPlayer.valid m.clientBinding &&
    m.clientBinding.playerId == m.playerId && m.session != 0 && m.body.isEmpty

/-- A load that is under way; of the message that began it, what is read later. -/
structure LoadState where
  session : Nat
  clientBinding : ClientData
  taskId : Nat := 0
  actorEpoch : Nat := 0
  failed : Bool := false
  deriving DecidableEq, Repr

structure LoadTask where
  playerId : Nat
  epoch : Nat
  taskId : Nat
  body : DbTask

/-- What the rest of the server answers in one step. -/
structure Env where
  saves : Nat → SaveDelivery
  submitLoad : LoadTask → Bool
  newTaskId : Nat → Nat
  leaveScene : Nat → Bool
  onPlayerLogout : Nat → List GameOp

inductive ThreadEvent where
  | saveSubmitted (task : SaveTask)
  | saveConfirmed (taskId : Nat) (result : DbResult) (snapshot : PlayerSaveSnapshot)
  | loadSubmitted (task : LoadTask)
  | loaded (snapshot : PlayerSaveSnapshot)
  | removed (p : Player)

structure LogicThread where
  persistenceEnabled : Bool
  players : PlayerManager := {}
  latestClientBindings : Table Nat ClientData := ∅
  persistence : PlayerPersistence := {}
  playerLoads : Table Nat LoadState := ∅
  logoutPrepared : Finset Nat := ∅
  draining : Bool := false
  log : List ThreadEvent := []

namespace LogicThread

variable (env : Env) (s : LogicThread)

def note (events : List ThreadEvent) : LogicThread := { s with log := s.log ++ events }

def setLoad (playerId : Nat) (state : LoadState) : LogicThread :=
  { s with playerLoads := s.playerLoads.insert playerId state }

def setPlayer (playerId : Nat) (p : Player) : LogicThread :=
  { s with players := s.players.put playerId p }

section Loads

/-- The loop body of `advancePlayerLoads`; `none` is an exception. -/
def advanceLoad (playerId : Nat) : Option LogicThread :=
  match s.playerLoads.lookup playerId with
  | none => some s
  | some state =>
    if state.failed ∨ state.taskId ≠ 0 ∨ s.persistence.blocksLogin playerId then some s
    else match s.players.getOrCreate playerId state.session with
      | none => some (s.setLoad playerId { state with failed := true })
      | some (p, players) =>
        let s :=
          { s with
            players := players.put playerId { p with clientBinding := state.clientBinding }
            latestClientBindings := s.latestClientBindings.insert playerId state.clientBinding }
        (PlayerSnapshotDao.buildLoad playerId).map fun body =>
          let task : LoadTask := { playerId, epoch := p.epoch, taskId := env.newTaskId playerId, body }
          if env.submitLoad task then
            (s.setLoad playerId { state with taskId := task.taskId, actorEpoch := p.epoch }).note
              [.loadSubmitted task]
          else s

def advancePlayerLoads : Option LogicThread :=
  s.playerLoads.keys.foldlM (fun s playerId => s.advanceLoad env playerId) s

/-- Whether the result was the one of a load, and what it leaves. The request to enter the scene
that waits for the load is not modelled. -/
def handlePlayerLoadResult (playerId taskId : Nat) (result : DbResult) : Bool × LogicThread :=
  match s.playerLoads.lookup playerId with
  | none => (false, s)
  | some state =>
    if state.taskId ≠ taskId then (false, s)
    else match s.players.get playerId with
      | none => (true, s)
      | some p =>
        if p.epoch ≠ state.actorEpoch ∨ p.clientBinding ≠ state.clientBinding then (true, s)
        else
          let failed := (true, s.setLoad playerId { state with failed := true })
          match PlayerSnapshotDao.parseLoad p.playerId result with
          | .error _ => failed
          | .ok snapshot =>
            if snapshot.sceneId.toNat ≠ state.clientBinding.sceneId then failed
            else match p.restoreSaveSnapshot snapshot with
              | none => failed
              | some p =>
                let s := s.setPlayer playerId p
                (true, { s with playerLoads := s.playerLoads.erase playerId }.note
                  [.loaded snapshot])

end Loads

section Saves

/-- `persistence_.request`, with what was handed over put down. -/
def requestSave (playerId : Nat) (p : Player) (offline : Bool) : Option (Bool × LogicThread) :=
  (s.persistence.request p offline (env.saves playerId)).map fun (ok, persistence, sent) =>
    (ok, { s with persistence }.note (sent.map .saveSubmitted))

/-- The end of `logoutPlayer`. -/
def release (playerId : Nat) (p : Player) : LogicThread :=
  { s with
    players := s.players.remove playerId
    logoutPrepared := s.logoutPrepared.erase playerId
    playerLoads := s.playerLoads.erase playerId }.note [.removed p]

def logoutPlayer (playerId : Nat) : Option (Bool × LogicThread) :=
  match s.players.get playerId with
  | none => some (true, s)
  | some p =>
    let p := if playerId ∈ s.logoutPrepared then p
      else p.run ((env.onPlayerLogout playerId).map (·.1))
    let s := { s.setPlayer playerId p with logoutPrepared := insert playerId s.logoutPrepared }
    if !env.leaveScene playerId then some (false, s)
    else if s.persistenceEnabled then
      (s.requestSave env playerId p true).map fun (ok, s) =>
        if ok then (true, s.release playerId p) else (false, s)
    else some (true, s.release playerId p)

/-- The loop body of `flushDirtyPlayers`. -/
def flushPlayer (playerId : Nat) : Option LogicThread :=
  match s.players.get playerId with
  | none => some s
  | some p =>
    if playerId ∈ s.playerLoads ∨ s.draining ∨ !p.dirty then some s
    else (s.requestSave env playerId p false).map (·.2)

def flushDirtyPlayers : Option LogicThread :=
  if !s.persistenceEnabled then some s
  else s.players.actors.keys.foldlM (fun s playerId => s.flushPlayer env playerId) s

/-- The loop body of `persistence_.tick`. -/
def tickRecord (playerId : Nat) : LogicThread :=
  let out := s.persistence.dispatch playerId (env.saves playerId)
  { s with persistence := out.1 }.note (out.2.map .saveSubmitted)

def tick : LogicThread :=
  s.persistence.records.keys.foldl (fun s playerId => s.tickRecord env playerId) s

/-- A result that the delivery of tasks has passed on; callbacks of scripts are not modelled. -/
def onDbResult (playerId taskId : Nat) (result : DbResult) : LogicThread :=
  let handled := s.handlePlayerLoadResult playerId taskId result
  if handled.1 then handled.2
  else if s.persistence.owns taskId then
    let done := s.persistence.complete taskId result (s.players.get playerId)
    let s := { s with persistence := done.persistence }
    let s := match done.live with
      | some p => s.setPlayer playerId p
      | none => s
    s.note (done.confirmed.toList.map (.saveConfirmed taskId result))
  else s

end Saves

section Bindings

variable (m : BindingMsg)

/-- The new state of `playerLoads_`, and the call of `advancePlayerLoads` after it. -/
def openLoad : Option LogicThread :=
  let d := m.clientBinding
  { s with
    players := s.players.renewEpoch d.playerId
    playerLoads := s.playerLoads.insert d.playerId
      { session := m.session, clientBinding := d } }.advancePlayerLoads env

/-- The end of the online half. -/
def bindActor : LogicThread :=
  let d := m.clientBinding
  let oldEpoch := ((s.players.get d.playerId).map (·.clientBinding.clientEpoch)).getD 0
  match s.players.getOrCreate d.playerId m.session with
  | none => s
  | some (_, players) =>
    let players := if oldEpoch ≠ 0 ∧ oldEpoch ≠ d.clientEpoch then players.renewEpoch d.playerId
      else players
    { s with
      players := match players.get d.playerId with
        | some p => players.put d.playerId { p with clientBinding := d }
        | none => players
      latestClientBindings := s.latestClientBindings.insert d.playerId d }

/-- An online message that does not get past what was there before. -/
def outdatedBy (d old : ClientData) : Bool :=
  d.gatewayId ≠ old.gatewayId || d.sceneId ≠ old.sceneId || d.clientEpoch ≤ old.clientEpoch

def online : Option LogicThread :=
  let d := m.clientBinding
  let p := s.players.get d.playerId
  if (s.latestClientBindings.lookup d.playerId).any (outdatedBy d) then some s
  else if s.persistenceEnabled then
    match s.playerLoads.lookup d.playerId with
    | some load =>
      if load.clientBinding = d ∧ load.session = m.session then some s
      else if outdatedBy d load.clientBinding then some s
      else s.openLoad env m
    | none =>
      if p.isSome then some (s.bindActor m)
      else if PlayerPersistence.kMaxPlayers ≤ s.playerLoads.size then some s
      else s.openLoad env m
  else some (s.bindActor m)

def offline : Option LogicThread :=
  let d := m.clientBinding
  let p := s.players.get d.playerId
  let latestClientBindings := s.latestClientBindings.insert d.playerId d
  match s.playerLoads.lookup d.playerId with
  | some load =>
    if load.clientBinding = d ∧ load.session = m.session then
      some
        { s with
          latestClientBindings
          players := if p.any (·.clientBinding = d) then s.players.remove d.playerId else s.players
          playerLoads := s.playerLoads.erase d.playerId }
    else offlineActor p { s with latestClientBindings }
  | none => offlineActor p { s with latestClientBindings }
where
  /-- The actor is that of the message, and is logged out; `noted` has the new binding. -/
  offlineActor (p : Option Player) (noted : LogicThread) : Option LogicThread :=
    if p.any fun p => p.session = m.session ∧ p.clientBinding = m.clientBinding then
      (noted.logoutPlayer env m.clientBinding.playerId).map (·.2)
    else some s

def onPlayerBinding : Option LogicThread :=
  if s.draining ∨ !m.valid then some s
  else if m.method = Gateway.GatewayPlayer.kOnline then s.online env m
  else if m.method = Gateway.GatewayPlayer.kOffline then s.offline env m
  else some s

end Bindings

/-- `PLAYER_LOGOUT`, as far as it is about players. -/
def onLogoutReq (playerId session : Nat) (binding : Option ClientData) : Option LogicThread :=
  if s.draining ∨ playerId ∈ s.playerLoads then some s
  else if (s.players.get playerId).any fun p => p.session = session ∧ binding = some p.clientBinding then
    (s.logoutPlayer env playerId).map (·.2)
  else some s

section Drain

/-- What `run` does once when it is told to stop. -/
def beginDrain : LogicThread :=
  { s with
    draining := true
    players := { s.players with actors := s.players.actors.keep fun id _ => id ∉ s.playerLoads }
    playerLoads := ∅ }

/-- What `run` does in each round after that. -/
def drainRound : Option LogicThread :=
  s.players.actors.keys.foldlM (fun s playerId => (s.logoutPlayer env playerId).map (·.2)) s

end Drain

/-- A change of a player from a script or a service. -/
def mutate (playerId : Nat) (op : GameOp) : LogicThread :=
  match s.players.get playerId with
  | none => s
  | some p => s.setPlayer playerId (p.apply op.1)

inductive Label where
  | binding (m : BindingMsg)
  | logoutReq (playerId session : Nat) (binding : Option ClientData)
  | advance
  | flush
  | tick
  | dbResult (playerId taskId : Nat) (result : DbResult)
  | mutate (playerId : Nat) (op : GameOp)
  | beginDrain
  | drain

/-- One step of the thread; `none` is an exception that leaves its loop. -/
def step (l : Env × Label) : Option LogicThread :=
  match l.2 with
  | .binding m => s.onPlayerBinding l.1 m
  | .logoutReq playerId session binding => s.onLogoutReq l.1 playerId session binding
  | .advance => if s.draining then some s else s.advancePlayerLoads l.1
  | .flush => if s.draining then some s else s.flushDirtyPlayers l.1
  | .tick => some (s.tick l.1)
  | .dbResult playerId taskId result => some (s.onDbResult playerId taskId result)
  | .mutate playerId op => some (s.mutate playerId op)
  | .beginDrain => if s.draining then some s else some s.beginDrain
  | .drain => if s.draining then s.drainRound l.1 else some s

end LogicThread

end Scene
