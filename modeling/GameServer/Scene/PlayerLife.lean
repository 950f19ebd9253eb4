import Mathlib.Logic.Relation
import GameServer.Scene.LogicThread
import GameServer.Scene.SaveRecord

/-!
# The life of one player

What a logic thread holds of one player, and the moves that it can make with it. The
epochs and tokens that the thread shares out, and the capacities of its tables, leave
their mark on a player as a free choice. Every step of the thread makes moves with
each of its players.
-/

namespace Scene

open Gateway (ClientData)
open Gateway.GatewayPlayer (kOnline kOffline)
open Db (DbResult DbTask)
open PlayerPersistence (Record)

/-- The player that an event is about. -/
def ThreadEvent.player : ThreadEvent → Nat
  | .saveSubmitted task => task.playerId
  | .saveConfirmed _ _ snapshot => snapshot.playerId
  | .loadSubmitted task => task.playerId
  | .loaded snapshot => snapshot.playerId
  | .removed p => p.playerId

@[ext] structure Life where
  actor : Option Player := none
  load : Option LoadState := none
  record : Option Record := none
  latest : Option ClientData := none
  log : List ThreadEvent := []

def LogicThread.life (s : LogicThread) (id : Nat) : Life where
  actor := s.players.get id
  load := s.playerLoads.lookup id
  record := s.persistence.records.lookup id
  latest := s.latestClientBindings.lookup id
  log := s.log.filter (·.player = id)

namespace Life

variable (l : Life)

def note (events : List ThreadEvent) : Life := { l with log := l.log ++ events }

def blocked : Bool := l.record.any (·.offline)

/-- The record that a player without one gets. -/
def newRecord (p : Player) (token : Nat) : Record :=
  { actorEpoch := p.epoch
    token
    nextVersion := p.persistedVersion
    confirmedVersion := p.persistedVersion
    confirmedRevision := p.persistedRevision }

/-- What a request for a save can answer and leave of the record. -/
inductive Requested (p : Player) (offline : Bool) (record : Option Record) :
    Bool → Option Record → List SaveTask → Prop
  | full (hnone : record = none) : Requested p offline record false none []
  | asked (r : Record) (token : Nat) {ok : Bool} {record' : Option Record} {sent : List SaveTask}
      (hr : record = some r ∨ record = none ∧ r = newRecord p token)
      (h : r.Asked p offline ok record' sent) :
      Requested p offline record ok record' sent

/-- The actor that a session gets. -/
def actorFor (id session epoch : Nat) (d : ClientData) : Player :=
  { l.actor.getD { playerId := id } with session, epoch, clientBinding := d }

/-- What `advancePlayerLoads` does with a load. -/
inductive Advanced (id : Nat) (l : Life) : Life → Prop
  | idle (h : ∀ state, l.load = some state →
      state.failed = true ∨ state.taskId ≠ 0 ∨ l.blocked = true) : Advanced id l l
  | failed (state : LoadState) (hload : l.load = some state) (hid : id = 0) :
      Advanced id l { l with load := some { state with failed := true } }
  | created (state : LoadState) (epoch : Nat) (hload : l.load = some state)
      (hfailed : state.failed = false) (htask : state.taskId = 0) (hblocked : l.blocked = false)
      (hid : id ≠ 0) (hmax : id < 2 ^ 63) :
      Advanced id l
        { l with
          actor := some (l.actorFor id state.session epoch state.clientBinding)
          latest := some state.clientBinding }
  | submitted (state : LoadState) (epoch taskId : Nat) (body : DbTask) (hload : l.load = some state)
      (hfailed : state.failed = false) (htask : state.taskId = 0) (hblocked : l.blocked = false)
      (hid : id ≠ 0) (hmax : id < 2 ^ 63) :
      Advanced id l
        { l with
          actor := some (l.actorFor id state.session epoch state.clientBinding)
          latest := some state.clientBinding
          load := some { state with taskId, actorEpoch := epoch }
          log := l.log ++ [.loadSubmitted { playerId := id, epoch, taskId, body }] }

/-- What `logoutPlayer` does with the actor `p`. -/
inductive LoggedOut (enabled : Bool) (p : Player) (l : Life) : Life → Prop
  | stayed : LoggedOut enabled p l { l with actor := some p }
  | refused {record : Option Record} {sent : List SaveTask} (henabled : enabled = true)
      (h : Requested p true l.record false record sent) :
      LoggedOut enabled p l
        ({ l with actor := some p, record }.note (sent.map ThreadEvent.saveSubmitted))
  | saved {record : Option Record} {sent : List SaveTask} (henabled : enabled = true)
      (h : Requested p true l.record true record sent) :
      LoggedOut enabled p l
        ({ l with actor := none, load := none, record }.note
          (sent.map ThreadEvent.saveSubmitted ++ [ThreadEvent.removed p]))
  | unsaved (henabled : enabled = false) :
      LoggedOut enabled p l ({ l with actor := none, load := none }.note [ThreadEvent.removed p])

/-- What happens to a player when no message about its binding comes and it is not logged out. -/
inductive Round (enabled : Bool) (id : Nat) (l : Life) : Life → Prop
  | advanced {l' : Life} (h : Advanced id l l') : Round enabled id l l'
  | flushed (p : Player) {ok : Bool} {record : Option Record} {sent : List SaveTask}
      (henabled : enabled = true) (hactor : l.actor = some p) (hload : l.load = none)
      (hdirty : p.dirty = true) (h : Requested p false l.record ok record sent) :
      Round enabled id l ({ l with record }.note (sent.map ThreadEvent.saveSubmitted))
  | dispatched (r : Record) {r' : Record} {sent : List SaveTask} (hrecord : l.record = some r)
      (h : r.Dispatched r' sent) :
      Round enabled id l ({ l with record := some r' }.note (sent.map ThreadEvent.saveSubmitted))
  | loadFailed (state : LoadState) (hload : l.load = some state) :
      Round enabled id l { l with load := some { state with failed := true } }
  | loaded (state : LoadState) (p p' : Player) (snapshot : PlayerSaveSnapshot)
      (hload : l.load = some state) (hactor : l.actor = some p)
      (hepoch : p.epoch = state.actorEpoch) (hbinding : p.clientBinding = state.clientBinding)
      (h : p.restoreSaveSnapshot snapshot = some p') :
      Round enabled id l ({ l with actor := some p', load := none }.note [.loaded snapshot])
  | saveFailed (r : Record) (error : Gateway.Bytes) (hrecord : l.record = some r)
      (hactive : r.active.isSome = true) (hstate : r.state = .awaitResult) :
      Round enabled id l { l with record := some (r.block error) }
  | saved (r : Record) (snapshot : PlayerSaveSnapshot) (taskId : Nat) (result : DbResult)
      (heard : Bool) (hrecord : l.record = some r) (hactive : r.active = some snapshot)
      (hstate : r.state = .awaitResult) (htask : r.taskId = taskId) (herrcode : result.errcode = 0)
      (hsuccess : result.classification = .success)
      (hanswers : PlayerPersistence.answers result snapshot r.token = true) :
      Round enabled id l
        ({ l with
          record := if r.offline ∧ r.queued.isNone then none else some (r.confirm snapshot)
          actor := if heard then l.actor.map (r.confirmActor result snapshot) else l.actor }.note
          [.saveConfirmed taskId result snapshot])
  | mutated (p : Player) (op : GameOp) (hactor : l.actor = some p) :
      Round enabled id l { l with actor := some (p.apply op.1) }

/-- What a logic thread can do with one player. -/
inductive Move (enabled draining : Bool) (id : Nat) (l : Life) : Life → Prop
  | round {l' : Life} (h : Round enabled id l l') : Move enabled draining id l l'
  | opened (d : ClientData) (session epoch : Nat) {l' : Life} (henabled : enabled = true)
      (hdraining : draining = false) (hid : id ≠ 0)
      (hlatest : l.latest.any (LogicThread.outdatedBy d) = false)
      (hwhen : (∃ state, l.load = some state ∧ ¬ (state.clientBinding = d ∧ state.session = session) ∧
        LogicThread.outdatedBy d state.clientBinding = false) ∨ l.load = none ∧ l.actor = none)
      (h : Advanced id
        { l with
          load := some { session, clientBinding := d }
          actor := l.actor.map fun p => { p with epoch } } l') :
      Move enabled draining id l l'
  | bound (d : ClientData) (session epoch : Nat) (hdraining : draining = false) (hid : id ≠ 0)
      (hlatest : l.latest.any (LogicThread.outdatedBy d) = false)
      (hwhen : enabled = false ∨ l.load = none ∧ l.actor.isSome = true) :
      Move enabled draining id l { l with actor := some (l.actorFor id session epoch d), latest := some d }
  | cancelled (state : LoadState) (hload : l.load = some state) :
      Move enabled draining id l
        { l with
          load := none
          actor := l.actor.filter fun p => p.clientBinding ≠ state.clientBinding
          latest := some state.clientBinding }
  | loggedOut (p : Player) (ops : List GameOp) (latest : Option ClientData) {l' : Life}
      (hactor : l.actor = some p)
      (hload : ∀ state, l.load = some state →
        ¬ (state.clientBinding = p.clientBinding ∧ state.session = p.session))
      (h : LoggedOut enabled (p.run (ops.map (·.1))) { l with latest } l') :
      Move enabled draining id l l'
  | drained (state : LoadState) (hload : l.load = some state) :
      Move enabled draining id l { l with actor := none, load := none }

end Life

end Scene
