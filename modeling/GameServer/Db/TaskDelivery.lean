import GameServer.Lib.Table
import GameServer.Db.Value

/-!
# Task delivery

The table of a worker's database tasks and the ledger of a DB channel. A task is
sent until a queue takes it and never again; its result is sent until the worker
acknowledges it. A sender is a function from messages to verdicts, and each pass
also gives the messages it handed to the sender.
-/

namespace Db

open Gateway (Bytes)

inductive MsgType where
  | none
  | connNew
  | connClose
  | connData
  | send
  | close
  | timerFire
  | dbTaskMySql
  | dbResultMySql
  | shutdown
  | reload
  | dbTaskRedis
  | dbResultRedis
  | dbControlMySql
  | dbControlRedis
  | dbStatus
  | service
  deriving DecidableEq, Repr

structure MsgHead where
  taskId : Nat := 0
  dbControl : Nat := 0
  msgType : MsgType := .none
  module : Nat := 0
  method : Nat := 0
  seq : Nat := 0
  session : Nat := 0
  playerId : Nat := 0
  srcWorkerId : Nat := 0
  epoch : Nat := 0
  ctx : Nat := 0
  dbShard : Nat := 0
  deriving DecidableEq, Repr

structure Msg where
  head : MsgHead := {}
  body : Bytes := []
  deriving DecidableEq, Repr

def isDbTask (t : MsgType) : Bool := t = .dbTaskMySql ∨ t = .dbTaskRedis

def isDbResult (t : MsgType) : Bool := t = .dbResultMySql ∨ t = .dbResultRedis

inductive DispatchResult where
  | accepted
  | backpressure
  | targetStopped
  | invalidTarget
  | invalidMessage
  deriving DecidableEq, Repr

def isAccepted (r : DispatchResult) : Bool := r = .accepted

/-- The verdicts after which a task is given up. -/
def isInvalid (r : DispatchResult) : Bool := r = .invalidTarget ∨ r = .invalidMessage

abbrev Sender := Msg → DispatchResult

inductive TaskState where
  | pendingDispatch
  | awaitResult
  | completed
  | dispatchFailed
  deriving DecidableEq, Repr

structure Task where
  request : Msg
  state : TaskState := .pendingDispatch
  nextTryAt : Int := 0
  result : Msg := {}
  ackPending : Bool := false
  observedStatus : Nat := 0
  completedAt : Int := 0
  deriving DecidableEq, Repr

/-- Two messages that carry the same request; the task number is not compared. -/
def same (a b : Msg) : Bool :=
  a.body = b.body ∧ a.head.msgType = b.head.msgType ∧ a.head.dbShard = b.head.dbShard ∧
    a.head.srcWorkerId = b.head.srcWorkerId ∧ a.head.ctx = b.head.ctx ∧
    a.head.playerId = b.head.playerId ∧ a.head.epoch = b.head.epoch ∧
    a.head.session = b.head.session ∧ a.head.module = b.head.module ∧
    a.head.method = b.head.method ∧ a.head.seq = b.head.seq

/-- A control message: 1 acknowledges a result, 2 asks for the status. -/
def control (request : Msg) (kind : Nat) : Msg :=
  { request with
    head :=
      { request.head with
        msgType := if request.head.msgType = .dbTaskRedis then .dbControlRedis else .dbControlMySql
        dbControl := kind } }

structure PendingDbTasks where
  tasks : Table Nat Task := ∅
  active : List Nat := []
  indexed : Bool := false

namespace PendingDbTasks

def kMaxTasks : Nat := 65536

def needsScheduling (task : Task) : Bool :=
  task.state = .pendingDispatch ∨ task.state = .awaitResult ∨
    (task.state = .completed ∧ task.ackPending)

def activate (p : PendingDbTasks) (id : Nat) : PendingDbTasks :=
  if p.indexed then { p with active := if id ∈ p.active then p.active else id :: p.active } else p

def deactivate (p : PendingDbTasks) (id : Nat) : PendingDbTasks :=
  if p.indexed then { p with active := p.active.filter (· ≠ id) } else p

/-- What the verdict on its request makes of a task. -/
def dispatch (task : Task) (now : Int) (verdict : DispatchResult) : Task :=
  { task with
    state :=
      if isAccepted verdict then .awaitResult
      else if isInvalid verdict then .dispatchFailed
      else task.state
    nextTryAt := now + if isAccepted verdict then 5000 else 100 }

/-- A record that may make room for another: completed, acknowledged and old enough. -/
def evictable (now : Int) (task : Task) : Bool :=
  task.state = .completed ∧ !task.ackPending ∧ 60000 ≤ now - task.completedAt

def anyEvictable (p : PendingDbTasks) (now : Int) : Bool :=
  p.tasks.entries.any fun r => evictable now r.2

/-- Make room for a task. The scan stops at the first evictable record in the order of the hash
table: here that is the one named by `victim`, which has to be one. `none` if it is not, and
`some none` if there is no room. -/
def makeRoom (p : PendingDbTasks) (id : Nat) (now : Int) (victim : Nat) :
    Option (Option PendingDbTasks) :=
  if p.tasks.size < kMaxTasks ∨ (p.tasks.lookup id).isSome then some (some p)
  else if p.anyEvictable now then
    match p.tasks.lookup victim with
    | none => none
    | some task =>
      if evictable now task then
        some (some { p.deactivate victim with tasks := p.tasks.erase victim })
      else none
  else some none

/-- `submit`, with the number `fresh` for a request that has none. -/
def submit (p : PendingDbTasks) (request : Msg) (now : Int) (send : Sender) (fresh victim : Nat) :
    Option (Bool × PendingDbTasks × List Msg) :=
  if !isDbTask request.head.msgType then some (false, p, [])
  else
    let id := if request.head.taskId = 0 then fresh else request.head.taskId
    let request := { request with head := { request.head with taskId := id } }
    (p.makeRoom id now victim).map fun
      | none => (false, p, [])
      | some p =>
        match p.tasks.lookup id with
        | some task => (same task.request request, p, [])
        | none =>
          if isInvalid (send request) then (false, (p.activate id).deactivate id, [request])
          else
            (true,
              { p.activate id with
                tasks := p.tasks.insert id (dispatch { request } now (send request)) },
              [request])

def observeStatus (p : PendingDbTasks) (status : Msg) : Bool × PendingDbTasks :=
  match p.tasks.lookup status.head.taskId, status.body with
  | some task, [value] =>
    if task.state ≠ .awaitResult ∨ status.head.msgType ≠ .dbStatus ∨ 2 < value.toNat then (false, p)
    else
      let h := task.request.head
      if h.srcWorkerId ≠ status.head.srcWorkerId ∨ h.dbShard ≠ status.head.dbShard ∨
          h.playerId ≠ status.head.playerId ∨ h.epoch ≠ status.head.epoch ∨
          h.ctx ≠ status.head.ctx then (false, p)
      else
        (true, { p with
          tasks := p.tasks.insert status.head.taskId { task with observedStatus := value.toNat } })
  | _, _ => (false, p)

/-- The round of `tick` for one task. -/
def tickTask (now : Int) (send : Sender) (task : Task) : Task × List Msg :=
  if task.state = .pendingDispatch ∧ task.nextTryAt ≤ now then
    (dispatch task now (send task.request), [task.request])
  else (task, [])

/-- The round of `tickControls` for one task. -/
def controlTask (now : Int) (send : Sender) (task : Task) : Task × List Msg :=
  if now < task.nextTryAt then (task, [])
  else if task.state = .completed ∧ task.ackPending then
    ({ task with
        ackPending := !isAccepted (send (control task.request 1))
        nextTryAt := now + 100 },
      [control task.request 1])
  else if task.state = .awaitResult then
    ({ task with nextTryAt := now + 5000 }, [control task.request 2])
  else (task, [])

/-- The loop over the numbers to visit, with those whose tasks still need scheduling; `none` is the
exception for a number without a task. -/
def scanIds (advance : Task → Task × List Msg) :
    List Nat → Table Nat Task → Option (Table Nat Task × List Nat × List Msg)
  | [], tasks => some (tasks, [], [])
  | id :: ids, tasks =>
    match tasks.lookup id with
    | none => none
    | some task =>
      let out := advance task
      (scanIds advance ids (tasks.insert id out.1)).map fun (tasks, kept, sent) =>
        (tasks, if needsScheduling out.1 then id :: kept else kept, out.2 ++ sent)

/-- The pass that `tick` and `tickControls` share: over the index, or over the whole table. -/
def scan (p : PendingDbTasks) (advance : Task → Task × List Msg) :
    Option (PendingDbTasks × List Msg) :=
  if p.indexed then
    (scanIds advance p.active p.tasks).map fun (tasks, kept, sent) =>
      ({ p with tasks, active := kept }, sent)
  else
    (scanIds advance p.tasks.keys p.tasks).map fun (tasks, _, sent) => ({ p with tasks }, sent)

def tickControls (p : PendingDbTasks) (now : Int) (send : Sender) :
    Option (PendingDbTasks × List Msg) :=
  p.scan (controlTask now send)

def tick (p : PendingDbTasks) (now : Int) (send : Sender) : Option (PendingDbTasks × List Msg) :=
  p.scan (tickTask now send)

def acknowledgeDuplicate (p : PendingDbTasks) (result : Msg) : Bool × PendingDbTasks :=
  match p.tasks.lookup result.head.taskId with
  | none => (false, p)
  | some task =>
    if task.state ≠ .completed ∨ !same task.result result then (false, p)
    else
      (true, { p.activate result.head.taskId with
        tasks := p.tasks.insert result.head.taskId { task with ackPending := true, nextTryAt := 0 } })

/-- The result belongs to the request. -/
def answers (request result : Msg) : Bool :=
  let h := request.head
  h.playerId = result.head.playerId ∧ h.epoch = result.head.epoch ∧
    h.dbShard = result.head.dbShard ∧ h.module = result.head.module ∧
    h.method = result.head.method ∧ h.ctx = result.head.ctx ∧
    h.srcWorkerId = result.head.srcWorkerId ∧
    result.head.msgType = if h.msgType = .dbTaskMySql then .dbResultMySql else .dbResultRedis

def complete (p : PendingDbTasks) (result : Msg) (now : Int) : Bool × PendingDbTasks :=
  match p.tasks.lookup result.head.taskId with
  | none => (false, p)
  | some task =>
    if task.state ≠ .awaitResult ∨ !answers task.request result then (false, p)
    else
      (true, { p with
        tasks := p.tasks.insert result.head.taskId
          { task with
            state := .completed
            completedAt := now
            result := result
            ackPending := true
            nextTryAt := 0 } })

end PendingDbTasks

inductive Admission where
  | new
  | duplicate
  | conflict
  deriving DecidableEq, Repr

structure LedgerEntry where
  request : Msg
  result : Msg := {}
  ready : Bool := false
  delivered : Bool := false
  acknowledged : Bool := false
  nextSendAt : Int := 0
  deriving DecidableEq, Repr

structure DbResultLedger where
  capacity : Nat := 65536
  entries : Table Nat LedgerEntry := ∅
  legacy : List Msg := []

namespace DbResultLedger

def kMaxEntries : Nat := 65536

/-- What counts against the capacity. -/
def load (l : DbResultLedger) : Nat := l.entries.size + l.legacy.length

def anyAcknowledged (l : DbResultLedger) : Bool := l.entries.entries.any fun r => r.2.acknowledged

/-- `hasCapacity`. The scan evicts the first acknowledged entry in the order of the hash table:
here that is the one named by `victim`, which has to be one; `none` if it is not. The number that
was evicted is given with the answer, 0 if there is none. -/
def hasCapacity (l : DbResultLedger) (victim : Nat) : Option (Bool × Nat × DbResultLedger) :=
  if l.load < l.capacity then some (true, 0, l)
  else if l.anyAcknowledged then
    match l.entries.lookup victim with
    | none => none
    | some entry =>
      if entry.acknowledged then some (true, victim, { l with entries := l.entries.erase victim })
      else none
  else some (false, 0, l)

def accept (l : DbResultLedger) (request : Msg) : Admission × DbResultLedger :=
  if request.head.taskId = 0 then (.new, l)
  else match l.entries.lookup request.head.taskId with
    | none => (.new, { l with entries := l.entries.insert request.head.taskId { request } })
    | some entry =>
      if !same entry.request request then (.conflict, l)
      else if entry.ready then
        (.duplicate, { l with
          entries := l.entries.insert request.head.taskId
            { entry with delivered := false, nextSendAt := 0, acknowledged := false } })
      else (.duplicate, l)

def queueNotice (l : DbResultLedger) (notice : Msg) : Bool × DbResultLedger :=
  if l.capacity ≤ l.load then (false, l) else (true, { l with legacy := l.legacy ++ [notice] })

/-- `finish`; `none` is the exception for a task that has no entry. -/
def finish (l : DbResultLedger) (request result : Msg) : Option DbResultLedger :=
  if request.head.taskId = 0 then some { l with legacy := l.legacy ++ [result] }
  else (l.entries.lookup request.head.taskId).map fun entry =>
    { l with
      entries := l.entries.insert request.head.taskId
        { entry with result := result, ready := true, delivered := false } }

/-- The request that a control message is about. -/
def controlled (message : Msg) : Msg :=
  { message with
    head :=
      { message.head with
        msgType := if message.head.msgType = .dbControlRedis then .dbTaskRedis else .dbTaskMySql
        dbControl := 0 } }

def handleControl (l : DbResultLedger) (message : Msg) : Bool × DbResultLedger :=
  if message.head.msgType ≠ .dbControlMySql ∧ message.head.msgType ≠ .dbControlRedis then (false, l)
  else match l.entries.lookup message.head.taskId with
    | none => (false, l)
    | some entry =>
      if !same entry.request (controlled message) then (false, l)
      else if message.head.dbControl = 1 ∧ entry.ready then
        (true, { l with
          entries := l.entries.insert message.head.taskId { entry with acknowledged := true } })
      else if message.head.dbControl = 2 then
        (true, { l with
          entries := l.entries.insert message.head.taskId
            { entry with nextSendAt := 0, delivered := false, acknowledged := false } })
      else (false, l)

def status (l : DbResultLedger) (taskId : Nat) : Nat :=
  match l.entries.lookup taskId with
  | none => 0
  | some entry => if entry.ready then 2 else 1

/-- An entry whose result is to be sent. -/
def due (now : Int) (entry : LedgerEntry) : Bool :=
  entry.ready ∧ !entry.acknowledged ∧ entry.nextSendAt ≤ now

/-- The round of `flush` for one entry. -/
def flushEntry (now : Int) (verdict : DispatchResult) (entry : LedgerEntry) : LedgerEntry :=
  if due now entry then
    { entry with
      delivered := isAccepted verdict
      nextSendAt := now + if isAccepted verdict then 1000 else 100 }
  else entry

/-- `flush`. Two legacy messages can be equal, so the verdict on one depends on its place too; the
verdicts on results are those of place 0. -/
def flush (l : DbResultLedger) (now : Int) (send : Nat → Sender) :
    DbResultLedger × List Msg × List Msg :=
  let kept := l.legacy.zipIdx.filter fun (m, i) => !isAccepted (send (i + 1) m)
  let gone := l.legacy.zipIdx.filter fun (m, i) => isAccepted (send (i + 1) m)
  ({ l with
      entries := l.entries.mapVals fun _ entry => flushEntry now (send 0 entry.result) entry
      legacy := kept.map (·.1) },
    (l.entries.entries.filter fun r => due now r.2).map (·.2.result), gone.map (·.1))

end DbResultLedger

end Db
