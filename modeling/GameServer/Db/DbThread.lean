import Mathlib.Logic.Function.Basic
import GameServer.Lib.Run
import GameServer.Db.TransactionRetries

/-!
# The workers and the DB threads

Every worker has its task table and an inbox, every DB channel its queues and its
ledger; the MySQL channel has the retries too. A step is one operation of one
thread. Queues may refuse at any time, and what an execution gives is part of the
step. The request that was first registered under a number and a history of what
happened are recorded beside the state.
-/

namespace Db

open Gateway (Bytes text)
open Function (update)

inductive Channel where
  | mysql
  | redis (shard : Nat)
  deriving DecidableEq, Repr

/-- What happens to the task of a number. A worker makes a record of it, and may give the record up
for another task; the ledger of a channel admits it, and may evict its entry. -/
inductive Event where
  | registered (worker : Nat) (id : Nat)
  | forgotten (worker : Nat) (id : Nat)
  | admitted (c : Channel) (id : Nat) (a : Admission)
  | executed (c : Channel) (id : Nat) (classification : ResultClass)
  | recorded (c : Channel) (id : Nat) (result : Msg)
  | missing (c : Channel) (id : Nat)
  | sent (c : Channel) (id : Nat) (result : Msg)
  | completed (worker : Nat) (id : Nat) (result : Msg)
  | acked (worker : Nat) (id : Nat)
  | evicted (c : Channel) (id : Nat)
  deriving DecidableEq, Repr

namespace Event

def taskId : Event → Nat
  | registered _ id | forgotten _ id | admitted _ id _ | executed _ id _ | recorded _ id _
  | missing _ id | sent _ id _ | completed _ id _ | acked _ id | evicted _ id => id

end Event

structure DeliveryConfig where
  numWorkers : Nat := 1
  redisShards : Nat := 1
  capacity : Nat := DbResultLedger.kMaxEntries
  indexed : Bool := false

structure DbSystem where
  workers : Nat → PendingDbTasks
  inbox : Nat → List Msg := fun _ => []
  queue : Channel → List Msg := fun _ => []
  controls : Channel → List Msg := fun _ => []
  ledger : Channel → DbResultLedger
  retries : TransactionRetries := {}
  nextId : Nat := 1
  requests : Nat → Option Msg := fun _ => none
  log : List Event := []

namespace DbSystem

variable (cfg : DeliveryConfig) (g : DbSystem)

def init : DbSystem where
  workers := fun _ => { indexed := cfg.indexed }
  ledger := fun _ => { capacity := cfg.capacity }

section Bus

def channelOf (head : MsgHead) : Channel :=
  if head.msgType = .dbTaskRedis ∨ head.msgType = .dbControlRedis then .redis head.dbShard else .mysql

/-- `sendToDb`. -/
def sendToDb (room : Msg → Bool) : Sender := fun m =>
  if !isDbTask m.head.msgType then .invalidMessage
  else if m.head.msgType = .dbTaskRedis ∧ cfg.redisShards ≤ m.head.dbShard then .invalidTarget
  else if room m then .accepted
  else .backpressure

def sendToDbControl (room : Msg → Bool) : Sender := fun m =>
  if m.head.taskId = 0 ∨ cfg.numWorkers ≤ m.head.srcWorkerId ∨
      (m.head.dbControl ≠ 1 ∧ m.head.dbControl ≠ 2) then .invalidMessage
  else if m.head.msgType = .dbControlMySql then if room m then .accepted else .backpressure
  else if m.head.msgType ≠ .dbControlRedis then .invalidMessage
  else if cfg.redisShards ≤ m.head.dbShard then .invalidTarget
  else if room m then .accepted
  else .backpressure

def sendToWorker (room : Msg → Bool) : Sender := fun m =>
  if cfg.numWorkers ≤ m.head.srcWorkerId then .invalidTarget
  else if room m then .accepted
  else .backpressure

/-- A message that was handed to the bus is in its queue if the verdict was good. -/
def postTask (send : Sender) (g : DbSystem) (m : Msg) : DbSystem :=
  if isAccepted (send m) then
    let c := channelOf m.head
    { g with queue := update g.queue c (g.queue c ++ [m]) }
  else g

def postControl (send : Sender) (w : Nat) (g : DbSystem) (m : Msg) : DbSystem :=
  if isAccepted (send m) then
    let c := channelOf m.head
    { g with
      controls := update g.controls c (g.controls c ++ [m])
      log := g.log ++ if m.head.dbControl = 1 then [.acked w m.head.taskId] else [] }
  else g

def postWorker (g : DbSystem) (m : Msg) : DbSystem :=
  { g with inbox := update g.inbox m.head.srcWorkerId (g.inbox m.head.srcWorkerId ++ [m]) }

end Bus

section Worker

/-- `LogicThread::submitDbTask`. -/
def submitDbTask (w : Nat) (request : Msg) (now : Int) (room : Msg → Bool) (victim : Nat) :
    Option DbSystem :=
  let request := { request with head := { request.head with srcWorkerId := w } }
  let send := sendToDb cfg room
  let allocated := isDbTask request.head.msgType ∧ request.head.taskId = 0
  let id := if request.head.taskId = 0 then g.nextId else request.head.taskId
  let tasks := (g.workers w).tasks
  ((g.workers w).submit request now send g.nextId victim).map fun (registered, p, sent) =>
    let made := registered && (tasks.lookup id).isNone
    let lost := (tasks.lookup victim).isSome && (p.tasks.lookup victim).isNone
    sent.foldl (postTask send)
      { g with
        workers := update g.workers w p
        nextId := if allocated then g.nextId + 1 else g.nextId
        requests :=
          if made then
            update g.requests id <| (g.requests id).or <|
              some { request with head := { request.head with taskId := id } }
          else g.requests
        log := g.log ++ ((if lost then [.forgotten w victim] else []) ++
          if made then [.registered w id] else []) }

/-- The scripts' database call where no task table is installed: a statement or a Redis command
goes to the bus without a task number. -/
def sendDb (kind : Nat) (args : List Bytes) (head : MsgHead) (room : Msg → Bool) :
    Option DbSystem :=
  if kind = 1 ∨ kind = 2 ∨ kind = 3 then
    (DbTask.encode { kind, args }).map fun body =>
      postTask (sendToDb cfg room) g
        { head :=
            { head with
              taskId := 0
              msgType := if kind = 3 then .dbTaskRedis else .dbTaskMySql }
          body }
  else none

def tick (w : Nat) (now : Int) (room : Msg → Bool) : Option DbSystem :=
  let send := sendToDb cfg room
  ((g.workers w).tick now send).map fun (p, sent) =>
    sent.foldl (postTask send) { g with workers := update g.workers w p }

def tickControls (w : Nat) (now : Int) (room : Msg → Bool) : Option DbSystem :=
  let send := sendToDbControl cfg room
  ((g.workers w).tickControls now send).map fun (p, sent) =>
    sent.foldl (postControl send w) { g with workers := update g.workers w p }

/-- `onDbResult`, up to the handlers of the result. -/
def onDbResult (w : Nat) (m : Msg) (now : Int) (room : Msg → Bool) : Option DbSystem :=
  if (DbResult.decode m.body).isNone ∨ m.head.taskId = 0 then some g
  else
    match (g.workers w).complete m now with
    | (true, p) =>
      some { g with
        workers := update g.workers w p
        log := g.log ++ [.completed w m.head.taskId m] }
    | (false, _) =>
      tickControls cfg
        { g with workers := update g.workers w ((g.workers w).acknowledgeDuplicate m).2 } w now room

/-- A worker takes a message of its inbox. -/
def receive (w i : Nat) (now : Int) (room : Msg → Bool) : Option DbSystem :=
  match (g.inbox w)[i]? with
  | none => none
  | some m =>
    let g := { g with inbox := update g.inbox w ((g.inbox w).eraseIdx i) }
    if isDbResult m.head.msgType then onDbResult cfg g w m now room
    else if m.head.msgType = .dbStatus then
      some { g with workers := update g.workers w ((g.workers w).observeStatus m).2 }
    else some g

end Worker

section DbThread

/-- `replyResult` builds the message from the request and the result. -/
def replyMsg (task : Msg) (res : DbResult) : Msg where
  head :=
    { msgType := if task.head.msgType = .dbTaskRedis then .dbResultRedis else .dbResultMySql
      taskId := task.head.taskId
      dbShard := task.head.dbShard
      ctx := task.head.ctx
      epoch := task.head.epoch
      playerId := task.head.playerId
      session := task.head.session
      seq := task.head.seq
      module := task.head.module
      method := task.head.method
      srcWorkerId := task.head.srcWorkerId }
  body := res.encode

/-- The time of a pass over the results, and the room that it finds in the workers' queues. -/
structure Flush where
  now : Int := 0
  room : Nat → Msg → Bool := fun _ _ => true

def flushResults (c : Channel) (f : Flush) : DbSystem :=
  let send := fun k => sendToWorker cfg (f.room k)
  let (l, sent, gone) := (g.ledger c).flush f.now send
  let g :=
    { g with
      ledger := update g.ledger c l
      log := g.log ++ sent.map fun m => .sent c m.head.taskId m }
  (sent.filter (fun m => isAccepted (send 0 m)) ++ gone).foldl postWorker g

def replyResult (c : Channel) (task : Msg) (res : DbResult) (f : Flush) : DbSystem :=
  match (g.ledger c).finish task (replyMsg task res) with
  | none => { g with log := g.log ++ [.missing c task.head.taskId] }
  | some l =>
    flushResults cfg
      { g with
        ledger := update g.ledger c l
        log := g.log ++ [.recorded c task.head.taskId (replyMsg task res)] } c f

def conflictMsg (c : Channel) (task : Msg) : Msg where
  head :=
    { task.head with msgType := if c = .mysql then .dbResultMySql else .dbResultRedis }
  body := DbResult.encode
    { errcode := if c = .mysql then 1005 else 2004
      errmsg := text "taskId reused with different request"
      classification := .identityConflict }

def badBody (c : Channel) : DbResult :=
  { errcode := 1
    errmsg := if c = .mysql then text "decode db task failed" else text "decode redis task failed" }

def queueNotice (c : Channel) (notice : Msg) : DbSystem :=
  { g with ledger := update g.ledger c ((g.ledger c).queueNotice notice).2 }

/-- `hasCapacity`; `none` if the choice of the evicted entry is not one the scan can make. -/
def hasCapacity (c : Channel) (victim : Nat) : Option (Bool × DbSystem) :=
  ((g.ledger c).hasCapacity victim).map fun (ok, evicted, l) =>
    (ok, { g with
      ledger := update g.ledger c l
      log := g.log ++ if evicted = 0 then [] else [.evicted c evicted] })

/-- A decoded task is executed; what it gives is `res`. -/
def execute (c : Channel) (task : Msg) (dbTask : DbTask) (now : Int) (res : DbResult) (f : Flush) :
    DbSystem :=
  let g := { g with log := g.log ++ [Event.executed c task.head.taskId res.classification] }
  if c = .mysql then
    match g.retries.schedule task dbTask res 1 now with
    | some q => { g with retries := q }
    | none => g.replyResult cfg c task res f
  else g.replyResult cfg c task res f

/-- A task that was popped is admitted and handled. -/
def acceptTask (c : Channel) (task : Msg) (now : Int) (res : DbResult) (f : Flush) : DbSystem :=
  let out := (g.ledger c).accept task
  let g :=
    { g with
      ledger := update g.ledger c out.2
      log := g.log ++ [Event.admitted c task.head.taskId out.1] }
  match out.1 with
  | .conflict => (g.queueNotice c (conflictMsg c task)).flushResults cfg c f
  | .duplicate => g.flushResults cfg c f
  | .new =>
    match DbTask.decode task.body with
    | none => g.replyResult cfg c task (badBody c) f
    | some dbTask => g.execute cfg c task dbTask now res f

/-- A round of `mysqlLoop` or `redisLoop`: a task is popped if the ledger has room. -/
def round (c : Channel) (i victim : Nat) (now : Int) (res : DbResult) (f : Flush) :
    Option DbSystem :=
  (g.hasCapacity c victim).map fun (ok, g) =>
    match ok, (g.queue c)[i]? with
    | true, some task =>
      { g with queue := update g.queue c ((g.queue c).eraseIdx i) }.acceptTask cfg c task now res f
    | _, _ => g

/-- `processControls` for one message. -/
def processControl (c : Channel) (i : Nat) : Option DbSystem :=
  match (g.controls c)[i]? with
  | none => none
  | some m =>
    let out := (g.ledger c).handleControl m
    let g :=
      { g with
        controls := update g.controls c ((g.controls c).eraseIdx i)
        ledger := update g.ledger c out.2 }
    if m.head.dbControl = 2 then
      some (g.queueNotice c
        { head := { m.head with msgType := .dbStatus }
          body := [UInt8.ofNat (if out.1 then out.2.status m.head.taskId else 0)] })
    else some g

/-- What a pass over the retries works on: the results of its executions and the flushes of what it
completes, each used in order, and the system. -/
abbrev Retrying := (Nat → DbResult) × (Nat → Flush) × DbSystem

def retryExecute (e : RetryEntry) (s : Retrying) : DbResult × Retrying :=
  let (results, flushes, g) := s
  (results 0, fun k => results (k + 1), flushes,
    { g with log := g.log ++ [.executed .mysql e.request.head.taskId (results 0).classification] })

def retryComplete (task : Msg) (res : DbResult) (s : Retrying) : Retrying :=
  let (results, flushes, g) := s
  (results, fun k => flushes (k + 1), g.replyResult cfg .mysql task res (flushes 0))

def retryTick (now : Int) (results : Nat → DbResult) (flushes : Nat → Flush) : DbSystem :=
  let (retries, _, _, g') :=
    g.retries.tick now retryExecute (retryComplete cfg) (results, flushes, g)
  { g' with retries }

end DbThread

inductive Step where
  | submit (w : Nat) (request : Msg) (now : Int) (room : Msg → Bool) (victim : Nat)
  | sendDb (kind : Nat) (args : List Bytes) (head : MsgHead) (room : Msg → Bool)
  | tick (w : Nat) (now : Int) (room : Msg → Bool)
  | tickControls (w : Nat) (now : Int) (room : Msg → Bool)
  | receive (w i : Nat) (now : Int) (room : Msg → Bool)
  | round (c : Channel) (i victim : Nat) (now : Int) (res : DbResult) (f : Flush)
  | processControl (c : Channel) (i : Nat)
  | retryTick (now : Int) (results : Nat → DbResult) (flushes : Nat → Flush)
  | flushResults (c : Channel) (f : Flush)

def step (g : DbSystem) : Step → Option DbSystem
  | .submit w request now room victim => g.submitDbTask cfg w request now room victim
  | .sendDb kind args head room => g.sendDb cfg kind args head room
  | .tick w now room => g.tick cfg w now room
  | .tickControls w now room => g.tickControls cfg w now room
  | .receive w i now room => g.receive cfg w i now room
  | .round c i victim now res f => g.round cfg c i victim now res f
  | .processControl c i => g.processControl c i
  | .retryTick now results flushes => some (g.retryTick cfg now results flushes)
  | .flushResults c f => some (g.flushResults cfg c f)

end DbSystem

end Db
