import GameServer.Lua.LuaEnv
import GameServer.Db.DbThread
import GameServer.Scene.LogicThread

/-!
# The database calls of the scripts

A script's database call registers its callback and then asks the task table of the thread to
take the task. The result comes back as a message: the table settles the task, the actor of the
call is looked at again, and only then the callback is taken out of its table and called. Between
the two the player may get a new session or go.

A step of the thread is split at the call into the scripts: what is done before, the function
with what it works on, and what is done after.
-/

namespace Scene.PlayerManager

def validateEpoch (m : PlayerManager) (playerId epoch : Nat) : Bool :=
  match m.get playerId with
  | none => false
  | some p => epoch = 0 ∨ p.epoch = epoch

end Scene.PlayerManager

namespace Db.PendingDbTasks

/-- The record that gives way in a full table: the one that is named, or else the first. -/
def victim (p : PendingDbTasks) (now : Int) (named : Nat) : Nat :=
  if (p.tasks.lookup named).any (evictable now) then named
  else ((p.tasks.entries.find? fun r => evictable now r.2).map (·.1)).getD named

end Db.PendingDbTasks

namespace Lua

open Gateway (Bytes text)

/-- A call of a callback: with which result, and the epoch of the player's actor then. -/
structure Fired where
  ctx : Nat
  result : Db.Msg
  actorEpoch : Option Nat
  deriving DecidableEq, Repr

/-- A logic thread, as far as the calls of the scripts and their results go. `held` are the task
numbers whose results the loads and the saves of players wait for. The last two are records:
the tasks of scripts that were taken, and the callbacks that were called. -/
structure ScriptThread (σ : Type) where
  worker : Worker σ := {}
  pendingTasks : Db.PendingDbTasks := {}
  players : Scene.PlayerManager := {}
  held : List Nat := []
  nextTaskId : Nat := 1
  issued : List Db.Msg := []
  fired : List Fired := []

/-- What else there is when the task table is asked: the time, the room in the queue, the task
numbers that other threads have taken, and the record that gives way. -/
structure Round where
  now : Int := 0
  room : Db.Msg → Bool := fun _ => true
  taken : Nat := 0
  victim : Nat := 0

/-- The message that `SendDb` makes. -/
def dbRequest (c : LuaApiCtx) (msgType : Db.MsgType) (task : Db.DbTask) (shard ctx : Nat) :
    Db.Msg where
  head :=
    { msgType, module := 1, playerId := c.currentPlayerId, session := c.currentSession,
      epoch := c.currentEpoch, srcWorkerId := c.workerId, ctx, dbShard := shard }
  body := task.encode.getD []

variable {σ : Type}

/-! ### A step of the environment, split at its call -/

namespace Worker

variable (lib : Library σ) (w : Worker σ)

/-- The thread when the function begins, and the function. -/
abbrev Entered (σ : Type) := Worker σ × Option (LuaState σ × Script σ)

def enterAt (path : Bytes) (args : List Arg) : Entered σ :=
  (w, (w.pushFn lib path).map fun (L, f) => (L, f args))

/-- The context for a call, if there is one. -/
def within (c : LuaApiCtx) : Worker σ := if w.env.ctx then { w with apiCtx := c } else w

/-- A step up to the call. -/
def enter : Step σ → Option (Entered σ)
  | .dispatchC2S route session playerId seq epoch body => some <|
    if w.env.L.isNone then (w, none)
    else
      match w.pushFn lib route.lua_fn with
      | none => (w, none)
      | some (L, f) =>
        if !route.req_type.isEmpty && !lib.bodyToTable route.req_type body then (w, none)
        else
          let request := if route.req_type.isEmpty then .table [] [] else .table route.req_type body
          (w.within { w.apiCtx with
            currentSession := session, currentPlayerId := playerId, currentSeq := seq,
            currentEpoch := epoch, currentModule := route.Module, currentMethod := route.Method },
            some (L, f [.int session, .int playerId, request]))
  | .dispatchDbAck ctx errcode errmsg data => some <|
    match w.env.L with
    | none => (w, none)
    | some _ =>
      match w.env.dbPending.lookup ctx with
      | none => (w, none)
      | some fn =>
        { w with env := { w.env with dbPending := w.env.dbPending.erase ctx } }.enterAt lib fn
          [.int ctx, .int errcode, .str errmsg, .val data]
  | .onLuaTimerFire timerId playerId => some <|
    match w.env.L with
    | none => (w, none)
    | some _ =>
      match w.env.luaTimers.lookup timerId with
      | none => (w, none)
      | some info =>
        let w' := { w with env := { w.env with luaTimers := w.env.luaTimers.erase timerId } }
        if info.playerId ≠ 0 ∧ info.playerId ≠ playerId then (w', none)
        else (if info.repeats then w else w').enterAt lib info.fnPath [.int timerId]
  | .onPlayerLogout playerId => some <|
    match w.env.L with
    | none => (w, none)
    | some _ =>
      (if w.context.any (·.timer) then (w.timersOf playerId).foldl cancelLuaTimer w else w).enterAt
        lib (text "player.on_logout") [.int playerId]
  | .callI64 path args => some (w.enterAt lib path (args.map .int))
  | _ => none

/-- What is left to do after the call. -/
def leave : Step σ → Worker σ
  | .dispatchC2S .. =>
    w.within { w.apiCtx with
      currentSession := 0, currentPlayerId := 0, currentSeq := 0, currentEpoch := 0,
      currentModule := 0, currentMethod := 0 }
  | _ => w

/-- The rest of a step that has come to its call. -/
def finish (nature : Nat → Verdict) (s : Step σ) : Entered σ → Worker σ
  | (w, none) => w
  | (w, some (L, script)) => (w.call nature L script).2.leave s

theorem finish_enterAt (nature : Nat → Verdict) {s : Step σ} (hs : ∀ w : Worker σ, w.leave s = w)
    (path : Bytes) (args : List Arg) :
    finish nature s (w.enterAt lib path args) = (w.callAt lib nature path args).2 := by
  unfold enterAt callAt
  cases w.pushFn lib path with
  | none => rfl
  | some Lf => exact hs _

/-- Nothing is lost by the split. -/
theorem step_of_enter (nature : Nat → Verdict) {s : Step σ} {e : Entered σ}
    (h : w.enter lib s = some e) : step lib nature w s = some (finish nature s e) := by
  cases s with
  | dispatchC2S route session playerId seq epoch body =>
    cases h
    refine congrArg some ?_
    dsimp only [dispatchC2S]
    cases w.env.L.isNone with
    | true => rfl
    | false =>
      cases w.pushFn lib route.lua_fn with
      | none => rfl
      | some Lf =>
        dsimp only
        cases !route.req_type.isEmpty && !lib.bodyToTable route.req_type body with
        | true => rfl
        | false => rfl
  | dispatchDbAck ctx errcode errmsg data =>
    cases h
    refine congrArg some ?_
    dsimp only [dispatchDbAck]
    cases w.env.L with
    | none => rfl
    | some L =>
      cases w.env.dbPending.lookup ctx with
      | none => rfl
      | some fn => exact (finish_enterAt lib _ nature (fun _ => rfl) _ _).symm
  | onLuaTimerFire timerId playerId =>
    cases h
    refine congrArg some ?_
    dsimp only [onLuaTimerFire]
    cases w.env.L with
    | none => rfl
    | some L =>
      cases w.env.luaTimers.lookup timerId with
      | none => rfl
      | some info =>
        dsimp only
        split
        · rfl
        · exact (finish_enterAt lib _ nature (fun _ => rfl) _ _).symm
  | onPlayerLogout playerId =>
    cases h
    refine congrArg some ?_
    dsimp only [onPlayerLogout]
    cases w.env.L with
    | none => rfl
    | some L => exact (finish_enterAt lib _ nature (fun _ => rfl) _ _).symm
  | callI64 path args =>
    cases h
    exact congrArg some (finish_enterAt lib w nature (fun _ => rfl) path _).symm
  | _ => cases h

end Worker

/-! ### The thread -/

namespace ScriptThread

variable (lib : Library σ) (cfg : Db.DeliveryConfig) (nature : Nat → Verdict) (rounds : Nat → Round)
  (t : ScriptThread σ)

/-- A message as `submitDbTask` gives it to the table, under its number. -/
def numbered (request : Db.Msg) (r : Round) : Db.Msg :=
  { request with head :=
    { request.head with
      srcWorkerId := t.worker.apiCtx.workerId
      taskId :=
        if request.head.taskId = 0 then t.nextTaskId + r.taken else request.head.taskId } }

def submitDbTask (request : Db.Msg) (r : Round) : Bool × ScriptThread σ :=
  let request := { request with head :=
    { request.head with srcWorkerId := t.worker.apiCtx.workerId } }
  let fresh := t.nextTaskId + r.taken
  let (registered, pendingTasks, _) :=
    (t.pendingTasks.submit request r.now (Db.DbSystem.sendToDb cfg r.room) fresh
      (t.pendingTasks.victim r.now r.victim)).getD (false, t.pendingTasks, [])
  (registered,
    { t with pendingTasks, nextTaskId := if request.head.taskId = 0 then fresh + 1 else fresh })

/-- The task table is asked for a database call; for another call there is nothing to ask. -/
def consult (q : ApiCall) : Verdict × ScriptThread σ :=
  match q.request t.worker.registry with
  | .ok (c, .db msgType task shard _) =>
    let r := rounds t.worker.outside.calls
    let request := dbRequest c msgType task shard t.worker.env.nextCtx
    let (accepted, t') := t.submitDbTask cfg request r
    ({ accepted },
      { t' with issued := t.issued ++ if accepted then [t.numbered request r] else [] })
  | _ => (nature t.worker.outside.calls, t)

/-- One call of a script. -/
def serve (t : ScriptThread σ) (q : ApiCall) : Answer × ScriptThread σ :=
  let (v, t') := t.consult cfg nature rounds q
  let (a, w) := t.worker.serve (fun _ => v) q
  (a, { t' with worker := w })

def call (L : LuaState σ) (script : Script σ) : ScriptThread σ :=
  let ((_, globals), t) := script.run (serve cfg nature rounds) t
  { t with worker := { t.worker with env := { t.worker.env with L := some { L with globals } } } }

/-- What is still to be done for a step: a step of the environment, and the record for it if it
calls a function. -/
abbrev Todo (σ : Type) := Option (Step σ × List Fired)

/-- A message of a client, for a function of a script: the player's actor must be that of the
session. -/
def onNetMsg (route : Worker.Route) (session playerId seq : Nat) (body : Bytes) : Todo σ :=
  if playerId = 0 then some (.dispatchC2S route session playerId seq 0 body, [])
  else
    match t.players.get playerId with
    | none => none
    | some p =>
      if p.session = session then some (.dispatchC2S route session playerId seq p.epoch body, [])
      else none

def onTimer (timerId playerId epoch : Nat) : Todo σ :=
  if playerId ≠ 0 ∧ !t.players.validateEpoch playerId epoch then none
  else some (.onLuaTimerFire timerId playerId, [])

def tick (r : Round) : Option (ScriptThread σ) :=
  (t.pendingTasks.tick r.now (Db.DbSystem.sendToDb cfg r.room)).map fun (pendingTasks, _) =>
    { t with pendingTasks }

def tickControls (r : Round) : Option (ScriptThread σ) :=
  (t.pendingTasks.tickControls r.now (Db.DbSystem.sendToDbControl cfg r.room)).map
    fun (pendingTasks, _) => { t with pendingTasks }

/-- The epoch of the actor that a player has. -/
def actorEpoch (playerId : Nat) : Option Nat := (t.players.get playerId).map (·.epoch)

/-- `onDbResult` from the task table on. -/
def deliver (m : Db.Msg) (res : Db.DbResult) : Todo σ :=
  if m.head.taskId ∈ t.held then none
  else if m.head.playerId ≠ 0 ∧ !t.players.validateEpoch m.head.playerId m.head.epoch then none
  else if m.head.ctx = 0 then none
  else
    some (.dispatchDbAck m.head.ctx res.errcode res.errmsg res.data,
      [{ ctx := m.head.ctx, result := m, actorEpoch := t.actorEpoch m.head.playerId }])

def onDbResult (m : Db.Msg) (r : Round) : Option (ScriptThread σ × Todo σ) :=
  match Db.DbResult.decode m.body with
  | none => some (t, none)
  | some res =>
    if m.head.taskId = 0 then some (t, t.deliver m res)
    else
      match t.pendingTasks.complete m r.now with
      | (true, pendingTasks) => some ({ t with pendingTasks }, t.deliver m res)
      | (false, _) =>
        (tickControls cfg
          { t with pendingTasks := (t.pendingTasks.acknowledgeDuplicate m).2 } r).map (·, none)

end ScriptThread

/-- What a logic thread does. Tasks of its own have no callback, and a number that it has taken
before. Every result has the number of its task. -/
inductive ThreadStep where
  | getOrCreate (playerId session : Nat)
  | renewEpoch (playerId : Nat)
  | remove (playerId : Nat)
  | onNetMsg (route : Worker.Route) (session playerId seq : Nat) (body : Bytes)
  | onTimer (timerId playerId epoch : Nat)
  | onPlayerLogout (playerId : Nat)
  | callI64 (path : Bytes) (args : List Int)
  | newTaskId (r : Round)
  | submitDbTask (request : Db.Msg) (r : Round)
  | release (taskId : Nat)
  | tick (r : Round)
  | tickControls (r : Round)
  | observeStatus (m : Db.Msg)
  | onDbResult (m : Db.Msg) (r : Round)

namespace ScriptThread

variable (lib : Library σ) (cfg : Db.DeliveryConfig) (nature : Nat → Verdict) (rounds : Nat → Round)
  (t : ScriptThread σ)

/-- A step up to the step of the environment that belongs to it. -/
def prepare : ThreadStep → Option (ScriptThread σ × Todo σ)
  | .getOrCreate playerId session =>
    (t.players.getOrCreate playerId session).map fun (_, players) => ({ t with players }, none)
  | .renewEpoch playerId => some ({ t with players := t.players.renewEpoch playerId }, none)
  | .remove playerId => some ({ t with players := t.players.remove playerId }, none)
  | .onNetMsg route session playerId seq body =>
    some (t, t.onNetMsg route session playerId seq body)
  | .onTimer timerId playerId epoch => some (t, t.onTimer timerId playerId epoch)
  | .onPlayerLogout playerId => some (t, some (.onPlayerLogout playerId, []))
  | .callI64 path args => some (t, some (.callI64 path args, []))
  | .newTaskId r =>
    let id := t.nextTaskId + r.taken
    some ({ t with held := id :: t.held, nextTaskId := id + 1 }, none)
  | .submitDbTask request r =>
    if request.head.ctx = 0 ∧ (request.head.taskId = 0 ∨ request.head.taskId ∈ t.held) then
      some ((t.submitDbTask cfg request r).2, none)
    else none
  | .release taskId => some ({ t with held := t.held.filter (· ≠ taskId) }, none)
  | .tick r => (t.tick cfg r).map (·, none)
  | .tickControls r => (t.tickControls cfg r).map (·, none)
  | .observeStatus m => some ({ t with pendingTasks := (t.pendingTasks.observeStatus m).2 }, none)
  | .onDbResult m r => if m.head.taskId = 0 then none else t.onDbResult cfg m r

/-- What is still to be done, up to the call into the scripts. -/
def enterTodo : Todo σ → Option (ScriptThread σ × Option (Step σ × LuaState σ × Script σ))
  | none => some (t, none)
  | some (s, log) =>
    (t.worker.enter lib s).map fun
      | (w, none) => ({ t with worker := w }, none)
      | (w, some (L, script)) =>
        ({ t with worker := w, fired := t.fired ++ log }, some (s, L, script))

/-- A step up to its call into the scripts. -/
def enter (l : ThreadStep) :
    Option (ScriptThread σ × Option (Step σ × LuaState σ × Script σ)) :=
  (t.prepare cfg l).bind fun (t, todo) => t.enterTodo lib todo

/-- The rest of the step. -/
def finish : ScriptThread σ × Option (Step σ × LuaState σ × Script σ) → ScriptThread σ
  | (t, none) => t
  | (t, some (s, L, script)) =>
    let t := t.call cfg nature rounds L script
    { t with worker := t.worker.leave s }

def step (l : ThreadStep) : Option (ScriptThread σ) :=
  (t.enter lib cfg l).map (finish cfg nature rounds)

/-- A thread whose scripts are loaded. -/
def start (L : LuaState σ) (c : LuaApiCtx) : ScriptThread σ where
  worker := { env := { L := some L, ctx := true }, apiCtx := c }
  pendingTasks := { indexed := cfg.indexed }

end ScriptThread

end Lua
