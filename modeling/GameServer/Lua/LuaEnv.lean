import Mathlib.Data.List.Sort
import GameServer.Lib.Client
import GameServer.Lib.Run
import GameServer.Timer.TimerThread
import GameServer.Db.TaskDelivery
import GameServer.Db.RedisKey

/-!
# The scripts of a logic thread

Every logic thread has one Lua state, and beside it, in tables of its own, the callbacks
that scripts have registered: for the results of database tasks and for timers. A reload
makes a new state, runs the scripts of a directory in it, and takes it in place of the old
one if none of them fails. While they run, scripts call the same bindings as later. A state
that is closed runs the finalizers of its objects, and they call the bindings too.

The Lua library, the script files and the answers of other threads are given from outside.
What a script does between two of its calls is part of the script.
-/

namespace Lua

open Gateway (Bytes text)

structure LuaTimerInfo where
  fnPath : Bytes
  repeats : Bool := false
  playerId : Nat := 0
  deriving DecidableEq, Repr

/-- The context of a thread. A flag is false where the pointer is null. -/
structure LuaApiCtx where
  env : Bool := false
  bus : Bool := true
  timer : Bool := true
  workerId : Nat := 0
  redisNs : Db.RedisNamespace := {}
  redisShardCount : Nat := 1
  currentPlayerId : Nat := 0
  currentSession : Nat := 0
  currentSeq : Nat := 0
  currentEpoch : Nat := 0
  currentModule : Nat := 0
  currentMethod : Nat := 0
  deriving DecidableEq, Repr

/-- A call of a script that can reach the tables. -/
inductive ApiCall where
  | dbQuery (sql : Option Bytes) (params : Option (List Bytes)) (cb : Bytes)
  | dbExec (sql : Option Bytes) (params : Option (List Bytes)) (cb : Bytes)
  | dbRedis (args : Option (List Bytes)) (cb : Bytes)
  | timerAfter (ms : Int) (fn : Option Bytes)
  | timerEvery (ms : Int) (fn : Option Bytes)
  | timerCancel (id : Nat)
  deriving DecidableEq, Repr

inductive Answer where
  | fail (err : Bytes)
  | ok
  | id (n : Nat)
  deriving DecidableEq, Repr

/-- A script with the state it works on: whether it ended without an error, and the state. -/
abbrev Script (σ : Type) := Client ApiCall Answer (Bool × σ)

/-- What a function of a script is called with. -/
inductive Arg where
  | int (i : Int)
  | str (s : Bytes)
  | val (v : Db.Val)
  | table (reqType body : Bytes)

/-- The library with the states it makes. What runs in `lua_close` are the `__gc` functions that
scripts have set. -/
structure Library (σ : Type) where
  ref : σ → Int × σ
  packagePath : σ → Option Bytes
  setPackagePath : σ → Bytes → σ
  registerAll : σ → σ
  function : σ → Bytes → Option (List Arg → Script σ)
  bodyToTable : Bytes → Bytes → Bool
  close : σ → Client ApiCall Answer Unit

/-- The files that a load finds. A file that does not compile has no script. -/
structure Scripts (σ : Type) where
  readdir : Bytes → Option (List Bytes)
  loadfile : Bytes → Option (σ → Script σ)

/-- A state: whether the context is in its registry, and the rest of it. -/
structure LuaState (σ : Type) where
  apiCtx : Bool
  globals : σ

structure LuaEnv (σ : Type) where
  L : Option (LuaState σ) := none
  root : Bytes := []
  msghRef : Int := -2
  scriptFiles : List Bytes := []
  ctx : Bool := false
  dbPending : Table Nat Bytes := ∅
  nextCtx : Nat := 10000
  luaTimers : Table Nat LuaTimerInfo := ∅

/-- What other threads do at a call: the timer ids they take before it, and whether a
queue has room. -/
structure Verdict where
  taken : Nat := 0
  accepted : Bool := true

/-- The part of the process that the thread shares with others. -/
structure Outside where
  calls : Nat := 0
  nextTimerId : Nat := 1
  timerCalls : List Timer.TimerOp := []
  dbTasks : List Db.Msg := []

structure Worker (σ : Type) where
  env : LuaEnv σ := {}
  apiCtx : LuaApiCtx := {}
  outside : Outside := {}
  pendingLuaVersion : Nat := 0
  pendingLuaDir : Bytes := []
  myLuaVersion : Nat := 0

variable {σ : Type}

/-! ### The bindings -/

/-- A call that has passed its checks. -/
inductive Request where
  | db (msgType : Db.MsgType) (task : Db.DbTask) (shard : Nat) (cb : Bytes)
  | timer (ms : Int) (fn : Bytes) (repeats : Bool)
  | cancel (id : Nat)

/-- `SendDb` for SQL. -/
def sqlRequest (kind : Nat) (sql : Option Bytes) (params : Option (List Bytes)) (cb : Bytes) :
    Except Bytes Request :=
  match sql with
  | none | some [] => .error (text "db.query(sql, params?, cb)")
  | some sql =>
    if cb.isEmpty then .error (text "callback required")
    else .ok (.db .dbTaskMySql { kind, args := sql :: params.getD [] } 0 cb)

/-- `SendDb` for Redis. -/
def redisRequest (c : LuaApiCtx) (args : Option (List Bytes)) (cb : Bytes) :
    Except Bytes Request :=
  match args with
  | none | some [] => .error (text "db.redis(args[], cb)")
  | some args => do
    let shard ← Db.validateRedisCommand c.redisNs c.redisShardCount args
    if cb.isEmpty then .error (text "callback required")
    else .ok (.db .dbTaskRedis { kind := 3, args } shard cb)

/-- `AddTimer`. -/
def timerRequest (ms : Int) (fn : Option Bytes) (repeats : Bool) : Except Bytes Request :=
  match fn with
  | none => .error (text "timer.after(ms, fnPath)")
  | some fn =>
    if ms ≤ 0 then .error (text "timer.after(ms, fnPath)") else .ok (.timer ms fn repeats)

def cancelRequest (id : Nat) : Except Bytes Request :=
  if id = 0 then .error (text "timer.cancel(id)") else .ok (.cancel id)

/-- The checks of a binding that has found its context. -/
def ApiCall.checked (c : LuaApiCtx) (q : ApiCall) : Except Bytes Request :=
  let db (r : Except Bytes Request) := if !c.bus then .error (text "no api context") else r
  match q with
  | .dbQuery sql params cb => db (sqlRequest 1 sql params cb)
  | .dbExec sql params cb => db (sqlRequest 2 sql params cb)
  | .dbRedis args cb => db (redisRequest c args cb)
  | .timerAfter ms fn => timerRequest ms fn false
  | .timerEvery ms fn => timerRequest ms fn true
  | .timerCancel id => cancelRequest id

/-- All that a binding does before it turns to the environment. -/
def ApiCall.request (c : Option LuaApiCtx) (q : ApiCall) : Except Bytes (LuaApiCtx × Request) :=
  match c with
  | none => .error (text "no api context")
  | some c =>
    if !c.env then .error (text "no api context")
    else
      match q.checked c with
      | .error err => .error err
      | .ok r => .ok (c, r)

/-! ### The tables -/

namespace LuaEnv

variable (e : LuaEnv σ)

def registerDbAck (fnPath : Bytes) : Nat × LuaEnv σ :=
  (e.nextCtx,
    { e with dbPending := e.dbPending.insert e.nextCtx fnPath, nextCtx := e.nextCtx + 1 })

end LuaEnv

/-- The command for a timer of a script. -/
def timerOp (c : LuaApiCtx) (timerId playerId session epoch : Nat) (delayMs : Int)
    (repeats : Bool) : Timer.TimerOp where
  kind := .ADD
  timerId
  ownerWorkerId := c.workerId
  intervalMs := if 0 < delayMs then UInt64.ofInt delayMs else 1
  repeats
  Module := 2
  Method := 1
  playerId
  session
  epoch

namespace Worker

variable (w : Worker σ)

/-- The context that `ctx_` points to. -/
def context : Option LuaApiCtx := if w.env.ctx then some w.apiCtx else none

/-- The context that the bindings find in the registry of the running state. -/
def registry : Option LuaApiCtx :=
  match w.env.L with
  | some L => if L.apiCtx then some w.apiCtx else none
  | none => none

def addLuaTimer (v : Verdict) (playerId session epoch : Nat) (delayMs : Int) (repeats : Bool)
    (fnPath : Bytes) : Nat × Worker σ :=
  match w.context with
  | none => (0, w)
  | some c =>
    if !c.timer then (0, w)
    else
      let timerId := w.outside.nextTimerId + v.taken
      let op := timerOp c timerId playerId session epoch delayMs repeats
      let w := { w with outside := { w.outside with
        nextTimerId := timerId + 1, timerCalls := w.outside.timerCalls ++ [op] } }
      if !v.accepted then (0, w)
      else
        (timerId, { w with env := { w.env with
          luaTimers := w.env.luaTimers.insert timerId { fnPath, repeats, playerId } } })

/-- `ctx_->timer->cancel`, if there is a timer service. -/
def cancelTimer (timerId : Nat) : Worker σ :=
  if w.context.any (·.timer) then
    { w with outside := { w.outside with
      timerCalls := w.outside.timerCalls ++ [{ kind := .CANCEL, timerId }] } }
  else w

def cancelLuaTimer (timerId : Nat) : Worker σ :=
  let w := w.cancelTimer timerId
  { w with env := { w.env with luaTimers := w.env.luaTimers.erase timerId } }

/-- `SendDb` from the registration of the callback on. -/
def sendDb (v : Verdict) (c : LuaApiCtx) (msgType : Db.MsgType) (task : Db.DbTask) (shard : Nat)
    (cb : Bytes) : Answer × Worker σ :=
  let (ctx, env) := w.env.registerDbAck cb
  let head : Db.MsgHead :=
    { msgType, module := 1, playerId := c.currentPlayerId, session := c.currentSession,
      epoch := c.currentEpoch, srcWorkerId := c.workerId, ctx, dbShard := shard }
  let w := { w with env }
  if !v.accepted then (.fail (text "db queue full"), w)
  else
    (.id ctx, { w with outside := { w.outside with
      dbTasks := w.outside.dbTasks ++ [{ head, body := task.encode.getD [] }] } })

/-- What the environment does for a call that has passed its checks. -/
def answer (v : Verdict) (c : LuaApiCtx) : Request → Answer × Worker σ
  | .db msgType task shard cb => w.sendDb v c msgType task shard cb
  | .timer ms fn repeats =>
    let (id, w) :=
      w.addLuaTimer v c.currentPlayerId c.currentSession c.currentEpoch ms repeats fn
    (if id = 0 then .fail (text "timer service unavailable") else .id id, w)
  | .cancel id => (.ok, w.cancelLuaTimer id)

def counted : Worker σ :=
  { w with outside := { w.outside with calls := w.outside.calls + 1 } }

/-- One call of a script, whose binding has found this context. -/
def reply (nature : Nat → Verdict) (found : Option LuaApiCtx) (w : Worker σ) (q : ApiCall) :
    Answer × Worker σ :=
  match q.request found with
  | .error err => (.fail err, w.counted)
  | .ok (c, r) => w.counted.answer (nature w.outside.calls) c r

/-- One call of a script on the running state. -/
def serve (nature : Nat → Verdict) (w : Worker σ) (q : ApiCall) : Answer × Worker σ :=
  w.reply nature w.registry q

end Worker

/-! ### Loading -/

def isLuaFile (n : Bytes) : Bool := !(n.length < 4) && n.drop (n.length - 4) == text ".lua"

/-- `ScanLuaDir`: the scripts of a directory in the order of their names. -/
def scanLuaDir (readdir : Bytes → Option (List Bytes)) (absDir relPrefix : Bytes)
    (out : List Bytes) : List Bytes :=
  match readdir absDir with
  | none => out
  | some entries =>
    out ++ ((entries.filter isLuaFile).insertionSort (· ≤ ·)).map fun n =>
      if relPrefix.isEmpty then n else relPrefix ++ text "/" ++ n

/-- First the framework, then the entry points, then the modules. -/
def listScripts (readdir : Bytes → Option (List Bytes)) (root : Bytes) : List Bytes :=
  let out := scanLuaDir readdir (root ++ text "/core") (text "core") []
  let out := scanLuaDir readdir root [] out
  scanLuaDir readdir (root ++ text "/module") (text "module") out

def searchPath (root : Bytes) : Bytes :=
  root ++ text "/?.lua;" ++ root ++ text "/module/?.lua;" ++ root ++ text "/core/?.lua;"

section Load

variable (lib : Library σ) (scripts : Scripts σ) (nature : Nat → Verdict)

def doFile (root relPath : Bytes) (L : σ) : Script σ :=
  match scripts.loadfile (root ++ text "/" ++ relPath) with
  | none => .done (false, L)
  | some chunk => chunk L

/-- The loop over the files, up to the first that fails. -/
def doFiles (root : Bytes) : List Bytes → σ → Script σ
  | [], L => .done (true, L)
  | f :: files, L => (doFile scripts root f L).bind fun (ok, L) =>
      if ok then doFiles root files L else .done (false, L)

/-- What is put into a state before the scripts run: the handler, the path, the bindings. -/
def prepare (root : Bytes) (L : σ) : Int × σ :=
  let (msghRef, L) := lib.ref L
  let L := lib.setPackagePath L (searchPath root ++ (lib.packagePath L).getD [])
  (msghRef, lib.registerAll L)

/-- All scripts of a load as one. -/
def loadProgram (root : Bytes) (fresh : σ) : Script σ :=
  doFiles scripts root (listScripts scripts.readdir root) (prepare lib root fresh).2

namespace Worker

variable (w : Worker σ)

/-- The calls of a finalizer. Its bindings look into the registry of the state that is closed. -/
def closing (L : LuaState σ) (w : Worker σ) (q : ApiCall) : Answer × Worker σ :=
  w.reply nature (if L.apiCtx then some w.apiCtx else none) q

/-- `lua_close`. -/
def close : Option (LuaState σ) → Worker σ
  | none => w
  | some L => ((lib.close L.globals).run (closing nature L) w).2

/-- The thread when the first script begins to run. -/
def loading (fresh : σ) : Worker σ :=
  let (msghRef, globals) := prepare lib w.env.root fresh
  { w with env := { w.env with
    L := some { apiCtx := w.env.ctx, globals }
    msghRef
    scriptFiles := listScripts scripts.readdir w.env.root } }

def loadScripts (fresh : σ) : Bool × Worker σ :=
  let program := loadProgram lib scripts w.env.root fresh
  let ((ok, globals), w) := program.run (serve nature) (w.loading lib scripts fresh)
  (ok, { w with env := { w.env with L := some { apiCtx := w.env.ctx, globals } } })

def reload (fresh : Option σ) : Bool × Worker σ :=
  match fresh with
  | none => (false, w)
  | some fresh =>
    let old := w.env.L
    let (ok, w) := w.loadScripts lib scripts nature fresh
    if ok then
      let w := { w with env := { w.env with luaTimers := ∅, dbPending := ∅ } }
      (true, w.close lib nature old)
    else
      let w := w.close lib nature w.env.L
      (false, { w with env := { w.env with L := old } })

def init (root : Bytes) (ctx : Bool) (fresh : Option σ) : Bool × Worker σ :=
  let w := { w with env := { w.env with root, ctx } }
  w.reload lib scripts nature fresh

def shutdown : Worker σ :=
  let w := w.close lib nature w.env.L
  { w with env := { w.env with L := none, luaTimers := ∅, dbPending := ∅ } }

/-- The broadcast of a version. -/
def onReload (version : Nat) (dir : Bytes) : Worker σ :=
  if version ≤ w.pendingLuaVersion then w
  else { w with pendingLuaDir := dir, pendingLuaVersion := version }

def doReloadIfNeeded (fresh : Option σ) : Worker σ :=
  let target := w.pendingLuaVersion
  if target = 0 ∨ target ≤ w.myLuaVersion then w
  else
    let (ok, w) := w.init lib scripts nature w.pendingLuaDir true fresh
    if ok then { w with myLuaVersion := target } else w

end Worker

end Load

/-! ### Calls into the scripts -/

namespace Worker

variable (lib : Library σ) (nature : Nat → Verdict) (w : Worker σ)

/-- `PushFn`. -/
def pushFn (path : Bytes) : Option (LuaState σ × (List Arg → Script σ)) :=
  match w.env.L with
  | none => none
  | some L => if path.isEmpty then none else (L, ·) <$> lib.function L.globals path

/-- `Call` of a function on the running state, with an error or without. -/
def call (L : LuaState σ) (script : Script σ) : Bool × Worker σ :=
  let ((ok, globals), w) := script.run (serve nature) w
  (ok, { w with env := { w.env with L := some { L with globals } } })

/-- The function at a path is called, if there is one. -/
def callAt (path : Bytes) (args : List Arg) : Bool × Worker σ :=
  match w.pushFn lib path with
  | none => (false, w)
  | some (L, f) => w.call nature L (f args)

def dispatchDbAck (ctx : Nat) (errcode : Int) (errmsg : Bytes) (data : Db.Val) : Worker σ :=
  match w.env.L with
  | none => w
  | some _ =>
    match w.env.dbPending.lookup ctx with
    | none => w
    | some fn =>
      let w := { w with env := { w.env with dbPending := w.env.dbPending.erase ctx } }
      (w.callAt lib nature fn [.int ctx, .int errcode, .str errmsg, .val data]).2

def onLuaTimerFire (timerId playerId : Nat) : Worker σ :=
  match w.env.L with
  | none => w
  | some _ =>
    match w.env.luaTimers.lookup timerId with
    | none => w
    | some info =>
      let w' := { w with env := { w.env with luaTimers := w.env.luaTimers.erase timerId } }
      if info.playerId ≠ 0 ∧ info.playerId ≠ playerId then w'
      else
        let w := if info.repeats then w else w'
        (w.callAt lib nature info.fnPath [.int timerId]).2

def callI64 (path : Bytes) (args : List Int) : Bool × Worker σ :=
  w.callAt lib nature path (args.map .int)

/-- The timers of a player, in the order of the map. -/
def timersOf (playerId : Nat) : List Nat :=
  (w.env.luaTimers.entries.filter fun r => r.2.playerId = playerId).map (·.1)
    |>.insertionSort (· ≤ ·)

def onPlayerLogout (playerId : Nat) : Worker σ :=
  match w.env.L with
  | none => w
  | some _ =>
    let w := if w.context.any (·.timer) then (w.timersOf playerId).foldl cancelLuaTimer w else w
    (w.callAt lib nature (text "player.on_logout") [.int playerId]).2

/-- The function that a message is for, with the type of its request. -/
structure Route where
  lua_fn : Bytes
  req_type : Bytes
  Module : Nat
  Method : Nat

inductive DispatchResult where
  | kOk
  | kNoFn
  | kLuaError
  deriving DecidableEq, Repr

/-- `DispatchC2S`. The context says who calls while the function runs. -/
def dispatchC2S (route : Route) (session playerId seq epoch : Nat) (body : Bytes) :
    DispatchResult × Worker σ :=
  if w.env.L.isNone then (.kLuaError, w)
  else
    match w.pushFn lib route.lua_fn with
    | none => (.kNoFn, w)
    | some (L, f) =>
      if !route.req_type.isEmpty && !lib.bodyToTable route.req_type body then (.kLuaError, w)
      else
        let request := if route.req_type.isEmpty then .table [] [] else .table route.req_type body
        let enter (w : Worker σ) (c : LuaApiCtx) :=
          if w.env.ctx then { w with apiCtx := c } else w
        let w := enter w { w.apiCtx with
          currentSession := session, currentPlayerId := playerId, currentSeq := seq,
          currentEpoch := epoch, currentModule := route.Module, currentMethod := route.Method }
        let (ok, w) := w.call nature L (f [.int session, .int playerId, request])
        let w := enter w { w.apiCtx with
          currentSession := 0, currentPlayerId := 0, currentSeq := 0, currentEpoch := 0,
          currentModule := 0, currentMethod := 0 }
        (if ok then .kOk else .kLuaError, w)

end Worker

/-! ### Runs of a thread -/

/-- What a thread does with its environment. `context` is a change of its own to the context. -/
inductive Step (σ : Type) where
  | context (c : LuaApiCtx)
  | init (root : Bytes) (ctx : Bool) (fresh : Option σ) (scripts : Scripts σ)
  | reload (fresh : Option σ) (scripts : Scripts σ)
  | onReload (version : Nat) (dir : Bytes)
  | doReloadIfNeeded (fresh : Option σ) (scripts : Scripts σ)
  | shutdown
  | dispatchC2S (route : Worker.Route) (session playerId seq epoch : Nat) (body : Bytes)
  | dispatchDbAck (ctx : Nat) (errcode : Int) (errmsg : Bytes) (data : Db.Val)
  | onLuaTimerFire (timerId playerId : Nat)
  | onPlayerLogout (playerId : Nat)
  | callI64 (path : Bytes) (args : List Int)

def step (lib : Library σ) (nature : Nat → Verdict) (w : Worker σ) : Step σ → Option (Worker σ)
  | .context c => some { w with apiCtx := c }
  | .init root ctx fresh scripts => some (w.init lib scripts nature root ctx fresh).2
  | .reload fresh scripts => some (w.reload lib scripts nature fresh).2
  | .onReload version dir => some (w.onReload version dir)
  | .doReloadIfNeeded fresh scripts => some (w.doReloadIfNeeded lib scripts nature fresh)
  | .shutdown => some (w.shutdown lib nature)
  | .dispatchC2S route session playerId seq epoch body =>
    some (w.dispatchC2S lib nature route session playerId seq epoch body).2
  | .dispatchDbAck ctx errcode errmsg data =>
    some (w.dispatchDbAck lib nature ctx errcode errmsg data)
  | .onLuaTimerFire timerId playerId => some (w.onLuaTimerFire lib nature timerId playerId)
  | .onPlayerLogout playerId => some (w.onPlayerLogout lib nature playerId)
  | .callI64 path args => some (w.callI64 lib nature path args).2

end Lua
