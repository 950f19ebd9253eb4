import Mathlib.Logic.Function.Basic

/-!
# Tasks that wait for a worker

The network thread hands a task to a worker's queue. What the queue does not take
now waits here, in order, one waiting line for each worker: business tasks within
limits and until a deadline, lifecycle tasks for as long as it takes.

`submits`, `id` and `log` number the submitted messages and record what becomes of
each. No function reads them.
-/

namespace Net

inductive DispatchResult where
  | kAccepted | kBackpressure | kTargetStopped | kInvalidTarget | kInvalidMessage
  deriving DecidableEq, Repr

inductive Admission where
  | accepted | pending | busy | internalError
  deriving DecidableEq, Repr

inductive ErrorCode where
  | ERROR_CODE_PENDING_TIMEOUT | ERROR_CODE_PLAYER_SESSION_INVALID | ERROR_CODE_INTERNAL
  deriving DecidableEq, Repr

/-- The fields of a message that are read here. -/
structure PendingMsg where
  session : Nat
  body : List UInt8
  deriving DecidableEq, Repr

structure Limits where
  maxBusinessTasks : Nat := 256
  maxBusinessBytes : Nat := 1024 * 1024
  businessTimeoutMs : Nat := 500
  perWorkerAttempts : Nat := 32
  globalAttempts : Nat := 128
  retryIntervalMs : Nat := 10

def Limits.valid (l : Limits) : Bool :=
  l.maxBusinessTasks ≠ 0 && l.maxBusinessBytes ≠ 0 && l.businessTimeoutMs ≠ 0 &&
    l.businessTimeoutMs ≤ 3600000 && l.perWorkerAttempts ≠ 0 && l.globalAttempts ≠ 0 &&
    l.retryIntervalMs ≠ 0 && l.retryIntervalMs ≤ 1000

/-- What the constructor does not refuse. The size of a `Task` is the compiler's. -/
structure PendingConfig where
  workers : Nat
  limits : Limits
  sizeofTask : Nat
  workers_pos : 0 < workers
  limits_valid : limits.valid = true

/-- The three counters of the contents may fall below zero if the code lets them. -/
structure Stats where
  businessTasks : Int := 0
  businessBytes : Int := 0
  lifecycleTasks : Int := 0
  accepted : Nat := 0
  busy : Nat := 0
  expired : Nat := 0
  stale : Nat := 0
  internalErrors : Nat := 0
  directBusy : Nat := 0
  taskLimitBusy : Nat := 0
  byteLimitBusy : Nat := 0
  deriving DecidableEq, Repr

structure Task where
  message : PendingMsg
  lifecycle : Bool
  deadline : Nat
  bytes : Nat
  id : Nat
  deriving DecidableEq, Repr

structure Queue where
  tasks : List Task := []
  stats : Stats := {}
  deriving DecidableEq, Repr

structure Rejected where
  message : PendingMsg
  code : ErrorCode
  deriving DecidableEq, Repr

/-- A message is submitted, and later ends in one of four ways. -/
inductive Event where
  | submitted (id worker : Nat) (lifecycle : Bool)
  | accepted (id worker : Nat)
  | refused (id : Nat)
  | rejected (id : Nat) (r : Rejected)
  | cancelled (id : Nat)
  deriving DecidableEq, Repr

structure WorkerPendingTasks where
  queues : Nat → Queue := fun _ => {}
  cursor : Nat := 0
  submits : Nat := 0
  log : List Event := []

/-- `uint64_t` ends here. -/
def maxTime : Nat := 18446744073709551615

/-- The counting half of `push_back`. -/
def Stats.accountAdd (st : Stats) (t : Task) : Stats :=
  if t.lifecycle then { st with lifecycleTasks := st.lifecycleTasks + 1 }
  else
    { st with
      businessTasks := st.businessTasks + 1
      businessBytes := st.businessBytes + t.bytes }

def Stats.accountRemove (st : Stats) (t : Task) : Stats :=
  if t.lifecycle then { st with lifecycleTasks := st.lifecycleTasks - 1 }
  else
    { st with
      businessTasks := st.businessTasks - 1
      businessBytes := st.businessBytes - t.bytes }

/-- A pass with an iterator: `it = tasks.erase(it)` where the test holds, `++it` elsewhere. The
elements before the iterator are `kept`, and `erase` gets the list without the element. -/
def eraseWhere {σ : Type} (gone : Task → Bool) (erase : σ → Task → List Task → σ)
    (kept : List Task) : List Task → σ → σ
  | [], s => s
  | t :: rest, s =>
    if gone t then eraseWhere gone erase kept rest (erase s t (kept ++ rest))
    else eraseWhere gone erase (kept ++ [t]) rest s

namespace WorkerPendingTasks

def setQueue (s : WorkerPendingTasks) (worker : Nat) (q : Queue) : WorkerPendingTasks :=
  { s with queues := Function.update s.queues worker q }

/-- Count something that is not the contents of the queue. -/
def bump (s : WorkerPendingTasks) (worker : Nat) (f : Stats → Stats) : WorkerPendingTasks :=
  s.setQueue worker { s.queues worker with stats := f (s.queues worker).stats }

def note (s : WorkerPendingTasks) (e : Event) : WorkerPendingTasks := { s with log := s.log ++ [e] }

/-- A submitted message gets its number. -/
def opened (s : WorkerPendingTasks) (worker : Nat) (lifecycle : Bool) : WorkerPendingTasks :=
  { s.note (.submitted s.submits worker lifecycle) with submits := s.submits + 1 }

/-- The task leaves the queue, which keeps `tasks`. -/
def remove (s : WorkerPendingTasks) (worker : Nat) (t : Task) (tasks : List Task) (e : Event) :
    WorkerPendingTasks :=
  (s.setQueue worker
    { tasks, stats := (s.queues worker).stats.accountRemove t }).note e

section Submit

variable (c : PendingConfig) (s : WorkerPendingTasks) (worker : Nat) (message : PendingMsg)
  (lifecycle : Bool) (now : Nat)

/-- The second half of `submit`: the limits, then `push_back`. -/
def enqueue (id : Nat) : WorkerPendingTasks × Admission :=
  let q := s.queues worker
  let bytes := c.sizeofTask + message.body.length
  if !lifecycle ∧ q.stats.businessTasks ≥ c.limits.maxBusinessTasks then
    ((s.bump worker fun st =>
      { st with busy := st.busy + 1, taskLimitBusy := st.taskLimitBusy + 1 }).note (.refused id),
      .busy)
  else if !lifecycle ∧ (bytes > c.limits.maxBusinessBytes ∨
      q.stats.businessBytes > (c.limits.maxBusinessBytes : Int) - bytes) then
    ((s.bump worker fun st =>
      { st with busy := st.busy + 1, byteLimitBusy := st.byteLimitBusy + 1 }).note (.refused id),
      .busy)
  else
    let timeout := c.limits.businessTimeoutMs * 1000
    let deadline := if now > maxTime - timeout then maxTime else now + timeout
    let t : Task := { message, lifecycle, deadline, bytes, id }
    (s.setQueue worker { tasks := q.tasks ++ [t], stats := q.stats.accountAdd t }, .pending)

/-- `result` is the answer of `send`, which is asked when nothing waits for the worker. -/
def submit (result : DispatchResult) : WorkerPendingTasks × Admission :=
  let id := s.submits
  let s := s.opened worker lifecycle
  if worker ≥ c.workers then (s.note (.refused id), .internalError)
  else if (s.queues worker).tasks = [] then
    if result = .kAccepted then
      ((s.bump worker fun st => { st with accepted := st.accepted + 1 }).note
        (.accepted id worker), .accepted)
    else
      let s := if result ≠ .kBackpressure then
          s.bump worker fun st => { st with internalErrors := st.internalErrors + 1 }
        else s
      if result ≠ .kBackpressure ∧ !lifecycle then (s.note (.refused id), .internalError)
      else if !lifecycle then
        ((s.bump worker fun st =>
          { st with busy := st.busy + 1, directBusy := st.directBusy + 1 }).note (.refused id),
          .busy)
      else s.enqueue c worker message lifecycle now id
  else s.enqueue c worker message lifecycle now id

end Submit

/-- The locals of `pump`, and the calls of `send` that it has made. -/
structure Pumping where
  tasks : WorkerPendingTasks
  rejected : List Rejected := []
  total : Nat := 0
  sends : List (Nat × PendingMsg) := []

section Pump

variable (c : PendingConfig) (now : Nat) (send : Nat → Nat → PendingMsg → DispatchResult)
  (valid : Nat → PendingMsg → Bool)

/-- A rejected task is returned and leaves its queue. -/
def Pumping.reject (p : Pumping) (worker : Nat) (t : Task) (tasks : List Task) (code : ErrorCode)
    (count : Stats → Stats) : Pumping :=
  let r : Rejected := { message := t.message, code }
  { p with
    rejected := p.rejected ++ [r]
    tasks := (p.tasks.bump worker count).remove worker t tasks (.rejected t.id r) }

/-- `it->deadline` has passed, or the session of the message is not valid any more. -/
def outdated (t : Task) : Bool :=
  !t.lifecycle && (decide (now ≥ t.deadline) || !valid t.id t.message)

/-- The first loop of `pump` for one worker. -/
def expireQueue (p : Pumping) (worker : Nat) : Pumping :=
  eraseWhere (outdated now valid)
    (fun p t tasks =>
      if now ≥ t.deadline then
        p.reject worker t tasks .ERROR_CODE_PENDING_TIMEOUT
          fun st => { st with expired := st.expired + 1 }
      else
        p.reject worker t tasks .ERROR_CODE_PLAYER_SESSION_INVALID
          fun st => { st with stale := st.stale + 1 })
    [] (p.tasks.queues worker).tasks p

/-- The inner loop of `pump`; the first argument is what is left of `perWorkerAttempts`. -/
def serve (worker : Nat) : Nat → Pumping → Pumping
  | 0, p => p
  | tries + 1, p =>
    match (p.tasks.queues worker).tasks with
    | [] => p
    | task :: rest =>
      if p.total < c.limits.globalAttempts then
        let result := send p.total worker task.message
        let p := { p with total := p.total + 1, sends := p.sends ++ [(worker, task.message)] }
        if result = .kBackpressure then p
        else if result ≠ .kAccepted then
          let count := fun st : Stats => { st with internalErrors := st.internalErrors + 1 }
          if task.lifecycle then { p with tasks := p.tasks.bump worker count }
          else serve worker tries (p.reject worker task rest .ERROR_CODE_INTERNAL count)
        else
          serve worker tries
            { p with
              tasks := (p.tasks.bump worker fun st => { st with accepted := st.accepted + 1 }).remove
                worker task rest (.accepted task.id worker) }
      else p

/-- The outer loop of `pump`: each worker once, from the cursor on. -/
def visit : Nat → Pumping → Pumping
  | 0, p => p
  | n + 1, p =>
    if p.total < c.limits.globalAttempts then
      let worker := p.tasks.cursor
      let p := { p with tasks := { p.tasks with cursor := (p.tasks.cursor + 1) % c.workers } }
      visit n (serve c send worker c.limits.perWorkerAttempts p)
    else p

def pump (s : WorkerPendingTasks) : Pumping :=
  visit c send c.workers ((List.range c.workers).foldl (expireQueue now valid) { tasks := s })

end Pump

/-- The loop of `cancelSession` for one worker. -/
def cancelQueue (session : Nat) (s : WorkerPendingTasks) (worker : Nat) : WorkerPendingTasks :=
  eraseWhere (fun t => !t.lifecycle && t.message.session == session)
    (fun s t tasks => s.remove worker t tasks (.cancelled t.id)) [] (s.queues worker).tasks s

def cancelSession (c : PendingConfig) (s : WorkerPendingTasks) (session : Nat) :
    WorkerPendingTasks :=
  (List.range c.workers).foldl (cancelQueue session) s

end WorkerPendingTasks

end Net
