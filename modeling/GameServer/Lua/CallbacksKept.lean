import GameServer.Lua.TaskOutcome

/-!
# The callbacks of database calls

A callback is called at most once, with the result of its own task, while the actor of the call
is still the same, and it is in its table exactly as long as its task is live. Two things end a
task and leave the callback behind: a call that the task table does not take, and a result that
comes to another actor than the one that asked.

What is always kept is that every live task of a script has its callback, that no callback number
has two tasks, and that a callback that was called is gone. From there it is counted when the
converse goes wrong, for one call of a script, for all calls of a function, and for a step.
-/

namespace Lua

open Db (Msg Task)
open Db.PendingDbTasks (Persists Sendable Settles HasRoom answers)

variable {σ : Type} {lib : Library σ} {cfg : Db.DeliveryConfig} {nature : Nat → Verdict}
  {rounds : Nat → Round} {t t' : ScriptThread σ} {l : ThreadStep}

namespace ScriptThread

/-- The task of a callback is live. -/
def Outstanding (t : ScriptThread σ) (ctx : Nat) : Prop :=
  ctx ≠ 0 ∧ ∃ id task, t.pendingTasks.tasks.lookup id = some task ∧ task.Live ∧
    task.request.head.ctx = ctx

structure CallbacksKept (t : ScriptThread σ) : Prop where
  single : (t.issued.map (·.head.ctx)).Nodup
  once : (t.fired.map (·.ctx)).Nodup
  own : ∀ e ∈ t.fired, ∃ m ∈ t.issued, m.head.ctx = e.ctx ∧
    m.head.taskId = e.result.head.taskId ∧ answers m e.result = true
  current : ∀ e ∈ t.fired, ∀ m ∈ t.issued, m.head.ctx = e.ctx →
    m.head.playerId = 0 ∨ e.actorEpoch = some m.head.epoch
  entries : ∀ ctx, (t.worker.env.dbPending.lookup ctx).isSome = true ↔ t.Outstanding ctx

/-! ### When they are kept -/

/-- A database call that passes its checks finds room for its task and a channel that takes it. -/
def Admitted (cfg : Db.DeliveryConfig) (rounds : Nat → Round) (t : ScriptThread σ) (q : ApiCall) :
    Prop :=
  match q.request t.worker.registry with
  | .ok (c, .db msgType task shard _) =>
    let r := rounds t.worker.outside.calls
    t.pendingTasks.HasRoom r.now ∧
      Sendable cfg (t.numbered (dbRequest c msgType task shard t.worker.env.nextCtx) r)
  | _ => True

/-- The message is for the actor that there is now, or for no player. -/
def Current (t : ScriptThread σ) (m : Msg) : Prop :=
  m.head.playerId = 0 ∨ t.actorEpoch m.head.playerId = some m.head.epoch

/-- The callback is no function. -/
def Missing (lib : Library σ) (t : ScriptThread σ) (ctx : Nat) : Prop :=
  ∀ fn, t.worker.env.dbPending.lookup ctx = some fn → t.worker.pushFn lib fn = none

/-- A result that settles the task of a callback comes to the actor of the call; otherwise there
must be nothing to call, and a call of epoch 0, which is never out of date. -/
def Expected (lib : Library σ) (t : ScriptThread σ) : ThreadStep → Prop
  | .onDbResult m _ =>
    m.head.taskId ≠ 0 → (Db.DbResult.decode m.body).isSome = true → t.pendingTasks.Settles m →
      m.head.ctx ≠ 0 → t.Current m ∨
        (t.players.validateEpoch m.head.playerId m.head.epoch = true ∧ t.Missing lib m.head.ctx)
  | _ => True

/-- The condition on a step: on the result that it takes, and on every call of the function that
it calls. -/
def Timely (lib : Library σ) (cfg : Db.DeliveryConfig) (nature : Nat → Verdict)
    (rounds : Nat → Round) (t : ScriptThread σ) (l : ThreadStep) : Prop :=
  t.Expected lib l ∧ ∀ t' s L script, t.enter lib cfg l = some (t', some (s, L, script)) →
    script.Along (serve cfg nature rounds) (Admitted cfg rounds) t'

/-! ### What is always kept -/

/-- A record of the task table is under its own number, which has been given out, and a script's
is among those taken, with a callback as long as it is live. -/
structure Booked (cfg : Db.DeliveryConfig) (next : Nat) (issued : List Msg)
    (dbPending : Table Nat Bytes) (id : Nat) (task : Task) : Prop where
  taskId : task.request.head.taskId = id
  lt : id < next
  sendable : Sendable cfg task.request
  issued : task.request.head.ctx ≠ 0 → task.request ∈ issued
  pending : task.request.head.ctx ≠ 0 → task.Live →
    (dbPending.lookup task.request.head.ctx).isSome = true

/-- A task that a script has handed in: its numbers have been given out, to no one else. -/
structure Issued (nextCtx next : Nat) (held : List Nat) (m : Msg) : Prop where
  ctx : m.head.ctx ≠ 0
  ctx_lt : m.head.ctx < nextCtx
  lt : m.head.taskId < next
  free : m.head.taskId ∉ held

structure Sound (cfg : Db.DeliveryConfig) (t : ScriptThread σ) : Prop where
  live : t.worker.env.L ≠ none
  nextCtx : 0 < t.worker.env.nextCtx
  pending : ∀ ctx fn, t.worker.env.dbPending.lookup ctx = some fn →
    ctx ≠ 0 ∧ ctx < t.worker.env.nextCtx
  tasks : ∀ id task, t.pendingTasks.tasks.lookup id = some task →
    Booked cfg t.nextTaskId t.issued t.worker.env.dbPending id task
  issued : ∀ m ∈ t.issued, Issued t.worker.env.nextCtx t.nextTaskId t.held m
  single : (t.issued.map (·.head.ctx)).Nodup
  held : ∀ id ∈ t.held, id < t.nextTaskId
  gone : ∀ e ∈ t.fired, t.worker.env.dbPending.lookup e.ctx = none
  own : ∀ e ∈ t.fired, ∃ m ∈ t.issued, m.head.ctx = e.ctx ∧
    m.head.taskId = e.result.head.taskId ∧ answers m e.result = true
  once : (t.fired.map (·.ctx)).Nodup

/-- What may go wrong: a callback stays without a task, or is called for another actor. -/
structure Exact (t : ScriptThread σ) : Prop where
  entries : ∀ ctx fn, t.worker.env.dbPending.lookup ctx = some fn → t.Outstanding ctx
  current : ∀ e ∈ t.fired, ∀ m ∈ t.issued, m.head.ctx = e.ctx →
    m.head.playerId = 0 ∨ e.actorEpoch = some m.head.epoch

theorem Sound.kept_iff (h : Sound cfg t) : CallbacksKept t ↔ Exact t := by
  constructor
  · intro hk
    exact ⟨fun ctx fn hfn => (hk.entries ctx).mp (by rw [hfn]; rfl), hk.current⟩
  · intro he
    refine ⟨h.single, h.once, h.own, he.current, fun ctx => ⟨fun hsome => ?_, ?_⟩⟩
    · obtain ⟨fn, hfn⟩ := Option.isSome_iff_exists.mp hsome
      exact he.entries ctx fn hfn
    · rintro ⟨hctx, id, task, hlook, hlive, rfl⟩
      exact (h.tasks id task hlook).pending hctx hlive

/-- A callback number has one task. -/
theorem Sound.unique (h : Sound cfg t) {m m' : Msg} (hm : m ∈ t.issued) (hm' : m' ∈ t.issued)
    (hctx : m.head.ctx = m'.head.ctx) : m = m' :=
  List.inj_on_of_nodup_map h.single hm hm' hctx

theorem Sound.unique_task (h : Sound cfg t) {id id' : Nat} {task task' : Task}
    (hlook : t.pendingTasks.tasks.lookup id = some task)
    (hlook' : t.pendingTasks.tasks.lookup id' = some task')
    (hctx : task.request.head.ctx ≠ 0) (heq : task'.request.head.ctx = task.request.head.ctx) :
    id' = id := by
  have hb := h.tasks id task hlook
  have hb' := h.tasks id' task' hlook'
  have hreq := h.unique (hb'.issued (heq ▸ hctx)) (hb.issued hctx) heq
  rw [← hb'.taskId, ← hb.taskId, hreq]

/-- Whether something goes wrong is the same for two threads with the same live tasks. -/
theorem exact_congr (hpending : t'.worker.env.dbPending = t.worker.env.dbPending)
    (hfired : t'.fired = t.fired) (hissued : t'.issued = t.issued)
    (hout : ∀ ctx, t'.Outstanding ctx ↔ t.Outstanding ctx) : Exact t' ↔ Exact t := by
  constructor
  · intro h
    refine ⟨fun ctx fn hfn => (hout ctx).mp (h.entries ctx fn (hpending ▸ hfn)), ?_⟩
    rw [← hfired, ← hissued]
    exact h.current
  · intro h
    refine ⟨fun ctx fn hfn => (hout ctx).mpr (h.entries ctx fn (hpending ▸ hfn)), ?_⟩
    rw [hfired, hissued]
    exact h.current

/-! ### Steps of the task table -/

theorem Persists.outstanding {p : Db.PendingDbTasks}
    (hf : Persists t.pendingTasks.tasks p.tasks) (ctx : Nat) :
    Outstanding { t with pendingTasks := p } ctx ↔ t.Outstanding ctx := by
  refine and_congr_right fun _ => ⟨?_, ?_⟩
  · rintro ⟨id, task', hlook', hlive', rfl⟩
    obtain ⟨task, hlook, hreq, hlive⟩ := hf.old id task' hlook'
    exact ⟨id, task, hlook, hlive.mp hlive', by rw [hreq]⟩
  · rintro ⟨id, task, hlook, hlive, rfl⟩
    obtain ⟨task', hlook'⟩ := hf.live id task hlook hlive
    obtain ⟨task₀, hlook₀, hreq, hiff⟩ := hf.old id task' hlook'
    cases hlook.symm.trans hlook₀
    exact ⟨id, task', hlook', hiff.mpr hlive, by rw [hreq]⟩

/-- A record with the request of another one, and live only if that is, is as good. -/
theorem Booked.of_old {next id : Nat} {issued : List Msg} {dbPending : Table Nat Bytes}
    {task task' : Task} (h : Booked cfg next issued dbPending id task)
    (hreq : task'.request = task.request) (hlive : task'.Live → task.Live) :
    Booked cfg next issued dbPending id task' := by
  obtain ⟨htask, hlt, hsend, hissued, hpending⟩ := h
  rw [← hreq] at htask hsend hissued hpending
  exact ⟨htask, hlt, hsend, hissued, fun hctx hl => hpending hctx (hlive hl)⟩

theorem Sound.persists (h : Sound cfg t) {p : Db.PendingDbTasks}
    (hf : Persists t.pendingTasks.tasks p.tasks) :
    Sound cfg { t with pendingTasks := p } ∧ (Exact { t with pendingTasks := p } ↔ Exact t) := by
  refine ⟨{ h with tasks := fun id task' hlook' => ?_ },
    exact_congr rfl rfl rfl (Persists.outstanding hf)⟩
  obtain ⟨task, hlook, hreq, hlive⟩ := hf.old id task' hlook'
  exact (h.tasks id task hlook).of_old hreq hlive.mp

/-- More numbers are given out. -/
theorem Sound.renumber (h : Sound cfg t) {n : Nat} (hn : t.nextTaskId ≤ n) :
    Sound cfg { t with nextTaskId := n } := by
  refine { h with tasks := fun id task hlook => ?_, issued := fun m hm => ?_, held := ?_ }
  · exact { h.tasks id task hlook with lt := (h.tasks id task hlook).lt.trans_le hn }
  · exact { h.issued m hm with lt := (h.issued m hm).lt.trans_le hn }
  · exact fun id hid => (h.held id hid).trans_le hn

/-- The thread's own task comes into the table. -/
theorem Sound.taken (h : Sound cfg t) {p : Db.PendingDbTasks} {task : Task}
    (hlook : t.pendingTasks.tasks.lookup task.request.head.taskId = none)
    (hp : p.tasks = t.pendingTasks.tasks.insert task.request.head.taskId task)
    (hid : task.request.head.taskId < t.nextTaskId) (hsend : Sendable cfg task.request)
    (hctx : task.request.head.ctx = 0) :
    Sound cfg { t with pendingTasks := p } ∧ (Exact { t with pendingTasks := p } ↔ Exact t) := by
  have hold : ∀ id task', p.tasks.lookup id = some task' →
      task' = task ∧ id = task.request.head.taskId ∨
        t.pendingTasks.tasks.lookup id = some task' := by
    intro id task' hlook'
    rw [hp, Table.lookup_insert] at hlook'
    split at hlook'
    · cases hlook'
      exact .inl ⟨rfl, by assumption⟩
    · exact .inr hlook'
  refine ⟨{ h with tasks := fun id task' hlook' => ?_ }, exact_congr rfl rfl rfl fun ctx => ?_⟩
  · rcases hold id task' hlook' with ⟨rfl, rfl⟩ | hlook'
    · exact ⟨rfl, hid, hsend, fun hne => absurd hctx hne, fun hne => absurd hctx hne⟩
    · exact h.tasks id task' hlook'
  · refine and_congr_right fun hne => ⟨?_, ?_⟩
    · rintro ⟨id, task', hlook', hlive, heq⟩
      rcases hold id task' hlook' with ⟨rfl, -⟩ | hlook'
      · exact absurd (heq.symm.trans hctx) hne
      · exact ⟨id, task', hlook', hlive, heq⟩
    · rintro ⟨id, task', hlook', hlive, heq⟩
      refine ⟨id, task', ?_, hlive, heq⟩
      dsimp only
      rw [hp, Table.lookup_insert, if_neg]
      · exact hlook'
      · rintro rfl
        cases hlook.symm.trans hlook'

end ScriptThread

end Lua
