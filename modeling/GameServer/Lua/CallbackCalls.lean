import GameServer.Lua.CallbacksKept

/-!
# The database calls of one function

Every call of a script that gets to the task table registers a callback. If the table takes the
task, nothing goes wrong that did not before; if it does not, the callback stays behind for good.
-/

namespace Lua

open Db (Msg Task)
open Db.PendingDbTasks (Persists Sendable Settles HasRoom answers)

variable {σ : Type} {lib : Library σ} {cfg : Db.DeliveryConfig} {nature : Nat → Verdict}
  {rounds : Nat → Round} {t t' : ScriptThread σ} {l : ThreadStep}

/-! ### Calls of a script -/

/-- A call that gets to the task table brings a database task. -/
theorem ApiCall.request_isDbTask {q : ApiCall} {c : Option LuaApiCtx} {c' : LuaApiCtx}
    {msgType : Db.MsgType} {task : Db.DbTask} {shard : Nat} {cb : Gateway.Bytes}
    (h : q.request c = .ok (c', .db msgType task shard cb)) : Db.isDbTask msgType = true := by
  have hchecked : ∃ c : LuaApiCtx, q.checked c = .ok (.db msgType task shard cb) := by
    unfold ApiCall.request at h
    split at h
    · cases h
    split at h
    · cases h
    split at h
    · cases h
    · cases h
      exact ⟨_, by assumption⟩
  obtain ⟨c, h⟩ := hchecked
  have hsql : ∀ kind sql params cb', sqlRequest kind sql params cb' =
      .ok (.db msgType task shard cb) → Db.isDbTask msgType = true := by
    intro kind sql params cb' h
    unfold sqlRequest at h
    split at h
    · cases h
    · cases h
    · split at h
      · cases h
      · cases h
        rfl
  unfold ApiCall.checked at h
  cases q with
  | dbQuery sql params cb' =>
    dsimp only at h
    split at h
    · cases h
    · exact hsql _ _ _ _ h
  | dbExec sql params cb' =>
    dsimp only at h
    split at h
    · cases h
    · exact hsql _ _ _ _ h
  | dbRedis args cb' =>
    dsimp only at h
    split at h
    · cases h
    unfold redisRequest at h
    split at h
    · cases h
    · cases h
    · dsimp only [bind, Except.bind] at h
      split at h
      · cases h
      · split at h
        · cases h
        · cases h
          rfl
  | timerAfter ms fn =>
    dsimp only [timerRequest] at h
    split at h
    · cases h
    · split at h <;> cases h
  | timerEvery ms fn =>
    dsimp only [timerRequest] at h
    split at h
    · cases h
    · split at h <;> cases h
  | timerCancel id =>
    dsimp only [cancelRequest] at h
    split at h <;> cases h

namespace Worker

variable {w w' : Worker σ} {q : ApiCall} {c : LuaApiCtx} {msgType : Db.MsgType} {task : Db.DbTask}
  {shard : Nat} {cb : Gateway.Bytes}

/-- What the table of callbacks depends on is the same. -/
structure SameAcks (w w' : Worker σ) : Prop where
  live : w'.env.L = w.env.L
  dbPending : w'.env.dbPending = w.env.dbPending
  nextCtx : w'.env.nextCtx = w.env.nextCtx

theorem serve_db (h : q.request w.registry = .ok (c, .db msgType task shard cb)) (v : Verdict) :
    (w.serve (fun _ => v) q).2.env = (w.env.registerDbAck cb).2 := by
  unfold serve reply
  rw [h]
  dsimp only [answer, sendDb]
  split <;> rfl

theorem cancelLuaTimer_acks (id : Nat) : SameAcks w (w.cancelLuaTimer id) := by
  unfold cancelLuaTimer cancelTimer
  split <;> exact ⟨rfl, rfl, rfl⟩

theorem serve_other (h : ∀ c msgType task shard cb,
    q.request w.registry ≠ .ok (c, .db msgType task shard cb)) (v : Verdict) :
    SameAcks w (w.serve (fun _ => v) q).2 := by
  unfold serve reply
  split
  · exact ⟨rfl, rfl, rfl⟩
  rename_i c r hreq
  cases r with
  | db msgType task shard cb => exact (h _ _ _ _ _ hreq).elim
  | timer ms fn repeats =>
    dsimp only [answer, addLuaTimer]
    split
    · exact ⟨rfl, rfl, rfl⟩
    split
    · exact ⟨rfl, rfl, rfl⟩
    split <;> exact ⟨rfl, rfl, rfl⟩
  | cancel id =>
    obtain ⟨h₁, h₂, h₃⟩ := cancelLuaTimer_acks (w := w.counted) id
    exact ⟨h₁, h₂, h₃⟩

end Worker

namespace ScriptThread

theorem Sound.worker (h : Sound cfg t) {w : Worker σ} (hw : t.worker.SameAcks w) :
    Sound cfg { t with worker := w } ∧ (Exact { t with worker := w } ↔ Exact t) := by
  obtain ⟨hL, hpending, hnext⟩ := hw
  refine ⟨?_, exact_congr hpending rfl rfl fun _ => .rfl⟩
  exact
    { h with
      live := by rw [hL]; exact h.live
      nextCtx := by rw [hnext]; exact h.nextCtx
      pending := by rw [hpending, hnext]; exact h.pending
      tasks := by rw [hpending]; exact h.tasks
      issued := by rw [hnext]; exact h.issued
      gone := by rw [hpending]; exact h.gone }

/-- No callback that was called has the next number. -/
theorem Sound.fired_lt (h : Sound cfg t) {e : Fired} (he : e ∈ t.fired) :
    e.ctx < t.worker.env.nextCtx := by
  obtain ⟨m, hm, hctx, -⟩ := h.own e he
  exact hctx ▸ (h.issued m hm).ctx_lt

/-- A callback is registered. -/
theorem Sound.register (h : Sound cfg t) {w : Worker σ} {cb : Gateway.Bytes}
    (hw : w.env = (t.worker.env.registerDbAck cb).2) : Sound cfg { t with worker := w } := by
  refine
    { h with
      live := by rw [hw]; exact h.live
      nextCtx := by rw [hw]; exact Nat.succ_pos _
      pending := fun ctx fn hfn => ?_
      tasks := fun id task hlook => ?_
      issued := fun m hm => ?_
      gone := fun e he => ?_ }
  · have hpos := h.nextCtx
    simp only [hw, LuaEnv.registerDbAck, Table.lookup_insert] at hfn ⊢
    split at hfn
    · omega
    · obtain ⟨hne, hlt⟩ := h.pending ctx fn hfn
      omega
  · have hb := h.tasks id task hlook
    refine { hb with pending := fun hctx hlive => ?_ }
    simp only [hw, LuaEnv.registerDbAck, Table.lookup_insert]
    split
    · rfl
    · exact hb.pending hctx hlive
  · have hi := h.issued m hm
    refine { hi with ctx_lt := ?_ }
    rw [hw]
    exact Nat.lt_succ_of_lt hi.ctx_lt
  · have hlt := h.fired_lt he
    simp only [hw, LuaEnv.registerDbAck, Table.lookup_insert]
    rw [if_neg (by omega)]
    exact h.gone e he

/-- Without its task the callback stays behind. -/
theorem Sound.refused (h : Sound cfg t) {w : Worker σ} {cb : Gateway.Bytes}
    (hw : w.env = (t.worker.env.registerDbAck cb).2) : ¬ Exact { t with worker := w } := by
  intro he
  obtain ⟨-, id, task, hlook, -, hctx⟩ := he.entries t.worker.env.nextCtx cb
    (by simp [hw, LuaEnv.registerDbAck])
  have hb := h.tasks id task hlook
  have hne := h.nextCtx
  have hlt := (h.issued _ (hb.issued (by omega))).ctx_lt
  omega

/-- With its task in the table nothing goes wrong that did not before. -/
theorem Sound.accepted (h : Sound cfg t) {w : Worker σ} {cb : Gateway.Bytes} {task : Task}
    {p : Db.PendingDbTasks} (hw : w.env = (t.worker.env.registerDbAck cb).2)
    (hctx : task.request.head.ctx = t.worker.env.nextCtx)
    (hlook : t.pendingTasks.tasks.lookup task.request.head.taskId = none)
    (hp : p.tasks = t.pendingTasks.tasks.insert task.request.head.taskId task)
    (hid : task.request.head.taskId < t.nextTaskId) (hfree : task.request.head.taskId ∉ t.held)
    (hsend : Sendable cfg task.request) (hlive : task.Live) :
    let t' := { t with worker := w, pendingTasks := p, issued := t.issued ++ [task.request] }
    Sound cfg t' ∧ (Exact t' ↔ Exact t) := by
  have hpos := h.nextCtx
  have hreg := h.register hw
  have hpending : ∀ ctx, w.env.dbPending.lookup ctx =
      if ctx = t.worker.env.nextCtx then some cb else t.worker.env.dbPending.lookup ctx := by
    intro ctx
    simp [hw, LuaEnv.registerDbAck]
  have hold : ∀ id task', p.tasks.lookup id = some task' →
      task' = task ∧ id = task.request.head.taskId ∨
        t.pendingTasks.tasks.lookup id = some task' := by
    intro id task' hlook'
    rw [hp, Table.lookup_insert] at hlook'
    split at hlook'
    · cases hlook'
      exact .inl ⟨rfl, by assumption⟩
    · exact .inr hlook'
  have hnew : p.tasks.lookup task.request.head.taskId = some task := by
    rw [hp, Table.lookup_insert, if_pos rfl]
  have hkeep : ∀ id task', t.pendingTasks.tasks.lookup id = some task' →
      p.tasks.lookup id = some task' := by
    intro id task' hlook'
    rw [hp, Table.lookup_insert, if_neg]
    · exact hlook'
    · rintro rfl
      cases hlook.symm.trans hlook'
  have hlt : ∀ m ∈ t.issued, m.head.ctx < t.worker.env.nextCtx := fun m hm => (h.issued m hm).ctx_lt
  refine ⟨{ hreg with
    tasks := fun id task' hlook' => ?_, issued := ?_, single := ?_, own := fun e he => ?_ }, ?_⟩
  · rcases hold id task' hlook' with ⟨rfl, rfl⟩ | hlook'
    · refine ⟨rfl, hid, hsend, fun _ => by simp, fun _ _ => ?_⟩
      dsimp only
      rw [hpending, if_pos hctx]
      rfl
    · exact { hreg.tasks id task' hlook' with
        issued := fun hne => List.mem_append_left _ ((h.tasks id task' hlook').issued hne) }
  · intro m hm
    rcases List.mem_append.mp hm with hm | hm
    · exact hreg.issued m hm
    · cases List.mem_singleton.mp hm
      refine ⟨by omega, ?_, hid, hfree⟩
      dsimp only
      rw [hw, hctx]
      exact Nat.lt_succ_self _
  · dsimp only
    rw [List.map_append, List.nodup_append]
    refine ⟨h.single, by simp, fun a ha b hb => ?_⟩
    obtain ⟨m, hm, rfl⟩ := List.mem_map.mp ha
    have hb : b = task.request.head.ctx := by simpa using hb
    have := hlt m hm
    omega
  · obtain ⟨m, hm, hrest⟩ := h.own e he
    exact ⟨m, List.mem_append_left _ hm, hrest⟩
  have hout : ∀ ctx ≠ t.worker.env.nextCtx,
      (Outstanding { t with
        worker := w, pendingTasks := p, issued := t.issued ++ [task.request] } ctx ↔
        t.Outstanding ctx) := by
    intro ctx hne
    refine and_congr_right fun _ => ⟨?_, ?_⟩
    · rintro ⟨id, task', hlook', hl, heq⟩
      rcases hold id task' hlook' with ⟨rfl, -⟩ | hlook'
      · exact absurd (heq.symm.trans hctx) hne
      · exact ⟨id, task', hlook', hl, heq⟩
    · rintro ⟨id, task', hlook', hl, heq⟩
      exact ⟨id, task', hkeep id task' hlook', hl, heq⟩
  constructor
  · intro he
    refine ⟨fun ctx fn hfn => ?_, fun e hin m hm => he.current e hin m (List.mem_append_left _ hm)⟩
    have hne : ctx ≠ t.worker.env.nextCtx := ne_of_lt (h.pending ctx fn hfn).2
    refine (hout ctx hne).mp (he.entries ctx fn ?_)
    rw [← hfn]
    exact (hpending ctx).trans (if_neg hne)
  · intro he
    refine ⟨fun ctx fn hfn => ?_, fun e hin m hm heq => ?_⟩
    · by_cases hne : ctx = t.worker.env.nextCtx
      · exact ⟨by omega, _, task, hnew, hlive, hctx.trans hne.symm⟩
      · refine (hout ctx hne).mpr (he.entries ctx fn ?_)
        exact ((hpending ctx).trans (if_neg hne)).symm.trans hfn
    · rcases List.mem_append.mp hm with hm | hm
      · exact he.current e hin m hm heq
      · cases List.mem_singleton.mp hm
        have := h.fired_lt hin
        omega

/-- The table does not know a number that has not been given out. -/
theorem Sound.fresh (h : Sound cfg t) {id : Nat} (hid : t.nextTaskId ≤ id) :
    t.pendingTasks.tasks.lookup id = none := by
  rw [Option.eq_none_iff_forall_ne_some]
  intro task hlook
  have := (h.tasks id task hlook).lt
  omega

/-- `submitDbTask` with a task that is not yet in the table. -/
theorem submitDbTask_fresh {request : Msg} {r : Round}
    (htype : Db.isDbTask request.head.msgType = true)
    (hlook : t.pendingTasks.tasks.lookup (t.numbered request r).head.taskId = none) :
    ∃ ok q, t.submitDbTask cfg request r = (ok, { t with
        pendingTasks := q
        nextTaskId :=
          if request.head.taskId = 0 then t.nextTaskId + r.taken + 1 else t.nextTaskId + r.taken }) ∧
      (ok = true ↔ t.pendingTasks.HasRoom r.now ∧ Sendable cfg (t.numbered request r)) ∧
      ∃ tasks, Persists t.pendingTasks.tasks tasks ∧ (ok = false → q.tasks = tasks) ∧
        (ok = true → ∃ task : Task, task.request = t.numbered request r ∧ task.Live ∧
          q.tasks = tasks.insert task.request.head.taskId task) := by
  obtain ⟨ok, q, sent, hsubmit, hok, tasks, hpersists, hrefused, haccepted⟩ :=
    t.pendingTasks.submit_fresh
      { request with head := { request.head with srcWorkerId := t.worker.apiCtx.workerId } }
      r.now cfg r.room (t.nextTaskId + r.taken) r.victim htype rfl hlook
  refine ⟨ok, q, ?_, hok, tasks, hpersists, hrefused, fun h => ?_⟩
  · unfold ScriptThread.submitDbTask
    dsimp only
    rw [hsubmit]
    rfl
  · obtain ⟨task, hreq, hlive, htasks⟩ := haccepted h
    exact ⟨task, hreq, hlive, by rw [htasks, hreq]⟩

/-- A task of the thread's own. -/
theorem Sound.submitDbTask (h : Sound cfg t) {request : Msg} {r : Round}
    (hctx : request.head.ctx = 0)
    (hnumber : request.head.taskId = 0 ∨ request.head.taskId ∈ t.held) :
    Sound cfg (t.submitDbTask cfg request r).2 ∧
      (Exact (t.submitDbTask cfg request r).2 ↔ Exact t) := by
  have hnext : t.nextTaskId ≤
      if request.head.taskId = 0 then t.nextTaskId + r.taken + 1 else t.nextTaskId + r.taken := by
    split <;> omega
  have hrenumbered := h.renumber hnext
  have hnothing : ∀ {ok : Bool} {sent : List Msg}, t.pendingTasks.submit { request with head :=
      { request.head with srcWorkerId := t.worker.apiCtx.workerId } } r.now
      (Db.DbSystem.sendToDb cfg r.room) (t.nextTaskId + r.taken)
      (t.pendingTasks.victim r.now r.victim) = some (ok, t.pendingTasks, sent) →
      Sound cfg (t.submitDbTask cfg request r).2 ∧
        (Exact (t.submitDbTask cfg request r).2 ↔ Exact t) := by
    intro ok sent hsubmit
    unfold ScriptThread.submitDbTask
    dsimp only
    rw [hsubmit]
    exact ⟨hrenumbered, exact_congr rfl rfl rfl fun _ => .rfl⟩
  by_cases htype : Db.isDbTask request.head.msgType = true
  swap
  · exact hnothing (if_pos (by simpa using htype))
  cases hlook : t.pendingTasks.tasks.lookup (t.numbered request r).head.taskId with
  | some task =>
    obtain ⟨ok, hsubmit⟩ := t.pendingTasks.submit_known
      { request with head := { request.head with srcWorkerId := t.worker.apiCtx.workerId } } r.now
      (Db.DbSystem.sendToDb cfg r.room) (t.nextTaskId + r.taken)
      (t.pendingTasks.victim r.now r.victim) rfl hlook
    exact hnothing hsubmit
  | none =>
    obtain ⟨ok, q, hsubmit, hok, tasks, hpersists, hrefused, haccepted⟩ :=
      submitDbTask_fresh htype hlook
    rw [hsubmit]
    cases ok with
    | false =>
      rw [← hrefused rfl] at hpersists
      obtain ⟨hsound, hexact⟩ := hrenumbered.persists hpersists
      exact ⟨hsound, hexact.trans (exact_congr rfl rfl rfl fun _ => .rfl)⟩
    | true =>
      obtain ⟨task, hreq, -, htasks⟩ := haccepted rfl
      have hnone : tasks.lookup task.request.head.taskId = none := by
        rw [Option.eq_none_iff_forall_ne_some, hreq]
        intro task' hlook'
        obtain ⟨task₀, hold, -⟩ := hpersists.old _ task' hlook'
        rw [hlook] at hold
        cases hold
      obtain ⟨hsound, hexact⟩ :=
        hrenumbered.persists (p := { t.pendingTasks with tasks }) hpersists
      obtain ⟨hsound', hexact'⟩ := hsound.taken hnone htasks
        (by
          rw [hreq]
          dsimp only [numbered]
          rcases hnumber with hzero | hheld
          · rw [if_pos hzero, if_pos hzero]
            exact Nat.lt_succ_self _
          · have hlt := h.held _ hheld
            split <;> omega)
        (by rw [hreq]; exact (hok.mp rfl).2) (by rw [hreq]; exact hctx)
      exact ⟨hsound', (hexact'.trans hexact).trans (exact_congr rfl rfl rfl fun _ => .rfl)⟩

/-- One call of a script. -/
theorem Sound.serve (h : Sound cfg t) (q : ApiCall) :
    Sound cfg (t.serve cfg nature rounds q).2 ∧
      (Exact (t.serve cfg nature rounds q).2 ↔ Exact t ∧ Admitted cfg rounds t q) := by
  by_cases hdb : ∃ c msgType task shard cb,
      q.request t.worker.registry = .ok (c, .db msgType task shard cb)
  swap
  · have hother : ∀ c msgType task shard cb,
        q.request t.worker.registry ≠ .ok (c, .db msgType task shard cb) :=
      fun c msgType task shard cb hq => hdb ⟨c, msgType, task, shard, cb, hq⟩
    have hadmitted : Admitted cfg rounds t q := by
      unfold Admitted
      split
      · rename_i hq
        exact (hother _ _ _ _ _ hq).elim
      · trivial
    have hserve : t.serve cfg nature rounds q = ((t.worker.serve
        (fun _ => nature t.worker.outside.calls) q).1, { t with
          worker := (t.worker.serve (fun _ => nature t.worker.outside.calls) q).2 }) := by
      unfold ScriptThread.serve consult
      split
      rename_i v t' heq
      split at heq
      · rename_i hq
        exact (hother _ _ _ _ _ hq).elim
      · cases heq
        rfl
    obtain ⟨hsound, hexact⟩ := h.worker (Worker.serve_other hother (nature t.worker.outside.calls))
    rw [hserve]
    exact ⟨hsound, hexact.trans (and_iff_left hadmitted).symm⟩
  obtain ⟨c, msgType, task, shard, cb, hq⟩ := hdb
  have htype := ApiCall.request_isDbTask hq
  generalize hr : rounds t.worker.outside.calls = r
  generalize hm : dbRequest c msgType task shard t.worker.env.nextCtx = request
  have hmtype : Db.isDbTask request.head.msgType = true := by
    rw [← hm]
    exact htype
  have hzero : request.head.taskId = 0 := by
    rw [← hm]
    rfl
  have hid : (t.numbered request r).head.taskId = t.nextTaskId + r.taken := if_pos hzero
  obtain ⟨ok, p, hsubmit, hok, tasks, hpersists, hrefused, haccepted⟩ :=
    submitDbTask_fresh hmtype (h.fresh (show t.nextTaskId ≤ (t.numbered request r).head.taskId by omega))
  rw [if_pos hzero] at hsubmit
  have hadmitted : Admitted cfg rounds t q ↔ ok = true := by
    unfold Admitted
    rw [hq, hok, ← hr, ← hm]
  have henv : (t.worker.serve (fun _ => { accepted := ok }) q).2.env =
      (t.worker.env.registerDbAck cb).2 := Worker.serve_db hq _
  have hserve : (t.serve cfg nature rounds q).2 = { t with
      worker := (t.worker.serve (fun _ => { accepted := ok }) q).2
      pendingTasks := p
      nextTaskId := t.nextTaskId + r.taken + 1
      issued := t.issued ++ if ok then [t.numbered request r] else [] } := by
    unfold ScriptThread.serve consult
    rw [hq]
    dsimp only
    rw [hr, hm, hsubmit]
  rw [hserve, hadmitted]
  generalize (t.worker.serve (fun _ => { accepted := ok }) q).2 = w at henv
  have hrenumbered := h.renumber (n := t.nextTaskId + r.taken + 1) (by omega)
  cases ok with
  | false =>
    rw [← hrefused rfl] at hpersists
    obtain ⟨hsound, -⟩ := hrenumbered.persists hpersists
    simp only [Bool.false_eq_true, if_false, List.append_nil, and_false, iff_false]
    exact ⟨hsound.register henv, hsound.refused henv⟩
  | true =>
    obtain ⟨task', hreq, hlive, htasks⟩ := haccepted rfl
    obtain ⟨hsound, hexact⟩ := hrenumbered.persists (p := { t.pendingTasks with tasks }) hpersists
    have hfreeid : t.numbered request r ∉ t.issued ∧ (t.numbered request r).head.taskId ∉ t.held := by
      constructor
      · intro hin
        have := (h.issued _ hin).lt
        omega
      · intro hin
        have := h.held _ hin
        omega
    have hnone : tasks.lookup task'.request.head.taskId = none := by
      rw [Option.eq_none_iff_forall_ne_some, hreq]
      intro task₀ hlook'
      obtain ⟨task₁, hold, -⟩ := hpersists.old _ task₀ hlook'
      have := (h.tasks _ task₁ hold).lt
      omega
    obtain ⟨hsound', hexact'⟩ := hsound.accepted henv
      (show task'.request.head.ctx = _ by rw [hreq, ← hm]; rfl) hnone htasks
      (by rw [hreq, hid]; exact Nat.lt_succ_self _) (by rw [hreq]; exact hfreeid.2)
      (by rw [hreq]; exact (hok.mp rfl).2) hlive
    rw [hreq] at hsound' hexact'
    simp only [if_true, and_true]
    exact ⟨hsound', (hexact'.trans hexact).trans (exact_congr rfl rfl rfl fun _ => .rfl)⟩

/-- All calls of a function, and the state of the library after it. -/
theorem Sound.call (h : Sound cfg t) (L : LuaState σ) (script : Script σ) :
    Sound cfg (t.call cfg nature rounds L script) ∧
      (Exact (t.call cfg nature rounds L script) ↔
        Exact t ∧ script.Along (ScriptThread.serve cfg nature rounds) (Admitted cfg rounds) t) := by
  have hserve : ∀ (s : ScriptThread σ) q, Sound cfg s →
      Sound cfg (ScriptThread.serve cfg nature rounds s q).2 ∧
        (Exact (ScriptThread.serve cfg nature rounds s q).2 ↔
          Exact s ∧ Admitted cfg rounds s q) := fun _ q hs => hs.serve q
  obtain ⟨hsound, hexact⟩ := Client.run_iff_along hserve script h
  refine ⟨{ hsound with live := nofun }, Iff.trans ?_ hexact⟩
  exact exact_congr rfl rfl rfl fun _ => .rfl

end ScriptThread

end Lua
