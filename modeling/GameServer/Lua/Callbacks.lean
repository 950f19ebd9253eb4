import GameServer.Lua.LuaEnv

/-!
# The callbacks of the scripts

A call of a script does one of four things to its environment: nothing, one callback more
for a database task, one timer more, one timer less. The numbers of callbacks and timers
only grow, in the environment and in the process, so no number is given out twice: what a
reload or a shutdown has taken out of the tables does not come back under its number.
-/

namespace Lua

open Gateway (Bytes text)

variable {σ : Type} {lib : Library σ} {nature : Nat → Verdict} {w w' : Worker σ}

/-- What a call of a script does to the environment and to the numbers of timers. -/
inductive Served (w w' : Worker σ) : Prop
  | nothing (henv : w'.env = w.env) (hnext : w.outside.nextTimerId ≤ w'.outside.nextTimerId)
  | ack (cb : Bytes) (henv : w'.env = (w.env.registerDbAck cb).2)
      (hnext : w'.outside.nextTimerId = w.outside.nextTimerId)
  | timer (id : Nat) (info : LuaTimerInfo)
      (henv : w'.env = { w.env with luaTimers := w.env.luaTimers.insert id info })
      (hid : w.outside.nextTimerId ≤ id) (hnext : w'.outside.nextTimerId = id + 1)
  | cancel (id : Nat) (henv : w'.env = { w.env with luaTimers := w.env.luaTimers.erase id })
      (hnext : w'.outside.nextTimerId = w.outside.nextTimerId)

namespace Worker

theorem cancelLuaTimer_served (w : Worker σ) (id : Nat) : Served w (w.cancelLuaTimer id) := by
  unfold cancelLuaTimer cancelTimer
  split
  · exact .cancel id rfl rfl
  · exact .cancel id rfl rfl

theorem answer_served (w : Worker σ) (v : Verdict) (c : LuaApiCtx) (r : Request) :
    Served w (w.answer v c r).2 := by
  cases r with
  | db msgType task shard cb =>
    simp only [answer, sendDb]
    split
    · exact .ack cb rfl rfl
    · exact .ack cb rfl rfl
  | timer ms fn repeats =>
    simp only [answer, addLuaTimer]
    split
    · exact .nothing rfl (le_refl _)
    split
    · exact .nothing rfl (le_refl _)
    split
    · exact .nothing rfl (by dsimp only; omega)
    · exact .timer _ _ rfl (Nat.le_add_right _ _) rfl
  | cancel id => exact w.cancelLuaTimer_served id

theorem reply_served (w : Worker σ) (found : Option LuaApiCtx) (q : ApiCall) :
    Served w (w.reply nature found q).2 := by
  unfold reply
  split
  · exact .nothing rfl (le_refl _)
  · rename_i c r _
    -- counting the call changes neither the environment nor the number of the next timer
    cases w.counted.answer_served (nature w.outside.calls) c r with
    | nothing henv hnext => exact .nothing henv hnext
    | ack cb henv hnext => exact .ack cb henv hnext
    | timer id info henv hid hnext => exact .timer id info henv hid hnext
    | cancel id henv hnext => exact .cancel id henv hnext

theorem serve_served (w : Worker σ) (q : ApiCall) : Served w (w.serve nature q).2 :=
  w.reply_served _ q

end Worker

/-- No number is taken back. -/
def Grown (w w' : Worker σ) : Prop :=
  w.env.nextCtx ≤ w'.env.nextCtx ∧ w.outside.nextTimerId ≤ w'.outside.nextTimerId

theorem Served.grown (h : Served w w') : Grown w w' := by
  cases h with
  | nothing henv hnext => exact ⟨henv ▸ le_refl _, hnext⟩
  | ack cb henv hnext => exact ⟨henv ▸ Nat.le_succ _, hnext.ge⟩
  | timer id info henv hid hnext => exact ⟨henv ▸ le_refl _, by omega⟩
  | cancel id henv hnext => exact ⟨henv ▸ le_refl _, hnext.ge⟩

/-- Every registered callback has a number that has been given out, and none that was given
out before `acks` and `timers`. -/
structure Numbered (acks timers : Nat) (w : Worker σ) : Prop where
  nextCtx : acks ≤ w.env.nextCtx
  nextTimerId : timers ≤ w.outside.nextTimerId
  dbPending : ∀ ctx fn, w.env.dbPending.lookup ctx = some fn → acks ≤ ctx ∧ ctx < w.env.nextCtx
  luaTimers : ∀ id info, w.env.luaTimers.lookup id = some info →
    timers ≤ id ∧ id < w.outside.nextTimerId

namespace Numbered

variable {acks timers : Nat}

theorem erase_ack (h : Numbered acks timers w) (ctx : Nat) :
    Numbered acks timers
      { w with env := { w.env with dbPending := w.env.dbPending.erase ctx } } where
  nextCtx := h.nextCtx
  nextTimerId := h.nextTimerId
  dbPending k fn hk := by
    rw [Table.lookup_erase] at hk
    split at hk
    · cases hk
    · exact h.dbPending k fn hk
  luaTimers := h.luaTimers

theorem erase_timer (h : Numbered acks timers w) (id : Nat) :
    Numbered acks timers
      { w with env := { w.env with luaTimers := w.env.luaTimers.erase id } } where
  nextCtx := h.nextCtx
  nextTimerId := h.nextTimerId
  dbPending := h.dbPending
  luaTimers k info hk := by
    rw [Table.lookup_erase] at hk
    split at hk
    · cases hk
    · exact h.luaTimers k info hk

/-- The numbers of an environment, with more timer ids given out. -/
theorem of_env (h : Numbered acks timers w) (henv : w'.env = w.env)
    (hnext : w.outside.nextTimerId ≤ w'.outside.nextTimerId) : Numbered acks timers w' where
  nextCtx := henv ▸ h.nextCtx
  nextTimerId := h.nextTimerId.trans hnext
  dbPending := henv ▸ h.dbPending
  luaTimers id info hid := by
    rw [henv] at hid
    have := h.luaTimers id info hid
    omega

theorem served (h : Numbered acks timers w) (hserved : Served w w') :
    Numbered acks timers w' := by
  have hctx := h.nextCtx
  have htimer := h.nextTimerId
  cases hserved with
  | nothing henv hnext => exact h.of_env henv hnext
  | ack cb henv hnext =>
    refine ⟨?_, by omega, fun ctx fn hlook => ?_, fun id info hlook => ?_⟩
    · rw [henv]
      exact Nat.le_succ_of_le hctx
    · simp only [henv, LuaEnv.registerDbAck, Table.lookup_insert] at hlook ⊢
      split at hlook
      · omega
      · have := h.dbPending ctx fn hlook
        omega
    · rw [henv] at hlook
      have := h.luaTimers id info hlook
      omega
  | timer new info henv hid hnext =>
    refine ⟨by rw [henv]; exact hctx, by omega, ?_, fun id info' hlook => ?_⟩
    · rw [henv]
      exact h.dbPending
    · simp only [henv, Table.lookup_insert] at hlook
      split at hlook
      · omega
      · have := h.luaTimers id info' hlook
        omega
  | cancel id henv hnext => exact (h.erase_timer id).of_env henv hnext.ge

theorem run (h : Numbered acks timers w) {α : Type} (p : Client ApiCall Answer α) :
    Numbered acks timers (p.run (Worker.serve nature) w).2 :=
  p.run_invariant _ (fun _ q hw => hw.served (Worker.serve_served _ q)) h

theorem call (h : Numbered acks timers w) (L : LuaState σ) (script : Script σ) :
    Numbered acks timers (w.call nature L script).2 := by
  have hrun : Numbered acks timers (script.run (Worker.serve nature) w).2 := h.run script
  exact ⟨hrun.nextCtx, hrun.nextTimerId, hrun.dbPending, hrun.luaTimers⟩

theorem close (h : Numbered acks timers w) (L : Option (LuaState σ)) :
    Numbered acks timers (w.close lib nature L) := by
  cases L with
  | none => exact h
  | some L =>
    exact (lib.close L.globals).run_invariant _ (fun w q hw => hw.served (w.reply_served _ q)) h

theorem callAt (h : Numbered acks timers w) (path : Bytes) (args : List Arg) :
    Numbered acks timers (w.callAt lib nature path args).2 := by
  unfold Worker.callAt
  split
  · exact h
  · exact h.call _ _

theorem cancelLuaTimer (h : Numbered acks timers w) (id : Nat) :
    Numbered acks timers (w.cancelLuaTimer id) :=
  h.served (w.cancelLuaTimer_served id)

theorem cancelLuaTimers (h : Numbered acks timers w) (ids : List Nat) :
    Numbered acks timers (ids.foldl Worker.cancelLuaTimer w) := by
  induction ids generalizing w with
  | nil => exact h
  | cons id ids ih => exact ih (h.cancelLuaTimer id)

theorem loadScripts (h : Numbered acks timers w) (scripts : Scripts σ) (fresh : σ) :
    Numbered acks timers (w.loadScripts lib scripts nature fresh).2 := by
  have hloading : Numbered acks timers (w.loading lib scripts fresh) :=
    ⟨h.nextCtx, h.nextTimerId, h.dbPending, h.luaTimers⟩
  have hrun : Numbered acks timers ((loadProgram lib scripts w.env.root fresh).run
      (Worker.serve nature) (w.loading lib scripts fresh)).2 := hloading.run _
  exact ⟨hrun.nextCtx, hrun.nextTimerId, hrun.dbPending, hrun.luaTimers⟩

theorem cleared (h : Numbered acks timers w) : Numbered acks timers
    { w with env := { w.env with luaTimers := ∅, dbPending := ∅ } } where
  nextCtx := h.nextCtx
  nextTimerId := h.nextTimerId
  dbPending _ _ hk := by cases hk
  luaTimers _ _ hk := by cases hk

theorem reload (h : Numbered acks timers w) (scripts : Scripts σ) (fresh : Option σ) :
    Numbered acks timers (w.reload lib scripts nature fresh).2 := by
  cases fresh with
  | none => exact h
  | some fresh =>
    have hload : Numbered acks timers (w.loadScripts lib scripts nature fresh).2 :=
      h.loadScripts scripts fresh
    simp only [Worker.reload]
    split
    · exact hload.cleared.close w.env.L
    · have hclosed : Numbered acks timers ((w.loadScripts lib scripts nature fresh).2.close lib
          nature (w.loadScripts lib scripts nature fresh).2.env.L) := hload.close _
      exact ⟨hclosed.nextCtx, hclosed.nextTimerId, hclosed.dbPending, hclosed.luaTimers⟩

/-- After a load that succeeds no number from before it is in the tables. -/
theorem reload_success {scripts : Scripts σ} {fresh : Option σ}
    (hok : (w.reload lib scripts nature fresh).1 = true) :
    Numbered w.env.nextCtx w.outside.nextTimerId (w.reload lib scripts nature fresh).2 := by
  cases fresh with
  | none => cases hok
  | some fresh =>
    obtain ⟨hctx, htimer⟩ : Grown w ((loadProgram lib scripts w.env.root fresh).run
        (Worker.serve nature) (w.loading lib scripts fresh)).2 := by
      refine Client.run_invariant (Grown w) (fun w' q h => ?_) _ ⟨le_refl _, le_refl _⟩
      obtain ⟨hctx, htimer⟩ := (w'.serve_served q).grown
      exact ⟨h.1.trans hctx, h.2.trans htimer⟩
    simp only [Worker.reload] at hok ⊢
    split at hok
    · rename_i hload
      rw [if_pos hload]
      -- what the old state registers when it is closed has new numbers too
      refine Numbered.close ?_ w.env.L
      exact ⟨hctx, htimer, fun _ _ hk => (by cases hk), fun _ _ hk => (by cases hk)⟩
    · cases hok

theorem init (h : Numbered acks timers w) (scripts : Scripts σ) (root : Bytes) (ctx : Bool)
    (fresh : Option σ) : Numbered acks timers (w.init lib scripts nature root ctx fresh).2 := by
  have hentered : Numbered acks timers { w with env := { w.env with root, ctx } } :=
    ⟨h.nextCtx, h.nextTimerId, h.dbPending, h.luaTimers⟩
  exact hentered.reload scripts fresh

theorem dispatchC2S (h : Numbered acks timers w) (route : Worker.Route)
    (session playerId seq epoch : Nat) (body : Bytes) : Numbered acks timers
      (w.dispatchC2S lib nature route session playerId seq epoch body).2 := by
  have hcontext : ∀ {w : Worker σ} (c : LuaApiCtx), Numbered acks timers w →
      Numbered acks timers (if w.env.ctx then { w with apiCtx := c } else w) := by
    intro w c h
    split
    · exact ⟨h.nextCtx, h.nextTimerId, h.dbPending, h.luaTimers⟩
    · exact h
  unfold Worker.dispatchC2S
  split
  · exact h
  split
  · exact h
  split
  · exact h
  · exact hcontext _ ((hcontext _ h).call _ _)

theorem dispatchDbAck (h : Numbered acks timers w) (ctx : Nat) (errcode : Int) (errmsg : Bytes)
    (data : Db.Val) :
    Numbered acks timers (w.dispatchDbAck lib nature ctx errcode errmsg data) := by
  unfold Worker.dispatchDbAck
  split
  · exact h
  split
  · exact h
  · exact (h.erase_ack ctx).callAt _ _

theorem onLuaTimerFire (h : Numbered acks timers w) (timerId playerId : Nat) :
    Numbered acks timers (w.onLuaTimerFire lib nature timerId playerId) := by
  have herase := h.erase_timer timerId
  unfold Worker.onLuaTimerFire
  split
  · exact h
  split
  · exact h
  · rename_i info _
    dsimp only
    split
    · exact herase
    · cases info.repeats with
      | false => exact herase.callAt _ _
      | true => exact h.callAt _ _

theorem onPlayerLogout (h : Numbered acks timers w) (playerId : Nat) :
    Numbered acks timers (w.onPlayerLogout lib nature playerId) := by
  unfold Worker.onPlayerLogout
  split
  · exact h
  dsimp only
  split
  · exact (h.cancelLuaTimers _).callAt _ _
  · exact h.callAt _ _

theorem doReloadIfNeeded (h : Numbered acks timers w) (scripts : Scripts σ) (fresh : Option σ) :
    Numbered acks timers (w.doReloadIfNeeded lib scripts nature fresh) := by
  have hinit : Numbered acks timers
      (w.init lib scripts nature w.pendingLuaDir true fresh).2 := h.init scripts _ true fresh
  unfold Worker.doReloadIfNeeded
  dsimp only
  split
  · exact h
  split
  · exact ⟨hinit.nextCtx, hinit.nextTimerId, hinit.dbPending, hinit.luaTimers⟩
  · exact hinit

theorem step (h : Numbered acks timers w) (s : Step σ) (hs : Lua.step lib nature w s = some w') :
    Numbered acks timers w' := by
  cases s <;> cases hs
  case context c => exact ⟨h.nextCtx, h.nextTimerId, h.dbPending, h.luaTimers⟩
  case init root ctx fresh scripts => exact h.init scripts root ctx fresh
  case reload fresh scripts => exact h.reload scripts fresh
  case onReload version dir =>
    unfold Worker.onReload
    split
    · exact h
    · exact ⟨h.nextCtx, h.nextTimerId, h.dbPending, h.luaTimers⟩
  case doReloadIfNeeded fresh scripts => exact h.doReloadIfNeeded scripts fresh
  case shutdown =>
    have hclosed : Numbered acks timers (w.close lib nature w.env.L) := h.close _
    exact ⟨hclosed.nextCtx, hclosed.nextTimerId, fun _ _ hk => (by cases hk),
      fun _ _ hk => (by cases hk)⟩
  case dispatchC2S route session playerId seq epoch body =>
    exact h.dispatchC2S route session playerId seq epoch body
  case dispatchDbAck ctx errcode errmsg data => exact h.dispatchDbAck ctx errcode errmsg data
  case onLuaTimerFire timerId playerId => exact h.onLuaTimerFire timerId playerId
  case onPlayerLogout playerId => exact h.onPlayerLogout playerId
  case callI64 path args => exact h.callAt path _

theorem exec (h : Numbered acks timers w) {steps : List (Step σ)}
    (hrun : Run.exec (Lua.step lib nature) w steps = some w') : Numbered acks timers w' :=
  Run.exec_invariant _ (fun _ s _ hw hs => hw.step s hs) h hrun

theorem initial : Numbered 10000 1 ({} : Worker σ) where
  nextCtx := le_refl _
  nextTimerId := le_refl _
  dbPending _ _ hk := by cases hk
  luaTimers _ _ hk := by cases hk

/-- A callback below the first number is not in the tables: its result or its time leaves the
thread as it is. -/
theorem ack_silent (h : Numbered acks timers w) {ctx : Nat} (hctx : ctx < acks) (errcode : Int)
    (errmsg : Bytes) (data : Db.Val) :
    w.dispatchDbAck lib nature ctx errcode errmsg data = w := by
  have hnone : w.env.dbPending.lookup ctx = none := by
    rw [Option.eq_none_iff_forall_ne_some]
    intro fn hlook
    have := h.dbPending ctx fn hlook
    omega
  unfold Worker.dispatchDbAck
  rw [hnone]
  split <;> rfl

theorem timer_silent (h : Numbered acks timers w) {timerId : Nat} (hid : timerId < timers)
    (playerId : Nat) : w.onLuaTimerFire lib nature timerId playerId = w := by
  have hnone : w.env.luaTimers.lookup timerId = none := by
    rw [Option.eq_none_iff_forall_ne_some]
    intro info hlook
    have := h.luaTimers timerId info hlook
    omega
  unfold Worker.onLuaTimerFire
  rw [hnone]
  split <;> rfl

end Numbered

end Lua
