import GameServer.Lua.CallbackCalls

/-!
# Runs of a thread with its callbacks

A step is what it does before its function, the result it takes, and the calls of the function.
The callbacks are kept along a run exactly if every step meets its condition.
-/

namespace Lua

open Gateway (text)
open Db (Msg Task)
open Db.PendingDbTasks (Persists Sendable Settles HasRoom answers)

variable {σ : Type} {lib : Library σ} {cfg : Db.DeliveryConfig} {nature : Nat → Verdict}
  {rounds : Nat → Round} {t t' : ScriptThread σ} {l : ThreadStep}

/-! ### Steps -/

namespace Worker

variable {w : Worker σ}

theorem SameAcks.refl (w : Worker σ) : SameAcks w w := ⟨rfl, rfl, rfl⟩

theorem SameAcks.trans {w w' w'' : Worker σ} (h : SameAcks w w') (h' : SameAcks w' w'') :
    SameAcks w w'' :=
  ⟨h'.live.trans h.live, h'.dbPending.trans h.dbPending, h'.nextCtx.trans h.nextCtx⟩

theorem within_acks (c : LuaApiCtx) : SameAcks w (w.within c) := by
  unfold within
  split <;> exact ⟨rfl, rfl, rfl⟩

theorem leave_acks (s : Step σ) : SameAcks w (w.leave s) := by
  cases s with
  | dispatchC2S => exact within_acks _
  | _ => exact .refl w

theorem cancelLuaTimers_acks (ids : List Nat) : SameAcks w (ids.foldl cancelLuaTimer w) := by
  induction ids generalizing w with
  | nil => exact .refl w
  | cons id ids ih => exact (cancelLuaTimer_acks id).trans ih

/-- Nothing but a result takes a callback out of the table before its call. -/
theorem enter_acks {s : Step σ} {e : Entered σ} (h : w.enter lib s = some e)
    (hs : ∀ ctx errcode errmsg data, s ≠ .dispatchDbAck ctx errcode errmsg data) :
    SameAcks w e.1 := by
  cases s with
  | dispatchDbAck => exact (hs _ _ _ _ rfl).elim
  | dispatchC2S route session playerId seq epoch body =>
    cases h
    split
    · exact .refl w
    split
    · exact .refl w
    split
    · exact .refl w
    · exact within_acks _
  | onLuaTimerFire timerId playerId =>
    cases h
    split
    · exact .refl w
    split
    · exact .refl w
    dsimp only
    split
    · exact ⟨rfl, rfl, rfl⟩
    · dsimp only [enterAt]
      split <;> exact ⟨rfl, rfl, rfl⟩
  | onPlayerLogout playerId =>
    cases h
    split
    · exact .refl w
    · dsimp only [enterAt]
      split
      · exact cancelLuaTimers_acks _
      · exact .refl w
  | callI64 path args =>
    cases h
    exact .refl w
  | _ => cases h

/-- A result takes its callback out of the table, and then looks for the function. -/
theorem enter_ack (lib : Library σ) {L : LuaState σ} {fn : Gateway.Bytes} {ctx : Nat} (hL : w.env.L = some L)
    (hfn : w.env.dbPending.lookup ctx = some fn) (errcode : Int) (errmsg : Gateway.Bytes)
    (data : Db.Val) : ∃ w' : Worker σ, w'.env = { w.env with dbPending := w.env.dbPending.erase ctx } ∧
      w'.pushFn lib fn = w.pushFn lib fn ∧
      w.enter lib (.dispatchDbAck ctx errcode errmsg data) =
        some (w'.enterAt lib fn [.int ctx, .int errcode, .str errmsg, .val data]) := by
  refine ⟨{ w with env := { w.env with dbPending := w.env.dbPending.erase ctx } }, rfl, rfl, ?_⟩
  simp only [enter, hL, hfn]

end Worker

namespace ScriptThread

/-- The function of a step, with what is done after it. -/
theorem Sound.finish (h : Sound cfg t) (todo : Option (Step σ × LuaState σ × Script σ)) :
    Sound cfg (ScriptThread.finish cfg nature rounds (t, todo)) ∧
      (Exact (ScriptThread.finish cfg nature rounds (t, todo)) ↔ Exact t ∧
        ∀ s L script, todo = some (s, L, script) →
          script.Along (ScriptThread.serve cfg nature rounds) (Admitted cfg rounds) t) := by
  cases todo with
  | none => exact ⟨h, (and_iff_left nofun).symm⟩
  | some todo =>
    obtain ⟨s, L, script⟩ := todo
    obtain ⟨hcall, hexact⟩ : Sound cfg (t.call cfg nature rounds L script) ∧ _ := h.call L script
    obtain ⟨hsound, hleave⟩ := hcall.worker (Worker.leave_acks s)
    refine ⟨hsound, (hleave.trans hexact).trans (and_congr_right fun _ => ?_)⟩
    constructor
    · intro halong s' L' script' heq
      cases heq
      exact halong
    · intro hall
      exact hall s L script rfl

/-- What comes before the function, in a step that is not a result. -/
theorem Sound.prepare (h : Sound cfg t) {todo : Todo σ} (hl : ∀ m r, l ≠ .onDbResult m r)
    (hprepare : t.prepare cfg l = some (t', todo)) :
    Sound cfg t' ∧ (Exact t' ↔ Exact t) ∧ ∀ s log, todo = some (s, log) → log = [] ∧
      ∀ ctx errcode errmsg data, s ≠ .dispatchDbAck ctx errcode errmsg data := by
  have hplayers : ∀ players, Sound cfg { t with players } ∧
      (Exact { t with players } ↔ Exact t) := fun players =>
    ⟨{ h with }, exact_congr rfl rfl rfl fun _ => .rfl⟩
  cases l with
  | onDbResult m r => exact (hl m r rfl).elim
  | getOrCreate playerId session =>
    obtain ⟨⟨p, players⟩, -, heq⟩ := Option.map_eq_some_iff.mp hprepare
    cases heq
    exact ⟨(hplayers players).1, (hplayers players).2, nofun⟩
  | renewEpoch playerId =>
    cases hprepare
    exact ⟨(hplayers _).1, (hplayers _).2, nofun⟩
  | remove playerId =>
    cases hprepare
    exact ⟨(hplayers _).1, (hplayers _).2, nofun⟩
  | onNetMsg route session playerId seq body =>
    cases hprepare
    refine ⟨h, .rfl, fun s log hs => ?_⟩
    unfold ScriptThread.onNetMsg at hs
    split at hs
    · cases hs
      exact ⟨rfl, nofun⟩
    split at hs
    · cases hs
    split at hs
    · cases hs
      exact ⟨rfl, nofun⟩
    · cases hs
  | onTimer timerId playerId epoch =>
    cases hprepare
    refine ⟨h, .rfl, fun s log hs => ?_⟩
    unfold ScriptThread.onTimer at hs
    split at hs
    · cases hs
    · cases hs
      exact ⟨rfl, nofun⟩
  | onPlayerLogout playerId =>
    cases hprepare
    refine ⟨h, .rfl, fun s log hs => ?_⟩
    cases hs
    exact ⟨rfl, nofun⟩
  | callI64 path args =>
    cases hprepare
    refine ⟨h, .rfl, fun s log hs => ?_⟩
    cases hs
    exact ⟨rfl, nofun⟩
  | newTaskId r =>
    cases hprepare
    have hn := h.renumber (n := t.nextTaskId + r.taken + 1) (by omega)
    refine ⟨{ hn with issued := fun m hm => ?_, held := fun id hid => ?_ },
      exact_congr rfl rfl rfl fun _ => .rfl, nofun⟩
    · have hi := h.issued m hm
      refine { hn.issued m hm with free := fun hin => ?_ }
      have hlt := hi.lt
      rcases List.mem_cons.mp hin with heq | hin
      · omega
      · exact hi.free hin
    · rcases List.mem_cons.mp hid with rfl | hid
      · exact Nat.lt_succ_self _
      · exact hn.held id hid
  | submitDbTask request r =>
    obtain ⟨hif, heq⟩ := Option.ite_none_right_eq_some.mp hprepare
    cases heq
    obtain ⟨hsound, hexact⟩ := h.submitDbTask (r := r) hif.1 hif.2
    exact ⟨hsound, hexact, nofun⟩
  | release taskId =>
    cases hprepare
    refine ⟨{ h with issued := fun m hm => ?_, held := fun id hid => ?_ },
      exact_congr rfl rfl rfl fun _ => .rfl, nofun⟩
    · exact { h.issued m hm with free := fun hin => (h.issued m hm).free (List.mem_of_mem_filter hin) }
    · exact h.held id (List.mem_of_mem_filter hid)
  | tick r =>
    obtain ⟨t₁, htick, heq⟩ := Option.map_eq_some_iff.mp hprepare
    cases heq
    obtain ⟨⟨p, sent⟩, hscan, heq⟩ := Option.map_eq_some_iff.mp htick
    cases heq
    obtain ⟨hsound, hexact⟩ := h.persists (Db.PendingDbTasks.tick_persists
      (fun id task hlook => (h.tasks id task hlook).sendable) hscan)
    exact ⟨hsound, hexact, nofun⟩
  | tickControls r =>
    obtain ⟨t₁, htick, heq⟩ := Option.map_eq_some_iff.mp hprepare
    cases heq
    obtain ⟨⟨p, sent⟩, hscan, heq⟩ := Option.map_eq_some_iff.mp htick
    cases heq
    obtain ⟨hsound, hexact⟩ := h.persists (Db.PendingDbTasks.tickControls_persists hscan)
    exact ⟨hsound, hexact, nofun⟩
  | observeStatus m =>
    cases hprepare
    obtain ⟨hsound, hexact⟩ := h.persists (Db.PendingDbTasks.observeStatus_persists m)
    exact ⟨hsound, hexact, nofun⟩

/-- A result settles its task; the callback is not looked at yet. -/
theorem Sound.complete (h : Sound cfg t) {m : Msg} {task : Task} (now : Int)
    (hlook : t.pendingTasks.tasks.lookup m.head.taskId = some task)
    (hctx : task.request.head.ctx = m.head.ctx) :
    let p : Db.PendingDbTasks := { t.pendingTasks with
      tasks := t.pendingTasks.tasks.insert m.head.taskId
        { task with
          state := .completed
          completedAt := now
          result := m
          ackPending := true
          nextTryAt := 0 } }
    Sound cfg { t with pendingTasks := p } ∧ ∀ ctx,
      Outstanding { t with pendingTasks := p } ctx ↔ t.Outstanding ctx ∧ ctx ≠ m.head.ctx := by
  have hnot : ¬ Task.Live { task with
      state := .completed, completedAt := now, result := m, ackPending := true, nextTryAt := 0 } := by
    rintro (hs | hs) <;> cases hs
  refine ⟨{ h with tasks := fun id task' hlook' => ?_ }, fun ctx => ⟨?_, ?_⟩⟩
  · rw [Table.lookup_insert] at hlook'
    split at hlook'
    · rename_i hid
      cases hlook'
      subst hid
      exact (h.tasks _ task hlook).of_old rfl fun hl => absurd hl hnot
    · exact h.tasks id task' hlook'
  · rintro ⟨hne, id, task', hlook', hl, rfl⟩
    dsimp only at hlook'
    rw [Table.lookup_insert] at hlook'
    split at hlook'
    · cases hlook'
      exact absurd hl hnot
    · rename_i hid
      refine ⟨⟨hne, id, task', hlook', hl, rfl⟩, fun heq => hid ?_⟩
      exact h.unique_task hlook hlook' (by rw [hctx, ← heq]; exact hne) (heq.trans hctx.symm)
  · rintro ⟨⟨hne, id, task', hlook', hl, rfl⟩, hother⟩
    refine ⟨hne, id, task', ?_, hl, rfl⟩
    dsimp only
    rw [Table.lookup_insert, if_neg]
    · exact hlook'
    · rintro rfl
      cases hlook.symm.trans hlook'
      exact hother hctx

/-- The callback of a task that is no longer live is taken out of its table. -/
theorem Sound.acked (h : Sound cfg t) {ctx : Nat} {w : Worker σ}
    (hw : w.env = { t.worker.env with dbPending := t.worker.env.dbPending.erase ctx })
    (hdone : ¬ t.Outstanding ctx) : Sound cfg { t with worker := w } := by
  have hsub : ∀ c fn, w.env.dbPending.lookup c = some fn →
      t.worker.env.dbPending.lookup c = some fn := by
    intro c fn hfn
    rw [hw, Table.lookup_erase] at hfn
    split at hfn
    · cases hfn
    · exact hfn
  refine
    { h with
      live := by rw [hw]; exact h.live
      nextCtx := by rw [hw]; exact h.nextCtx
      pending := fun c fn hfn => ?_
      tasks := fun id task hlook => ?_
      issued := fun m hm => ?_
      gone := fun e he => ?_ }
  · rw [hw]
    exact h.pending c fn (hsub c fn hfn)
  · have hb := h.tasks id task hlook
    refine { hb with pending := fun hctx hlive => ?_ }
    dsimp only
    rw [hw, Table.lookup_erase, if_neg]
    · exact hb.pending hctx hlive
    · rintro rfl
      exact hdone ⟨hctx, id, task, hlook, hlive, rfl⟩
  · rw [hw]
    exact h.issued m hm
  · rw [Option.eq_none_iff_forall_ne_some]
    intro fn hfn
    have := h.gone e he
    rw [hsub _ fn hfn] at this
    cases this

/-- A callback that is no longer in its table is recorded as called. -/
theorem Sound.fire (h : Sound cfg t) {e : Fired} {m : Msg}
    (hgone : t.worker.env.dbPending.lookup e.ctx = none) (hnew : ∀ e' ∈ t.fired, e'.ctx ≠ e.ctx)
    (hm : m ∈ t.issued) (hctx : m.head.ctx = e.ctx) (hid : m.head.taskId = e.result.head.taskId)
    (hanswers : answers m e.result = true) : Sound cfg { t with fired := t.fired ++ [e] } := by
  refine { h with gone := fun e' he => ?_, own := fun e' he => ?_, once := ?_ }
  · rcases List.mem_append.mp he with he | he
    · exact h.gone e' he
    · cases List.mem_singleton.mp he
      exact hgone
  · rcases List.mem_append.mp he with he | he
    · exact h.own e' he
    · cases List.mem_singleton.mp he
      exact ⟨m, hm, hctx, hid, hanswers⟩
  · dsimp only
    rw [List.map_append, List.nodup_append]
    refine ⟨h.once, by simp, fun a ha b hb => ?_⟩
    obtain ⟨e', he', rfl⟩ := List.mem_map.mp ha
    rw [List.mem_singleton.mp hb]
    exact hnew e' he'

/-- What an answer has in common with its request. -/
theorem answers_head {request result : Msg} (h : answers request result = true) :
    request.head.playerId = result.head.playerId ∧ request.head.epoch = result.head.epoch ∧
      request.head.ctx = result.head.ctx := by
  simp only [Db.PendingDbTasks.answers, decide_eq_true_eq] at h
  exact ⟨h.1, h.2.1, h.2.2.2.2.2.1⟩

/-- For a player with an actor the check lets the epoch of the actor pass. -/
theorem Current.valid {m : Msg} (h : t.Current m) :
    m.head.playerId = 0 ∨ t.players.validateEpoch m.head.playerId m.head.epoch = true := by
  refine h.imp id fun h => ?_
  obtain ⟨p, hp, heq⟩ := Option.map_eq_some_iff.mp h
  unfold Scene.PlayerManager.validateEpoch
  rw [hp]
  simp [heq]

/-- Behind the task table: the message may be nobody's, out of date, or the callback's. -/
theorem Sound.deliver (h : Sound cfg t) (hx : Exact t) {m : Msg} {res : Db.DbResult} {task : Task}
    {p : Db.PendingDbTasks} {todo : Option (Step σ × LuaState σ × Script σ)}
    (hlook : t.pendingTasks.tasks.lookup m.head.taskId = some task) (hlive : task.Live)
    (hanswers : answers task.request m = true) (hsound : Sound cfg { t with pendingTasks := p })
    (hout : ∀ ctx, Outstanding { t with pendingTasks := p } ctx ↔
      t.Outstanding ctx ∧ ctx ≠ m.head.ctx)
    (henter : enterTodo lib { t with pendingTasks := p } (t.deliver m res) = some (t', todo)) :
    Sound cfg t' ∧ (Exact t' ↔ (m.head.ctx ≠ 0 → t.Current m ∨
      (t.players.validateEpoch m.head.playerId m.head.epoch = true ∧
        t.Missing lib m.head.ctx))) := by
  obtain ⟨hplayer, hepoch, hctx⟩ := answers_head hanswers
  have hb := h.tasks _ task hlook
  have hplain : m.head.ctx = 0 → Exact { t with pendingTasks := p } := by
    intro hzero
    have hsame : Exact { t with pendingTasks := p } ↔ Exact t := by
      refine exact_congr rfl rfl rfl fun ctx => (hout ctx).trans ?_
      exact and_iff_left_of_imp fun ho => hzero ▸ ho.1
    exact hsame.mpr hx
  unfold ScriptThread.deliver at henter
  split at henter
  · rename_i hheld
    cases henter
    have hzero : m.head.ctx = 0 := by
      by_contra hne
      rw [← hctx] at hne
      exact (h.issued _ (hb.issued hne)).free (by rw [hb.taskId]; exact hheld)
    exact ⟨hsound, iff_of_true (hplain hzero) fun hne => absurd hzero hne⟩
  by_cases hzero : m.head.ctx = 0
  · have hnone : todo = none ∧ t' = { t with pendingTasks := p } := by
      split at henter
      · cases henter
        exact ⟨rfl, rfl⟩
      · cases henter
        exact ⟨rfl, rfl⟩
    obtain ⟨rfl, rfl⟩ := hnone
    exact ⟨hsound, iff_of_true (hplain hzero) fun hne => absurd hzero hne⟩
  obtain ⟨fn, hfn⟩ : ∃ fn, t.worker.env.dbPending.lookup m.head.ctx = some fn :=
    Option.isSome_iff_exists.mp (hctx ▸ hb.pending (by rw [hctx]; exact hzero) hlive)
  split at henter
  · rename_i hstale
    cases henter
    refine ⟨hsound, iff_of_false (fun he => ?_) fun hcond => ?_⟩
    · exact ((hout _).mp (he.entries m.head.ctx fn hfn)).2 rfl
    · rw [Bool.not_eq_true'] at hstale
      rcases hcond hzero with hcur | ⟨hvalid, -⟩
      · rcases hcur.valid with hzero | hvalid
        · exact hstale.1 hzero
        · rw [hstale.2] at hvalid
          cases hvalid
      · rw [hstale.2] at hvalid
        cases hvalid
  rename_i hpass
  have hvalid : m.head.playerId = 0 ∨
      t.players.validateEpoch m.head.playerId m.head.epoch = true := by
    by_cases hp : m.head.playerId = 0
    · exact .inl hp
    · exact .inr (by simpa [hp] using hpass)
  obtain ⟨L, hL⟩ := Option.ne_none_iff_exists'.mp h.live
  have hmissing : t.Missing lib m.head.ctx ↔ t.worker.pushFn lib fn = none := by
    constructor
    · exact fun hmiss => hmiss fn hfn
    · intro hnone fn' hfn'
      cases hfn.symm.trans hfn'
      exact hnone
  have hgone : ¬ Outstanding { t with pendingTasks := p } m.head.ctx := fun ho =>
    ((hout _).mp ho).2 rfl
  obtain ⟨w, henv, hpush, hworker⟩ := Worker.enter_ack lib hL hfn res.errcode res.errmsg
    res.data
  dsimp only [enterTodo] at henter
  rw [hworker, Option.map_some, Worker.enterAt, hpush] at henter
  have hacked : Sound cfg { t with pendingTasks := p, worker := w } := hsound.acked henv hgone
  have hentries : ∀ ctx fn', w.env.dbPending.lookup ctx = some fn' →
      Outstanding { t with pendingTasks := p } ctx := by
    intro ctx fn' hfn'
    rw [henv, Table.lookup_erase] at hfn'
    split at hfn'
    · cases hfn'
    · rename_i hne
      exact (hout ctx).mpr ⟨hx.entries ctx fn' hfn', hne⟩
  cases hfun : t.worker.pushFn lib fn with
  | none =>
    rw [hfun] at henter
    cases henter
    refine ⟨hacked, iff_of_true ⟨hentries, hx.current⟩ fun _ => ?_⟩
    rcases hvalid with hp | hvalid
    · exact .inl (.inl hp)
    · exact .inr ⟨hvalid, hmissing.mpr hfun⟩
  | some Lf =>
    rw [hfun] at henter
    cases henter
    have hin : task.request ∈ t.issued := hb.issued (by rw [hctx]; exact hzero)
    have hnone : w.env.dbPending.lookup m.head.ctx = none := by
      rw [henv, Table.lookup_erase, if_pos rfl]
    refine ⟨hacked.fire hnone (fun e' he' hsame => ?_) hin hctx hb.taskId hanswers, ?_⟩
    · have hold := h.gone e' he'
      rw [hsame, hfn] at hold
      cases hold
    constructor
    · intro hx' _
      refine .inl ?_
      have hcur := hx'.current _ (List.mem_append_right _ (List.mem_singleton_self _)) _ hin hctx
      rw [hplayer, hepoch] at hcur
      exact hcur
    · intro hcond
      refine ⟨hentries, fun e' he' m' hm' hsame => ?_⟩
      rcases List.mem_append.mp he' with he' | he'
      · exact hx.current e' he' m' hm' hsame
      · cases List.mem_singleton.mp he'
        rw [h.unique hm' hin (hsame.trans hctx.symm), hplayer, hepoch]
        rcases hcond hzero with hcur | ⟨-, hmiss⟩
        · exact hcur
        · rw [hmissing.mp hmiss] at hfun
          cases hfun

/-- The result of a task, up to the call of its callback. -/
theorem Sound.onDbResult (h : Sound cfg t) (hx : Exact t) {m : Msg} {r : Round}
    {todo : Option (Step σ × LuaState σ × Script σ)}
    (henter : t.enter lib cfg (.onDbResult m r) = some (t', todo)) :
    Sound cfg t' ∧ (Exact t' ↔ t.Expected lib (.onDbResult m r)) := by
  obtain ⟨⟨t₁, todo₁⟩, hprepare, hrest⟩ := Option.bind_eq_some_iff.mp henter
  obtain ⟨hid, hprepare⟩ := Option.ite_none_left_eq_some.mp hprepare
  unfold ScriptThread.onDbResult at hprepare
  cases hdecode : Db.DbResult.decode m.body with
  | none =>
    rw [hdecode] at hprepare
    cases hprepare
    cases hrest
    refine ⟨h, iff_of_true hx fun _ hsome => ?_⟩
    rw [hdecode] at hsome
    cases hsome
  | some res =>
    rw [hdecode] at hprepare
    dsimp only at hprepare
    rw [if_neg hid] at hprepare
    have hspec : t.pendingTasks.complete m r.now = (false, t.pendingTasks) ∨ _ :=
      t.pendingTasks.complete_spec m
    rcases hspec with hcomplete | ⟨task, hlook, hstate, hanswers, hcomplete⟩
    · rw [hcomplete] at hprepare
      obtain ⟨t₂, htick, heq⟩ := Option.map_eq_some_iff.mp hprepare
      cases heq
      cases hrest
      obtain ⟨⟨p, sent⟩, hscan, heq⟩ := Option.map_eq_some_iff.mp htick
      cases heq
      obtain ⟨hsound, hexact⟩ :=
        h.persists (t.pendingTasks.acknowledgeDuplicate_persists m)
      obtain ⟨hsound', hexact'⟩ :=
        hsound.persists (Db.PendingDbTasks.tickControls_persists hscan)
      refine ⟨hsound', iff_of_true ((hexact'.trans hexact).mpr hx) fun _ _ hsettles => ?_⟩
      have := (Db.PendingDbTasks.complete_iff m r.now).mpr hsettles
      rw [hcomplete] at this
      cases this
    · rw [hcomplete] at hprepare
      cases hprepare
      obtain ⟨hsound, hout⟩ := h.complete r.now hlook (answers_head hanswers).2.2
      obtain ⟨hsound', hexact⟩ := h.deliver hx hlook (.inr hstate) hanswers hsound hout hrest
      refine ⟨hsound', hexact.trans ⟨fun hcond _ _ _ => hcond, fun hcond => ?_⟩⟩
      exact hcond hid (by rw [hdecode]; rfl) ⟨task, hlook, hstate, hanswers⟩

/-- A step up to its call into the scripts. -/
theorem Sound.enter (h : Sound cfg t) (hx : Exact t)
    {todo : Option (Step σ × LuaState σ × Script σ)} (henter : t.enter lib cfg l = some (t', todo)) :
    Sound cfg t' ∧ (Exact t' ↔ t.Expected lib l) := by
  by_cases hl : ∀ m r, l ≠ .onDbResult m r
  swap
  · simp only [ne_eq, not_forall, not_not] at hl
    obtain ⟨m, r, rfl⟩ := hl
    exact h.onDbResult hx henter
  have hexpected : t.Expected lib l := by
    cases l with
    | onDbResult m r => exact (hl m r rfl).elim
    | _ => trivial
  obtain ⟨⟨t₁, todo₁⟩, hprepare, hrest⟩ := Option.bind_eq_some_iff.mp henter
  obtain ⟨hsound, hexact, hlog⟩ := h.prepare hl hprepare
  have hx₁ := hexact.mpr hx
  cases todo₁ with
  | none =>
    cases hrest
    exact ⟨hsound, iff_of_true hx₁ hexpected⟩
  | some todo₁ =>
    obtain ⟨s, log⟩ := todo₁
    obtain ⟨rfl, hs⟩ := hlog s log rfl
    obtain ⟨⟨w, prog⟩, hw, heq⟩ := Option.map_eq_some_iff.mp hrest
    obtain ⟨hsound', hexact'⟩ := hsound.worker (Worker.enter_acks hw hs)
    have ht' : t' = { t₁ with worker := w } := by
      cases prog with
      | none =>
        cases heq
        rfl
      | some prog =>
        cases heq
        rw [List.append_nil]
    rw [ht']
    exact ⟨hsound', iff_of_true (hexact'.mpr hx₁) hexpected⟩

theorem Sound.step (h : Sound cfg t) (hx : Exact t)
    (hstep : t.step lib cfg nature rounds l = some t') :
    Sound cfg t' ∧ (Exact t' ↔ t.Timely lib cfg nature rounds l) := by
  obtain ⟨⟨t₁, todo⟩, henter, heq⟩ := Option.map_eq_some_iff.mp hstep
  obtain ⟨hsound, hexact⟩ := h.enter hx henter
  obtain ⟨hsound', hexact'⟩ : Sound cfg (ScriptThread.finish cfg nature rounds (t₁, todo)) ∧ _ :=
    hsound.finish todo
  rw [heq] at hsound' hexact'
  refine ⟨hsound', hexact'.trans (and_congr hexact ⟨fun hall t₂ s L script h₂ => ?_, ?_⟩)⟩
  · cases henter.symm.trans h₂
    exact hall s L script rfl
  · intro hall s L script htodo
    exact hall t₁ s L script (htodo ▸ henter)

/-- A result that settles a task can always be taken. -/
theorem timely_of_none (h : t.step lib cfg nature rounds l = none) :
    t.Timely lib cfg nature rounds l := by
  have hnone : t.enter lib cfg l = none := Option.map_eq_none_iff.mp h
  refine ⟨?_, fun t' s L script hsome => ?_⟩
  swap
  · rw [hnone] at hsome
    cases hsome
  cases l with
  | onDbResult m r =>
    intro hid hdecode hsettles
    obtain ⟨res, hres⟩ := Option.isSome_iff_exists.mp hdecode
    have hcomplete := (Db.PendingDbTasks.complete_iff m r.now).mpr hsettles
    have hprepare : ∃ t₁, t.prepare cfg (.onDbResult m r) = some (t₁, t.deliver m res) := by
      dsimp only [ScriptThread.prepare, ScriptThread.onDbResult]
      rw [if_neg hid, hres]
      dsimp only
      rw [if_neg hid]
      cases hc : t.pendingTasks.complete m r.now with
      | mk ok p =>
        rw [hc] at hcomplete
        cases hcomplete
        exact ⟨_, rfl⟩
    obtain ⟨t₁, hprepare⟩ := hprepare
    have henter : enterTodo lib t₁ (t.deliver m res) = none := by
      have := hnone
      unfold ScriptThread.enter at this
      rwa [hprepare, Option.bind_some] at this
    unfold ScriptThread.deliver at henter
    split at henter
    · cases henter
    split at henter
    · cases henter
    split at henter
    · cases henter
    · dsimp only [enterTodo] at henter
      cases Option.map_eq_none_iff.mp henter
  | _ => trivial

theorem sound_start (L : LuaState σ) (c : LuaApiCtx) : Sound cfg (start cfg L c) where
  live := nofun
  nextCtx := Nat.succ_pos 9999
  pending _ _ h := by cases h
  tasks _ _ h := by cases h
  issued _ h := by cases h
  single := List.nodup_nil
  held _ h := by cases h
  gone _ h := by cases h
  own _ h := by cases h
  once := List.nodup_nil

theorem exact_start (L : LuaState σ) (c : LuaApiCtx) : Exact (start cfg L c) where
  entries _ _ h := by cases h
  current _ h := by cases h

/-- Wherever a run comes the callbacks are kept, exactly if all calls of scripts on the way are
admitted and every result of a task with a callback comes to the actor of the call. -/
theorem callbacks_kept_iff (lib : Library σ) (cfg : Db.DeliveryConfig) (nature : Nat → Verdict)
    (rounds : Nat → Round) (L : LuaState σ) (c : LuaApiCtx) (ls : List ThreadStep) :
    (∀ ms t, ms <+: ls → Run.exec (step lib cfg nature rounds) (start cfg L c) ms = some t →
      CallbacksKept t) ↔
    Run.Along (step lib cfg nature rounds) (Timely lib cfg nature rounds) (start cfg L c) ls := by
  refine Run.visited_iff_along (Sound cfg) CallbacksKept (fun s l h => timely_of_none h)
    (fun s l t hs hk hstep => ?_) (sound_start L c) ((sound_start L c).kept_iff.mpr (exact_start L c))
  obtain ⟨hsound, hexact⟩ := hs.step (hs.kept_iff.mp hk) hstep
  exact ⟨hsound, hsound.kept_iff.trans hexact⟩

/-! ### A callback left behind -/

/-- A script that asks the database when a message comes. -/
def askingLibrary : Library Unit where
  ref s := (0, s)
  packagePath _ := none
  setPackagePath s _ := s
  registerAll := id
  function _ _ := some fun _ =>
    .call (.dbQuery (some (text "SELECT 1")) none (text "bag.on_ack")) fun _ => .done (true, ())
  bodyToTable _ _ := true
  close _ := .done ()

/-- The answer to the first call of player 7, made while its actor had epoch 1. -/
def firstResult : Msg where
  head :=
    { msgType := .dbResultMySql, taskId := 1, ctx := 10000, module := 1, playerId := 7, epoch := 1,
      session := 1 }
  body := ({} : Db.DbResult).encode

/-- The player gets a new session before the answer comes. -/
def reboundRun : List ThreadStep :=
  [.getOrCreate 7 1, .onNetMsg ⟨text "bag.open", [], 10, 1⟩ 1 7 5 [], .getOrCreate 7 2,
    .onDbResult firstResult {}]

/-- The task is settled and its callback is still in the table, which no result takes out again. -/
theorem callback_left_behind : ∃ t, Run.exec
    (step askingLibrary {} (fun _ => {}) (fun _ => {}))
      (start {} { apiCtx := true, globals := () } { env := true }) reboundRun = some t ∧
    t.worker.env.dbPending.lookup 10000 = some (text "bag.on_ack") ∧ ¬ CallbacksKept t := by
  refine ⟨_, rfl, rfl, fun h => ?_⟩
  obtain ⟨-, id, task, hlook, hlive, -⟩ := (h.entries 10000).mp rfl
  cases List.mem_singleton.mp (Table.mem_entries.mpr hlook)
  rcases hlive with hs | hs <;> cases hs

end ScriptThread

end Lua
