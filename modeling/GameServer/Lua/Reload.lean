import GameServer.Lua.Callbacks

/-!
# What a reload leaves

The scripts of a load register their callbacks in the same tables as the scripts that run.
To say what they registered themselves, the load is tried at a desk with tables of its own
that begin empty: the desk answers every call as the environment does, so the scripts do the
same at both, and the tables after a load are those of the desk over those before. The
finalizers of a state that is closed are tried in the same way.

A load that succeeds empties the tables, and what the new scripts registered goes with what
the old ones had; the finalizers of the old scripts register theirs afterwards. A load that fails
gives back the old state and nothing else.
-/

namespace Lua

open Gateway (Bytes text)

variable {σ : Type} {lib : Library σ} {scripts : Scripts σ} {nature : Nat → Verdict}
  {w w' start : Worker σ}

/-- The registrations of a load by themselves, and the timers it cancelled. -/
structure Desk where
  calls : Nat
  nextTimerId : Nat
  nextCtx : Nat
  acks : Table Nat Bytes := ∅
  timers : Table Nat LuaTimerInfo := ∅
  cancelled : List Nat := []

namespace Desk

variable (d : Desk) (nature : Nat → Verdict)

/-- `timer` says whether the environment has a timer service. -/
def addTimer (v : Verdict) (timer : Bool) (c : LuaApiCtx) (fnPath : Bytes) (repeats : Bool) :
    Nat × Desk :=
  if !timer then (0, d)
  else
    let timerId := d.nextTimerId + v.taken
    let d := { d with nextTimerId := timerId + 1 }
    if !v.accepted then (0, d)
    else
      let info : LuaTimerInfo := { fnPath, repeats, playerId := c.currentPlayerId }
      (timerId, { d with timers := d.timers.insert timerId info })

def answer (v : Verdict) (timer : Bool) (c : LuaApiCtx) : Request → Answer × Desk
  | .db _ _ _ cb =>
    (if v.accepted then .id d.nextCtx else .fail (text "db queue full"),
      { d with acks := d.acks.insert d.nextCtx cb, nextCtx := d.nextCtx + 1 })
  | .timer _ fn repeats =>
    let (id, d) := d.addTimer v timer c fn repeats
    (if id = 0 then .fail (text "timer service unavailable") else .id id, d)
  | .cancel id => (.ok, { d with timers := d.timers.erase id, cancelled := id :: d.cancelled })

def counted : Desk := { d with calls := d.calls + 1 }

def serve (timer : Bool) (found : Option LuaApiCtx) (d : Desk) (q : ApiCall) : Answer × Desk :=
  match q.request found with
  | .error err => (.fail err, d.counted)
  | .ok (c, r) => d.counted.answer (nature d.calls) timer c r

/-- The desk goes on with empty tables. -/
def emptied : Desk := { d with acks := ∅, timers := ∅, cancelled := [] }

/-- The desk when a load begins. -/
def opened (w : Worker σ) : Desk where
  calls := w.outside.calls
  nextTimerId := w.outside.nextTimerId
  nextCtx := w.env.nextCtx

end Desk

namespace Worker

variable (w : Worker σ)

/-- Whether `ctx_->timer` can be reached. -/
def timed : Bool := w.context.any (·.timer)

/-- A load tried at the desk: whether it succeeds, the state it leaves, and what it registers. -/
def tried (lib : Library σ) (scripts : Scripts σ) (nature : Nat → Verdict) (fresh : σ) :
    (Bool × σ) × Desk :=
  (loadProgram lib scripts w.env.root fresh).run (Desk.serve nature w.timed w.context)
    (Desk.opened w)

/-- The finalizers of a state tried at the desk. -/
def triedClose (lib : Library σ) (nature : Nat → Verdict) (d : Desk) :
    Option (LuaState σ) → Desk
  | none => d
  | some L =>
    let found := if L.apiCtx then some w.apiCtx else none
    ((lib.close L.globals).run (Desk.serve nature w.timed found) d).2

end Worker

/-- The environment while scripts run, beside the desk that they are tried at. -/
structure Follows (start w : Worker σ) (d : Desk) : Prop where
  rest : w = { start with
    env := { start.env with
      dbPending := w.env.dbPending, nextCtx := w.env.nextCtx, luaTimers := w.env.luaTimers }
    outside := w.outside }
  calls : d.calls = w.outside.calls
  nextTimerId : d.nextTimerId = w.outside.nextTimerId
  nextCtx : d.nextCtx = w.env.nextCtx
  acks : ∀ ctx, w.env.dbPending.lookup ctx =
    (d.acks.lookup ctx).or (start.env.dbPending.lookup ctx)
  timers : ∀ id, w.env.luaTimers.lookup id =
    (d.timers.lookup id).or (if id ∈ d.cancelled then none else start.env.luaTimers.lookup id)

namespace Follows

variable {d : Desk} {c : LuaApiCtx}

theorem opened (w : Worker σ) : Follows w w (Desk.opened w) where
  rest := rfl
  calls := rfl
  nextTimerId := rfl
  nextCtx := rfl
  acks _ := rfl
  timers _ := rfl

theorem setL (h : Follows start w d) (L : Option (LuaState σ)) :
    Follows { start with env := { start.env with L } } { w with env := { w.env with L } } d where
  rest := by
    conv_lhs => rw [h.rest]
  calls := h.calls
  nextTimerId := h.nextTimerId
  nextCtx := h.nextCtx
  acks := h.acks
  timers := h.timers

theorem counted (h : Follows start w d) : Follows start w.counted d.counted where
  rest := by
    conv_lhs => rw [Worker.counted, h.rest]
    rfl
  calls := congrArg (· + 1) h.calls
  nextTimerId := h.nextTimerId
  nextCtx := h.nextCtx
  acks := h.acks
  timers := h.timers

/-- The context of a load is that of its beginning. -/
theorem context (h : Follows start w d) : w.context = start.context := by
  rw [h.rest]
  rfl

theorem registry (h : Follows start w d) : w.registry = start.registry := by
  rw [h.rest]
  rfl

theorem apiCtx (h : Follows start w d) : w.apiCtx = start.apiCtx := by
  rw [h.rest]

theorem addTimer (h : Follows start w d) (v : Verdict) (ms : Int) (fn : Bytes) (repeats : Bool) :
    (w.addLuaTimer v c.currentPlayerId c.currentSession c.currentEpoch ms repeats fn).1 =
        (d.addTimer v start.timed c fn repeats).1 ∧
      Follows start
        (w.addLuaTimer v c.currentPlayerId c.currentSession c.currentEpoch ms repeats fn).2
        (d.addTimer v start.timed c fn repeats).2 := by
  unfold Worker.addLuaTimer Desk.addTimer Worker.timed
  rw [← h.context]
  cases w.context with
  | none => exact ⟨rfl, h⟩
  | some bound =>
  simp only [Option.any_some, h.nextTimerId]
  split
  · exact ⟨rfl, h⟩
  split
  · refine ⟨rfl, ?_, h.calls, rfl, h.nextCtx, h.acks, h.timers⟩
    conv_lhs => rw [h.rest]
  · refine ⟨rfl, ?_, h.calls, rfl, h.nextCtx, h.acks, fun id => ?_⟩
    · conv_lhs => rw [h.rest]
    · simp only [Table.lookup_insert]
      split
      · rfl
      · exact h.timers id

theorem sendDb (h : Follows start w d) (v : Verdict) (msgType : Db.MsgType) (task : Db.DbTask)
    (shard : Nat) (cb : Bytes) :
    (w.sendDb v c msgType task shard cb).1 =
        (d.answer v start.timed c (.db msgType task shard cb)).1 ∧
      Follows start (w.sendDb v c msgType task shard cb).2
        (d.answer v start.timed c (.db msgType task shard cb)).2 := by
  have hacks : ∀ k, (w.env.dbPending.insert w.env.nextCtx cb).lookup k =
      ((d.acks.insert d.nextCtx cb).lookup k).or (start.env.dbPending.lookup k) := by
    intro k
    simp only [Table.lookup_insert, h.nextCtx]
    split
    · rfl
    · exact h.acks k
  have hnext := congrArg (· + 1) h.nextCtx
  unfold Worker.sendDb Desk.answer
  cases v.accepted with
  | true =>
    refine ⟨by simp [LuaEnv.registerDbAck, h.nextCtx], ?_, h.calls, h.nextTimerId, hnext, hacks,
      h.timers⟩
    conv_lhs => rw [h.rest]
    rfl
  | false =>
    refine ⟨rfl, ?_, h.calls, h.nextTimerId, hnext, hacks, h.timers⟩
    conv_lhs => rw [h.rest]
    rfl

theorem cancel (h : Follows start w d) (id : Nat) : Follows start (w.cancelLuaTimer id)
    { d with timers := d.timers.erase id, cancelled := id :: d.cancelled } := by
  have htimers : ∀ k, (w.env.luaTimers.erase id).lookup k =
      ((d.timers.erase id).lookup k).or
        (if k ∈ id :: d.cancelled then none else start.env.luaTimers.lookup k) := by
    intro k
    simp only [Table.lookup_erase, List.mem_cons]
    split
    · simp [*]
    · simpa [*] using h.timers k
  unfold Worker.cancelLuaTimer Worker.cancelTimer
  split
  · refine ⟨?_, h.calls, h.nextTimerId, h.nextCtx, h.acks, htimers⟩
    conv_lhs => rw [h.rest]
  · refine ⟨?_, h.calls, h.nextTimerId, h.nextCtx, h.acks, htimers⟩
    conv_lhs => rw [h.rest]

/-- The desk answers a call as the environment does, and keeps beside it. -/
theorem reply (h : Follows start w d) (found : Option LuaApiCtx) (q : ApiCall) :
    (w.reply nature found q).1 = (d.serve nature start.timed found q).1 ∧
      Follows start (w.reply nature found q).2 (d.serve nature start.timed found q).2 := by
  have hcounted := h.counted
  unfold Worker.reply Desk.serve
  rw [h.calls]
  cases hrequest : q.request found with
  | error err => exact ⟨rfl, hcounted⟩
  | ok made =>
    obtain ⟨c, r⟩ := made
    cases r with
    | db msgType task shard cb => exact hcounted.sendDb _ msgType task shard cb
    | timer ms fn repeats =>
      obtain ⟨hid, hfollows⟩ := hcounted.addTimer (c := c) (nature w.outside.calls) ms fn repeats
      refine ⟨?_, hfollows⟩
      simp only [Worker.answer, Desk.answer, hid]
    | cancel id => exact ⟨rfl, hcounted.cancel id⟩

theorem serve (h : Follows start w d) (hstart : start.registry = start.context) (q : ApiCall) :
    (w.serve nature q).1 = (d.serve nature start.timed start.context q).1 ∧
      Follows start (w.serve nature q).2 (d.serve nature start.timed start.context q).2 := by
  unfold Worker.serve
  rw [h.registry, hstart]
  exact h.reply start.context q

theorem close (h : Follows start w d) (L : Option (LuaState σ)) :
    Follows start (w.close lib nature L) (start.triedClose lib nature d L) := by
  cases L with
  | none => exact h
  | some L =>
    refine ((lib.close L.globals).run_simulates (Follows start) (fun w d q hw => ?_) h).2
    unfold Worker.closing
    rw [hw.apiCtx]
    exact hw.reply _ q

end Follows

/-- The callbacks of a desk have the numbers from `acks` and `timers` on, up to the next ones. -/
structure Desk.Numbered (acks timers : Nat) (d : Desk) : Prop where
  nextCtx : acks ≤ d.nextCtx
  nextTimerId : timers ≤ d.nextTimerId
  acks : ∀ ctx fn, d.acks.lookup ctx = some fn → acks ≤ ctx ∧ ctx < d.nextCtx
  timers : ∀ id info, d.timers.lookup id = some info → timers ≤ id ∧ id < d.nextTimerId

namespace Desk.Numbered

variable {acks timers : Nat} {d : Desk}

theorem addTimer (h : Numbered acks timers d) (v : Verdict) (timer : Bool) (c : LuaApiCtx)
    (fn : Bytes) (repeats : Bool) : Numbered acks timers (d.addTimer v timer c fn repeats).2 := by
  have hnext : timers ≤ d.nextTimerId + v.taken + 1 := by
    have := h.nextTimerId
    omega
  have hold : ∀ id info, d.timers.lookup id = some info →
      timers ≤ id ∧ id < d.nextTimerId + v.taken + 1 := by
    intro id info hid
    have := h.timers id info hid
    omega
  unfold Desk.addTimer
  split
  · exact h
  dsimp only
  split
  · exact ⟨h.nextCtx, hnext, h.acks, hold⟩
  · refine ⟨h.nextCtx, hnext, h.acks, fun id info hid => ?_⟩
    rw [Table.lookup_insert] at hid
    split at hid
    · have := h.nextTimerId
      dsimp only
      omega
    · exact hold id info hid

theorem answer (h : Numbered acks timers d) (v : Verdict) (timer : Bool) (c : LuaApiCtx)
    (r : Request) : Numbered acks timers (d.answer v timer c r).2 := by
  cases r with
  | db msgType task shard cb =>
    have hnext := h.nextCtx
    refine ⟨Nat.le_succ_of_le hnext, h.nextTimerId, fun ctx fn hctx => ?_, h.timers⟩
    simp only [Desk.answer, Table.lookup_insert] at hctx ⊢
    split at hctx
    · omega
    · have := h.acks ctx fn hctx
      omega
  | timer ms fn repeats => exact h.addTimer v timer c fn repeats
  | cancel id =>
    refine ⟨h.nextCtx, h.nextTimerId, h.acks, fun k info hk => ?_⟩
    simp only [Desk.answer, Table.lookup_erase] at hk
    split at hk
    · cases hk
    · exact h.timers k info hk

theorem serve (h : Numbered acks timers d) (timer : Bool) (found : Option LuaApiCtx)
    (q : ApiCall) : Numbered acks timers (d.serve nature timer found q).2 := by
  have hcounted : Numbered acks timers d.counted := ⟨h.nextCtx, h.nextTimerId, h.acks, h.timers⟩
  unfold Desk.serve
  split
  · exact hcounted
  · exact hcounted.answer _ _ _ _

theorem tried (w : Worker σ) (fresh : σ) :
    Numbered w.env.nextCtx w.outside.nextTimerId (w.tried lib scripts nature fresh).2 :=
  (loadProgram lib scripts w.env.root fresh).run_invariant _
    (fun _ q hd => hd.serve w.timed w.context q)
    ⟨le_refl _, le_refl _, fun _ _ hk => (by cases hk), fun _ _ hk => (by cases hk)⟩

theorem emptied (d : Desk) : Numbered d.nextCtx d.nextTimerId d.emptied :=
  ⟨le_refl _, le_refl _, fun _ _ hk => (by cases hk), fun _ _ hk => (by cases hk)⟩

theorem triedClose (h : Numbered acks timers d) (w : Worker σ) (L : Option (LuaState σ)) :
    Numbered acks timers (w.triedClose lib nature d L) := by
  cases L with
  | none => exact h
  | some L =>
    exact (lib.close L.globals).run_invariant _ (fun _ q hd => hd.serve w.timed _ q) h

end Desk.Numbered

/-- The environment after a load, by what is done at the desk. -/
structure Loaded (w : Worker σ) (ref : Int) (files : List Bytes) (d : Desk) (env : LuaEnv σ) :
    Prop where
  root : env.root = w.env.root
  msghRef : env.msghRef = ref
  scriptFiles : env.scriptFiles = files
  acks : ∀ ctx, env.dbPending.lookup ctx =
    (d.acks.lookup ctx).or (w.env.dbPending.lookup ctx)
  timers : ∀ id, env.luaTimers.lookup id =
    (d.timers.lookup id).or (if id ∈ d.cancelled then none else w.env.luaTimers.lookup id)

/-- What a load begins with, but for the state. -/
abbrev Worker.begun (w : Worker σ) (lib : Library σ) (scripts : Scripts σ) (fresh : σ)
    (L : Option (LuaState σ)) : Worker σ :=
  let start := w.loading lib scripts fresh
  { start with env := { start.env with L } }

theorem Follows.loaded {fresh : σ} {L : Option (LuaState σ)} {d : Desk}
    (h : Follows (start.begun lib scripts fresh L) w d) :
    Loaded start (prepare lib start.env.root fresh).1 (listScripts scripts.readdir start.env.root)
      d w.env := by
  have hroot := congrArg (·.env.root) h.rest
  have hmsghRef := congrArg (·.env.msghRef) h.rest
  have hfiles := congrArg (·.env.scriptFiles) h.rest
  exact ⟨hroot, hmsghRef, hfiles, h.acks, h.timers⟩

/-- A load does what it does at the desk, and leaves a state. -/
theorem loadScripts_spec (lib : Library σ) (scripts : Scripts σ) (nature : Nat → Verdict)
    (w : Worker σ) (fresh : σ) :
    let t := w.tried lib scripts nature fresh
    let L : Option (LuaState σ) := some { apiCtx := w.env.ctx, globals := t.1.2 }
    let r := w.loadScripts lib scripts nature fresh
    r.1 = t.1.1 ∧ r.2.env.L = L ∧ Follows (w.begun lib scripts fresh L) r.2 t.2 := by
  have hopened : Follows (w.loading lib scripts fresh) (w.loading lib scripts fresh)
      (Desk.opened w) := ⟨rfl, rfl, rfl, rfl, fun _ => rfl, fun _ => rfl⟩
  have hregistry : (w.loading lib scripts fresh).registry =
      (w.loading lib scripts fresh).context := rfl
  obtain ⟨hresult, hfollows⟩ := (loadProgram lib scripts w.env.root fresh).run_simulates
    (Follows (w.loading lib scripts fresh)) (fun _ _ q h => h.serve hregistry q) hopened
  have hctx := congrArg (·.env.ctx) hfollows.rest
  have hL : (w.loadScripts lib scripts nature fresh).2.env.L =
      some { apiCtx := w.env.ctx, globals := (w.tried lib scripts nature fresh).1.2 } :=
    congrArg some (congrArg₂ LuaState.mk hctx (congrArg (·.2) hresult))
  refine ⟨congrArg (·.1) hresult, hL, ?_⟩
  rw [← hL]
  exact hfollows.setL _

/-! ### Reloads -/

/-- The two ways into a load. -/
inductive Entry where
  | init (root : Bytes) (ctx : Bool)
  | reload

namespace Entry

/-- What `Init` sets before it reloads. -/
def enter (w : Worker σ) : Entry → Worker σ
  | .init root ctx => { w with env := { w.env with root, ctx } }
  | .reload => w

def call (lib : Library σ) (scripts : Scripts σ) (nature : Nat → Verdict) (w : Worker σ)
    (fresh : Option σ) : Entry → Bool × Worker σ
  | .init root ctx => w.init lib scripts nature root ctx fresh
  | .reload => w.reload lib scripts nature fresh

/-- Entering changes neither the state nor a table. -/
theorem enter_eq (entry : Entry) (w : Worker σ) :
    ∃ root ctx, entry.enter w = { w with env := { w.env with root, ctx } } := by
  cases entry with
  | init root ctx => exact ⟨root, ctx, rfl⟩
  | reload => exact ⟨w.env.root, w.env.ctx, rfl⟩

theorem call_eq (entry : Entry) (w : Worker σ) (fresh : Option σ) :
    entry.call lib scripts nature w fresh = (entry.enter w).reload lib scripts nature fresh := by
  cases entry <;> rfl

end Entry

/-- The environment is as it was. -/
structure Unchanged (before after : LuaEnv σ) : Prop where
  L : after.L = before.L
  root : after.root = before.root
  msghRef : after.msghRef = before.msghRef
  scriptFiles : after.scriptFiles = before.scriptFiles
  luaTimers : ∀ id, after.luaTimers.lookup id = before.luaTimers.lookup id
  dbPending : ∀ ctx, after.dbPending.lookup ctx = before.dbPending.lookup ctx

/-- Registered are the callbacks of the desk, and no others. -/
structure Registered (d : Desk) (env : LuaEnv σ) : Prop where
  luaTimers : ∀ id, env.luaTimers.lookup id = d.timers.lookup id
  dbPending : ∀ ctx, env.dbPending.lookup ctx = d.acks.lookup ctx

/-- What the scripts of a load register, tried at the desk. Without a state none of them runs. -/
def registrations (lib : Library σ) (scripts : Scripts σ) (nature : Nat → Verdict)
    (w : Worker σ) (fresh : Option σ) : Desk :=
  match fresh with
  | none => Desk.opened w
  | some fresh => (w.tried lib scripts nature fresh).2

/-- A load that fails changes nothing, and one that succeeds leaves what its scripts
registered. -/
def Atomic (w : Worker σ) (d : Desk) (result : Bool × Worker σ) : Prop :=
  if result.1 then Registered d result.2.env else Unchanged w.env result.2.env

/-- The scripts leave no callback of their own, and neither do the finalizers of the old state.
Those of a load that fails leave none when their state has been closed, cancel no timer of the
scripts before them, and find the root, the handler's reference and the list of files that the
environment has. -/
def Harmless (lib : Library σ) (scripts : Scripts σ) (nature : Nat → Verdict) (w : Worker σ)
    (fresh : Option σ) (entry : Entry) : Prop :=
  let entered := entry.enter w
  let root := entered.env.root
  match fresh with
  | none => root = w.env.root
  | some fresh =>
    let ((ok, globals), d) := entered.tried lib scripts nature fresh
    if ok then
      let closed := entered.triedClose lib nature d.emptied w.env.L
      d.acks = ∅ ∧ d.timers = ∅ ∧ closed.acks = ∅ ∧ closed.timers = ∅
    else
      let closed := entered.triedClose lib nature d (some { apiCtx := entered.env.ctx, globals })
      closed.acks = ∅ ∧ closed.timers = ∅ ∧ root = w.env.root ∧
        (prepare lib root fresh).1 = w.env.msghRef ∧
          listScripts scripts.readdir root = w.env.scriptFiles ∧
            ∀ id ∈ closed.cancelled, w.env.luaTimers.lookup id = none

theorem reload_some (w : Worker σ) (fresh : σ) :
    w.reload lib scripts nature (some fresh) =
      let (ok, w') := w.loadScripts lib scripts nature fresh
      if ok then
        (true, { w' with env := { w'.env with luaTimers := ∅, dbPending := ∅ } }.close lib nature
          w.env.L)
      else
        let w' := w'.close lib nature w'.env.L
        (false, { w' with env := { w'.env with L := w.env.L } }) := rfl

/-- Without a new state a call is unchanged up to the root. -/
theorem atomic_none (w : Worker σ) (entry : Entry) (d : Desk) :
    Atomic w d (entry.call lib scripts nature w none) ↔
      (entry.enter w).env.root = w.env.root := by
  rw [entry.call_eq]
  constructor
  · intro h
    exact h.root
  · intro hroot
    obtain ⟨root, ctx, henter⟩ := entry.enter_eq w
    rw [henter] at hroot ⊢
    exact ⟨rfl, hroot, rfl, rfl, fun _ => rfl, fun _ => rfl⟩

/-- The tables after the scripts of a load are those before exactly when the scripts register
nothing and cancel no timer of the scripts before them. -/
theorem Loaded.tables_iff {ref : Int} {files : List Bytes} {d : Desk} {env : LuaEnv σ}
    (h : Loaded w ref files d env) {acks timers : Nat} (hw : Numbered acks timers w)
    (hd : d.Numbered w.env.nextCtx w.outside.nextTimerId) :
    ((∀ id, env.luaTimers.lookup id = w.env.luaTimers.lookup id) ∧
        ∀ ctx, env.dbPending.lookup ctx = w.env.dbPending.lookup ctx) ↔
      d.acks = ∅ ∧ d.timers = ∅ ∧
        ∀ id ∈ d.cancelled, w.env.luaTimers.lookup id = none := by
  constructor
  · rintro ⟨htimers, hacks⟩
    have hnotimer : ∀ id, d.timers.lookup id = none := by
      intro id
      rw [Option.eq_none_iff_forall_ne_some]
      intro info hid
      have hold : w.env.luaTimers.lookup id = some info := by
        rw [← htimers, h.timers, hid, Option.some_or]
      have := hd.timers id info hid
      have := hw.luaTimers id info hold
      omega
    have hnoack : ∀ ctx, d.acks.lookup ctx = none := by
      intro ctx
      rw [Option.eq_none_iff_forall_ne_some]
      intro fn hctx
      have hold : w.env.dbPending.lookup ctx = some fn := by
        rw [← hacks, h.acks, hctx, Option.some_or]
      have := hd.acks ctx fn hctx
      have := hw.dbPending ctx fn hold
      omega
    refine ⟨Table.eq_empty hnoack, Table.eq_empty hnotimer, fun id hid => ?_⟩
    rw [← htimers, h.timers, hnotimer, if_pos hid, Option.none_or]
  · rintro ⟨hacks, htimers, hcancelled⟩
    refine ⟨fun id => ?_, fun ctx => ?_⟩
    · rw [h.timers, htimers]
      by_cases hid : id ∈ d.cancelled
      · simp [hid, hcancelled id hid]
      · simp [hid]
    · rw [h.acks, hacks]
      simp

/-- The callbacks of the finalizers are those of the scripts exactly when neither has any: theirs
have other numbers. -/
theorem registered_iff {d closed : Desk} {env : LuaEnv σ} {acks timers : Nat}
    (hd : d.Numbered acks timers) (hclosed : closed.Numbered d.nextCtx d.nextTimerId)
    (hacks : ∀ ctx, env.dbPending.lookup ctx = closed.acks.lookup ctx)
    (htimers : ∀ id, env.luaTimers.lookup id = closed.timers.lookup id) :
    Registered d env ↔ d.acks = ∅ ∧ d.timers = ∅ ∧ closed.acks = ∅ ∧ closed.timers = ∅ := by
  constructor
  · intro h
    have hnoack : ∀ ctx, d.acks.lookup ctx = none := by
      intro ctx
      rw [Option.eq_none_iff_forall_ne_some]
      intro fn hctx
      have hold := hd.acks ctx fn hctx
      have hnew := hclosed.acks ctx fn (by rw [← hacks, h.dbPending, hctx])
      omega
    have hnotimer : ∀ id, d.timers.lookup id = none := by
      intro id
      rw [Option.eq_none_iff_forall_ne_some]
      intro info hid
      have hold := hd.timers id info hid
      have hnew := hclosed.timers id info (by rw [← htimers, h.luaTimers, hid])
      omega
    exact ⟨Table.eq_empty hnoack, Table.eq_empty hnotimer,
      Table.eq_empty fun ctx => by rw [← hacks, h.dbPending, hnoack],
      Table.eq_empty fun id => by rw [← htimers, h.luaTimers, hnotimer]⟩
  · rintro ⟨hnoack, hnotimer, hlate, hlate'⟩
    exact ⟨fun id => by rw [htimers, hlate', hnotimer], fun ctx => by rw [hacks, hlate, hnoack]⟩

/-- The same with the rest of the environment, when its state is given back. -/
theorem Loaded.unchanged_iff {ref : Int} {files : List Bytes} {d : Desk} {env : LuaEnv σ}
    (before : LuaEnv σ) (h : Loaded w ref files d env) {acks timers : Nat}
    (hw : Numbered acks timers w)
    (hd : d.Numbered w.env.nextCtx w.outside.nextTimerId)
    (htimers : before.luaTimers = w.env.luaTimers) (hacks : before.dbPending = w.env.dbPending) :
    Unchanged before { env with L := before.L } ↔
      d.acks = ∅ ∧ d.timers = ∅ ∧ w.env.root = before.root ∧ ref = before.msghRef ∧
        files = before.scriptFiles ∧
          ∀ id ∈ d.cancelled, before.luaTimers.lookup id = none := by
  have htables := h.tables_iff hw hd
  rw [← htimers, ← hacks] at htables
  constructor
  · intro hsame
    obtain ⟨hnoack, hnotimer, hcancelled⟩ := htables.mp ⟨hsame.luaTimers, hsame.dbPending⟩
    exact ⟨hnoack, hnotimer, h.root.symm.trans hsame.root, h.msghRef.symm.trans hsame.msghRef,
      h.scriptFiles.symm.trans hsame.scriptFiles, hcancelled⟩
  · rintro ⟨hnoack, hnotimer, hroot, href, hfiles, hcancelled⟩
    obtain ⟨hsameTimers, hsameAcks⟩ := htables.mpr ⟨hnoack, hnotimer, hcancelled⟩
    exact ⟨rfl, h.root.trans hroot, h.msghRef.trans href, h.scriptFiles.trans hfiles, hsameTimers,
      hsameAcks⟩

/-- A load that succeeds leaves what the finalizers of the old state register. -/
theorem Follows.success (h : Follows start w d) (old : Option (LuaState σ)) :
    let cleared : Worker σ := { w with env := { w.env with luaTimers := ∅, dbPending := ∅ } }
    let closed := start.triedClose lib nature d.emptied old
    (∀ ctx, (cleared.close lib nature old).env.dbPending.lookup ctx = closed.acks.lookup ctx) ∧
      ∀ id, (cleared.close lib nature old).env.luaTimers.lookup id = closed.timers.lookup id := by
  intro cleared closed
  have hemptied : Follows cleared cleared d.emptied :=
    ⟨rfl, h.calls, h.nextTimerId, h.nextCtx, fun _ => rfl, fun _ => rfl⟩
  have hcontext : cleared.context = start.context := h.context
  have hclosed : cleared.triedClose lib nature d.emptied old = closed := by
    have hapi : cleared.apiCtx = start.apiCtx := h.apiCtx
    cases old with
    | none => rfl
    | some L =>
      unfold closed Worker.triedClose Worker.timed
      rw [hcontext, hapi]
  have hfollows : Follows cleared (cleared.close lib nature old) closed :=
    hclosed ▸ hemptied.close old
  refine ⟨fun ctx => ?_, fun id => ?_⟩
  · rw [hfollows.acks, show cleared.env.dbPending.lookup ctx = none from rfl, Option.or_none]
  · rw [hfollows.timers, show cleared.env.luaTimers.lookup id = none from rfl, ite_self,
      Option.or_none]

/-- A load is atomic exactly when it is harmless. -/
theorem reload_atomic_iff (lib : Library σ) (scripts : Scripts σ) (nature : Nat → Verdict)
    {steps : List (Step σ)} (hrun : Run.exec (step lib nature) {} steps = some w)
    (fresh : Option σ) (entry : Entry) :
    Atomic w (registrations lib scripts nature (entry.enter w) fresh)
        (entry.call lib scripts nature w fresh) ↔
      Harmless lib scripts nature w fresh entry := by
  have hw := Numbered.initial.exec hrun
  cases fresh with
  | none => exact atomic_none w entry _
  | some fresh =>
    rw [entry.call_eq]
    unfold Harmless
    obtain ⟨root, ctx, henter⟩ := entry.enter_eq w
    rw [henter]
    -- the worker that loads differs from `w` in the root and the context only
    have hentered : Numbered 10000 1 ({ w with env := { w.env with root, ctx } } : Worker σ) :=
      ⟨hw.nextCtx, hw.nextTimerId, hw.dbPending, hw.luaTimers⟩
    have hd : Desk.Numbered _ _
        (Worker.tried { w with env := { w.env with root, ctx } } lib scripts nature fresh).2 :=
      Desk.Numbered.tried _ fresh
    obtain ⟨hok, hL, hfollows⟩ := loadScripts_spec lib scripts nature
      { w with env := { w.env with root, ctx } } fresh
    unfold Atomic registrations
    rw [reload_some]
    cases hresult : (Worker.loadScripts lib scripts nature
      { w with env := { w.env with root, ctx } } fresh).1 with
    | true =>
      simp only [hresult, if_true, hok.symm.trans hresult]
      obtain ⟨hacks, htimers⟩ := hfollows.success w.env.L
      exact registered_iff hd ((Desk.Numbered.emptied _).triedClose _ _) hacks htimers
    | false =>
      simp only [hresult, hL, hok.symm.trans hresult, Bool.false_eq_true, if_false]
      exact (hfollows.close _).loaded.unchanged_iff w.env hentered (hd.triedClose _ _) rfl rfl

section Directories

/-- A library whose states hold nothing but the bindings. -/
def bareLibrary : Library Unit where
  ref _ := (3, ())
  packagePath _ := none
  setPackagePath _ _ := ()
  registerAll _ := ()
  function _ _ := none
  bodyToTable _ _ := true
  close _ := .done ()

/-- The files of one directory. -/
def directory (root : Bytes) (files : List (Bytes × Option (Script Unit))) : Scripts Unit where
  readdir dir := if dir = root then some (files.map (·.1)) else none
  loadfile path := (files.find? fun f => root ++ text "/" ++ f.1 = path).bind fun f =>
    f.2.map fun script _ => script

/-- `timer.every(1000, "rank.tick")`. -/
def rankScript : Script Unit :=
  .call (.timerEvery 1000 (some (text "rank.tick"))) fun _ => .done (true, ())

/-- A timer that is started and cancelled at once. -/
def probeScript : Script Unit :=
  .call (.timerAfter 5 (some (text "probe"))) fun
    | .id n => .call (.timerCancel n) fun _ => .done (true, ())
    | _ => .done (false, ())

/-- A thread that has loaded an empty directory and then set its context. -/
def boot : List (Step Unit) :=
  [.init (text "/lua/v1") true (some ()) (directory (text "/lua/v1") []), .context { env := true }]

def booted : Worker Unit :=
  { env :=
      { L := some { apiCtx := true, globals := () }, root := text "/lua/v1", msghRef := 3,
        ctx := true }
    apiCtx := { env := true } }

theorem boot_run : Run.exec (step bareLibrary fun _ => {}) {} boot = some booted := rfl

def rankFiles : Scripts Unit := directory (text "/lua/v2") [(text "rank.lua", some rankScript)]

/-- The same with a second file that does not compile. -/
def brokenFiles : Scripts Unit :=
  directory (text "/lua/v2") [(text "rank.lua", some rankScript), (text "shop.lua", none)]

def probeFiles : Scripts Unit := directory (text "/lua/v1") [(text "probe.lua", some probeScript)]

/-- A load of new scripts loses the timer that they start, and one that fails at its second
file leaves the timer of the first, and the new root, to the old scripts. -/
theorem reload_not_atomic : Run.exec (step bareLibrary fun _ => {}) {} boot = some booted ∧
    ¬ Atomic booted
      (registrations bareLibrary rankFiles (fun _ => {})
        ((Entry.init (text "/lua/v2") true).enter booted) (some ()))
      ((Entry.init (text "/lua/v2") true).call bareLibrary rankFiles (fun _ => {}) booted
        (some ())) ∧
    ¬ Atomic booted
      (registrations bareLibrary brokenFiles (fun _ => {})
        ((Entry.init (text "/lua/v2") true).enter booted) (some ()))
      ((Entry.init (text "/lua/v2") true).call bareLibrary brokenFiles (fun _ => {}) booted
        (some ())) := by
  refine ⟨boot_run, fun h => ?_, fun h => ?_⟩
  · have hlost := Registered.luaTimers h 1
    revert hlost
    decide +kernel
  · have hkept := Unchanged.luaTimers h 1
    revert hkept
    decide +kernel

theorem reload_atomic_probe : ∃ w, Run.exec (step bareLibrary fun _ => {}) {} boot = some w ∧
    Atomic w
      (registrations bareLibrary probeFiles (fun _ => {})
        ((Entry.init (text "/lua/v1") true).enter w) (some ()))
      ((Entry.init (text "/lua/v1") true).call bareLibrary probeFiles (fun _ => {}) w
        (some ())) := by
  have hharmless : Harmless bareLibrary probeFiles (fun _ => {}) booted (some ())
      (.init (text "/lua/v1") true) := ⟨rfl, rfl, rfl, rfl⟩
  exact ⟨booted, boot_run,
    (reload_atomic_iff bareLibrary probeFiles (fun _ => {}) boot_run _ _).mpr hharmless⟩

end Directories

/-- No callback that was registered before a load that succeeds is run after it: its result
or its time leaves the thread as it is, however the thread has gone on. -/
theorem old_callbacks_silent {steps later : List (Step σ)}
    (hrun : Run.exec (step lib nature) {} steps = some w) {fresh : Option σ} {entry : Entry}
    (hok : (entry.call lib scripts nature w fresh).1 = true)
    (hlater : Run.exec (step lib nature) (entry.call lib scripts nature w fresh).2 later = some w') :
    (∀ ctx fn, w.env.dbPending.lookup ctx = some fn → ∀ errcode errmsg data,
      w'.dispatchDbAck lib nature ctx errcode errmsg data = w') ∧
    ∀ id info, w.env.luaTimers.lookup id = some info → ∀ playerId,
      w'.onLuaTimerFire lib nature id playerId = w' := by
  have hw := Numbered.initial.exec hrun
  rw [entry.call_eq] at hok hlater
  obtain ⟨root, ctx, henter⟩ := entry.enter_eq w
  rw [henter] at hok hlater
  have hlast := (Numbered.reload_success hok).exec hlater
  exact ⟨fun ctx fn hctx => hlast.ack_silent (hw.dbPending ctx fn hctx).2,
    fun id info hid => hlast.timer_silent (hw.luaTimers id info hid).2⟩

/-- What a thread reloads when it is due leaves what `Init` leaves. -/
theorem doReloadIfNeeded_env (w : Worker σ) (fresh : Option σ)
    (hdue : w.pendingLuaVersion ≠ 0 ∧ w.myLuaVersion < w.pendingLuaVersion) :
    (w.doReloadIfNeeded lib scripts nature fresh).env =
      ((Entry.init w.pendingLuaDir true).call lib scripts nature w fresh).2.env := by
  unfold Worker.doReloadIfNeeded
  rw [if_neg (by omega)]
  dsimp only
  split <;> rfl

end Lua
