import GameServer.Lua.DbCallbacks

/-!
# The timer calls of the scripts

A script that asks for a timer leaves its callback in the table of the environment and a command
for the timer thread. From then on the callback stands, until a script cancels it, its player logs
out or the table is cleared. The record of these events and the commands of the thread say of every
callback in the table where it comes from, and no two commands add a timer of one number.
-/

namespace Lua

open Gateway (Bytes text)
open Timer (TimerOp)

variable {σ : Type} {lib : Library σ} {nature : Nat → Verdict} {w w' : Worker σ}

/-- What the callbacks of timers depend on: calls of the scripts with their answers, players that
log out, and tables that are cleared. -/
inductive Event where
  | asked (q : ApiCall) (a : Answer)
  | logout (playerId : Nat)
  | cleared

/-- The call that registers a callback for a timer. -/
def timerCall (repeats : Bool) (ms : Int) (fn : Bytes) : ApiCall :=
  if repeats then .timerEvery ms (some fn) else .timerAfter ms (some fn)

/-- An event after which the timer of the player is gone. -/
def Event.Ends (id playerId : Nat) : Event → Prop
  | .asked q a => q = .timerCancel id ∧ a = .ok
  | .logout p => p = playerId
  | .cleared => True

/-- A callback that a script has registered under this number, with this command to the timer
thread, and that nothing has ended since. -/
structure Standing (history : List Event) (id : Nat) (info : LuaTimerInfo) (op : TimerOp) :
    Prop where
  asked : ∃ before ms after,
    history = before ++ .asked (timerCall info.repeats ms info.fnPath) (.id id) :: after ∧
      (∀ e ∈ after, ¬ e.Ends id info.playerId) ∧ 0 < ms ∧ op.intervalMs = UInt64.ofInt ms
  kind : op.kind = .ADD
  timerId : op.timerId = id
  repeats : op.repeats = info.repeats
  playerId : op.playerId = info.playerId

theorem Standing.later {history : List Event} {id : Nat} {info : LuaTimerInfo} {op : TimerOp}
    (h : Standing history id info op) {es : List Event}
    (hes : ∀ e ∈ es, ¬ e.Ends id info.playerId) : Standing (history ++ es) id info op := by
  obtain ⟨before, ms, after, rfl, hafter, hms, hinterval⟩ := h.asked
  refine ⟨⟨before, ms, after ++ es, by simp, fun e he => ?_, hms, hinterval⟩, h.kind, h.timerId,
    h.repeats, h.playerId⟩
  rcases List.mem_append.mp he with he | he
  · exact hafter e he
  · exact hes e he

/-- More commands were given, and those that add a timer have new numbers. -/
structure Outside.Later (old new : Outside) : Prop where
  next : old.nextTimerId ≤ new.nextTimerId
  calls : ∃ later, new.timerCalls = old.timerCalls ++ later ∧
    ∀ op ∈ later, op.kind = .ADD → old.nextTimerId ≤ op.timerId

theorem Outside.Later.refl (o : Outside) : o.Later o :=
  ⟨le_refl _, [], (List.append_nil _).symm, by simp⟩

theorem Outside.Later.command {old new new' : Outside} (h : old.Later new) {op : TimerOp}
    (hop : op.kind = .ADD → new.nextTimerId ≤ op.timerId)
    (hcalls : new'.timerCalls = new.timerCalls ++ [op])
    (hnext : new.nextTimerId ≤ new'.nextTimerId) : old.Later new' := by
  obtain ⟨later, hlater, hids⟩ := h.calls
  refine ⟨h.next.trans hnext, later ++ [op], by rw [hcalls, hlater, List.append_assoc], ?_⟩
  intro x hx hkind
  rcases List.mem_append.mp hx with hx | hx
  · exact hids x hx hkind
  · cases List.mem_singleton.mp hx
    exact h.next.trans (hop hkind)

/-- The callbacks in the table are those that stand, each with a command of its own. The commands
were added to those of `old`. -/
structure Booked (old : Outside) (history : List Event) (w : Worker σ) : Prop where
  later : old.Later w.outside
  next : 0 < w.outside.nextTimerId
  once : ((w.outside.timerCalls.filter (·.kind = .ADD)).map (·.timerId)).Nodup
  low : ∀ op ∈ w.outside.timerCalls, op.kind = .ADD → op.timerId < w.outside.nextTimerId
  standing : ∀ id info, w.env.luaTimers.lookup id = some info →
    ∃ op ∈ w.outside.timerCalls, Standing history id info op

namespace Booked

variable {old : Outside} {history : List Event}

/-- The table may lose callbacks, and other threads take numbers. -/
theorem fewer (h : Booked old history w)
    (htimers : ∀ id info, w'.env.luaTimers.lookup id = some info →
      w.env.luaTimers.lookup id = some info)
    (hcalls : w'.outside.timerCalls = w.outside.timerCalls)
    (hnext : w.outside.nextTimerId ≤ w'.outside.nextTimerId) : Booked old history w' where
  later := ⟨h.later.next.trans hnext, hcalls ▸ h.later.calls⟩
  next := Nat.lt_of_lt_of_le h.next hnext
  once := hcalls ▸ h.once
  low op hop hkind := Nat.lt_of_lt_of_le (h.low op (hcalls ▸ hop) hkind) hnext
  standing id info hid := by
    rw [hcalls]
    exact h.standing id info (htimers id info hid)

/-- The commands from now on are counted anew. -/
theorem again (h : Booked old history w) : Booked w.outside history w :=
  ⟨.refl _, h.next, h.once, h.low, h.standing⟩

theorem same (h : Booked old history w) (htimers : w'.env.luaTimers = w.env.luaTimers)
    (houtside : w'.outside = w.outside) : Booked old history w' :=
  h.fewer (fun _ _ hid => htimers ▸ hid) (congrArg Outside.timerCalls houtside)
    (congrArg Outside.nextTimerId houtside).ge

theorem events (h : Booked old history w) {es : List Event}
    (hes : ∀ e ∈ es, ∀ id info, w.env.luaTimers.lookup id = some info →
      ¬ e.Ends id info.playerId) : Booked old (history ++ es) w where
  later := h.later
  next := h.next
  once := h.once
  low := h.low
  standing id info hid := by
    obtain ⟨op, hop, hstands⟩ := h.standing id info hid
    exact ⟨op, hop, hstands.later fun e he => hes e he id info hid⟩

/-- One more command, which adds no timer. -/
theorem command (h : Booked old history w) {op : TimerOp} (hop : op.kind ≠ .ADD)
    (htimers : ∀ id info, w'.env.luaTimers.lookup id = some info →
      w.env.luaTimers.lookup id = some info)
    (hcalls : w'.outside.timerCalls = w.outside.timerCalls ++ [op])
    (hnext : w'.outside.nextTimerId = w.outside.nextTimerId) : Booked old history w' where
  later := h.later.command (fun hkind => absurd hkind hop) hcalls hnext.ge
  next := hnext ▸ h.next
  once := by
    rw [hcalls, List.filter_append, List.map_append]
    simpa [hop] using h.once
  low x hx hkind := by
    rw [hcalls] at hx
    rw [hnext]
    rcases List.mem_append.mp hx with hx | hx
    · exact h.low x hx hkind
    · cases List.mem_singleton.mp hx
      exact absurd hkind hop
  standing id info hid := by
    obtain ⟨x, hx, hstands⟩ := h.standing id info (htimers id info hid)
    exact ⟨x, hcalls ▸ List.mem_append_left _ hx, hstands⟩

/-- One more command, which adds a timer of a new number. -/
theorem adding (h : Booked old history w) {op : TimerOp} (hop : op.kind = .ADD)
    (hid : w.outside.nextTimerId ≤ op.timerId) (htimers : w'.env.luaTimers = w.env.luaTimers)
    (hcalls : w'.outside.timerCalls = w.outside.timerCalls ++ [op])
    (hnext : w'.outside.nextTimerId = op.timerId + 1) : Booked old history w' where
  later := h.later.command (fun _ => hid) hcalls (by omega)
  next := by omega
  once := by
    rw [hcalls, List.filter_append, List.map_append, List.nodup_append]
    refine ⟨h.once, by simp [hop], fun id hold new hnew => ?_⟩
    obtain ⟨x, hx, rfl⟩ := List.mem_map.mp hold
    obtain ⟨hx, hkind⟩ := List.mem_filter.mp hx
    have hlow := h.low x hx (of_decide_eq_true hkind)
    simp only [hop, decide_true, List.filter_cons_of_pos, List.filter_nil, List.map_cons,
      List.map_nil, List.mem_singleton] at hnew
    omega
  low x hx hkind := by
    rw [hcalls] at hx
    rcases List.mem_append.mp hx with hx | hx
    · have := h.low x hx hkind
      omega
    · cases List.mem_singleton.mp hx
      omega
  standing id info hlook := by
    rw [htimers] at hlook
    obtain ⟨x, hx, hstands⟩ := h.standing id info hlook
    exact ⟨x, hcalls ▸ List.mem_append_left _ hx, hstands⟩

theorem cancelTimer (h : Booked old history w) (id : Nat) :
    Booked old history (w.cancelTimer id) := by
  unfold Worker.cancelTimer
  split
  · exact h.command (by simp) (fun _ _ hid => hid) rfl rfl
  · exact h

theorem erase (h : Booked old history w) (id : Nat) :
    Booked old history { w with env := { w.env with luaTimers := w.env.luaTimers.erase id } } := by
  refine h.fewer (fun k info hk => ?_) rfl (le_refl _)
  rw [Table.lookup_erase] at hk
  split at hk
  · cases hk
  · exact hk

theorem cancelLuaTimer (h : Booked old history w) (id : Nat) :
    Booked old history (w.cancelLuaTimer id) :=
  (h.cancelTimer id).erase id

end Booked

/-! ### Calls of a script -/

/-- What a request says of the call that it comes from, if it is about timers. -/
def Request.From (q : ApiCall) : Request → Prop
  | .db .. => True
  | .timer ms fn repeats => q = timerCall repeats ms fn ∧ 0 < ms
  | .cancel id => q = .timerCancel id

theorem sqlRequest_from {q : ApiCall} {kind : Nat} {sql : Option Bytes}
    {params : Option (List Bytes)} {cb : Bytes} {r : Request}
    (h : sqlRequest kind sql params cb = .ok r) : r.From q := by
  unfold sqlRequest at h
  split at h
  · cases h
  · cases h
  · split at h
    · cases h
    · cases h
      trivial

theorem redisRequest_from {q : ApiCall} {c : LuaApiCtx} {args : Option (List Bytes)} {cb : Bytes}
    {r : Request} (h : redisRequest c args cb = .ok r) : r.From q := by
  unfold redisRequest at h
  split at h
  · cases h
  · cases h
  · dsimp only [bind, Except.bind] at h
    split at h
    · cases h
    · split at h
      · cases h
      · cases h
        trivial

theorem timerRequest_from {ms : Int} {fn : Option Bytes} {repeats : Bool} {r : Request}
    (h : timerRequest ms fn repeats = .ok r) :
    ∃ path, fn = some path ∧ r = .timer ms path repeats ∧ 0 < ms := by
  unfold timerRequest at h
  split at h
  · cases h
  · split at h
    · cases h
    · cases h
      exact ⟨_, rfl, rfl, by omega⟩

theorem ApiCall.checked_from {q : ApiCall} {c : LuaApiCtx} {r : Request}
    (h : q.checked c = .ok r) : r.From q := by
  unfold ApiCall.checked at h
  cases q with
  | dbQuery sql params cb =>
    dsimp only at h
    split at h
    · cases h
    · exact sqlRequest_from h
  | dbExec sql params cb =>
    dsimp only at h
    split at h
    · cases h
    · exact sqlRequest_from h
  | dbRedis args cb =>
    dsimp only at h
    split at h
    · cases h
    · exact redisRequest_from h
  | timerAfter ms fn =>
    obtain ⟨path, rfl, rfl, hms⟩ := timerRequest_from h
    exact ⟨rfl, hms⟩
  | timerEvery ms fn =>
    obtain ⟨path, rfl, rfl, hms⟩ := timerRequest_from h
    exact ⟨rfl, hms⟩
  | timerCancel id =>
    dsimp only [cancelRequest] at h
    split at h
    · cases h
    · cases h
      exact rfl

theorem ApiCall.request_from {q : ApiCall} {found : Option LuaApiCtx} {c : LuaApiCtx} {r : Request}
    (h : q.request found = .ok (c, r)) : r.From q := by
  unfold ApiCall.request at h
  split at h
  · cases h
  split at h
  · cases h
  split at h
  · cases h
  · rename_i r' hr
    cases h
    exact q.checked_from hr

namespace Booked

variable {old : Outside} {history : List Event}

/-- An event that ends no timer. -/
theorem event (h : Booked old history w) {e : Event} (he : ∀ id p, ¬ e.Ends id p) :
    Booked old (history ++ [e]) w :=
  h.events fun _ hx id info _ => List.mem_singleton.mp hx ▸ he id info.playerId

theorem answered (h : Booked old history w) (q : ApiCall) {a : Answer} (ha : a ≠ .ok) :
    Booked old (history ++ [.asked q a]) w :=
  h.event fun _ _ hends => ha hends.2

theorem addLuaTimer (h : Booked old history w) (v : Verdict) (playerId session epoch : Nat)
    {ms : Int} (hms : 0 < ms) (repeats : Bool) (fn : Bytes) :
    let r := w.addLuaTimer v playerId session epoch ms repeats fn
    Booked old (history ++ [.asked (timerCall repeats ms fn)
      (if r.1 = 0 then .fail (text "timer service unavailable") else .id r.1)]) r.2 := by
  have hevent : ∀ a, ∀ id p, ¬ (Event.asked (timerCall repeats ms fn) a).Ends id p := by
    intro a id p hends
    have hq := hends.1
    unfold timerCall at hq
    split at hq <;> cases hq
  unfold Worker.addLuaTimer
  dsimp only
  split
  · exact h.event (hevent _)
  rename_i c _
  split
  · exact h.event (hevent _)
  have hadding : Booked old history { w with outside := { w.outside with
      nextTimerId := w.outside.nextTimerId + v.taken + 1,
      timerCalls := w.outside.timerCalls ++
        [timerOp c (w.outside.nextTimerId + v.taken) playerId session epoch ms repeats] } } := by
    refine h.adding ?_ ?_ rfl rfl rfl
    · rfl
    · exact Nat.le_add_right _ _
  split
  · exact hadding.event (hevent _)
  · have hid : w.outside.nextTimerId + v.taken ≠ 0 := by
      have := h.next
      omega
    have hadded := hadding.event (hevent (.id (w.outside.nextTimerId + v.taken)))
    rw [if_neg hid]
    refine ⟨hadded.later, hadded.next, hadded.once, hadded.low, fun id info hlook => ?_⟩
    rw [Table.lookup_insert] at hlook
    split at hlook
    · rename_i heq
      cases hlook
      subst heq
      refine ⟨_, List.mem_append_right _ List.mem_cons_self,
        ⟨history, ms, [], rfl, by simp, hms, ?_⟩, rfl, rfl, rfl, rfl⟩
      exact if_pos hms
    · exact hadded.standing id info hlook

/-- One call of a script or a finalizer, with its answer. -/
theorem reply (h : Booked old history w) (found : Option LuaApiCtx) (q : ApiCall) :
    Booked old (history ++ [.asked q (w.reply nature found q).1]) (w.reply nature found q).2 := by
  have hcounted : Booked old history w.counted := h.fewer (fun _ _ hid => hid) rfl (le_refl _)
  unfold Worker.reply
  split
  · exact hcounted.answered q (by simp)
  · rename_i c r hr
    have hfrom := q.request_from hr
    cases r with
    | db msgType task shard cb =>
      simp only [Worker.answer, Worker.sendDb, LuaEnv.registerDbAck]
      split
      · exact (hcounted.answered q (by simp)).fewer (fun _ _ hid => hid) rfl (le_refl _)
      · exact (hcounted.answered q (by simp)).fewer (fun _ _ hid => hid) rfl (le_refl _)
    | timer ms fn repeats =>
      obtain ⟨rfl, hms⟩ := hfrom
      exact hcounted.addLuaTimer _ _ _ _ hms repeats fn
    | cancel id =>
      obtain rfl := hfrom
      refine (hcounted.cancelLuaTimer id).events fun e he k info hk hends => ?_
      cases List.mem_singleton.mp he
      cases hends.1
      simp [Worker.cancelLuaTimer] at hk

/-- The calls of a program, whatever its bindings find. -/
theorem run (h : Booked old history w) {α : Type} (p : Client ApiCall Answer α)
    (found : Worker σ → Option LuaApiCtx) :
    let answers := fun (w : Worker σ) => w.reply nature (found w)
    Booked old (history ++ (p.trace answers w).map fun x => .asked x.1 x.2)
      (p.run answers w).2 := by
  intro answers
  have hrun : Booked old (history ++ ([] ++ p.trace answers w).map
      fun x : ApiCall × Answer => .asked x.1 x.2) (p.run answers w).2 := by
    refine p.run_trace_invariant (fun (log : List (ApiCall × Answer)) (w : Worker σ) =>
      Booked old (history ++ log.map fun x => .asked x.1 x.2) w) (fun log w q hw => ?_) ?_
    swap
    · simpa using h
    rw [List.map_append, ← List.append_assoc]
    exact hw.reply (found w) q
  exact hrun

end Booked

/-! ### Steps of the environment -/

namespace Worker

variable (lib : Library σ) (nature : Nat → Verdict) (w : Worker σ)

/-- The calls of a script that runs on the thread. -/
def asking {α : Type} (script : Client ApiCall Answer α) : List Event :=
  (script.trace (serve nature) w).map fun x => .asked x.1 x.2

/-- The calls of the finalizers in `lua_close`. -/
def finalizing : Option (LuaState σ) → List Event
  | none => []
  | some L => ((lib.close L.globals).trace (closing nature L) w).map fun x => .asked x.1 x.2

/-- The events of `Reload`. The finalizers of the old state come after the tables were cleared. -/
def reloading (scripts : Scripts σ) (fresh : Option σ) : List Event :=
  match fresh with
  | none => []
  | some L =>
    let (ok, loaded) := w.loadScripts lib scripts nature L
    (w.loading lib scripts L).asking nature (loadProgram lib scripts w.env.root L) ++
      if ok then
        .cleared :: finalizing lib nature
          { loaded with env := { loaded.env with luaTimers := ∅, dbPending := ∅ } } w.env.L
      else loaded.finalizing lib nature loaded.env.L

/-- The events of a call into the scripts. -/
def calling : Entered σ → List Event
  | (_, none) => []
  | (w, some (_, script)) => w.asking nature script

/-- The events of a step before its call into the scripts. -/
def entering : Step σ → List Event
  | .onPlayerLogout playerId =>
    if w.env.L.isSome && w.context.any (·.timer) then [.logout playerId] else []
  | _ => []

def events (s : Step σ) : List Event :=
  match s with
  | .context _ | .onReload .. => []
  | .init root ctx fresh scripts =>
    reloading lib nature { w with env := { w.env with root, ctx } } scripts fresh
  | .reload fresh scripts => w.reloading lib nature scripts fresh
  | .doReloadIfNeeded fresh scripts =>
    if w.pendingLuaVersion = 0 ∨ w.pendingLuaVersion ≤ w.myLuaVersion then []
    else reloading lib nature { w with env := { w.env with root := w.pendingLuaDir, ctx := true } }
      scripts fresh
  | .shutdown => w.finalizing lib nature w.env.L ++ [.cleared]
  | s => w.entering s ++ (w.enter lib s).elim [] (calling nature)

end Worker

namespace Booked

variable {old : Outside} {history : List Event}

theorem asking (h : Booked old history w) {α : Type} (script : Client ApiCall Answer α) :
    Booked old (history ++ w.asking nature script) (script.run (Worker.serve nature) w).2 :=
  h.run script Worker.registry

theorem close (h : Booked old history w) (L : Option (LuaState σ)) :
    Booked old (history ++ w.finalizing lib nature L) (w.close lib nature L) := by
  cases L with
  | none =>
    rw [Worker.finalizing, List.append_nil]
    exact h
  | some L => exact h.run (lib.close L.globals) fun w => if L.apiCtx then some w.apiCtx else none

theorem cleared (h : Booked old history w) : Booked old (history ++ [.cleared])
    { w with env := { w.env with luaTimers := ∅, dbPending := ∅ } } :=
  ⟨h.later, h.next, h.once, h.low, fun id info hlook => by cases hlook⟩

theorem reload (h : Booked old history w) (scripts : Scripts σ) (fresh : Option σ) :
    Booked old (history ++ w.reloading lib nature scripts fresh)
      (w.reload lib scripts nature fresh).2 := by
  cases fresh with
  | none =>
    rw [Worker.reloading, List.append_nil]
    exact h
  | some L =>
    have hloading : Booked old history (w.loading lib scripts L) := h.same rfl rfl
    have hload : Booked old _ (w.loadScripts lib scripts nature L).2 :=
      (hloading.asking (loadProgram lib scripts w.env.root L)).same rfl rfl
    simp only [Worker.reloading, Worker.reload]
    rw [← List.append_assoc]
    cases (w.loadScripts lib scripts nature L).1 with
    | true =>
      rw [if_pos rfl, if_pos rfl, List.append_cons]
      exact hload.cleared.close w.env.L
    | false =>
      simp only [Bool.false_eq_true, if_false]
      exact (hload.close _).same rfl rfl

theorem init (h : Booked old history w) (scripts : Scripts σ) (root : Bytes) (ctx : Bool)
    (fresh : Option σ) :
    Booked old (history ++ Worker.reloading lib nature { w with env := { w.env with root, ctx } }
      scripts fresh) (w.init lib scripts nature root ctx fresh).2 := by
  have hset : Booked old history { w with env := { w.env with root, ctx } } := h.same rfl rfl
  exact hset.reload scripts fresh

theorem within (h : Booked old history w) (c : LuaApiCtx) : Booked old history (w.within c) := by
  unfold Worker.within
  split
  · exact h.same rfl rfl
  · exact h

/-- What is left of a step that has come to its call. -/
theorem finish {e : Worker.Entered σ} (h : Booked old history e.1) (s : Step σ) :
    Booked old (history ++ Worker.calling nature e) (Worker.finish nature s e) := by
  obtain ⟨w, call⟩ := e
  cases call with
  | none =>
    rw [Worker.calling, List.append_nil]
    exact h
  | some call =>
    have hran : Booked old (history ++ w.asking nature call.2) (w.call nature call.1 call.2).2 :=
      (h.asking call.2).same rfl rfl
    cases s with
    | dispatchC2S => exact hran.within _
    | _ => exact hran

theorem cancelLuaTimers (h : Booked old history w) (ids : List Nat) :
    Booked old history (ids.foldl Worker.cancelLuaTimer w) ∧
      ∀ id, (ids.foldl Worker.cancelLuaTimer w).env.luaTimers.lookup id =
        if id ∈ ids then none else w.env.luaTimers.lookup id := by
  induction ids generalizing w with
  | nil => exact ⟨h, fun _ => rfl⟩
  | cons id ids ih =>
    obtain ⟨hbooked, hlook⟩ := ih (h.cancelLuaTimer id)
    refine ⟨hbooked, fun k => ?_⟩
    have hone : (w.cancelLuaTimer id).env.luaTimers.lookup k =
        if k = id then none else w.env.luaTimers.lookup k := by
      unfold Worker.cancelLuaTimer Worker.cancelTimer
      split <;> exact Table.lookup_erase _ _ _
    rw [List.foldl_cons, hlook, hone]
    by_cases hk : k = id <;> simp [hk]

/-- A logout leaves no timer of the player. -/
theorem logout (h : Booked old history w) (playerId : Nat) :
    Booked old (history ++ [.logout playerId])
      ((w.timersOf playerId).foldl Worker.cancelLuaTimer w) := by
  obtain ⟨hbooked, hlook⟩ := h.cancelLuaTimers (w.timersOf playerId)
  refine hbooked.events fun e he id info hid hends => ?_
  cases List.mem_singleton.mp he
  rw [hlook] at hid
  split at hid
  · cases hid
  · rename_i hnot
    refine hnot ?_
    unfold Worker.timersOf
    rw [List.mem_insertionSort]
    exact List.mem_map.mpr ⟨⟨id, info⟩,
      List.mem_filter.mpr ⟨Table.mem_entries.mpr hid, decide_eq_true hends.symm⟩, rfl⟩

theorem enter (h : Booked old history w) {s : Step σ} {e : Worker.Entered σ}
    (he : w.enter lib s = some e) : Booked old (history ++ w.entering s) e.1 := by
  cases s with
  | dispatchC2S route session playerId seq epoch body =>
    change Booked old (history ++ []) _
    rw [List.append_nil]
    obtain rfl := Option.some.inj he
    split
    · exact h
    split
    · exact h
    split
    · exact h
    · exact h.within _
  | dispatchDbAck ctx errcode errmsg data =>
    change Booked old (history ++ []) _
    rw [List.append_nil]
    obtain rfl := Option.some.inj he
    split
    · exact h
    split
    · exact h
    · exact h.same rfl rfl
  | onLuaTimerFire timerId playerId =>
    change Booked old (history ++ []) _
    rw [List.append_nil]
    obtain rfl := Option.some.inj he
    split
    · exact h
    split
    · exact h
    dsimp only
    split
    · exact h.erase timerId
    · show Booked old history (if _ then w else _)
      split
      · exact h
      · exact h.erase timerId
  | onPlayerLogout playerId =>
    obtain rfl := Option.some.inj he
    unfold Worker.entering
    cases hL : w.env.L with
    | none =>
      simp only [Option.isSome_none, Bool.false_and, Bool.false_eq_true, if_false, List.append_nil]
      exact h
    | some L =>
      simp only [Option.isSome_some, Bool.true_and]
      split
      · exact h.logout playerId
      · rw [List.append_nil]
        exact h
  | callI64 path args =>
    change Booked old (history ++ []) _
    rw [List.append_nil]
    obtain rfl := Option.some.inj he
    exact h
  | _ => cases he

theorem called (h : Booked old history w) {s : Step σ} {e : Worker.Entered σ}
    (he : w.enter lib s = some e) :
    Booked old (history ++ (w.entering s ++ (w.enter lib s).elim [] (Worker.calling nature)))
      (Worker.finish nature s e) := by
  rw [he, ← List.append_assoc]
  exact (h.enter he).finish s

/-- Every step keeps the callbacks in the table standing. -/
theorem step (h : Booked old history w) {s : Step σ} (hstep : Lua.step lib nature w s = some w') :
    Booked old (history ++ w.events lib nature s) w' := by
  have hcall : ∀ e, w.enter lib s = some e →
      Booked old (history ++ (w.entering s ++ (w.enter lib s).elim [] (Worker.calling nature)))
        w' := by
    intro e he
    obtain rfl := Option.some.inj ((w.step_of_enter lib nature he).symm.trans hstep)
    exact h.called he
  cases s with
  | context c =>
    cases hstep
    rw [Worker.events, List.append_nil]
    exact h.same rfl rfl
  | init root ctx fresh scripts =>
    cases hstep
    exact h.init scripts root ctx fresh
  | reload fresh scripts =>
    cases hstep
    exact h.reload scripts fresh
  | onReload version dir =>
    cases hstep
    rw [Worker.events, List.append_nil]
    unfold Worker.onReload
    split
    · exact h
    · exact h.same rfl rfl
  | doReloadIfNeeded fresh scripts =>
    cases hstep
    unfold Worker.events Worker.doReloadIfNeeded
    dsimp only
    split
    · rw [List.append_nil]
      exact h
    · have hinit : Booked old _ (w.init lib scripts nature w.pendingLuaDir true fresh).2 :=
        h.init scripts w.pendingLuaDir true fresh
      split
      · exact hinit.same rfl rfl
      · exact hinit
  | shutdown =>
    cases hstep
    rw [Worker.events, ← List.append_assoc]
    exact (h.close w.env.L).cleared.same rfl rfl
  | dispatchC2S => exact hcall _ rfl
  | dispatchDbAck => exact hcall _ rfl
  | onLuaTimerFire => exact hcall _ rfl
  | onPlayerLogout => exact hcall _ rfl
  | callI64 => exact hcall _ rfl

end Booked

end Lua
