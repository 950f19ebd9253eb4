import GameServer.Lua.TimerCalls
import GameServer.Timer.Schedule

/-!
# The timers of the scripts, from the call to the callback

A logic thread gives its commands to the timer thread, which takes them in order, and the timer
thread sends its messages to the logic thread, which takes them in order. Between the two either
may be late, and a full queue loses what is put into it. Other threads give commands too, and may
cancel what is not theirs.

However this goes, a callback comes no earlier than its script has asked for, once if it asked for
one call, and only while nothing has ended the timer and the actor is the one that asked.
-/

namespace Lua

open Gateway (Bytes)
open Timer (TimerOp TimerWheel addsOf ahead)

variable {σ : Type}

/-- A callback that was called: the message it came with, the function, the tick of the wheel, the
epoch of the player's actor, and how much had happened before. -/
structure TimerCall where
  fired : Timer.Fired
  fnPath : Bytes
  tick : Nat
  actorEpoch : Option Nat
  moment : Nat

/-- A logic thread, the timer thread, and what is under way between them. `labels` is what happened
to the wheel, and `sent` has the commands of the thread, each with the tick it was given at. -/
structure ScriptTimers (σ : Type) where
  worker : Worker σ := {}
  players : Scene.PlayerManager := {}
  history : List Event := []
  sent : List (Nat × TimerOp) := []
  taken : Nat := 0
  wheel : TimerWheel := {}
  labels : List Timer.Label := []
  seen : Nat := 0
  calls : List TimerCall := []

/-- What can happen next. A command or a message that is not queued is lost to a full queue. -/
inductive TimersLabel (σ : Type) where
  | script (s : Step σ)
  | players (m : Scene.PlayerManager)
  | takeIds (n : Nat)
  | command (queued : Bool)
  | other (op : TimerOp)
  | tick
  | message (queued : Bool)

/-- A number that was given to another thread. -/
def Worker.Foreign (w : Worker σ) (id : Nat) : Prop :=
  id < w.outside.nextTimerId ∧ ∀ op ∈ w.outside.timerCalls, op.kind = .ADD → op.timerId ≠ id

instance (w : Worker σ) (id : Nat) : Decidable (w.Foreign id) :=
  inferInstanceAs (Decidable (_ ∧ _))

/-- The callback that a message of the timer thread leads to, if it leads to one. -/
def Worker.calledBack (w : Worker σ) (lib : Library σ) (timerId playerId : Nat) :
    Option LuaTimerInfo :=
  (w.env.luaTimers.lookup timerId).filter fun _ =>
    (w.enter lib (.onLuaTimerFire timerId playerId)).any (·.2.isSome)

namespace ScriptTimers

variable (lib : Library σ) (nature : Nat → Verdict) (c : Timer.Config) (worker : Nat)
  (z : ScriptTimers σ)

/-- A step of the logic thread, with the commands that it gives. -/
def script (s : Step σ) : Option (ScriptTimers σ) :=
  (Lua.step lib nature z.worker s).map fun w =>
    { z with
      worker := w
      history := z.history ++ z.worker.events lib nature s
      sent := z.sent ++ (w.outside.timerCalls.drop z.worker.outside.timerCalls.length).map
        (z.wheel.advancedTicks, ·) }

def turn (l : Timer.Label) : ScriptTimers σ :=
  { z with wheel := z.wheel.step c l, labels := z.labels ++ [l] }

/-- `onTimer` for the message of a script's timer. The other messages of the timer thread are for
the thread itself. -/
def onTimer (f : Timer.Fired) : Option (ScriptTimers σ) :=
  let m := f.msg
  if m.Module ≠ 2 ∨ m.Method ≠ 1 then some z
  else if m.playerId ≠ 0 ∧ !z.players.validateEpoch m.playerId m.epoch then some z
  else
    (z.script lib nature (.onLuaTimerFire m.ctx m.playerId)).map fun t =>
      { t with calls := z.calls ++ ((z.worker.calledBack lib m.ctx m.playerId).map fun info =>
        { fired := f
          fnPath := info.fnPath
          tick := z.wheel.advancedTicks
          actorEpoch := (z.players.get m.playerId).map (·.epoch)
          moment := z.history.length }).toList }

def step : TimersLabel σ → Option (ScriptTimers σ)
  | .script (.onLuaTimerFire ..) => none
  | .script s => z.script lib nature s
  | .players m => some { z with players := m }
  | .takeIds n => some { z with worker := { z.worker with outside :=
      { z.worker.outside with nextTimerId := z.worker.outside.nextTimerId + n } } }
  | .command queued => z.sent[z.taken]?.map fun x =>
      let z := { z with taken := z.taken + 1 }
      if queued then z.turn c (.op x.2) else z
  | .other op =>
    if op.kind = .ADD → z.worker.Foreign op.timerId then some (z.turn c (.op op)) else none
  | .tick => some (z.turn c .tick)
  | .message queued => z.wheel.fired[z.seen]?.bind fun f =>
      let z := { z with seen := z.seen + 1 }
      if !queued then some z
      else if f.msg.srcWorkerId = worker then z.onTimer lib nature f
      else none

variable {lib nature c worker z} {t : ScriptTimers σ}

/-! ### What holds of both threads -/

/-- What is known of a callback that was called. -/
structure Justified (z : ScriptTimers σ) (call : TimerCall) : Prop where
  tick : call.fired.tick ≤ call.tick
  moment : call.moment ≤ z.history.length
  standing : ∃ info, ∃ op ∈ z.worker.outside.timerCalls, info.fnPath = call.fnPath ∧
    Standing (z.history.take call.moment) call.fired.msg.ctx info op
  actor : call.fired.msg.playerId = 0 ∨
    ∃ e, call.actorEpoch = some e ∧ (call.fired.msg.epoch = 0 ∨ e = call.fired.msg.epoch)

/-- A command of the thread that has come to the wheel, no earlier than it was given. -/
def Came (z : ScriptTimers σ) (op : TimerOp) (tick : Nat) : Prop :=
  ∃ stamp, (stamp, op) ∈ z.sent.take z.taken ∧ stamp ≤ tick

/-- What has come to the wheel was given by the thread before, each command once, or by another
thread under a number of its own; and what has come to the thread was sent by the wheel. -/
structure Linked (c : Timer.Config) (z : ScriptTimers σ) : Prop where
  booked : Booked z.worker.outside z.history z.worker
  wheel : z.wheel = TimerWheel.run c {} z.labels
  sent : z.sent.map (·.2) = z.worker.outside.timerCalls
  past : ∀ x ∈ z.sent, x.1 ≤ z.wheel.advancedTicks
  given : ∀ before (op : TimerOp) after, z.labels = before ++ .op op :: after → op.kind = .ADD →
    z.worker.Foreign op.timerId ∨ z.Came op (TimerWheel.run c {} before).advancedTicks
  once : ∀ (i j : Nat) (op op' : TimerOp), (addsOf z.labels)[i]? = some op →
    (addsOf z.labels)[j]? = some op' → op.timerId = op'.timerId →
    ¬ z.worker.Foreign op.timerId → i = j
  seen : (z.calls.map (·.fired)).Sublist (z.wheel.fired.take z.seen)
  calls : ∀ call ∈ z.calls, z.Justified call

theorem linked_init : Linked c ({} : ScriptTimers σ) where
  booked := ⟨.refl _, Nat.one_pos, List.nodup_nil, by simp, fun id info hlook => by cases hlook⟩
  wheel := rfl
  sent := rfl
  past := by simp
  given before op after hsplit := by simp at hsplit
  once i j op op' hi := by simp [addsOf] at hi
  seen := List.Sublist.refl _
  calls := by simp

theorem Foreign.later {w w' : Worker σ} {id : Nat} (h : w.Foreign id)
    (hlater : w.outside.Later w'.outside) : w'.Foreign id := by
  obtain ⟨later, hcalls, hids⟩ := hlater.calls
  refine ⟨Nat.lt_of_lt_of_le h.1 hlater.next, fun op hop hkind => ?_⟩
  rw [hcalls] at hop
  rcases List.mem_append.mp hop with hop | hop
  · exact h.2 op hop hkind
  · exact Nat.ne_of_gt (Nat.lt_of_lt_of_le h.1 (hids op hop hkind))

/-- A command of the thread has no number of another thread. -/
theorem Linked.own (h : Linked c z) {x : Nat × TimerOp} (hx : x ∈ z.sent)
    (hkind : x.2.kind = .ADD) : ¬ z.worker.Foreign x.2.timerId := by
  intro hforeign
  exact hforeign.2 x.2 (h.sent ▸ List.mem_map_of_mem hx) hkind rfl

theorem Linked.same_command (h : Linked c z) {op op' : TimerOp}
    (hop : op ∈ z.worker.outside.timerCalls) (hop' : op' ∈ z.worker.outside.timerCalls)
    (hkind : op.kind = .ADD) (hkind' : op'.kind = .ADD) (hid : op.timerId = op'.timerId) :
    op = op' :=
  List.inj_on_of_nodup_map h.booked.once (List.mem_filter.mpr ⟨hop, decide_eq_true hkind⟩)
    (List.mem_filter.mpr ⟨hop', decide_eq_true hkind'⟩) hid

theorem Justified.later {call : TimerCall} (h : z.Justified call)
    (hcalls : z.worker.outside.Later t.worker.outside) (hhistory : z.history <+: t.history) :
    t.Justified call := by
  obtain ⟨es, hes⟩ := hhistory
  obtain ⟨later, hlater, -⟩ := hcalls.calls
  obtain ⟨info, op, hop, hpath, hstands⟩ := h.standing
  refine ⟨h.tick, ?_, ⟨info, op, ?_, hpath, ?_⟩, h.actor⟩
  · rw [← hes, List.length_append]
    exact h.moment.trans (Nat.le_add_right _ _)
  · rw [hlater]
    exact List.mem_append_left _ hop
  · rw [← hes, List.take_append_of_le_length h.moment]
    exact hstands

/-! ### Steps -/

/-- A step of the logic thread. -/
theorem Linked.script (h : Linked c z) {s : Step σ} (hstep : z.script lib nature s = some t) :
    Linked c t ∧ t.calls = z.calls ∧ t.wheel = z.wheel ∧ t.seen = z.seen ∧
      z.history <+: t.history ∧ z.worker.outside.Later t.worker.outside := by
  obtain ⟨w, hw, rfl⟩ := Option.map_eq_some_iff.mp hstep
  have hbooked := h.booked.step hw
  obtain ⟨later, hlater, -⟩ := hbooked.later.calls
  have hmore : w.outside.timerCalls.drop z.worker.outside.timerCalls.length = later := by
    rw [hlater, List.drop_left]
  refine ⟨⟨hbooked.again, h.wheel, ?_, fun x hx => ?_, fun before op after hsplit hkind => ?_,
    fun i j op op' hi hj hid hown => ?_, h.seen, fun call hcall => ?_⟩, rfl, rfl, rfl,
    List.prefix_append _ _, hbooked.later⟩
  · simp only [hmore, List.map_append, List.map_map]
    rw [h.sent, hlater]
    simp [Function.comp_def]
  · rcases List.mem_append.mp hx with hx | hx
    · exact h.past x hx
    · obtain ⟨op, -, rfl⟩ := List.mem_map.mp hx
      exact le_refl _
  · rcases h.given before op after hsplit hkind with hforeign | ⟨stamp, hstamp, hle⟩
    · exact .inl (Foreign.later hforeign hbooked.later)
    · refine .inr ⟨stamp, ?_, hle⟩
      rw [List.take_append]
      exact List.mem_append_left _ hstamp
  · exact h.once i j op op' hi hj hid fun hforeign => hown (Foreign.later hforeign hbooked.later)
  · exact (h.calls call hcall).later hbooked.later (List.prefix_append _ _)

/-- A turn of the wheel: a tick, or a command that it may take. -/
theorem Linked.turn (h : Linked c z) {l : Timer.Label}
    (hl : ∀ op, l = .op op → op.kind = .ADD → z.worker.Foreign op.timerId ∨
      z.Came op z.wheel.advancedTicks ∧ ∀ op' ∈ addsOf z.labels, op'.timerId ≠ op.timerId) :
    Linked c (z.turn c l) := by
  have hticks : z.wheel.advancedTicks ≤ (z.wheel.step c l).advancedTicks := by
    cases l with
    | op op => rw [TimerWheel.step, TimerWheel.processOp_advancedTicks]
    | tick =>
      rw [TimerWheel.step, TimerWheel.tick_advancedTicks]
      exact Nat.le_succ _
  refine ⟨h.booked, ?_, h.sent, fun x hx => (h.past x hx).trans hticks,
    fun before op after hsplit hkind => ?_, fun i j op op' hi hj hid hown => ?_, ?_,
    fun call hcall => (h.calls call hcall).later (.refl _) (List.prefix_refl _)⟩
  · show z.wheel.step c l = _
    rw [h.wheel]
    exact (TimerWheel.run_append z.labels [l]).symm
  · rcases Timer.split_of_concat hsplit with ⟨rfl, rfl⟩ | ⟨after, hsplit⟩
    · rw [← h.wheel]
      exact (hl op rfl hkind).imp_right (·.1)
    · exact h.given before op after hsplit hkind
  · have hlast : ∀ (k : Nat) (x : TimerOp), (addsOf (z.labels ++ [l]))[k]? = some x →
        ¬ z.worker.Foreign x.timerId → (addsOf z.labels)[k]? = some x ∨
          k = (addsOf z.labels).length ∧ ∀ op' ∈ addsOf z.labels, op'.timerId ≠ x.timerId := by
      intro k x hk hmine
      rcases Timer.addsOf_concat hk with hk | ⟨hlen, rfl, hkind⟩
      · exact .inl hk
      · exact .inr ⟨hlen, ((hl x rfl hkind).resolve_left hmine).2⟩
    rcases hlast i op hi hown with hi | ⟨rfl, hnew⟩
    · rcases hlast j op' hj (hid ▸ hown) with hj | ⟨rfl, hnew⟩
      · exact h.once i j op op' hi hj hid hown
      · exact absurd hid (hnew op (List.mem_of_getElem? hi))
    · rcases hlast j op' hj (hid ▸ hown) with hj | ⟨rfl, -⟩
      · exact absurd hid.symm (hnew op' (List.mem_of_getElem? hj))
      · rfl
  · obtain ⟨later, hlater⟩ := TimerWheel.step_fired (c := c) z.wheel l
    show List.Sublist _ ((z.wheel.step c l).fired.take z.seen)
    rw [hlater, List.take_append]
    exact h.seen.trans (List.sublist_append_left _ _)

/-- A command of the thread comes to the wheel for the first time. -/
theorem Linked.fresh (h : Linked c z) {x : Nat × TimerOp} (hx : z.sent[z.taken]? = some x)
    (hkind : x.2.kind = .ADD) : ∀ op ∈ addsOf z.labels, op.timerId ≠ x.2.timerId := by
  intro op hop hid
  obtain ⟨i, hi⟩ := List.mem_iff_getElem?.mp hop
  obtain ⟨before, after, hsplit, hadd, -⟩ := Timer.addsOf_split hi
  have hown := h.own (List.mem_of_getElem? hx) hkind
  obtain ⟨stamp, hstamp, -⟩ := (h.given before op after hsplit hadd).resolve_left (hid ▸ hown)
  -- the two would be one command in two places
  have hsplit' : z.sent = z.sent.take z.taken ++ x :: z.sent.drop (z.taken + 1) := by
    obtain ⟨hlt, hget⟩ := List.getElem?_eq_some_iff.mp hx
    rw [← hget, ← List.drop_eq_getElem_cons hlt, List.take_append_drop]
  have honce := h.booked.once
  rw [← h.sent, hsplit', List.map_append, List.filter_append, List.map_append,
    List.nodup_append] at honce
  refine honce.2.2 op.timerId ?_ x.2.timerId ?_ hid
  · exact List.mem_map_of_mem (List.mem_filter.mpr
      ⟨List.mem_map.mpr ⟨_, hstamp, rfl⟩, decide_eq_true hadd⟩)
  · exact List.mem_map_of_mem (List.mem_filter.mpr
      ⟨List.mem_map.mpr ⟨x, List.mem_cons_self, rfl⟩, decide_eq_true hkind⟩)

/-- A message that the thread takes. -/
theorem Linked.onTimer (h : Linked c z) {f : Timer.Fired} (hf : f ∈ z.wheel.fired)
    (hseen : (z.calls.map (·.fired) ++ [f]).Sublist (z.wheel.fired.take z.seen))
    (hstep : z.onTimer lib nature f = some t) : Linked c t := by
  unfold ScriptTimers.onTimer at hstep
  dsimp only at hstep
  split at hstep
  · cases hstep
    exact h
  split at hstep
  · cases hstep
    exact h
  rename_i hactor
  obtain ⟨u, hu, rfl⟩ := Option.map_eq_some_iff.mp hstep
  obtain ⟨hlinked, hcalls, hwheel, hseen', hhistory, hlater⟩ := h.script hu
  refine ⟨hlinked.booked, hlinked.wheel, hlinked.sent, hlinked.past, hlinked.given, hlinked.once,
    ?_, fun call hcall => ?_⟩
  · show List.Sublist _ (u.wheel.fired.take u.seen)
    rw [hwheel, hseen', List.map_append]
    cases z.worker.calledBack lib f.msg.ctx f.msg.playerId with
    | none => simpa using h.seen
    | some info => exact hseen
  · rcases List.mem_append.mp hcall with hcall | hcall
    · exact (h.calls call hcall).later hlater hhistory
    · obtain ⟨info, hinfo, rfl⟩ := Option.map_eq_some_iff.mp (Option.mem_toList.mp hcall)
      obtain ⟨hlook, -⟩ := Option.filter_eq_some_iff.mp hinfo
      obtain ⟨op, hop, hstands⟩ := h.booked.standing _ _ hlook
      have hjust : z.Justified
          { fired := f
            fnPath := info.fnPath
            tick := z.wheel.advancedTicks
            actorEpoch := (z.players.get f.msg.playerId).map (·.epoch)
            moment := z.history.length } := by
        refine ⟨?_, le_refl _, ⟨info, op, hop, rfl, by rwa [List.take_length]⟩, ?_⟩
        · rw [h.wheel] at hf ⊢
          obtain ⟨-, -, -, -, -, -, -, hle⟩ := TimerWheel.sent_of_add c hf
          exact hle
        · rw [not_and_or, not_not] at hactor
          refine hactor.imp_right fun hvalid => ?_
          unfold Scene.PlayerManager.validateEpoch at hvalid
          cases hp : z.players.get f.msg.playerId with
          | none => simp [hp] at hvalid
          | some p =>
            refine ⟨p.epoch, rfl, ?_⟩
            simpa [hp, or_iff_not_imp_left] using hvalid
      exact hjust.later hlater hhistory

theorem linked_step (h : Linked c z) {l : TimersLabel σ}
    (hstep : z.step lib nature c worker l = some t) : Linked c t := by
  cases l with
  | script s =>
    have hscript : z.script lib nature s = some t := by
      cases s with
      | onLuaTimerFire => cases hstep
      | _ => exact hstep
    exact (h.script hscript).1
  | players m =>
    cases hstep
    exact ⟨h.booked, h.wheel, h.sent, h.past, h.given, h.once, h.seen, fun call hcall =>
      (h.calls call hcall).later (.refl _) (List.prefix_refl _)⟩
  | takeIds n =>
    cases hstep
    have hlater : z.worker.outside.Later { z.worker.outside with
        nextTimerId := z.worker.outside.nextTimerId + n } :=
      ⟨Nat.le_add_right _ _, [], (List.append_nil _).symm, by simp⟩
    have hbooked : Booked z.worker.outside z.history { z.worker with outside :=
        { z.worker.outside with nextTimerId := z.worker.outside.nextTimerId + n } } :=
      h.booked.fewer (fun _ _ hid => hid) rfl (Nat.le_add_right _ _)
    exact ⟨hbooked.again, h.wheel, h.sent, h.past,
      fun before op after hsplit hkind => (h.given before op after hsplit hkind).imp_left
        fun hforeign => Foreign.later hforeign hlater,
      fun i j op op' hi hj hid hown => h.once i j op op' hi hj hid
        fun hforeign => hown (Foreign.later hforeign hlater), h.seen,
      fun call hcall => (h.calls call hcall).later hlater (List.prefix_refl _)⟩
  | command queued =>
    obtain ⟨x, hx, rfl⟩ := Option.map_eq_some_iff.mp hstep
    have htake : z.sent.take (z.taken + 1) = z.sent.take z.taken ++ [x] := by
      rw [List.take_add_one, hx]
      rfl
    have hnext : Linked c { z with taken := z.taken + 1 } := by
      refine ⟨h.booked, h.wheel, h.sent, h.past, fun before op after hsplit hkind => ?_, h.once,
        h.seen, fun call hcall => (h.calls call hcall).later (.refl _) (List.prefix_refl _)⟩
      refine (h.given before op after hsplit hkind).imp_right ?_
      rintro ⟨stamp, hstamp, hle⟩
      exact ⟨stamp, by rw [htake]; exact List.mem_append_left _ hstamp, hle⟩
    dsimp only
    split
    · refine hnext.turn fun op hop hkind => .inr ?_
      cases hop
      refine ⟨⟨x.1, ?_, h.past x (List.mem_of_getElem? hx)⟩, h.fresh hx hkind⟩
      rw [htake]
      exact List.mem_append_right _ List.mem_cons_self
    · exact hnext
  | other op =>
    obtain ⟨hforeign, hstep⟩ := Option.ite_none_right_eq_some.mp hstep
    cases hstep
    refine h.turn fun op' hop hkind => .inl ?_
    cases hop
    exact hforeign hkind
  | tick =>
    cases hstep
    exact h.turn fun op hop => by cases hop
  | message queued =>
    obtain ⟨f, hf, hstep⟩ := Option.bind_eq_some_iff.mp hstep
    have htake : z.wheel.fired.take (z.seen + 1) = z.wheel.fired.take z.seen ++ [f] := by
      rw [List.take_add_one, hf]
      rfl
    have hnext : Linked c { z with seen := z.seen + 1 } := by
      refine ⟨h.booked, h.wheel, h.sent, h.past, h.given, h.once, ?_, fun call hcall =>
        (h.calls call hcall).later (.refl _) (List.prefix_refl _)⟩
      rw [htake]
      exact h.seen.trans (List.sublist_append_left _ _)
    dsimp only at hstep
    split at hstep
    · cases hstep
      exact hnext
    split at hstep
    · refine hnext.onTimer (List.mem_of_getElem? hf) ?_ hstep
      rw [htake]
      exact h.seen.append (List.Sublist.refl _)
    · cases hstep

theorem linked_exec {ls : List (TimersLabel σ)}
    (hrun : Run.exec (step lib nature c worker) {} ls = some z) : Linked c z :=
  Run.exec_invariant _ (fun _ _ _ hs hstep => linked_step hs hstep) linked_init hrun

/-! ### When a callback comes -/

/-- The messages of one timer are rings of one alarm. -/
theorem Linked.one_alarm (h : Linked c z) {f : Timer.Fired} (hf : f ∈ z.wheel.fired)
    (hown : ¬ z.worker.Foreign f.msg.ctx) :
    ∃ before op after, z.labels = before ++ .op op :: after ∧ op.kind = .ADD ∧
      op.timerId = f.msg.ctx ∧ f.msg = op.msg ∧
      z.Came op (TimerWheel.run c {} before).advancedTicks ∧
      ∀ g ∈ z.wheel.fired, g.msg.ctx = f.msg.ctx → g.origin = (addsOf before).length := by
  rw [h.wheel] at hf
  obtain ⟨before, op, after, hsplit, hkind, -, hmsg, -⟩ := TimerWheel.sent_of_add c hf
  have hid : op.timerId = f.msg.ctx := by rw [hmsg]; rfl
  refine ⟨before, op, after, hsplit, hkind, hid, hmsg,
    (h.given before op after hsplit hkind).resolve_left (hid ▸ hown), fun g hg hctx => ?_⟩
  rw [h.wheel] at hg
  obtain ⟨before', op', after', hsplit', hkind', hlen, hmsg', -⟩ := TimerWheel.sent_of_add c hg
  have hid' : op'.timerId = g.msg.ctx := by rw [hmsg']; rfl
  rw [← hlen]
  have hplace' := Timer.addsOf_place before' after' hkind'
  have hplace := Timer.addsOf_place before after hkind
  rw [← hsplit'] at hplace'
  rw [← hsplit] at hplace
  exact h.once _ _ op' op hplace' hplace (hid'.trans (hctx.trans hid.symm)) (by rwa [hid', hctx])

theorem Linked.call_sent (h : Linked c z) {call : TimerCall} (hcall : call ∈ z.calls) :
    call.fired ∈ z.wheel.fired :=
  List.mem_of_mem_take (h.seen.subset (List.mem_map_of_mem hcall))

/-- The calls of a callback are some of the rings of its alarm, in their order. -/
theorem Linked.calls_rings (h : Linked c z) {id a : Nat}
    (halarm : ∀ f ∈ z.wheel.fired, f.msg.ctx = id → f.origin = a) :
    ((z.calls.filter (·.fired.msg.ctx = id)).map fun x => (x.fired.tick, x.fired.msg)).Sublist
      (z.wheel.rings a) := by
  have hall : ((z.calls.filter (·.fired.msg.ctx = id)).map (·.fired)).Sublist z.wheel.fired :=
    ((List.filter_sublist.map _).trans h.seen).trans (List.take_sublist _ _)
  have hself := hall.filter (·.origin = a)
  rw [List.filter_eq_self.mpr] at hself
  · simpa [TimerWheel.rings, Function.comp_def] using hself.map fun f => (f.tick, f.msg)
  · intro f hf
    obtain ⟨x, hx, rfl⟩ := List.mem_map.mp hf
    obtain ⟨hx, hid⟩ := List.mem_filter.mp hx
    exact decide_eq_true (halarm x.fired (h.call_sent hx) (of_decide_eq_true hid))

theorem toNat_ofInt {ms : Int} (h : 0 ≤ ms) (hshort : ms < 2 ^ 64) :
    (UInt64.ofInt ms).toNat = ms.toNat := by
  have hmod : ms % 2 ^ 64 = ms := Int.emod_eq_of_lt h hshort
  rw [UInt64.ofInt, hmod]
  exact UInt64.toNat_ofNat_of_lt (show ms.toNat < 2 ^ 64 by omega)

/-- In every interleaving, the `k`-th call of the callback of a timer is of the function that a
script or a finalizer gave, comes `k + 1` intervals or more after it was asked for, and comes at
most once for `timer.after`; and at that moment no script had cancelled the timer, its player had
not logged out since, the tables had not been cleared, and its actor was the one that had asked,
if it had asked with an epoch. -/
theorem callbacks_on_time {ls : List (TimersLabel σ)}
    (hrun : Run.exec (step lib nature c worker) {} ls = some z) {id k : Nat} {call : TimerCall}
    (hcall : (z.calls.filter (·.fired.msg.ctx = id))[k]? = some call) :
    ∃ before ms after op stamp,
      z.history.take call.moment =
        before ++ .asked (timerCall op.repeats ms call.fnPath) (.id id) :: after ∧
      (∀ e ∈ after, ¬ e.Ends id op.playerId) ∧
      (stamp, op) ∈ z.sent ∧ op.timerId = id ∧ 0 < ms ∧
      (op.repeats = false → k = 0) ∧
      (ms < 2 ^ 63 → stamp * c.tickMs.toNat + (k + 1) * ms.toNat ≤ call.tick * c.tickMs.toNat) ∧
      (op.playerId = 0 ∨ ∃ e, call.actorEpoch = some e ∧ (op.epoch = 0 ∨ e = op.epoch)) := by
  have h := linked_exec hrun
  obtain ⟨hmem, hid⟩ := List.mem_filter.mp (List.mem_of_getElem? hcall)
  obtain rfl := of_decide_eq_true hid
  obtain ⟨htick, -, ⟨info, op, hop, hpath, hstands⟩, hactor⟩ := h.calls call hmem
  have hown : ¬ z.worker.Foreign call.fired.msg.ctx := fun hforeign =>
    hforeign.2 op hop hstands.kind hstands.timerId
  obtain ⟨start, op', rest, hsplit, hkind, hctx, hmsg, ⟨stamp, hstamp, hle⟩, hone⟩ :=
    h.one_alarm (h.call_sent hmem) hown
  have hsent := List.mem_of_mem_take hstamp
  obtain rfl : op' = op := h.same_command (h.sent ▸ List.mem_map_of_mem hsent) hop hkind
    hstands.kind (hctx.trans hstands.timerId.symm)
  obtain ⟨rings, hlast, -, hrings⟩ := TimerWheel.rings_scheduled c start rest hkind
  rw [← hsplit, ← h.wheel] at hrings
  have hsub := h.calls_rings hone
  rw [hrings] at hsub
  obtain ⟨hlt, hring, -⟩ := Timer.scheduled_sublist hsub
    (show _ = some (call.fired.tick, call.fired.msg) by rw [List.getElem?_map, hcall]; rfl)
  obtain ⟨before, ms, after, hhistory, hafter, hms, hinterval⟩ := hstands.asked
  rw [← hstands.repeats, hpath] at hhistory
  rw [← hstands.playerId] at hafter
  refine ⟨before, ms, after, op', stamp, hhistory, hafter, hsent, hctx, hms, fun hrepeats => ?_,
    fun hshort => ?_, ?_⟩
  · have := hlast hrepeats
    omega
  · have hnat : op'.intervalMs.toNat = ms.toNat := by
      rw [hinterval, toNat_ofInt hms.le (by omega)]
    have hlong : op'.intervalMs.toNat ≤ ahead c op' * c.tickMs.toNat :=
      Timer.interval_le_ahead c (by rw [hnat]; omega)
    rw [hnat] at hlong
    calc stamp * c.tickMs.toNat + (k + 1) * ms.toNat
        ≤ stamp * c.tickMs.toNat + (k + 1) * (ahead c op' * c.tickMs.toNat) :=
          Nat.add_le_add_left (Nat.mul_le_mul_left _ hlong) _
      _ = (stamp + (k + 1) * ahead c op') * c.tickMs.toNat := by
          rw [← Nat.mul_assoc, ← Nat.add_mul]
      _ ≤ call.tick * c.tickMs.toNat := Nat.mul_le_mul_right _
          ((Nat.add_le_add_right hle _).trans (hring.trans htick))
  · rw [hmsg] at hactor
    exact hactor

/-- A script that is called every 500 ms once a player walks. -/
def walkLibrary : Library Unit where
  ref s := (0, s)
  packagePath _ := none
  setPackagePath s _ := s
  registerAll := id
  function _ path := some fun _ =>
    if path = Gateway.text "move.c2s_walk" then
      .call (.timerEvery 500 (some (Gateway.text "move.on_auto_walk_tick"))) fun _ =>
        .done (true, ())
    else .done (true, ())
  bodyToTable _ _ := true
  close _ := .done ()

/-- Player 7 walks, and the timer rings twice on a wheel of 50 ms. -/
def walkRun : List (TimersLabel Unit) :=
  let noFiles : Scripts Unit := { readdir := fun _ => none, loadfile := fun _ => none }
  let online := ((({} : Scene.PlayerManager).getOrCreate 7 1).map (·.2)).getD {}
  let rings := List.replicate 10 .tick ++ [.message true]
  [.script (.context { env := true }), .script (.init [] true (some ()) noFiles), .players online,
    .script (.dispatchC2S ⟨Gateway.text "move.c2s_walk", [], 3, 1⟩ 1 7 5 1 []), .command true] ++
    rings ++ rings

theorem callbacks_on_time_twice : ∃ z call,
    Run.exec (step walkLibrary (fun _ => {}) (.ofArgs 50 256) 0) {} walkRun = some z ∧
    (z.calls.filter (·.fired.msg.ctx = 1))[1]? = some call ∧ call.tick = 20 ∧
    ∃ (ms : Int) (op : TimerOp) (stamp : Nat), (stamp, op) ∈ z.sent ∧ 0 < ms ∧
      (ms < 2 ^ 63 → stamp * 50 + (1 + 1) * ms.toNat ≤ call.tick * 50) := by
  have hrun : (Run.exec (step walkLibrary (fun _ => {}) (.ofArgs 50 256) 0) {} walkRun).any
      (fun z => ((z.calls.filter (·.fired.msg.ctx = 1))[1]?).any (·.tick = 20)) = true := by
    decide +kernel
  obtain ⟨z, hz, hall⟩ := (Option.any_eq_true ..).mp hrun
  obtain ⟨call, hcall, htick⟩ := (Option.any_eq_true ..).mp hall
  obtain ⟨-, ms, -, op, stamp, -, -, hsent, -, hms, -, hlate, -⟩ := callbacks_on_time hz hcall
  exact ⟨z, call, hz, hcall, of_decide_eq_true htick, ms, op, stamp, hsent, hms, hlate⟩

end ScriptTimers

end Lua
