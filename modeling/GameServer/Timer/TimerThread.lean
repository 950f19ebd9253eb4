import Mathlib.Algebra.Group.Nat.Defs
import Mathlib.Logic.Function.Iterate
import GameServer.Lib.Table

/-!
# The timer wheel

One thread owns a wheel of slots. An instance of a timer sits in one slot with the
number of rounds it still has to go; each tick sweeps one slot, takes out what is
due and fires it, and a repeating timer is put back as a new instance. Cancelling
only removes instances from the live table; the sweep drops their ids later.

`origin` and `adds` count the ADD commands and `fired` keeps what was sent. They
are read by no function of the wheel.
-/

namespace Timer

inductive Kind where
  | ADD | CANCEL
  deriving DecidableEq, Repr

structure TimerOp where
  kind : Kind := .ADD
  timerId : Nat
  ownerWorkerId : Nat := 0
  intervalMs : UInt64 := 0
  repeats : Bool := false
  Module : Nat := 0
  Method : Nat := 0
  playerId : Nat := 0
  session : Nat := 0
  seq : Nat := 0
  epoch : Nat := 0
  deriving DecidableEq, Repr

structure TimerItem where
  internalId : Nat
  userTimerId : Nat
  ownerWorkerId : Nat
  intervalMs : UInt64
  repeats : Bool
  Module : Nat
  Method : Nat
  playerId : Nat
  session : Nat
  seq : Nat
  epoch : Nat
  origin : Nat
  deriving DecidableEq, Repr

structure LiveTimer where
  leftRound : Nat
  item : TimerItem
  deriving DecidableEq, Repr

/-- The head of a `MSGTYPE_TIMER_FIRE` message; its body is empty. -/
structure Fire where
  Module : Nat
  Method : Nat
  seq : Nat
  session : Nat
  playerId : Nat
  srcWorkerId : Nat
  epoch : Nat
  ctx : Nat
  deriving DecidableEq, Repr

structure Fired where
  tick : Nat
  origin : Nat
  msg : Fire
  deriving DecidableEq, Repr

def kWheelSlots : Nat := 256
def kMinTickMs : UInt64 := 1
def kMaxTickMs : UInt64 := 1000
def kMaxCatchupTicks : Int := 5

/-- `tick_ms_` and `wheel_slots_`, as the constructor leaves them. -/
structure Config where
  tickMs : UInt64
  wheelSlots : Nat
  tick_ge : kMinTickMs.toNat ≤ tickMs.toNat
  tick_le : tickMs.toNat ≤ kMaxTickMs.toNat
  slots_gt : 1 < wheelSlots
  slots_lt : wheelSlots < 2 ^ 32

/-- `std::clamp(tickMs, kMinTickMs, kMaxTickMs)`. -/
def clampTick (tickMs : UInt64) : UInt64 :=
  if tickMs < kMinTickMs then kMinTickMs else if kMaxTickMs < tickMs then kMaxTickMs else tickMs

theorem clampTick_bounds (tickMs : UInt64) :
    kMinTickMs.toNat ≤ (clampTick tickMs).toNat ∧ (clampTick tickMs).toNat ≤ kMaxTickMs.toNat := by
  unfold clampTick
  split
  · decide
  · rename_i hmin
    split
    · decide
    · rename_i hmax
      rw [UInt64.lt_iff_toNat_lt] at hmin hmax
      omega

/-- The constructor clamps the tick and replaces a slot count below two. -/
def Config.ofArgs (tickMs : UInt64) (wheelSlots : UInt32) : Config where
  tickMs := clampTick tickMs
  wheelSlots := if wheelSlots.toNat > 1 then wheelSlots.toNat else kWheelSlots
  tick_ge := (clampTick_bounds tickMs).1
  tick_le := (clampTick_bounds tickMs).2
  slots_gt := by
    split
    · assumption
    · decide
  slots_lt := by
    split
    · exact wheelSlots.toNat_lt
    · decide

structure TimerWheel where
  slots : Nat → List Nat := fun _ => []
  live : Table Nat LiveTimer := ∅
  byUser : Table Nat (List Nat) := ∅
  nextInternalId : Nat := 1
  curSlot : Nat := 0
  advancedTicks : Nat := 0
  adds : Nat := 0
  fired : List Fired := []

/-- At least one tick: the wheel never fires in the slot it stands on. -/
def atLeastTick (c : Config) (ms : UInt64) : UInt64 := if ms < c.tickMs then c.tickMs else ms

/-- `(delay + tick_ms_ - 1) / tick_ms_` in 64 bits. -/
def totalTicks (c : Config) (delay : UInt64) : UInt64 := (delay + c.tickMs - 1) / c.tickMs

def TimerItem.msg (item : TimerItem) : Fire where
  Module := item.Module
  Method := item.Method
  seq := item.seq
  session := item.session
  playerId := item.playerId
  srcWorkerId := item.ownerWorkerId % 2 ^ 32
  epoch := item.epoch
  ctx := item.userTimerId

namespace TimerWheel

variable (c : Config) (w : TimerWheel)

def insert (item : TimerItem) (firstDelayMs : UInt64) : TimerWheel :=
  let total := (totalTicks c (atLeastTick c firstDelayMs)).toNat
  let leftRound := total / c.wheelSlots
  let inSlot := total % c.wheelSlots
  let slot := (w.curSlot + inSlot) % c.wheelSlots
  { w with
    live := w.live.insert item.internalId { leftRound, item }
    slots := Function.update w.slots slot (w.slots slot ++ [item.internalId]) }

/-- `byUser_[userTimerId].push_back(internalId)`. -/
def index (userTimerId internalId : Nat) : TimerWheel :=
  { w with
    byUser := w.byUser.insert userTimerId
      ((w.byUser.lookup userTimerId).getD [] ++ [internalId]) }

def doAdd (op : TimerOp) : TimerWheel :=
  let interval := atLeastTick c op.intervalMs
  let item : TimerItem :=
    { internalId := w.nextInternalId
      userTimerId := op.timerId
      ownerWorkerId := op.ownerWorkerId
      intervalMs := interval
      repeats := op.repeats
      Module := op.Module
      Method := op.Method
      playerId := op.playerId
      session := op.session
      seq := op.seq
      epoch := op.epoch
      origin := w.adds }
  let w := { w with nextInternalId := w.nextInternalId + 1, adds := w.adds + 1 }
  (w.index op.timerId item.internalId).insert c item interval

def doCancel (userTimerId : Nat) : TimerWheel :=
  match w.byUser.lookup userTimerId with
  | none => w
  | some ids =>
    { w with
      byUser := w.byUser.erase userTimerId
      live := ids.foldl (fun live internalId => live.erase internalId) w.live }

/-- The live table, `keep` and `firedOut` of `collect`. -/
structure Collected where
  live : Table Nat LiveTimer
  keep : List Nat := []
  firedOut : List TimerItem := []

/-- One id of the bucket. -/
def collectOne (acc : Collected) (internalId : Nat) : Collected :=
  match acc.live.lookup internalId with
  | none => acc
  | some lt =>
    if lt.leftRound > 0 then
      { acc with
        live := acc.live.insert internalId { lt with leftRound := lt.leftRound - 1 }
        keep := acc.keep ++ [internalId] }
    else
      { acc with live := acc.live.erase internalId, firedOut := acc.firedOut ++ [lt.item] }

def collect (slot : Nat) : TimerWheel × List TimerItem :=
  let done := (w.slots slot).foldl collectOne { live := w.live }
  ({ w with live := done.live, slots := Function.update w.slots slot done.keep }, done.firedOut)

/-- A repeating timer is put back under a new id; a one-shot leaves the index of its user id. -/
def fire (item : TimerItem) : TimerWheel :=
  let sent : Fired := { tick := w.advancedTicks, origin := item.origin, msg := item.msg }
  let w := { w with fired := w.fired ++ [sent] }
  if item.repeats then
    let next := { item with internalId := w.nextInternalId }
    let w := { w with nextInternalId := w.nextInternalId + 1 }
    (w.index item.userTimerId next.internalId).insert c next item.intervalMs
  else
    match w.byUser.lookup item.userTimerId with
    | none => w
    | some ids =>
      let ids := ids.filter (· ≠ item.internalId)
      { w with
        byUser := if ids = [] then w.byUser.erase item.userTimerId
          else w.byUser.insert item.userTimerId ids }

/-- One round of the advancing loop of `run`. -/
def tick : TimerWheel :=
  let curSlot := (w.curSlot + 1) % c.wheelSlots
  let w := { w with curSlot, advancedTicks := w.advancedTicks + 1 }
  let (w, fired) := w.collect curSlot
  fired.foldl (fire c) w

/-- One command of `processOps`. -/
def processOp (op : TimerOp) : TimerWheel :=
  if op.kind = .ADD then w.doAdd c op else w.doCancel op.timerId

end TimerWheel

/-- What happens to the wheel: a command is consumed, or the wheel advances by one tick. -/
inductive Label where
  | op (op : TimerOp)
  | tick

def TimerWheel.step (c : Config) (w : TimerWheel) : Label → TimerWheel
  | .op op => w.processOp c op
  | .tick => w.tick c

def TimerWheel.run (c : Config) (w : TimerWheel) (labels : List Label) : TimerWheel :=
  labels.foldl (step c) w

namespace TimerWheel

variable {c : Config} {w : TimerWheel}

@[simp] theorem insert_advancedTicks (item : TimerItem) (delay : UInt64) :
    (w.insert c item delay).advancedTicks = w.advancedTicks := rfl

@[simp] theorem index_advancedTicks (u id : Nat) : (w.index u id).advancedTicks = w.advancedTicks :=
  rfl

@[simp] theorem collect_advancedTicks (slot : Nat) :
    (w.collect slot).1.advancedTicks = w.advancedTicks := rfl

@[simp] theorem doAdd_advancedTicks (op : TimerOp) :
    (w.doAdd c op).advancedTicks = w.advancedTicks := rfl

@[simp] theorem doCancel_advancedTicks (u : Nat) :
    (w.doCancel u).advancedTicks = w.advancedTicks := by
  unfold doCancel
  split <;> rfl

@[simp] theorem fire_advancedTicks (item : TimerItem) :
    (w.fire c item).advancedTicks = w.advancedTicks := by
  unfold fire
  split
  · rfl
  · dsimp only
    split <;> rfl

theorem fires_advancedTicks (fired : List TimerItem) :
    (fired.foldl (fire c) w).advancedTicks = w.advancedTicks := by
  induction fired generalizing w with
  | nil => rfl
  | cons item fired ih => rw [List.foldl_cons, ih, fire_advancedTicks]

@[simp] theorem tick_advancedTicks : (w.tick c).advancedTicks = w.advancedTicks + 1 := by
  unfold tick
  exact fires_advancedTicks _

@[simp] theorem processOp_advancedTicks (op : TimerOp) :
    (w.processOp c op).advancedTicks = w.advancedTicks := by
  unfold processOp
  split <;> simp

theorem iterate_tick_advancedTicks (n : Nat) :
    ((tick c)^[n] w).advancedTicks = w.advancedTicks + n := by
  induction n generalizing w with
  | zero => rfl
  | succ n ih => rw [Function.iterate_succ_apply, ih, tick_advancedTicks, Nat.add_right_comm,
      Nat.add_assoc]

theorem processOps_advancedTicks (ops : List TimerOp) :
    (ops.foldl (processOp c) w).advancedTicks = w.advancedTicks := by
  induction ops generalizing w with
  | nil => rfl
  | cons op ops ih => rw [List.foldl_cons, ih, processOp_advancedTicks]

theorem run_append (ls ms : List Label) : w.run c (ls ++ ms) = (w.run c ls).run c ms :=
  List.foldl_append

theorem run_ops (ops : List TimerOp) : w.run c (ops.map .op) = ops.foldl (processOp c) w :=
  List.foldl_map

theorem run_ticks (n : Nat) : w.run c (List.replicate n .tick) = (tick c)^[n] w := by
  induction n generalizing w with
  | zero => rfl
  | succ n ih => rw [List.replicate_succ, Function.iterate_succ_apply, ← ih]; rfl

end TimerWheel

/-- The thread: the wheel and `skipped_ticks_`. -/
structure TimerThread where
  wheel : TimerWheel := {}
  skippedTicks : Int := 0

namespace TimerThread

/-- `advanceTicks` before the limit: `elapsedTicks - skipped_ticks_ - advanced_ticks_`, not
below zero. -/
def behind (t : TimerThread) (elapsedTicks : Int) : Int :=
  max 0 (elapsedTicks - t.skippedTicks - t.wheel.advancedTicks)

/-- One round of `run`: consume commands, then advance by what the clock reading asks for. -/
def round (c : Config) (t : TimerThread) (ops : List TimerOp) (elapsedTicks : Int) : TimerThread :=
  let t := { t with wheel := ops.foldl (TimerWheel.processOp c) t.wheel }
  let advanceTicks := t.behind elapsedTicks
  let skippedTicks :=
    if advanceTicks > kMaxCatchupTicks then t.skippedTicks + (advanceTicks - kMaxCatchupTicks)
    else t.skippedTicks
  let advanceTicks := min advanceTicks kMaxCatchupTicks
  { wheel := (TimerWheel.tick c)^[advanceTicks.toNat] t.wheel, skippedTicks }

/-- A round is a run of the wheel: its commands, then its ticks. -/
theorem round_wheel (c : Config) (t : TimerThread) (ops : List TimerOp) (elapsedTicks : Int) :
    ∃ n, (t.round c ops elapsedTicks).wheel =
      t.wheel.run c (ops.map .op ++ List.replicate n .tick) := by
  refine ⟨(min ({ t with wheel := ops.foldl (TimerWheel.processOp c) t.wheel }.behind elapsedTicks)
    kMaxCatchupTicks).toNat, ?_⟩
  rw [TimerWheel.run_append, TimerWheel.run_ops, TimerWheel.run_ticks]
  rfl

end TimerThread

end Timer
