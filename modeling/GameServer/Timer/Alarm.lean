import GameServer.Timer.TimerThread

/-!
# One timer by itself

The ADD commands are numbered in the order the wheel takes them. An alarm follows one
of them through the same commands and ticks and knows nothing of the other timers:
it is armed with the tick it rings at, disarmed by a CANCEL of its user id, and
armed again when it rings and repeats.
-/

namespace Timer

def TimerOp.msg (op : TimerOp) : Fire where
  Module := op.Module
  Method := op.Method
  seq := op.seq
  session := op.session
  playerId := op.playerId
  srcWorkerId := op.ownerWorkerId % 2 ^ 32
  epoch := op.epoch
  ctx := op.timerId

structure Alarm where
  now : Nat := 0
  adds : Nat := 0
  armed : Option (Nat × TimerOp) := none
  rings : List (Nat × Fire) := []

namespace Alarm

variable (period : TimerOp → Nat) (a : Nat)

/-- The alarm of the ADD number `a`. -/
def step (s : Alarm) : Label → Alarm
  | .op op =>
    if op.kind = .ADD then
      { s with
        adds := s.adds + 1
        armed := if s.adds = a then some (s.now + period op, op) else s.armed }
    else { s with armed := s.armed.filter fun x => x.2.timerId ≠ op.timerId }
  | .tick =>
    let s := { s with now := s.now + 1 }
    match s.armed with
    | none => s
    | some (due, op) =>
      if due = s.now then
        { s with
          rings := s.rings ++ [(s.now, op.msg)]
          armed := if op.repeats then some (s.now + period op, op) else none }
      else s

def run (s : Alarm) (labels : List Label) : Alarm := labels.foldl (step period a) s

variable {period : TimerOp → Nat} {a : Nat}

theorem run_append (s : Alarm) (ls ms : List Label) :
    s.run period a (ls ++ ms) = (s.run period a ls).run period a ms := List.foldl_append

theorem run_cons (s : Alarm) (l : Label) (ls : List Label) :
    s.run period a (l :: ls) = (s.step period a l).run period a ls := rfl

end Alarm

/-- How far ahead of the wheel an instance is put: a whole number of turns is put one turn late. -/
def ahead (c : Config) (op : TimerOp) : Nat :=
  let total := (totalTicks c (atLeastTick c op.intervalMs)).toNat
  if total % c.wheelSlots = 0 then total + c.wheelSlots else total

theorem ahead_pos (c : Config) (op : TimerOp) : 0 < ahead c op := by
  have := c.slots_gt
  unfold ahead
  dsimp only
  split
  · omega
  · rename_i h
    by_contra hzero
    rw [Nat.le_zero.mp (Nat.not_lt.mp hzero)] at h
    exact h (Nat.zero_mod _)

/-- The rounds that `insert` computes are those of the sweep `ahead` ticks from now. -/
theorem rounds_ahead (c : Config) (op : TimerOp) :
    (totalTicks c (atLeastTick c op.intervalMs)).toNat / c.wheelSlots =
      (ahead c op - 1) / c.wheelSlots := by
  have hslots := c.slots_gt
  unfold ahead
  generalize (totalTicks c (atLeastTick c op.intervalMs)).toNat = total
  have hdiv := Nat.div_add_mod total c.wheelSlots
  have hmod := Nat.mod_lt total (Nat.zero_lt_of_lt hslots)
  have hcomm := Nat.mul_comm c.wheelSlots (total / c.wheelSlots)
  symm
  dsimp only
  split
  · refine Nat.div_eq_of_lt_le ?_ ?_
    · omega
    · rw [Nat.add_mul]
      omega
  · refine Nat.div_eq_of_lt_le ?_ ?_
    · omega
    · rw [Nat.add_mul]
      omega

theorem slot_ahead (c : Config) (op : TimerOp) (now : Nat) :
    (now + ahead c op) % c.wheelSlots =
      (now % c.wheelSlots + (totalTicks c (atLeastTick c op.intervalMs)).toNat % c.wheelSlots) %
        c.wheelSlots := by
  rw [← Nat.add_mod]
  unfold ahead
  dsimp only
  split
  · rw [← Nat.add_assoc, Nat.add_mod_right]
  · rfl

@[simp] theorem atLeastTick_atLeastTick (c : Config) (ms : UInt64) :
    atLeastTick c (atLeastTick c ms) = atLeastTick c ms := by
  unfold atLeastTick
  split
  · simp
  · rfl

end Timer
