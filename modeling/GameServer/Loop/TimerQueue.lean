import Mathlib.Data.Finset.Basic
import Mathlib.Data.List.Sort
import Mathlib.Logic.Function.Basic
import GameServer.Lib.Run

/-!
# The timers of the event loop

The queue keeps a timer in an ordered set and in a set of active ones until it is due. One
reading of the clock takes out all timers that are due and runs their callbacks one after another;
while it does, a timer to be cancelled may be in neither set, so its id is kept in a third
set, which is looked at when the batch is put back.

A timer is the address of an object, and an address is used again once the object was
released. `events` keeps what happened and is read by no function of the queue.
-/

namespace Loop

/-- A `Timer`, without its callback. Of the interval only its sign and its microseconds are
used. -/
structure Timer where
  expiration : Int
  micro : Int
  repeats : Bool
  sequence : Nat
  cancelled : Bool := false
  deriving DecidableEq, Repr

structure Entry where
  expiration : Int
  timer : Nat
  deriving DecidableEq, Repr

/-- The order of `timers_`. -/
def Entry.le (e f : Entry) : Prop :=
  e.expiration < f.expiration ∨ e.expiration = f.expiration ∧ e.timer ≤ f.timer

instance : DecidableRel Entry.le := fun _ _ => inferInstanceAs (Decidable (_ ∨ _))

/-- A `TimerId`, and a member of `activeTimers_`. Address zero is the null pointer. -/
@[ext] structure TimerId where
  timer : Nat
  sequence : Nat
  deriving DecidableEq, Repr

inductive Event where
  | created (id : TimerId) (repeats : Bool)
  | started (id : TimerId)
  | cancelled (id : TimerId)
  | released (id : TimerId)
  deriving DecidableEq, Repr

/-- The variables of a call of `handleRead`: what was due, and what of it is still to be run. -/
structure Batch where
  now : Int
  expired : List Entry
  rest : List Entry
  inCallback : Bool := false
  deriving DecidableEq, Repr

structure TimerQueue where
  heap : Nat → Option Timer := fun _ => none
  numCreated : Nat := 0
  timers : List Entry := []
  activeTimers : Finset TimerId := ∅
  cancelligTimer : Finset TimerId := ∅
  handleTimer : Bool := false
  batch : Option Batch := none
  destroyed : Bool := false
  events : List Event := []

namespace TimerQueue

variable (q : TimerQueue)

/-- `timers_.insert`. -/
def insertEntry (e : Entry) : List Entry :=
  if e ∈ q.timers then q.timers else q.timers.orderedInsert Entry.le e

/-- `delete timer`; `none` if there is no object. -/
def delete (timer : Nat) : Option TimerQueue := do
  let t ← q.heap timer
  return { q with
    heap := Function.update q.heap timer none
    events := q.events ++ [.released ⟨timer, t.sequence⟩] }

/-- `new Timer` and `addTimerInLoop`. -/
def addTimer (timer : Nat) (when micro : Int) (repeats : Bool) : TimerQueue :=
  let id : TimerId := ⟨timer, q.numCreated⟩
  { q with
    heap := Function.update q.heap timer
      (some { expiration := when, micro, repeats, sequence := q.numCreated })
    numCreated := q.numCreated + 1
    timers := q.insertEntry ⟨when, timer⟩
    activeTimers := insert id q.activeTimers
    events := q.events ++ [.created id repeats] }

def cancelInLoop (timerId : TimerId) : Option TimerQueue := do
  let q : TimerQueue := { q with events := q.events ++ [.cancelled timerId] }
  if timerId ∈ q.activeTimers then
    let t ← q.heap timerId.timer
    { q with
      timers := q.timers.erase ⟨t.expiration, timerId.timer⟩
      activeTimers := q.activeTimers.erase ⟨timerId.timer, t.sequence⟩ }.delete timerId.timer
  else if q.handleTimer then
    return { q with cancelligTimer := insert timerId q.cancelligTimer }
  else return q

/-- Each of the timers leaves `activeTimers_`. -/
def deactivate : List Entry → Finset TimerId → Option (Finset TimerId)
  | [], active => some active
  | e :: es, active => do
    let t ← q.heap e.timer
    deactivate es (active.erase ⟨e.timer, t.sequence⟩)

/-- `handleRead` up to its loop over the callbacks, with `getExpired`. -/
def expire (now : Int) : Option TimerQueue := do
  let expired := q.timers.takeWhile (·.expiration ≤ now)
  let activeTimers ← q.deactivate expired q.activeTimers
  return { q with
    handleTimer := true
    activeTimers
    timers := q.timers.dropWhile (·.expiration ≤ now)
    batch := some { now, expired, rest := expired } }

/-- The loop over the callbacks comes to the next timer. -/
def next (b : Batch) (e : Entry) (rest : List Entry) : Option TimerQueue := do
  let t ← q.heap e.timer
  if t.cancelled then return { q with batch := some { b with rest, inCallback := false } }
  else return { q with
    batch := some { b with rest, inCallback := true }
    events := q.events ++ [.started ⟨e.timer, t.sequence⟩] }

/-- One timer of the batch is put back or released. -/
def resetOne (now : Int) (e : Entry) : Option TimerQueue := do
  let t ← q.heap e.timer
  if (⟨e.timer, t.sequence⟩ : TimerId) ∈ q.cancelligTimer then q.delete e.timer
  else if t.cancelled then q.delete e.timer
  else if t.repeats then
    let t := { t with expiration := now + t.micro }
    let q := { q with heap := Function.update q.heap e.timer (some t) }
    return { q with
      timers := q.insertEntry ⟨t.expiration, e.timer⟩
      activeTimers := insert ⟨e.timer, t.sequence⟩ q.activeTimers }
  else q.delete e.timer

def reset (now : Int) : List Entry → TimerQueue → Option TimerQueue
  | [], q => some q
  | e :: es, q => do reset now es (← q.resetOne now e)

/-- `handleRead` after its loop over the callbacks. -/
def finish (b : Batch) : Option TimerQueue := do
  let q ← reset b.now b.expired { q with handleTimer := false }
  return { q with cancelligTimer := ∅, batch := none }

def deleteAll : List Entry → TimerQueue → Option TimerQueue
  | [], q => some q
  | e :: es, q => do deleteAll es (← q.delete e.timer)

/-- `~TimerQueue`. -/
def destroy : Option TimerQueue := do
  let q ← deleteAll q.timers q
  return { q with timers := [], activeTimers := ∅, destroyed := true }

/-- Code that can call `addTimer` and `cancel` is running: code outside a batch, or a callback. -/
def callable : Bool :=
  !q.destroyed && match q.batch with
    | none => true
    | some b => b.inCallback

/-- The ids that `addTimer` gave out. -/
def Issued (id : TimerId) : Prop := ∃ repeats, .created id repeats ∈ q.events

instance (id : TimerId) : Decidable (q.Issued id) :=
  decidable_of_iff (.created id true ∈ q.events ∨ .created id false ∈ q.events)
    ⟨fun h => h.elim (⟨true, ·⟩) (⟨false, ·⟩), fun ⟨r, h⟩ => by cases r <;> simp [h]⟩

end TimerQueue

/-- A step of the loop thread. The address of a new timer is chosen by the allocator, and a program
has the ids it was given and those it made without a timer. -/
inductive TimerStep where
  | add (timer : Nat) (when micro : Int) (repeats : Bool)
  | cancel (timerId : TimerId)
  | expire (now : Int)
  | next
  | finish
  | destroy

namespace TimerQueue

/-- The step can be taken here. -/
def Enabled (q : TimerQueue) : TimerStep → Prop
  | .add timer _ _ _ => q.callable ∧ timer ≠ 0 ∧ q.heap timer = none
  | .cancel timerId => q.callable ∧ (timerId.timer = 0 ∨ q.Issued timerId)
  | .expire _ => q.batch = none ∧ !q.destroyed
  | .next => ∃ b ∈ q.batch, b.rest ≠ []
  | .finish => ∃ b ∈ q.batch, b.rest = []
  | .destroy => q.batch = none ∧ !q.destroyed

/-- `none` where the step is not enabled, and where it reads or releases an object that is not
there. -/
def step (q : TimerQueue) : TimerStep → Option TimerQueue
  | .add timer when micro repeats =>
    if q.callable ∧ timer ≠ 0 ∧ q.heap timer = none then some (q.addTimer timer when micro repeats)
    else none
  | .cancel timerId =>
    if q.callable ∧ (timerId.timer = 0 ∨ q.Issued timerId) then q.cancelInLoop timerId else none
  | .expire now => if q.batch = none ∧ !q.destroyed then q.expire now else none
  | .next =>
    match q.batch with
    | none => none
    | some b =>
      match b.rest with
      | [] => none
      | e :: rest => q.next b e rest
  | .finish =>
    match q.batch with
    | none => none
    | some b => if b.rest = [] then q.finish b else none
  | .destroy => if q.batch = none ∧ !q.destroyed then q.destroy else none

end TimerQueue

end Loop
