import Mathlib.Data.Nat.ModEq
import GameServer.Timer.Alarm

/-!
# The wheel is a set of alarms

Slots, live table and user index are kept apart and changed at different moments.
Seen from a single ADD command, though, the wheel is an alarm: it holds the timer
as one live instance that the sweep of a known tick takes out. Every command and
every tick keeps this, whatever the other timers do.
-/

namespace Timer

/-- The item is an instance of the timer that the command adds. -/
structure TimerItem.Of (c : Config) (item : TimerItem) (op : TimerOp) : Prop where
  user : item.userTimerId = op.timerId
  interval : item.intervalMs = atLeastTick c op.intervalMs
  repeats : item.repeats = op.repeats
  msg : item.msg = op.msg

namespace TimerWheel

/-- What was sent for the ADD number `a`. -/
def rings (w : TimerWheel) (a : Nat) : List (Nat × Fire) :=
  (w.fired.filter (·.origin = a)).map fun f => (f.tick, f.msg)

/-- Slots, live table and user index name the same instances. -/
structure Sane (c : Config) (w : TimerWheel) : Prop where
  cur : w.curSlot = w.advancedTicks % c.wheelSlots
  once : ∀ p, (w.slots p).Nodup
  place : ∀ p q id, id ∈ w.slots p → id ∈ w.slots q → p = q
  slotted : ∀ p id, id ∈ w.slots p → id < w.nextInternalId
  key : ∀ id lt, w.live.lookup id = some lt → lt.item.internalId = id
  fresh : ∀ id lt, w.live.lookup id = some lt → id < w.nextInternalId
  origin : ∀ id lt, w.live.lookup id = some lt → lt.item.origin < w.adds
  index : ∀ id lt, w.live.lookup id = some lt →
    ∃ ids, w.byUser.lookup lt.item.userTimerId = some ids ∧ id ∈ ids
  indexed : ∀ u ids id, w.byUser.lookup u = some ids → id ∈ ids → id < w.nextInternalId
  owner : ∀ u ids id lt, w.byUser.lookup u = some ids → id ∈ ids →
    w.live.lookup id = some lt → lt.item.userTimerId = u

/-- The instance is taken out by the sweep of tick `due`. -/
structure Due (c : Config) (w : TimerWheel) (id : Nat) (lt : LiveTimer) (due : Nat) : Prop where
  later : w.advancedTicks < due
  rounds : lt.leftRound = (due - 1 - w.advancedTicks) / c.wheelSlots
  slot : id ∈ w.slots (due % c.wheelSlots)

/-- The wheel holds the alarm of ADD number `a` as its one live instance, or not at all. -/
inductive Holds (c : Config) (w : TimerWheel) (a : Nat) : Option (Nat × TimerOp) → Prop
  | idle (h : ∀ id lt, w.live.lookup id = some lt → lt.item.origin ≠ a) : Holds c w a none
  | held (id : Nat) (lt : LiveTimer) (due : Nat) (op : TimerOp)
      (hlive : w.live.lookup id = some lt) (horigin : lt.item.origin = a)
      (honly : ∀ id' lt', w.live.lookup id' = some lt' → lt'.item.origin = a → id' = id)
      (hdue : Due c w id lt due) (hop : lt.item.Of c op) : Holds c w a (some (due, op))

/-- The wheel, seen from one ADD command, is the alarm. -/
structure Shows (c : Config) (w : TimerWheel) (a : Nat) (s : Alarm) : Prop where
  now : s.now = w.advancedTicks
  adds : s.adds = w.adds
  rings : s.rings = w.rings a
  armed : Holds c w a s.armed

section Place

variable {c : Config} {w : TimerWheel} {a : Nat}

variable (c w) in
/-- Both `doAdd` and `fire` put an instance under the next internal id. -/
def place (item : TimerItem) (delay : UInt64) : TimerWheel :=
  ({ w with nextInternalId := w.nextInternalId + 1 }.index item.userTimerId
    w.nextInternalId).insert c { item with internalId := w.nextInternalId } delay

/-- The item that `doAdd` makes of a command. -/
def itemOf (c : Config) (w : TimerWheel) (op : TimerOp) : TimerItem where
  internalId := w.nextInternalId
  userTimerId := op.timerId
  ownerWorkerId := op.ownerWorkerId
  intervalMs := atLeastTick c op.intervalMs
  repeats := op.repeats
  Module := op.Module
  Method := op.Method
  playerId := op.playerId
  session := op.session
  seq := op.seq
  epoch := op.epoch
  origin := w.adds

/-- The wheel with one more ADD counted. -/
def counted (w : TimerWheel) : TimerWheel := { w with adds := w.adds + 1 }

theorem doAdd_eq (op : TimerOp) :
    w.doAdd c op = w.counted.place c (itemOf c w op) (itemOf c w op).intervalMs := rfl

theorem itemOf_of (op : TimerOp) : (itemOf c w op).Of c op := ⟨rfl, rfl, rfl, rfl⟩

/-- The wheel after a message was sent. -/
def send (w : TimerWheel) (item : TimerItem) : TimerWheel :=
  { w with
    fired := w.fired ++ [{ tick := w.advancedTicks, origin := item.origin, msg := item.msg }] }

theorem fire_repeats {item : TimerItem} (h : item.repeats = true) :
    w.fire c item = (w.send item).place c item item.intervalMs := by
  unfold fire
  rw [if_pos h]
  rfl

@[simp] theorem place_advancedTicks (item : TimerItem) (delay : UInt64) :
    (w.place c item delay).advancedTicks = w.advancedTicks := rfl

@[simp] theorem place_adds (item : TimerItem) (delay : UInt64) :
    (w.place c item delay).adds = w.adds := rfl

@[simp] theorem place_fired (item : TimerItem) (delay : UInt64) :
    (w.place c item delay).fired = w.fired := rfl

@[simp] theorem place_nextInternalId (item : TimerItem) (delay : UInt64) :
    (w.place c item delay).nextInternalId = w.nextInternalId + 1 := rfl

theorem place_live (item : TimerItem) (delay : UInt64) (id : Nat) :
    (w.place c item delay).live.lookup id =
      if id = w.nextInternalId then
        some
          { leftRound := (totalTicks c (atLeastTick c delay)).toNat / c.wheelSlots
            item := { item with internalId := w.nextInternalId } }
      else w.live.lookup id := by
  simp [place, insert, index]

theorem mem_place_slots {item : TimerItem} {delay : UInt64} {p id : Nat} :
    id ∈ (w.place c item delay).slots p ↔
      id ∈ w.slots p ∨ id = w.nextInternalId ∧
        p = (w.curSlot + (totalTicks c (atLeastTick c delay)).toNat % c.wheelSlots) %
          c.wheelSlots := by
  simp only [place, insert, index, Function.update_apply]
  split
  · rename_i hp
    subst hp
    simp
  · rename_i hp
    constructor
    · exact .inl
    · rintro (h | ⟨-, h⟩)
      · exact h
      · exact absurd h hp

theorem place_byUser (item : TimerItem) (delay : UInt64) (u : Nat) :
    (w.place c item delay).byUser.lookup u =
      if u = item.userTimerId then
        some ((w.byUser.lookup u).getD [] ++ [w.nextInternalId])
      else w.byUser.lookup u := by
  simp only [place, insert, index, Table.lookup_insert]
  split
  · rename_i hu
    rw [hu]
  · rfl

theorem place_sane (hs : Sane c w) {item : TimerItem} (horigin : item.origin < w.adds)
    (delay : UInt64) : Sane c (w.place c item delay) where
  cur := hs.cur
  once := fun p => by
    have hfresh : w.nextInternalId ∉ w.slots p := fun h => Nat.lt_irrefl _ (hs.slotted p _ h)
    simp only [place, insert, index, Function.update_apply]
    split
    · rename_i hp
      subst hp
      exact List.nodup_append.mpr ⟨hs.once _, List.nodup_singleton _, fun x hx y hy hxy => by
        rw [List.mem_singleton] at hy
        exact hfresh (hy ▸ hxy ▸ hx)⟩
    · exact hs.once p
  place := fun p q id hp hq => by
    rcases mem_place_slots.mp hp with hp | ⟨hid, hp⟩ <;>
      rcases mem_place_slots.mp hq with hq | ⟨hid', hq⟩
    · exact hs.place p q id hp hq
    · exact absurd (hs.slotted p id hp) (by omega)
    · exact absurd (hs.slotted q id hq) (by omega)
    · exact hp.trans hq.symm
  slotted := fun p id h => by
    rw [place_nextInternalId]
    rcases mem_place_slots.mp h with h | ⟨rfl, -⟩
    · have := hs.slotted p id h
      omega
    · omega
  key := fun id lt h => by
    rw [place_live] at h
    split at h
    · cases h
      exact Eq.symm ‹_›
    · exact hs.key id lt h
  fresh := fun id lt h => by
    rw [place_live] at h
    rw [place_nextInternalId]
    split at h
    · omega
    · have := hs.fresh id lt h
      omega
  origin := fun id lt h => by
    rw [place_live] at h
    split at h
    · cases h
      exact horigin
    · exact hs.origin id lt h
  index := fun id lt h => by
    rw [place_live] at h
    rw [place_byUser]
    split at h
    · cases h
      rw [if_pos rfl]
      exact ⟨_, rfl, by simp [*]⟩
    · obtain ⟨ids, hids, hmem⟩ := hs.index id lt h
      split
      · exact ⟨_, rfl, by simp [hids, hmem]⟩
      · exact ⟨ids, hids, hmem⟩
  indexed := fun u ids id h hmem => by
    rw [place_byUser] at h
    rw [place_nextInternalId]
    have hold : ∀ js, w.byUser.lookup u = some js → id ∈ js → id < w.nextInternalId + 1 :=
      fun js hjs hj => Nat.lt_succ_of_lt (hs.indexed u js id hjs hj)
    split at h
    · cases h
      rcases List.mem_append.mp hmem with hmem | hmem
      · cases hlook : w.byUser.lookup u with
        | none => simp [hlook] at hmem
        | some js => exact hold js hlook (by simpa [hlook] using hmem)
      · rw [List.mem_singleton.mp hmem]
        omega
    · exact hold ids h hmem
  owner := fun u ids id lt h hmem hlive => by
    rw [place_byUser] at h
    rw [place_live] at hlive
    split at hlive
    · rename_i hid
      cases hlive
      by_contra hu
      rw [if_neg (Ne.symm hu)] at h
      have := hs.indexed u ids id h hmem
      omega
    · rename_i hid
      split at h
      · cases h
        rcases List.mem_append.mp hmem with hmem | hmem
        · cases hlook : w.byUser.lookup u with
          | none => simp [hlook] at hmem
          | some js => exact hs.owner u js id lt hlook (by simpa [hlook] using hmem) hlive
        · exact absurd (List.mem_singleton.mp hmem) hid
      · exact hs.owner u ids id lt h hmem hlive

theorem Due.place {id : Nat} {lt : LiveTimer} {due : Nat} (h : Due c w id lt due)
    (item : TimerItem) (delay : UInt64) : Due c (w.place c item delay) id lt due where
  later := h.later
  rounds := h.rounds
  slot := mem_place_slots.mpr (.inl h.slot)

/-- Putting an instance does not touch the alarms of other commands. -/
theorem Holds.place_other (hs : Sane c w) {x : Option (Nat × TimerOp)} (h : Holds c w a x)
    {item : TimerItem} (ho : item.origin ≠ a) (delay : UInt64) :
    Holds c (w.place c item delay) a x := by
  cases h with
  | idle hnone =>
    refine .idle fun id lt hlive => ?_
    rw [place_live] at hlive
    split at hlive
    · cases hlive
      exact ho
    · exact hnone id lt hlive
  | held id lt due op hlive horigin honly hdue hop =>
    refine .held id lt due op ?_ horigin (fun id' lt' hlive' horigin' => ?_) (hdue.place item delay) hop
    · have := hs.fresh id lt hlive
      rw [place_live, if_neg (by omega)]
      exact hlive
    · rw [place_live] at hlive'
      split at hlive'
      · cases hlive'
        exact absurd horigin' ho
      · exact honly id' lt' hlive' horigin'

/-- Putting the instance of an alarm that is not held arms it `ahead` ticks from now. -/
theorem Holds.place_self (hs : Sane c w) (h : Holds c w a none) {item : TimerItem} {op : TimerOp}
    (ho : item.origin = a) (hop : item.Of c op) :
    Holds c (w.place c item item.intervalMs) a (some (w.advancedTicks + ahead c op, op)) := by
  have hpos := ahead_pos c op
  obtain ⟨hnone⟩ := h
  refine .held w.nextInternalId _ _ op (by rw [place_live, if_pos rfl]) ho
    (fun id' lt' hlive horigin => ?_) ⟨?_, ?_, ?_⟩ ⟨hop.user, hop.interval, hop.repeats, hop.msg⟩
  · rw [place_live] at hlive
    split at hlive
    · assumption
    · exact absurd horigin (hnone id' lt' hlive)
  · rw [place_advancedTicks]
    omega
  · rw [place_advancedTicks, hop.interval, atLeastTick_atLeastTick,
      show w.advancedTicks + ahead c op - 1 - w.advancedTicks = ahead c op - 1 by omega]
    exact rounds_ahead c op
  · refine mem_place_slots.mpr (.inr ⟨rfl, ?_⟩)
    rw [hop.interval, atLeastTick_atLeastTick, hs.cur]
    exact slot_ahead c op w.advancedTicks

end Place

section Cancel

variable {c : Config} {w : TimerWheel} {a : Nat}

theorem eraseAll_lookup (ids : List Nat) (live : Table Nat LiveTimer) (id : Nat) :
    (ids.foldl (fun live internalId => live.erase internalId) live).lookup id =
      if id ∈ ids then none else live.lookup id := by
  induction ids generalizing live with
  | nil => simp
  | cons j ids ih =>
    rw [List.foldl_cons, ih, Table.lookup_erase]
    by_cases hj : id = j <;> by_cases hmem : id ∈ ids <;> simp [hj, hmem]

/-- A cancel takes exactly the instances of its user id out of the live table. -/
theorem doCancel_live (hs : Sane c w) (u id : Nat) :
    (w.doCancel u).live.lookup id =
      (w.live.lookup id).filter fun lt => lt.item.userTimerId ≠ u := by
  unfold doCancel
  cases hids : w.byUser.lookup u with
  | none =>
    cases hlive : w.live.lookup id with
    | none => simp
    | some lt =>
      have hu : lt.item.userTimerId ≠ u := by
        rintro rfl
        obtain ⟨ids, hsome, -⟩ := hs.index id lt hlive
        cases hids.symm.trans hsome
      simp [Option.filter, hu]
  | some ids =>
    simp only [eraseAll_lookup]
    cases hlive : w.live.lookup id with
    | none => simp
    | some lt =>
      by_cases hmem : id ∈ ids
      · have hu := hs.owner u ids id lt hids hmem hlive
        simp [hmem, Option.filter, hu]
      · have hu : lt.item.userTimerId ≠ u := by
          rintro rfl
          obtain ⟨ids', hsome, hmem'⟩ := hs.index id lt hlive
          cases hids.symm.trans hsome
          exact hmem hmem'
        simp [hmem, Option.filter, hu]

theorem doCancel_live_some (hs : Sane c w) {u id : Nat} {lt : LiveTimer} :
    (w.doCancel u).live.lookup id = some lt ↔
      w.live.lookup id = some lt ∧ lt.item.userTimerId ≠ u := by
  rw [doCancel_live hs, Option.filter_eq_some_iff]
  simp

theorem doCancel_frame (w : TimerWheel) (u : Nat) :
    (w.doCancel u).slots = w.slots ∧ (w.doCancel u).curSlot = w.curSlot ∧
      (w.doCancel u).nextInternalId = w.nextInternalId ∧ (w.doCancel u).adds = w.adds ∧
      (w.doCancel u).fired = w.fired := by
  unfold doCancel
  split <;> exact ⟨rfl, rfl, rfl, rfl, rfl⟩

theorem doCancel_byUser (w : TimerWheel) (u v : Nat) :
    (w.doCancel u).byUser.lookup v = if v = u then none else w.byUser.lookup v := by
  unfold doCancel
  split
  · rename_i hnone
    split
    · rename_i hv
      rw [hv, hnone]
    · rfl
  · exact Table.lookup_erase _ _ v

theorem doCancel_sane (hs : Sane c w) (u : Nat) : Sane c (w.doCancel u) := by
  obtain ⟨hslots, hcur, hnext, hadds, -⟩ := doCancel_frame w u
  exact
    { cur := by rw [hcur, doCancel_advancedTicks]; exact hs.cur
      once := fun p => by rw [hslots]; exact hs.once p
      place := fun p q id hp hq => hs.place p q id (hslots ▸ hp) (hslots ▸ hq)
      slotted := fun p id h => by rw [hnext]; exact hs.slotted p id (hslots ▸ h)
      key := fun id lt h => hs.key id lt ((doCancel_live_some hs).mp h).1
      fresh := fun id lt h => by rw [hnext]; exact hs.fresh id lt ((doCancel_live_some hs).mp h).1
      origin := fun id lt h => by rw [hadds]; exact hs.origin id lt ((doCancel_live_some hs).mp h).1
      index := fun id lt h => by
        obtain ⟨hlive, hu⟩ := (doCancel_live_some hs).mp h
        rw [doCancel_byUser, if_neg hu]
        exact hs.index id lt hlive
      indexed := fun v ids id h hmem => by
        rw [doCancel_byUser] at h
        rw [hnext]
        split at h
        · cases h
        · exact hs.indexed v ids id h hmem
      owner := fun v ids id lt h hmem hlive => by
        rw [doCancel_byUser] at h
        split at h
        · cases h
        · exact hs.owner v ids id lt h hmem ((doCancel_live_some hs).mp hlive).1 }

/-- A cancel disarms the alarm exactly when it is of the cancelled user id. -/
theorem Holds.doCancel (hs : Sane c w) {x : Option (Nat × TimerOp)} (h : Holds c w a x) (u : Nat) :
    Holds c (w.doCancel u) a (x.filter fun x => x.2.timerId ≠ u) := by
  obtain ⟨hslots, -⟩ := doCancel_frame w u
  cases h with
  | idle hnone => exact .idle fun id lt hlive => hnone id lt ((doCancel_live_some hs).mp hlive).1
  | held id lt due op hlive horigin honly hdue hop =>
    by_cases hu : op.timerId = u
    · simp only [Option.filter, hu, ne_eq, not_true_eq_false, decide_false]
      refine .idle fun id' lt' hlive' horigin' => ?_
      obtain ⟨hlive', hu'⟩ := (doCancel_live_some hs).mp hlive'
      obtain rfl := honly id' lt' hlive' horigin'
      cases hlive.symm.trans hlive'
      exact hu' (hop.user.trans hu)
    · simp only [Option.filter, ne_eq, hu, not_false_eq_true, decide_true, if_true]
      refine .held id lt due op ((doCancel_live_some hs).mpr ⟨hlive, hop.user ▸ hu⟩) horigin
        (fun id' lt' hlive' => honly id' lt' ((doCancel_live_some hs).mp hlive').1)
        ⟨?_, ?_, ?_⟩ hop
      · rw [doCancel_advancedTicks]
        exact hdue.later
      · rw [doCancel_advancedTicks]
        exact hdue.rounds
      · rw [hslots]
        exact hdue.slot

end Cancel

section Sweep

variable {c : Config} {w : TimerWheel} {a : Nat}

/-- The sweep of a bucket, id by id. -/
theorem collectOne_foldl {ids : List Nat} (hnd : ids.Nodup) (acc : Collected) :
    let done := ids.foldl collectOne acc
    (∀ id, done.live.lookup id =
      if id ∈ ids then
        (acc.live.lookup id).bind fun lt =>
          if lt.leftRound > 0 then some { lt with leftRound := lt.leftRound - 1 } else none
      else acc.live.lookup id) ∧
    done.keep = acc.keep ++ ids.filter (fun id => (acc.live.lookup id).any (·.leftRound > 0)) ∧
    done.firedOut = acc.firedOut ++ ids.filterMap fun id =>
      (acc.live.lookup id).bind fun lt => if lt.leftRound > 0 then none else some lt.item := by
  induction ids generalizing acc with
  | nil => simp
  | cons j ids ih =>
    obtain ⟨hj, hnd'⟩ := List.nodup_cons.mp hnd
    -- what the round of `j` does to the table is not seen by the other ids of the bucket
    have hothers : ∀ {β : Type} (f : Nat → Option LiveTimer → β), ∀ id ∈ ids,
        f id ((collectOne acc j).live.lookup id) = f id (acc.live.lookup id) := by
      intro β f id hid
      have hne : id ≠ j := fun h => hj (h ▸ hid)
      unfold collectOne
      split
      · rfl
      · split <;> simp [hne]
    obtain ⟨hlive, hkeep, hfired⟩ := ih hnd' (collectOne acc j)
    rw [List.foldl_cons]
    refine ⟨fun id => ?_, ?_, ?_⟩
    · rw [hlive id]
      by_cases hid : id ∈ ids
      · have hne : id ≠ j := fun h => hj (h ▸ hid)
        rw [if_pos hid, if_pos (List.mem_cons_of_mem _ hid)]
        exact hothers (fun _ o => o.bind _) id hid
      · rw [if_neg hid]
        by_cases hne : id = j
        · subst hne
          rw [if_pos List.mem_cons_self]
          unfold collectOne
          cases hlook : acc.live.lookup id with
          | none => simp [hlook]
          | some lt =>
            dsimp only
            split <;> simp [*]
        · rw [if_neg (by simp [hne, hid])]
          unfold collectOne
          split
          · rfl
          · split <;> simp [hne]
    · rw [hkeep, List.filter_congr (hothers fun _ o => o.any (·.leftRound > 0))]
      unfold collectOne
      cases hlook : acc.live.lookup j with
      | none => simp [hlook]
      | some lt =>
        dsimp only
        split <;> simp [*]
    · rw [hfired, List.filterMap_congr (hothers fun _ o => o.bind fun lt =>
        if lt.leftRound > 0 then none else some lt.item)]
      unfold collectOne
      cases hlook : acc.live.lookup j with
      | none => simp [hlook]
      | some lt =>
        dsimp only
        split <;> simp [*]

variable (c w) in
/-- The wheel and the items in the hands of `tick` after `collect`. -/
def swept : TimerWheel × List TimerItem :=
  { w with
    curSlot := (w.curSlot + 1) % c.wheelSlots
    advancedTicks := w.advancedTicks + 1 }.collect ((w.curSlot + 1) % c.wheelSlots)

theorem tick_eq : w.tick c = (swept c w).2.foldl (fire c) (swept c w).1 := rfl

theorem Sane.nextSlot (hs : Sane c w) :
    (w.curSlot + 1) % c.wheelSlots = (w.advancedTicks + 1) % c.wheelSlots := by
  rw [hs.cur, Nat.mod_add_mod]

theorem swept_live (hs : Sane c w) (id : Nat) :
    (swept c w).1.live.lookup id =
      if id ∈ w.slots ((w.advancedTicks + 1) % c.wheelSlots) then
        (w.live.lookup id).bind fun lt =>
          if lt.leftRound > 0 then some { lt with leftRound := lt.leftRound - 1 } else none
      else w.live.lookup id := by
  rw [← hs.nextSlot]
  exact (collectOne_foldl (hs.once _) { live := w.live }).1 id

theorem swept_slots (hs : Sane c w) (p : Nat) :
    (swept c w).1.slots p =
      if p = (w.advancedTicks + 1) % c.wheelSlots then
        (w.slots p).filter fun id => (w.live.lookup id).any (·.leftRound > 0)
      else w.slots p := by
  rw [← hs.nextSlot]
  have hkeep := (collectOne_foldl (hs.once ((w.curSlot + 1) % c.wheelSlots)) { live := w.live }).2.1
  simp only [swept, collect, Function.update_apply]
  split
  · rename_i hp
    rw [hkeep, hp]
    rfl
  · rfl

theorem swept_fired (hs : Sane c w) :
    (swept c w).2 =
      (w.slots ((w.advancedTicks + 1) % c.wheelSlots)).filterMap fun id =>
        (w.live.lookup id).bind fun lt => if lt.leftRound > 0 then none else some lt.item := by
  rw [← hs.nextSlot]
  exact (collectOne_foldl (hs.once _) { live := w.live }).2.2

/-- An instance that is live after the sweep was live before it, as the same item. -/
theorem swept_live_some (hs : Sane c w) {id : Nat} {lt : LiveTimer}
    (h : (swept c w).1.live.lookup id = some lt) :
    ∃ lt', w.live.lookup id = some lt' ∧ lt'.item = lt.item := by
  rw [swept_live hs] at h
  split at h
  · obtain ⟨lt', hlt', h⟩ := Option.bind_eq_some_iff.mp h
    split at h
    · cases h
      exact ⟨lt', hlt', rfl⟩
    · cases h
  · exact ⟨lt, h, rfl⟩

theorem mem_swept_slots (hs : Sane c w) {p id : Nat} (h : id ∈ (swept c w).1.slots p) :
    id ∈ w.slots p := by
  rw [swept_slots hs] at h
  split at h
  · exact (List.mem_filter.mp h).1
  · exact h

theorem swept_sane (hs : Sane c w) : Sane c (swept c w).1 where
  cur := hs.nextSlot
  once := fun p => by
    rw [swept_slots hs]
    split
    · exact (hs.once p).filter _
    · exact hs.once p
  place := fun p q id hp hq => hs.place p q id (mem_swept_slots hs hp) (mem_swept_slots hs hq)
  slotted := fun p id h => hs.slotted p id (mem_swept_slots hs h)
  key := fun id lt h => by
    obtain ⟨lt', hlt', hitem⟩ := swept_live_some hs h
    rw [← hitem]
    exact hs.key id lt' hlt'
  fresh := fun id lt h => by
    obtain ⟨lt', hlt', -⟩ := swept_live_some hs h
    exact hs.fresh id lt' hlt'
  origin := fun id lt h => by
    obtain ⟨lt', hlt', hitem⟩ := swept_live_some hs h
    rw [← hitem]
    exact hs.origin id lt' hlt'
  index := fun id lt h => by
    obtain ⟨lt', hlt', hitem⟩ := swept_live_some hs h
    rw [← hitem]
    exact hs.index id lt' hlt'
  indexed := hs.indexed
  owner := fun u ids id lt h hmem hlive => by
    obtain ⟨lt', hlt', hitem⟩ := swept_live_some hs hlive
    rw [← hitem]
    exact hs.owner u ids id lt' h hmem hlt'

/-- The items that `collect` took out: known, and no longer live. -/
def Pending (w : TimerWheel) (items : List TimerItem) : Prop :=
  ∀ item ∈ items, item.origin < w.adds ∧ item.internalId < w.nextInternalId ∧
    w.live.lookup item.internalId = none

theorem swept_pending (hs : Sane c w) : Pending (swept c w).1 (swept c w).2 := by
  intro item hitem
  rw [swept_fired hs, List.mem_filterMap] at hitem
  obtain ⟨id, hid, hitem⟩ := hitem
  obtain ⟨lt, hlt, hitem⟩ := Option.bind_eq_some_iff.mp hitem
  split at hitem
  · cases hitem
  · rename_i hround
    cases hitem
    have hkey := hs.key id lt hlt
    refine ⟨hs.origin id lt hlt, hkey ▸ hs.fresh id lt hlt, ?_⟩
    rw [hkey, swept_live hs, if_pos hid, hlt]
    simp [hround]

theorem mem_swept_fired (hs : Sane c w) {item : TimerItem} (h : item ∈ (swept c w).2) :
    ∃ id lt, id ∈ w.slots ((w.advancedTicks + 1) % c.wheelSlots) ∧ w.live.lookup id = some lt ∧
      lt.leftRound = 0 ∧ lt.item = item := by
  rw [swept_fired hs, List.mem_filterMap] at h
  obtain ⟨id, hid, hitem⟩ := h
  obtain ⟨lt, hlt, hitem⟩ := Option.bind_eq_some_iff.mp hitem
  split at hitem
  · cases hitem
  · cases hitem
    exact ⟨id, lt, hid, hlt, by omega, rfl⟩

/-- The sweep of a slot takes one round off the instances in it, and only off those. -/
theorem Due.rounds_swept {id : Nat} {lt : LiveTimer} {due : Nat} (h : Due c w id lt due)
    (hne : due ≠ w.advancedTicks + 1) :
    if due % c.wheelSlots = (w.advancedTicks + 1) % c.wheelSlots then
      0 < lt.leftRound ∧ lt.leftRound - 1 = (due - 1 - (w.advancedTicks + 1)) / c.wheelSlots
    else lt.leftRound = (due - 1 - (w.advancedTicks + 1)) / c.wheelSlots := by
  obtain ⟨k, rfl⟩ : ∃ k, due = w.advancedTicks + 1 + (k + 1) :=
    ⟨due - (w.advancedTicks + 2), by have := h.later; omega⟩
  have hrounds := h.rounds
  rw [show w.advancedTicks + 1 + (k + 1) - 1 - w.advancedTicks = k + 1 by omega,
    Nat.succ_div] at hrounds
  rw [show w.advancedTicks + 1 + (k + 1) - 1 - (w.advancedTicks + 1) = k by omega]
  have hdvd : (w.advancedTicks + 1 + (k + 1)) % c.wheelSlots =
      (w.advancedTicks + 1) % c.wheelSlots ↔ c.wheelSlots ∣ k + 1 := by
    rw [eq_comm]
    exact (Nat.modEq_iff_dvd' (Nat.le_add_right _ _)).trans
      (by rw [Nat.add_sub_cancel_left])
  by_cases hd : c.wheelSlots ∣ k + 1
  · rw [if_pos (hdvd.mpr hd), hrounds, if_pos hd]
    exact ⟨Nat.succ_pos _, rfl⟩
  · rw [if_neg (mt hdvd.mp hd), hrounds, if_neg hd]
    rfl

theorem swept_idle (hs : Sane c w) (h : Holds c w a none) :
    Holds c (swept c w).1 a none ∧ (swept c w).2.filter (·.origin = a) = [] := by
  obtain ⟨hnone⟩ := h
  refine ⟨.idle fun id lt hlive => ?_, List.filter_eq_nil_iff.mpr fun item hitem => ?_⟩
  · obtain ⟨lt', hlt', hitem⟩ := swept_live_some hs hlive
    rw [← hitem]
    exact hnone id lt' hlt'
  · obtain ⟨id, lt, -, hlt, -, rfl⟩ := mem_swept_fired hs hitem
    simpa using hnone id lt hlt

/-- An alarm that is not due in this tick is still held, and nothing of it is fired. -/
theorem swept_later (hs : Sane c w) {due : Nat} {op : TimerOp}
    (h : Holds c w a (some (due, op))) (hne : due ≠ w.advancedTicks + 1) :
    Holds c (swept c w).1 a (some (due, op)) ∧ (swept c w).2.filter (·.origin = a) = [] := by
  cases h with
  | held id lt _ _ hlive horigin honly hdue hop =>
    have hrounds := hdue.rounds_swept hne
    have hadv : (swept c w).1.advancedTicks = w.advancedTicks + 1 := rfl
    have hlater := hdue.later
    have honly' : ∀ id' lt', (swept c w).1.live.lookup id' = some lt' → lt'.item.origin = a →
        id' = id := by
      intro id' lt' hlive' horigin'
      obtain ⟨lt'', hlt'', hitem⟩ := swept_live_some hs hlive'
      exact honly id' lt'' hlt'' (hitem ▸ horigin')
    have hslot : id ∈ w.slots ((w.advancedTicks + 1) % c.wheelSlots) ↔
        due % c.wheelSlots = (w.advancedTicks + 1) % c.wheelSlots :=
      ⟨fun hmem => hs.place _ _ id hdue.slot hmem, fun heq => heq ▸ hdue.slot⟩
    constructor
    · by_cases hswept : due % c.wheelSlots = (w.advancedTicks + 1) % c.wheelSlots
      · rw [if_pos hswept] at hrounds
        refine .held id { lt with leftRound := lt.leftRound - 1 } due op ?_ horigin honly'
          ⟨by omega, hrounds.2, ?_⟩ hop
        · rw [swept_live hs, if_pos (hslot.mpr hswept), hlive]
          simp [hrounds.1]
        · rw [swept_slots hs, if_pos hswept]
          exact List.mem_filter.mpr ⟨hdue.slot, by simp [hlive, hrounds.1]⟩
      · rw [if_neg hswept] at hrounds
        refine .held id lt due op ?_ horigin honly' ⟨by omega, hrounds, ?_⟩ hop
        · rw [swept_live hs, if_neg (mt hslot.mp hswept)]
          exact hlive
        · rw [swept_slots hs, if_neg hswept]
          exact hdue.slot
    · refine List.filter_eq_nil_iff.mpr fun item hitem => ?_
      obtain ⟨id', lt', hmem, hlt', hzero, rfl⟩ := mem_swept_fired hs hitem
      simp only [decide_eq_true_eq]
      intro horigin'
      obtain rfl := honly id' lt' hlt' horigin'
      cases hlive.symm.trans hlt'
      rw [if_pos (hslot.mp hmem)] at hrounds
      omega

theorem filterMap_single {α β : Type} [DecidableEq α] {l : List α} {i : α} (hnd : l.Nodup)
    (hi : i ∈ l) (x : β) : (l.filterMap fun j => if j = i then some x else none) = [x] := by
  induction l with
  | nil => cases hi
  | cons j l ih =>
    obtain ⟨hj, hnd'⟩ := List.nodup_cons.mp hnd
    rcases List.mem_cons.mp hi with rfl | hi
    · have hrest : (l.filterMap fun j => if j = i then some x else none) = [] := by
        refine List.filterMap_eq_nil_iff.mpr fun j' hj' => if_neg ?_
        rintro rfl
        exact hj hj'
      simp [hrest]
    · have hne : j ≠ i := fun h => hj (h ▸ hi)
      simp only [List.filterMap_cons, if_neg hne]
      exact ih hnd' hi

/-- An alarm that is due in this tick is taken out, as the one item of its command. -/
theorem swept_due (hs : Sane c w) {op : TimerOp}
    (h : Holds c w a (some (w.advancedTicks + 1, op))) :
    Holds c (swept c w).1 a none ∧
      ∃ item, (swept c w).2.filter (·.origin = a) = [item] ∧ item.Of c op := by
  cases h with
  | held id lt _ _ hlive horigin honly hdue hop =>
    have hzero : lt.leftRound = 0 := by
      have hrounds := hdue.rounds
      rw [show w.advancedTicks + 1 - 1 - w.advancedTicks = 0 by omega, Nat.zero_div] at hrounds
      exact hrounds
    constructor
    · refine .idle fun id' lt' hlive' horigin' => ?_
      obtain ⟨lt'', hlt'', hitem⟩ := swept_live_some hs hlive'
      obtain rfl := honly id' lt'' hlt'' (hitem ▸ horigin')
      rw [swept_live hs, if_pos hdue.slot, hlive] at hlive'
      simp [hzero] at hlive'
    · refine ⟨lt.item, ?_, hop⟩
      rw [swept_fired hs, List.filter_filterMap]
      refine (List.filterMap_congr fun j _ => ?_).trans
        (filterMap_single (hs.once _) hdue.slot lt.item)
      by_cases hj : j = id
      · subst hj
        simp [hlive, hzero, horigin, Option.filter]
      · rw [if_neg hj, Option.filter_eq_none_iff]
        intro item hitem
        obtain ⟨lt', hlt', hsome⟩ := Option.bind_eq_some_iff.mp hitem
        split at hsome
        · cases hsome
        · cases hsome
          simpa using fun ho => hj (honly j lt' hlt' ho)

end Sweep

section Fire

variable {c : Config} {w : TimerWheel} {a : Nat}

theorem send_sane (hs : Sane c w) (item : TimerItem) : Sane c (w.send item) :=
  ⟨hs.cur, hs.once, hs.place, hs.slotted, hs.key, hs.fresh, hs.origin, hs.index, hs.indexed,
    hs.owner⟩

theorem Holds.send {x : Option (Nat × TimerOp)} (h : Holds c w a x) (item : TimerItem) :
    Holds c (w.send item) a x := by
  cases h with
  | idle hnone => exact .idle hnone
  | held id lt due op hlive horigin honly hdue hop =>
    exact .held id lt due op hlive horigin honly ⟨hdue.later, hdue.rounds, hdue.slot⟩ hop

theorem send_rings (item : TimerItem) :
    (w.send item).rings a =
      w.rings a ++ (if item.origin = a then [(w.advancedTicks, item.msg)] else []) := by
  unfold rings send
  rw [List.filter_append, List.map_append]
  split <;> simp [*]

/-- A one-shot only leaves the index of its user id. -/
theorem fire_once {item : TimerItem} (h : item.repeats = false) :
    ∃ byUser, w.fire c item = { w.send item with byUser } ∧
      (∀ u ids, byUser.lookup u = some ids → ∃ js, w.byUser.lookup u = some js ∧ ids ⊆ js) ∧
      ∀ u js id, w.byUser.lookup u = some js → id ∈ js → id ≠ item.internalId →
        ∃ ids, byUser.lookup u = some ids ∧ id ∈ ids := by
  unfold fire
  rw [if_neg (by simp [h])]
  dsimp only
  cases hlook : w.byUser.lookup item.userTimerId with
  | none => exact ⟨w.byUser, rfl, fun u ids h => ⟨ids, h, fun _ hx => hx⟩,
      fun u js id h hmem _ => ⟨js, h, hmem⟩⟩
  | some js =>
    refine ⟨_, rfl, fun u ids hids => ?_, fun u ks id hks hmem hne => ?_⟩
    · by_cases hu : u = item.userTimerId
      · subst hu
        refine ⟨js, hlook, ?_⟩
        split at hids
        · simp at hids
        · rw [Table.lookup_insert_same] at hids
          cases hids
          exact fun x hx => (List.mem_filter.mp hx).1
      · refine ⟨ids, ?_, fun _ hx => hx⟩
        split at hids <;> simpa [hu] using hids
    · by_cases hu : u = item.userTimerId
      · subst hu
        cases hlook.symm.trans hks
        have hkept : id ∈ js.filter (· ≠ item.internalId) :=
          List.mem_filter.mpr ⟨hmem, by simpa using hne⟩
        rw [if_neg (List.ne_nil_of_mem hkept), Table.lookup_insert_same]
        exact ⟨_, rfl, hkept⟩
      · refine ⟨ks, ?_, hmem⟩
        split <;> simpa [hu] using hks

theorem fire_sane (hs : Sane c w) {item : TimerItem} (ho : item.origin < w.adds)
    (hgone : w.live.lookup item.internalId = none) : Sane c (w.fire c item) := by
  cases hr : item.repeats with
  | true =>
    rw [fire_repeats hr]
    exact place_sane (send_sane hs item) ho _
  | false =>
    obtain ⟨byUser, heq, hold, hkept⟩ := fire_once (c := c) (w := w) hr
    rw [heq]
    refine ⟨hs.cur, hs.once, hs.place, hs.slotted, hs.key, hs.fresh, hs.origin, ?_, ?_, ?_⟩
    · intro id lt hlive
      obtain ⟨ids, hids, hmem⟩ := hs.index id lt hlive
      refine hkept _ ids id hids hmem ?_
      rintro rfl
      cases hgone.symm.trans hlive
    · intro u ids id hids hmem
      obtain ⟨js, hjs, hsub⟩ := hold u ids hids
      exact hs.indexed u js id hjs (hsub hmem)
    · intro u ids id lt hids hmem hlive
      obtain ⟨js, hjs, hsub⟩ := hold u ids hids
      exact hs.owner u js id lt hjs (hsub hmem) hlive

theorem fire_pending {item : TimerItem} {items : List TimerItem}
    (h : Pending w (item :: items)) : Pending (w.fire c item) items := by
  intro other hother
  obtain ⟨ho, hid, hgone⟩ := h other (List.mem_cons_of_mem _ hother)
  cases hr : item.repeats with
  | true =>
    rw [fire_repeats hr]
    refine ⟨ho, Nat.lt_succ_of_lt hid, ?_⟩
    have hne : other.internalId ≠ (w.send item).nextInternalId := Nat.ne_of_lt hid
    rw [place_live, if_neg hne]
    exact hgone
  | false =>
    obtain ⟨byUser, heq, -⟩ := fire_once (c := c) (w := w) hr
    rw [heq]
    exact ⟨ho, hid, hgone⟩

theorem fire_rings (item : TimerItem) :
    (w.fire c item).rings a =
      w.rings a ++ (if item.origin = a then [(w.advancedTicks, item.msg)] else []) := by
  rw [← send_rings]
  cases hr : item.repeats with
  | true => rw [fire_repeats hr]; rfl
  | false =>
    obtain ⟨byUser, heq, -⟩ := fire_once (c := c) (w := w) hr
    rw [heq]
    rfl

@[simp] theorem fire_adds (item : TimerItem) : (w.fire c item).adds = w.adds := by
  cases hr : item.repeats with
  | true => rw [fire_repeats hr]; rfl
  | false =>
    obtain ⟨byUser, heq, -⟩ := fire_once (c := c) (w := w) hr
    rw [heq]
    rfl

theorem Holds.fire_other (hs : Sane c w) {x : Option (Nat × TimerOp)} (h : Holds c w a x)
    {item : TimerItem} (ho : item.origin ≠ a) : Holds c (w.fire c item) a x := by
  cases hr : item.repeats with
  | true =>
    rw [fire_repeats hr]
    exact (h.send item).place_other (send_sane hs item) ho _
  | false =>
    obtain ⟨byUser, heq, -⟩ := fire_once (c := c) (w := w) hr
    rw [heq]
    cases h.send item with
    | idle hnone => exact .idle hnone
    | held id lt due op hlive horigin honly hdue hop =>
      exact .held id lt due op hlive horigin honly ⟨hdue.later, hdue.rounds, hdue.slot⟩ hop

/-- Firing the item of an alarm arms it again exactly when it repeats. -/
theorem Holds.fire_self (hs : Sane c w) (h : Holds c w a none) {item : TimerItem} {op : TimerOp}
    (ho : item.origin = a) (hop : item.Of c op) :
    Holds c (w.fire c item) a
      (if op.repeats then some (w.advancedTicks + ahead c op, op) else none) := by
  cases hr : item.repeats with
  | true =>
    rw [if_pos (hop.repeats ▸ hr), fire_repeats hr]
    exact (h.send item).place_self (send_sane hs item) ho hop
  | false =>
    obtain ⟨byUser, heq, -⟩ := fire_once (c := c) (w := w) hr
    rw [if_neg (by simp [← hop.repeats, hr]), heq]
    obtain ⟨hnone⟩ := h
    exact .idle hnone

theorem fires_other (items : List TimerItem) {w : TimerWheel} (hs : Sane c w)
    (hp : Pending w items) (hno : items.filter (·.origin = a) = [])
    {x : Option (Nat × TimerOp)} (h : Holds c w a x) :
    Sane c (items.foldl (fire c) w) ∧ Holds c (items.foldl (fire c) w) a x ∧
      (items.foldl (fire c) w).rings a = w.rings a := by
  induction items generalizing w with
  | nil => exact ⟨hs, h, rfl⟩
  | cons item items ih =>
    have ho : item.origin ≠ a := by
      simpa using List.filter_eq_nil_iff.mp hno item List.mem_cons_self
    rw [List.filter_cons_of_neg (by simpa using ho)] at hno
    obtain ⟨horigin, -, hgone⟩ := hp item List.mem_cons_self
    obtain ⟨hs', h', hrings⟩ :=
      ih (fire_sane hs horigin hgone) (fire_pending hp) hno (h.fire_other hs ho)
    refine ⟨hs', h', hrings.trans ?_⟩
    rw [fire_rings, if_neg ho, List.append_nil]

theorem fires_self (items : List TimerItem) {w : TimerWheel} (hs : Sane c w)
    (hp : Pending w items) {item : TimerItem} {op : TimerOp}
    (hone : items.filter (·.origin = a) = [item]) (hop : item.Of c op) (h : Holds c w a none) :
    Sane c (items.foldl (fire c) w) ∧
      Holds c (items.foldl (fire c) w) a
        (if op.repeats then some (w.advancedTicks + ahead c op, op) else none) ∧
      (items.foldl (fire c) w).rings a = w.rings a ++ [(w.advancedTicks, op.msg)] := by
  induction items generalizing w with
  | nil => cases hone
  | cons first items ih =>
    obtain ⟨horigin, -, hgone⟩ := hp first List.mem_cons_self
    have hs' := fire_sane hs horigin hgone
    by_cases ho : first.origin = a
    · rw [List.filter_cons_of_pos (by simpa using ho)] at hone
      obtain ⟨rfl, hrest⟩ := List.cons.inj hone
      obtain ⟨hsane, hholds, hrings⟩ :=
        fires_other items hs' (fire_pending hp) hrest (h.fire_self hs ho hop)
      refine ⟨hsane, hholds, hrings.trans ?_⟩
      rw [fire_rings, if_pos ho, hop.msg]
    · rw [List.filter_cons_of_neg (by simpa using ho)] at hone
      obtain ⟨hsane, hholds, hrings⟩ := ih hs' (fire_pending hp) hone (h.fire_other hs ho)
      rw [fire_advancedTicks] at hholds hrings
      refine ⟨hsane, hholds, hrings.trans ?_⟩
      rw [fire_rings, if_neg ho, List.append_nil]

@[simp] theorem fires_adds (items : List TimerItem) :
    (items.foldl (fire c) w).adds = w.adds := by
  induction items generalizing w with
  | nil => rfl
  | cons item items ih => rw [List.foldl_cons, ih, fire_adds]

end Fire

section Refine

variable {c : Config} {w : TimerWheel} {a : Nat} {s : Alarm}

theorem counted_sane (hs : Sane c w) : Sane c w.counted :=
  ⟨hs.cur, hs.once, hs.place, hs.slotted, hs.key, hs.fresh,
    fun id lt h => Nat.lt_succ_of_lt (hs.origin id lt h), hs.index, hs.indexed, hs.owner⟩

theorem Holds.counted {x : Option (Nat × TimerOp)} (h : Holds c w a x) : Holds c w.counted a x := by
  cases h with
  | idle hnone => exact .idle hnone
  | held id lt due op hlive horigin honly hdue hop =>
    exact .held id lt due op hlive horigin honly ⟨hdue.later, hdue.rounds, hdue.slot⟩ hop

theorem doAdd_sane (hs : Sane c w) (op : TimerOp) : Sane c (w.doAdd c op) := by
  rw [doAdd_eq]
  exact place_sane (counted_sane hs) (Nat.lt_succ_self w.adds) _

theorem Shows.doAdd (hs : Sane c w) (h : Shows c w a s) {op : TimerOp} (hadd : op.kind = .ADD) :
    Shows c (w.doAdd c op) a (s.step (ahead c) a (.op op)) := by
  have horigin : (itemOf c w op).origin = w.adds := rfl
  have harmed : Holds c (w.doAdd c op) a
      (if s.adds = a then some (s.now + ahead c op, op) else s.armed) := by
    rw [doAdd_eq, h.adds, h.now]
    by_cases ha : w.adds = a
    · have hidle : Holds c w a none := .idle fun id lt hlive ho => by
        have := hs.origin id lt hlive
        omega
      rw [if_pos ha]
      exact hidle.counted.place_self (counted_sane hs) (horigin.trans ha) (itemOf_of op)
    · rw [if_neg ha]
      exact h.armed.counted.place_other (counted_sane hs) (fun ho => ha (horigin.symm.trans ho)) _
  simp only [Alarm.step, if_pos hadd]
  exact ⟨h.now, congrArg (· + 1) h.adds, h.rings, harmed⟩

theorem Shows.doCancel (hs : Sane c w) (h : Shows c w a s) {op : TimerOp}
    (hcancel : op.kind ≠ .ADD) :
    Shows c (w.doCancel op.timerId) a (s.step (ahead c) a (.op op)) := by
  obtain ⟨-, -, -, hadds, hfired⟩ := doCancel_frame w op.timerId
  simp only [Alarm.step, if_neg hcancel]
  have hrings : (w.doCancel op.timerId).rings a = w.rings a := by
    unfold TimerWheel.rings
    rw [hfired]
  exact ⟨by rw [doCancel_advancedTicks]; exact h.now, by rw [hadds]; exact h.adds,
    h.rings.trans hrings.symm, h.armed.doCancel hs op.timerId⟩

theorem Shows.tick (hs : Sane c w) (h : Shows c w a s) :
    Sane c (w.tick c) ∧ Shows c (w.tick c) a (s.step (ahead c) a .tick) := by
  have hsane := swept_sane hs
  have hpending := swept_pending hs
  have hrings : (swept c w).1.rings a = s.rings := h.rings.symm
  have hnow : (swept c w).1.advancedTicks = s.now + 1 := by rw [h.now]; rfl
  have hadds : s.adds = (w.tick c).adds := by rw [tick_eq, fires_adds]; exact h.adds
  have hticks : s.now + 1 = (w.tick c).advancedTicks := by rw [tick_advancedTicks, h.now]
  have harmed := h.armed
  simp only [Alarm.step]
  cases hx : s.armed with
  | none =>
    rw [hx] at harmed
    obtain ⟨hidle, hno⟩ := swept_idle hs harmed
    obtain ⟨hs', hholds, hsame⟩ := fires_other _ hsane hpending hno hidle
    exact ⟨hs', hticks, hadds, (hsame.trans hrings).symm, hholds⟩
  | some x =>
    obtain ⟨due, op⟩ := x
    rw [hx] at harmed
    dsimp only
    by_cases hdue : due = s.now + 1
    · rw [if_pos hdue]
      rw [hdue, h.now] at harmed
      obtain ⟨hidle, item, hone, hop⟩ := swept_due hs harmed
      obtain ⟨hs', hholds, hsame⟩ := fires_self _ hsane hpending hone hop hidle
      rw [hrings, hnow] at hsame
      rw [hnow] at hholds
      exact ⟨hs', hticks, hadds, hsame.symm, hholds⟩
    · rw [if_neg hdue]
      obtain ⟨hheld, hno⟩ := swept_later hs harmed (h.now ▸ hdue)
      obtain ⟨hs', hholds, hsame⟩ := fires_other _ hsane hpending hno hheld
      exact ⟨hs', hticks, hadds, (hsame.trans hrings).symm, hholds⟩

/-- Each step of the wheel is a step of the alarm of every command. -/
theorem shows_step (hs : Sane c w) (h : Shows c w a s) (l : Label) :
    Sane c (step c w l) ∧ Shows c (step c w l) a (s.step (ahead c) a l) := by
  cases l with
  | op op =>
    by_cases hadd : op.kind = .ADD
    · simp only [step, processOp, if_pos hadd]
      exact ⟨doAdd_sane hs op, h.doAdd hs hadd⟩
    · simp only [step, processOp, if_neg hadd]
      exact ⟨doCancel_sane hs op.timerId, h.doCancel hs hadd⟩
  | tick => exact h.tick hs

theorem sane_init : Sane c {} where
  cur := (Nat.zero_mod _).symm
  once := fun _ => List.nodup_nil
  place := nofun
  slotted := nofun
  key := nofun
  fresh := nofun
  origin := nofun
  index := nofun
  indexed := nofun
  owner := nofun

theorem shows_init : Shows c {} a {} := ⟨rfl, rfl, rfl, .idle nofun⟩

/-- A run of the wheel is, for every ADD command in it, the same run of its alarm. -/
theorem shows_run (labels : List Label) (hs : Sane c w) (h : Shows c w a s) :
    Sane c (w.run c labels) ∧ Shows c (w.run c labels) a (s.run (ahead c) a labels) := by
  induction labels generalizing w s with
  | nil => exact ⟨hs, h⟩
  | cons l labels ih =>
    obtain ⟨hs', h'⟩ := shows_step hs h l
    exact ih hs' h'

theorem run_rings (c : Config) (labels : List Label) (a : Nat) :
    (TimerWheel.run c {} labels).rings a = (Alarm.run (ahead c) a {} labels).rings :=
  (shows_run labels sane_init shows_init).2.rings.symm

end Refine

end TimerWheel

end Timer
