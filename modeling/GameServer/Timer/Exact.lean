import GameServer.Timer.Wheel

/-!
# When a timer fires

An alarm that is not cancelled rings at every multiple of its period, counted from
the tick of its ADD, or only at the first one. The wheel does the same with the
period it really uses, `ahead`. That is the interval in whole ticks, rounded up,
unless this is a whole number of turns of the wheel, or the rounding overflows.
-/

namespace Timer

/-- An alarm with this period rings `k` ticks after its ADD. -/
def ringsAfter (period : Nat) (op : TimerOp) (k : Nat) : Bool :=
  if op.repeats then k % period = 0 else k = period

/-- The rings of an alarm in the first `m` ticks after the tick `n` of its ADD. -/
def expected (period n m : Nat) (op : TimerOp) : List (Nat × Fire) :=
  ((List.range m).filter fun k => ringsAfter period op (k + 1)).map fun k => (n + (k + 1), op.msg)

theorem expected_ring {period m : Nat} {op : TimerOp} (h : ringsAfter period op (m + 1) = true)
    (n : Nat) :
    expected period n (m + 1) op = expected period n m op ++ [(n + (m + 1), op.msg)] := by
  unfold expected
  rw [List.range_succ, List.filter_append, List.map_append]
  simp [h]

theorem expected_silent {period m : Nat} {op : TimerOp} (h : ringsAfter period op (m + 1) = false)
    (n : Nat) : expected period n (m + 1) op = expected period n m op := by
  unfold expected
  rw [List.range_succ, List.filter_append, List.map_append]
  simp [h]

/-- No command of the list cancels the user id. -/
def NotCancelled (u : Nat) (labels : List Label) : Prop :=
  ∀ op, Label.op op ∈ labels → op.kind = .CANCEL → op.timerId ≠ u

namespace Alarm

variable {period : TimerOp → Nat} {a : Nat}

/-- The alarm of a command that was taken at tick `n`, `m` ticks later. -/
structure Rung (period : TimerOp → Nat) (a n m : Nat) (op : TimerOp) (s : Alarm) : Prop where
  now : s.now = n + m
  adds : a < s.adds
  rings : s.rings = expected (period op) n m op
  armed : s.armed =
    if op.repeats then some (n + period op * (m / period op + 1), op)
    else if m < period op then some (n + period op, op) else none

theorem Rung.add {n m : Nat} {op : TimerOp} {s : Alarm} (h : Rung period a n m op s)
    {other : TimerOp} (hadd : other.kind = .ADD) :
    Rung period a n m op (s.step period a (.op other)) := by
  have hne : s.adds ≠ a := Nat.ne_of_gt h.adds
  simp only [step, if_pos hadd, if_neg hne]
  exact ⟨h.now, Nat.lt_succ_of_lt h.adds, h.rings, h.armed⟩

theorem Rung.cancel {n m : Nat} {op : TimerOp} {s : Alarm} (h : Rung period a n m op s)
    {other : TimerOp} (hcancel : other.kind ≠ .ADD) (hne : other.timerId ≠ op.timerId) :
    Rung period a n m op (s.step period a (.op other)) := by
  simp only [step, if_neg hcancel]
  refine ⟨h.now, h.adds, h.rings, ?_⟩
  have harmed := h.armed
  have hkept : (s.armed.filter fun x => x.2.timerId ≠ other.timerId) = s.armed := by
    rw [harmed]
    split
    · simp [Option.filter, Ne.symm hne]
    · split <;> simp [Option.filter, Ne.symm hne]
  rw [hkept]
  exact harmed

theorem Rung.tick_repeats {n m : Nat} {op : TimerOp} {s : Alarm} (hr : op.repeats = true)
    (h : Rung period a n m op s) : Rung period a n (m + 1) op (s.step period a .tick) := by
  have hnow : s.now + 1 = n + (m + 1) := by rw [h.now, Nat.add_assoc]
  have hring : ringsAfter (period op) op (m + 1) = decide (period op ∣ m + 1) := by
    simp [ringsAfter, hr, Nat.dvd_iff_mod_eq_zero]
  have harmed := h.armed
  rw [if_pos hr] at harmed
  simp only [step, harmed]
  by_cases hd : period op ∣ m + 1
  · have hdue : period op * (m / period op + 1) = m + 1 := by
      rw [← Nat.succ_div_of_dvd hd, Nat.mul_div_cancel' hd]
    rw [if_pos (by rw [hnow, hdue]), hnow]
    refine ⟨rfl, h.adds, ?_, ?_⟩
    · rw [expected_ring (by rw [hring]; exact decide_eq_true hd), h.rings]
    · simp only [hr, if_true]
      rw [Nat.mul_add, Nat.mul_div_cancel' hd, Nat.mul_one,
        ← Nat.add_assoc n (m + 1)]
  · have hdue : period op * (m / period op + 1) ≠ m + 1 := fun heq => hd ⟨_, heq.symm⟩
    rw [if_neg (by omega)]
    refine ⟨hnow, h.adds, ?_, ?_⟩
    · rw [expected_silent (by rw [hring]; exact decide_eq_false hd)]
      exact h.rings
    · rw [if_pos hr, Nat.succ_div_of_not_dvd hd]

theorem Rung.tick_once {n m : Nat} {op : TimerOp} {s : Alarm} (hr : op.repeats = false)
    (h : Rung period a n m op s) : Rung period a n (m + 1) op (s.step period a .tick) := by
  have hnow : s.now + 1 = n + (m + 1) := by rw [h.now, Nat.add_assoc]
  have hring : ringsAfter (period op) op (m + 1) = decide (m + 1 = period op) := by
    simp [ringsAfter, hr]
  have hnr : ¬ op.repeats = true := by simp [hr]
  have harmed := h.armed
  rw [if_neg hnr] at harmed
  by_cases hlt : m < period op
  · rw [if_pos hlt] at harmed
    simp only [step, harmed]
    by_cases heq : m + 1 = period op
    · rw [if_pos (by omega), hnow]
      refine ⟨rfl, h.adds, ?_, ?_⟩
      · rw [expected_ring (by rw [hring]; exact decide_eq_true heq), h.rings]
      · rw [if_neg hnr, if_neg hnr, if_neg (by omega)]
    · rw [if_neg (by omega)]
      refine ⟨hnow, h.adds, ?_, ?_⟩
      · rw [expected_silent (by rw [hring]; exact decide_eq_false heq)]
        exact h.rings
      · rw [if_neg hnr, if_pos (by omega)]
  · rw [if_neg hlt] at harmed
    simp only [step, harmed]
    refine ⟨hnow, h.adds, ?_, ?_⟩
    · rw [expected_silent (by rw [hring]; exact decide_eq_false (by omega))]
      exact h.rings
    · rw [if_neg hnr, if_neg (by omega)]

theorem Rung.tick {n m : Nat} {op : TimerOp} {s : Alarm} (h : Rung period a n m op s) :
    Rung period a n (m + 1) op (s.step period a .tick) := by
  cases hr : op.repeats with
  | true => exact h.tick_repeats hr
  | false => exact h.tick_once hr

theorem Rung.run {n : Nat} {op : TimerOp} {labels : List Label}
    (hlabels : NotCancelled op.timerId labels) {m : Nat} {s : Alarm}
    (h : Rung period a n m op s) :
    ∃ m', Rung period a n m' op (s.run period a labels) := by
  induction labels generalizing s m with
  | nil => exact ⟨m, h⟩
  | cons l labels ih =>
    have hrest : NotCancelled op.timerId labels :=
      fun other hmem => hlabels other (List.mem_cons_of_mem _ hmem)
    cases l with
    | op other =>
      by_cases hadd : other.kind = .ADD
      · exact ih hrest (h.add hadd)
      · have hcancel : other.kind = .CANCEL := by
          cases hk : other.kind with
          | ADD => exact absurd hk hadd
          | CANCEL => rfl
        exact ih hrest (h.cancel hadd (hlabels other List.mem_cons_self hcancel))
    | tick => exact ih hrest h.tick

/-- Before its ADD an alarm is not armed and has not rung. -/
def Fresh (a : Nat) (s : Alarm) : Prop := s.adds ≤ a → s.armed = none ∧ s.rings = []

theorem Fresh.step {s : Alarm} (h : Fresh a s) (l : Label) : Fresh a (s.step period a l) := by
  cases l with
  | op op =>
    simp only [Alarm.step]
    split
    · intro hle
      have hne : s.adds ≠ a := Nat.ne_of_lt hle
      obtain ⟨harmed, hrings⟩ := h (Nat.le_of_succ_le hle)
      exact ⟨(if_neg hne).trans harmed, hrings⟩
    · intro hle
      obtain ⟨harmed, hrings⟩ := h hle
      exact ⟨by simp [harmed], hrings⟩
  | tick =>
    simp only [Alarm.step]
    cases harmed : s.armed with
    | none => exact fun hle => ⟨rfl, (h hle).2⟩
    | some x =>
      have hadds : a < s.adds := by
        by_contra hle
        cases harmed.symm.trans (h (Nat.not_lt.mp hle)).1
      dsimp only
      split <;> exact fun hle => absurd hadds (Nat.not_lt.mpr hle)

theorem fresh_run {s : Alarm} (h : Fresh a s) (labels : List Label) :
    Fresh a (s.run period a labels) := by
  induction labels generalizing s with
  | nil => exact h
  | cons l labels ih => exact ih (h.step l)

theorem Fresh.rung {s : Alarm} (h : Fresh a s) (ha : s.adds = a) {op : TimerOp}
    (hadd : op.kind = .ADD) (hpos : 0 < period op) :
    Rung period a s.now 0 op (s.step period a (.op op)) := by
  simp only [Alarm.step, if_pos hadd, if_pos ha]
  refine ⟨rfl, Nat.lt_succ_of_le (Nat.le_of_eq ha.symm), (h (Nat.le_of_eq ha)).2, ?_⟩
  rw [Nat.zero_div, Nat.zero_add, Nat.mul_one, if_pos hpos, ite_self]

end Alarm

/-- `ceil(max(i, tick) / tick)`. -/
def ceilTicks (c : Config) (intervalMs : UInt64) : Nat :=
  (max intervalMs.toNat c.tickMs.toNat + c.tickMs.toNat - 1) / c.tickMs.toNat

/-- The rounding fits in 64 bits, and the ticks are no whole number of turns of the wheel. -/
def OnTime (c : Config) (intervalMs : UInt64) : Prop :=
  max intervalMs.toNat c.tickMs.toNat + c.tickMs.toNat - 1 < 2 ^ 64 ∧
    ceilTicks c intervalMs % c.wheelSlots ≠ 0

theorem atLeastTick_toNat (c : Config) (ms : UInt64) :
    (atLeastTick c ms).toNat = max ms.toNat c.tickMs.toNat := by
  unfold atLeastTick
  split
  · rename_i h
    rw [UInt64.lt_iff_toNat_lt] at h
    omega
  · rename_i h
    rw [UInt64.lt_iff_toNat_lt] at h
    omega

theorem totalTicks_toNat (c : Config) (ms : UInt64) :
    (totalTicks c (atLeastTick c ms)).toNat =
      (max ms.toNat c.tickMs.toNat + c.tickMs.toNat - 1) % 2 ^ 64 / c.tickMs.toNat := by
  have htick : 1 ≤ c.tickMs.toNat := c.tick_ge
  unfold totalTicks
  rw [UInt64.toNat_div, UInt64.toNat_sub, UInt64.toNat_add, atLeastTick_toNat]
  congr 1
  have hone : (1 : UInt64).toNat = 1 := rfl
  rw [hone]
  omega

/-- The wheel uses the period it should exactly when the timer is on time. -/
theorem ahead_eq_iff (c : Config) (op : TimerOp) :
    ahead c op = ceilTicks c op.intervalMs ↔ OnTime c op.intervalMs := by
  have htick : 1 ≤ c.tickMs.toNat := c.tick_ge
  have hthousand : c.tickMs.toNat ≤ 1000 := c.tick_le
  have hslots := c.slots_gt
  have hslots' := c.slots_lt
  have hi := op.intervalMs.toNat_lt
  have ht := c.tickMs.toNat_lt
  unfold ahead OnTime
  rw [totalTicks_toNat]
  by_cases hfits : max op.intervalMs.toNat c.tickMs.toNat + c.tickMs.toNat - 1 < 2 ^ 64
  · rw [Nat.mod_eq_of_lt hfits]
    change (if ceilTicks c op.intervalMs % c.wheelSlots = 0 then
      ceilTicks c op.intervalMs + c.wheelSlots else ceilTicks c op.intervalMs) = _ ↔ _
    split
    · rename_i hturn
      simp only [hturn]
      omega
    · rename_i hturn
      exact iff_of_true rfl ⟨hfits, hturn⟩
  · -- the sum wraps to less than a tick: no ticks at all, so one whole turn
    have hwrap : (max op.intervalMs.toNat c.tickMs.toNat + c.tickMs.toNat - 1) % 2 ^ 64 /
        c.tickMs.toNat = 0 := Nat.div_eq_of_lt (by omega)
    have hfar : 2 ^ 32 ≤ ceilTicks c op.intervalMs := by
      unfold ceilTicks
      rw [Nat.le_div_iff_mul_le (by omega)]
      have : 2 ^ 32 * c.tickMs.toNat ≤ 2 ^ 32 * 1000 := Nat.mul_le_mul_left _ hthousand
      omega
    rw [hwrap]
    simp only [Nat.zero_mod, if_true, Nat.zero_add]
    constructor
    · intro heq
      omega
    · rintro ⟨h, -⟩
      exact absurd h hfits

/-- What the wheel sends for an ADD that is not cancelled, whatever else happens. -/
theorem rings_of_add (c : Config) (before : List Label) {op : TimerOp} (after : List Label)
    (hadd : op.kind = .ADD) (hafter : NotCancelled op.timerId after) :
    (TimerWheel.run c {} (before ++ .op op :: after)).rings (TimerWheel.run c {} before).adds =
      expected (ahead c op) (TimerWheel.run c {} before).advancedTicks
        ((TimerWheel.run c {} (before ++ .op op :: after)).advancedTicks -
          (TimerWheel.run c {} before).advancedTicks) op := by
  generalize ha : (TimerWheel.run c {} before).adds = a
  obtain ⟨-, hbefore⟩ := TimerWheel.shows_run before (TimerWheel.sane_init (c := c))
    (TimerWheel.shows_init (a := a))
  obtain ⟨-, hlast⟩ := TimerWheel.shows_run (before ++ .op op :: after)
    (TimerWheel.sane_init (c := c)) (TimerWheel.shows_init (a := a))
  have hfresh : Alarm.Fresh a (Alarm.run (ahead c) a {} before) :=
    Alarm.fresh_run (fun _ => ⟨rfl, rfl⟩) before
  obtain ⟨m, hrung⟩ :=
    (hfresh.rung (hbefore.adds.trans ha) hadd (ahead_pos c op)).run hafter
  rw [Alarm.run_append, Alarm.run_cons] at hlast
  rw [← hlast.rings, ← hlast.now, ← hbefore.now, hrung.rings, hrung.now, Nat.add_sub_cancel_left]

section Claim

variable (c : Config)

/-- Whatever ran before and whatever runs after, a timer with this interval that is not cancelled
fires at every multiple of its ticks, or at the first only. -/
def FiresExactly (intervalMs : UInt64) : Prop :=
  ∀ (before : List Label) (op : TimerOp) (after : List Label), op.kind = .ADD →
    op.intervalMs = intervalMs → NotCancelled op.timerId after →
    (TimerWheel.run c {} (before ++ .op op :: after)).rings (TimerWheel.run c {} before).adds =
      expected (ceilTicks c intervalMs) (TimerWheel.run c {} before).advancedTicks
        ((TimerWheel.run c {} (before ++ .op op :: after)).advancedTicks -
          (TimerWheel.run c {} before).advancedTicks) op

theorem mem_expected {period n m : Nat} {op : TimerOp} {t : Nat} {msg : Fire} :
    (t, msg) ∈ expected period n m op ↔
      ∃ k, k < m ∧ ringsAfter period op (k + 1) = true ∧ t = n + (k + 1) ∧ msg = op.msg := by
  simp only [expected, List.mem_map, List.mem_filter, List.mem_range, Prod.mk.injEq]
  constructor
  · rintro ⟨k, ⟨hk, hring⟩, rfl, rfl⟩
    exact ⟨k, hk, hring, rfl, rfl⟩
  · rintro ⟨k, hk, hring, rfl, rfl⟩
    exact ⟨k, ⟨hk, hring⟩, rfl, rfl⟩

/-- A one-shot timer. -/
def oneShot (intervalMs : UInt64) : TimerOp := { timerId := 1, intervalMs }

theorem ceilTicks_pos (intervalMs : UInt64) : 0 < ceilTicks c intervalMs := by
  have htick : 1 ≤ c.tickMs.toNat := c.tick_ge
  unfold ceilTicks
  rw [Nat.lt_iff_add_one_le, Nat.le_div_iff_mul_le (by omega)]
  omega

variable {c} in
theorem FiresExactly.ahead_eq {intervalMs : UInt64} (h : FiresExactly c intervalMs) :
    ahead c (oneShot intervalMs) = ceilTicks c intervalMs := by
  obtain ⟨k, hk⟩ := Nat.exists_eq_add_one.mpr (ceilTicks_pos c intervalMs)
  let ticks := List.replicate (ceilTicks c intervalMs) Label.tick
  have hnot : NotCancelled 1 ticks := fun op hop => by cases List.eq_of_mem_replicate hop
  have hlate : (TimerWheel.run c {} ([] ++ .op (oneShot intervalMs) :: ticks)).advancedTicks =
      ceilTicks c intervalMs := by
    change (TimerWheel.run c (TimerWheel.doAdd c {} (oneShot intervalMs)) ticks).advancedTicks = _
    rw [TimerWheel.run_ticks, TimerWheel.iterate_tick_advancedTicks,
      TimerWheel.doAdd_advancedTicks, Nat.zero_add]
  have hstart : (TimerWheel.run c {} []).advancedTicks = 0 := rfl
  have hadd : (oneShot intervalMs).kind = .ADD := rfl
  have hclaim := h [] (oneShot intervalMs) ticks hadd rfl hnot
  rw [rings_of_add c [] ticks hadd hnot, hlate, hstart, Nat.sub_zero] at hclaim
  -- the alarm of the claim rings in the last of these ticks
  have hring : (0 + (k + 1), (oneShot intervalMs).msg) ∈
      expected (ceilTicks c intervalMs) 0 (ceilTicks c intervalMs) (oneShot intervalMs) :=
    mem_expected.mpr ⟨k, by omega, by simp [ringsAfter, oneShot, hk], rfl, rfl⟩
  rw [← hclaim] at hring
  obtain ⟨k', -, hrings, htick, -⟩ := mem_expected.mp hring
  have hperiod : k' + 1 = ahead c (oneShot intervalMs) := of_decide_eq_true hrings
  omega

/-- A timer fires when it should in every run exactly when it is on time. -/
theorem firesExactly_iff (intervalMs : UInt64) :
    FiresExactly c intervalMs ↔ OnTime c intervalMs := by
  constructor
  · intro h
    exact (ahead_eq_iff c (oneShot intervalMs)).mp h.ahead_eq
  · rintro hontime before op after hadd rfl hafter
    rw [rings_of_add c before after hadd hafter, (ahead_eq_iff c op).mpr hontime]

/-- On the default wheel, 12800 ms are 256 ticks, one whole turn; the timer fires after 512. -/
theorem whole_turn_fires_late :
    ¬ ∀ (c : Config) (intervalMs : UInt64), FiresExactly c intervalMs := by
  intro h
  have heq := (h (Config.ofArgs 50 256) 12800).ahead_eq
  exact absurd heq (by decide)

end Claim

end Timer
