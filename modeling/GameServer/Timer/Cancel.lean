import GameServer.Timer.Wheel

/-!
# What a cancel reaches

A cancel disarms every alarm of its user id and no other alarm. So after it nothing
of this user id is sent before a new ADD, whichever instances the repeats had made
by then, and all other timers fire as if the cancel had not been there.
-/

namespace Timer

/-- The ADD commands of a list, in order. -/
def addsOf (labels : List Label) : List TimerOp :=
  labels.filterMap fun l =>
    match l with
    | .op op => if op.kind = .ADD then some op else none
    | .tick => none

/-- The command that `cancel(userTimerId)` puts into the queue. -/
def cancelOp (u : Nat) : TimerOp := { kind := .CANCEL, timerId := u }

namespace Alarm

variable {period : TimerOp → Nat} {a : Nat} {s : Alarm}

/-- The alarm counts the ADD commands, and what is armed is the one of its number. -/
structure Counts (a : Nat) (adds : List TimerOp) (s : Alarm) : Prop where
  count : s.adds = adds.length
  armed : ∀ due op, s.armed = some (due, op) → adds[a]? = some op

theorem Counts.step {adds : List TimerOp} (h : Counts a adds s) (l : Label) :
    Counts a (adds ++ addsOf [l]) (s.step period a l) := by
  cases l with
  | op op =>
    by_cases hadd : op.kind = .ADD
    · have hone : addsOf [.op op] = [op] := by simp [addsOf, hadd]
      simp only [Alarm.step, if_pos hadd, hone]
      refine ⟨by simp [h.count], fun due op' harmed => ?_⟩
      split at harmed
      · rename_i ha
        cases harmed
        rw [← ha, h.count, List.getElem?_concat_length]
      · have hold := h.armed due op' harmed
        rw [List.getElem?_append_left (List.getElem?_eq_some_iff.mp hold).1]
        exact hold
    · have hnone : addsOf [.op op] = [] := by simp [addsOf, hadd]
      simp only [Alarm.step, if_neg hadd, hnone, List.append_nil]
      exact ⟨h.count, fun due op' harmed => h.armed due op' (Option.filter_eq_some_iff.mp harmed).1⟩
  | tick =>
    have hnone : addsOf [.tick] = [] := rfl
    rw [hnone, List.append_nil]
    simp only [Alarm.step]
    cases harmed : s.armed with
    | none => exact ⟨h.count, by simp⟩
    | some x =>
      have hold := h.armed x.1 x.2 harmed
      dsimp only
      split
      · refine ⟨h.count, fun due op' harmed' => ?_⟩
        dsimp only at harmed'
        split at harmed'
        · cases harmed'
          exact hold
        · cases harmed'
      · refine ⟨h.count, fun due op' harmed' => ?_⟩
        dsimp only at harmed'
        cases harmed'
        exact hold

variable (period) in
theorem counts_run {adds : List TimerOp} (h : Counts a adds s) (labels : List Label) :
    Counts a (adds ++ addsOf labels) (s.run period a labels) := by
  induction labels generalizing s adds with
  | nil =>
    rw [show addsOf [] = [] from rfl, List.append_nil]
    exact h
  | cons l labels ih =>
    have hsplit : addsOf (l :: labels) = addsOf [l] ++ addsOf labels := by
      rw [← List.singleton_append]
      exact List.filterMap_append
    rw [hsplit, ← List.append_assoc]
    exact ih (h.step l)

theorem counts_init (a : Nat) : Counts a [] {} := ⟨rfl, nofun⟩

theorem step_cancelOp (u : Nat) :
    s.step period a (.op (cancelOp u)) =
      { s with armed := s.armed.filter fun x => x.2.timerId ≠ u } := by
  have hcancel : (cancelOp u).kind ≠ .ADD := nofun
  simp only [step, if_neg hcancel]
  rfl

/-- An alarm of another user id does not notice the cancel. -/
theorem step_cancel_other {u : Nat} (h : ∀ due op, s.armed = some (due, op) → op.timerId ≠ u) :
    s.step period a (.op (cancelOp u)) = s := by
  have hkept : (s.armed.filter fun x => x.2.timerId ≠ u) = s.armed := by
    cases harmed : s.armed with
    | none => rfl
    | some x => simpa using h x.1 x.2 harmed
  rw [step_cancelOp, hkept]

variable (period) in
/-- One step of an alarm that is not of the user id. -/
theorem quiet_step {u : Nat} (h : ∀ due op, s.armed = some (due, op) → op.timerId ≠ u) (l : Label)
    (hl : ∀ op, l = .op op → op.kind = .ADD → op.timerId = u → a < s.adds) :
    (∀ due op, (s.step period a l).armed = some (due, op) → op.timerId ≠ u) ∧
      s.adds ≤ (s.step period a l).adds ∧
      ∃ later, (s.step period a l).rings = s.rings ++ later ∧ ∀ r ∈ later, r.2.ctx ≠ u := by
  cases l with
  | op op =>
    by_cases hadd : op.kind = .ADD
    · simp only [step, if_pos hadd]
      refine ⟨fun due op' harmed => ?_, Nat.le_succ _, [], (List.append_nil _).symm, by simp⟩
      split at harmed
      · rename_i ha
        cases harmed
        intro hu
        exact Nat.ne_of_gt (hl op rfl hadd hu) ha
      · exact h due op' harmed
    · simp only [step, if_neg hadd]
      exact ⟨fun due op' harmed => h due op' (Option.filter_eq_some_iff.mp harmed).1, le_rfl, [],
        (List.append_nil _).symm, by simp⟩
  | tick =>
    simp only [step]
    cases harmed : s.armed with
    | none => exact ⟨by simp, le_rfl, [], (List.append_nil _).symm, by simp⟩
    | some x =>
      have hx := h x.1 x.2 harmed
      dsimp only
      split
      · refine ⟨fun due op' harmed' => ?_, le_rfl, _, rfl, fun r hr => ?_⟩
        · dsimp only at harmed'
          split at harmed'
          · cases harmed'
            exact hx
          · cases harmed'
        · rw [List.mem_singleton.mp hr]
          exact hx
      · refine ⟨fun due op' harmed' => ?_, le_rfl, [], (List.append_nil _).symm, by simp⟩
        dsimp only at harmed'
        cases harmed'
        exact hx

variable (period) in
/-- An alarm that is not of the user id rings no message of it, unless such an ADD is its own. -/
theorem quiet_run {u : Nat} (h : ∀ due op, s.armed = some (due, op) → op.timerId ≠ u)
    (labels : List Label)
    (hlabels : ∀ op, Label.op op ∈ labels → op.kind = .ADD → op.timerId = u → a < s.adds) :
    ∃ later, (s.run period a labels).rings = s.rings ++ later ∧ ∀ r ∈ later, r.2.ctx ≠ u := by
  induction labels generalizing s with
  | nil => exact ⟨[], (List.append_nil _).symm, nofun⟩
  | cons l labels ih =>
    obtain ⟨h', hadds, first, hfirst, hquiet⟩ := quiet_step period h l
      fun op hop => hlabels op (hop ▸ List.mem_cons_self)
    obtain ⟨later, hlater, hquiet'⟩ := ih h' fun op hop hadd hu =>
      Nat.lt_of_lt_of_le (hlabels op (List.mem_cons_of_mem _ hop) hadd hu) hadds
    refine ⟨first ++ later, ?_, fun r hr => ?_⟩
    · rw [run_cons, hlater, hfirst, List.append_assoc]
    · rcases List.mem_append.mp hr with hr | hr
      · exact hquiet r hr
      · exact hquiet' r hr

end Alarm

namespace TimerWheel

variable {c : Config}

theorem fire_fired (w : TimerWheel) (item : TimerItem) :
    (w.fire c item).fired = (w.send item).fired := by
  cases hr : item.repeats with
  | true => rw [fire_repeats hr, place_fired]
  | false =>
    obtain ⟨byUser, heq, -⟩ := fire_once (c := c) (w := w) hr
    rw [heq]

theorem fires_fired (items : List TimerItem) (w : TimerWheel) :
    ∃ later, (items.foldl (fire c) w).fired = w.fired ++ later := by
  induction items generalizing w with
  | nil => exact ⟨[], (List.append_nil _).symm⟩
  | cons item items ih =>
    obtain ⟨later, hlater⟩ := ih (w.fire c item)
    rw [fire_fired] at hlater
    exact ⟨_, hlater.trans (List.append_assoc _ _ _)⟩

theorem step_fired (w : TimerWheel) (l : Label) :
    ∃ later, (step c w l).fired = w.fired ++ later := by
  cases l with
  | op op =>
    refine ⟨[], ?_⟩
    rw [List.append_nil]
    simp only [step, processOp]
    split
    · rfl
    · exact (doCancel_frame w op.timerId).2.2.2.2
  | tick => exact fires_fired _ (swept c w).1

/-- Messages are only ever added to what was sent. -/
theorem run_fired (w : TimerWheel) (labels : List Label) :
    ∃ later, (w.run c labels).fired = w.fired ++ later := by
  induction labels generalizing w with
  | nil => exact ⟨[], (List.append_nil _).symm⟩
  | cons l labels ih =>
    obtain ⟨first, hfirst⟩ := step_fired (c := c) w l
    obtain ⟨later, hlater⟩ := ih (step c w l)
    refine ⟨first ++ later, hlater.trans ?_⟩
    rw [hfirst, List.append_assoc]

end TimerWheel

section Claim

variable (c : Config) (before after : List Label) (u : Nat)

/-- After the cancel, a message of the user id is one of an ADD that came after it. -/
theorem fired_after_cancel :
    ∃ later, (TimerWheel.run c {} (before ++ .op (cancelOp u) :: after)).fired =
        (TimerWheel.run c {} before).fired ++ later ∧
      ∀ f ∈ later, f.msg.ctx = u → (TimerWheel.run c {} before).adds ≤ f.origin ∧
        ∃ op, Label.op op ∈ after ∧ op.kind = .ADD ∧ op.timerId = u := by
  obtain ⟨later, hlater⟩ :=
    TimerWheel.run_fired (c := c) (TimerWheel.run c {} before) (.op (cancelOp u) :: after)
  rw [← TimerWheel.run_append] at hlater
  refine ⟨later, hlater, fun f hf hctx => ?_⟩
  by_contra hnot
  -- the messages after the cancel, seen from the ADD of `f`
  generalize hs : Alarm.run (ahead c) f.origin {} before = s
  have hadds : s.adds = (TimerWheel.run c {} before).adds := hs ▸
    (TimerWheel.shows_run before TimerWheel.sane_init TimerWheel.shows_init).2.adds
  have hrings : (TimerWheel.run c {} (before ++ .op (cancelOp u) :: after)).rings f.origin =
      s.rings ++ (later.filter (·.origin = f.origin)).map fun f => (f.tick, f.msg) := by
    rw [← hs, ← TimerWheel.run_rings]
    unfold TimerWheel.rings
    rw [hlater, List.filter_append, List.map_append]
  have hdisarmed : ∀ due op, (s.armed.filter fun x => x.2.timerId ≠ u) = some (due, op) →
      op.timerId ≠ u := fun due op harmed => by
    simpa using (Option.filter_eq_some_iff.mp harmed).2
  obtain ⟨rest, hrest, hquiet⟩ := Alarm.quiet_run (ahead c) (a := f.origin)
    (s := { s with armed := s.armed.filter fun x => x.2.timerId ≠ u }) hdisarmed after
    fun op hop hadd hu => by
      by_contra hle
      exact hnot ⟨hadds ▸ Nat.not_lt.mp hle, op, hop, hadd, hu⟩
  rw [TimerWheel.run_rings, Alarm.run_append, Alarm.run_cons, hs, Alarm.step_cancelOp,
    hrest] at hrings
  have hmem : (f.tick, f.msg) ∈ rest := by
    rw [List.append_cancel_left hrings]
    exact List.mem_map.mpr ⟨f, List.mem_filter.mpr ⟨hf, by simp⟩, rfl⟩
  exact hquiet _ hmem hctx

/-- Every other ADD is served as if the cancel had not been there. -/
theorem rings_after_cancel (a : Nat)
    (ha : ∀ op, (addsOf before)[a]? = some op → op.timerId ≠ u) :
    (TimerWheel.run c {} (before ++ .op (cancelOp u) :: after)).rings a =
      (TimerWheel.run c {} (before ++ after)).rings a := by
  have hcounts := Alarm.counts_run (ahead c) (Alarm.counts_init a) before
  rw [List.nil_append] at hcounts
  rw [TimerWheel.run_rings, TimerWheel.run_rings, Alarm.run_append, Alarm.run_append,
    Alarm.run_cons, Alarm.step_cancel_other fun due op harmed => ha op (hcounts.armed due op harmed)]

theorem cancel_complete :
    (∃ later, (TimerWheel.run c {} (before ++ .op (cancelOp u) :: after)).fired =
        (TimerWheel.run c {} before).fired ++ later ∧
      ∀ f ∈ later, f.msg.ctx = u → (TimerWheel.run c {} before).adds ≤ f.origin ∧
        ∃ op, Label.op op ∈ after ∧ op.kind = .ADD ∧ op.timerId = u) ∧
    ∀ a, (∀ op, (addsOf before)[a]? = some op → op.timerId ≠ u) →
      (TimerWheel.run c {} (before ++ .op (cancelOp u) :: after)).rings a =
        (TimerWheel.run c {} (before ++ after)).rings a :=
  ⟨fired_after_cancel c before after u, rings_after_cancel c before after u⟩

end Claim

end Timer
