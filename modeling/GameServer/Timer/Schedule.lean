import Mathlib.Data.List.NodupEquivFin
import Mathlib.Order.WellFounded
import GameServer.Timer.Cancel
import GameServer.Timer.Exact

/-!
# The schedule of an ADD

Whatever is added and cancelled beside it and whenever it is cancelled itself, an ADD is served at
multiples of its period, counted from the tick at which the wheel took it, one after the other
and from the first on. A one-shot is served at most once.
-/

namespace Timer

/-- The first `k` rings of an alarm that was taken at tick `n`. -/
def scheduled (period n k : Nat) (op : TimerOp) : List (Nat × Fire) :=
  (List.range k).map fun i => (n + (i + 1) * period, op.msg)

theorem scheduled_succ (period n k : Nat) (op : TimerOp) :
    scheduled period n (k + 1) op =
      scheduled period n k op ++ [(n + (k + 1) * period, op.msg)] := by
  simp [scheduled, List.range_succ]

/-- Of some of the rings, none comes before the one in its place. -/
theorem scheduled_sublist {period n k i : Nat} {op : TimerOp} {rings : List (Nat × Fire)}
    (h : rings.Sublist (scheduled period n k op)) {r : Nat × Fire} (hr : rings[i]? = some r) :
    i < k ∧ n + (i + 1) * period ≤ r.1 ∧ r.2 = op.msg := by
  obtain ⟨place, hplace⟩ := List.sublist_iff_exists_orderEmbedding_getElem?_eq.mp h
  have hlater : i ≤ place i := StrictMono.le_apply place.strictMono
  rw [hplace, scheduled, List.getElem?_map, Option.map_eq_some_iff] at hr
  obtain ⟨j, hj, rfl⟩ := hr
  obtain ⟨hlt, rfl⟩ := List.getElem?_eq_some_iff.mp hj
  rw [List.length_range] at hlt
  rw [List.getElem_range]
  refine ⟨by omega, ?_, rfl⟩
  exact Nat.add_le_add_left (Nat.mul_le_mul_right period (Nat.add_le_add_right hlater 1)) n

/-- An interval that leaves room for the rounding is never cut short. -/
theorem interval_le_ahead (c : Config) {op : TimerOp} (h : op.intervalMs.toNat < 2 ^ 63) :
    op.intervalMs.toNat ≤ ahead c op * c.tickMs.toNat := by
  have htick : 1 ≤ c.tickMs.toNat := c.tick_ge
  have hthousand : c.tickMs.toNat ≤ 1000 := c.tick_le
  have hceil : op.intervalMs.toNat ≤ ceilTicks c op.intervalMs * c.tickMs.toNat := by
    unfold ceilTicks
    have hdiv := Nat.div_add_mod (max op.intervalMs.toNat c.tickMs.toNat + c.tickMs.toNat - 1)
      c.tickMs.toNat
    have hmod := Nat.mod_lt (max op.intervalMs.toNat c.tickMs.toNat + c.tickMs.toNat - 1) htick
    rw [Nat.mul_comm] at hdiv
    omega
  refine hceil.trans (Nat.mul_le_mul_right _ ?_)
  have hfits : max op.intervalMs.toNat c.tickMs.toNat + c.tickMs.toNat - 1 < 2 ^ 64 := by omega
  unfold ahead
  rw [totalTicks_toNat, Nat.mod_eq_of_lt hfits]
  change _ ≤ if ceilTicks c op.intervalMs % c.wheelSlots = 0 then _ else ceilTicks c op.intervalMs
  split
  · exact Nat.le_add_right _ _
  · exact le_refl _

theorem addsOf_append (ls ms : List Label) : addsOf (ls ++ ms) = addsOf ls ++ addsOf ms :=
  List.filterMap_append

theorem addsOf_add {op : TimerOp} (hadd : op.kind = .ADD) (ls : List Label) :
    addsOf (.op op :: ls) = op :: addsOf ls := by
  simp [addsOf, hadd]

/-- A command in the list is one of its places. -/
theorem addsOf_split {labels : List Label} {a : Nat} {op : TimerOp}
    (h : (addsOf labels)[a]? = some op) :
    ∃ before after, labels = before ++ .op op :: after ∧ op.kind = .ADD ∧
      (addsOf before).length = a := by
  induction labels generalizing a with
  | nil => simp [addsOf] at h
  | cons l labels ih =>
    by_cases hadd : ∃ op', l = .op op' ∧ op'.kind = .ADD
    · obtain ⟨op', rfl, hkind⟩ := hadd
      rw [addsOf_add hkind] at h
      cases a with
      | zero =>
        cases h
        exact ⟨[], labels, rfl, hkind, rfl⟩
      | succ a =>
        obtain ⟨before, after, rfl, hop, hlen⟩ := ih h
        refine ⟨.op op' :: before, after, rfl, hop, ?_⟩
        rw [addsOf_add hkind, List.length_cons, hlen]
    · have hskip : ∀ ls, addsOf (l :: ls) = addsOf ls := by
        intro ls
        cases l with
        | op op' =>
          have hother : op'.kind ≠ .ADD := fun hkind => hadd ⟨op', rfl, hkind⟩
          simp [addsOf, hother]
        | tick => rfl
      rw [hskip] at h
      obtain ⟨before, after, rfl, hop, hlen⟩ := ih h
      exact ⟨l :: before, after, rfl, hop, by rw [hskip, hlen]⟩

theorem addsOf_place (before : List Label) {op : TimerOp} (after : List Label)
    (hadd : op.kind = .ADD) :
    (addsOf (before ++ .op op :: after))[(addsOf before).length]? = some op := by
  rw [addsOf_append, addsOf_add hadd, List.getElem?_append_right (le_refl _), Nat.sub_self]
  rfl

/-- What is in a run is its last label, or was there without it. -/
theorem split_of_concat {labels before after : List Label} {l x : Label}
    (h : labels ++ [l] = before ++ x :: after) :
    labels = before ∧ l = x ∨ ∃ after', labels = before ++ x :: after' := by
  rcases List.eq_nil_or_concat after with rfl | ⟨after, y, rfl⟩
  · obtain ⟨hbefore, hlast⟩ := List.append_inj' h rfl
    cases hlast
    exact .inl ⟨hbefore, rfl⟩
  · rw [List.concat_eq_append, ← List.cons_append, ← List.append_assoc] at h
    obtain ⟨hbefore, -⟩ := List.append_inj' h rfl
    exact .inr ⟨after, hbefore⟩

theorem addsOf_concat {labels : List Label} {l : Label} {a : Nat} {op : TimerOp}
    (h : (addsOf (labels ++ [l]))[a]? = some op) :
    (addsOf labels)[a]? = some op ∨
      a = (addsOf labels).length ∧ l = .op op ∧ op.kind = .ADD := by
  obtain ⟨before, after, hsplit, hadd, rfl⟩ := addsOf_split h
  rcases split_of_concat hsplit with ⟨rfl, rfl⟩ | ⟨after', rfl⟩
  · exact .inr ⟨rfl, rfl, hadd⟩
  · exact .inl (addsOf_place before after' hadd)

namespace Alarm

variable {period : TimerOp → Nat} {a n : Nat} {op : TimerOp} {s : Alarm}

/-- The alarm of a command that was taken at tick `n`, after `k` rings. -/
structure Paced (period : TimerOp → Nat) (a n k : Nat) (op : TimerOp) (s : Alarm) : Prop where
  adds : a < s.adds
  now : n + k * period op ≤ s.now
  rings : s.rings = scheduled (period op) n k op
  armed : s.armed = none ∨ s.armed = some (n + (k + 1) * period op, op)
  once : op.repeats = false → k = 0 ∨ k = 1 ∧ s.armed = none

theorem Paced.step {k : Nat} (h : Paced period a n k op s) (l : Label) :
    ∃ k', Paced period a n k' op (s.step period a l) := by
  cases l with
  | op other =>
    refine ⟨k, ?_⟩
    by_cases hadd : other.kind = .ADD
    · simp only [Alarm.step, if_pos hadd, if_neg (Nat.ne_of_gt h.adds)]
      exact ⟨Nat.lt_succ_of_lt h.adds, h.now, h.rings, h.armed, h.once⟩
    · simp only [Alarm.step, if_neg hadd]
      refine ⟨h.adds, h.now, h.rings, ?_, fun hr => (h.once hr).imp_right fun hk => ⟨hk.1, ?_⟩⟩
      · rcases h.armed with harmed | harmed
        · simp [harmed]
        · rw [harmed, Option.filter_some]
          split
          · exact .inr rfl
          · exact .inl rfl
      · simp [hk.2]
  | tick =>
    rcases h.armed with harmed | harmed
    · refine ⟨k, ?_⟩
      simp only [Alarm.step, harmed]
      exact ⟨h.adds, h.now.trans (Nat.le_succ _), h.rings, .inl rfl, fun hr =>
        (h.once hr).imp_right fun hk => ⟨hk.1, rfl⟩⟩
    · simp only [Alarm.step, harmed]
      by_cases hdue : n + (k + 1) * period op = s.now + 1
      · rw [if_pos hdue]
        refine ⟨k + 1, h.adds, hdue.le, ?_, ?_, fun hr => .inr ⟨?_, by simp [hr]⟩⟩
        · rw [scheduled_succ, ← h.rings, hdue]
        · dsimp only
          split
          · rw [← hdue, Nat.add_mul (k + 1), Nat.one_mul, Nat.add_assoc]
            exact .inr rfl
          · exact .inl rfl
        · rcases h.once hr with hk | ⟨-, hno⟩
          · rw [hk]
          · rw [harmed] at hno
            cases hno
      · rw [if_neg hdue]
        refine ⟨k, h.adds, h.now.trans (Nat.le_succ _), h.rings, .inr rfl, fun hr =>
          (h.once hr).imp_right fun hk => ?_⟩
        exact absurd (harmed.symm.trans hk.2) (by simp)

theorem Paced.run {k : Nat} (h : Paced period a n k op s) (labels : List Label) :
    ∃ k', Paced period a n k' op (s.run period a labels) := by
  induction labels generalizing s k with
  | nil => exact ⟨k, h⟩
  | cons l labels ih =>
    obtain ⟨k', h'⟩ := h.step l
    exact ih h'

/-- An ADD with the number of the alarm arms it. -/
theorem Fresh.paced (h : Fresh a s) (ha : s.adds = a) (hadd : op.kind = .ADD) :
    Paced period a s.now 0 op (s.step period a (.op op)) := by
  obtain ⟨-, hrings⟩ := h ha.le
  simp only [Alarm.step, if_pos hadd, if_pos ha]
  refine ⟨by dsimp only; omega, by simp, hrings, .inr ?_, fun _ => .inl rfl⟩
  simp

end Alarm

namespace TimerWheel

variable (c : Config)

/-- What the wheel has sent for an ADD, with whatever cancels. -/
theorem rings_scheduled (before : List Label) {op : TimerOp} (after : List Label)
    (hadd : op.kind = .ADD) :
    ∃ k, (op.repeats = false → k ≤ 1) ∧
      (TimerWheel.run c {} before).advancedTicks + k * ahead c op ≤
        (TimerWheel.run c {} (before ++ .op op :: after)).advancedTicks ∧
      (TimerWheel.run c {} (before ++ .op op :: after)).rings (addsOf before).length =
        scheduled (ahead c op) (TimerWheel.run c {} before).advancedTicks k op := by
  generalize ha : (addsOf before).length = a
  have hcounts := Alarm.counts_run (ahead c) (Alarm.counts_init a) before
  rw [List.nil_append] at hcounts
  have hfresh : Alarm.Fresh a (Alarm.run (ahead c) a {} before) :=
    Alarm.fresh_run (fun _ => ⟨rfl, rfl⟩) before
  obtain ⟨-, hbefore⟩ := shows_run before (sane_init (c := c)) (shows_init (a := a))
  obtain ⟨k, hpaced⟩ := (hfresh.paced (hcounts.count.trans ha) hadd).run after
  obtain ⟨-, hlast⟩ := shows_run (before ++ .op op :: after) (sane_init (c := c))
    (shows_init (a := a))
  rw [Alarm.run_append, Alarm.run_cons] at hlast
  refine ⟨k, fun hr => ?_, ?_, ?_⟩
  · rcases hpaced.once hr with hk | ⟨hk, -⟩ <;> omega
  · rw [← hlast.now, ← hbefore.now]
    exact hpaced.now
  · rw [run_rings, Alarm.run_append, Alarm.run_cons, hpaced.rings, hbefore.now]

/-- A message that the wheel has sent is one of an ADD that it took. -/
theorem sent_of_add {labels : List Label} {f : Fired}
    (hf : f ∈ (TimerWheel.run c {} labels).fired) :
    ∃ before op after, labels = before ++ .op op :: after ∧ op.kind = .ADD ∧
      (addsOf before).length = f.origin ∧ f.msg = op.msg ∧
      f.tick ≤ (TimerWheel.run c {} labels).advancedTicks := by
  have hmem : (f.tick, f.msg) ∈ (TimerWheel.run c {} labels).rings f.origin :=
    List.mem_map.mpr ⟨f, List.mem_filter.mpr ⟨hf, by simp⟩, rfl⟩
  cases hop : (addsOf labels)[f.origin]? with
  | none =>
    have hcounts := Alarm.counts_run (ahead c) (Alarm.counts_init f.origin) labels
    rw [List.nil_append] at hcounts
    have hfresh : Alarm.Fresh f.origin (Alarm.run (ahead c) f.origin {} labels) :=
      Alarm.fresh_run (fun _ => ⟨rfl, rfl⟩) labels
    rw [run_rings, (hfresh (hcounts.count ▸ List.getElem?_eq_none_iff.mp hop)).2] at hmem
    cases hmem
  | some op =>
    obtain ⟨before, after, rfl, hadd, hlen⟩ := addsOf_split hop
    obtain ⟨k, -, hnow, hrings⟩ := rings_scheduled c before after hadd
    rw [← hlen, hrings] at hmem
    obtain ⟨i, hi, heq⟩ := List.mem_map.mp hmem
    refine ⟨before, op, after, rfl, hadd, hlen, (congrArg Prod.snd heq).symm, ?_⟩
    have htick := congrArg Prod.fst heq
    have hle := Nat.mul_le_mul_right (ahead c op) (Nat.succ_le_of_lt (List.mem_range.mp hi))
    dsimp only at htick
    rw [← htick]
    exact (Nat.add_le_add_left hle _).trans hnow

end TimerWheel

end Timer
