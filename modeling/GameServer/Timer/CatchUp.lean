import Mathlib.Data.List.Chain
import GameServer.Lib.Run
import GameServer.Timer.TimerThread

/-!
# How far the wheel is behind the clock

Every round reads the clock and advances the wheel towards it, by at most
`kMaxCatchupTicks`. What the limit leaves out goes to `skipped_ticks_`, which is
subtracted from every later reading: it is never made up. A round advances as far
as it should exactly when nothing is left out, or the limit is reached anyway.
-/

namespace Timer

/-- One round: the reading, and the position of the wheel before and after. -/
structure Round where
  elapsedTicks : Int
  before : Int
  after : Int
  deriving DecidableEq

/-- The thread and the rounds it has made. -/
structure Rounds where
  thread : TimerThread := {}
  rounds : List Round := []

namespace Rounds

def position (s : Rounds) : Int := s.thread.wheel.advancedTicks

/-- One round with the commands it consumes and the reading it makes. -/
def step (c : Config) (s : Rounds) (input : List TimerOp × Int) : Option Rounds :=
  let thread := s.thread.round c input.1 input.2
  some
    { thread
      rounds := s.rounds ++ [⟨input.2, s.position, thread.wheel.advancedTicks⟩] }

/-- How far a round has to bring the wheel. -/
def due (elapsedTicks advanced : Int) : Int := min kMaxCatchupTicks (max 0 (elapsedTicks - advanced))

/-- The wheel follows the clock. -/
structure Follows (s : Rounds) : Prop where
  advance : ∀ r ∈ s.rounds, r.after = r.before + due r.elapsedTicks r.before
  notAhead : ∀ r ∈ s.rounds, r.after ≤ max r.before r.elapsedTicks
  /-- Enough rounds with one reading bring the wheel there. -/
  arrives : ∀ earlier r later, s.rounds = earlier ++ r :: later →
    (∀ q ∈ later, q.elapsedTicks = r.elapsedTicks) → r.before ≤ r.elapsedTicks →
    r.elapsedTicks ≤ r.before + kMaxCatchupTicks * (later.length + 1) →
    s.position = r.elapsedTicks

/-- Nothing was left out so far, or the reading is not ahead of the wheel, or it is so far ahead
that the limit is reached even without the ticks left out. -/
def NothingLost (s : Rounds) (input : List TimerOp × Int) : Prop :=
  s.thread.skippedTicks = 0 ∨ input.2 ≤ s.position ∨
    s.position + s.thread.skippedTicks + kMaxCatchupTicks ≤ input.2

/-- Every round starts where the one before it ended, and nothing negative is ever left out. -/
structure Chained (s : Rounds) : Prop where
  skipped : 0 ≤ s.thread.skippedTicks
  link : s.rounds.IsChain fun q r => q.after = r.before
  last : ∀ r ∈ s.rounds.getLast?, r.after = s.position

variable {c : Config} {s t : Rounds} {input : List TimerOp × Int}

theorem round_position (t : TimerThread) (ops : List TimerOp) (e : Int) :
    ((t.round c ops e).wheel.advancedTicks : Int) =
      t.wheel.advancedTicks +
        min (max 0 (e - t.skippedTicks - t.wheel.advancedTicks)) kMaxCatchupTicks := by
  unfold TimerThread.round TimerThread.behind
  simp only [TimerWheel.iterate_tick_advancedTicks, TimerWheel.processOps_advancedTicks,
    Int.natCast_add]
  rw [Int.toNat_of_nonneg (by simp only [kMaxCatchupTicks]; omega)]

theorem round_skipped (t : TimerThread) (ops : List TimerOp) (e : Int) :
    (t.round c ops e).skippedTicks =
      if max 0 (e - t.skippedTicks - t.wheel.advancedTicks) > kMaxCatchupTicks then
        t.skippedTicks + (max 0 (e - t.skippedTicks - t.wheel.advancedTicks) - kMaxCatchupTicks)
      else t.skippedTicks := by
  unfold TimerThread.round TimerThread.behind
  simp only [TimerWheel.processOps_advancedTicks]

theorem chained_step (hs : Chained s) (h : step c s input = some t) : Chained t := by
  cases h
  refine ⟨?_, ?_, ?_⟩
  · have hskip := hs.skipped
    dsimp only
    rw [round_skipped]
    split <;> omega
  · refine List.isChain_append.mpr ⟨hs.link, List.isChain_singleton _, fun q hq r hr => ?_⟩
    cases hr
    exact hs.last q hq
  · intro r hr
    simp only [List.getLast?_append, List.getLast?_singleton, Option.some_or, Option.mem_def,
      Option.some.injEq] at hr
    subst hr
    rfl

/-- A chain of rounds with one reading, long enough, ends at the reading. -/
theorem last_of_chain {r : Round} {later : List Round}
    (hlink : (r :: later).IsChain fun q r => q.after = r.before)
    (hadvance : ∀ q ∈ r :: later, q.after = q.before + due q.elapsedTicks q.before)
    (hreading : ∀ q ∈ later, q.elapsedTicks = r.elapsedTicks) (hle : r.before ≤ r.elapsedTicks)
    (hlong : r.elapsedTicks ≤ r.before + kMaxCatchupTicks * (later.length + 1)) :
    ∀ q ∈ (r :: later).getLast?, q.after = r.elapsedTicks := by
  have hr := hadvance r List.mem_cons_self
  simp only [due, kMaxCatchupTicks] at hr hlong
  induction later generalizing r with
  | nil =>
    intro q hq
    obtain rfl : r = q := by simpa using hq
    simp only [List.length_nil] at hlong
    omega
  | cons q later ih =>
    obtain ⟨hrq, hchain⟩ := List.isChain_cons_cons.mp hlink
    have hq : q.elapsedTicks = r.elapsedTicks := hreading q List.mem_cons_self
    have hadv := hadvance q (List.mem_cons_of_mem _ List.mem_cons_self)
    simp only [due, kMaxCatchupTicks] at hadv
    simp only [List.length_cons, Int.natCast_add, Int.cast_ofNat_Int] at hlong
    have hlast := ih hchain (fun p hp => hadvance p (List.mem_cons_of_mem _ hp))
      (fun p hp => (hreading p (List.mem_cons_of_mem _ hp)).trans hq.symm) (by omega) (by omega) hadv
    intro p hp
    rw [List.getLast?_cons_cons] at hp
    exact (hlast p hp).trans hq

theorem Chained.follows (hs : Chained s)
    (h : ∀ r ∈ s.rounds, r.after = r.before + due r.elapsedTicks r.before) : Follows s where
  advance := h
  notAhead := fun r hr => by
    have hadv := h r hr
    simp only [due] at hadv
    omega
  arrives := fun earlier r later hsplit hreading hle hlong => by
    have hlast := last_of_chain (hsplit ▸ hs.link).right_of_append
      (fun q hq => h q (hsplit ▸ List.mem_append_right _ hq)) hreading hle hlong
    obtain ⟨q, hq⟩ : ∃ q, (r :: later).getLast? = some q := by simp [List.getLast?_cons]
    have hq' : s.rounds.getLast? = some q := by
      rw [hsplit, List.getLast?_append, hq]
      rfl
    rw [← hs.last q hq', hlast q hq]

/-- A round keeps the wheel with the clock exactly when nothing is lost in it. -/
theorem follows_step (hs : Chained s) (hf : Follows s) (h : step c s input = some t) :
    Follows t ↔ NothingLost s input := by
  have ht := chained_step hs h
  cases h
  have hskip := hs.skipped
  have hpos := round_position s.thread input.1 input.2 (c := c)
  have hnew : ((s.thread.round c input.1 input.2).wheel.advancedTicks : Int) =
      s.position + due input.2 s.position ↔ NothingLost s input := by
    rw [hpos]
    simp only [due, NothingLost, position, kMaxCatchupTicks]
    omega
  rw [← hnew]
  constructor
  · intro hft
    exact hft.advance _ (List.mem_append_right _ List.mem_cons_self)
  · intro hadv
    refine ht.follows fun r hr => ?_
    rcases List.mem_append.mp hr with hold | hlast
    · exact hf.advance r hold
    · rw [List.mem_singleton.mp hlast]
      exact hadv

theorem chained_init : Chained {} where
  skipped := Int.le_refl 0
  link := List.isChain_nil
  last := nofun

theorem follows_init : Follows {} := chained_init.follows nofun

/-- The wheel follows the clock in a run exactly when no round of it loses a tick. -/
theorem follows_iff (c : Config) (inputs : List (List TimerOp × Int)) :
    (∀ pre s, pre <+: inputs → Run.exec (step c) {} pre = some s → Follows s) ↔
      Run.Along (step c) NothingLost {} inputs :=
  Run.visited_iff_along Chained Follows (fun _ _ h => nomatch h)
    (fun _ _ _ hs hf h => ⟨chained_step hs h, follows_step hs hf h⟩) chained_init follows_init

/-- The clock stands ten ticks ahead of the start: two rounds later the wheel still stands at five. -/
theorem stall_never_made_up :
    ¬ ∀ (c : Config) (inputs pre : List (List TimerOp × Int)) (s : Rounds), pre <+: inputs →
      Run.exec (step c) {} pre = some s → Follows s := by
  intro h
  let c := Config.ofArgs 50 256
  have hrun : (Run.exec (step c) {} [([], 10), ([], 10)]).map (·.rounds) =
      some [⟨10, 0, 5⟩, ⟨10, 5, 5⟩] := by decide
  obtain ⟨s, hs, hrounds⟩ := Option.map_eq_some_iff.mp hrun
  have hadv := (h c _ _ s List.prefix_rfl hs).advance ⟨10, 5, 5⟩ (by rw [hrounds]; simp)
  exact absurd hadv (by decide)

end Rounds

end Timer
