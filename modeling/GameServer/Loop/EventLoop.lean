import Mathlib.Algebra.Group.Nat.Defs
import GameServer.Lib.Run

/-!
# The event loop and its wakeups

The thread of a loop sleeps in `poll` until a descriptor is readable. Other threads leave
functors for it under a lock and then write to the eventfd; the thread takes all functors
at once after it has handled the events of a round.

`queued`, `finished`, `early` and `rounds` record what was left for the loop and what
became of it. They are read by no function of the loop.
-/

namespace Loop

/-- A functor, by its number. What it does are the steps of the loop's thread while it runs. -/
abbrev Func := Nat

/-- Where the thread of the loop is. -/
inductive Place where
  | outside
  | checking
  | polling
  | handling
  | ending
  | running (last : Bool)
  deriving DecidableEq, Repr

/-- `signal` is the counter of the eventfd, and `owed` are the threads that have still to write to
it; `weakActive` is set while the eventfd is among the channels that are to be handled. -/
structure EventLoop where
  place : Place := .outside
  quit : Bool := false
  pendingFunc : List Func := []
  func : List Func := []
  current : Option Func := none
  signal : Nat := 0
  owed : Nat := 0
  weakActive : Bool := false
  queued : List Func := []
  finished : List Func := []
  early : List Func := []
  rounds : Nat := 0
  deriving DecidableEq, Repr

/-- The counter of an eventfd does not grow further; a write then fails. -/
def maxSignal : Nat := 2 ^ 64 - 2

inductive Label where
  | loop
  | check
  | poll (weak : Bool)
  | handleWeakup
  | swap
  | call
  | return
  | queueOwn (f : Func)
  | quitOwn
  | queue (f : Func)
  | quit (seen : Bool)
  | weakup
  | callWeakup
  deriving DecidableEq, Repr

namespace EventLoop

variable (s : EventLoop)

/-- The thread of the loop runs code that is not the loop's. -/
def idle : Bool :=
  match s.place with
  | .outside | .handling => true
  | .running _ => s.current.isSome
  | _ => false

/-- `write` to the eventfd. -/
def write : EventLoop := { s with signal := min (s.signal + 1) maxSignal }

/-- The half of `queueInLoop` under the lock. -/
def push (f : Func) : EventLoop :=
  { s with pendingFunc := s.pendingFunc ++ [f], queued := s.queued ++ [f] }

/-- `queueInLoop` on the thread of the loop. It writes while functors run, which is when
`callingPendingFunc_` is set; nothing that other threads do depends on the moment between. -/
def queueOwn (f : Func) : EventLoop :=
  match s.place with
  | .running _ => (s.push f).write
  | .outside => { s.push f with early := s.early ++ [f] }
  | _ => s.push f

def step : Label → Option EventLoop
  | .loop => if s.place = .outside then some { s with place := .checking, quit := false } else none
  | .check =>
    if s.place = .checking then
      some { s with place := if s.quit then .ending else .polling }
    else none
  -- `epoll_wait` without a timeout; it also returns for other descriptors and for a signal
  | .poll weak =>
    if s.place = .polling ∧ (weak → 0 < s.signal) then
      some { s with place := .handling, weakActive := weak }
    else none
  | .handleWeakup =>
    if s.place = .handling ∧ s.weakActive then some { s with weakActive := false, signal := 0 }
    else none
  | .swap =>
    if s.place = .handling ∧ !s.weakActive ∨ s.place = .ending then
      some
        { s with
          place := .running (s.place = .ending)
          func := s.pendingFunc
          pendingFunc := []
          early := [] }
    else none
  | .call =>
    match s.place, s.current, s.func with
    | .running _, none, f :: rest => some { s with current := some f, func := rest }
    | _, _, _ => none
  | .return =>
    match s.place, s.current, s.func with
    | .running _, some f, _ => some { s with current := none, finished := s.finished ++ [f] }
    | .running last, none, [] =>
      some { s with place := if last then .outside else .checking, rounds := s.rounds + 1 }
    | _, _, _ => none
  | .queueOwn f => if s.idle then some (s.queueOwn f) else none
  | .quitOwn => if s.idle then some { s with quit := true } else none
  | .queue f => some { s.push f with owed := s.owed + 1 }
  -- a caller of `quit` that has seen the flag set returns
  | .quit seen =>
    if seen ∧ s.quit then some s else some { s with quit := true, owed := s.owed + 1 }
  -- the end of `queueInLoop` or `quit`
  | .weakup => if 0 < s.owed then some { s.write with owed := s.owed - 1 } else none
  -- `weakup` is public: any thread may call it at any time
  | .callWeakup => some s.write

/-- A call of `quit` by the thread of the loop writes nothing: it is not in `poll`. A functor that
the thread leaves for itself before `loop` is one that nothing announces. -/
structure Sane : Prop where
  order : s.queued = s.finished ++ s.current.toList ++ s.func ++ s.pendingFunc
  awake : s.place ≠ .handling → s.signal = 0 → s.owed = 0 → s.pendingFunc = s.early
  asked : s.place = .polling → s.quit = true → s.signal = 0 → 0 < s.owed
  noFunc : (∀ last, s.place ≠ .running last) → s.func = [] ∧ s.current = none

variable {s}

theorem sane_init : Sane {} where
  order := rfl
  awake := fun _ _ _ => rfl
  asked := fun h => by cases h
  noFunc := fun _ => ⟨rfl, rfl⟩

theorem write_signal_pos (s : EventLoop) : 0 < s.write.signal := by
  simp only [write, maxSignal]
  omega

/-- Another thread may do this at any time. -/
theorem Sane.push_owed (h : Sane s) (f : Func) : Sane { s.push f with owed := s.owed + 1 } where
  order := by
    simp only [push, h.order]
    simp
  awake := fun _ _ howed => absurd howed (Nat.succ_ne_zero _)
  asked := fun _ _ _ => Nat.succ_pos _
  noFunc := h.noFunc

theorem Sane.queueOwn (h : Sane s) (hidle : s.idle = true) (f : Func) : Sane (s.queueOwn f) := by
  have horder : s.queued ++ [f] =
      s.finished ++ s.current.toList ++ s.func ++ (s.pendingFunc ++ [f]) := by
    rw [h.order]
    simp
  cases hplace : s.place with
  | running last =>
    have heq : s.queueOwn f = (s.push f).write := by simp only [EventLoop.queueOwn, hplace]
    rw [heq]
    have hpos := write_signal_pos (s.push f)
    exact
      { order := horder
        awake := fun _ hsignal _ => absurd hsignal (Nat.ne_of_gt hpos)
        asked := fun hpoll => by
          have : s.place = .polling := hpoll
          rw [hplace] at this
          cases this
        noFunc := fun hno => absurd hplace (hno last) }
  | outside =>
    have heq : s.queueOwn f = { s.push f with early := s.early ++ [f] } := by
      simp only [EventLoop.queueOwn, hplace]
    rw [heq]
    exact
      { order := horder
        awake := fun hnot hsignal howed =>
          congrArg (· ++ [f]) (h.awake (by rw [hplace]; exact nofun) hsignal howed)
        asked := h.asked
        noFunc := h.noFunc }
  | handling =>
    have heq : s.queueOwn f = s.push f := by simp only [EventLoop.queueOwn, hplace]
    rw [heq]
    exact
      { order := horder
        awake := fun hnot => absurd hplace hnot
        asked := h.asked
        noFunc := h.noFunc }
  | checking | polling | ending => simp [idle, hplace] at hidle

theorem Sane.quitOwn (h : Sane s) (hidle : s.idle = true) : Sane { s with quit := true } where
  order := h.order
  awake := h.awake
  asked := fun hpoll => by
    have : s.place = .polling := hpoll
    simp [idle, this] at hidle
  noFunc := h.noFunc

/-- After a write the eventfd is readable, whoever has written. -/
theorem Sane.write (h : Sane s) (owed : Nat) : Sane { s.write with owed } :=
  have hpos := write_signal_pos s
  { order := h.order
    awake := fun _ hsignal _ => absurd hsignal (Nat.ne_of_gt hpos)
    asked := fun _ _ hsignal => absurd hsignal (Nat.ne_of_gt hpos)
    noFunc := h.noFunc }

theorem Sane.swap (h : Sane s) (last : Bool) (hplace : ∀ last, s.place ≠ .running last) :
    Sane
      { s with
        place := .running last
        func := s.pendingFunc
        pendingFunc := []
        early := [] } where
  order := by
    obtain ⟨hfunc, hcurrent⟩ := h.noFunc hplace
    simp only [h.order, hfunc, hcurrent]
    simp
  awake := fun _ _ _ => rfl
  asked := nofun
  noFunc := fun hno => absurd rfl (hno last)

theorem sane_step {l : Label} {t : EventLoop} (h : Sane s) (ht : s.step l = some t) : Sane t := by
  cases l with
  | loop =>
    obtain ⟨hplace, heq⟩ := Option.ite_none_right_eq_some.mp ht
    cases heq
    have hquiet := h.awake (by rw [hplace]; exact nofun)
    exact { h with
      awake := fun _ => hquiet
      asked := nofun
      noFunc := fun _ => h.noFunc (by simp [hplace]) }
  | check =>
    obtain ⟨hplace, heq⟩ := Option.ite_none_right_eq_some.mp ht
    cases heq
    have hquiet := h.awake (by rw [hplace]; exact nofun)
    refine { h with
      awake := fun _ => hquiet
      asked := ?_
      noFunc := fun _ => h.noFunc (by simp [hplace]) }
    intro hpoll hquit
    have hquit' : s.quit = true := hquit
    simp [hquit'] at hpoll
  | poll weak =>
    obtain ⟨⟨hplace, -⟩, heq⟩ := Option.ite_none_right_eq_some.mp ht
    cases heq
    exact { h with
      awake := fun hnot => absurd rfl hnot
      asked := nofun
      noFunc := fun _ => h.noFunc (by simp [hplace]) }
  | handleWeakup =>
    obtain ⟨⟨hplace, -⟩, heq⟩ := Option.ite_none_right_eq_some.mp ht
    cases heq
    exact { h with
      awake := fun hnot => absurd hplace hnot
      asked := fun hpoll => by
        have hpoll' : s.place = .polling := hpoll
        rw [hplace] at hpoll'
        cases hpoll' }
  | swap =>
    obtain ⟨hplace, heq⟩ := Option.ite_none_right_eq_some.mp ht
    cases heq
    refine h.swap _ fun last hrunning => ?_
    simp [hrunning] at hplace
  | call =>
    dsimp only [step] at ht
    split at ht
    · rename_i last f rest hplace hcurrent hfunc
      cases ht
      exact
        { order := by
            simp only [h.order, hcurrent, hfunc]
            simp
          awake := h.awake
          asked := h.asked
          noFunc := fun hno => absurd hplace (hno last) }
    · cases ht
  | «return» =>
    dsimp only [step] at ht
    split at ht
    · rename_i last f hplace hcurrent
      cases ht
      exact
        { order := by
            simp only [h.order, hcurrent]
            simp
          awake := h.awake
          asked := h.asked
          noFunc := fun hno => absurd hplace (hno last) }
    · rename_i last hplace hcurrent hfunc
      cases ht
      have hquiet := h.awake (by rw [hplace]; exact nofun)
      refine { h with
        awake := fun _ => hquiet
        asked := ?_
        noFunc := fun _ => ⟨hfunc, hcurrent⟩ }
      intro hpoll
      cases last <;> cases hpoll
    · cases ht
  | queueOwn f =>
    obtain ⟨hidle, heq⟩ := Option.ite_none_right_eq_some.mp ht
    cases heq
    exact h.queueOwn hidle f
  | quitOwn =>
    obtain ⟨hidle, heq⟩ := Option.ite_none_right_eq_some.mp ht
    cases heq
    exact h.quitOwn hidle
  | queue f =>
    cases ht
    exact h.push_owed f
  | quit seen =>
    dsimp only [step] at ht
    split at ht
    · cases ht
      exact h
    · cases ht
      exact { h with
        awake := fun _ _ howed => absurd howed (Nat.succ_ne_zero _)
        asked := fun _ _ _ => Nat.succ_pos _ }
  | weakup =>
    obtain ⟨-, heq⟩ := Option.ite_none_right_eq_some.mp ht
    cases heq
    exact h.write _
  | callWeakup =>
    cases ht
    exact h.write s.owed

theorem sane_exec {ls : List Label} {t : EventLoop} (h : Sane s)
    (ht : Run.exec step s ls = some t) : Sane t :=
  Run.exec_invariant Sane (fun _ _ _ hs hst => sane_step hs hst) h ht

section Rounds

variable {Q : List Func} {r : Nat} {t : EventLoop} {l : Label}

/-- How far the functors `Q` have come, which were queued when `r` rounds had ended: the round
that begins after the next end takes them out, and they are run when it ends. -/
structure Follows (Q : List Func) (r : Nat) (s : EventLoop) : Prop where
  known : Q <+: s.queued
  later : r ≤ s.rounds
  taken : r < s.rounds → ∀ last, s.place = .running last →
    Q <+: s.finished ++ s.current.toList ++ s.func
  ran : r + 1 < s.rounds → Q <+: s.finished

/-- What other threads do, and what code on the loop's thread leaves for later. -/
theorem Follows.more (h : Follows Q r s) (hqueued : s.queued <+: t.queued)
    (hrounds : t.rounds = s.rounds)
    (hplace : t.place = s.place ∨ ∀ last, t.place ≠ .running last)
    (hbatch : t.finished ++ t.current.toList ++ t.func =
      s.finished ++ s.current.toList ++ s.func) (hfinished : s.finished <+: t.finished) :
    Follows Q r t where
  known := h.known.trans hqueued
  later := hrounds ▸ h.later
  taken hlater last hrunning := by
    rcases hplace with hplace | hplace
    · rw [hbatch]
      exact h.taken (hrounds ▸ hlater) last (hplace ▸ hrunning)
    · exact absurd hrunning (hplace last)
  ran hlater := (h.ran (hrounds ▸ hlater)).trans hfinished

theorem Follows.quiet (h : Follows Q r s) (hqueued : s.queued <+: t.queued)
    (hrounds : t.rounds = s.rounds)
    (hplace : t.place = s.place ∨ ∀ last, t.place ≠ .running last)
    (hfunc : t.func = s.func) (hcurrent : t.current = s.current)
    (hfinished : t.finished = s.finished) : Follows Q r t :=
  h.more hqueued hrounds hplace (by rw [hfunc, hcurrent, hfinished])
    (hfinished ▸ List.prefix_refl _)

theorem queueOwn_rest (s : EventLoop) (f : Func) :
    (s.queueOwn f).queued = s.queued ++ [f] ∧ (s.queueOwn f).rounds = s.rounds ∧
      (s.queueOwn f).place = s.place ∧ (s.queueOwn f).func = s.func ∧
      (s.queueOwn f).current = s.current ∧ (s.queueOwn f).finished = s.finished := by
  unfold queueOwn
  split <;> exact ⟨rfl, rfl, rfl, rfl, rfl, rfl⟩

theorem follows_step (hs : Sane s) (h : Follows Q r s) (ht : s.step l = some t) :
    Follows Q r t := by
  cases l with
  | loop =>
    obtain ⟨-, heq⟩ := Option.ite_none_right_eq_some.mp ht
    cases heq
    exact h.quiet (List.prefix_refl _) rfl (.inr nofun) rfl rfl rfl
  | check =>
    obtain ⟨-, heq⟩ := Option.ite_none_right_eq_some.mp ht
    cases heq
    refine h.quiet (List.prefix_refl _) rfl (.inr fun last hrunning => ?_) rfl rfl rfl
    cases hquit : s.quit <;> simp [hquit] at hrunning
  | poll weak =>
    obtain ⟨-, heq⟩ := Option.ite_none_right_eq_some.mp ht
    cases heq
    exact h.quiet (List.prefix_refl _) rfl (.inr nofun) rfl rfl rfl
  | handleWeakup =>
    obtain ⟨-, heq⟩ := Option.ite_none_right_eq_some.mp ht
    cases heq
    exact h.quiet (List.prefix_refl _) rfl (.inl rfl) rfl rfl rfl
  | swap =>
    obtain ⟨hplace, heq⟩ := Option.ite_none_right_eq_some.mp ht
    cases heq
    obtain ⟨hfunc, hcurrent⟩ := hs.noFunc fun last hrunning => by simp [hrunning] at hplace
    refine ⟨h.known, h.later, fun _ last _ => ?_, h.ran⟩
    have horder := hs.order
    rw [hfunc, List.append_nil] at horder
    exact horder ▸ h.known
  | call =>
    dsimp only [step] at ht
    split at ht
    · rename_i last f rest hplace hcurrent hfunc
      cases ht
      exact h.more (List.prefix_refl _) rfl (.inl rfl) (by simp [hcurrent, hfunc])
        (List.prefix_refl _)
    · cases ht
  | «return» =>
    dsimp only [step] at ht
    split at ht
    · rename_i last f hplace hcurrent
      cases ht
      exact h.more (List.prefix_refl _) rfl (.inl rfl) (by simp [hcurrent])
        (List.prefix_append _ _)
    · rename_i last hplace hcurrent hfunc
      cases ht
      have hend : s.finished = s.finished ++ s.current.toList ++ s.func := by simp [hcurrent, hfunc]
      refine ⟨h.known, Nat.le_succ_of_le h.later, fun _ k hrunning => ?_, fun hlater => ?_⟩
      · cases last <;> cases hrunning
      · change Q <+: s.finished
        rw [hend]
        exact h.taken (Nat.lt_of_succ_lt_succ hlater) last hplace
    · cases ht
  | queueOwn f =>
    obtain ⟨-, heq⟩ := Option.ite_none_right_eq_some.mp ht
    cases heq
    obtain ⟨hqueued, hrounds, hplace, hfunc, hcurrent, hfinished⟩ := s.queueOwn_rest f
    exact h.quiet (hqueued ▸ List.prefix_append _ _) hrounds (.inl hplace) hfunc hcurrent
      hfinished
  | quitOwn =>
    obtain ⟨-, heq⟩ := Option.ite_none_right_eq_some.mp ht
    cases heq
    exact h.quiet (List.prefix_refl _) rfl (.inl rfl) rfl rfl rfl
  | queue f =>
    cases ht
    exact h.quiet (List.prefix_append _ _) rfl (.inl rfl) rfl rfl rfl
  | quit seen =>
    dsimp only [step] at ht
    split at ht
    · cases ht
      exact h
    · cases ht
      exact h.quiet (List.prefix_refl _) rfl (.inl rfl) rfl rfl rfl
  | weakup =>
    obtain ⟨-, heq⟩ := Option.ite_none_right_eq_some.mp ht
    cases heq
    exact h.quiet (List.prefix_refl _) rfl (.inl rfl) rfl rfl rfl
  | callWeakup =>
    cases ht
    exact h.quiet (List.prefix_refl _) rfl (.inl rfl) rfl rfl rfl

theorem follows_exec {ls : List Label} (hs : Sane s) (ht : Run.exec step s ls = some t) :
    Follows s.queued s.rounds t := by
  have hfirst : Follows s.queued s.rounds s :=
    ⟨List.prefix_refl _, Nat.le_refl _, fun hlater => absurd hlater (Nat.lt_irrefl _),
      fun hlater => by omega⟩
  exact (Run.exec_invariant (fun u => Sane u ∧ Follows s.queued s.rounds u)
    (fun _ _ _ hu hst => ⟨sane_step hu.1 hst, follows_step hu.1 hu.2 hst⟩)
    ⟨hs, hfirst⟩ ht).2

end Rounds

section Service

/-- The steps of the loop itself: no thread leaves a functor, asks to quit or has to write. -/
def isLoop : Label → Bool
  | .check | .poll _ | .handleWeakup | .swap | .call | .return => true
  | _ => false

/-- The loop's own steps lead from one state to the other. -/
abbrev Leads (s t : EventLoop) : Prop := Run.Leads step isLoop s t

/-- A round that has taken its functors out ends. -/
theorem leads_end (last : Bool) : ∀ (func : List Func) (s : EventLoop), s.func = func →
    s.place = .running last →
    Leads s
      { s with
        place := if last then .outside else .checking
        func := []
        current := none
        finished := s.finished ++ s.current.toList ++ func
        rounds := s.rounds + 1 } := by
  intro func
  induction func with
  | nil =>
    intro s hfunc hplace
    cases hcurrent : s.current with
    | none =>
      refine .head (l := .return) rfl ?_ (.refl _)
      simp [step, hplace, hcurrent, hfunc]
    | some f =>
      refine .head (l := .return) (t := { s with current := none, finished := s.finished ++ [f] })
        rfl ?_ (.head (l := .return) rfl ?_ (.refl _))
      · simp [step, hplace, hcurrent]
      · simp [step, hplace, hfunc]
  | cons g rest ih =>
    intro s hfunc hplace
    have hcall : ∀ u : EventLoop, u.func = g :: rest → u.place = .running last →
        u.current = none →
        Leads u
          { u with
            place := if last then .outside else .checking
            func := []
            current := none
            finished := u.finished ++ g :: rest
            rounds := u.rounds + 1 } := by
      intro u hfunc hplace hcurrent
      have hst : u.step .call = some { u with current := some g, func := rest } := by
        simp [step, hplace, hcurrent, hfunc]
      have hrest := ih { u with current := some g, func := rest } rfl hplace
      simp only [Option.toList_some, List.append_assoc, List.singleton_append] at hrest
      exact .head rfl hst hrest
    cases hcurrent : s.current with
    | none => simpa using hcall s hfunc hplace hcurrent
    | some f =>
      have hst : s.step .return =
          some { s with current := none, finished := s.finished ++ [f] } := by
        simp [step, hplace, hcurrent]
      have hrest := hcall { s with current := none, finished := s.finished ++ [f] } hfunc hplace rfl
      refine .head rfl hst ?_
      simpa using hrest

/-- A round whose events were handled, or the one after the loop, runs everything. -/
theorem leads_swap (h : Sane s)
    (hplace : s.place = .handling ∧ s.weakActive = false ∨ s.place = .ending) :
    ∃ t, Leads s t ∧ t.finished = s.queued := by
  have hst : s.step .swap = some
      { s with
        place := .running (s.place = .ending)
        func := s.pendingFunc
        pendingFunc := []
        early := [] } := by
    rw [step, if_pos]
    simpa using hplace
  obtain ⟨hfunc, hcurrent⟩ := h.noFunc fun last hrunning => by simp [hrunning] at hplace
  refine ⟨_, .head rfl hst (leads_end _ _ _ rfl rfl), ?_⟩
  simp [h.order, hfunc, hcurrent]

theorem leads_handling (h : Sane s) (hplace : s.place = .handling) :
    ∃ t, Leads s t ∧ t.finished = s.queued := by
  cases hweak : s.weakActive with
  | false => exact leads_swap h (.inl ⟨hplace, hweak⟩)
  | true =>
    have hst : s.step .handleWeakup = some { s with weakActive := false, signal := 0 } := by
      simp [step, hplace, hweak]
    obtain ⟨t, ht, hfinished⟩ := leads_swap (sane_step h hst) (.inl ⟨hplace, rfl⟩)
    exact ⟨t, .head rfl hst ht, hfinished⟩

/-- The loop that sleeps is woken, or there is nothing to do. -/
theorem leads_polling (h : Sane s) (hplace : s.place = .polling) (howed : s.owed = 0)
    (hearly : s.early = []) : ∃ t, Leads s t ∧ t.finished = s.queued := by
  by_cases hsignal : s.signal = 0
  · refine ⟨s, .refl s, ?_⟩
    have hpending := h.awake (by rw [hplace]; exact nofun) hsignal howed
    obtain ⟨hfunc, hcurrent⟩ := h.noFunc fun last => by rw [hplace]; exact nofun
    rw [h.order, hpending, hearly, hfunc, hcurrent]
    simp
  · have hst : s.step (.poll true) = some { s with place := .handling, weakActive := true } := by
      simp [step, hplace, Nat.pos_of_ne_zero hsignal]
    obtain ⟨t, ht, hfinished⟩ := leads_handling (sane_step h hst) rfl
    exact ⟨t, .head rfl hst ht, hfinished⟩

theorem leads_checking (h : Sane s) (hplace : s.place = .checking) (howed : s.owed = 0)
    (hearly : s.early = []) : ∃ t, Leads s t ∧ t.finished = s.queued := by
  have hst : s.step .check = some { s with place := if s.quit then .ending else .polling } :=
    if_pos hplace
  have hnext : ∃ t, Leads { s with place := if s.quit then .ending else .polling } t ∧
      t.finished = s.queued := by
    have hsane := sane_step h hst
    cases hquit : s.quit with
    | false =>
      simp only [hquit] at hsane
      exact leads_polling hsane rfl howed hearly
    | true =>
      simp only [hquit] at hsane
      exact leads_swap hsane (.inr rfl)
  obtain ⟨t, ht, hfinished⟩ := hnext
  exact ⟨t, .head rfl hst ht, hfinished⟩

theorem leads_finished (h : Sane s) (houtside : s.place ≠ .outside)
    (hlast : s.place ≠ .running true) (howed : s.owed = 0) (hearly : s.early = []) :
    ∃ t, Leads s t ∧ t.finished = s.queued := by
  cases hplace : s.place with
  | outside => exact absurd hplace houtside
  | checking => exact leads_checking h hplace howed hearly
  | polling => exact leads_polling h hplace howed hearly
  | handling => exact leads_handling h hplace
  | ending => exact leads_swap h (.inr hplace)
  | running last =>
    cases last with
    | true => exact absurd hplace hlast
    | false =>
      have hend := leads_end false s.func s rfl hplace
      have hsane := hend.invariant (I := Sane) (fun _ _ _ hs hst => sane_step hs hst) h
      obtain ⟨t, ht, hfinished⟩ := leads_checking hsane rfl howed hearly
      exact ⟨t, hend.trans ht, hfinished⟩

end Service

/-- Whatever the threads do, what was left for the loop is run once, in the order in which it was
left, and at the latest by the second end of a round. -/
theorem queued_run_in_order {ls : List Label} (h : Run.exec step {} ls = some s) :
    s.queued = s.finished ++ s.current.toList ++ s.func ++ s.pendingFunc ∧
      ∀ ms t, Run.exec step s ms = some t → s.rounds + 2 ≤ t.rounds →
        s.queued <+: t.finished := by
  have hs := sane_exec sane_init h
  exact ⟨hs.order, fun ms t ht hrounds => (follows_exec hs ht).ran hrounds⟩

/-- The loop does not sleep on work. If it sleeps and nothing is about to wake it, then nobody has
asked it to quit, and all that waits was left by its own thread before the loop. In every other
state of the loop its own steps, without any other thread, come to a state where all was run; the
functors that are left while the last ones run are the exception. -/
theorem never_sleeps_on_work {ls : List Label} (h : Run.exec step {} ls = some s) :
    (s.place = .polling → s.signal = 0 → s.owed = 0 →
      s.pendingFunc = s.early ∧ s.quit = false) ∧
    (s.place ≠ .outside → s.place ≠ .running true → s.owed = 0 → s.early = [] →
      ∃ t, Leads s t ∧ t.finished = s.queued) := by
  have hs := sane_exec sane_init h
  refine ⟨fun hplace hsignal howed => ⟨?_, ?_⟩, leads_finished hs⟩
  · exact hs.awake (by rw [hplace]; exact nofun) hsignal howed
  · cases hquit : s.quit with
    | false => rfl
    | true => exact absurd howed (Nat.ne_of_gt (hs.asked hplace hquit hsignal))

section Examples

/-- Two functors, one of them left by the other, and the wakeups that they take. -/
def woken : List Label :=
  [.loop, .check, .queue 1, .weakup, .poll true, .handleWeakup, .swap, .call, .queueOwn 2, .return,
    .return, .check, .poll true, .handleWeakup, .swap, .call, .return, .return, .check]

def atRest : EventLoop :=
  { place := .polling, queued := [1, 2], finished := [1, 2], rounds := 2 }

theorem queued_run_in_order_woken :
    Run.exec step {} woken = some atRest ∧
      atRest.queued = atRest.finished ++ atRest.current.toList ++ atRest.func ++
        atRest.pendingFunc := by
  have hrun : Run.exec step {} woken = some atRest := by decide
  exact ⟨hrun, (queued_run_in_order hrun).1⟩

theorem never_sleeps_on_work_woken :
    Run.exec step {} woken = some atRest ∧ atRest.pendingFunc = atRest.early ∧
      atRest.quit = false := by
  have hrun : Run.exec step {} woken = some atRest := by decide
  exact ⟨hrun, (never_sleeps_on_work hrun).1 rfl rfl rfl⟩

/-- A functor that the loop's thread leaves before the loop waits for a wakeup: that of another
thread, or its own call of `weakup`. -/
example : ∃ s, Run.exec step {} [.queueOwn 1, .loop, .check] = some s ∧ s.place = .polling ∧
    s.pendingFunc = [1] ∧ s.step (.poll true) = none := ⟨_, rfl, rfl, rfl, rfl⟩

example : ∃ s, Run.exec step {} [.queueOwn 1, .callWeakup, .loop, .check, .poll true, .handleWeakup,
    .swap, .call, .return, .return] = some s ∧ s.finished = [1] := ⟨_, rfl, rfl⟩

/-- A call of `quit` from before the loop is lost, and so is its wakeup. -/
example : ∃ s, Run.exec step {} [.quit false, .weakup, .loop, .check, .poll true, .handleWeakup,
    .swap, .return, .check] = some s ∧ s.place = .polling ∧ s.quit = false :=
  ⟨_, rfl, rfl, rfl⟩

end Examples

end EventLoop

end Loop
