import GameServer.Lib.Run
import GameServer.Net.PlayerStreams
import GameServer.Scene.BindingMirror

/-!
# The bindings of a scene

The network thread of a scene decides about the bindings of players and passes them on; the
workers replay them later, between all their other work. When nothing is under way any more, the
worker of a player has what the index of the network thread says.
-/

namespace Zone

open Gateway (ClientData)
open Net (NetConfig NetServer NetLabel GatewayClientIndex)
open Scene (Env LogicThread SceneWorker)

/-- The network thread and the workers. -/
structure SceneServer where
  net : NetServer := {}
  workers : Nat → SceneWorker

inductive SceneLabel where
  | net (l : NetLabel)
  | take (worker : Nat) (env : Env)
  | work (worker : Nat) (l : Env × LogicThread.Label)

namespace SceneServer

variable (c : NetConfig) (s : SceneServer)

def init (enabled : Bool) : SceneServer where
  workers := fun _ => { thread := .started enabled }

def put (worker : Nat) (w : SceneWorker) : SceneServer :=
  { s with workers := Function.update s.workers worker w }

/-- A worker takes the next message of its queue. -/
def take (worker : Nat) (env : Env) : Option SceneServer :=
  if worker < c.pending.workers then
    ((s.net.handed worker)[(s.workers worker).taken]?).bind fun m =>
      ((s.workers worker).take env m).map (s.put worker)
  else none

/-- Messages about bindings come from the queue only, and no thread is told to stop. -/
def work (worker : Nat) (l : Env × LogicThread.Label) : Option SceneServer :=
  if SceneWorker.isWork l.2 then ((s.workers worker).work l).map (s.put worker) else none

def step : SceneLabel → Option SceneServer
  | .net l => (s.net.step c l).map fun net => { s with net }
  | .take worker env => s.take c worker env
  | .work worker l => s.work worker l

/-- The worker of a player has taken all that there was for it. -/
def Settled (k : Nat) : Prop :=
  let worker := NetServer.workerOf c k
  s.net.waiting worker = [] ∧ (s.workers worker).taken = (s.net.handed worker).length

instance (k : Nat) : Decidable (s.Settled c k) := inferInstanceAs (Decidable (_ ∧ _))

/-- What the index says of a player and what its worker has of it are the same, except for an
actor that was not released, and for a load that there was no room for. -/
structure Agree (i : GatewayClientIndex) (w : SceneWorker) (k : Nat) : Prop where
  bound : ∀ session d, (w.standing k).refused = false → (w.standing k).full = false →
    (i.Matches session d ∧ d.playerId = k ∧ (w.standing k).loggedOut = false ↔
      (w.thread.life k).Holds session d)
  unbound : i.connectionByPlayer.lookup k = none → (w.standing k).refused = false →
    (w.thread.life k).Bare
  refused : (w.standing k).refused = true → i.connectionByPlayer.lookup k = none
  full : ∀ session d, d.playerId = k → i.Matches session d → (w.standing k).loggedOut = false →
    (w.thread.life k).Holds session d ∨ (w.standing k).full = true ∧ (w.thread.life k).Bare

/-- Each worker follows what its queue was handed. -/
structure InStep (c : NetConfig) (enabled : Bool) (s : SceneServer) : Prop where
  net : NetServer.Fine c s.net
  taken : ∀ w, (s.workers w).taken ≤ (s.net.handed w).length
  workers : ∀ w, (s.workers w).Follows enabled ((s.net.handed w).take (s.workers w).taken)

variable {c s} {enabled : Bool} {t : SceneServer}

theorem inStep_init (c : NetConfig) (enabled : Bool) : InStep c enabled (init enabled) where
  net := NetServer.fine_init c
  taken := fun _ => Nat.zero_le _
  workers := fun _ => SceneWorker.follows_init enabled

theorem InStep.put (h : InStep c enabled s) {worker : Nat} {w : SceneWorker}
    (htaken : w.taken ≤ (s.net.handed worker).length)
    (hw : w.Follows enabled ((s.net.handed worker).take w.taken)) :
    InStep c enabled (s.put worker w) := by
  refine ⟨h.net, fun v => ?_, fun v => ?_⟩
  · by_cases heq : v = worker
    · subst heq
      simpa [SceneServer.put] using htaken
    · simpa [SceneServer.put, Function.update_of_ne heq] using h.taken v
  · by_cases heq : v = worker
    · subst heq
      simpa [SceneServer.put] using hw
    · simpa [SceneServer.put, Function.update_of_ne heq] using h.workers v

theorem inStep_step {l : SceneLabel} (h : InStep c enabled s) (ht : s.step c l = some t) :
    InStep c enabled t := by
  cases l with
  | net l =>
    obtain ⟨net, hnet, rfl⟩ := Option.map_eq_some_iff.mp ht
    have hgrows : ∀ w, s.net.handed w <+: net.handed w :=
      h.net.handed_grows (NetServer.grows_step hnet)
    refine ⟨NetServer.fine_step h.net hnet, fun w => ?_, fun w => ?_⟩
    · exact Nat.le_trans (h.taken w) (hgrows w).length_le
    · obtain ⟨ms, hms⟩ := hgrows w
      dsimp only
      rw [← hms, List.take_append_of_le_length (h.taken w)]
      exact h.workers w
  | take worker env =>
    obtain ⟨hworker, ht⟩ := Option.ite_none_right_eq_some.mp ht
    obtain ⟨m, hm, ht⟩ := Option.bind_eq_some_iff.mp ht
    obtain ⟨w, hw, rfl⟩ := Option.map_eq_some_iff.mp ht
    obtain ⟨hlt, rfl⟩ := List.getElem?_eq_some_iff.mp hm
    have htaken := SceneWorker.take_taken hw
    have hlawful := (Keyed.lawful_append.mp (h.net.streams.lawful worker hworker)).1
    rw [← List.take_append_drop ((s.workers worker).taken + 1) (s.net.handed worker),
      List.take_succ_eq_append_getElem hlt] at hlawful
    have hallows := (Keyed.lawful_snoc.mp (Keyed.lawful_append.mp hlawful).1).2
    have hfollows := (h.workers worker).take hallows hw
    refine h.put (htaken ▸ hlt) ?_
    rw [htaken, List.take_succ_eq_append_getElem hlt]
    exact hfollows
  | work worker l =>
    obtain ⟨hl, ht⟩ := Option.ite_none_right_eq_some.mp ht
    obtain ⟨w, hw, rfl⟩ := Option.map_eq_some_iff.mp ht
    have htaken := SceneWorker.work_taken hw
    have hfollows := (h.workers worker).work hl hw
    refine h.put (htaken ▸ h.taken worker) ?_
    rw [htaken]
    exact hfollows

/-- A worker that follows all that the index decided agrees with it. -/
theorem InStep.agree (h : InStep c enabled s) {k : Nat} (hk : s.Settled c k) :
    Agree s.net.clients (s.workers (NetServer.workerOf c k)) k := by
  obtain ⟨hwaiting, htaken⟩ := hk
  have hfollows := h.workers (NetServer.workerOf c k)
  rw [htaken, List.take_length] at hfollows
  have hseat : ((s.workers (NetServer.workerOf c k)).standing k).seat = s.net.clients.seat k := by
    have hseats := h.net.streams.seats k
    rw [hwaiting, List.append_nil] at hseats
    exact (hfollows.seats k).trans hseats
  have hmirrors := hfollows.mirrors k
  have hrefusals := hfollows.refusals k
  have hsane := hfollows.sane.life k
  generalize s.workers (NetServer.workerOf c k) = w at hseat hmirrors hrefusals hsane ⊢
  have hroute : (w.standing k).seat.route = s.net.clients.connectionByPlayer.lookup k :=
    congrArg Net.Seat.route hseat
  have hmatches : ∀ session d, d.playerId = k →
      (s.net.clients.Matches session d ↔ (w.standing k).seat = ⟨some session, some d⟩) := by
    rintro session d rfl
    rw [GatewayClientIndex.matches_iff h.net.index, hseat, GatewayClientIndex.seat,
      Net.Seat.mk.injEq]
  refine
    { bound := fun session d hrefused hfull => ⟨?_, fun hholds => ?_⟩
      unbound := fun hnone => hmirrors.bare (hroute.trans hnone)
      refused := fun hrefused => hroute.symm.trans (hrefusals hrefused)
      full := fun session d hd hin => hmirrors.holds ((hmatches session d hd).mp hin) }
  · rintro ⟨hbound, hd, hin⟩
    refine (hmirrors.holds ((hmatches session d hd).mp hbound) hin).resolve_right fun hnone => ?_
    cases hfull.symm.trans hnone.1
  · obtain ⟨hbound, hin⟩ := hmirrors.of_holds hsane hholds hrefused
    have hlatest : s.net.clients.latest.lookup k = some d :=
      congrArg Net.Seat.latest (hseat.symm.trans hbound)
    have hd := (h.net.index.own k d hlatest).1
    exact ⟨(hmatches session d hd).mpr hbound, hd, hin⟩

/-- Whatever the gateways send and close, whatever the queues of the workers refuse, and whatever
the workers do in between: when the worker of a player has taken all that there was for it, the
index and the worker agree about the player, and the maps of the index agree at any time. -/
theorem bindings_mirrored (c : NetConfig) (enabled : Bool) {ls : List SceneLabel}
    (h : Run.exec (step c) (init enabled) ls = some s) :
    s.net.clients.Consistent ∧
      ∀ k, s.Settled c k → Agree s.net.clients (s.workers (NetServer.workerOf c k)) k := by
  have hstep := Run.exec_invariant (InStep c enabled) (fun _ _ _ hs ht => inStep_step hs ht)
    (inStep_init c enabled) h
  exact ⟨hstep.net.index, fun k hk => hstep.agree hk⟩

/-- A player comes online past a full queue, and its load begins. -/
def comesOnline : List SceneLabel :=
  let worker := NetServer.workerOf NetServer.twoWorkers 7
  [.net (.connect ⟨false, 1, 0⟩),
    .net (.frame 1 { module := 200, method := 1, playerId := 7, srcServiceID := 1 }
      (Gateway.GatewayPlayer.pack ⟨7, 5, 1, 1, 1⟩ []) 10 fun _ => .kBackpressure),
    .net (.retry 20 fun _ _ _ => .kAccepted), .take worker LogicThread.willing,
    .work worker (LogicThread.willing, .advance)]

theorem bindings_mirrored_online :
    ∃ s, Run.exec (step NetServer.twoWorkers) (init true) comesOnline = some s ∧
      s.net.clients.Consistent ∧ s.net.clients.Matches 1 ⟨7, 5, 1, 1, 1⟩ ∧
      Agree s.net.clients (s.workers (NetServer.workerOf NetServer.twoWorkers 7)) 7 := by
  have hrun : (Run.exec (step NetServer.twoWorkers) (init true) comesOnline).any (fun s =>
      s.Settled NetServer.twoWorkers 7 ∧ s.net.clients.Matches 1 ⟨7, 5, 1, 1, 1⟩) = true := by
    decide +kernel
  obtain ⟨s, hs, hsettled⟩ := (Option.any_eq_true ..).mp hrun
  obtain ⟨hsettled, hmatches⟩ := of_decide_eq_true hsettled
  obtain ⟨hconsistent, hagree⟩ := bindings_mirrored NetServer.twoWorkers true hs
  exact ⟨s, hs, hconsistent, hmatches, hagree 7 hsettled⟩

end SceneServer

end Zone
