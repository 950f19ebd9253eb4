import GameServer.Net.PlayerStreams
import GameServer.Scene.OnlineSurvival

/-!
# What a worker makes of the messages about bindings

A worker of a scene takes the messages of its queue one by one; in between it does all its
other work. What it holds of a player follows the messages: an actor or a load of the
binding in force, except where the player has logged out since, or there was no room for its
load, and nothing where no binding is in force, except where the actor could not be released.

`standing` keeps for each player what the messages so far say and which of the exceptions came
about. No function of the thread reads it.
-/

namespace Scene

open Gateway (ClientData)
open Gateway.GatewayPlayer (kModule kOnline kOffline)
open Net (PlayerMsg Seat)
open PlayerPersistence (kMaxPlayers)

/-- Of the same gateway and scene, and of an earlier epoch. -/
def Earlier (e d : ClientData) : Prop :=
  e.gatewayId = d.gatewayId ∧ e.sceneId = d.sceneId ∧ e.clientEpoch < d.clientEpoch

theorem Earlier.trans {e d d' : ClientData} (h : Earlier e d) (h' : Earlier d d') : Earlier e d' :=
  ⟨h.1.trans h'.1, h.2.1.trans h'.2.1, h.2.2.trans h'.2.2⟩

theorem Earlier.ne {e d : ClientData} (h : Earlier e d) : e ≠ d := fun heq =>
  absurd h.2.2 (heq ▸ Nat.lt_irrefl _)

theorem outdatedBy_eq_false {e d : ClientData} :
    LogicThread.outdatedBy d e = false ↔ Earlier e d := by
  simp only [LogicThread.outdatedBy, Earlier, Bool.or_eq_false_iff, decide_eq_false_iff_not,
    not_not, Nat.not_le, and_assoc, eq_comm (a := d.gatewayId), eq_comm (a := d.sceneId)]

theorem outdatedBy_self (d : ClientData) : LogicThread.outdatedBy d d = true := by
  simp [LogicThread.outdatedBy]

/-- What the messages so far say of a player, whether it has logged out since its binding,
whether its actor could not be released, and whether the loads were full when its binding came. -/
structure Standing where
  seat : Seat := {}
  loggedOut : Bool := false
  refused : Bool := false
  full : Bool := false

namespace Standing

variable (st : Standing)

/-- A message about the binding has come. -/
def told (m : PlayerMsg) (atCapacity refused : Bool) : Standing :=
  if m.Method = kOnline then
    if st.seat = ⟨some m.session, some m.clientBinding⟩ then
      { st with full := st.full && atCapacity }
    else { seat := st.seat.step m, full := atCapacity }
  else { seat := st.seat.step m, refused }

/-- The latest binding, or one before it. -/
def Reached (e : ClientData) : Prop := ∃ d, st.seat.latest = some d ∧ (e = d ∨ Earlier e d)

end Standing

namespace Life

/-- There is nothing of the player. -/
def Bare (l : Life) : Prop := l.actor = none ∧ l.load = none

/-- There is an actor or a load of this session and binding. -/
def Holds (session : Nat) (d : ClientData) (l : Life) : Prop :=
  (∃ p, l.actor = some p ∧ p.session = session ∧ p.clientBinding = d) ∨
    ∃ state, l.load = some state ∧ state.session = session ∧ state.clientBinding = d

/-- Where a player can be, as the messages and the exceptions have it. -/
inductive Place (st : Standing) (l : Life) : Prop
  | unbound (hroute : st.seat.route = none) (hload : l.load = none)
      (hactor : st.refused = false → l.actor = none)
  | bound (session : Nat) (d : ClientData) (hseat : st.seat = ⟨some session, some d⟩)
      (hin : st.loggedOut = false) (hbound : l.Bound session d)
  | loggedOut (session : Nat) (d : ClientData) (hseat : st.seat = ⟨some session, some d⟩)
      (hout : st.loggedOut = true) (hbare : l.Bare) (hlatest : l.latest = some d)
  | full (session : Nat) (d : ClientData) (hseat : st.seat = ⟨some session, some d⟩)
      (hin : st.loggedOut = false) (hfull : st.full = true) (hbare : l.Bare)
      (hearlier : ∀ e, l.latest = some e → Earlier e d)

/-- The thread has a player as the messages and the exceptions have it. -/
structure Mirrors (st : Standing) (l : Life) : Prop where
  reached : ∀ e, l.latest = some e → st.Reached e
  current : ∀ p, l.actor = some p → l.latest = some p.clientBinding
  place : Place st l

theorem mirrors_empty : Mirrors {} {} where
  reached := nofun
  current := nofun
  place := .unbound rfl rfl fun _ => rfl

variable {enabled : Bool} {id : Nat} {l l' : Life} {st : Standing}

section Rounds

/-- What a round can make of the actor and its binding. -/
theorem Round.follows (h : Round enabled id l l') :
    (l'.latest = l.latest ∨ ∃ state, l.load = some state ∧ l'.latest = some state.clientBinding) ∧
    ∀ p', l'.actor = some p' → l'.latest = some p'.clientBinding ∨
      l'.latest = l.latest ∧ ∃ p, l.actor = some p ∧ p'.clientBinding = p.clientBinding := by
  cases h with
  | advanced h =>
    cases h with
    | idle => exact ⟨.inl rfl, fun p hp => .inr ⟨rfl, p, hp, rfl⟩⟩
    | failed => exact ⟨.inl rfl, fun p hp => .inr ⟨rfl, p, hp, rfl⟩⟩
    | created state epoch hload =>
      exact ⟨.inr ⟨state, hload, rfl⟩, fun p hp => .inl (by cases hp; rfl)⟩
    | submitted state epoch taskId body hload =>
      exact ⟨.inr ⟨state, hload, rfl⟩, fun p hp => .inl (by cases hp; rfl)⟩
  | flushed => exact ⟨.inl rfl, fun p hp => .inr ⟨rfl, p, hp, rfl⟩⟩
  | dispatched => exact ⟨.inl rfl, fun p hp => .inr ⟨rfl, p, hp, rfl⟩⟩
  | loadFailed => exact ⟨.inl rfl, fun p hp => .inr ⟨rfl, p, hp, rfl⟩⟩
  | loaded state p p' snapshot _ hactor _ _ hrestored =>
    refine ⟨.inl rfl, fun q hq => .inr ⟨rfl, p, hactor, ?_⟩⟩
    cases hq
    exact (p.restoreSaveSnapshot_binding hrestored).2
  | saveFailed => exact ⟨.inl rfl, fun p hp => .inr ⟨rfl, p, hp, rfl⟩⟩
  | saved r snapshot taskId result heard =>
    refine ⟨.inl rfl, fun q hq => .inr ⟨rfl, ?_⟩⟩
    change (if heard then l.actor.map (r.confirmActor result snapshot) else l.actor) = some q at hq
    split at hq
    · obtain ⟨p, hp, rfl⟩ := Option.map_eq_some_iff.mp hq
      exact ⟨p, hp, (r.confirmActor_binding result snapshot p).2⟩
    · exact ⟨q, hq, rfl⟩
  | mutated p op hactor =>
    refine ⟨.inl rfl, fun q hq => .inr ⟨rfl, p, hactor, ?_⟩⟩
    cases hq
    exact (Player.played_apply (p := p) op).clientBinding

theorem Round.actor_none (h : Round enabled id l l') (hload : l.load = none)
    (hactor : l.actor = none) : l'.actor = none := by
  cases h with
  | advanced h =>
    cases h with
    | idle => exact hactor
    | failed => exact hactor
    | created state epoch hload' => cases hload.symm.trans hload'
    | submitted state epoch taskId body hload' => cases hload.symm.trans hload'
  | flushed => exact hactor
  | dispatched => exact hactor
  | loadFailed => exact hactor
  | loaded state p p' snapshot hload' => cases hload.symm.trans hload'
  | saveFailed => exact hactor
  | saved r snapshot taskId result heard =>
    change (if heard then l.actor.map (r.confirmActor result snapshot) else l.actor) = none
    rw [hactor]
    split <;> rfl
  | mutated p op hactor' => cases hactor.symm.trans hactor'

/-- A load that a player has is that of the binding in force. -/
theorem Mirrors.load_latest (h : Mirrors st l) {state : LoadState} (hload : l.load = some state) :
    st.seat.latest = some state.clientBinding := by
  cases h.place with
  | unbound _ hnone => cases hnone.symm.trans hload
  | bound session d hseat _ hbound =>
    rcases hbound with ⟨p, -, -, -, hnone⟩ | ⟨state', hstate, -, hbinding⟩
    · cases hnone.symm.trans hload
    · cases hstate.symm.trans hload
      rw [hseat, hbinding]
  | loggedOut _ _ _ _ hbare => cases hbare.2.symm.trans hload
  | full _ _ _ _ _ hbare => cases hbare.2.symm.trans hload

/-- No round changes what the thread has of a player; only that a bound player stays bound needs
to be known of it. -/
theorem Mirrors.round (h : Mirrors st l) (hround : Round enabled id l l')
    (hbound : ∀ session d, l.Bound session d → l'.Bound session d) : Mirrors st l' := by
  obtain ⟨hlatest, hactor⟩ := hround.follows
  have hidle : l.load = none → l'.latest = l.latest := by
    intro hnone
    rcases hlatest with hsame | ⟨state, hload, -⟩
    · exact hsame
    · cases hnone.symm.trans hload
  have hbare : l.Bare → l'.Bare := fun hbare =>
    ⟨hround.actor_none hbare.2 hbare.1, hround.load_none hbare.2⟩
  refine ⟨fun e he => ?_, fun p hp => ?_, ?_⟩
  · rcases hlatest with hsame | ⟨state, hload, hstate⟩
    · exact h.reached e (hsame.symm.trans he)
    · cases hstate.symm.trans he
      exact ⟨_, h.load_latest hload, .inl rfl⟩
  · rcases hactor p hp with hcurrent | ⟨hsame, q, hq, hbinding⟩
    · exact hcurrent
    · rw [hsame, hbinding]
      exact h.current q hq
  · cases h.place with
    | unbound hroute hload hnone =>
      exact .unbound hroute (hround.load_none hload) fun hrefused =>
        hround.actor_none hload (hnone hrefused)
    | bound session d hseat hin hb => exact .bound session d hseat hin (hbound session d hb)
    | loggedOut session d hseat hout hb hd =>
      exact .loggedOut session d hseat hout (hbare hb) ((hidle hb.2).trans hd)
    | full session d hseat hin hfull hb hearlier =>
      exact .full session d hseat hin hfull (hbare hb) (hidle hb.2 ▸ hearlier)

theorem Mirrors.advanced (h : Mirrors st l) (hadvanced : Advanced id l l') : Mirrors st l' :=
  h.round (show Round true id l l' from .advanced hadvanced) fun _ _ hb => hadvanced.bound hb

end Rounds

section Reads

variable {session : Nat} {d : ClientData}

theorem Bound.holds (h : l.Bound session d) : l.Holds session d := by
  rcases h with ⟨p, hp, hsession, hbinding, -⟩ | hload
  · exact .inl ⟨p, hp, hsession, hbinding⟩
  · exact .inr hload

theorem Holds.not_bare (h : l.Holds session d) : ¬l.Bare := by
  rintro ⟨hactor, hload⟩
  rcases h with ⟨p, hp, -⟩ | ⟨state, hstate, -⟩
  · cases hactor.symm.trans hp
  · cases hload.symm.trans hstate

/-- What there is of a bound player is of its one binding. -/
theorem Bound.eq_of_holds (hb : l.Bound session d) (hs : l.Sane enabled id) {session' : Nat}
    {d' : ClientData} (h : l.Holds session' d') : session' = session ∧ d' = d := by
  rcases hb with ⟨p, hp, rfl, rfl, hnone⟩ | ⟨state, hstate, rfl, rfl⟩
  · rcases h with ⟨p', hp', rfl, rfl⟩ | ⟨state', hstate', -⟩
    · cases hp.symm.trans hp'
      exact ⟨rfl, rfl⟩
    · cases hnone.symm.trans hstate'
  · rcases h with ⟨p', hp', rfl, rfl⟩ | ⟨state', hstate', rfl, rfl⟩
    · obtain ⟨hsession, hbinding, -⟩ := hs.loading state p' hstate hp'
      exact ⟨hsession, hbinding⟩
    · cases hstate.symm.trans hstate'
      exact ⟨rfl, rfl⟩

theorem Mirrors.holds (h : l.Mirrors st) (hseat : st.seat = ⟨some session, some d⟩)
    (hin : st.loggedOut = false) : l.Holds session d ∨ st.full = true ∧ l.Bare := by
  cases h.place with
  | unbound hroute => cases hroute.symm.trans (congrArg Seat.route hseat)
  | bound session' d' hseat' _ hbound =>
    cases hseat.symm.trans hseat'
    exact .inl hbound.holds
  | loggedOut _ _ _ hout => cases hin.symm.trans hout
  | full _ _ _ _ hfull hbare => exact .inr ⟨hfull, hbare⟩

theorem Mirrors.of_holds (h : l.Mirrors st) (hs : l.Sane enabled id) (hholds : l.Holds session d)
    (hrefused : st.refused = false) :
    st.seat = ⟨some session, some d⟩ ∧ st.loggedOut = false := by
  cases h.place with
  | unbound hroute hload hactor => exact absurd ⟨hactor hrefused, hload⟩ hholds.not_bare
  | bound session' d' hseat hin hbound =>
    obtain ⟨rfl, rfl⟩ := hbound.eq_of_holds hs hholds
    exact ⟨hseat, hin⟩
  | loggedOut _ _ _ _ hbare => exact absurd hbare hholds.not_bare
  | full _ _ _ _ _ hbare => exact absurd hbare hholds.not_bare

theorem Mirrors.bare (h : l.Mirrors st) (hroute : st.seat.route = none)
    (hrefused : st.refused = false) : l.Bare := by
  cases h.place with
  | unbound _ hload hactor => exact ⟨hactor hrefused, hload⟩
  | bound _ _ hseat => cases hroute.symm.trans (congrArg Seat.route hseat)
  | loggedOut _ _ hseat => cases hroute.symm.trans (congrArg Seat.route hseat)
  | full _ _ hseat => cases hroute.symm.trans (congrArg Seat.route hseat)

end Reads

end Life

namespace LogicThread

variable {enabled : Bool} {env : Env} {s t : LogicThread} {st : Standing}

section Logout

variable {k : Nat} {p : Player} {ok : Bool}

theorem run_binding (p : Player) (ops : List GameOp) :
    (p.run (ops.map (·.1))).session = p.session ∧
      (p.run (ops.map (·.1))).clientBinding = p.clientBinding :=
  p.run_induction (P := fun q => q.session = p.session ∧ q.clientBinding = p.clientBinding)
    (fun _ op h => ⟨(Player.played_apply op).session.trans h.1,
      (Player.played_apply op).clientBinding.trans h.2⟩) ⟨rfl, rfl⟩ ops

/-- The answer of `logoutPlayer` says whether the actor is gone. -/
theorem logoutPlayer_answer (hactor : s.players.get k = some p)
    (h : s.logoutPlayer env k = some (ok, t)) : ok = (t.players.get k).isNone := by
  unfold logoutPlayer at h
  rw [hactor] at h
  dsimp only at h
  generalize (if k ∈ s.logoutPrepared then p
    else p.run ((env.onPlayerLogout k).map (·.1))) = q at h
  split at h
  · cases h
    simp [setPlayer]
  · split at h
    · obtain ⟨⟨ok', u⟩, hrequest, hout⟩ := Option.map_eq_some_iff.mp h
      obtain ⟨⟨_, persistence, sent⟩, -, hu⟩ := Option.map_eq_some_iff.mp hrequest
      cases hu
      cases ok' with
      | false =>
        cases hout
        simp [setPlayer, note]
      | true =>
        cases hout
        simp [release, note]
    · cases h
      simp [release, note]

/-- What `logoutPlayer` leaves of an actor, and of its answer. -/
theorem logoutPlayer_life (hs : s.Orderly) (hactor : s.players.get k = some p)
    (h : s.logoutPlayer env k = some (ok, t)) :
    t.draining = s.draining ∧ (∀ id, id ≠ k → t.life id = s.life id) ∧
      (t.life k).latest = (s.life k).latest ∧
      (ok = true ∧ (t.life k).Bare ∨
        ok = false ∧ (t.life k).load = (s.life k).load ∧
          ∃ q, (t.life k).actor = some q ∧ q.session = p.session ∧
            q.clientBinding = p.clientBinding) := by
  obtain ⟨ok', t', ops, hlogout, htouch⟩ := logoutPlayer_spec hactor hs env
  cases h.symm.trans hlogout
  have hanswer : ok = (t.life k).actor.isNone := logoutPlayer_answer hactor h
  obtain ⟨hsession, hbinding⟩ := run_binding p ops
  refine ⟨htouch.draining, htouch.others, ?_⟩
  have hself := htouch.self
  generalize t.life k = l at hself hanswer
  cases hself with
  | stayed => exact ⟨rfl, .inr ⟨hanswer, rfl, _, rfl, hsession, hbinding⟩⟩
  | refused => exact ⟨rfl, .inr ⟨hanswer, rfl, _, rfl, hsession, hbinding⟩⟩
  | saved => exact ⟨rfl, .inl ⟨hanswer, rfl, rfl⟩⟩
  | unsaved => exact ⟨rfl, .inl ⟨hanswer, rfl, rfl⟩⟩

end Logout

section Messages

/-- The message as `onPlayerBinding` gets it. -/
def bindingMsg (m : PlayerMsg) : BindingMsg where
  method := m.Method
  session := m.session
  playerId := m.playerId
  clientBinding := m.clientBinding
  body := m.body

theorem bindingMsg_valid {m : PlayerMsg} (hm : st.seat.Allows m) (hlifecycle : m.lifecycle = true) :
    (bindingMsg m).valid = true := by
  have hbody := (hm.lifecycle hlifecycle).1
  simp [bindingMsg, BindingMsg.valid, hm.valid, hm.playerId, hm.session, hbody]

/-- `offline` notes the binding before it logs out. -/
def noted (s : LogicThread) (d : ClientData) : LogicThread :=
  { s with latestClientBindings := s.latestClientBindings.insert d.playerId d }

/-- The message has an actor logged out, and it is not released. -/
def refuses (s : LogicThread) (env : Env) (m : BindingMsg) : Bool :=
  let d := m.clientBinding
  decide (d.playerId ∉ s.playerLoads) &&
    (s.players.get d.playerId).any (fun p => p.session = m.session ∧ p.clientBinding = d) &&
    ((s.noted d).logoutPlayer env d.playerId).any (!·.1)

/-- A request to log out finds its actor, which is released. -/
def logsOut (s : LogicThread) (env : Env) (playerId session : Nat) (binding : Option ClientData) :
    Bool :=
  !s.draining && decide (playerId ∉ s.playerLoads) &&
    (s.players.get playerId).any (fun p => p.session = session ∧ binding = some p.clientBinding) &&
    (s.logoutPlayer env playerId).any (·.1)

variable {m : BindingMsg}

theorem openLoad_advanced (h : s.openLoad env m = some t) :
    t.draining = s.draining ∧ (∃ epoch, Life.Advanced m.clientBinding.playerId
      { s.life m.clientBinding.playerId with
        load := some { session := m.session, clientBinding := m.clientBinding }
        actor := (s.life m.clientBinding.playerId).actor.map ({ · with epoch }) }
      (t.life m.clientBinding.playerId)) ∧
    ∀ id, id ≠ m.clientBinding.playerId → Life.Advanced id (s.life id) (t.life id) := by
  obtain ⟨-, hdraining, hadvanced⟩ := advanced_once h
  obtain ⟨epoch, hself, hothers⟩ := s.players.get_renewEpoch m.clientBinding.playerId
  refine ⟨hdraining, ⟨epoch, ?_⟩, fun id hne => ?_⟩
  · refine cast ?_ (hadvanced m.clientBinding.playerId)
    congr 1
    simp [life, hself]
  · refine cast ?_ (hadvanced id)
    congr 1
    simp [life, hne, hothers id hne]

/-- What an online message does that comes with a later binding than all that the thread has of
the player. -/
theorem online_later (hrun : s.draining = false) (hvalid : m.valid = true)
    (hm : m.method = kOnline)
    (hlatest : ∀ e, (s.life m.clientBinding.playerId).latest = some e → Earlier e m.clientBinding)
    (hload : ∀ state, (s.life m.clientBinding.playerId).load = some state →
      Earlier state.clientBinding m.clientBinding)
    (h : s.onPlayerBinding env m = some t) :
    s.openLoad env m = some t ∨
      t = s.bindActor m ∧
        (s.persistenceEnabled = true → (s.life m.clientBinding.playerId).load = none) ∨
      t = s ∧ kMaxPlayers ≤ s.playerLoads.size ∧ (s.life m.clientBinding.playerId).Bare := by
  have hany : (s.latestClientBindings.lookup m.clientBinding.playerId).any
      (outdatedBy m.clientBinding) = false := by
    cases he : s.latestClientBindings.lookup m.clientBinding.playerId with
    | none => rfl
    | some e => exact outdatedBy_eq_false.mpr (hlatest e he)
  rw [onPlayerBinding, if_neg (by simp [hrun, hvalid]), if_pos hm, online] at h
  rw [hany, if_neg Bool.false_ne_true] at h
  split at h
  · cases hstate : s.playerLoads.lookup m.clientBinding.playerId with
    | some state =>
      have hearlier := hload state hstate
      rw [hstate] at h
      dsimp only at h
      rw [if_neg (fun heq => hearlier.ne heq.1), outdatedBy_eq_false.mpr hearlier,
        if_neg Bool.false_ne_true] at h
      exact .inl h
    | none =>
      rw [hstate] at h
      dsimp only at h
      split at h
      · cases h
        exact .inr (.inl ⟨rfl, fun _ => hstate⟩)
      · rename_i hactor
        split at h
        · rename_i hfull
          cases h
          exact .inr (.inr ⟨rfl, hfull, Option.not_isSome_iff_eq_none.mp hactor, hstate⟩)
        · exact .inl h
  · rename_i henabled
    cases h
    exact .inr (.inl ⟨rfl, fun h => absurd h henabled⟩)

/-- An online message for a binding that the thread has noted, or that the player is bound to,
changes nothing. -/
theorem online_known (hs : Sane enabled s) (hm : m.method = kOnline)
    (hknown : (s.life m.clientBinding.playerId).latest = some m.clientBinding ∨
      ∃ state, (s.life m.clientBinding.playerId).load = some state ∧ state.session = m.session ∧
        state.clientBinding = m.clientBinding) :
    s.onPlayerBinding env m = some s := by
  unfold onPlayerBinding
  split
  · rfl
  · rw [online]
    split
    · rfl
    · rename_i hnew
      rcases hknown with hlatest | ⟨state, hload, hsession, hbinding⟩
      · refine absurd ?_ hnew
        change s.latestClientBindings.lookup m.clientBinding.playerId = _ at hlatest
        rw [hlatest]
        exact outdatedBy_self _
      · have henabled : s.persistenceEnabled = true :=
          hs.same.trans ((hs.life _).loadId (by rw [hload]; rfl)).1
        change s.playerLoads.lookup m.clientBinding.playerId = _ at hload
        rw [if_pos henabled, hload]
        exact if_pos ⟨hbinding, hsession⟩

/-- After an online message with a later binding the player is bound, unless the loads are full. -/
theorem later_mirrors (hs : Sane enabled s) (hrun : s.draining = false) (hvalid : m.valid = true)
    (hm : m.method = kOnline)
    (hlatest : ∀ e, (s.life m.clientBinding.playerId).latest = some e → Earlier e m.clientBinding)
    (hload : ∀ state, (s.life m.clientBinding.playerId).load = some state →
      Earlier state.clientBinding m.clientBinding)
    (hcurrent : ∀ p, (s.life m.clientBinding.playerId).actor = some p →
      (s.life m.clientBinding.playerId).latest = some p.clientBinding)
    (h : s.onPlayerBinding env m = some t) (hseat : st.seat = ⟨some m.session, some m.clientBinding⟩)
    (hin : st.loggedOut = false) (hfull : kMaxPlayers ≤ s.playerLoads.size → st.full = true) :
    t.draining = false ∧ (t.life m.clientBinding.playerId).Mirrors st := by
  have hreached : ∀ e, Earlier e m.clientBinding → st.Reached e := fun e he =>
    ⟨m.clientBinding, by rw [hseat], .inr he⟩
  rcases online_later hrun hvalid hm hlatest hload h with hopen | ⟨rfl, hnone⟩ | ⟨rfl, hsize, hbare⟩
  · obtain ⟨hdraining, ⟨epoch, hadvanced⟩, -⟩ := openLoad_advanced hopen
    refine ⟨hdraining.trans hrun, Life.Mirrors.advanced ?_ hadvanced⟩
    refine ⟨fun e he => hreached e (hlatest e he), fun p hp => ?_, ?_⟩
    · obtain ⟨q, hq, rfl⟩ := Option.map_eq_some_iff.mp hp
      exact hcurrent q hq
    · exact .bound m.session m.clientBinding hseat hin (.inr ⟨_, rfl, rfl, rfl⟩)
  · have htouch := bindActor_touches (s := s) (playerId_ne_zero hvalid)
    obtain ⟨epoch, hlife⟩ := htouch.self
    have hnoLoad : (s.life m.clientBinding.playerId).load = none := by
      cases hstate : (s.life m.clientBinding.playerId).load with
      | none => rfl
      | some state =>
        have henabled := ((hs.life _).loadId (by rw [hstate]; rfl)).1
        exact hstate.symm.trans (hnone (hs.same.trans henabled))
    refine ⟨htouch.draining.trans hrun, ?_⟩
    rw [hlife]
    refine ⟨fun e he => ?_, fun p hp => ?_, ?_⟩
    · cases he
      exact ⟨m.clientBinding, by rw [hseat], .inl rfl⟩
    · cases hp
      rfl
    · exact .bound m.session m.clientBinding hseat hin (.inl ⟨_, rfl, rfl, rfl, hnoLoad⟩)
  · refine ⟨hrun, fun e he => hreached e (hlatest e he), hcurrent, ?_⟩
    exact .full m.session m.clientBinding hseat hin (hfull hsize) hbare hlatest

/-- What an offline message does: it ends the load that it is about, or it has the actor logged
out that it is about, or there is neither. -/
theorem offline_cases (h : s.offline env m = some t) :
    (∃ state, (s.life m.clientBinding.playerId).load = some state ∧
      state.clientBinding = m.clientBinding ∧ state.session = m.session ∧
      Touches (fun l l' => l' =
        { l with
          actor := l.actor.filter fun p => p.clientBinding ≠ m.clientBinding
          load := none
          latest := some m.clientBinding }) m.clientBinding.playerId s t) ∨
    (∀ state, (s.life m.clientBinding.playerId).load = some state →
      ¬ (state.clientBinding = m.clientBinding ∧ state.session = m.session)) ∧
    ((∃ ok p, (s.life m.clientBinding.playerId).actor = some p ∧ p.session = m.session ∧
        p.clientBinding = m.clientBinding ∧
        (s.noted m.clientBinding).logoutPlayer env m.clientBinding.playerId = some (ok, t)) ∨
      t = s ∧ ∀ p, (s.life m.clientBinding.playerId).actor = some p →
        ¬ (p.session = m.session ∧ p.clientBinding = m.clientBinding)) := by
  have hactor : ∀ {t}, offline.offlineActor env s m (s.players.get m.clientBinding.playerId)
      (s.noted m.clientBinding) = some t →
      (∃ ok p, (s.life m.clientBinding.playerId).actor = some p ∧ p.session = m.session ∧
        p.clientBinding = m.clientBinding ∧
        (s.noted m.clientBinding).logoutPlayer env m.clientBinding.playerId = some (ok, t)) ∨
      t = s ∧ ∀ p, (s.life m.clientBinding.playerId).actor = some p →
        ¬ (p.session = m.session ∧ p.clientBinding = m.clientBinding) := by
    intro t h
    unfold offline.offlineActor at h
    split at h
    · rename_i hany
      obtain ⟨⟨ok, u⟩, hlogout, rfl⟩ := Option.map_eq_some_iff.mp h
      obtain ⟨p, hp, hsame⟩ := (Option.any_eq_true ..).mp hany
      obtain ⟨hsession, hbinding⟩ := of_decide_eq_true hsame
      exact .inl ⟨ok, p, hp, hsession, hbinding, hlogout⟩
    · rename_i hany
      cases h
      refine .inr ⟨rfl, fun p hp hsame => hany ?_⟩
      exact (Option.any_eq_true ..).mpr ⟨p, hp, decide_eq_true hsame⟩
  unfold offline at h
  dsimp only at h
  split at h
  · rename_i state hload
    split at h
    · rename_i hsame
      cases h
      refine .inl ⟨state, hload, hsame.1, hsame.2, rfl, rfl, ?_, fun id hne => ?_⟩
      · cases hp : s.players.get m.clientBinding.playerId with
        | none => simp [life, hp]
        | some p =>
          by_cases hbinding : p.clientBinding = m.clientBinding
          · simp [life, hp, hbinding, Option.filter]
          · simp [life, hp, hbinding, Option.filter]
      · split
        · simp [life, hne]
        · simp [life, hne]
    · rename_i hsame
      refine .inr ⟨fun state' hstate' => ?_, hactor h⟩
      cases hload.symm.trans hstate'
      exact hsame
  · rename_i hnone
    refine .inr ⟨fun state hstate => ?_, hactor h⟩
    cases hnone.symm.trans hstate

theorem noted_life (s : LogicThread) (d : ClientData) (id : Nat) :
    (s.noted d).life id =
      if id = d.playerId then { s.life id with latest := some d } else s.life id := by
  split
  · rename_i hid
    subst hid
    simp [life, noted]
  · rename_i hid
    simp [life, noted, hid]

theorem noted_orderly (hs : s.Orderly) (d : ClientData) : (s.noted d).Orderly :=
  (s.noted_insert d.playerId d).orderly hs

/-- After the offline message for the binding in force the player is unbound, and there is nothing
of it unless its actor was not released. -/
theorem offline_mirrors (hs : Sane enabled s) (hrun : s.draining = false)
    (h : s.offline env m = some t) (hseat : st.seat = ⟨some m.session, some m.clientBinding⟩)
    (hk : (s.life m.clientBinding.playerId).Mirrors st) {st' : Standing}
    (hnext : st'.seat = ⟨none, some m.clientBinding⟩)
    (hrefused : st'.refused = s.refuses env m) :
    t.draining = false ∧ (t.life m.clientBinding.playerId).Mirrors st' := by
  have hreached : ∀ e, st.Reached e → st'.Reached e := by
    rintro e ⟨d, hd, he⟩
    rw [hseat] at hd
    cases hd
    exact ⟨m.clientBinding, by rw [hnext], he⟩
  have hself : st'.Reached m.clientBinding := ⟨m.clientBinding, by rw [hnext], .inl rfl⟩
  rcases offline_cases h with ⟨state, hload, hbinding, hsession, htouch⟩ | ⟨hother, hactor⟩
  · have hnone : ((s.life m.clientBinding.playerId).actor.filter
        fun p => p.clientBinding ≠ m.clientBinding) = none := by
      refine Option.filter_eq_none_iff.mpr fun p hp => ?_
      have hsame := ((hs.life _).loading state p hload hp).2.1
      simp [hsame, hbinding]
    refine ⟨htouch.draining.trans hrun, ?_⟩
    rw [htouch.self, hnone]
    refine ⟨fun e he => ?_, nofun, .unbound (by rw [hnext]) rfl fun _ => rfl⟩
    cases he
    exact hself
  rcases hactor with ⟨ok, p, hp, hsession, hbinding, hlogout⟩ | ⟨rfl, hother'⟩
  · have hp' : (s.noted m.clientBinding).players.get m.clientBinding.playerId = some p := hp
    obtain ⟨hdraining, -, hlatest, hout⟩ :=
      logoutPlayer_life (noted_orderly hs.orderly m.clientBinding) hp' hlogout
    have hnoted := s.noted_life m.clientBinding m.clientBinding.playerId
    rw [if_pos rfl] at hnoted
    rw [hnoted] at hlatest hout
    have hnoLoad : (s.life m.clientBinding.playerId).load = none := by
      cases hload : (s.life m.clientBinding.playerId).load with
      | none => rfl
      | some state =>
        obtain ⟨hs', hb', -⟩ := (hs.life _).loading state p hload hp
        exact absurd ⟨hb'.symm.trans hbinding, hs'.symm.trans hsession⟩ (hother state hload)
    have hanswer : s.refuses env m = !ok := by
      have hnot : m.clientBinding.playerId ∉ s.playerLoads := AList.lookup_eq_none.mp hnoLoad
      change s.players.get m.clientBinding.playerId = some p at hp
      simp [refuses, hnot, hp, hsession, hbinding, hlogout]
    refine ⟨hdraining.trans hrun, ?_⟩
    rcases hout with ⟨rfl, hbare⟩ | ⟨rfl, hload, q, hq, -, hqbinding⟩
    · refine ⟨fun e he => ?_, fun q hq => ?_, .unbound (by rw [hnext]) hbare.2 fun _ => hbare.1⟩
      · cases hlatest.symm.trans he
        exact hself
      · cases hbare.1.symm.trans hq
    · refine ⟨fun e he => ?_, fun q' hq' => ?_, .unbound (by rw [hnext]) (hload.trans hnoLoad) ?_⟩
      · cases hlatest.symm.trans he
        exact hself
      · cases hq.symm.trans hq'
        rw [hlatest, hqbinding, hbinding]
      · intro hfalse
        rw [hrefused, hanswer] at hfalse
        cases hfalse
  · have hbare : (t.life m.clientBinding.playerId).Bare := by
      cases hk.place with
      | unbound hroute => cases hroute.symm.trans (congrArg Seat.route hseat)
      | bound session d hseat' _ hbound =>
        cases hseat.symm.trans hseat'
        rcases hbound with ⟨p, hp, hsession, hbinding, -⟩ | ⟨state, hload, hsession, hbinding⟩
        · exact absurd ⟨hsession, hbinding⟩ (hother' p hp)
        · exact absurd ⟨hbinding, hsession⟩ (hother state hload)
      | loggedOut _ _ _ _ hbare => exact hbare
      | full _ _ _ _ _ hbare => exact hbare
    exact ⟨hrun, fun e he => hreached e (hk.reached e he), hk.current,
      .unbound (by rw [hnext]) hbare.2 fun _ => hbare.1⟩

/-- A message about a binding, at the player that it is about. -/
theorem binding_mirrors (hs : Sane enabled s) (hrun : s.draining = false) {m : PlayerMsg}
    (hm : st.seat.Allows m) (hlifecycle : m.lifecycle = true)
    (h : s.onPlayerBinding env (bindingMsg m) = some t)
    (hk : (s.life m.clientBinding.playerId).Mirrors st) :
    t.draining = false ∧ (t.life m.clientBinding.playerId).Mirrors
      (st.told m (kMaxPlayers ≤ s.playerLoads.size) (s.refuses env (bindingMsg m))) := by
  have hvalid := bindingMsg_valid hm hlifecycle
  rcases (hm.lifecycle hlifecycle).2 with honline | hoffline
  · by_cases hheld : st.seat = ⟨some m.session, some m.clientBinding⟩
    · have htold : st.told m (kMaxPlayers ≤ s.playerLoads.size) (s.refuses env (bindingMsg m)) =
          { st with full := st.full && decide (kMaxPlayers ≤ s.playerLoads.size) } := by
        rw [Standing.told, if_pos honline, if_pos hheld]
      rw [htold]
      cases hk.place with
      | unbound hroute => cases hroute.symm.trans (congrArg Seat.route hheld)
      | bound session d hseat hin hbound =>
        cases hheld.symm.trans hseat
        have hknown : s.onPlayerBinding env (bindingMsg m) = some s := online_known hs honline <| by
          rcases hbound with ⟨p, hp, -, hbinding, -⟩ | ⟨state, hload, hsession, hbinding⟩
          · exact .inl ((hk.current p hp).trans (congrArg some hbinding))
          · exact .inr ⟨state, hload, hsession, hbinding⟩
        cases hknown.symm.trans h
        exact ⟨hrun, hk.reached, hk.current, .bound m.session m.clientBinding hheld hin hbound⟩
      | loggedOut session d hseat hout hbare hlatest =>
        cases hheld.symm.trans hseat
        have hknown : s.onPlayerBinding env (bindingMsg m) = some s :=
          online_known hs honline (.inl hlatest)
        cases hknown.symm.trans h
        exact ⟨hrun, hk.reached, hk.current,
          .loggedOut m.session m.clientBinding hheld hout hbare hlatest⟩
      | full session d hseat hin hfull hbare hearlier =>
        cases hheld.symm.trans hseat
        refine later_mirrors hs hrun hvalid honline hearlier (fun state hload => ?_) hk.current h
          hheld hin fun hsize => ?_
        · cases hbare.2.symm.trans hload
        · simp [hfull, hsize]
    · have hlater := (hm.online hlifecycle honline).resolve_left hheld
      have htold : st.told m (kMaxPlayers ≤ s.playerLoads.size) (s.refuses env (bindingMsg m)) =
          { seat := ⟨some m.session, some m.clientBinding⟩
            full := kMaxPlayers ≤ s.playerLoads.size } := by
        rw [Standing.told, if_pos honline, if_neg hheld]
        simp [Seat.step, hlifecycle, honline]
      rw [htold]
      refine later_mirrors hs hrun hvalid honline (fun e he => ?_) (fun state hload => ?_) hk.current
        h rfl rfl decide_eq_true
      · obtain ⟨d, hd, rfl | hearlier⟩ := hk.reached e he
        · exact hlater _ hd
        · exact hearlier.trans (hlater d hd)
      · exact hlater _ (hk.load_latest hload)
  · have hnot : m.Method ≠ kOnline := fun honline => by cases hoffline.symm.trans honline
    have hheld := hm.held fun _ => hnot
    have htold : st.told m (kMaxPlayers ≤ s.playerLoads.size) (s.refuses env (bindingMsg m)) =
        { seat := ⟨none, some m.clientBinding⟩, refused := s.refuses env (bindingMsg m) } := by
      rw [Standing.told, if_neg hnot, show st.seat = _ from hheld]
      simp [Seat.step, hlifecycle, hnot]
    rw [htold]
    rw [onPlayerBinding, if_neg (by simp [hrun, hvalid]),
      if_neg (show (bindingMsg m).method ≠ kOnline from hnot),
      if_pos (show (bindingMsg m).method = kOffline from hoffline)] at h
    exact offline_mirrors hs hrun h hheld hk rfl rfl

/-- The other players of the worker. -/
theorem binding_others (hs : s.Orderly) (h : s.onPlayerBinding env m = some t) {id : Nat}
    (hid : id ≠ m.clientBinding.playerId) (hk : (s.life id).Mirrors st) :
    (t.life id).Mirrors st := by
  have hsame : t.life id = s.life id → (t.life id).Mirrors st := fun hlife => hlife ▸ hk
  by_cases hm : m.method = kOnline
  · rcases s.onPlayerBinding_online env hm with ⟨-, heq, -⟩ | ⟨-, heq | ⟨heq, hvalid, -⟩⟩
    · obtain ⟨-, -, hadvanced⟩ := openLoad_advanced (heq.symm.trans h)
      exact hk.advanced (hadvanced id hid)
    · cases heq.symm.trans h
      exact hk
    · cases heq.symm.trans h
      exact hsame ((bindActor_touches (playerId_ne_zero hvalid)).others id hid)
  · unfold onPlayerBinding at h
    split at h
    · cases h
      exact hk
    · split at h
      · rcases offline_cases h with ⟨_, _, _, _, htouch⟩ | ⟨-, ⟨ok, p, hp, -, -, hlogout⟩ | ⟨rfl, -⟩⟩
        · exact hsame (htouch.others id hid)
        · have hothers := (logoutPlayer_life (noted_orderly hs m.clientBinding) hp hlogout).2.1 id hid
          exact hsame (hothers.trans ((s.noted_life ..).trans (if_neg hid)))
        · exact hk
      · cases h
        exact hk

end Messages

section Work

/-- A request to log out: if the actor is released, the player counts as logged out. -/
theorem logoutReq_mirrors (hs : Sane enabled s) (hrun : s.draining = false)
    {playerId session : Nat} {binding : Option ClientData}
    (h : s.onLogoutReq env playerId session binding = some t)
    (hk : (s.life playerId).Mirrors st) :
    t.draining = false ∧ (∀ id, id ≠ playerId → t.life id = s.life id) ∧
      (t.life playerId).Mirrors
        (if s.logsOut env playerId session binding then { st with loggedOut := true } else st) := by
  have hkept : s.logsOut env playerId session binding = false → t = s →
      t.draining = false ∧ (∀ id, id ≠ playerId → t.life id = s.life id) ∧
        (t.life playerId).Mirrors
          (if s.logsOut env playerId session binding then { st with loggedOut := true } else st) := by
    rintro hout rfl
    rw [hout]
    exact ⟨hrun, fun _ _ => rfl, hk⟩
  unfold onLogoutReq at h
  split at h
  · rename_i hbusy
    cases h
    refine hkept ?_ rfl
    have hloading := hbusy.resolve_left (by simp [hrun])
    simp [logsOut, hloading]
  · rename_i hfree
    obtain ⟨-, hnoLoad⟩ := not_or.mp hfree
    have hnone : (s.life playerId).load = none := AList.lookup_eq_none.mpr hnoLoad
    split at h
    · rename_i hany
      obtain ⟨p, hp, -⟩ := (Option.any_eq_true ..).mp hany
      obtain ⟨⟨ok, u⟩, hlogout, rfl⟩ := Option.map_eq_some_iff.mp h
      obtain ⟨hdraining, hothers, hlatest, hout⟩ := logoutPlayer_life hs.orderly hp hlogout
      have hlogsOut : s.logsOut env playerId session binding = ok := by
        rw [logsOut, hany, hlogout]
        simp [hrun, hnoLoad]
      have hactor : ∀ {P : Prop}, (s.life playerId).actor = none → P := fun hactor => by
        cases hactor.symm.trans hp
      refine ⟨hdraining.trans hrun, hothers, ?_⟩
      rw [hlogsOut]
      rcases hout with ⟨rfl, hbare⟩ | ⟨rfl, hload, q, hq, hsession, hbinding⟩
      · refine ⟨fun e he => hk.reached e (hlatest.symm.trans he), fun q hq => ?_, ?_⟩
        · cases hbare.1.symm.trans hq
        · cases hk.place with
          | unbound hroute => exact .unbound hroute hbare.2 fun _ => hbare.1
          | bound session' d hseat _ hbound =>
            refine .loggedOut session' d hseat rfl hbare ?_
            rcases hbound with ⟨p', hp', -, hd, -⟩ | ⟨state, hstate, -⟩
            · rw [hlatest, hk.current p' hp', hd]
            · cases hnone.symm.trans hstate
          | loggedOut _ _ _ _ hbare' => exact hactor hbare'.1
          | full _ _ _ _ _ hbare' => exact hactor hbare'.1
      · refine ⟨fun e he => hk.reached e (hlatest.symm.trans he), fun q' hq' => ?_, ?_⟩
        · cases hq.symm.trans hq'
          rw [hlatest, hbinding]
          exact hk.current p hp
        · cases hk.place with
          | unbound hroute _ hreleased =>
            exact .unbound hroute (hload.trans hnone) fun hrefused => hactor (hreleased hrefused)
          | bound session' d hseat hin hbound =>
            refine .bound session' d hseat hin (.inl ⟨q, hq, ?_, ?_, hload.trans hnone⟩)
            · rcases hbound with ⟨p', hp', hsession', -⟩ | ⟨state, hstate, -⟩
              · cases hp.symm.trans hp'
                exact hsession.trans hsession'
              · cases hnone.symm.trans hstate
            · rcases hbound with ⟨p', hp', -, hd, -⟩ | ⟨state, hstate, -⟩
              · cases hp.symm.trans hp'
                exact hbinding.trans hd
              · cases hnone.symm.trans hstate
          | loggedOut _ _ _ _ hbare' => exact hactor hbare'.1
          | full _ _ _ _ _ hbare' => exact hactor hbare'.1
    · rename_i hany
      cases h
      exact hkept (by rw [logsOut, Bool.eq_false_iff.mpr hany]; simp) rfl

/-- Rounds, at any player. -/
theorem rounds_mirrors (hs : Sane enabled s) (h : Rounds s t) {id : Nat}
    (hk : (s.life id).Mirrors st) : (t.life id).Mirrors st := by
  have hmoves := Follows.moves h id
  rw [hs.same] at hmoves
  suffices hboth : (t.life id).Sane enabled id ∧ (t.life id).Mirrors st from hboth.2
  generalize t.life id = l at hmoves ⊢
  induction hmoves with
  | refl => exact ⟨hs.life id, hk⟩
  | tail _ hround ih =>
    exact ⟨hround.sane ih.1, ih.2.round hround fun _ _ hb => hround.bound ih.1 hb⟩

end Work

end LogicThread

open LogicThread (bindingMsg)

/-- A worker of a scene, and how many messages it has taken from its queue. -/
structure SceneWorker where
  thread : LogicThread
  taken : Nat := 0
  standing : Nat → Standing := fun _ => {}

namespace SceneWorker

variable (w : SceneWorker)

/-- `onNetMsg`: what another message than one about a binding leads to is work of its own. -/
def take (env : Env) (m : PlayerMsg) : Option SceneWorker :=
  if m.Module = kModule then
    (w.thread.onPlayerBinding env (bindingMsg m)).map fun thread =>
      { thread
        taken := w.taken + 1
        standing := Function.update w.standing m.playerId
          ((w.standing m.playerId).told m (kMaxPlayers ≤ w.thread.playerLoads.size)
            (w.thread.refuses env (bindingMsg m))) }
  else some { w with taken := w.taken + 1 }

/-- All that a thread does besides, until it is told to stop. -/
def isWork : LogicThread.Label → Bool
  | .binding _ | .beginDrain | .drain => false
  | _ => true

def work (l : Env × LogicThread.Label) : Option SceneWorker :=
  (w.thread.step l).map fun thread =>
    { w with
      thread
      standing :=
        match l.2 with
        | .logoutReq playerId session binding =>
          if w.thread.logsOut l.1 playerId session binding then
            Function.update w.standing playerId { w.standing playerId with loggedOut := true }
          else w.standing
        | _ => w.standing }

/-- The worker has taken these messages, and has its players as they say. -/
structure Follows (enabled : Bool) (ms : List PlayerMsg) (w : SceneWorker) : Prop where
  sane : w.thread.Sane enabled
  running : w.thread.draining = false
  seats : ∀ id, (w.standing id).seat = Net.seatsAfter (fun _ => {}) ms id
  refusals : ∀ id, (w.standing id).refused = true → (w.standing id).seat.route = none
  mirrors : ∀ id, (w.thread.life id).Mirrors (w.standing id)

theorem follows_init (enabled : Bool) : Follows enabled [] { thread := .started enabled } where
  sane := LogicThread.sane_started enabled
  running := rfl
  seats := fun _ => rfl
  refusals := nofun
  mirrors := fun _ => Life.mirrors_empty

theorem told_seat {st : Standing} {m : PlayerMsg} (hlifecycle : m.lifecycle = true)
    (atCapacity refused : Bool) : (st.told m atCapacity refused).seat = st.seat.step m := by
  unfold Standing.told
  split
  · rename_i honline
    split
    · rename_i hheld
      simp [Seat.step, hlifecycle, honline, hheld]
    · rfl
  · rfl

theorem told_refused {st : Standing} {m : PlayerMsg} (hlifecycle : m.lifecycle = true)
    (atCapacity refused : Bool) (h : st.refused = true → st.seat.route = none) :
    (st.told m atCapacity refused).refused = true →
      (st.told m atCapacity refused).seat.route = none := by
  unfold Standing.told
  split
  · split
    · exact h
    · exact nofun
  · rename_i hmethod
    simp [Seat.step, hlifecycle, hmethod]

variable {w} {enabled : Bool} {env : Env} {ms : List PlayerMsg} {m : PlayerMsg} {t : SceneWorker}

theorem take_taken (h : w.take env m = some t) : t.taken = w.taken + 1 := by
  unfold SceneWorker.take at h
  split at h
  · obtain ⟨_, -, rfl⟩ := Option.map_eq_some_iff.mp h
    rfl
  · cases h
    rfl

theorem work_taken {l : Env × LogicThread.Label} (h : w.work l = some t) : t.taken = w.taken := by
  obtain ⟨_, -, rfl⟩ := Option.map_eq_some_iff.mp h
  rfl

theorem Follows.take (h : Follows enabled ms w)
    (hm : (Net.seatsAfter (fun _ => {}) ms m.playerId).Allows m) (ht : w.take env m = some t) :
    Follows enabled (ms ++ [m]) t := by
  have hnext : Net.seatsAfter (fun _ => {}) (ms ++ [m]) =
      Keyed.next PlayerMsg.playerId Seat.step (Net.seatsAfter (fun _ => {}) ms) m :=
    Keyed.after_snoc
  rw [← h.seats] at hm
  unfold SceneWorker.take at ht
  split at ht
  · rename_i hmodule
    have hlifecycle := hm.module.mpr hmodule
    obtain ⟨u, hu, rfl⟩ := Option.map_eq_some_iff.mp ht
    have hid := hm.playerId
    have hsame : (w.thread.life m.clientBinding.playerId).Mirrors (w.standing m.playerId) :=
      hid ▸ h.mirrors m.clientBinding.playerId
    obtain ⟨hrunning, hself⟩ :=
      LogicThread.binding_mirrors h.sane h.running hm hlifecycle hu hsame
    refine ⟨LogicThread.sane_step (l := (env, .binding (bindingMsg m))) h.sane hu, hrunning,
      fun id => ?_, fun id => ?_, fun id => ?_⟩
    · by_cases heq : id = m.playerId
      · subst heq
        rw [hnext]
        simp only [Keyed.next, Function.update_self]
        rw [told_seat hlifecycle, h.seats]
      · rw [hnext]
        simp only [Keyed.next, Function.update_of_ne heq]
        exact h.seats id
    · by_cases heq : id = m.playerId
      · subst heq
        simp only [Function.update_self]
        exact told_refused hlifecycle _ _ (h.refusals m.playerId)
      · simp only [Function.update_of_ne heq]
        exact h.refusals id
    · by_cases heq : id = m.playerId
      · subst heq
        simp only [Function.update_self]
        exact hid ▸ hself
      · simp only [Function.update_of_ne heq]
        exact LogicThread.binding_others h.sane.orderly hu (hid ▸ heq) (h.mirrors id)
  · rename_i hmodule
    cases ht
    have hbusiness := Bool.eq_false_iff.mpr (mt hm.module.mp hmodule)
    refine ⟨h.sane, h.running, fun id => ?_, h.refusals, h.mirrors⟩
    rw [hnext, Keyed.next, Net.NetServer.step_of_business _ m hbusiness, Function.update_eq_self]
    exact h.seats id

theorem Follows.work (h : Follows enabled ms w) {l : Env × LogicThread.Label}
    (hl : isWork l.2 = true) (ht : w.work l = some t) : Follows enabled ms t := by
  obtain ⟨u, hu, rfl⟩ := Option.map_eq_some_iff.mp ht
  have hsane := LogicThread.sane_step h.sane hu
  by_cases hround : l.2.isRound = true
  · have hrounds := LogicThread.round_follows hround hu h.sane.orderly
    obtain ⟨env, l⟩ := l
    have hfollows : Follows enabled ms { w with thread := u } :=
      ⟨hsane, hrounds.draining.trans h.running, h.seats, h.refusals, fun id =>
        LogicThread.rounds_mirrors h.sane hrounds (h.mirrors id)⟩
    cases l with
    | logoutReq => cases hround
    | binding => cases hl
    | beginDrain => cases hl
    | drain => cases hl
    | _ => exact hfollows
  · obtain ⟨env, l⟩ := l
    cases l with
    | logoutReq playerId session binding =>
      obtain ⟨hrunning, hothers, hself⟩ :=
        LogicThread.logoutReq_mirrors h.sane h.running hu (h.mirrors playerId)
      dsimp only
      split
      · rename_i hout
        rw [if_pos hout] at hself
        refine ⟨hsane, hrunning, fun id => ?_, fun id => ?_, fun id => ?_⟩
        · by_cases heq : id = playerId
          · subst heq
            simpa using h.seats id
          · simpa [Function.update_of_ne heq] using h.seats id
        · by_cases heq : id = playerId
          · subst heq
            simpa using h.refusals id
          · simpa [Function.update_of_ne heq] using h.refusals id
        · by_cases heq : id = playerId
          · subst heq
            simpa using hself
          · simp only [Function.update_of_ne heq]
            rw [hothers id heq]
            exact h.mirrors id
      · rename_i hout
        rw [if_neg hout] at hself
        refine ⟨hsane, hrunning, h.seats, h.refusals, fun id => ?_⟩
        by_cases heq : id = playerId
        · subst heq
          exact hself
        · rw [hothers id heq]
          exact h.mirrors id
    | binding => cases hl
    | beginDrain => cases hl
    | drain => cases hl
    | _ => exact absurd rfl hround

end SceneWorker

end Scene
