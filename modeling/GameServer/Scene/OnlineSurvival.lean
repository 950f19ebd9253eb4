import GameServer.Scene.LifeSane

/-!
# Which online messages a logic thread survives

One thing alone throws out of the loop of a thread: the load of a player whose
identity the database cannot hold. An online message gets that far exactly when it
opens a load.
-/

namespace Scene

open Gateway (ClientData)
open Gateway.GatewayPlayer (kOnline)
open PlayerPersistence (kMaxPlayers)

namespace Life

/-- The player is loaded for the session and its binding, or is loading, or its load failed. -/
def Bound (session : Nat) (d : ClientData) (l : Life) : Prop :=
  (∃ p, l.actor = some p ∧ p.session = session ∧ p.clientBinding = d ∧ l.load = none) ∨
    ∃ state, l.load = some state ∧ state.session = session ∧ state.clientBinding = d

variable {enabled : Bool} {id session : Nat} {d : ClientData} {l l' : Life}

theorem Advanced.bound (h : Advanced id l l') (hb : l.Bound session d) : l'.Bound session d := by
  cases h with
  | idle => exact hb
  | failed state hload =>
    rcases hb with ⟨p, -, -, -, hnone⟩ | ⟨state', hstate, hsame⟩
    · cases hload.symm.trans hnone
    · cases hload.symm.trans hstate
      exact .inr ⟨_, rfl, hsame⟩
  | created state epoch hload =>
    rcases hb with ⟨p, -, -, -, hnone⟩ | ⟨state', hstate, hsame⟩
    · cases hload.symm.trans hnone
    · exact .inr ⟨state', hstate, hsame⟩
  | submitted state epoch taskId body hload =>
    rcases hb with ⟨p, -, -, -, hnone⟩ | ⟨state', hstate, hsame⟩
    · cases hload.symm.trans hnone
    · cases hload.symm.trans hstate
      exact .inr ⟨_, rfl, hsame⟩

theorem Round.bound (h : Round enabled id l l') (hs : l.Sane enabled id) (hb : l.Bound session d) :
    l'.Bound session d := by
  cases h with
  | advanced h => exact h.bound hb
  | flushed => exact hb
  | dispatched => exact hb
  | loadFailed state hload =>
    rcases hb with ⟨p, -, -, -, hnone⟩ | ⟨state', hstate, hsame⟩
    · cases hload.symm.trans hnone
    · cases hload.symm.trans hstate
      exact .inr ⟨_, rfl, hsame⟩
  | loaded state p p' snapshot hload hactor _ _ hrestored =>
    rcases hb with ⟨p, -, -, -, hnone⟩ | ⟨state', hstate, hsession, hbinding⟩
    · cases hload.symm.trans hnone
    · cases hload.symm.trans hstate
      obtain ⟨hsame, hsame', -⟩ := hs.loading state p hload hactor
      obtain ⟨hp, hp'⟩ := p.restoreSaveSnapshot_binding hrestored
      exact .inl ⟨p', rfl, hp.trans (hsame.trans hsession), hp'.trans (hsame'.trans hbinding), rfl⟩
  | saveFailed => exact hb
  | saved r snapshot taskId result heard =>
    rcases hb with ⟨p, hactor, hsession, hbinding, hnone⟩ | hload
    · refine .inl ?_
      change ∃ p, (if heard then l.actor.map (r.confirmActor result snapshot) else l.actor) =
        some p ∧ _
      rw [hactor]
      split
      · refine ⟨_, rfl, ?_, ?_, hnone⟩
        · exact (r.confirmActor_binding result snapshot p).1.trans hsession
        · exact (r.confirmActor_binding result snapshot p).2.trans hbinding
      · exact ⟨p, rfl, hsession, hbinding, hnone⟩
    · exact .inr hload
  | mutated p op hactor =>
    rcases hb with ⟨p', hp', hsession, hbinding, hnone⟩ | hload
    · cases hactor.symm.trans hp'
      have hplayed := Player.played_apply (p := p) op
      exact .inl ⟨_, rfl, hplayed.session.trans hsession, hplayed.clientBinding.trans hbinding, hnone⟩
    · exact .inr hload

end Life

namespace LogicThread

variable {enabled : Bool} {s t : LogicThread} {env : Env} {m : BindingMsg}

/-- An online message opens a load. -/
def opensLoad (s : LogicThread) (m : BindingMsg) : Bool :=
  let d := m.clientBinding
  !s.draining && m.valid && m.method == kOnline && s.persistenceEnabled &&
    !(s.latestClientBindings.lookup d.playerId).any (outdatedBy d) &&
    match s.playerLoads.lookup d.playerId with
    | some load => !decide (load.clientBinding = d ∧ load.session = m.session) &&
        !outdatedBy d load.clientBinding
    | none => (s.players.get d.playerId).isNone && decide (s.playerLoads.size < kMaxPlayers)

theorem playerId_ne_zero (h : m.valid = true) : m.clientBinding.playerId ≠ 0 := by
  simp only [BindingMsg.valid, Gateway.GatewayPlayer.valid, Bool.and_eq_true] at h
  exact (of_decide_eq_true h.1.1.1.2).1

/-- An online message opens a load, or it is ignored, or it binds the actor. -/
theorem onPlayerBinding_online (s : LogicThread) (env : Env) (hm : m.method = kOnline) :
    s.opensLoad m = true ∧ s.onPlayerBinding env m = s.openLoad env m ∧ m.valid = true ∨
    s.opensLoad m = false ∧ (s.onPlayerBinding env m = some s ∨
      s.onPlayerBinding env m = some (s.bindActor m) ∧ m.valid = true ∧
        (s.persistenceEnabled = true → s.playerLoads.lookup m.clientBinding.playerId = none)) := by
  unfold onPlayerBinding opensLoad
  cases hdraining : s.draining with
  | true => exact .inr ⟨by simp, .inl (by simp)⟩
  | false =>
    cases hvalid : m.valid with
    | false => exact .inr ⟨by simp, .inl (by simp)⟩
    | true =>
      simp only [hm, online]
      cases hlatest : (s.latestClientBindings.lookup m.clientBinding.playerId).any
          (outdatedBy m.clientBinding) with
      | true => exact .inr ⟨by simp, .inl (by simp)⟩
      | false =>
        cases henabled : s.persistenceEnabled with
        | false => exact .inr ⟨by simp, .inr ⟨by simp, trivial, by simp⟩⟩
        | true =>
          cases hload : s.playerLoads.lookup m.clientBinding.playerId with
          | some load =>
            by_cases hsame : load.clientBinding = m.clientBinding ∧ load.session = m.session
            · exact .inr ⟨by simp [hsame], .inl (by simp [hsame])⟩
            · cases hold : outdatedBy m.clientBinding load.clientBinding with
              | true => exact .inr ⟨by simp [hold], .inl (by simp [hsame, hold])⟩
              | false => exact .inl ⟨by simp [hsame, hold], by simp [hsame, hold], trivial⟩
          | none =>
            cases hactor : s.players.get m.clientBinding.playerId with
            | some p => exact .inr ⟨by simp, .inr ⟨by simp, trivial, fun _ => rfl⟩⟩
            | none =>
              by_cases hfull : s.playerLoads.size < kMaxPlayers
              · refine .inl ⟨by simp [hfull], ?_, trivial⟩
                simp [Nat.not_le.mpr hfull]
              · refine .inr ⟨by simp [hfull], .inl ?_⟩
                simp [Nat.not_lt.mp hfull]

section Total

theorem fold_total {f : LogicThread → Nat → Option LogicThread} {I : LogicThread → Prop}
    (htotal : ∀ s k, I s → ∃ t, f s k = some t)
    (hstep : ∀ s k t, I s → f s k = some t → I t) :
    ∀ (ks : List Nat) {s : LogicThread}, I s → ∃ t, ks.foldlM f s = some t := by
  intro ks
  induction ks with
  | nil => exact fun {s} _ => ⟨s, rfl⟩
  | cons k ks ih =>
    intro s hs
    obtain ⟨u, hu⟩ := htotal s k hs
    obtain ⟨t, ht⟩ := ih (hstep s k u hs hu)
    exact ⟨t, by rw [List.foldlM_cons, hu]; exact ht⟩

/-- The load is not tried, or the database can hold the identity. -/
theorem advanceLoad_total (k : Nat) (h : (s.life k).load.isSome = true → k < 2 ^ 63) :
    ∃ t, s.advanceLoad env k = some t := by
  unfold advanceLoad
  split
  · exact ⟨_, rfl⟩
  · rename_i state hload
    split
    · exact ⟨_, rfl⟩
    · by_cases hid : k = 0
      · have hnone : s.players.getOrCreate k state.session = none := if_pos hid
        rw [hnone]
        exact ⟨_, rfl⟩
      · obtain ⟨epoch, players, hcreate, -, -⟩ := s.players.getOrCreate_spec k state.session hid
        rw [hcreate]
        have hmax : k < 2 ^ 63 := h (by simp [life, hload])
        have hbuild : ∃ body, PlayerSnapshotDao.buildLoad k = some body := by
          unfold PlayerSnapshotDao.buildLoad
          rw [if_neg (by omega)]
          exact ⟨_, rfl⟩
        obtain ⟨body, hbody⟩ := hbuild
        rw [hbody]
        exact ⟨_, rfl⟩

theorem advancePlayerLoads_total (h : ∀ k, (s.life k).load.isSome = true → k < 2 ^ 63) :
    ∃ t, s.advancePlayerLoads env = some t := by
  refine fold_total (I := fun s => ∀ k, (s.life k).load.isSome = true → k < 2 ^ 63)
    (fun s k hs => advanceLoad_total k (hs k)) (fun s k t hs h j hj => hs j ?_) _ h
  have htouch := advanceLoad_touches h
  by_cases hjk : j = k
  · subst hjk
    have hself := htouch.self
    generalize t.life j = l at hself hj
    cases hself with
    | idle => exact hj
    | failed state hload => rw [hload]; rfl
    | created state epoch hload => exact hj
    | submitted state epoch taskId body hload => rw [hload]; rfl
  · rwa [htouch.others j hjk] at hj

/-- A load that is tried for an identity that the database cannot hold. -/
theorem advancePlayerLoads_none {k : Nat} {state : LoadState} (hload : (s.life k).load = some state)
    (hfailed : state.failed = false) (htask : state.taskId = 0)
    (hblocked : (s.life k).blocked = false) (hid : 2 ^ 63 ≤ k) : s.advancePlayerLoads env = none := by
  cases h : s.advancePlayerLoads env with
  | none => rfl
  | some t =>
    have hadvanced := (advanced_once h).2.2 k
    generalize t.life k = l at hadvanced
    cases hadvanced with
    | idle hidle =>
      rcases hidle state hload with h | h | h
      · exact absurd (hfailed.symm.trans h) Bool.false_ne_true
      · exact absurd htask h
      · exact absurd (hblocked.symm.trans h) Bool.false_ne_true
    | failed state _ hzero => omega
    | created _ _ _ _ _ _ _ hmax => omega
    | submitted _ _ _ _ _ _ _ _ _ hmax => omega

theorem openLoad_life (s : LogicThread) (m : BindingMsg) :
    ∃ u : LogicThread, (∀ env, s.openLoad env m = u.advancePlayerLoads env) ∧
      (u.life m.clientBinding.playerId).load =
        some { session := m.session, clientBinding := m.clientBinding } ∧
      (∀ k, (u.life k).record = (s.life k).record) ∧
      ∀ k, k ≠ m.clientBinding.playerId → (u.life k).load = (s.life k).load := by
  refine ⟨_, fun _ => rfl, ?_, fun _ => rfl, fun k hne => ?_⟩
  · simp [life]
  · simp [life, hne]

/-- An online message that opens a load is survived if the database can hold the identity. -/
theorem openLoad_some_iff (hs : Sane enabled s) :
    (∃ t, s.openLoad env m = some t) ↔ m.clientBinding.playerId < 2 ^ 63 := by
  obtain ⟨u, hopen, hload, hrecord, hothers⟩ := s.openLoad_life m
  rw [hopen]
  constructor
  · rintro ⟨t, ht⟩
    by_contra hid
    have hblocked : (u.life m.clientBinding.playerId).blocked = false := by
      rw [Life.blocked, hrecord]
      cases hr : (s.life m.clientBinding.playerId).record with
      | none => rfl
      | some r => exact absurd ((hs.life _).recordId (by rw [hr]; rfl)).2 hid
    cases (advancePlayerLoads_none hload rfl rfl hblocked (Nat.le_of_not_lt hid)).symm.trans ht
  · intro hid
    refine advancePlayerLoads_total fun k hk => ?_
    by_cases heq : k = m.clientBinding.playerId
    · exact heq ▸ hid
    · rw [hothers k heq] at hk
      exact ((hs.life k).loadId hk).2.2

theorem logoutPlayer_total (hs : s.Orderly) (k : Nat) :
    ∃ t, (s.logoutPlayer env k).map (·.2) = some t := by
  cases hactor : s.players.get k with
  | none =>
    rw [logoutPlayer, hactor]
    exact ⟨_, rfl⟩
  | some p =>
    obtain ⟨ok, t, ops, hlogout, -⟩ := logoutPlayer_spec hactor hs env
    exact ⟨t, by rw [hlogout]; rfl⟩

theorem offline_total (hs : s.Orderly) (m : BindingMsg) : ∃ t, s.offline env m = some t := by
  have hactor : ∀ p, ∃ t, offline.offlineActor env s m p
      { s with latestClientBindings :=
          s.latestClientBindings.insert m.clientBinding.playerId m.clientBinding } = some t := by
    intro p
    unfold offline.offlineActor
    split
    · exact logoutPlayer_total ((s.noted_insert _ m.clientBinding).orderly hs) _
    · exact ⟨s, rfl⟩
  unfold offline
  dsimp only
  split
  · split
    · exact ⟨_, rfl⟩
    · exact hactor _
  · exact hactor _

theorem flush_total (hs : s.Orderly) : ∃ t, s.flushDirtyPlayers env = some t := by
  unfold flushDirtyPlayers
  split
  · exact ⟨s, rfl⟩
  · rename_i henabled
    refine fold_total (I := fun s => s.Orderly ∧ s.persistenceEnabled = true)
      (fun s k hs => ?_) (fun s k t hs h => ?_) _ ⟨hs, by simpa using henabled⟩
    · unfold flushPlayer
      split
      · exact ⟨s, rfl⟩
      · rename_i p hactor
        split
        · exact ⟨s, rfl⟩
        · obtain ⟨ok, t, hrequest, -⟩ :=
            requestSave_spec ((hs.1.keyed k).actor p hactor).1 hs.1 env false
          exact ⟨t, by rw [hrequest]; rfl⟩
    · have hround := flushPlayer_follows hs.2 h hs.1
      exact ⟨hround.moves.orderly hs.1, hround.enabled.trans hs.2⟩

theorem drain_total (hs : s.Orderly) (hdraining : s.draining = true) :
    ∃ t, s.drainRound env = some t := by
  refine fold_total (I := fun s => s.Orderly ∧ s.draining = true)
    (fun s k hs => logoutPlayer_total hs.1 k) (fun s k t hs h => ?_) _ ⟨hs, hdraining⟩
  have hmoves := drainPlayer_follows hs.2 h hs.1
  exact ⟨hmoves.orderly hs.1, hmoves.draining.trans hs.2⟩

end Total

/-- A step that does not open a load for an identity the database cannot hold. -/
def Survivable (s : LogicThread) (l : Env × Label) : Prop :=
  match l.2 with
  | .binding m => s.opensLoad m = true → m.clientBinding.playerId < 2 ^ 63
  | _ => True

theorem binding_some_iff (hs : Sane enabled s) (m : BindingMsg) :
    (∃ t, s.onPlayerBinding env m = some t) ↔
      (s.opensLoad m = true → m.clientBinding.playerId < 2 ^ 63) := by
  by_cases hm : m.method = kOnline
  · rcases s.onPlayerBinding_online env hm with ⟨hopens, heq, -⟩ | ⟨hnot, heq⟩
    · rw [heq, openLoad_some_iff hs]
      exact ⟨fun h _ => h, fun h => h hopens⟩
    · refine iff_of_true ?_ fun hopens => absurd (hnot.symm.trans hopens) Bool.false_ne_true
      rcases heq with heq | ⟨heq, -⟩
      · exact ⟨_, heq⟩
      · exact ⟨_, heq⟩
  · refine iff_of_true ?_ fun hopens => ?_
    · unfold onPlayerBinding
      split
      · exact ⟨s, rfl⟩
      · split
        · exact offline_total hs.orderly m
        · exact ⟨s, rfl⟩
    · simp [opensLoad, hm] at hopens

/-- No other step throws. -/
theorem step_some_iff (hs : Sane enabled s) (l : Env × Label) :
    (∃ t, s.step l = some t) ↔ s.Survivable l := by
  obtain ⟨env, l⟩ := l
  cases l with
  | binding m => exact binding_some_iff hs m
  | logoutReq playerId session binding =>
    refine iff_of_true ?_ trivial
    change ∃ t, s.onLogoutReq env playerId session binding = some t
    unfold onLogoutReq
    split
    · exact ⟨s, rfl⟩
    · split
      · exact logoutPlayer_total hs.orderly playerId
      · exact ⟨s, rfl⟩
  | advance =>
    refine iff_of_true ?_ trivial
    change ∃ t, (if s.draining then some s else s.advancePlayerLoads env) = some t
    split
    · exact ⟨s, rfl⟩
    · exact advancePlayerLoads_total fun k hk => ((hs.life k).loadId hk).2.2
  | flush =>
    refine iff_of_true ?_ trivial
    change ∃ t, (if s.draining then some s else s.flushDirtyPlayers env) = some t
    split
    · exact ⟨s, rfl⟩
    · exact flush_total hs.orderly
  | tick => exact iff_of_true ⟨_, rfl⟩ trivial
  | dbResult => exact iff_of_true ⟨_, rfl⟩ trivial
  | mutate => exact iff_of_true ⟨_, rfl⟩ trivial
  | beginDrain =>
    refine iff_of_true ?_ trivial
    change ∃ t, (if s.draining then some s else some s.beginDrain) = some t
    split
    · exact ⟨_, rfl⟩
    · exact ⟨_, rfl⟩
  | drain =>
    refine iff_of_true ?_ trivial
    change ∃ t, (if s.draining then s.drainRound env else some s) = some t
    split
    · rename_i hdraining
      exact drain_total hs.orderly hdraining
    · exact ⟨s, rfl⟩

/-- What can have become of the player of an online message. -/
inductive Handled (s : LogicThread) (env : Env) (m : BindingMsg) (t : LogicThread) : Prop
  | ignored (h : s.onPlayerBinding env m = some s)
  | loaded (p : Player) (hactor : t.players.get m.clientBinding.playerId = some p)
      (hsession : p.session = m.session) (hbinding : p.clientBinding = m.clientBinding)
      (hload : t.playerLoads.lookup m.clientBinding.playerId = none)
  | loading (state : LoadState) (hload : t.playerLoads.lookup m.clientBinding.playerId = some state)
      (hsession : state.session = m.session) (hbinding : state.clientBinding = m.clientBinding)
      (hfailed : state.failed = false)
  | failed (state : LoadState) (hload : t.playerLoads.lookup m.clientBinding.playerId = some state)
      (hsession : state.session = m.session) (hbinding : state.clientBinding = m.clientBinding)
      (hfailed : state.failed = true)

theorem handled_of_bound
    (h : (t.life m.clientBinding.playerId).Bound m.session m.clientBinding) : Handled s env m t := by
  rcases h with ⟨p, hactor, hsession, hbinding, hnone⟩ | ⟨state, hload, hsession, hbinding⟩
  · exact .loaded p hactor hsession hbinding hnone
  · cases hfailed : state.failed with
    | true => exact .failed state hload hsession hbinding hfailed
    | false => exact .loading state hload hsession hbinding hfailed

/-- The player of an online message that is not ignored is bound to it. -/
theorem binding_bound (hs : Sane enabled s) (hm : m.method = kOnline)
    (h : s.onPlayerBinding env m = some t) :
    s.onPlayerBinding env m = some s ∨
      (t.life m.clientBinding.playerId).Bound m.session m.clientBinding := by
  rcases s.onPlayerBinding_online env hm with ⟨-, heq, -⟩ | ⟨-, heq | ⟨heq, hvalid, hnone⟩⟩
  · obtain ⟨u, hopen, hload, -, -⟩ := s.openLoad_life m
    rw [heq, hopen] at h
    exact .inr (((advanced_once h).2.2 _).bound (.inr ⟨_, hload, rfl, rfl⟩))
  · exact .inl heq
  · rw [heq] at h
    cases h
    have hload : (s.life m.clientBinding.playerId).load = none := by
      cases henabled : s.persistenceEnabled with
      | true => exact hnone henabled
      | false =>
        cases hsome : (s.life m.clientBinding.playerId).load with
        | none => rfl
        | some state =>
          have hen := ((hs.life _).loadId (by rw [hsome]; rfl)).1
          exact absurd (henabled.symm.trans (hs.same.trans hen)) Bool.false_ne_true
    obtain ⟨epoch, hlife⟩ := (bindActor_touches (s := s) (playerId_ne_zero hvalid)).self
    rw [hlife]
    exact .inr (.inl ⟨_, rfl, rfl, rfl, hload⟩)

/-- No round unbinds a player. -/
theorem rounds_bound {session k : Nat} {d : ClientData} {rounds : List (Env × Label)}
    (hrounds : ∀ l ∈ rounds, l.2.isRound = true) (hs : Sane enabled s)
    (hb : (s.life k).Bound session d) (h : Run.exec step s rounds = some t) :
    (t.life k).Bound session d := by
  have hstep : ∀ s l t, Sane enabled s ∧ (s.life k).Bound session d → l.2.isRound = true →
      step s l = some t → Sane enabled t ∧ (t.life k).Bound session d := by
    intro s l t hI hl hst
    refine ⟨sane_step hI.1 hst, ?_⟩
    have hmoves := Follows.moves (round_follows hl hst hI.1.orderly) k
    rw [hI.1.same] at hmoves
    suffices hboth : (t.life k).Sane enabled k ∧ (t.life k).Bound session d from hboth.2
    generalize t.life k = l at hmoves ⊢
    induction hmoves with
    | refl => exact ⟨hI.1.life k, hI.2⟩
    | tail _ hround ih => exact ⟨hround.sane ih.1, hround.bound ih.1 ih.2⟩
  have hok : Run.Along step (fun _ l => l.2.isRound = true) s rounds :=
    Run.along_of_labels fun l hl _ => hrounds l hl
  exact (Run.along_invariant (fun s => Sane enabled s ∧ (s.life k).Bound session d) hstep
    ⟨hs, hb⟩ hok h).2

theorem rounds_total {rounds : List (Env × Label)} (hrounds : ∀ l ∈ rounds, l.2.isRound = true)
    (hs : Sane enabled s) : ∃ t, Run.exec step s rounds = some t := by
  rw [Run.exec_some_iff_along (Sane enabled) (fun _ _ _ hs h => sane_step hs h)
    (fun s l hs => step_some_iff hs l) hs]
  refine Run.along_of_labels fun l hl s => ?_
  obtain ⟨env, l⟩ := l
  cases l with
  | binding m => cases hrounds _ hl
  | _ => trivial

/-- A run ends with an exception exactly when it comes to an online message that opens a load for
an identity that the database cannot hold; every other online message is handled. -/
theorem online_survives_iff (enabled : Bool) (ls : List (Env × Label)) :
    ((∃ s, Run.exec step (started enabled) ls = some s) ↔
      Run.Along step Survivable (started enabled) ls) ∧
    ∀ s, Run.exec step (started enabled) ls = some s →
      ∀ env m rounds, m.method = kOnline → (∀ l ∈ rounds, l.2.isRound = true) →
        ((∃ t, Run.exec step s ((env, .binding m) :: rounds) = some t ∧ Handled s env m t) ↔
          (s.opensLoad m = true → m.clientBinding.playerId < 2 ^ 63)) := by
  refine ⟨Run.exec_some_iff_along (Sane enabled) (fun _ _ _ hs h => sane_step hs h)
    (fun s l hs => step_some_iff hs l) (sane_started enabled), ?_⟩
  intro s hrun env m rounds hm hrounds
  have hs := sane_exec (sane_started enabled) hrun
  have hsome : (∃ t, s.onPlayerBinding env m = some t) ↔ _ := binding_some_iff hs m
  rw [← hsome]
  constructor
  · rintro ⟨t, ht, -⟩
    obtain ⟨u, hu, -⟩ := Run.exec_cons_some ht
    exact ⟨u, hu⟩
  · rintro ⟨u, hu⟩
    have hsane : Sane enabled u := sane_step (l := (env, .binding m)) hs hu
    obtain ⟨t, ht⟩ := rounds_total hrounds hsane
    refine ⟨t, ?_, ?_⟩
    · rw [Run.exec_cons]
      change (s.onPlayerBinding env m).bind _ = _
      rw [hu]
      exact ht
    · rcases binding_bound hs hm hu with hignored | hb
      · exact .ignored hignored
      · exact handled_of_bound (rounds_bound hrounds hsane hb ht)

section Examples

/-- Everything is accepted. -/
def willing : Env where
  saves := fun _ => { submit := fun _ => true, newTaskId := 1 }
  submitLoad := fun _ => true
  newTaskId := fun _ => 1
  leaveScene := fun _ => true
  onPlayerLogout := fun _ => []

/-- The first message of a client. -/
def comesOnline (playerId : Nat) : BindingMsg where
  method := kOnline
  session := 3
  playerId
  clientBinding := { playerId, clientSession := 5, clientEpoch := 1, gatewayId := 1, sceneId := 1 }

theorem online_survives_iff_accepted :
    ∃ t, Run.exec step (started true) [(willing, .binding (comesOnline 7)), (willing, .advance)] =
      some t ∧ Handled (started true) willing (comesOnline 7) t :=
  ((online_survives_iff true []).2 (started true) rfl willing (comesOnline 7)
    [(willing, .advance)] rfl (by simp [Label.isRound])).mpr fun _ => by decide

/-- A client whose identity is the first that the database cannot hold ends the thread. -/
theorem online_of_large_id_throws :
    Gateway.GatewayPlayer.valid (comesOnline (2 ^ 63)).clientBinding = true ∧
      (started true).step (willing, .binding (comesOnline (2 ^ 63))) = none :=
  ⟨by decide, rfl⟩

end Examples

end LogicThread

end Scene
