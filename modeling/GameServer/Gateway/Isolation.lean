import GameServer.Gateway.Steps

/-!
# Responses and pushes stay with their player

As long as no connection that is authenticated takes another player's number, every
entry of the player index and every outstanding route belongs to the player its
session is authenticated as. A repeated `Auth` under another number leaves both
behind.
-/

namespace Gateway

namespace GatewayDispatcher

variable {cfg : DispatcherConfig} {g g' : GatewayDispatcher}

/-- Every response answers a request that this session sent under the identity it has when the
response is delivered, and every push for a player went to a session authenticated as that
player. -/
structure Isolated (g : GatewayDispatcher) : Prop where
  response : ∀ d ∈ g.toClients, d.frame.head.kind = .response → ∃ r a s,
    d.cause = .answer r ∧ (r, some a) ∈ g.asked ∧ d.frame.head.requestId = r.clientRequestId ∧
      a.sessionId = d.sessionId ∧ d.holder = some s ∧ s.sessionId = d.sessionId ∧
      s.authed = true ∧ s.playerId = a.playerId ∧ s.epoch = a.epoch
  push : ∀ d ∈ g.toClients, ∀ p, d.cause = .push p → ∃ s, d.holder = some s ∧
    s.sessionId = d.sessionId ∧ s.authed = true ∧ s.playerId = p

/-- No `Auth` gives an authenticated session to another player. -/
def KeepsPlayer (cfg : DispatcherConfig) (g : GatewayDispatcher) : Step → Prop
  | .clientFrame sid h body _ => ∀ s ∈ g.sessions.get sid, ∀ p ∈ authPlayer cfg h body,
      s.authed = true → g.sessions.lastEpoch p ≠ uint32Max → p = s.playerId
  | _ => True

instance (l : Step) : Decidable (KeepsPlayer cfg g l) :=
  match l with
  | .clientFrame sid h body _ =>
    inferInstanceAs (Decidable (∀ s ∈ g.sessions.get sid, ∀ p ∈ authPlayer cfg h body,
      s.authed = true → g.sessions.lastEpoch p ≠ uint32Max → p = s.playerId))
  | .clientConnected | .clientClosed _ | .backendConnected | .backendClosed _
  | .backendFrame _ _ _ | .sweep _ | .runLoop _ _ | .lose _ => inferInstanceAs (Decidable True)

/-- Index entries and routes belong to the player of their session. -/
structure Owned (g : GatewayDispatcher) : Prop where
  index : ∀ p sid, g.sessions.playerIndex.lookup p = some sid →
    ∃ s, g.sessions.get sid = some s ∧ s.authed = true ∧ s.playerId = p
  asked : ∀ seq r, g.routes.lookup seq = some r → ∃ a, (r, some a) ∈ g.asked ∧
    a.sessionId = r.clientSessionId ∧ a.playerId = r.playerId ∧ a.epoch = r.sessionEpoch
  routes : ∀ seq r s, g.routes.lookup seq = some r →
    g.sessions.get r.clientSessionId = some s → s.authed = true ∧ s.playerId = r.playerId
  log : Isolated g

theorem Isolated.frame (h : Isolated g) (hclients : g'.toClients = g.toClients)
    (hasked : ∀ x ∈ g.asked, x ∈ g'.asked) : Isolated g' where
  response := fun d hd hkind => by
    obtain ⟨r, a, s, hcause, hmem, hrest⟩ := h.response d (hclients ▸ hd) hkind
    exact ⟨r, a, s, hcause, hasked _ hmem, hrest⟩
  push := fun d hd => h.push d (hclients ▸ hd)

/-- One more frame, which is neither a response nor a push or is the right one. -/
theorem Isolated.append (h : Isolated g) {ds : List ClientSend}
    (hclients : g'.toClients = g.toClients ++ ds) (hasked : g'.asked = g.asked)
    (hnew : ∀ d ∈ ds, (d.frame.head.kind = .response → ∃ r a s,
      d.cause = .answer r ∧ (r, some a) ∈ g.asked ∧ d.frame.head.requestId = r.clientRequestId ∧
        a.sessionId = d.sessionId ∧ d.holder = some s ∧ s.sessionId = d.sessionId ∧
        s.authed = true ∧ s.playerId = a.playerId ∧ s.epoch = a.epoch) ∧
      ∀ p, d.cause = .push p → ∃ s, d.holder = some s ∧
        s.sessionId = d.sessionId ∧ s.authed = true ∧ s.playerId = p) : Isolated g' where
  response := fun d hd hkind => by
    rw [hasked]
    rw [hclients] at hd
    rcases List.mem_append.mp hd with hd | hd
    · exact h.response d hd hkind
    · exact (hnew d hd).1 hkind
  push := fun d hd => by
    rw [hclients] at hd
    rcases List.mem_append.mp hd with hd | hd
    · exact h.push d hd
    · exact (hnew d hd).2

/-- Sessions keep their player, are new, or have no route. -/
theorem Owned.frame (h : Owned g) (hsane : Sane cfg g)
    (hindex : ∀ p sid, g'.sessions.playerIndex.lookup p = some sid →
      ∃ s, g'.sessions.get sid = some s ∧ s.authed = true ∧ s.playerId = p)
    (hsessions : ∀ id s', g'.sessions.get id = some s' → g.sessions.nextSessionId ≤ id ∨
      ∃ s, g.sessions.get id = some s ∧
        (s.authed = true → s'.authed = true ∧ s'.playerId = s.playerId))
    (hroutes : ∀ seq r, g'.routes.lookup seq = some r → g.routes.lookup seq = some r)
    (hasked : ∀ x ∈ g.asked, x ∈ g'.asked) (hclients : g'.toClients = g.toClients) : Owned g' where
  index := hindex
  asked := fun seq r hr => by
    obtain ⟨a, hmem, hrest⟩ := h.asked seq r (hroutes seq r hr)
    exact ⟨a, hasked _ hmem, hrest⟩
  routes := fun seq r s' hr hs' => by
    have hold := hroutes seq r hr
    rcases hsessions _ s' hs' with hge | ⟨s, hs, hkeep⟩
    · exact absurd (hsane.routes seq r hold).2.2.2 (Nat.not_lt.mpr hge)
    · obtain ⟨hauthed, hplayer⟩ := h.routes seq r s hold hs
      exact ⟨(hkeep hauthed).1, (hkeep hauthed).2.trans hplayer⟩
  log := h.log.frame hclients hasked

/-- Only the log, the routes that ended and other parts of the state changed. -/
theorem Owned.same (h : Owned g) (hsessions : g'.sessions = g.sessions)
    (hroutes : ∀ seq r, g'.routes.lookup seq = some r → g.routes.lookup seq = some r)
    (hasked : g'.asked = g.asked) (hlog : Isolated g') : Owned g' where
  index := hsessions ▸ h.index
  asked := fun seq r hr => hasked ▸ h.asked seq r (hroutes seq r hr)
  routes := fun seq r s hr hs => h.routes seq r s (hroutes seq r hr) (hsessions ▸ hs)
  log := hlog

/-- A session is replaced by one of the same player. -/
theorem Owned.replaced (h : Owned g) (hsane : Sane cfg g) {sid : Nat} {s s' : ClientSession}
    (hs : g.sessions.get sid = some s)
    (hget : ∀ id, g'.sessions.get id = if id = sid then some s' else g.sessions.get id)
    (hauthed : s'.authed = s.authed) (hplayer : s'.playerId = s.playerId)
    (hindex : g'.sessions.playerIndex = g.sessions.playerIndex) (hroutes : g'.routes = g.routes)
    (hasked : g'.asked = g.asked) (hclients : g'.toClients = g.toClients) : Owned g' := by
  refine h.frame hsane (fun p id hidx => ?_) (fun id x' hx' => .inr ?_)
    (fun _ _ hr => hroutes ▸ hr) (fun _ hx => hasked ▸ hx) hclients
  · obtain ⟨x, hx, hxa, hxp⟩ := h.index p id (hindex ▸ hidx)
    rw [hget]
    by_cases hid : id = sid
    · rw [hid] at hx
      cases hs.symm.trans hx
      exact ⟨s', if_pos hid, hauthed.trans hxa, hplayer.trans hxp⟩
    · exact ⟨x, (if_neg hid).trans hx, hxa, hxp⟩
  · rw [hget] at hx'
    split at hx'
    · rename_i hid
      cases hx'
      exact ⟨s, hid ▸ hs, fun ha => ⟨hauthed.trans ha, hplayer⟩⟩
    · exact ⟨x', hx', fun ha => ⟨ha, rfl⟩⟩

theorem Effect.owned (heff : Effect cfg g g') (hsane : Sane cfg g) (h : Owned g) : Owned g' := by
  have herase : ∀ k seq r, (g.routes.erase k).lookup seq = some r → g.routes.lookup seq = some r :=
    fun _ _ _ hr => (ReturnRouteTable.of_erase hr).1
  cases heff with
  | lost conn => exact h.same rfl (fun _ _ => id) rfl (h.log.frame rfl fun _ => id)
  | sent d hcause hkind =>
    refine h.same rfl (fun _ _ => id) rfl (h.log.append rfl rfl fun x hx => ?_)
    cases List.mem_singleton.mp hx
    refine ⟨fun hresp => absurd hresp hkind, fun p hp => ?_⟩
    rcases hcause with hc | hc <;> rw [hc] at hp <;> cases hp
  | pushed s frame p hs hkind =>
    refine h.same rfl (fun _ _ => id) rfl (h.log.append rfl rfl fun x hx => ?_)
    cases List.mem_singleton.mp hx
    refine ⟨fun hresp => absurd (hkind.symm.trans hresp) nofun, fun q hq => ?_⟩
    cases hq
    -- the index entry of a player points to a session authenticated as the player
    unfold ClientSessionTable.findByPlayer at hs
    split at hs
    · cases hs
    obtain ⟨sid, hidx, hget⟩ := Option.bind_eq_some_iff.mp hs
    obtain ⟨x, hx, hxa, hxp⟩ := h.index p sid hidx
    cases hget.symm.trans hx
    obtain ⟨hkey, _⟩ := hsane.sessions.key sid s hget
    exact ⟨s, hkey.symm ▸ hget, rfl, hxa, hxp⟩
  | registry services hreg => exact h.same rfl (fun _ _ => id) rfl (h.log.frame rfl fun _ => id)
  | accepted => exact h.same rfl (fun _ _ => id) rfl (h.log.frame rfl fun _ => id)
  | opened =>
    have hget := ClientSessionTable.get_create g.sessions g.nextConnId cfg.defaultDstService
    refine h.frame hsane (fun p sid hidx => ?_) (fun id s' hs' => ?_) (fun _ _ => id)
      (fun _ => id) rfl
    · obtain ⟨s, hs, hsa, hsp⟩ := h.index p sid hidx
      have hlt := (hsane.sessions.key sid s hs).2.2
      refine ⟨s, ?_, hsa, hsp⟩
      rw [hget, if_neg (Nat.ne_of_lt hlt)]
      exact hs
    · rw [hget] at hs'
      split at hs'
      · rename_i hid
        exact .inl hid.ge
      · exact .inr ⟨s', hs', fun ha => ⟨ha, rfl⟩⟩
  | assigned sid sceneId channelId incarnation conn =>
    rcases g.sessions.setSceneBinding_cases sid sceneId channelId incarnation conn with
      heq | ⟨_, _, _, s, hs, _, _, _, heq⟩
    · rw [heq]
      exact h.same rfl (fun _ _ => id) rfl (h.log.frame rfl fun _ => id)
    · rw [heq]
      exact h.replaced hsane hs (fun id => Table.lookup_insert _ _ _ _) rfl rfl rfl rfl rfl rfl
  | skipped => exact h.same rfl (fun _ _ => id) rfl (h.log.frame rfl fun _ => id)
  | added s ep dst hd nowMs hs hauthed hscene =>
    refine
      { index := h.index
        asked := fun seq r hr => ?_
        routes := fun seq r s' hr hs' => ?_
        log := h.log.frame rfl fun x hx => List.mem_append_left _ hx }
    · rw [Table.lookup_insert] at hr
      split at hr
      · cases hr
        exact ⟨s, List.mem_append_right _ (by simp [hs]), rfl, rfl, rfl⟩
      · obtain ⟨a, hmem, hrest⟩ := h.asked seq r hr
        exact ⟨a, List.mem_append_left _ hmem, hrest⟩
    · rw [Table.lookup_insert] at hr
      split at hr
      · cases hr
        cases hs.symm.trans hs'
        exact ⟨hauthed, rfl⟩
      · exact h.routes seq r s' hr hs'
  | answered r s head body hr hs hauthed hepoch hconn hid hkind =>
    refine h.same rfl (herase _) rfl (h.log.append rfl rfl fun x hx => ?_)
    cases List.mem_singleton.mp hx
    refine ⟨fun _ => ?_, fun p hp => nomatch hp⟩
    obtain ⟨a, hmem, hasession, haplayer, haepoch⟩ := h.asked _ r hr
    obtain ⟨hkey, _⟩ := hsane.sessions.key _ s hs
    exact ⟨r, a, s, rfl, hmem, hid, hasession.trans hkey.symm, hkey.symm ▸ hs, rfl, hauthed,
      (h.routes _ r s hr hs).2.trans haplayer.symm, hepoch.trans haepoch.symm⟩
  | dropped r hr why => exact h.same rfl (herase _) rfl (h.log.frame rfl fun _ => id)
  | swept nowMs =>
    rw [sweepRoutes_eq]
    refine h.same rfl (fun seq r hr => ?_) rfl (h.log.append rfl rfl fun d hd => ?_)
    · rw [Table.lookup_keep, Option.filter_eq_some_iff] at hr
      exact hr.1
    · obtain ⟨r, _, hsend⟩ := List.mem_filterMap.mp hd
      obtain ⟨s, _, rfl⟩ := Option.map_eq_some_iff.mp hsend
      exact ⟨nofun, nofun⟩
  | queued s ep frame seq hs hdecl hep hseq hroute =>
    exact h.same rfl (fun _ _ => id) rfl (h.log.frame rfl fun _ => id)
  | relayed conn frame => exact h.same rfl (fun _ _ => id) rfl (h.log.frame rfl fun _ => id)
  | refused conn sub rest hnext why =>
    exact h.same rfl (fun _ _ => id) rfl (h.log.frame rfl fun _ => id)
  | broken conn sub rest hnext =>
    exact h.same rfl (fun _ _ => id) rfl (h.log.frame rfl fun _ => id)
  | declared conn sub rest s hnext hready honline hs hcur =>
    exact h.replaced hsane hs (fun id => Table.lookup_insert _ _ _ _) rfl rfl rfl rfl rfl rfl
  | withdrawn conn sub rest hnext hready honline =>
    exact h.same rfl (fun _ _ => id) rfl (h.log.frame rfl fun _ => id)

theorem Major.owned {l : Step} (hmaj : Major cfg g l g') (hsane : Sane cfg g) (h : Owned g)
    (hok : KeepsPlayer cfg g l) : Owned g' := by
  cases hmaj with
  | closed sid hconn =>
    rw [onClientClosed_eq]
    refine h.frame hsane (fun p id hidx => ?_) (fun id s' hs' => .inr ⟨s', ?_, fun ha => ⟨ha, rfl⟩⟩)
      (fun seq r hr => ?_) (fun _ => id) rfl
    · obtain ⟨hidx', hother⟩ := ClientSessionTable.index_erase g.sessions sid hidx
      obtain ⟨s, hs, hsa, hsp⟩ := h.index p id hidx'
      have hne : id ≠ sid := by
        intro heq
        have hplayer := (hsane.sessions.epoch id s hs hsa).1
        exact hother s (heq ▸ hs) hplayer hsp.symm heq
      exact ⟨s, by rw [ClientSessionTable.get_erase, if_neg hne, hs], hsa, hsp⟩
    · rw [ClientSessionTable.get_erase] at hs'
      split at hs'
      · cases hs'
      · exact hs'
    · exact (ReturnRouteTable.of_eraseBySession hr).1
  | @login sid hd body nowMs s p dst kicked t hp hdst hbound =>
    have hplayer : s.authed = true → p = s.playerId := fun ha =>
      hok s hbound.found p hp ha hbound.fresh
    have hget := hbound.get_kicked
    obtain ⟨hclients, -, hasked, -⟩ := relogged_logs cfg g t kicked
      (s.bound p dst (g.sessions.lastEpoch p + 1))
    obtain ⟨hsessions, hroutes, -⟩ := relogged_fields cfg g t kicked
      (s.bound p dst (g.sessions.lastEpoch p + 1))
    rw [← hsessions] at hget
    -- the session that gave way was the player's, so no other entry points to it
    have hrival : kicked ≠ 0 → g.sessions.playerIndex.lookup p = some kicked := by
      intro hk
      have hrival := hbound.rival
      unfold ClientSessionTable.rival at hrival
      split at hrival
      · rename_i other hother
        split at hrival
        · rw [hrival]
          exact hother
        · exact absurd hrival hk
      · exact absurd hrival hk
    have hindex : ∀ q id, (relogged cfg g t kicked (s.bound p dst
        (g.sessions.lastEpoch p + 1))).sessions.playerIndex.lookup q = some id →
        t.playerIndex.lookup q = some id := by
      intro q id hq
      rw [hsessions] at hq
      split at hq
      · exact hq
      · exact (ClientSessionTable.index_erase t kicked hq).1
    have hold : ∀ seq r, (relogged cfg g t kicked (s.bound p dst
        (g.sessions.lastEpoch p + 1))).routes.lookup seq = some r →
        g.routes.lookup seq = some r := by
      intro seq r hr
      rw [hroutes] at hr
      split at hr
      · exact hr
      · exact (ReturnRouteTable.of_eraseBySession hr).1
    refine
      { index := fun q id hq => ?_
        asked := fun seq r hr => ?_
        routes := fun seq r s' hr hs' => ?_
        log := h.log.frame hclients fun x hx => by rw [hasked]; exact hx }
    · have hq' := hindex q id hq
      rw [hbound.index] at hq'
      rw [hget]
      by_cases hqp : q = p
      · rw [if_pos hqp] at hq'
        cases hq'
        exact ⟨_, if_pos rfl, rfl, hqp.symm⟩
      rw [if_neg hqp] at hq'
      obtain ⟨x, hx, hxa, hxq⟩ := h.index q id hq'
      have hid : id ≠ sid := by
        rintro rfl
        cases hbound.found.symm.trans hx
        exact hqp (hxq.symm.trans (hplayer hxa).symm)
      have hkick : ¬ (kicked ≠ 0 ∧ id = kicked) := by
        rintro ⟨hk, rfl⟩
        obtain ⟨y, hy, _, hyp⟩ := h.index p id (hrival hk)
        cases hx.symm.trans hy
        exact hqp (hxq.symm.trans hyp)
      exact ⟨x, by rw [if_neg hid, if_neg hkick, hx], hxa, hxq⟩
    · obtain ⟨a, hmem, hrest⟩ := h.asked seq r (hold seq r hr)
      rw [hasked]
      exact ⟨a, hmem, hrest⟩
    · have hr' := hold seq r hr
      rw [hget] at hs'
      split at hs'
      · rename_i hid
        cases hs'
        obtain ⟨hauthed, hrp⟩ := h.routes seq r s hr' (hid ▸ hbound.found)
        exact ⟨rfl, (hplayer hauthed).trans hrp⟩
      split at hs'
      · cases hs'
      · exact h.routes seq r s' hr' hs'
  | switched s s' service t hservice hauthed hne hsw =>
    rw [notifySceneBinding_eq]
    have hs' := hsw.changed hne
    exact h.replaced hsane hsw.found hsw.get (by simp [hs']) (by simp [hs']) hsw.index rfl rfl rfl

theorem owned_init : Owned (init cfg) where
  index := by simp [init]
  asked := by simp [init]
  routes := by simp [init]
  log := ⟨by simp [init], by simp [init]⟩

theorem owned_step {l : Step} (hsane : Sane cfg g) (h : Owned g) (hok : KeepsPlayer cfg g l)
    (hstep : step cfg g l = some g') : Owned g' :=
  step_induction hsane hstep (fun _ hmaj hg => hmaj.owned hsane hg hok)
    (fun _ _ hx heff hown => heff.owned hx hown) h

/-- Responses and pushes reach the player they are meant for, in every run in which no
authenticated connection takes another player's number. -/
theorem isolated_exec {ls : List Step}
    (hok : Run.Along (step cfg) (KeepsPlayer cfg) (init cfg) ls)
    (hrun : Run.exec (step cfg) (init cfg) ls = some g) : Isolated g :=
  (Run.along_invariant (fun g => Sane cfg g ∧ Owned g)
    (fun _ _ _ hi hstepOk hst => ⟨sane_step hi.1 hst, owned_step hi.1 hi.2 hstepOk hst⟩)
    ⟨sane_init, owned_init⟩ hok hrun).2.log

/-- A player asks its scene and is pushed a frame. -/
theorem isolated_exec_onePlayer :
    ∃ g, Run.exec (step smallZone) (init smallZone)
        [.backendConnected, sceneAnnounced 1 5 9, .clientConnected, authFrame 1 7, requestFrame 1 1,
          .runLoop 1 true, sceneResponse 1 1 7, scenePush 1 7] = some g ∧
      g.toClients.map (·.frame.head.kind) = [.control, .response, .push] ∧ Isolated g := by
  have hkinds : ((Run.exec (step smallZone) (init smallZone)
      [.backendConnected, sceneAnnounced 1 5 9, .clientConnected, authFrame 1 7, requestFrame 1 1,
        .runLoop 1 true, sceneResponse 1 1 7, scenePush 1 7]).any fun g =>
      g.toClients.map (·.frame.head.kind) = [.control, .response, .push]) = true := by
    decide +kernel
  obtain ⟨g, hg, hkinds⟩ := (Option.any_eq_true _ _).mp hkinds
  exact ⟨g, hg, of_decide_eq_true hkinds, isolated_exec (by decide +kernel) hg⟩

/-- The connection of player 7 authenticates again as player 8: the response to player 7's request
and a push for player 7 are delivered to it. -/
theorem repeated_auth_leaks :
    ¬ ∀ cfg ls g, Run.exec (step cfg) (init cfg) ls = some g → Isolated g := by
  intro hclaim
  have hleak : ((Run.exec (step smallZone) (init smallZone)
      [.backendConnected, sceneAnnounced 1 5 9, .clientConnected, authFrame 1 7, requestFrame 1 1,
        .runLoop 1 true, authFrame 1 8, scenePush 1 7, sceneResponse 1 1 7]).any fun g =>
      (g.toClients.any fun d => d.cause = .push 7 ∧ d.holder.all (·.playerId = 8)) &&
        g.toClients.any fun d => d.frame.head.kind = .response ∧
          d.holder.all (·.playerId = 8)) = true := by
    decide +kernel
  obtain ⟨g, hg, hleak⟩ := (Option.any_eq_true _ _).mp hleak
  obtain ⟨hpush, -⟩ := Bool.and_eq_true_iff.mp hleak
  obtain ⟨d, hd, hwrong⟩ := List.any_eq_true.mp hpush
  obtain ⟨hcause, hholder⟩ := of_decide_eq_true hwrong
  obtain ⟨s, hs, -, -, hplayer⟩ := (hclaim _ _ g hg).push d hd 7 hcause
  rw [hs] at hholder
  simp [hplayer] at hholder

end GatewayDispatcher

end Gateway
