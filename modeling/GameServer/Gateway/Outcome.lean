import GameServer.Gateway.Steps

/-!
# A request has one outcome

While its session stays connected and authenticated under the same epoch, a request
with a return route is either waiting in the table or was answered once.
-/

namespace Gateway

namespace GatewayDispatcher

variable {cfg : DispatcherConfig} {g g' : GatewayDispatcher} {r : ReturnRoute}

/-- A route was added for the request. -/
def Accepted (g : GatewayDispatcher) (r : ReturnRoute) : Prop := ∃ a, (r, a) ∈ g.asked

/-- The frames that ended the request. -/
def outcomes (g : GatewayDispatcher) (r : ReturnRoute) : Nat :=
  g.toClients.countP fun d => d.cause = .answer r

/-- The books on accepted requests are in order. -/
structure Book (g : GatewayDispatcher) : Prop where
  conns : ∀ id s, g.sessions.get id = some s → s.conn < g.nextConnId
  routes : ∀ seq r, g.routes.lookup seq = some r → Accepted g r
  known : ∀ r, Accepted g r →
    r.internalSeq < g.nextSeq ∧ r.clientSessionId < g.sessions.nextSessionId
  answers : ∀ d ∈ g.toClients, ∀ r, d.cause = .answer r → Accepted g r ∧
    d.sessionId = r.clientSessionId ∧ d.frame.head.requestId = r.clientRequestId ∧
      (d.frame.head.kind = .response ∨ d.frame.head.kind = .error)

/-- A request waits on its route, or was answered and has none. -/
inductive Tracked (g : GatewayDispatcher) (r : ReturnRoute) : Prop
  | waiting (hroute : g.routes.lookup r.internalSeq = some r) (hnone : outcomes g r = 0)
      (hscene : r.backendServiceId = ServerID.kScene → r.backendSceneId ≠ 0)
      (halong : ∀ s, g.sessions.get r.clientSessionId = some s → Along r s)
  | done (hroute : g.routes.lookup r.internalSeq = none) (hone : outcomes g r = 1)

theorem outcomes_append {d : ClientSend} (h : g'.toClients = g.toClients ++ [d]) :
    outcomes g' r = outcomes g r + if d.cause = .answer r then 1 else 0 := by
  simp [outcomes, h, List.countP_cons]

theorem outcomes_other {d : ClientSend} (h : g'.toClients = g.toClients ++ [d])
    (hcause : d.cause ≠ .answer r) : outcomes g' r = outcomes g r := by
  rw [outcomes_append h, if_neg hcause, Nat.add_zero]

section Bookkeeping

/-- The books after a step that accepts nothing. -/
theorem Book.frame (h : Book g) (hasked : g'.asked = g.asked)
    (hroutes : ∀ seq r, g'.routes.lookup seq = some r → Accepted g' r)
    (hconns : ∀ id s', g'.sessions.get id = some s' →
      s'.conn < g'.nextConnId ∨ ∃ s, g.sessions.get id = some s ∧ s'.conn = s.conn)
    (hnames : g.nextConnId ≤ g'.nextConnId) (hseqs : g.nextSeq ≤ g'.nextSeq)
    (hids : g.sessions.nextSessionId ≤ g'.sessions.nextSessionId)
    (hclients : ∀ d ∈ g'.toClients, d ∈ g.toClients ∨ ∀ r, d.cause = .answer r → Accepted g r ∧
      d.sessionId = r.clientSessionId ∧ d.frame.head.requestId = r.clientRequestId ∧
        (d.frame.head.kind = .response ∨ d.frame.head.kind = .error)) : Book g' := by
  have haccept : ∀ r, Accepted g' r ↔ Accepted g r := fun r => by simp [Accepted, hasked]
  refine ⟨fun id s' hs' => ?_, hroutes, fun r hr => ?_, fun d hd r hr => ?_⟩
  · rcases hconns id s' hs' with hlt | ⟨s, hs, heq⟩
    · exact hlt
    · rw [heq]
      exact Nat.lt_of_lt_of_le (h.conns id s hs) hnames
  · obtain ⟨h1, h2⟩ := h.known r ((haccept r).mp hr)
    exact ⟨Nat.lt_of_lt_of_le h1 hseqs, Nat.lt_of_lt_of_le h2 hids⟩
  · rw [haccept]
    rcases hclients d hd with hold | hnew
    · exact h.answers d hold r hr
    · exact hnew r hr

/-- Routes in the table belong to accepted requests. -/
theorem Effect.routes_accepted (heff : Effect cfg g g')
    (h : ∀ seq r, g.routes.lookup seq = some r → Accepted g r) :
    ∀ seq r, g'.routes.lookup seq = some r → Accepted g' r := by
  cases heff with
  | added s ep dst hd nowMs hs hauthed hscene =>
    intro seq r hr
    rw [Table.lookup_insert] at hr
    split at hr
    · cases hr
      exact ⟨_, List.mem_append_right _ (List.mem_singleton.mpr rfl)⟩
    · obtain ⟨a, hmem⟩ := h seq r hr
      exact ⟨a, List.mem_append_left _ hmem⟩
  | answered => exact fun seq r hr => h seq r (ReturnRouteTable.of_erase hr).1
  | dropped => exact fun seq r hr => h seq r (ReturnRouteTable.of_erase hr).1
  | swept nowMs =>
    rw [sweepRoutes_eq]
    intro seq r hr
    rw [Table.lookup_keep, Option.filter_eq_some_iff] at hr
    exact h seq r hr.1
  | _ => exact h

theorem Effect.book (heff : Effect cfg g g') (hsane : Sane cfg g) (h : Book g) : Book g' := by
  have hroutes := heff.routes_accepted h.routes
  have hconns : ∀ id s', g'.sessions.get id = some s' →
      s'.conn < g'.nextConnId ∨ ∃ s, g.sessions.get id = some s ∧ s'.conn = s.conn := by
    intro id s' hs'
    rcases heff.session hs' with ⟨_, hconn, hnext⟩ | ⟨s, hs, hkept⟩
    · rw [hconn, hnext]
      exact .inl (Nat.lt_succ_self _)
    · exact .inr ⟨s, hs, hkept.conn⟩
  have hnames := heff.nextConnId_le
  cases heff with
  | sent d hcause hkind =>
    refine h.frame rfl hroutes hconns hnames le_rfl le_rfl (List.forall_mem_append.mpr
      ⟨fun _ => .inl, List.forall_mem_singleton.mpr (.inr fun r hr => ?_)⟩)
    rcases hcause with hc | hc <;> rw [hc] at hr <;> cases hr
  | pushed s frame p hs hkind =>
    exact h.frame rfl hroutes hconns hnames le_rfl le_rfl (List.forall_mem_append.mpr
      ⟨fun _ => .inl, List.forall_mem_singleton.mpr (.inr fun r hr => nomatch hr)⟩)
  | opened => exact h.frame rfl hroutes hconns hnames le_rfl (Nat.le_succ _) fun _ => .inl
  | assigned sid sceneId channelId incarnation conn =>
    exact h.frame rfl hroutes hconns hnames le_rfl
      (ClientSessionTable.nextSessionId_setSceneBinding _ _ _ _ _ _).ge fun _ => .inl
  | skipped => exact h.frame rfl hroutes hconns hnames (Nat.le_succ _) le_rfl fun _ => .inl
  | added s ep dst hd nowMs hs hauthed hscene =>
    have hkey := hsane.sessions.key _ s hs
    refine ⟨h.conns, hroutes, fun r hr => ?_, fun d hd r hr => ?_⟩
    · obtain ⟨a, hmem⟩ := hr
      rcases List.mem_append.mp hmem with hmem | hmem
      · obtain ⟨h1, h2⟩ := h.known r ⟨a, hmem⟩
        exact ⟨Nat.lt_succ_of_lt h1, h2⟩
      · cases List.mem_singleton.mp hmem
        exact ⟨Nat.lt_succ_self _, hkey.2.2⟩
    · obtain ⟨⟨a, hmem⟩, hrest⟩ := h.answers d hd r hr
      exact ⟨⟨a, List.mem_append_left _ hmem⟩, hrest⟩
  | answered r s head body hr hs hauthed hepoch hconn hid hkind =>
    refine h.frame rfl hroutes hconns hnames le_rfl le_rfl fun x hx => ?_
    rcases List.mem_append.mp hx with hx | hx
    · exact .inl hx
    · cases List.mem_singleton.mp hx
      refine .inr fun r' hr' => ?_
      cases hr'
      exact ⟨h.routes _ r hr, (hsane.sessions.key _ s hs).1, hid, hkind⟩
  | swept nowMs =>
    rw [sweepRoutes_eq] at hroutes hconns ⊢
    refine h.frame rfl hroutes hconns le_rfl le_rfl le_rfl fun x hx => ?_
    rcases List.mem_append.mp hx with hx | hx
    · exact .inl hx
    · refine .inr fun r' hr' => ?_
      obtain ⟨r, hr, hsend⟩ := List.mem_filterMap.mp hx
      obtain ⟨s, hs, rfl⟩ := Option.map_eq_some_iff.mp hsend
      obtain ⟨hs, -⟩ := Option.filter_eq_some_iff.mp hs
      cases hr'
      obtain ⟨⟨seq, r⟩, hmem, rfl⟩ := List.mem_map.mp (List.mem_filter.mp hr).1
      exact ⟨h.routes seq r (Table.lookup_of_mem hmem), (hsane.sessions.key _ s hs).1, rfl, .inr rfl⟩
  | lost | registry | dropped | queued | relayed | refused | broken | withdrawn | accepted |
      declared =>
    exact h.frame rfl hroutes hconns hnames le_rfl le_rfl fun _ => .inl

/-- The large effects accept and answer nothing. -/
theorem Major.logs {l : Step} (hmaj : Major cfg g l g') : g'.toClients = g.toClients ∧
    g'.asked = g.asked ∧ g'.nextSeq = g.nextSeq ∧
      ∀ seq r, g'.routes.lookup seq = some r → g.routes.lookup seq = some r := by
  cases hmaj with
  | closed sid hconn =>
    rw [onClientClosed_eq]
    exact ⟨rfl, rfl, rfl, fun _ _ hr => (ReturnRouteTable.of_eraseBySession hr).1⟩
  | login s p dst kicked t hp hdst hbound =>
    obtain ⟨hclients, -, hasked, -⟩ := relogged_logs cfg g t kicked
      (s.bound p dst (g.sessions.lastEpoch p + 1))
    obtain ⟨-, hroutes, -, hseq, -⟩ := relogged_fields cfg g t kicked
      (s.bound p dst (g.sessions.lastEpoch p + 1))
    refine ⟨hclients, hasked, hseq, fun seq r hr => ?_⟩
    rw [hroutes] at hr
    split at hr
    · exact hr
    · exact (ReturnRouteTable.of_eraseBySession hr).1
  | switched =>
    rw [notifySceneBinding_eq]
    exact ⟨rfl, rfl, rfl, fun _ _ => id⟩

end Bookkeeping

section Tracking

/-- A session that can be reached after a small effect could be reached before. -/
theorem Effect.steady_back (heff : Effect cfg g g') (hbook : Book g)
    (hknown : r.clientSessionId < g.sessions.nextSessionId) (h : Steady g' r) : Steady g r := by
  obtain ⟨s', hs', hauthed, hepoch, hconn⟩ := h
  rcases heff.session hs' with ⟨hid, _⟩ | ⟨s, hs, hkept⟩
  · exact absurd hid (Nat.ne_of_lt hknown)
  refine ⟨s, hs, hkept.authed.symm.trans hauthed, hkept.epoch.symm.trans hepoch, ?_⟩
  rw [← hkept.conn]
  rcases heff.connected hconn with hold | hnew
  · exact hold
  · have hlt := hbook.conns _ s hs
    rw [← hkept.conn, hnew] at hlt
    exact absurd hlt (Nat.lt_irrefl _)

/-- Nothing happened to the request, and its session has the scene it had. -/
theorem Tracked.frame (h : Tracked g r) (hclients : outcomes g' r = outcomes g r)
    (hroute : g'.routes.lookup r.internalSeq = g.routes.lookup r.internalSeq)
    (hsession : ∀ s', g'.sessions.get r.clientSessionId = some s' →
      ∃ s, g.sessions.get r.clientSessionId = some s ∧ (s.sceneId ≠ 0 → s'.sceneId = s.sceneId ∧
        s'.backendChannelId = s.backendChannelId ∧ s'.sceneIncarnation = s.sceneIncarnation ∧
        s'.sceneConnName = s.sceneConnName)) : Tracked g' r := by
  cases h with
  | waiting hr hnone hscene halong =>
    refine .waiting (hroute.trans hr) (hclients.trans hnone) hscene fun s' hs' hdst => ?_
    obtain ⟨s, hs, hkept⟩ := hsession s' hs'
    obtain ⟨h1, h2, h3, h4⟩ := halong s hs hdst
    obtain ⟨k1, k2, k3, k4⟩ := hkept (h1 ▸ hscene hdst)
    exact ⟨h1.trans k1.symm, h2.trans k2.symm, h3.trans k3.symm, h4.trans k4.symm⟩
  | done hr hone => exact .done (hroute.trans hr) (hclients.trans hone)

/-- The end of another request. -/
theorem Tracked.other {x : ReturnRoute} (h : Tracked g r)
    (hx : g.routes.lookup x.internalSeq = some x) (hne : x ≠ r) : r.internalSeq ≠ x.internalSeq := by
  intro hseq
  rw [← hseq] at hx
  cases h with
  | waiting hr _ _ _ => exact hne (Option.some.inj (hx.symm.trans hr))
  | done hr _ => cases hx.symm.trans hr

theorem Tracked.keep_route (h : Tracked g r) {sid : Nat} (hne : r.clientSessionId ≠ sid) :
    (g.routes.eraseBySession sid).lookup r.internalSeq = g.routes.lookup r.internalSeq := by
  rw [ReturnRouteTable.eraseBySession, Table.lookup_keep]
  cases h with
  | waiting hr _ _ _ => rw [hr, Option.filter_some, if_pos (by simpa using hne)]
  | done hr _ =>
    rw [hr]
    rfl

/-- A route stands in the table once. -/
theorem count_routes (h : Sane cfg g) (hr : g.routes.lookup r.internalSeq = some r) :
    (g.routes.entries.map (·.2)).count r = 1 := by
  have hmem : (⟨r.internalSeq, r⟩ : Σ _ : Nat, ReturnRoute) ∈ g.routes.entries :=
    Table.mem_entries.mpr hr
  have hnodup : (g.routes.entries.map (·.2)).Nodup := by
    refine List.Nodup.map_on (fun x hx y hy hxy => ?_) (AList.nodupKeys g.routes).nodup
    obtain ⟨kx, _⟩ := h.routes _ _ (Table.lookup_of_mem hx)
    obtain ⟨ky, _⟩ := h.routes _ _ (Table.lookup_of_mem hy)
    refine Sigma.ext (kx.symm.trans ((congrArg _ hxy).trans ky)) (heq_of_eq hxy)
  exact List.count_eq_one_of_mem hnodup (List.mem_map_of_mem hmem)

/-- The errors of a sweep answer a route as often as it is among the expired. -/
theorem count_timeOuts (hsteady : Steady g r) (rs : List ReturnRoute) :
    (rs.filterMap g.timeOutSend).countP (fun d => d.cause = .answer r) = rs.count r := by
  induction rs with
  | nil => rfl
  | cons x rs ih =>
    rw [List.filterMap_cons, List.count_cons]
    by_cases hx : x = r
    · obtain ⟨s, hs, h1, h2, h3⟩ := hsteady
      subst hx
      have hsend : ∃ d, g.timeOutSend x = some d ∧ d.cause = .answer x := by
        unfold timeOutSend
        rw [hs, Option.filter_some, if_pos (by simp [h1, h2, h3])]
        exact ⟨_, rfl, rfl⟩
      obtain ⟨d, hd, hcause⟩ := hsend
      simp [hd, hcause, ih]
    · have hother : ∀ d ∈ g.timeOutSend x, d.cause ≠ .answer r := by
        intro d hd
        obtain ⟨s, _, rfl⟩ := Option.map_eq_some_iff.mp hd
        exact fun heq => hx (Cause.answer.inj heq)
      cases hd : g.timeOutSend x with
      | none => simp [hx, ih]
      | some d => simp [hother d hd, hx, ih]

/-- A small effect ends a request with its answer only. -/
theorem Effect.tracked (heff : Effect cfg g g') (hsane : Sane cfg g)
    (hseq : r.internalSeq < g.nextSeq) (hknown : r.clientSessionId < g.sessions.nextSessionId)
    (hsteady : Steady g r) (h : Tracked g r) : Tracked g' r := by
  have hsession : ∀ s', g'.sessions.get r.clientSessionId = some s' →
      ∃ s, g.sessions.get r.clientSessionId = some s ∧ (s.sceneId ≠ 0 → s'.sceneId = s.sceneId ∧
        s'.backendChannelId = s.backendChannelId ∧ s'.sceneIncarnation = s.sceneIncarnation ∧
        s'.sceneConnName = s.sceneConnName) := by
    intro s' hs'
    rcases heff.session hs' with ⟨hid, _⟩ | ⟨s, hs, hkept⟩
    · exact absurd hid (Nat.ne_of_lt hknown)
    · exact ⟨s, hs, hkept.scene⟩
  cases heff with
  | sent d hcause hkind =>
    refine h.frame (outcomes_other rfl ?_) rfl hsession
    rcases hcause with hc | hc <;> rw [hc] <;> exact nofun
  | pushed s frame p hs hkind =>
    exact h.frame (outcomes_other rfl nofun) rfl hsession
  | added s ep dst hd nowMs hs hauthed hscene =>
    refine h.frame rfl ?_ hsession
    exact (Table.lookup_insert _ _ _ _).trans (if_neg (Nat.ne_of_lt hseq))
  | answered x s head body hx hs hauthed hepoch hconn hid hkind =>
    by_cases hxr : x = r
    · subst hxr
      cases h with
      | waiting hr hnone hscene halong =>
        refine .done ?_ ?_
        · exact (Table.lookup_erase _ _ _).trans (if_pos rfl)
        · rw [outcomes_append rfl, hnone, if_pos rfl]
      | done hr hone => cases hx.symm.trans hr
    · refine h.frame (outcomes_other rfl fun heq => hxr (Cause.answer.inj heq)) ?_ hsession
      exact (Table.lookup_erase _ _ _).trans (if_neg (h.other hx hxr))
  | dropped x hx why =>
    by_cases hxr : x = r
    · subst hxr
      cases h with
      | waiting hr hnone hscene halong =>
        rcases why with hno | ⟨s, hs, hoff⟩
        · exact absurd hsteady hno
        · exact absurd (halong s hs) hoff
      | done hr hone => cases hx.symm.trans hr
    · refine h.frame rfl ?_ hsession
      exact (Table.lookup_erase _ _ _).trans (if_neg (h.other hx hxr))
  | swept nowMs =>
    rw [sweepRoutes_eq] at hsession ⊢
    have hcount := count_timeOuts hsteady ((g.routes.entries.map (·.2)).filter
      (ReturnRouteTable.expired nowMs cfg.routeTtlMs))
    have hlookup := Table.lookup_keep
      (fun _ r => !ReturnRouteTable.expired nowMs cfg.routeTtlMs r) g.routes r.internalSeq
    cases h with
    | waiting hr hnone hscene halong =>
      by_cases hexp : ReturnRouteTable.expired nowMs cfg.routeTtlMs r = true
      · refine .done ?_ ?_
        · rw [hlookup, hr, Option.filter_some, if_neg (by simp [hexp])]
        · rw [List.count_filter hexp, count_routes hsane hr] at hcount
          show List.countP _ (g.toClients ++ _) = 1
          rw [List.countP_append, hcount]
          exact congrArg (· + 1) hnone
      · refine .waiting ?_ ?_ hscene halong
        · rw [hlookup, hr, Option.filter_some, if_pos (by simp [hexp])]
        · rw [List.count_eq_zero_of_not_mem fun hmem => hexp (List.mem_filter.mp hmem).2] at hcount
          show List.countP _ (g.toClients ++ _) = 0
          rw [List.countP_append, hcount]
          exact hnone
    | done hr hone =>
      refine .done ?_ ?_
      · rw [hlookup, hr]
        rfl
      · have hnot : r ∉ (g.routes.entries.map (·.2)).filter
            (ReturnRouteTable.expired nowMs cfg.routeTtlMs) := by
          intro hmem
          obtain ⟨⟨k, x⟩, hx, rfl⟩ := List.mem_map.mp (List.mem_filter.mp hmem).1
          have hk := Table.lookup_of_mem hx
          obtain ⟨hkey, _⟩ := hsane.routes _ _ hk
          rw [← hkey] at hk
          cases hk.symm.trans hr
        rw [List.count_eq_zero_of_not_mem hnot] at hcount
        show List.countP _ (g.toClients ++ _) = 1
        rw [List.countP_append, hcount]
        exact hone
  | lost | registry | skipped | queued | relayed | refused | broken | withdrawn | accepted |
      declared | opened | assigned => exact h.frame rfl rfl hsession

/-- A large effect that ends a request also ends the epoch of its session. -/
theorem Major.tracked {l : Step} (hmaj : Major cfg g l g') (hsane : Sane cfg g)
    (hsteady : Steady g' r) (hbefore : Steady g r) (h : Tracked g r) : Tracked g' r := by
  obtain ⟨s', hs', hauthed', hepoch', -⟩ := hsteady
  have hclients : outcomes g' r = outcomes g r := by
    unfold outcomes
    rw [hmaj.logs.1]
  cases hmaj with
  | closed sid hconn =>
    rw [onClientClosed_eq] at hs' hclients ⊢
    simp only [ClientSessionTable.get_erase] at hs'
    split at hs'
    · cases hs'
    rename_i hne
    refine h.frame hclients (h.keep_route hne) fun x hx => ?_
    rw [ClientSessionTable.get_erase, if_neg hne] at hx
    exact ⟨x, hx, fun _ => ⟨rfl, rfl, rfl, rfl⟩⟩
  | @login sid hd body nowMs s p dst kicked t hp hdst hbound =>
    have hget := hbound.get_kicked r.clientSessionId
    obtain ⟨hsessions, hroutes, -⟩ := relogged_fields cfg g t kicked
      (s.bound p dst (g.sessions.lastEpoch p + 1))
    rw [← hsessions] at hget
    have hkicked : ¬ (kicked ≠ 0 ∧ r.clientSessionId = kicked) := by
      rintro ⟨hk, hid⟩
      have hne : r.clientSessionId ≠ sid := by
        rw [hid, hbound.rival]
        exact ClientSessionTable.rival_ne (hbound.rival ▸ hk)
      rw [hs', if_neg hne, if_pos ⟨hk, hid⟩] at hget
      cases hget
    refine h.frame hclients ?_ fun x hx => ?_
    · rw [hroutes]
      split
      · rfl
      · rename_i hk
        exact h.keep_route fun hid => hkicked ⟨hk, hid⟩
    · rw [hx] at hget
      by_cases hid : r.clientSessionId = sid
      · rw [if_pos hid] at hget
        cases hget
        refine ⟨s, hid ▸ hbound.found, fun hscene => ?_⟩
        -- a session with a scene has a service, which the login leaves alone
        have hservice := (hsane.sessions.scene _ s hbound.found (.inr hscene)).1
        have hsame : s.dstService = dst := (hdst (by rw [hservice]; decide)).symm
        simp [ClientSession.bound, ClientSession.routed_same hsame]
      · rw [if_neg hid, if_neg hkicked] at hget
        exact ⟨x, hget.symm, fun _ => ⟨rfl, rfl, rfl, rfl⟩⟩
  | @switched sid hd body nowMs s s₁ service t hservice hauthed hne hsw =>
    rw [notifySceneBinding_eq] at hs' hclients ⊢
    refine h.frame hclients rfl fun x hx => ?_
    simp only [hsw.get] at hx hs'
    by_cases hid : r.clientSessionId = sid
    · -- the session got a new epoch
      rw [if_pos hid] at hs'
      cases hs'
      obtain ⟨y, hy, -, hyepoch, -⟩ := hbefore
      cases hy.symm.trans (hid ▸ hsw.found)
      rw [hsw.changed hne] at hepoch'
      simp only [hauthed, if_true] at hepoch'
      have hle := (hsane.sessions.epoch _ _ hsw.found hauthed).2.2
      rw [hyepoch, ← hepoch'] at hle
      exact absurd hle (Nat.not_succ_le_self _)
    · rw [if_neg hid] at hx
      exact ⟨x, hx, fun _ => ⟨rfl, rfl, rfl, rfl⟩⟩

/-- The step that adds the route of a request starts its track. -/
theorem Effect.tracked_of_accepted (heff : Effect cfg g g') (hbook : Book g)
    (hnew : ¬ Accepted g r) (h : Accepted g' r) : Tracked g' r := by
  cases heff with
  | added s ep dst hd nowMs hs hauthed hscene =>
    obtain ⟨a, hmem⟩ := h
    rcases List.mem_append.mp hmem with hmem | hmem
    · exact absurd ⟨a, hmem⟩ hnew
    cases List.mem_singleton.mp hmem
    refine .waiting (Table.lookup_insert_same _ _ _) ?_ (fun hdst => ?_) fun x hx hdst => ?_
    · refine List.countP_eq_zero.mpr fun d hd hcause => ?_
      exact hnew (hbook.answers d hd _ (of_decide_eq_true hcause)).1
    · exact fun hz => (hscene hdst).2 ((hscene hdst).1.2.2.1.symm.trans hz)
    · cases hs.symm.trans hx
      obtain ⟨⟨-, -, h3, h4, h5, h6⟩, -⟩ := hscene hdst
      exact ⟨h3, h4, h5, h6⟩
  | swept nowMs =>
    rw [sweepRoutes_eq] at h
    exact absurd h hnew
  | _ => exact absurd h hnew

theorem Effect.accepted_mono (heff : Effect cfg g g') (h : Accepted g r) : Accepted g' r := by
  obtain ⟨a, hmem⟩ := h
  cases heff with
  | added => exact ⟨a, List.mem_append_left _ hmem⟩
  | swept nowMs =>
    rw [sweepRoutes_eq]
    exact ⟨a, hmem⟩
  | _ => exact ⟨a, hmem⟩

theorem Effects.book (heff : Effects cfg g g') (hsane : Sane cfg g) (h : Book g) : Book g' := by
  induction heff with
  | refl => exact h
  | tail hbefore hlast ih => exact hlast.book (Effects.sane hbefore hsane) ih

/-- If the session can be reached after a chain of small effects, the request is on its track. -/
theorem Effects.tracked (heff : Effects cfg g g') (hsane : Sane cfg g) (hbook : Book g)
    (h : Accepted g r → Steady g r → Tracked g r) (hsteady : Accepted g' r → Steady g' r) :
    (Accepted g r → Steady g r) ∧ (Accepted g' r → Tracked g' r) := by
  induction heff with
  | refl => exact ⟨hsteady, fun hacc => h hacc (hsteady hacc)⟩
  | @tail x y hbefore hlast ih =>
    have hxsane := Effects.sane hbefore hsane
    have hxbook := Effects.book hbefore hsane hbook
    have hback : Accepted x r → Steady x r := fun hx =>
      hlast.steady_back hxbook (hxbook.known r hx).2 (hsteady (hlast.accepted_mono hx))
    obtain ⟨hfirst, htracked⟩ := ih hback
    refine ⟨hfirst, fun hy => ?_⟩
    by_cases hx : Accepted x r
    · exact hlast.tracked hxsane (hxbook.known r hx).1 (hxbook.known r hx).2 (hback hx)
        (htracked hx)
    · exact hlast.tracked_of_accepted hxbook hx hy

theorem Major.book {l : Step} (hmaj : Major cfg g l g') (h : Book g) : Book g' := by
  obtain ⟨hclients, hasked, hseq, hroutes⟩ := hmaj.logs
  obtain ⟨hnames, hids⟩ := hmaj.counters
  refine h.frame hasked (fun seq r hr => ?_) (fun id s' hs' => .inr (hmaj.session hs')) hnames.ge
    hseq.ge hids.ge fun d hd => .inl (hclients ▸ hd)
  obtain ⟨a, hmem⟩ := h.routes seq r (hroutes seq r hr)
  exact ⟨a, by rw [hasked]; exact hmem⟩

end Tracking

theorem book_init : Book (init cfg) where
  conns := by simp [init, ClientSessionTable.get]
  routes := by simp [init]
  known := by simp [init, Accepted]
  answers := by simp [init]

theorem book_step {l : Step} (hsane : Sane cfg g) (h : Book g) (hstep : step cfg g l = some g') :
    Book g' :=
  step_induction hsane hstep (fun _ hmaj hg => hmaj.book hg)
    (fun _ _ hx heff hb => heff.book hx hb) h

/-- A step after which the session can still be reached keeps the request on its track. -/
theorem tracked_step {l : Step} (hsane : Sane cfg g) (hbook : Book g)
    (hstep : step cfg g l = some g') (hbefore : Accepted g r → Steady g r)
    (hafter : Accepted g' r → Steady g' r) (h : Accepted g r → Tracked g r) :
    Accepted g' r → Tracked g' r := by
  rcases step_cases hsane hstep with heff | ⟨g₁, hmaj, heff⟩
  · exact (heff.tracked hsane hbook (fun hacc _ => h hacc) hafter).2
  · refine (heff.tracked (hmaj.sane hsane) (hmaj.book hbook) (fun hacc hsteady => ?_) hafter).2
    obtain ⟨a, hmem⟩ := hacc
    have hacc : Accepted g r := ⟨a, hmaj.logs.2.1 ▸ hmem⟩
    exact hmaj.tracked hsane hsteady (hbefore hacc) (h hacc)

/-- A request whose session has been reachable under the same epoch ever since its route was added
was answered at most once, and was answered or still has its route. -/
theorem one_outcome {ls : List Step} (hrun : Run.exec (step cfg) (init cfg) ls = some g)
    (hr : Accepted g r)
    (hsteady : ∀ ms x, ms <+: ls → Run.exec (step cfg) (init cfg) ms = some x → Accepted x r →
      Steady x r) :
    outcomes g r ≤ 1 ∧ (outcomes g r = 1 ∨ g.routes.lookup r.internalSeq = some r) := by
  have hinv : Sane cfg g ∧ Book g ∧ (Accepted g r → Tracked g r) := by
    refine Run.visited_induction (fun g => Sane cfg g ∧ Book g ∧ (Accepted g r → Tracked g r))
      (fun ms l x y hms hx hy ⟨hsane, hbook, htracked⟩ => ?_) ⟨sane_init, book_init, ?_⟩ hrun
    · have hxy : Run.exec (step cfg) (init cfg) (ms ++ [l]) = some y := by
        rw [Run.exec_append, hx, Option.bind_some, Run.exec_cons, hy]
        rfl
      exact ⟨sane_step hsane hy, book_step hsane hbook hy, tracked_step hsane hbook hy
        (hsteady ms x ((List.prefix_append ms [l]).trans hms) hx) (hsteady _ y hms hxy) htracked⟩
    · simp [init, Accepted]
  cases hinv.2.2 hr with
  | waiting hroute hnone _ _ =>
    exact ⟨hnone.le.trans (Nat.zero_le 1), .inr hroute⟩
  | done hroute hone => exact ⟨hone.le, .inl hone⟩

instance : Decidable (Accepted g r) :=
  decidable_of_iff (g.asked.any fun x => x.1 = r) <| by
    simp only [Accepted, List.any_eq_true, decide_eq_true_eq]
    constructor
    · rintro ⟨⟨_, a⟩, hmem, rfl⟩
      exact ⟨a, hmem⟩
    · rintro ⟨a, hmem⟩
      exact ⟨(r, a), hmem, rfl⟩

instance : Decidable (Steady g r) :=
  inferInstanceAs (Decidable (∃ s, s ∈ g.sessions.get r.clientSessionId ∧ _))

/-- The first request of player 7 to scene 5. -/
def firstRequest : ReturnRoute where
  internalSeq := 1
  clientSessionId := 1
  clientRequestId := 1
  backendServiceId := ServerID.kScene
  backendZoneId := 1
  backendSceneId := 5
  backendChannelId := 0
  backendSceneIncarnation := 9
  backendConnName := 1
  playerId := 7
  module := 2
  method := 5
  sessionEpoch := 1
  createdAtMs := 0

/-- The scene is lost before the request is submitted; the error is its only outcome, also after
the sweep. -/
theorem one_outcome_lostScene :
    ∃ g, Run.exec (step smallZone) (init smallZone)
        [.backendConnected, sceneAnnounced 1 5 9, .clientConnected, authFrame 1 7, requestFrame 1 1,
          .lose 1, .runLoop 1 true, .backendClosed 1, .sweep 20000] = some g ∧
      outcomes g firstRequest ≤ 1 ∧
        (outcomes g firstRequest = 1 ∨ g.routes.lookup 1 = some firstRequest) := by
  have hvisited : ((Run.exec (step smallZone) (init smallZone)
      [.backendConnected, sceneAnnounced 1 5 9, .clientConnected, authFrame 1 7, requestFrame 1 1,
        .lose 1, .runLoop 1 true, .backendClosed 1, .sweep 20000]).any fun g =>
      Accepted g firstRequest) = true ∧ ∀ ms ∈ List.inits
        [.backendConnected, sceneAnnounced 1 5 9, .clientConnected, authFrame 1 7, requestFrame 1 1,
          .lose 1, .runLoop 1 true, .backendClosed 1, .sweep 20000],
        ∀ x ∈ Run.exec (step smallZone) (init smallZone) ms,
          Accepted x firstRequest → Steady x firstRequest := by
    decide +kernel
  obtain ⟨g, hg, hacc⟩ := (Option.any_eq_true _ _).mp hvisited.1
  exact ⟨g, hg, one_outcome hg (of_decide_eq_true hacc) fun ms x hms hx =>
    hvisited.2 ms ((List.mem_inits _ _).mpr hms) x hx⟩

end GatewayDispatcher

end Gateway
