import GameServer.Gateway.Steps

/-!
# Bindings declared to a scene are withdrawn

An ONLINE frame is answered by the OFFLINE of the same binding or by an ONLINE of
the same player under a higher epoch. Until then the binding is held, or a task
that will answer is in the queue of the channel; the exceptions are a session that
is kicked, one that becomes another player's, and one that goes while the ONLINE of
its newer epoch is still queued.
-/

namespace Gateway

namespace GatewayDispatcher

variable {cfg : DispatcherConfig} {g g' : GatewayDispatcher}

/-- The frame withdraws the binding that an ONLINE declared, or replaces it by a newer one of the
same player. -/
def Answers (x f : SceneFrame) : Prop :=
  x.endpoint.key = f.endpoint.key ∧ x.endpoint.sceneIncarnation = f.endpoint.sceneIncarnation ∧
    ((x.kind = .offline ∧ x.client = f.client) ∨
      (x.kind = .online ∧ x.client.playerId = f.client.playerId ∧
        f.client.clientEpoch < x.client.clientEpoch))

instance (x f : SceneFrame) : Decidable (Answers x f) :=
  inferInstanceAs (Decidable (_ ∧ _ ∧ _))

/-- The ONLINE frames that nothing after them answers. -/
def unanswered : List SceneFrame → List SceneFrame
  | [] => []
  | f :: rest =>
    if f.kind = .online ∧ ∀ x ∈ rest, ¬ Answers x f then f :: unanswered rest else unanswered rest

/-- The binding of an ONLINE frame is still the session's. -/
def Held (cfg : DispatcherConfig) (g : GatewayDispatcher) (f : SceneFrame) : Prop :=
  ∃ s, g.sessions.get f.client.clientSession = some s ∧ s.authed = true ∧
    s.playerId = f.client.playerId ∧ s.epoch = f.client.clientEpoch ∧ Matches cfg s f.endpoint

/-- No task for the channel is queued. -/
def Quiet (g : GatewayDispatcher) (conn : ConnName) : Prop :=
  ∀ sub ∈ g.loops, sub.endpoint.connName ≠ conn

/-- The OFFLINE that answers the frame is queued. -/
def Leaving (cfg : DispatcherConfig) (g : GatewayDispatcher) (f : SceneFrame) : Prop :=
  ∃ sub ∈ g.loops, sub.online = false ∧ sub.endpoint = f.endpoint ∧
    clientData cfg sub.session sub.endpoint = f.client

instance (f : SceneFrame) : Decidable (Leaving cfg g f) :=
  inferInstanceAs (Decidable (∃ sub ∈ g.loops, _))

/-- An ONLINE is answered or its binding is held once the channel is quiet, and a business frame
comes after the ONLINE of its binding. -/
structure Bracketed (cfg : DispatcherConfig) (g : GatewayDispatcher) : Prop where
  held : ∀ f ∈ unanswered g.toScenes, g.ready f.endpoint = true → Quiet g f.endpoint.connName →
    Held cfg g f
  business : ∀ pre f post, g.toScenes = pre ++ f :: post → f.kind = .business →
    ∃ x ∈ pre, x.kind = .online ∧ x.endpoint = f.endpoint ∧ x.client = f.client

/-- The ONLINE of the frame has been answered, or is about to be. -/
def Settles (cfg : DispatcherConfig) (g : GatewayDispatcher) (f : SceneFrame) : Prop :=
  g.ready f.endpoint = true → Leaving cfg g f

instance (f : SceneFrame) : Decidable (Settles cfg g f) :=
  inferInstanceAs (Decidable (_ → Leaving cfg g f))

/-- The session leaves with no ONLINE open but that of its own epoch. -/
def MayLeave (cfg : DispatcherConfig) (g : GatewayDispatcher) (sid : Nat) (s : ClientSession) :
    Prop :=
  ∀ f ∈ unanswered g.toScenes, f.client.clientSession = sid → f.client.clientEpoch ≠ s.epoch →
    Settles cfg g f

/-- Neither the session that the login of the player kicks nor, if it was another player's, the
one that logs in has an ONLINE open. -/
def MayLogin (cfg : DispatcherConfig) (g : GatewayDispatcher) (sid : Nat) (s : ClientSession)
    (p : Nat) : Prop :=
  g.sessions.lastEpoch p ≠ uint32Max → ∀ f ∈ unanswered g.toScenes,
    (f.client.clientSession = g.sessions.rival sid p → Settles cfg g f) ∧
    (f.client.clientSession = sid → s.authed = true → s.playerId ≠ p → Settles cfg g f)

/-- The session may change its service, if it does. -/
def MaySwitch (cfg : DispatcherConfig) (g : GatewayDispatcher) (sid : Nat) (s : ClientSession)
    (service : Nat) : Prop :=
  s.authed = true → s.dstService ≠ service → g.sessions.lastEpoch s.playerId ≠ uint32Max →
    MayLeave cfg g sid s

instance (sid : Nat) (s : ClientSession) : Decidable (MayLeave cfg g sid s) :=
  inferInstanceAs (Decidable (∀ f ∈ _, _ → _ → Settles cfg g f))

instance (sid : Nat) (s : ClientSession) (p : Nat) : Decidable (MayLogin cfg g sid s p) :=
  inferInstanceAs (Decidable (_ → ∀ f ∈ _, _ ∧ _))

instance (sid : Nat) (s : ClientSession) (service : Nat) :
    Decidable (MaySwitch cfg g sid s service) :=
  inferInstanceAs (Decidable (_ → _ → _ → MayLeave cfg g sid s))

/-- No session with an ONLINE that is not answered is kicked or given to another player, and none
leaves its scene while only the ONLINE of an older epoch has been submitted. -/
def Brackets (cfg : DispatcherConfig) (g : GatewayDispatcher) : Step → Prop
  | .clientFrame sid h body _ => ∀ s ∈ g.sessions.get sid,
      (∀ p ∈ authPlayer cfg h body, MayLogin cfg g sid s p) ∧
        ∀ service ∈ switchTo cfg h body, MaySwitch cfg g sid s service
  | .clientClosed sid => ∀ s ∈ g.sessions.get sid, MayLeave cfg g sid s
  | _ => True

instance (l : Step) : Decidable (Brackets cfg g l) := by
  cases l <;> unfold Brackets <;> infer_instance

section Log

theorem unanswered_spec {log : List SceneFrame} {f : SceneFrame} (h : f ∈ unanswered log) :
    f ∈ log ∧ f.kind = .online := by
  induction log with
  | nil => cases h
  | cons x log ih =>
    unfold unanswered at h
    split at h
    · rename_i hx
      rcases List.mem_cons.mp h with rfl | h
      · exact ⟨List.mem_cons_self, hx.1⟩
      · exact ⟨List.mem_cons_of_mem _ (ih h).1, (ih h).2⟩
    · exact ⟨List.mem_cons_of_mem _ (ih h).1, (ih h).2⟩

theorem unanswered_cons (f : SceneFrame) (rest : List SceneFrame) : unanswered (f :: rest) =
    if f.kind = .online ∧ ∀ x ∈ rest, ¬ Answers x f then f :: unanswered rest
    else unanswered rest := rfl

/-- After more frames an ONLINE is unanswered if it was and none of them answers it, or if it is
one of them. -/
theorem unanswered_append {log fs : List SceneFrame} {f : SceneFrame}
    (h : f ∈ unanswered (log ++ fs)) :
    (f ∈ unanswered log ∧ ∀ x ∈ fs, ¬ Answers x f) ∨ f ∈ unanswered fs := by
  induction log with
  | nil => exact .inr h
  | cons x log ih =>
    rw [List.cons_append, unanswered_cons] at h
    rw [unanswered_cons]
    split at h
    · rename_i hx
      have hlog : x.kind = .online ∧ ∀ y ∈ log, ¬ Answers y x :=
        ⟨hx.1, fun y hy => hx.2 y (List.mem_append_left _ hy)⟩
      rw [if_pos hlog]
      rcases List.mem_cons.mp h with rfl | h
      · exact .inl ⟨List.mem_cons_self, fun y hy => hx.2 y (List.mem_append_right _ hy)⟩
      · rcases ih h with ⟨hold, hrest⟩ | hnew
        · exact .inl ⟨List.mem_cons_of_mem _ hold, hrest⟩
        · exact .inr hnew
    · rcases ih h with ⟨hold, hrest⟩ | hnew
      · refine .inl ⟨?_, hrest⟩
        split
        · exact List.mem_cons_of_mem _ hold
        · exact hold
      · exact .inr hnew

end Log

/-- A newer epoch of the session waits to be declared: the player logged in again. -/
def Awaited (cfg : DispatcherConfig) (g : GatewayDispatcher) (f : SceneFrame) : Prop :=
  ∃ s sub, g.sessions.get f.client.clientSession = some s ∧ s.authed = true ∧
    s.playerId = f.client.playerId ∧ f.client.clientEpoch < s.epoch ∧
    Matches cfg s f.endpoint ∧ s.sceneOnlineSubmitted = false ∧ sub ∈ g.loops ∧
    sub.online = true ∧ sub.session.sessionId = s.sessionId ∧
    ClientSessionTable.current s sub.session = true

/-- A frame of the log went to a registered channel, for a session of this gateway. -/
structure Known (cfg : DispatcherConfig) (g : GatewayDispatcher) (f : SceneFrame) : Prop where
  service : f.endpoint.serviceId = ServerID.kScene
  registered : g.services.pendingConn.lookup f.endpoint.connName = none
  named : 0 < f.endpoint.connName ∧ f.endpoint.connName < g.nextConnId
  gateway : f.client.gatewayId = cfg.gatewayId
  scene : f.client.sceneId = f.endpoint.sceneId
  session : f.client.clientSession < g.sessions.nextSessionId

/-- What a session has declared stands in the log. -/
def Declared (cfg : DispatcherConfig) (g : GatewayDispatcher) (s : ClientSession) : Prop :=
  ∃ f ∈ g.toScenes, f.kind = .online ∧ f.client = clientData cfg s f.endpoint ∧
    Matches cfg s f.endpoint

/-- The invariant. -/
structure Bracketing (cfg : DispatcherConfig) (g : GatewayDispatcher) : Prop where
  known : ∀ f ∈ g.toScenes, Known cfg g f
  declared : ∀ id s, g.sessions.get id = some s → s.sceneOnlineSubmitted = true →
    Declared cfg g s
  business : ∀ pre f post, g.toScenes = pre ++ f :: post → f.kind = .business →
    ∃ x ∈ pre, x.kind = .online ∧ x.endpoint = f.endpoint ∧ x.client = f.client
  opened : ∀ f ∈ unanswered g.toScenes, g.ready f.endpoint = true →
    Held cfg g f ∨ Awaited cfg g f ∨ Leaving cfg g f

theorem Bracketing.bracketed (h : Bracketing cfg g) (hsane : Sane cfg g) : Bracketed cfg g where
  held := fun f hf hready hquiet => by
    rcases h.opened f hf hready with hheld | ⟨s, sub, hs, _, _, _, hmatch, _, hsub, _, hid, hcur⟩ |
      ⟨sub, hsub, _, hep, _⟩
    · exact hheld
    · -- the queued ONLINE is for the session's channel
      have htask := (hsane.tasks sub hsub).matched
      have hconn : sub.session.sceneConnName = s.sceneConnName :=
        (of_decide_eq_true hcur).2.2.2.2.2.2.2.2.2.2.2.2.symm
      refine absurd ?_ (hquiet sub hsub)
      rw [htask.2.2.2.2.2, hconn, ← hmatch.2.2.2.2.2]
    · exact absurd (congrArg (·.connName) hep) (hquiet sub hsub)
  business := h.business

section Preservation

/-- A session that is matched with a channel has a scene. -/
theorem Sane.scene_of_matches (h : Sane cfg g) {id : Nat} {s : ClientSession}
    {ep : ServiceEndpoint} (hs : g.sessions.get id = some s) (hmatch : Matches cfg s ep)
    (hpos : 0 < ep.connName) : s.dstService = ServerID.kScene ∧ s.sceneId ≠ 0 ∧
      s.sceneConnName ≠ 0 ∧ s.sceneIncarnation ≠ 0 := by
  refine h.sessions.scene id s hs (.inl ?_)
  rw [← hmatch.2.2.2.2.2]
  exact Nat.pos_iff_ne_zero.mp hpos

theorem Kept.matches {s s' : ClientSession} {ep : ServiceEndpoint} (h : Kept s s')
    (hscene : s.sceneId ≠ 0) (hmatch : Matches cfg s ep) : Matches cfg s' ep := by
  obtain ⟨k1, k2, k3, k4⟩ := h.scene hscene
  obtain ⟨h1, h2, h3, h4, h5, h6⟩ := hmatch
  exact ⟨h1, h2, h3.trans k1.symm, h4.trans k2.symm, h5.trans k3.symm, h6.trans k4.symm⟩

/-- A session and what it is expected to be have the same channel and identity. -/
theorem current_spec {s e : ClientSession} (h : ClientSessionTable.current s e = true) :
    s.authed = true ∧ s.playerId = e.playerId ∧ s.epoch = e.epoch ∧ s.sceneId = e.sceneId ∧
      s.backendChannelId = e.backendChannelId ∧ s.sceneIncarnation = e.sceneIncarnation ∧
      s.sceneConnName = e.sceneConnName := by
  obtain ⟨h1, _, _, _, _, _, h7, h8, _, h10, h11, h12, h13⟩ := of_decide_eq_true h
  exact ⟨h1, h7, h8, h10, h11, h12, h13⟩

/-- There is one channel that matches a session. -/
theorem matches_unique {s : ClientSession} {a b : ServiceEndpoint} (ha : Matches cfg s a)
    (hb : Matches cfg s b) : a = b := by
  obtain ⟨a1, a2, a3, a4, a5, a6⟩ := ha
  obtain ⟨b1, b2, b3, b4, b5, b6⟩ := hb
  cases a
  cases b
  simp only [ServiceEndpoint.mk.injEq]
  exact ⟨a6.trans b6.symm, a1.trans b1.symm, a2.trans b2.symm, a3.trans b3.symm, a4.trans b4.symm,
    a5.trans b5.symm⟩

theorem matches_of_current {s e : ClientSession} {ep : ServiceEndpoint}
    (h : ClientSessionTable.current s e = true) (hmatch : Matches cfg e ep) : Matches cfg s ep := by
  obtain ⟨_, _, _, h1, h2, h3, h4⟩ := current_spec h
  obtain ⟨m1, m2, m3, m4, m5, m6⟩ := hmatch
  exact ⟨m1, m2, m3.trans h1.symm, m4.trans h2.symm, m5.trans h3.symm, m6.trans h4.symm⟩

theorem Kept.current {s s' e : ClientSession} (h : Kept s s')
    (hcur : ClientSessionTable.current s e = true) : ClientSessionTable.current s' e = true := by
  have hscene : s.sceneId ≠ 0 := (of_decide_eq_true hcur).2.2.2.1
  obtain ⟨k1, k2, k3, k4⟩ := h.scene hscene
  unfold ClientSessionTable.current at hcur ⊢
  rw [h.authed, h.playerId, h.epoch, h.dstService, k1, k2, k3, k4]
  exact hcur

/-- The registry keeps no promise longer: a channel that is ready was ready before. -/
theorem ready_back {ep : ServiceEndpoint} (h : g'.ready ep = true)
    (hservice : ep.serviceId = ServerID.kScene)
    (hfewer : ServiceRegistry.Fewer g.services g'.services)
    (hconns : ∀ conn ∈ g'.connected, conn ∈ g.connected ∨ g.nextConnId ≤ conn)
    (hnone : g.services.pendingConn.lookup ep.connName = none)
    (hlt : ep.connName < g.nextConnId) : g.ready ep = true := by
  obtain ⟨hconn, hget⟩ := of_decide_eq_true h
  have hne : ep.serviceId ≠ 0 := by
    rw [hservice]
    decide
  refine decide_eq_true ⟨?_, ?_⟩
  · exact (hconns _ hconn).resolve_right (Nat.not_le.mpr hlt)
  · have hreg := ServiceRegistry.getByName_registered hget hne
    rcases hfewer.registered _ _ hreg hne with hold | hpend
    · exact ServiceRegistry.getByName_of_registered hold
    · cases hnone.symm.trans hpend

/-- The log and the sessions stay; channels may be lost and tasks that cannot run be dropped. -/
theorem Bracketing.frame (h : Bracketing cfg g) (hsane : Sane cfg g)
    (hscenes : g'.toScenes = g.toScenes)
    (hknown : ∀ f, Known cfg g f → Known cfg g' f)
    (hready : ∀ f, Known cfg g f → g'.ready f.endpoint = true → g.ready f.endpoint = true)
    (hkept : ∀ id s, g.sessions.get id = some s → ∃ s', g'.sessions.get id = some s' ∧ Kept s s' ∧
      s'.sceneOnlineSubmitted = s.sceneOnlineSubmitted)
    (hback : ∀ id s', g'.sessions.get id = some s' → s'.sceneOnlineSubmitted = true →
      ∃ s, g.sessions.get id = some s ∧ Kept s s' ∧ s.sceneOnlineSubmitted = true)
    (hloops : ∀ sub ∈ g.loops, sub ∈ g'.loops ∨ g'.ready sub.endpoint = false ∨
      (sub.online = true ∧ ∀ s, g.sessions.get sub.session.sessionId = some s →
        ClientSessionTable.current s sub.session = false)) : Bracketing cfg g' where
  known := fun f hf => hknown f (h.known f (hscenes ▸ hf))
  declared := fun id s' hs' hflag => by
    obtain ⟨s, hs, hk, hsflag⟩ := hback id s' hs' hflag
    obtain ⟨f, hf, hkind, hclient, hmatch⟩ := h.declared id s hs hsflag
    have hscene := hsane.scene_of_matches hs hmatch (h.known f hf).named.1
    refine ⟨f, hscenes.symm ▸ hf, hkind, ?_, hk.matches hscene.2.1 hmatch⟩
    rw [hclient]
    unfold clientData
    rw [hk.playerId, hk.sessionId, hk.epoch]
  business := fun pre f post hlog => h.business pre f post (hscenes ▸ hlog)
  opened := fun f hf hr => by
    rw [hscenes] at hf
    have hfk := h.known f (unanswered_spec hf).1
    rcases h.opened f hf (hready f hfk hr) with ⟨s, hs, h1, h2, h3, hmatch⟩ |
      ⟨s, sub, hs, h1, h2, h3, hmatch, hflag, hsub, honline, hid, hcur⟩ | ⟨sub, hsub, hoff, hep, hd⟩
    · obtain ⟨s', hs', hk, _⟩ := hkept _ s hs
      have hscene := hsane.scene_of_matches hs hmatch hfk.named.1
      exact .inl ⟨s', hs', hk.authed.trans h1, hk.playerId.trans h2, hk.epoch.trans h3,
        hk.matches hscene.2.1 hmatch⟩
    · obtain ⟨s', hs', hk, hflag'⟩ := hkept _ s hs
      have hscene := hsane.scene_of_matches hs hmatch hfk.named.1
      have hkeyed := (hsane.sessions.key _ s hs).1
      have hep : sub.endpoint = f.endpoint := matches_unique
        (matches_of_current hcur (hsane.tasks sub hsub).matched) hmatch
      have hstay : sub ∈ g'.loops := by
        rcases hloops sub hsub with hstay | hlost | ⟨_, hstale⟩
        · exact hstay
        · rw [hep, hr] at hlost
          cases hlost
        · have hget : g.sessions.get sub.session.sessionId = some s := by rw [hid, hkeyed, hs]
          rw [hstale s hget] at hcur
          cases hcur
      exact .inr (.inl ⟨s', sub, hs', hk.authed.trans h1, hk.playerId.trans h2,
        hk.epoch.symm ▸ h3, hk.matches hscene.2.1 hmatch, hflag'.trans hflag, hstay, honline,
        hid.trans hk.sessionId.symm, hk.current hcur⟩)
    · refine .inr (.inr ⟨sub, ?_, hoff, hep, hd⟩)
      rcases hloops sub hsub with hstay | hlost | ⟨honline, _⟩
      · exact hstay
      · rw [hep, hr] at hlost
        cases hlost
      · rw [hoff] at honline
        cases honline

theorem Effect.known (heff : Effect cfg g g') (hsane : Sane cfg g) {f : SceneFrame}
    (h : Known cfg g f) : Known cfg g' f := by
  obtain ⟨h1, h2, h3, h4, h5, h6⟩ := h
  cases heff with
  | registry services hreg =>
    exact ⟨h1, fewer_pending (hreg hsane.services).2 h2, h3, h4, h5, h6⟩
  | accepted =>
    exact ⟨h1, ServiceRegistry.addPending_other (Nat.ne_of_lt h3.2) h2,
      ⟨h3.1, Nat.lt_succ_of_lt h3.2⟩, h4, h5, h6⟩
  | opened => exact ⟨h1, h2, ⟨h3.1, Nat.lt_succ_of_lt h3.2⟩, h4, h5, Nat.lt_succ_of_lt h6⟩
  | assigned sid sceneId channelId incarnation conn =>
    exact ⟨h1, h2, h3, h4, h5,
      (ClientSessionTable.nextSessionId_setSceneBinding _ _ _ _ _ _).symm ▸ h6⟩
  | swept nowMs =>
    rw [sweepRoutes_eq]
    exact ⟨h1, h2, h3, h4, h5, h6⟩
  | _ => exact ⟨h1, h2, h3, h4, h5, h6⟩

/-- A channel of the log that is ready after a small effect was ready before. -/
theorem Effect.ready_back (heff : Effect cfg g g') (hsane : Sane cfg g) {f : SceneFrame}
    (hf : Known cfg g f) (h : g'.ready f.endpoint = true) : g.ready f.endpoint = true := by
  have hsame : g'.services = g.services → g.ready f.endpoint = true := by
    intro heq
    refine GatewayDispatcher.ready_back h hf.service (heq ▸ .refl _) (fun conn hconn => ?_)
      hf.registered hf.named.2
    exact (heff.connected hconn).imp_right fun hnew => hnew.ge
  cases heff with
  | registry services hreg =>
    exact GatewayDispatcher.ready_back h hf.service (hreg hsane.services).2 (fun _ => .inl)
      hf.registered hf.named.2
  | accepted =>
    obtain ⟨hconn, hget⟩ := of_decide_eq_true h
    have hne : f.endpoint.serviceId ≠ 0 := by
      rw [hf.service]
      decide
    have hreg := ServiceRegistry.getByName_registered hget hne
    have hold := ((hsane.services.addPending hsane.nextConn).2 _ _).mp hreg
    refine decide_eq_true ⟨?_, ServiceRegistry.getByName_of_registered hold⟩
    rcases Finset.mem_insert.mp hconn with hnew | hconn
    · exact absurd hnew (Nat.ne_of_lt hf.named.2)
    · exact hconn
  | swept nowMs =>
    rw [sweepRoutes_eq] at h
    exact h
  | _ => exact hsame rfl

/-- A task that was taken out of the queue is not needed, or the other tasks are still there. -/
theorem taken_or_stays {conn : ConnName} {sub x : SceneSubmission} {rest loops : List SceneSubmission}
    (hnext : nextTask conn loops = some (sub, rest)) (hx : x ∈ loops) : x ∈ rest ∨ x = sub := by
  obtain ⟨_, before, after, rfl, rfl⟩ := nextTask_spec hnext
  rcases List.mem_append.mp hx with hx | hx
  · exact .inl (List.mem_append_left _ hx)
  · rcases List.mem_cons.mp hx with hx | hx
    · exact .inr hx
    · exact .inl (List.mem_append_right _ hx)

theorem clientData_eq {s e : ClientSession} {ep : ServiceEndpoint}
    (hid : s.sessionId = e.sessionId) (hcur : ClientSessionTable.current s e = true) :
    clientData cfg s ep = clientData cfg e ep := by
  obtain ⟨_, h2, h3, _⟩ := current_spec hcur
  unfold clientData
  rw [hid, h2, h3]

/-- The business frame of a task, after its declaration. -/
def businessFrames (cfg : DispatcherConfig) (sub : SceneSubmission) : List SceneFrame :=
  (sub.businessFrame.map fun frame =>
    { endpoint := sub.endpoint
      kind := .business
      client := clientData cfg sub.session sub.endpoint
      frame := frame }).toList

theorem sceneFrames_online {sub : SceneSubmission} (honline : sub.online = true) (declare : Bool) :
    sceneFrames cfg sub declare =
      (if declare then [bindingFrame cfg sub.session sub.endpoint true] else []) ++
        businessFrames cfg sub := by
  unfold sceneFrames businessFrames
  rw [honline]
  cases sub.businessFrame <;> simp

theorem sceneFrames_offline {sub : SceneSubmission} (hoff : sub.online = false)
    (hplain : sub.businessFrame = none) :
    sceneFrames cfg sub false = [bindingFrame cfg sub.session sub.endpoint false] := by
  unfold sceneFrames
  rw [hoff, hplain]
  simp

/-- The frames of a task are of its channel and its binding. -/
theorem mem_sceneFrames {sub : SceneSubmission} {declare : Bool} {f : SceneFrame}
    (h : f ∈ sceneFrames cfg sub declare) :
    f.endpoint = sub.endpoint ∧ f.client = clientData cfg sub.session sub.endpoint := by
  unfold sceneFrames at h
  rcases List.mem_append.mp h with h | h
  · split at h
    · cases List.mem_singleton.mp h
      exact ⟨rfl, rfl⟩
    · cases h
  · split at h
    · cases h
    · cases List.mem_singleton.mp h
      exact ⟨rfl, rfl⟩

theorem Task.frame_known {sub : SceneSubmission} (htask : Task cfg g sub) (hpos : 0 < sub.endpoint.connName)
    {declare : Bool} {f : SceneFrame} (hf : f ∈ sceneFrames cfg sub declare) : Known cfg g f := by
  obtain ⟨hep, hclient⟩ := mem_sceneFrames hf
  refine ⟨?_, ?_, ?_, ?_, ?_, ?_⟩
  · rw [hep]
    exact htask.matched.1
  · rw [hep]
    exact htask.known.1
  · rw [hep]
    exact ⟨hpos, htask.known.2⟩
  · rw [hclient]
    rfl
  · rw [hclient, hep]
    rfl
  · rw [hclient]
    exact htask.session

theorem Task.conn_pos {sub : SceneSubmission} (htask : Task cfg g sub) : 0 < sub.endpoint.connName := by
  rw [htask.matched.2.2.2.2.2]
  exact Nat.pos_of_ne_zero htask.declarable.2.2.2.2

/-- An ONLINE that is among the frames of a task is the declaration of its binding. -/
theorem unanswered_sceneFrames {sub : SceneSubmission} {declare : Bool} {f : SceneFrame}
    (hf : f ∈ unanswered (sceneFrames cfg sub declare)) : sub.online = true ∧ declare = true := by
  obtain ⟨hmem, hkind⟩ := unanswered_spec hf
  unfold sceneFrames at hmem
  rcases List.mem_append.mp hmem with hmem | hmem
  · split at hmem
    · rename_i hdecl
      cases List.mem_singleton.mp hmem
      unfold bindingFrame at hkind
      cases honline : sub.online with
      | false => simp [honline] at hkind
      | true => exact ⟨rfl, by simpa [honline] using hdecl⟩
    · cases hmem
  · split at hmem
    · cases hmem
    · cases List.mem_singleton.mp hmem
      cases hkind

/-- A business frame of the longer log is an old one or a new one. -/
theorem split_append {log fs pre post : List SceneFrame} {f : SceneFrame}
    (h : log ++ fs = pre ++ f :: post) :
    (∃ post', log = pre ++ f :: post') ∨ ∃ mid, pre = log ++ mid ∧ fs = mid ++ f :: post := by
  rcases List.append_eq_append_iff.mp h with ⟨mid, hpre, hfs⟩ | ⟨mid, hlog, hpost⟩
  · exact .inr ⟨mid, hpre, hfs⟩
  · cases mid with
    | nil =>
      refine .inr ⟨[], ?_, ?_⟩
      · simpa using hlog.symm
      · simpa using hpost.symm
    | cons x mid =>
      simp only [List.cons_append, List.cons.injEq] at hpost
      obtain ⟨rfl, rfl⟩ := hpost
      exact .inl ⟨mid, hlog⟩

/-- An OFFLINE task is run. -/
theorem Bracketing.withdrawn (h : Bracketing cfg g) (hsane : Sane cfg g) {conn : ConnName}
    {sub : SceneSubmission} {rest : List SceneSubmission}
    (hnext : nextTask conn g.loops = some (sub, rest)) (hoff : sub.online = false) :
    Bracketing cfg
      { g with
        loops := rest
        toScenes := g.toScenes ++ sceneFrames cfg sub false } := by
  have htask := hsane.tasks sub (mem_of_nextTask hnext).1
  have hframes := @sceneFrames_offline cfg sub hoff (htask.plain hoff)
  have hold : Bracketing cfg { g with loops := sub :: rest } :=
    h.frame hsane rfl (fun _ hf => ⟨hf.service, hf.registered, hf.named, hf.gateway, hf.scene,
        hf.session⟩) (fun _ _ => id)
      (fun _ s hs => ⟨s, hs, .refl s, rfl⟩) (fun _ s hs hflag => ⟨s, hs, .refl s, hflag⟩)
      fun x hx => .inl ((taken_or_stays hnext hx).elim (List.mem_cons_of_mem _) fun heq =>
        heq ▸ List.mem_cons_self)
  refine
    { known := fun f hf => ?_
      declared := fun id s hs hflag => ?_
      business := fun pre f post hlog hkind => ?_
      opened := fun f hf hready => ?_ }
  · rcases List.mem_append.mp hf with hf | hf
    · have hk := h.known f hf
      exact ⟨hk.service, hk.registered, hk.named, hk.gateway, hk.scene, hk.session⟩
    · have hk := htask.frame_known htask.conn_pos hf
      exact ⟨hk.service, hk.registered, hk.named, hk.gateway, hk.scene, hk.session⟩
  · obtain ⟨f, hf, hrest⟩ := h.declared id s hs hflag
    exact ⟨f, List.mem_append_left _ hf, hrest⟩
  · rcases split_append hlog with ⟨post', hlog⟩ | ⟨mid, _, hmid⟩
    · exact h.business pre f post' hlog hkind
    · have hf : f ∈ sceneFrames cfg sub false := by simp [hmid]
      rw [hframes] at hf
      cases List.mem_singleton.mp hf
      cases hkind
  · rcases unanswered_append hf with ⟨hf, hno⟩ | hf
    · rcases hold.opened f hf hready with hheld | ⟨s, x, hs, h1, h2, h3, h4, h5, hx, h7, h8⟩ |
        ⟨x, hx, hxoff, hep, hd⟩
      · exact .inl hheld
      · refine .inr (.inl ⟨s, x, hs, h1, h2, h3, h4, h5, ?_, h7, h8⟩)
        rcases List.mem_cons.mp hx with rfl | hx
        · rw [hoff] at h7
          cases h7
        · exact hx
      · rcases List.mem_cons.mp hx with rfl | hx
        · -- the OFFLINE that was awaited is submitted now
          refine absurd ?_ (hno (bindingFrame cfg x.session x.endpoint false) (by simp [hframes]))
          exact ⟨congrArg ServiceEndpoint.key hep, congrArg (·.sceneIncarnation) hep,
            .inl ⟨rfl, hd⟩⟩
        · exact .inr (.inr ⟨x, hx, hxoff, hep, hd⟩)
    · have honline := (unanswered_sceneFrames hf).1
      rw [hoff] at honline
      cases honline

/-- A task of a session that still has the binding is run. -/
theorem Bracketing.declare (h : Bracketing cfg g) (hsane : Sane cfg g) {conn : ConnName}
    {sub : SceneSubmission} {rest : List SceneSubmission} {s : ClientSession}
    (hnext : nextTask conn g.loops = some (sub, rest)) (honline : sub.online = true)
    (hs : g.sessions.get sub.session.sessionId = some s)
    (hcur : ClientSessionTable.current s sub.session = true)
    (hget : ∀ id, g'.sessions.get id =
      if id = sub.session.sessionId then some { s with sceneOnlineSubmitted := true }
      else g.sessions.get id)
    (hscenes : g'.toScenes = g.toScenes ++ sceneFrames cfg sub (!s.sceneOnlineSubmitted))
    (hloops : g'.loops = rest) (hknown : ∀ f, Known cfg g f → Known cfg g' f)
    (hready : ∀ ep, g'.ready ep = true → g.ready ep = true) : Bracketing cfg g' := by
  have htask := hsane.tasks sub (mem_of_nextTask hnext).1
  have hframes := @sceneFrames_online cfg sub honline (!s.sceneOnlineSubmitted)
  have hid := (hsane.sessions.key _ s hs).1
  have hmatch := matches_of_current hcur htask.matched
  have hdata : clientData cfg s sub.endpoint = clientData cfg sub.session sub.endpoint :=
    clientData_eq hid hcur
  obtain ⟨hauthed, hplayer, hepoch, -⟩ := current_spec hcur
  -- the ONLINE of the binding is in the log, or is the first of the new frames
  have hbefore : s.sceneOnlineSubmitted = true → ∃ x ∈ g.toScenes, x.kind = .online ∧
      x.endpoint = sub.endpoint ∧ x.client = clientData cfg sub.session sub.endpoint := by
    intro hflag
    obtain ⟨x, hx, hkind, hclient, hxmatch⟩ := h.declared _ s hs hflag
    have hep := matches_unique hxmatch hmatch
    exact ⟨x, hx, hkind, hep, by rw [hclient, hep, hdata]⟩
  have hnow : s.sceneOnlineSubmitted = false → sceneFrames cfg sub (!s.sceneOnlineSubmitted) =
      bindingFrame cfg sub.session sub.endpoint true :: businessFrames cfg sub := by
    intro hflag
    rw [hframes, hflag]
    rfl
  refine
    { known := fun f hf => hknown f ?_
      declared := fun id s' hs' hflag => ?_
      business := fun pre f post hlog hkind => ?_
      opened := fun f hf hr => ?_ }
  · rw [hscenes] at hf
    rcases List.mem_append.mp hf with hf | hf
    · exact h.known f hf
    · exact htask.frame_known htask.conn_pos hf
  · unfold Declared
    rw [hscenes]
    rw [hget] at hs'
    split at hs'
    · cases hs'
      by_cases hold : s.sceneOnlineSubmitted = true
      · obtain ⟨x, hx, hkind, hep, hclient⟩ := hbefore hold
        exact ⟨x, List.mem_append_left _ hx, hkind, by rw [hclient, hep]; exact hdata.symm,
          hep ▸ hmatch⟩
      · have hold : s.sceneOnlineSubmitted = false := by simpa using hold
        refine ⟨bindingFrame cfg sub.session sub.endpoint true, ?_, rfl, hdata.symm, hmatch⟩
        rw [hnow hold]
        exact List.mem_append_right _ List.mem_cons_self
    · obtain ⟨f, hf, hrest⟩ := h.declared id s' hs' hflag
      exact ⟨f, List.mem_append_left _ hf, hrest⟩
  · rw [hscenes] at hlog
    rcases split_append hlog with ⟨post', hlog⟩ | ⟨mid, hpre, hmid⟩
    · exact h.business pre f post' hlog hkind
    have hf : f ∈ sceneFrames cfg sub (!s.sceneOnlineSubmitted) := by simp [hmid]
    obtain ⟨hep, hclient⟩ := mem_sceneFrames hf
    rw [hep, hclient, hpre]
    by_cases hold : s.sceneOnlineSubmitted = true
    · obtain ⟨x, hx, hrest⟩ := hbefore hold
      exact ⟨x, List.mem_append_left _ hx, hrest⟩
    · have hold : s.sceneOnlineSubmitted = false := by simpa using hold
      rw [hnow hold] at hmid
      cases mid with
      | nil =>
        simp only [List.nil_append, List.cons.injEq] at hmid
        rw [← hmid.1] at hkind
        cases hkind
      | cons x mid =>
        simp only [List.cons_append, List.cons.injEq] at hmid
        exact ⟨x, List.mem_append_right _ List.mem_cons_self, hmid.1 ▸ rfl, hmid.1 ▸ rfl,
          hmid.1 ▸ rfl⟩
  · rw [hscenes] at hf
    rcases unanswered_append hf with ⟨hf, hno⟩ | hf
    · rcases h.opened f hf (hready _ hr) with ⟨x, hx, h1, h2, h3, h4⟩ |
        ⟨x, y, hx, h1, h2, h3, h4, h5, hy, h7, h8, h9⟩ | ⟨y, hy, hoff, hrest⟩
      · by_cases hsame : f.client.clientSession = sub.session.sessionId
        · rw [hsame, hs] at hx
          cases hx
          refine .inl ⟨{ s with sceneOnlineSubmitted := true }, ?_, h1, h2, h3, h4⟩
          rw [hget, if_pos hsame]
        · exact .inl ⟨x, by rw [hget, if_neg hsame, hx], h1, h2, h3, h4⟩
      · by_cases hsame : f.client.clientSession = sub.session.sessionId
        · -- the newer epoch is declared now, which answers the older one
          rw [hsame, hs] at hx
          cases hx
          have hep := matches_unique hmatch h4
          refine absurd ?_ (hno (bindingFrame cfg sub.session sub.endpoint true) ?_)
          · refine ⟨congrArg ServiceEndpoint.key hep, congrArg (·.sceneIncarnation) hep,
              .inr ⟨rfl, hplayer.symm.trans h2, ?_⟩⟩
            show f.client.clientEpoch < sub.session.epoch
            exact hepoch ▸ h3
          · rw [hnow h5]
            exact List.mem_cons_self
        · refine .inr (.inl ⟨x, y, by rw [hget, if_neg hsame, hx], h1, h2, h3, h4, h5, ?_, h7, h8,
            h9⟩)
          rw [hloops]
          refine (taken_or_stays hnext hy).resolve_right fun heq => hsame ?_
          rw [← heq, h8]
          exact (hsane.sessions.key _ x hx).1.symm
      · refine .inr (.inr ⟨y, ?_, hoff, hrest⟩)
        rw [hloops]
        refine (taken_or_stays hnext hy).resolve_right fun heq => ?_
        rw [heq, honline] at hoff
        cases hoff
    · obtain ⟨hep, hclient⟩ := mem_sceneFrames (unanswered_spec hf).1
      refine .inl ⟨{ s with sceneOnlineSubmitted := true }, ?_, hauthed, ?_, ?_, hep ▸ hmatch⟩
      · rw [hget, hclient]
        exact if_pos rfl
      · rw [hclient]
        exact hplayer
      · rw [hclient]
        exact hepoch

theorem Effect.bracketing (heff : Effect cfg g g') (hsane : Sane cfg g) (h : Bracketing cfg g) :
    Bracketing cfg g' := by
  have hknown := fun f (hf : Known cfg g f) => heff.known hsane hf
  have hback := fun f (hf : Known cfg g f) => heff.ready_back hsane hf
  have hall : g'.loops = g.loops → ∀ sub ∈ g.loops, sub ∈ g'.loops ∨ g'.ready sub.endpoint = false ∨
      (sub.online = true ∧ ∀ s, g.sessions.get sub.session.sessionId = some s →
        ClientSessionTable.current s sub.session = false) :=
    fun heq sub hsub => .inl (heq ▸ hsub)
  cases heff with
  | opened =>
    refine h.frame hsane rfl hknown hback (fun id s hs => ⟨s, ?_, .refl s, rfl⟩)
      (fun id s' hs' hflag => ?_) (hall rfl)
    · have hlt := (hsane.sessions.key id s hs).2.2
      rw [ClientSessionTable.get_create, if_neg (Nat.ne_of_lt hlt), hs]
    · rw [ClientSessionTable.get_create] at hs'
      split at hs'
      · cases hs'
        cases hflag
      · exact ⟨s', hs', .refl s', hflag⟩
  | assigned sid sceneId channelId incarnation conn =>
    rcases g.sessions.setSceneBinding_cases sid sceneId channelId incarnation conn with
      heq | ⟨_, _, _, s, hs, _, _, hnone, heq⟩
    · refine h.frame hsane rfl hknown hback (fun id x hx => ⟨x, ?_, .refl x, rfl⟩)
        (fun id x hx hflag => ⟨x, ?_, .refl x, hflag⟩) (hall rfl)
      · rw [heq, hx]
      · rw [← heq, hx]
    · have hk : Kept s
          { s with
            sceneId := sceneId
            backendChannelId := channelId
            sceneIncarnation := incarnation
            sceneConnName := conn } :=
        ⟨rfl, rfl, rfl, rfl, rfl, rfl, fun hne => absurd hnone hne, fun h => h⟩
      have hget : ∀ id, (g.sessions.setSceneBinding sid sceneId channelId incarnation conn).get id =
          if id = sid then some _ else g.sessions.get id := fun id => by
        rw [heq]
        exact Table.lookup_insert _ _ _ _
      refine h.frame hsane rfl hknown hback (fun id x hx => ?_) (fun id x hx hflag => ?_) (hall rfl)
      · by_cases hid : id = sid
        · rw [hid, hs] at hx
          cases hx
          exact ⟨_, by rw [hget, if_pos hid], hk, rfl⟩
        · exact ⟨x, by rw [hget, if_neg hid, hx], .refl x, rfl⟩
      · rw [hget] at hx
        split at hx
        · rename_i hid
          cases hx
          exact ⟨s, hid ▸ hs, hk, hflag⟩
        · exact ⟨x, hx, .refl x, hflag⟩
  | queued s ep frame seq hs hdecl hep hseq hroute =>
    exact h.frame hsane rfl hknown hback (fun _ x hx => ⟨x, hx, .refl x, rfl⟩)
      (fun _ x hx hflag => ⟨x, hx, .refl x, hflag⟩) fun sub hsub => .inl (List.mem_append_left _ hsub)
  | refused conn sub rest hnext why =>
    refine h.frame hsane rfl hknown hback (fun _ x hx => ⟨x, hx, .refl x, rfl⟩)
      (fun _ x hx hflag => ⟨x, hx, .refl x, hflag⟩) fun x hx => ?_
    rcases taken_or_stays hnext hx with hx | rfl
    · exact .inl hx
    · exact .inr why
  | broken conn sub rest hnext =>
    refine h.frame hsane rfl hknown hback (fun _ x hx => ⟨x, hx, .refl x, rfl⟩)
      (fun _ x hx hflag => ⟨x, hx, .refl x, hflag⟩) fun x hx => ?_
    rcases taken_or_stays hnext hx with hx | rfl
    · exact .inl hx
    · refine .inr (.inl (decide_eq_false fun hr => ?_))
      exact Finset.notMem_erase _ _ hr.1
  | declared conn sub rest s hnext hready honline hs hcur =>
    exact h.declare hsane hnext honline hs hcur (fun id => Table.lookup_insert _ _ _ _) rfl rfl
      hknown fun _ hr => hr
  | withdrawn conn sub rest hnext hready honline => exact h.withdrawn hsane hnext honline
  | swept nowMs =>
    rw [sweepRoutes_eq] at hknown hback hall ⊢
    exact h.frame hsane rfl hknown hback (fun _ x hx => ⟨x, hx, .refl x, rfl⟩)
      (fun _ x hx hflag => ⟨x, hx, .refl x, hflag⟩) (hall rfl)
  | lost | sent | pushed | registry | accepted | skipped | added | answered | dropped | relayed =>
    exact h.frame hsane rfl hknown hback (fun _ x hx => ⟨x, hx, .refl x, rfl⟩)
      (fun _ x hx hflag => ⟨x, hx, .refl x, hflag⟩) (hall rfl)

/-- What a large effect may do to the sessions whose binding is open. -/
theorem Bracketing.major (h : Bracketing cfg g) (hscenes : g'.toScenes = g.toScenes)
    (hservices : g'.services = g.services) (hconns : g'.connected ⊆ g.connected)
    (hnext : g'.sessions.nextSessionId = g.sessions.nextSessionId)
    (hnames : g'.nextConnId = g.nextConnId) (hloops : ∀ sub ∈ g.loops, sub ∈ g'.loops)
    (hflags : ∀ id s', g'.sessions.get id = some s' → s'.sceneOnlineSubmitted = true →
      g.sessions.get id = some s')
    (hsessions : ∀ f ∈ unanswered g.toScenes, g.ready f.endpoint = true →
      ∀ s, g.sessions.get f.client.clientSession = some s → s.authed = true →
      s.playerId = f.client.playerId → Matches cfg s f.endpoint →
      f.client.clientEpoch ≤ s.epoch → g'.sessions.get f.client.clientSession = some s ∨
        Awaited cfg g' f ∨ (f.client.clientEpoch = s.epoch ∧ Leaving cfg g' f) ∨
        Leaving cfg g f) : Bracketing cfg g' := by
  have hready : ∀ ep, g'.ready ep = true → g.ready ep = true := by
    intro ep hr
    obtain ⟨hc, hget⟩ := of_decide_eq_true hr
    exact decide_eq_true ⟨hconns hc, hservices ▸ hget⟩
  have hleave : ∀ f, Leaving cfg g f → Leaving cfg g' f :=
    fun f ⟨sub, hsub, hrest⟩ => ⟨sub, hloops sub hsub, hrest⟩
  refine
    { known := fun f hf => ?_
      declared := fun id s' hs' hflag => ?_
      business := fun pre f post hlog => h.business pre f post (hscenes ▸ hlog)
      opened := fun f hf hr => ?_ }
  · obtain ⟨h1, h2, h3, h4, h5, h6⟩ := h.known f (hscenes ▸ hf)
    exact ⟨h1, hservices.symm ▸ h2, hnames.symm ▸ h3, h4, h5, hnext.symm ▸ h6⟩
  · unfold Declared
    rw [hscenes]
    exact h.declared id s' (hflags id s' hs' hflag) hflag
  · rw [hscenes] at hf
    have hr := hready _ hr
    rcases h.opened f hf hr with ⟨s, hs, h1, h2, h3, hmatch⟩ |
      ⟨s, sub, hs, h1, h2, h3, hmatch, hflag, hsub, honline, hid, hcur⟩ | hleaving
    · rcases hsessions f hf hr s hs h1 h2 hmatch h3.ge with hstay | hwait | ⟨_, hleaving⟩ | hleaving
      · exact .inl ⟨s, hstay, h1, h2, h3, hmatch⟩
      · exact .inr (.inl hwait)
      · exact .inr (.inr hleaving)
      · exact .inr (.inr (hleave f hleaving))
    · rcases hsessions f hf hr s hs h1 h2 hmatch h3.le with hstay | hwait | ⟨heq, _⟩ | hleaving
      · exact .inr (.inl ⟨s, sub, hstay, h1, h2, h3, hmatch, hflag, hloops sub hsub, honline, hid,
          hcur⟩)
      · exact .inr (.inl hwait)
      · exact absurd heq (Nat.ne_of_lt h3)
      · exact .inr (.inr (hleave f hleaving))
    · exact .inr (.inr (hleave f hleaving))

/-- A session that is matched with a ready channel has a task to be queued for it. -/
theorem bindingTask_of_matches (hsane : Sane cfg g) {id : Nat} {s : ClientSession}
    {ep : ServiceEndpoint} (hs : g.sessions.get id = some s) (hauthed : s.authed = true)
    (hmatch : Matches cfg s ep) (hpos : 0 < ep.connName) (hready : g.ready ep = true)
    (online : Bool) :
    bindingTask cfg g s online = some { session := s, endpoint := ep, online } := by
  obtain ⟨hdst, hscene, hconn, _⟩ := hsane.scene_of_matches hs hmatch hpos
  have hdecl : Declarable s :=
    ⟨hauthed, (hsane.sessions.epoch _ s hs hauthed).1, hdst, hscene, hconn⟩
  unfold GatewayDispatcher.bindingTask
  rw [if_pos hdecl, boundEndpoint_of_ready hready hmatch]
  rfl

/-- The OFFLINE of a session is queued when it leaves. -/
theorem leaving_of_bindingTask (h : Bracketing cfg g) (hsane : Sane cfg g) {f : SceneFrame}
    {s : ClientSession} (hf : f ∈ unanswered g.toScenes) (hready : g.ready f.endpoint = true)
    (hs : g.sessions.get f.client.clientSession = some s) (hauthed : s.authed = true)
    (hplayer : s.playerId = f.client.playerId) (hmatch : Matches cfg s f.endpoint)
    (hepoch : f.client.clientEpoch = s.epoch)
    (hloops : ∀ sub, bindingTask cfg g s false = some sub → sub ∈ g'.loops) :
    Leaving cfg g' f := by
  have hk := h.known f (unanswered_spec hf).1
  refine ⟨_, hloops _ (bindingTask_of_matches hsane hs hauthed hmatch hk.named.1 hready false),
    rfl, rfl, ?_⟩
  have hid := (hsane.sessions.key _ s hs).1
  unfold clientData
  simp only [hplayer, hid, ← hepoch, ← hk.gateway, ← hk.scene]

/-- A player that logs in again on its connection will be declared under the new epoch. -/
theorem Bracketing.awaited_relogged (h : Bracketing cfg g) (hsane : Sane cfg g) {f : SceneFrame}
    {sid p dst kicked : Nat} {s : ClientSession} {t : ClientSessionTable}
    (hf : f ∈ unanswered g.toScenes) (hready : g.ready f.endpoint = true)
    (hsame : f.client.clientSession = sid)
    (hbound : ClientSessionTable.Bound g.sessions t sid p dst kicked s)
    (hdst : s.dstService ≠ 0 → dst = s.dstService) (hp : s.playerId = p) (hauthed : s.authed = true)
    (hplayer : s.playerId = f.client.playerId) (hmatch : Matches cfg s f.endpoint)
    (hle : f.client.clientEpoch ≤ s.epoch) :
    Awaited cfg (relogged cfg g t kicked (s.bound p dst (g.sessions.lastEpoch p + 1))) f := by
  have hk := h.known f (unanswered_spec hf).1
  obtain ⟨hscene, hid, hconn, hinc⟩ := hsane.scene_of_matches hbound.found hmatch hk.named.1
  have hsame' : dst = s.dstService := hdst (by rw [hscene]; decide)
  have hcur : s.bound p dst (g.sessions.lastEpoch p + 1) =
      { s with epoch := g.sessions.lastEpoch p + 1, sceneOnlineSubmitted := false } := by
    simp [ClientSession.bound, ClientSession.routed, hsame', hauthed, hp]
  obtain ⟨hpos, -, hlast⟩ := hsane.sessions.epoch _ s hbound.found hauthed
  obtain ⟨hsessions, -⟩ := relogged_fields cfg g t kicked (s.bound p dst (g.sessions.lastEpoch p + 1))
  obtain ⟨-, -, -, hloops⟩ := relogged_logs cfg g t kicked
    (s.bound p dst (g.sessions.lastEpoch p + 1))
  have hget := hbound.get_kicked sid
  rw [if_pos rfl, ← hsessions] at hget
  rw [hcur] at hget hloops ⊢
  have hep : g.boundEndpoint cfg
      { s with epoch := g.sessions.lastEpoch p + 1, sceneOnlineSubmitted := false } =
      some f.endpoint := boundEndpoint_of_ready hready hmatch
  have htask : bindingTask cfg g
      { s with epoch := g.sessions.lastEpoch p + 1, sceneOnlineSubmitted := false } true =
      some { session := { s with epoch := g.sessions.lastEpoch p + 1, sceneOnlineSubmitted := false }
             endpoint := f.endpoint
             online := true } := by
    unfold GatewayDispatcher.bindingTask
    rw [if_pos ⟨hauthed, hpos, hscene, hid, hconn⟩, hep]
    rfl
  refine ⟨{ s with epoch := g.sessions.lastEpoch p + 1, sceneOnlineSubmitted := false },
    { session := { s with epoch := g.sessions.lastEpoch p + 1, sceneOnlineSubmitted := false }
      endpoint := f.endpoint
      online := true }, ?_, hauthed, hplayer, ?_, hmatch, rfl, ?_, rfl, rfl, ?_⟩
  · rw [hsame]
    exact hget
  · show f.client.clientEpoch < g.sessions.lastEpoch p + 1
    rw [hp] at hlast
    omega
  · rw [hloops, htask]
    exact List.mem_append_right _ List.mem_cons_self
  · exact decide_eq_true ⟨hauthed, hpos, hscene, hid, hinc, hconn, rfl, rfl, rfl, rfl, rfl, rfl, rfl⟩

theorem Major.bracketing {l : Step} (hmaj : Major cfg g l g') (hsane : Sane cfg g)
    (h : Bracketing cfg g) (hok : Brackets cfg g l) : Bracketing cfg g' := by
  obtain ⟨hnames, hnext⟩ := hmaj.counters
  cases hmaj with
  | closed sid hconn =>
    have heq := @onClientClosed_eq cfg g sid
    refine h.major (by rw [heq]) (by rw [heq]) (by rw [heq]) hnext hnames ?_ ?_ ?_
    · rw [heq]
      exact fun sub hsub => List.mem_append_left _ hsub
    · intro id s' hs' _
      rw [heq] at hs'
      simp only [ClientSessionTable.get_erase] at hs'
      split at hs'
      · cases hs'
      · exact hs'
    · intro f hf hready s hs hauthed hplayer hmatch hle
      by_cases hsame : f.client.clientSession = sid
      · by_cases hepoch : f.client.clientEpoch = s.epoch
        · refine .inr (.inr (.inl ⟨hepoch, leaving_of_bindingTask h hsane hf hready hs hauthed
            hplayer hmatch hepoch fun sub hsub => ?_⟩))
          rw [heq, ← hsame, hs]
          exact List.mem_append_right _ (by simp [hsub])
        · exact .inr (.inr (.inr (hok s (hsame ▸ hs) f hf hsame hepoch hready)))
      · refine .inl ?_
        rw [heq]
        simp only [ClientSessionTable.get_erase]
        rw [if_neg hsame, hs]
  | @login sid hd body nowMs s p dst kicked t hp hdst hbound =>
    obtain ⟨hsessions, -, hservices, -, -, hconns⟩ := relogged_fields cfg g t kicked
      (s.bound p dst (g.sessions.lastEpoch p + 1))
    obtain ⟨-, hscenes, -, hloops⟩ := relogged_logs cfg g t kicked
      (s.bound p dst (g.sessions.lastEpoch p + 1))
    have hget := fun id => hbound.get_kicked id
    rw [← hsessions] at hget
    have hstays : ∀ sub ∈ g.loops, sub ∈ (relogged cfg g t kicked (s.bound p dst
        (g.sessions.lastEpoch p + 1))).loops := by
      rw [hloops]
      exact fun sub hsub => List.mem_append_left _ hsub
    refine h.major hscenes hservices hconns hnext hnames hstays ?_ ?_
    · intro id s' hs' hflag
      rw [hget] at hs'
      split at hs'
      · cases hs'
        cases hflag
      split at hs'
      · cases hs'
      · exact hs'
    · intro f hf hready x hx hauthed hplayer hmatch hle
      obtain ⟨hkick, hother⟩ := (hok s hbound.found).1 p hp hbound.fresh f hf
      by_cases hsame : f.client.clientSession = sid
      · rw [hsame, hbound.found] at hx
        cases hx
        by_cases hp : s.playerId = p
        · -- the player logs in again: the ONLINE of the new epoch is queued
          refine .inr (.inl (h.awaited_relogged hsane hf hready hsame hbound hdst hp hauthed hplayer
            hmatch hle))
        · exact .inr (.inr (.inr (hother hsame hauthed hp hready)))
      · by_cases hk : kicked ≠ 0 ∧ f.client.clientSession = kicked
        · exact .inr (.inr (.inr (hkick (hk.2.trans hbound.rival) hready)))
        · exact .inl (by rw [hget, if_neg hsame, if_neg hk, hx])
  | @switched sid hd body nowMs s s' service t hservice hauthed hne hsw =>
    rw [notifySceneBinding_eq] at hnames hnext ⊢
    refine h.major rfl rfl (fun _ => id) hnext hnames (fun sub hsub => List.mem_append_left _ hsub)
      ?_ ?_
    · intro id x hx hflag
      rw [show ClientSessionTable.get _ id = _ from hsw.get id] at hx
      split at hx
      · cases hx
        rw [hsw.changed hne] at hflag
        cases hflag
      · exact hx
    · intro f hf hready x hx _ hplayer hmatch hle
      by_cases hsame : f.client.clientSession = sid
      · rw [hsame, hsw.found] at hx
        cases hx
        by_cases hepoch : f.client.clientEpoch = s.epoch
        · refine .inr (.inr (.inl ⟨hepoch, leaving_of_bindingTask h hsane hf hready
            (hsame ▸ hsw.found) hauthed hplayer hmatch hepoch fun sub hsub => ?_⟩))
          exact List.mem_append_right _ (Option.mem_toList.mpr hsub)
        · exact .inr (.inr (.inr ((hok s hsw.found).2 service hservice hauthed hne
            (hsw.fresh hne hauthed) f hf hsame hepoch hready)))
      · exact .inl ((hsw.get _).trans (by rw [if_neg hsame, hx]))

theorem bracketing_init : Bracketing cfg (init cfg) where
  known := by simp [init]
  declared := by simp [init, ClientSessionTable.get]
  business := by simp [init]
  opened := by simp [init, unanswered]

theorem bracketing_step {l : Step} (hsane : Sane cfg g) (h : Bracketing cfg g)
    (hok : Brackets cfg g l) (hstep : step cfg g l = some g') : Bracketing cfg g' :=
  step_induction hsane hstep (fun _ hmaj hg => hmaj.bracketing hsane hg hok)
    (fun _ _ hx heff hopen => heff.bracketing hx hopen) h

end Preservation

/-- In a run without the exceptions every ONLINE is answered once its binding has ended, and no
business frame overtakes its ONLINE. -/
theorem bracketed_exec {ls : List Step} (hok : Run.Along (step cfg) (Brackets cfg) (init cfg) ls)
    (hrun : Run.exec (step cfg) (init cfg) ls = some g) : Bracketed cfg g := by
  have h := Run.along_invariant (fun g => Sane cfg g ∧ Bracketing cfg g)
    (fun _ _ _ hi hstepOk hst => ⟨sane_step hi.1 hst, bracketing_step hi.1 hi.2 hstepOk hst⟩)
    ⟨sane_init, bracketing_init⟩ hok hrun
  exact h.2.bracketed h.1


/-- Player 7 asks its scene, logs in again on the same connection and leaves. -/
theorem bracketed_exec_relogin :
    ∃ g, Run.exec (step smallZone) (init smallZone)
        [.backendConnected, sceneAnnounced 1 5 9, .clientConnected, authFrame 1 7, requestFrame 1 1,
          .runLoop 1 true, authFrame 1 7, .runLoop 1 true, .lose 2, .clientClosed 1,
          .runLoop 1 true] = some g ∧
      g.toScenes.map (·.kind) = [.online, .business, .online, .offline] ∧
      Bracketed smallZone g := by
  have hkinds : ((Run.exec (step smallZone) (init smallZone)
      [.backendConnected, sceneAnnounced 1 5 9, .clientConnected, authFrame 1 7, requestFrame 1 1,
        .runLoop 1 true, authFrame 1 7, .runLoop 1 true, .lose 2, .clientClosed 1,
        .runLoop 1 true]).any fun g =>
      g.toScenes.map (·.kind) = [.online, .business, .online, .offline]) = true := by
    decide +kernel
  obtain ⟨g, hg, hkinds⟩ := (Option.any_eq_true _ _).mp hkinds
  exact ⟨g, hg, of_decide_eq_true hkinds, bracketed_exec (by decide +kernel) hg⟩

/-- Player 7 logs in on a second connection: the session that is kicked goes without an OFFLINE, and
nothing is left to be submitted. -/
theorem kicked_session_stays_online :
    ¬ ∀ cfg ls g, Run.exec (step cfg) (init cfg) ls = some g → Bracketed cfg g := by
  intro hclaim
  have hghost : ((Run.exec (step smallZone) (init smallZone)
      [.backendConnected, sceneAnnounced 1 5 9, .clientConnected, authFrame 1 7, requestFrame 1 1,
        .runLoop 1 true, .clientConnected, authFrame 2 7]).any fun g =>
      g.loops.isEmpty && (unanswered g.toScenes).any fun f =>
        g.ready f.endpoint && (g.sessions.get f.client.clientSession).isNone) = true := by
    decide +kernel
  obtain ⟨g, hg, hghost⟩ := (Option.any_eq_true _ _).mp hghost
  obtain ⟨hempty, hghost⟩ := Bool.and_eq_true_iff.mp hghost
  obtain ⟨f, hf, hghost⟩ := List.any_eq_true.mp hghost
  obtain ⟨hready, hgone⟩ := Bool.and_eq_true_iff.mp hghost
  have hquiet : Quiet g f.endpoint.connName := by
    intro sub hsub
    rw [List.isEmpty_iff.mp hempty] at hsub
    cases hsub
  obtain ⟨s, hs, -⟩ := (hclaim _ _ g hg).held f hf hready hquiet
  rw [hs] at hgone
  cases hgone

end GatewayDispatcher

end Gateway
