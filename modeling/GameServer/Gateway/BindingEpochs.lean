import GameServer.Gateway.Bracketing
import GameServer.Gateway.PlayerSessions
import GameServer.Net.Words

/-!
# The epochs of bindings

All that a gateway tells its scenes is about a player under an epoch. To one epoch of a
player belong one session and one channel, the epoch is declared once the session has it, and
when its withdrawal is queued no session has it any more.
-/

namespace Gateway

namespace GatewayDispatcher

open ClientSessionTable (Seated)

variable {cfg : DispatcherConfig} {g g' : GatewayDispatcher}

/-- A session with a scene, a queued task or a frame that was written has the binding go with the
channel. -/
inductive Says (cfg : DispatcherConfig) (g : GatewayDispatcher) :
    ClientData → ServiceEndpoint → Prop
  | session {id : Nat} {s : ClientSession} {ep : ServiceEndpoint}
      (hs : g.sessions.get id = some s) (hauthed : s.authed = true) (hscene : s.sceneId ≠ 0)
      (hmatch : Matches cfg s ep) : Says cfg g (clientData cfg s ep) ep
  | task {sub : SceneSubmission} (hsub : sub ∈ g.loops) :
    Says cfg g (clientData cfg sub.session sub.endpoint) sub.endpoint
  | frame {f : SceneFrame} (hf : f ∈ g.toScenes) : Says cfg g f.client f.endpoint

/-- The withdrawal of the binding is queued, or was written. -/
inductive Withdrawn (cfg : DispatcherConfig) (g : GatewayDispatcher) : ClientData → Prop
  | task {sub : SceneSubmission} (hsub : sub ∈ g.loops) (hoff : sub.online = false) :
    Withdrawn cfg g (clientData cfg sub.session sub.endpoint)
  | frame {f : SceneFrame} (hf : f ∈ g.toScenes) (hoff : f.kind = .offline) :
    Withdrawn cfg g f.client

/-- A binding as the gateway makes them. -/
structure Proper (cfg : DispatcherConfig) (g : GatewayDispatcher) (d : ClientData)
    (ep : ServiceEndpoint) : Prop where
  player : d.playerId ≠ 0 ∧ d.playerId < 2 ^ 64
  session : d.clientSession ≠ 0 ∧ d.clientSession < g.sessions.nextSessionId
  epoch : d.clientEpoch ≠ 0 ∧ d.clientEpoch ≤ g.sessions.lastEpoch d.playerId
  gateway : d.gatewayId = cfg.gatewayId
  scene : d.sceneId = ep.sceneId ∧ d.sceneId ≠ 0

/-- The invariant. -/
structure Dated (cfg : DispatcherConfig) (g : GatewayDispatcher) : Prop where
  seated : Seated g.sessions
  capped : ∀ p, g.sessions.lastEpoch p ≤ uint32Max
  players : ∀ id s, g.sessions.get id = some s → s.authed = true → s.playerId < 2 ^ 64
  named : ∀ f ∈ g.toScenes, f.endpoint.connName < g.nextConnId
  proper : ∀ d ep, Says cfg g d ep → Proper cfg g d ep
  one : ∀ d ep d' ep', Says cfg g d ep → Says cfg g d' ep' → d.playerId = d'.playerId →
    d.clientEpoch = d'.clientEpoch → d = d' ∧ ep = ep'
  fresh : ∀ id s, g.sessions.get id = some s → s.authed = true → s.sceneId = 0 →
    ∀ d ep, Says cfg g d ep → d.playerId = s.playerId → d.clientEpoch < s.epoch
  gone : ∀ d, Withdrawn cfg g d → ∀ id s, g.sessions.get id = some s → s.authed = true →
    s.playerId = d.playerId → d.clientEpoch < s.epoch
  declared : ∀ id s, g.sessions.get id = some s → s.sceneOnlineSubmitted = true →
    Declared cfg g s
  flagged : ∀ f ∈ g.toScenes, f.kind ≠ .offline →
    ∀ s, g.sessions.get f.client.clientSession = some s → s.authed = true →
      s.playerId = f.client.playerId → s.epoch = f.client.clientEpoch →
      s.sceneOnlineSubmitted = true

theorem dated_init : Dated cfg (init cfg) where
  seated := ClientSessionTable.seated_init
  capped := fun p => by simp [init, ClientSessionTable.lastEpoch, uint32Max]
  players := by simp [init, ClientSessionTable.get]
  named := by simp [init]
  proper := fun d ep h => by cases h <;> simp_all [init, ClientSessionTable.get]
  one := fun d ep _ _ h => by cases h <;> simp_all [init, ClientSessionTable.get]
  fresh := by simp [init, ClientSessionTable.get]
  gone := fun d h => by cases h <;> simp_all [init]
  declared := by simp [init, ClientSessionTable.get]
  flagged := by simp [init]

section Facts

/-- A session that has a scene and has not changed says what it said. -/
theorem Says.of_kept {id : Nat} {s s' : ClientSession} {ep : ServiceEndpoint}
    (hs : g.sessions.get id = some s) (hk : Kept s s') (hauthed : s'.authed = true)
    (hscene : s.sceneId ≠ 0) (hmatch : Matches cfg s' ep) :
    Says cfg g (clientData cfg s' ep) ep := by
  obtain ⟨k1, k2, k3, k4⟩ := hk.scene hscene
  obtain ⟨h1, h2, h3, h4, h5, h6⟩ := hmatch
  have hsame : clientData cfg s' ep = clientData cfg s ep := by
    unfold clientData
    rw [hk.playerId, hk.sessionId, hk.epoch]
  rw [hsame]
  exact .session hs (hk.authed.symm.trans hauthed) hscene
    ⟨h1, h2, h3.trans k1, h4.trans k2, h5.trans k3, h6.trans k4⟩

theorem Says.mono {d : ClientData} {ep : ServiceEndpoint} (h : Says cfg g' d ep)
    (hsessions : ∀ id s ep, g'.sessions.get id = some s → s.authed = true → s.sceneId ≠ 0 →
      Matches cfg s ep → Says cfg g (clientData cfg s ep) ep)
    (hloops : ∀ sub ∈ g'.loops, Says cfg g (clientData cfg sub.session sub.endpoint) sub.endpoint)
    (hscenes : ∀ f ∈ g'.toScenes, Says cfg g f.client f.endpoint) : Says cfg g d ep := by
  cases h with
  | session hs hauthed hscene hmatch => exact hsessions _ _ _ hs hauthed hscene hmatch
  | task hsub => exact hloops _ hsub
  | frame hf => exact hscenes _ hf

/-- The task that a session has queued says what the session says. -/
theorem says_bindingTask (hsane : Sane cfg g) {sid : Nat} {s : ClientSession} {online : Bool}
    {sub : SceneSubmission} (hs : g.sessions.get sid = some s)
    (hsub : bindingTask cfg g s online = some sub) :
    Says cfg g (clientData cfg sub.session sub.endpoint) sub.endpoint ∧ sub.session = s ∧
      sub.online = online := by
  obtain ⟨htask, rfl, honline, -⟩ := hsane.bindingTask hs hsub
  exact ⟨.session hs htask.declarable.1 htask.declarable.2.2.2.1 htask.matched, rfl, honline⟩

theorem Proper.later {d : ClientData} {ep : ServiceEndpoint} (h : Proper cfg g d ep)
    (hids : g.sessions.nextSessionId ≤ g'.sessions.nextSessionId)
    (hlast : ∀ p, g.sessions.lastEpoch p ≤ g'.sessions.lastEpoch p) : Proper cfg g' d ep where
  player := h.player
  session := ⟨h.session.1, Nat.lt_of_lt_of_le h.session.2 hids⟩
  epoch := ⟨h.epoch.1, Nat.le_trans h.epoch.2 (hlast _)⟩
  gateway := h.gateway
  scene := h.scene

/-- What the sessions say is proper. -/
theorem proper_session (hsane : g.sessions.Sane) {id : Nat} {s : ClientSession}
    {ep : ServiceEndpoint} (hs : g.sessions.get id = some s) (hauthed : s.authed = true)
    (hplayer : s.playerId < 2 ^ 64) (hscene : s.sceneId ≠ 0) (hmatch : Matches cfg s ep) :
    Proper cfg g (clientData cfg s ep) ep := by
  obtain ⟨hid, hpos, hlt⟩ := hsane.key id s hs
  obtain ⟨hne, hepoch, hlast⟩ := hsane.epoch id s hs hauthed
  refine ⟨⟨hne, hplayer⟩, ⟨?_, ?_⟩, ⟨Nat.ne_of_gt hepoch, hlast⟩, rfl, rfl, ?_⟩
  · show s.sessionId ≠ 0
    omega
  · show s.sessionId < _
    omega
  · show ep.sceneId ≠ 0
    rw [hmatch.2.2.1]
    exact hscene

/-- Which frames a task has, by its kind. -/
theorem offline_sceneFrames {sub : SceneSubmission} {declare : Bool} {f : SceneFrame}
    (hf : f ∈ sceneFrames cfg sub declare) (hoff : f.kind = .offline) : sub.online = false := by
  unfold sceneFrames at hf
  rcases List.mem_append.mp hf with hf | hf
  · split at hf
    · cases List.mem_singleton.mp hf
      unfold bindingFrame at hoff
      cases honline : sub.online with
      | false => rfl
      | true => simp [honline] at hoff
    · cases hf
  · split at hf
    · cases hf
    · cases List.mem_singleton.mp hf
      cases hoff

theorem online_sceneFrames (hsane : Sane cfg g) {sub : SceneSubmission} (hsub : sub ∈ g.loops)
    {declare : Bool} {f : SceneFrame} (hf : f ∈ sceneFrames cfg sub declare)
    (hkind : f.kind ≠ .offline) : sub.online = true := by
  cases honline : sub.online with
  | true => rfl
  | false =>
    unfold sceneFrames at hf
    rw [(hsane.tasks sub hsub).plain honline, honline] at hf
    simp only [Bool.not_false, Bool.true_or, if_true, List.append_nil, List.mem_singleton] at hf
    subst hf
    exact absurd rfl hkind

end Facts

section Effects

/-- Nothing new is said. -/
theorem Dated.frame (h : Dated cfg g) (hseated : Seated g'.sessions)
    (hlast : ∀ p, g'.sessions.lastEpoch p = g.sessions.lastEpoch p)
    (hids : g.sessions.nextSessionId ≤ g'.sessions.nextSessionId)
    (hsaid : ∀ d ep, Says cfg g' d ep → Says cfg g d ep)
    (hsessions : ∀ id s', g'.sessions.get id = some s' → s'.authed = true →
      ∃ s, g.sessions.get id = some s ∧ Kept s s')
    (hnamed : ∀ f ∈ g'.toScenes, f.endpoint.connName < g'.nextConnId)
    (hgone : ∀ d, Withdrawn cfg g' d → Withdrawn cfg g d)
    (hdeclared : ∀ id s, g'.sessions.get id = some s → s.sceneOnlineSubmitted = true →
      Declared cfg g' s)
    (hflagged : ∀ f ∈ g'.toScenes, f.kind ≠ .offline →
      ∀ s, g'.sessions.get f.client.clientSession = some s → s.authed = true →
        s.playerId = f.client.playerId → s.epoch = f.client.clientEpoch →
        s.sceneOnlineSubmitted = true) : Dated cfg g' where
  seated := hseated
  capped := fun p => by rw [hlast]; exact h.capped p
  players := fun id s' hs' hauthed => by
    obtain ⟨s, hs, hk⟩ := hsessions id s' hs' hauthed
    rw [hk.playerId]
    exact h.players id s hs (hk.authed.symm.trans hauthed)
  named := hnamed
  proper := fun d ep hd => (h.proper d ep (hsaid d ep hd)).later hids fun p => (hlast p).ge
  one := fun d ep d' ep' hd hd' => h.one d ep d' ep' (hsaid d ep hd) (hsaid d' ep' hd')
  fresh := fun id s' hs' hauthed hscene d ep hd hplayer => by
    obtain ⟨s, hs, hk⟩ := hsessions id s' hs' hauthed
    have hnone : s.sceneId = 0 := by
      by_contra hne
      exact hne ((hk.scene hne).1.symm.trans hscene)
    rw [hk.epoch]
    exact h.fresh id s hs (hk.authed.symm.trans hauthed) hnone d ep (hsaid d ep hd)
      (hplayer.trans hk.playerId)
  gone := fun d hd id s' hs' hauthed hplayer => by
    obtain ⟨s, hs, hk⟩ := hsessions id s' hs' hauthed
    rw [hk.epoch]
    exact h.gone d (hgone d hd) id s hs (hk.authed.symm.trans hauthed)
      (hk.playerId.symm.trans hplayer)
  declared := hdeclared
  flagged := hflagged

/-- The sessions and the frames stay, and what is queued was said. -/
theorem Dated.same (h : Dated cfg g) (hsessions : g'.sessions = g.sessions)
    (hscenes : g'.toScenes = g.toScenes) (hnames : g.nextConnId ≤ g'.nextConnId)
    (hloops : ∀ sub ∈ g'.loops, sub ∈ g.loops ∨ sub.online = true ∧
      Says cfg g (clientData cfg sub.session sub.endpoint) sub.endpoint) : Dated cfg g' := by
  refine h.frame (hsessions ▸ h.seated) (fun p => by rw [hsessions]) (by rw [hsessions])
    (fun d ep hd => hd.mono (fun id s ep hs => .session (hsessions ▸ hs)) (fun sub hsub => ?_)
      fun f hf => .frame (hscenes ▸ hf))
    (fun id s hs _ => ⟨s, hsessions ▸ hs, .refl s⟩)
    (fun f hf => Nat.lt_of_lt_of_le (h.named f (hscenes ▸ hf)) hnames) (fun d hd => ?_)
    (fun id s hs hflag => ?_) ?_
  · exact (hloops sub hsub).elim .task fun hnew => hnew.2
  · cases hd with
    | @task sub hsub hoff =>
      rcases hloops sub hsub with hold | ⟨honline, -⟩
      · exact .task hold hoff
      · cases hoff.symm.trans honline
    | frame hf hoff => exact .frame (hscenes ▸ hf) hoff
  · unfold Declared
    rw [hscenes]
    exact h.declared id s (hsessions ▸ hs) hflag
  · rw [hscenes, hsessions]
    exact h.flagged

/-- A session that had no scene gets one. -/
theorem Dated.assigned (h : Dated cfg g) (hsane : g.sessions.Sane) {sid : Nat}
    {s s' : ClientSession} (hs : g.sessions.get sid = some s) (hauthed : s.authed = true)
    (hnone : s.sceneId = 0) (hk : Kept s s') (hscene : s'.sceneId ≠ 0)
    (hflag : s'.sceneOnlineSubmitted = s.sceneOnlineSubmitted)
    (hget : ∀ id, g'.sessions.get id = if id = sid then some s' else g.sessions.get id)
    (hseated : Seated g'.sessions) (hlast : ∀ p, g'.sessions.lastEpoch p = g.sessions.lastEpoch p)
    (hids : g'.sessions.nextSessionId = g.sessions.nextSessionId)
    (hloops : g'.loops = g.loops) (hscenes : g'.toScenes = g.toScenes)
    (hnames : g'.nextConnId = g.nextConnId) : Dated cfg g' := by
  -- what is said is what was said, or what the session says now
  have hcases : ∀ d ep, Says cfg g' d ep → Says cfg g d ep ∨
      d = clientData cfg s' ep ∧ Matches cfg s' ep := by
    intro d ep hd
    cases hd with
    | @session id x _ hx hxa hxs hmatch =>
      rw [hget] at hx
      split at hx
      · cases hx
        exact .inr ⟨rfl, hmatch⟩
      · exact .inl (.session hx hxa hxs hmatch)
    | task hsub => exact .inl (.task (hloops ▸ hsub))
    | frame hf => exact .inl (.frame (hscenes ▸ hf))
  have hnew : ∀ d ep, Says cfg g d ep → d.playerId = s'.playerId → d.clientEpoch < s'.epoch := by
    intro d ep hd hplayer
    rw [hk.epoch]
    exact h.fresh sid s hs hauthed hnone d ep hd (hplayer.trans hk.playerId)
  have hback : ∀ id x', g'.sessions.get id = some x' → ∃ x, g.sessions.get id = some x ∧ Kept x x' ∧
      x'.sceneOnlineSubmitted = x.sceneOnlineSubmitted := by
    intro id x' hx'
    rw [hget] at hx'
    split at hx'
    · rename_i hid
      cases hx'
      exact ⟨s, hid ▸ hs, hk, hflag⟩
    · exact ⟨x', hx', .refl x', rfl⟩
  refine
    { seated := hseated
      capped := fun p => by rw [hlast]; exact h.capped p
      players := fun id x' hx' hxa => ?_
      named := by rw [hscenes, hnames]; exact h.named
      proper := fun d ep hd => ?_
      one := fun d ep d' ep' hd hd' hplayer hepoch => ?_
      fresh := fun id x' hx' hxa hxnone d ep hd hplayer => ?_
      gone := fun d hd id x' hx' hxa hplayer => ?_
      declared := fun id x' hx' hxflag => ?_
      flagged := fun f hf hkind x' hx' hxa hplayer hepoch => ?_ }
  · obtain ⟨x, hx, hkx, -⟩ := hback id x' hx'
    rw [hkx.playerId]
    exact h.players id x hx (hkx.authed.symm.trans hxa)
  · rcases hcases d ep hd with hold | ⟨rfl, hmatch⟩
    · exact (h.proper d ep hold).later hids.ge fun p => (hlast p).ge
    · obtain ⟨hid, hpos, hlt⟩ := hsane.key sid s hs
      obtain ⟨hne, hepoch, hle⟩ := hsane.epoch sid s hs hauthed
      refine ⟨⟨?_, ?_⟩, ⟨?_, ?_⟩, ⟨?_, ?_⟩, rfl, rfl, ?_⟩
      · exact fun hz => hne (hk.playerId.symm.trans hz)
      · show s'.playerId < _
        rw [hk.playerId]
        exact h.players sid s hs hauthed
      · show s'.sessionId ≠ 0
        rw [hk.sessionId]
        omega
      · show s'.sessionId < _
        rw [hk.sessionId, hids]
        omega
      · show s'.epoch ≠ 0
        rw [hk.epoch]
        omega
      · show s'.epoch ≤ g'.sessions.lastEpoch s'.playerId
        rw [hk.epoch, hk.playerId, hlast]
        exact hle
      · show ep.sceneId ≠ 0
        rw [hmatch.2.2.1]
        exact hscene
  · rcases hcases d ep hd with hold | ⟨rfl, hmatch⟩ <;>
      rcases hcases d' ep' hd' with hold' | ⟨rfl, hmatch'⟩
    · exact h.one d ep d' ep' hold hold' hplayer hepoch
    · exact absurd hepoch (Nat.ne_of_lt (hnew d ep hold hplayer))
    · exact absurd hepoch.symm (Nat.ne_of_lt (hnew d' ep' hold' hplayer.symm))
    · obtain rfl := matches_unique hmatch hmatch'
      exact ⟨rfl, rfl⟩
  · rw [hget] at hx'
    split at hx'
    · cases hx'
      exact absurd hxnone hscene
    · rename_i hid
      rcases hcases d ep hd with hold | ⟨rfl, -⟩
      · exact h.fresh id x' hx' hxa hxnone d ep hold hplayer
      · -- the player has one session
        have hself := (h.seated sid s hs (hsane.epoch sid s hs hauthed).1).1
        have hother := (h.seated id x' hx' (hsane.epoch id x' hx' hxa).1).1
        have hsame : s.playerId = x'.playerId := hk.playerId.symm.trans hplayer
        rw [hsame] at hself
        exact absurd (Option.some.inj (hother.symm.trans hself)) hid
  · obtain ⟨x, hx, hkx, -⟩ := hback id x' hx'
    have hold : Withdrawn cfg g d := by
      cases hd with
      | task hsub hoff => exact .task (hloops ▸ hsub) hoff
      | frame hf hoff => exact .frame (hscenes ▸ hf) hoff
    rw [hkx.epoch]
    exact h.gone d hold id x hx (hkx.authed.symm.trans hxa) (hkx.playerId.symm.trans hplayer)
  · obtain ⟨x, hx, hkx, hxf⟩ := hback id x' hx'
    obtain ⟨f, hf, hkind, hclient, hmatch⟩ := h.declared id x hx (hxf.symm.trans hxflag)
    by_cases hxs : x.sceneId = 0
    · -- a session without a scene has declared nothing
      have hsaid := (h.proper _ _ (.frame hf)).scene
      rw [hmatch.2.2.1] at hsaid
      exact absurd (hsaid.1.trans hxs) hsaid.2
    · refine ⟨f, hscenes.symm ▸ hf, hkind, ?_, hkx.matches hxs hmatch⟩
      rw [hclient]
      unfold clientData
      rw [hkx.playerId, hkx.sessionId, hkx.epoch]
  · obtain ⟨x, hx, hkx, hxf⟩ := hback _ x' hx'
    rw [hxf]
    exact h.flagged f (hscenes ▸ hf) hkind x hx (hkx.authed.symm.trans hxa)
      (hkx.playerId.symm.trans hplayer) (hkx.epoch.symm.trans hepoch)

/-- The task at the front is run, and its frames are written. -/
theorem Dated.ran (h : Dated cfg g) (hsane : Sane cfg g) {conn : ConnName} {sub : SceneSubmission}
    {rest : List SceneSubmission} (hnext : nextTask conn g.loops = some (sub, rest)) {declare : Bool}
    (hloops : g'.loops = rest) (hscenes : g'.toScenes = g.toScenes ++ sceneFrames cfg sub declare)
    (hseated : Seated g'.sessions) (hlast : ∀ p, g'.sessions.lastEpoch p = g.sessions.lastEpoch p)
    (hids : g.sessions.nextSessionId ≤ g'.sessions.nextSessionId)
    (hnames : g'.nextConnId = g.nextConnId)
    (hback : ∀ id s', g'.sessions.get id = some s' → ∃ s, g.sessions.get id = some s ∧ Kept s s' ∧
      s'.sceneId = s.sceneId)
    (hdeclared : ∀ id s, g'.sessions.get id = some s → s.sceneOnlineSubmitted = true →
      Declared cfg g' s)
    (hflagged : ∀ s, g'.sessions.get sub.session.sessionId = some s → s.authed = true →
      s.playerId = sub.session.playerId → s.epoch = sub.session.epoch → sub.online = true →
      s.sceneOnlineSubmitted = true)
    (hkept : ∀ id s s', g.sessions.get id = some s → g'.sessions.get id = some s' →
      s.sceneOnlineSubmitted = true → s'.sceneOnlineSubmitted = true) : Dated cfg g' := by
  have hmem := (mem_of_nextTask hnext).1
  have hframe : ∀ f ∈ g'.toScenes, f ∈ g.toScenes ∨ f ∈ sceneFrames cfg sub declare := by
    rw [hscenes]
    exact fun f => List.mem_append.mp
  refine h.frame hseated hlast hids (fun d ep hd => hd.mono (fun id s ep hs hauthed hscene hmatch => ?_)
    (fun x hx => .task ?_) fun f hf => ?_) (fun id s' hs' _ => ?_) (fun f hf => ?_) (fun d hd => ?_)
    hdeclared fun f hf hkind s hs hauthed hplayer hepoch => ?_
  · obtain ⟨x, hx, hk, hsame⟩ := hback id s hs
    exact .of_kept hx hk hauthed (hsame ▸ hscene) hmatch
  · exact (mem_of_nextTask hnext).2 x (hloops ▸ hx)
  · rcases hframe f hf with hf | hf
    · exact .frame hf
    · obtain ⟨hep, hclient⟩ := mem_sceneFrames hf
      rw [hep, hclient]
      exact .task hmem
  · obtain ⟨s, hs, hk, -⟩ := hback id s' hs'
    exact ⟨s, hs, hk⟩
  · rw [hnames]
    rcases hframe f hf with hf | hf
    · exact h.named f hf
    · rw [(mem_sceneFrames hf).1]
      exact (hsane.tasks sub hmem).known.2
  · cases hd with
    | task hsub hoff => exact .task ((mem_of_nextTask hnext).2 _ (hloops ▸ hsub)) hoff
    | frame hf hoff =>
      rcases hframe _ hf with hf | hf
      · exact .frame hf hoff
      · rw [(mem_sceneFrames hf).2]
        exact .task hmem (offline_sceneFrames hf hoff)
  · rcases hframe f hf with hf | hf
    · obtain ⟨x, hx, hk, -⟩ := hback _ s hs
      exact hkept _ x s hx hs (h.flagged f hf hkind x hx (hk.authed.symm.trans hauthed)
        (hk.playerId.symm.trans hplayer) (hk.epoch.symm.trans hepoch))
    · have hclient := (mem_sceneFrames hf).2
      rw [hclient] at hs hplayer hepoch
      exact hflagged s hs hauthed hplayer hepoch (online_sceneFrames hsane hmem hf hkind)

theorem Effect.dated (heff : Effect cfg g g') (hsane : Sane cfg g) (h : Dated cfg g) :
    Dated cfg g' := by
  have hseated := heff.seated h.seated
  cases heff with
  | opened =>
    have hget := ClientSessionTable.get_create g.sessions g.nextConnId cfg.defaultDstService
    have hback : ∀ id s, (g.sessions.create g.nextConnId cfg.defaultDstService).2.get id = some s →
        s.authed = true ∨ s.sceneOnlineSubmitted = true → g.sessions.get id = some s := by
      intro id s hs hyes
      rw [hget] at hs
      split at hs
      · cases hs
        rcases hyes with hyes | hyes <;> cases hyes
      · exact hs
    refine h.frame hseated (fun _ => rfl) (Nat.le_succ _)
      (fun d ep hd => hd.mono (fun id s ep hs hauthed hscene hmatch =>
        .session (hback id s hs (.inl hauthed)) hauthed hscene hmatch) (fun _ hsub => .task hsub)
        fun _ hf => .frame (g := g) hf)
      (fun id s hs hauthed => ⟨s, hback id s hs (.inl hauthed), .refl s⟩)
      (fun f hf => Nat.lt_succ_of_lt (h.named f hf)) (fun d hd => ?_)
      (fun id s hs hflag => h.declared id s (hback id s hs (.inr hflag)) hflag)
      fun f hf hkind s hs hauthed => h.flagged f hf hkind s (hback _ s hs (.inl hauthed)) hauthed
    cases hd with
    | task hsub hoff => exact .task hsub hoff
    | frame hf hoff => exact .frame hf hoff
  | assigned sid sceneId channelId incarnation conn =>
    rcases g.sessions.setSceneBinding_cases sid sceneId channelId incarnation conn with
      heq | ⟨hscene, _, _, s, hs, hauthed, _, hnone, heq⟩
    · exact h.same heq rfl le_rfl fun _ => .inl
    · rw [heq] at hseated ⊢
      have hk : Kept s { s with
          sceneId := sceneId, backendChannelId := channelId, sceneIncarnation := incarnation,
          sceneConnName := conn } :=
        ⟨rfl, rfl, rfl, rfl, rfl, rfl, fun hne => absurd hnone hne, fun hf => hf⟩
      exact h.assigned hsane.sessions hs hauthed hnone hk hscene rfl
        (fun id => Table.lookup_insert _ _ id _) hseated (fun _ => rfl) rfl rfl rfl rfl
  | queued s ep frame seq hs hdecl hep hseq hroute =>
    refine h.same rfl rfl le_rfl fun sub hsub => ?_
    rcases List.mem_append.mp hsub with hsub | hsub
    · exact .inl hsub
    · cases List.mem_singleton.mp hsub
      exact .inr ⟨rfl, .session hs hdecl.1 hdecl.2.2.2.1
        (boundEndpoint_spec hsane.services hep).1⟩
  | refused conn sub rest hnext why =>
    exact h.same rfl rfl le_rfl fun x hx => .inl ((mem_of_nextTask hnext).2 x hx)
  | broken conn sub rest hnext =>
    exact h.same rfl rfl le_rfl fun x hx => .inl ((mem_of_nextTask hnext).2 x hx)
  | declared conn sub rest s hnext hready honline hs hcur =>
    have hmem := (mem_of_nextTask hnext).1
    have hmatch := matches_of_current hcur (hsane.tasks sub hmem).matched
    have hget : ∀ id, ({ g.sessions with
          sessions := g.sessions.sessions.insert sub.session.sessionId
            { s with sceneOnlineSubmitted := true } } : ClientSessionTable).get id =
        if id = sub.session.sessionId then some { s with sceneOnlineSubmitted := true }
        else g.sessions.get id := fun id => Table.lookup_insert _ _ id _
    refine h.ran hsane hnext rfl rfl hseated (fun _ => rfl) le_rfl rfl (fun id x hx => ?_)
      (fun id x hx hflag => ?_) (fun x hx _ _ _ _ => ?_) fun id x x' hx hx' hflag => ?_
    · rw [hget] at hx
      split at hx
      · rename_i hid
        cases hx
        exact ⟨s, hid ▸ hs, ⟨rfl, rfl, rfl, rfl, rfl, rfl, fun _ => ⟨rfl, rfl, rfl, rfl⟩,
          fun _ => rfl⟩, rfl⟩
      · exact ⟨x, hx, .refl x, rfl⟩
    · rw [hget] at hx
      split at hx
      · cases hx
        cases hdone : s.sceneOnlineSubmitted with
        | true =>
          obtain ⟨f, hf, hkind, hclient, hm⟩ := h.declared _ s hs hdone
          exact ⟨f, List.mem_append_left _ hf, hkind, hclient, hm⟩
        | false =>
          have hkey := (hsane.sessions.key _ s hs).1
          refine ⟨bindingFrame cfg sub.session sub.endpoint true, List.mem_append_right _ ?_, rfl, ?_,
            hmatch⟩
          · show bindingFrame cfg sub.session sub.endpoint true ∈ sceneFrames cfg sub true
            rw [sceneFrames_online honline]
            exact List.mem_append_left _ List.mem_cons_self
          · exact (clientData_eq hkey hcur).symm
      · obtain ⟨f, hf, hkind, hclient, hm⟩ := h.declared id x hx hflag
        exact ⟨f, List.mem_append_left _ hf, hkind, hclient, hm⟩
    · rw [hget, if_pos rfl] at hx
      cases hx
      rfl
    · rw [hget] at hx'
      split at hx'
      · cases hx'
        rfl
      · cases hx.symm.trans hx'
        exact hflag
  | withdrawn conn sub rest hnext hready hoff =>
    refine h.ran hsane hnext rfl rfl hseated (fun _ => rfl) le_rfl rfl
      (fun id x hx => ⟨x, hx, .refl x, rfl⟩) (fun id x hx hflag => ?_)
      (fun _ _ _ _ _ honline => ?_) fun id x x' hx hx' hflag => ?_
    · obtain ⟨f, hf, hkind, hclient, hm⟩ := h.declared id x hx hflag
      exact ⟨f, List.mem_append_left _ hf, hkind, hclient, hm⟩
    · cases hoff.symm.trans honline
    · cases hx.symm.trans hx'
      exact hflag
  | swept nowMs =>
    rw [sweepRoutes_eq]
    exact h.same rfl rfl le_rfl fun _ => .inl
  | accepted => exact h.same rfl rfl (Nat.le_succ _) fun _ => .inl
  | lost | sent | pushed | registry | skipped | added | answered | dropped | relayed =>
    exact h.same rfl rfl le_rfl fun _ => .inl

/-- A session gets a new epoch of its player. -/
theorem Dated.renewed (h : Dated cfg g) (hsane : g'.sessions.Sane) (hseated : Seated g'.sessions)
    {sid : Nat} {new : ClientSession} (hnew : g'.sessions.get sid = some new)
    (hauthed : new.authed = true) (hplayer : new.playerId < 2 ^ 64)
    (hepoch : new.epoch = g.sessions.lastEpoch new.playerId + 1)
    (hflag : new.sceneOnlineSubmitted = false)
    (hroom : g.sessions.lastEpoch new.playerId ≠ uint32Max)
    (hold : ∀ id x, g'.sessions.get id = some x → id ≠ sid → g.sessions.get id = some x)
    (hlast : ∀ q, g'.sessions.lastEpoch q =
      if q = new.playerId then g.sessions.lastEpoch new.playerId + 1 else g.sessions.lastEpoch q)
    (hids : g'.sessions.nextSessionId = g.sessions.nextSessionId)
    (hscenes : g'.toScenes = g.toScenes) (hnames : g'.nextConnId = g.nextConnId)
    (hloops : ∀ sub ∈ g'.loops, sub ∈ g.loops ∨
      (sub.online = true ∧ sub.session = new ∧ new.sceneId ≠ 0 ∧ Matches cfg new sub.endpoint) ∨
      (sub.session.playerId = new.playerId ∧
        Says cfg g (clientData cfg sub.session sub.endpoint) sub.endpoint)) : Dated cfg g' := by
  -- what is said was said, or the new session says it
  have hcases : ∀ d ep, Says cfg g' d ep → Says cfg g d ep ∨
      d = clientData cfg new ep ∧ new.sceneId ≠ 0 ∧ Matches cfg new ep := by
    intro d ep hd
    cases hd with
    | @session id x _ hx hxa hxs hmatch =>
      by_cases hid : id = sid
      · cases hnew.symm.trans (hid ▸ hx)
        exact .inr ⟨rfl, hxs, hmatch⟩
      · exact .inl (.session (hold id x hx hid) hxa hxs hmatch)
    | @task sub hsub =>
      rcases hloops sub hsub with hin | ⟨-, hsess, hscene, hmatch⟩ | ⟨-, hsaid⟩
      · exact .inl (.task hin)
      · exact .inr ⟨by rw [hsess], hscene, hmatch⟩
      · exact .inl hsaid
    | frame hf => exact .inl (.frame (hscenes ▸ hf))
  have hearlier : ∀ d ep, Says cfg g d ep → d.playerId = new.playerId → d.clientEpoch < new.epoch := by
    intro d ep hd heq
    have hle := (h.proper d ep hd).epoch.2
    rw [heq] at hle
    rw [hepoch]
    exact Nat.lt_succ_of_le hle
  -- the player has no other session
  have hothers : ∀ id x, g'.sessions.get id = some x → id ≠ sid → x.authed = true →
      x.playerId ≠ new.playerId := by
    intro id x hx hid hxa heq
    have hself := (hseated sid new hnew (hsane.epoch sid new hnew hauthed).1).1
    have hother := (hseated id x hx (hsane.epoch id x hx hxa).1).1
    rw [heq] at hother
    exact hid (Option.some.inj (hother.symm.trans hself))
  have hplayers : ∀ id x, g'.sessions.get id = some x → x.authed = true → x.playerId < 2 ^ 64 := by
    intro id x hx hxa
    by_cases hid : id = sid
    · cases hnew.symm.trans (hid ▸ hx)
      exact hplayer
    · exact h.players id x (hold id x hx hid) hxa
  have hgrows : ∀ q, g.sessions.lastEpoch q ≤ g'.sessions.lastEpoch q := by
    intro q
    rw [hlast]
    split
    · rename_i hq
      rw [hq]
      exact Nat.le_succ _
    · exact le_rfl
  refine
    { seated := hseated
      capped := fun q => ?_
      players := hplayers
      named := by rw [hscenes, hnames]; exact h.named
      proper := fun d ep hd => ?_
      one := fun d ep d' ep' hd hd' heq hsame => ?_
      fresh := fun id x hx hxa hxnone d ep hd heq => ?_
      gone := fun d hd id x hx hxa heq => ?_
      declared := fun id x hx hxflag => ?_
      flagged := fun f hf hkind x hx hxa heq hsame => ?_ }
  · have hq := h.capped q
    rw [hlast]
    split
    · have hp := h.capped new.playerId
      omega
    · exact hq
  · rcases hcases d ep hd with hin | ⟨rfl, hscene, hmatch⟩
    · exact (h.proper d ep hin).later hids.ge hgrows
    · exact proper_session hsane hnew hauthed hplayer hscene hmatch
  · rcases hcases d ep hd with hin | ⟨rfl, -, hmatch⟩ <;>
      rcases hcases d' ep' hd' with hin' | ⟨rfl, -, hmatch'⟩
    · exact h.one d ep d' ep' hin hin' heq hsame
    · exact absurd hsame (Nat.ne_of_lt (hearlier d ep hin heq))
    · exact absurd hsame.symm (Nat.ne_of_lt (hearlier d' ep' hin' heq.symm))
    · obtain rfl := matches_unique hmatch hmatch'
      exact ⟨rfl, rfl⟩
  · by_cases hid : id = sid
    · cases hnew.symm.trans (hid ▸ hx)
      rcases hcases d ep hd with hin | ⟨-, hscene, -⟩
      · exact hearlier d ep hin heq
      · exact absurd hxnone hscene
    · rcases hcases d ep hd with hin | ⟨rfl, -, -⟩
      · exact h.fresh id x (hold id x hx hid) hxa hxnone d ep hin heq
      · exact absurd heq.symm (hothers id x hx hid hxa)
  · -- what is withdrawn was withdrawn, or is an earlier epoch of the player
    have hgone : Withdrawn cfg g d ∨ d.playerId = new.playerId ∧ d.clientEpoch < new.epoch := by
      cases hd with
      | @task sub hsub hoff =>
        rcases hloops sub hsub with hin | ⟨honline, -⟩ | ⟨hp, hsaid⟩
        · exact .inl (.task hin hoff)
        · cases hoff.symm.trans honline
        · exact .inr ⟨hp, hearlier _ _ hsaid hp⟩
      | frame hf hoff => exact .inl (.frame (hscenes ▸ hf) hoff)
    by_cases hid : id = sid
    · cases hnew.symm.trans (hid ▸ hx)
      rcases hgone with hin | ⟨-, hlt⟩
      · cases hin with
        | task hsub hoff => exact hearlier _ _ (.task hsub) heq.symm
        | frame hf hoff => exact hearlier _ _ (.frame hf) heq.symm
      · exact hlt
    · rcases hgone with hin | ⟨hp, -⟩
      · exact h.gone d hin id x (hold id x hx hid) hxa heq
      · exact absurd (heq.trans hp) (hothers id x hx hid hxa)
  · by_cases hid : id = sid
    · cases hnew.symm.trans (hid ▸ hx)
      cases hflag.symm.trans hxflag
    · unfold Declared
      rw [hscenes]
      exact h.declared id x (hold id x hx hid) hxflag
  · have hf' : f ∈ g.toScenes := hscenes ▸ hf
    by_cases hid : f.client.clientSession = sid
    · cases hnew.symm.trans (hid ▸ hx)
      exact absurd hsame.symm (Nat.ne_of_lt (hearlier _ _ (.frame hf') heq.symm))
    · exact h.flagged f hf' hkind x (hold _ x hx hid) hxa heq hsame

theorem authPlayer_lt {hd : ClientHeader} {body : Bytes} {p : Nat}
    (h : authPlayer cfg hd body = some p) : p < 2 ^ 64 := by
  unfold authPlayer authenticate parseAuthBody at h
  split at h
  · split at h
    · cases h
    · rename_i hparse
      split at hparse
      · cases hparse
        split at h
        · cases h
        · split at h
          · cases h
          · cases h
            exact Nat.lt_of_lt_of_le (Net.getLE_lt _)
              (Nat.pow_le_pow_right (by decide) (List.length_take_le 8 _))
      · cases hparse
  · cases h

theorem Major.dated {l : Step} (hmaj : Major cfg g l g') (hsane : Sane cfg g) (h : Dated cfg g) :
    Dated cfg g' := by
  have hseated := hmaj.seated hsane h.seated
  have hsane' := (hmaj.sane hsane).sessions
  cases hmaj with
  | closed sid hconn =>
    rw [onClientClosed_eq] at hseated ⊢
    have hget : ∀ id s, (g.sessions.erase sid).get id = some s → id ≠ sid ∧
        g.sessions.get id = some s := by
      intro id s hs
      rw [ClientSessionTable.get_erase] at hs
      split at hs
      · cases hs
      · rename_i hid
        exact ⟨hid, hs⟩
    -- the session that goes is the only one of its player
    have htask : ∀ sub ∈ g.loops ++
        ((g.sessions.get sid).bind fun s => bindingTask cfg g s false).toList, sub ∈ g.loops ∨
        Says cfg g (clientData cfg sub.session sub.endpoint) sub.endpoint ∧
          ∀ id s, (g.sessions.erase sid).get id = some s → s.authed = true →
            s.playerId ≠ sub.session.playerId := by
      intro sub hsub
      rcases List.mem_append.mp hsub with hsub | hsub
      · exact .inl hsub
      obtain ⟨s, hs, hsub⟩ := Option.bind_eq_some_iff.mp (Option.mem_toList.mp hsub)
      obtain ⟨hsaid, rfl, -⟩ := says_bindingTask hsane hs hsub
      have hauthed := (hsane.bindingTask hs hsub).1.declarable.1
      refine .inr ⟨hsaid, fun id x hx hxa heq => ?_⟩
      obtain ⟨hid, hx⟩ := hget id x hx
      have hself := (h.seated sid _ hs (hsane.sessions.epoch sid _ hs hauthed).1).1
      have hother := (h.seated id x hx (hsane.sessions.epoch id x hx hxa).1).1
      rw [heq] at hother
      exact hid (Option.some.inj (hother.symm.trans hself))
    have hsaid : ∀ d ep, Says cfg { g with
        loops := g.loops ++ ((g.sessions.get sid).bind fun s => bindingTask cfg g s false).toList
        sessions := g.sessions.erase sid
        routes := g.routes.eraseBySession sid } d ep → Says cfg g d ep := fun d ep hd =>
      hd.mono (fun id s ep hs => .session (hget id s hs).2)
        (fun sub hsub => (htask sub hsub).elim .task fun hnew => hnew.1) fun f hf => .frame (g := g) hf
    exact
      { seated := hseated
        capped := fun p => by rw [ClientSessionTable.lastEpoch_erase]; exact h.capped p
        players := fun id s hs => h.players id s (hget id s hs).2
        named := h.named
        proper := fun d ep hd => (h.proper d ep (hsaid d ep hd)).later
          (ClientSessionTable.nextSessionId_erase g.sessions sid).ge
          fun p => (ClientSessionTable.lastEpoch_erase g.sessions sid p).ge
        one := fun d ep d' ep' hd hd' => h.one d ep d' ep' (hsaid d ep hd) (hsaid d' ep' hd')
        fresh := fun id s hs hauthed hscene d ep hd =>
          h.fresh id s (hget id s hs).2 hauthed hscene d ep (hsaid d ep hd)
        gone := fun d hd id s hs hauthed heq => by
          cases hd with
          | @task sub hsub hoff =>
            rcases htask sub hsub with hin | ⟨-, hothers⟩
            · exact h.gone _ (.task hin hoff) id s (hget id s hs).2 hauthed heq
            · exact absurd heq (hothers id s hs hauthed)
          | frame hf hoff => exact h.gone _ (.frame hf hoff) id s (hget id s hs).2 hauthed heq
        declared := fun id s hs => h.declared id s (hget id s hs).2
        flagged := fun f hf hkind s hs => h.flagged f hf hkind s (hget _ s hs).2 }
  | @login sid hd body nowMs s p dst kicked t hp hdst hbound =>
    obtain ⟨hsessions, -, hservices, -, hnames, -⟩ := relogged_fields cfg g t kicked
      (s.bound p dst (g.sessions.lastEpoch p + 1))
    obtain ⟨-, hscenes, -, hloops⟩ := relogged_logs cfg g t kicked
      (s.bound p dst (g.sessions.lastEpoch p + 1))
    have hget := hbound.get_kicked
    have hnew := hget sid
    rw [if_pos rfl] at hnew
    refine h.renewed hsane' hseated (hsessions ▸ hnew) rfl (authPlayer_lt hp) rfl rfl hbound.fresh
      (fun id x hx hid => ?_) (fun q => ?_) ?_ hscenes hnames fun sub hsub => ?_
    · rw [hsessions, hget, if_neg hid] at hx
      split at hx
      · cases hx
      · exact hx
    · show _ = if q = p then g.sessions.lastEpoch p + 1 else g.sessions.lastEpoch q
      rw [hsessions, ← hbound.lastEpoch]
      split
      · rfl
      · exact ClientSessionTable.lastEpoch_erase _ _ _
    · rw [hsessions]
      split
      · exact hbound.next
      · exact (ClientSessionTable.nextSessionId_erase _ _).trans hbound.next
    · rw [hloops] at hsub
      rcases List.mem_append.mp hsub with hsub | hsub
      · exact .inl hsub
      · have hsub := Option.mem_toList.mp hsub
        unfold bindingTask at hsub
        split at hsub
        · rename_i hdecl
          obtain ⟨ep, hep, rfl⟩ := Option.map_eq_some_iff.mp hsub
          exact .inr (.inl ⟨rfl, rfl, hdecl.2.2.2.1, (boundEndpoint_spec hsane.services hep).1⟩)
        · cases hsub
  | @switched sid hd body nowMs s s' service t hservice hauthed hne hsw =>
    rw [notifySceneBinding_eq] at hseated hsane' ⊢
    have hs' := hsw.changed hne
    have hplayer : s'.playerId = s.playerId := by simp [hs']
    have hepoch : s'.epoch = g.sessions.lastEpoch s.playerId + 1 := by simp [hs', hauthed]
    have hnew := hsw.get sid
    rw [if_pos rfl] at hnew
    have hfound := h.players sid s hsw.found hauthed
    refine h.renewed hsane' hseated hnew (by simp [hs', hauthed]) (hplayer ▸ hfound)
      (hplayer ▸ hepoch) (by simp [hs']) (hplayer ▸ hsw.fresh hne hauthed) (fun id x hx hid => ?_)
      (fun q => ?_) hsw.next rfl rfl fun sub hsub => ?_
    · change t.get id = some x at hx
      rw [hsw.get, if_neg hid] at hx
      exact hx
    · show t.lastEpoch q = _
      rw [hsw.lastEpoch, hplayer]
      by_cases hq : q = s.playerId
      · rw [if_pos ⟨hq, hauthed, hne⟩, if_pos hq, hq]
      · rw [if_neg fun hall => hq hall.1, if_neg hq]
    · rcases List.mem_append.mp hsub with hsub | hsub
      · exact .inl hsub
      · obtain ⟨hsaid, rfl, -⟩ := says_bindingTask (g := g) hsane hsw.found (Option.mem_toList.mp hsub)
        exact .inr (.inr ⟨hplayer.symm, hsaid⟩)

theorem dated_step {l : Step} (hsane : Sane cfg g) (hstep : step cfg g l = some g')
    (h : Dated cfg g) : Dated cfg g' := by
  refine step_induction hsane hstep (fun g₁ hmaj hp => hmaj.dated hsane hp) ?_ h
  intro x y hx heff hp
  exact heff.dated hx hp

end Effects

end GatewayDispatcher

end Gateway
