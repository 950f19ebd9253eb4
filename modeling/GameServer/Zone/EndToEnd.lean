import GameServer.Zone.ZoneServers

/-!
# From the gateway to the worker

What holds of a gateway and a scene together, however their steps and the arrival of frames
interleave. A binding that the gateway has declared is the one that the scene has, once its frames
have arrived. At rest the workers have the players whose sessions the gateway has, and no others.
A message that a worker gets is a request that a client sent on the session of the binding.
-/

namespace Zone

open Gateway (ClientData ConnName DispatcherConfig GatewayDispatcher SceneFrame)
open Gateway.GatewayDispatcher (Answers Bracketing Brackets Declared Held Matches Quiet Sane Withdrawn
  clientData unanswered)
open Gateway.GatewayPlayer (unpack)
open Net (NetConfig NetServer PlayerMsg)

namespace ZoneServers

variable {cfg : DispatcherConfig} {c : NetConfig} {enabled : Bool} {z t : ZoneServers}
  {ls : List ZoneLabel}

/-- A step of the two is a step of the gateway, or the gateway stays as it is. -/
theorem gate_step {l : ZoneLabel} (hstep : z.step cfg c l = some t) :
    t.gate = z.gate ∨ ∃ l', z.gate.step cfg l' = some t.gate ∧
      (l = .gate l' ∨ l = .dial ∧ l' = .backendConnected) := by
  cases l with
  | gate l =>
    obtain ⟨g, hg, rfl⟩ := Option.map_eq_some_iff.mp hstep
    exact .inr ⟨l, hg, .inl rfl⟩
  | dial =>
    simp only [step] at hstep
    obtain ⟨scene, -, rfl⟩ := Option.map_eq_some_iff.mp hstep
    exact .inr ⟨.backendConnected, rfl, .inr ⟨rfl, rfl⟩⟩
  | deliver conn now send =>
    obtain ⟨session, -, hstep⟩ := Option.bind_eq_some_iff.mp hstep
    obtain ⟨f, -, hstep⟩ := Option.bind_eq_some_iff.mp hstep
    obtain ⟨scene, -, rfl⟩ := Option.map_eq_some_iff.mp hstep
    exact .inl rfl
  | scene l =>
    obtain ⟨-, hstep⟩ := Option.ite_none_right_eq_some.mp hstep
    obtain ⟨scene, -, rfl⟩ := Option.map_eq_some_iff.mp hstep
    exact .inl rfl

theorem joined_exec (hrun : Run.exec (step cfg c) (init cfg enabled) ls = some z)
    (hsound : Sound cfg z.gate) : Joined cfg c enabled ls z := by
  suffices hall : Sane cfg z.gate ∧ (Sound cfg z.gate → Joined cfg c enabled ls z) from hall.2 hsound
  clear hsound
  induction ls using List.reverseRecOn generalizing z with
  | nil =>
    cases hrun
    exact ⟨Gateway.GatewayDispatcher.sane_init, fun _ => joined_init⟩
  | append_singleton ls l ih =>
    rw [Run.exec_append] at hrun
    obtain ⟨y, hy, hl⟩ := Option.bind_eq_some_iff.mp hrun
    obtain ⟨t, hstep, ht⟩ := Run.exec_cons_some hl
    cases ht
    obtain ⟨hsane, hjoined⟩ := ih hy
    rcases gate_step hstep with hsame | ⟨l', hl', -⟩
    · rw [hsame]
      exact ⟨hsane, fun hsound => joined_step (hjoined hsound) hsound hstep⟩
    · refine ⟨Gateway.GatewayDispatcher.sane_step hsane hl', fun hsound => ?_⟩
      have hbefore : Sound cfg y.gate := ⟨hsound.service, hsound.gateway,
        Nat.le_trans (Gateway.GatewayDispatcher.grows_step hsane hl').sessions hsound.sessions⟩
      exact joined_step (hjoined hbefore) hbefore hstep

/-- What has arrived on a channel with nothing under way is all that was written. -/
theorem Drained.arrived {conn : ConnName} (h : z.Drained conn) : z.arrived conn = z.channel conn := by
  unfold ZoneServers.arrived
  rw [show z.delivered conn = (z.channel conn).length from h, List.take_length]

/-- Player 7 logs in and asks its scene; the declaration and the request arrive, and the worker has
taken both. -/
def comesToScene : List ZoneLabel :=
  let worker := NetServer.workerOf NetServer.twoWorkers 7
  [.dial, .gate (Gateway.GatewayDispatcher.sceneAnnounced 1 1 9), .gate .clientConnected,
    .gate (Gateway.GatewayDispatcher.authFrame 1 7),
    .gate (Gateway.GatewayDispatcher.requestFrame 1 1), .gate (.runLoop 1 true),
    .deliver 1 10 fun _ => .kAccepted, .deliver 1 11 fun _ => .kAccepted,
    .scene (.take worker Scene.LogicThread.willing), .scene (.take worker Scene.LogicThread.willing)]

section Declared

/-- A session whose binding was declared is the one that the scene has, unless the player is another
gateway's there. -/
theorem Joined.declared (h : Joined cfg c enabled ls z) {sid n : Nat} {s : Gateway.ClientSession}
    (hs : z.gate.sessions.get sid = some s) (hauthed : s.authed = true)
    (hflag : s.sceneOnlineSubmitted = true) (hscene : s.sceneId = c.sceneId)
    (hn : z.sessionOf.lookup s.sceneConnName = some n) (hopen : z.scene.net.conns.lookup n ≠ none)
    (hdrained : z.Drained s.sceneConnName) :
    z.scene.net.clients.Matches n
        ⟨s.playerId, s.sessionId, s.epoch, cfg.gatewayId, c.sceneId⟩ ∨
      ∃ e, z.scene.net.clients.latest.lookup s.playerId = some e ∧ e.gatewayId ≠ cfg.gatewayId := by
  obtain ⟨f, hf, hkind, hclient, hmatch⟩ := h.dated.declared sid s hs hflag
  obtain ⟨-, -, hsceneId, -, -, hconn⟩ := hmatch
  have hdata : f.client = ⟨s.playerId, s.sessionId, s.epoch, cfg.gatewayId, c.sceneId⟩ := by
    rw [hclient, clientData, hsceneId, hscene]
  have hsame : f.client.sceneId = c.sceneId := by rw [hdata]
  have hplayer : f.client.playerId = s.playerId := by rw [hdata]
  have hepoch : f.client.clientEpoch = s.epoch := by rw [hdata]
  have harrived : f ∈ z.arrived s.sceneConnName := by
    rw [hdrained.arrived]
    exact mem_channel.mpr ⟨hf, hconn⟩
  obtain ⟨e, he, hle⟩ := h.index.latest _ n f hn harrived hkind hsame
  rw [hplayer] at he
  by_cases hgateway : e.gatewayId = cfg.gatewayId
  swap
  · exact .inr ⟨e, he, hgateway⟩
  left
  -- the scene has no other binding of the player, since the gateway has declared no later one
  have hown := (h.scene.net.index.own _ e he).1
  have hlatest : e = f.client := by
    obtain ⟨conn', n', x, -, hx, -, rfl⟩ := h.index.known _ e he hgateway
    have hsaid := (mem_arrived hx).1
    have hbound := (h.dated.proper _ _ (.frame hsaid)).epoch.2
    have hseat := (h.dated.seated sid s hs (h.sane.sessions.epoch sid s hs hauthed).1).2
    rw [hown, ← hseat] at hbound
    have hge := hle.resolve_left fun hno => hno hgateway
    rw [hepoch] at hge
    exact (h.dated.one _ _ _ _ (.frame hsaid) (.frame hf) (hown.trans hplayer.symm) (by omega)).1
  rw [hlatest] at he
  have hroute := h.index.route _ n f hn harrived hkind (hplayer ▸ he) (fun x hx hoff heq => ?_) hopen
  · rw [← hdata, Net.GatewayClientIndex.matches_iff h.scene.net.index]
    exact ⟨hroute, hplayer ▸ he⟩
  · -- a withdrawal would be of an earlier epoch
    have hgone := h.dated.gone x.client (.frame (mem_arrived hx).1 hoff) sid s hs hauthed
      (by rw [heq, hplayer])
    rw [heq, hepoch] at hgone
    exact Nat.lt_irrefl _ hgone

/-- Once the frames of a channel have arrived, the sessions that the gateway has declared on it are
bound at the scene, whatever else has happened, and the worker of such a player holds it unless
its actor logged out, was refused or found no room. -/
theorem declared_bound (hrun : Run.exec (step cfg c) (init cfg enabled) ls = some z)
    (hsound : Sound cfg z.gate) {sid n : Nat} {s : Gateway.ClientSession}
    (hs : z.gate.sessions.get sid = some s) (hauthed : s.authed = true)
    (hflag : s.sceneOnlineSubmitted = true) (hscene : s.sceneId = c.sceneId)
    (hn : z.sessionOf.lookup s.sceneConnName = some n) (hopen : z.scene.net.conns.lookup n ≠ none)
    (hdrained : z.Drained s.sceneConnName)
    (hours : ∀ e, z.scene.net.clients.latest.lookup s.playerId = some e →
      e.gatewayId = cfg.gatewayId) :
    let d : ClientData := ⟨s.playerId, s.sessionId, s.epoch, cfg.gatewayId, c.sceneId⟩
    let worker := z.scene.workers (NetServer.workerOf c s.playerId)
    z.scene.net.clients.Matches n d ∧
      (z.scene.Settled c s.playerId → (worker.standing s.playerId).refused = false →
        (worker.standing s.playerId).full = false →
        (worker.standing s.playerId).loggedOut = false → (worker.thread.life s.playerId).Holds n d) := by
  have h := joined_exec hrun hsound
  have hmatch := (h.declared hs hauthed hflag hscene hn hopen hdrained).resolve_right
    fun ⟨e, he, hother⟩ => hother (hours e he)
  refine ⟨hmatch, fun hsettled hrefused hfull hin => ?_⟩
  exact ((h.scene.agree hsettled).bound n _ hrefused hfull).mp ⟨hmatch, rfl, hin⟩

theorem declared_bound_online : ∃ z s,
    Run.exec (step Gateway.GatewayDispatcher.smallZone NetServer.twoWorkers)
      (init Gateway.GatewayDispatcher.smallZone true) comesToScene = some z ∧
    z.gate.sessions.get 1 = some s ∧ s.playerId = 7 ∧
    z.scene.net.clients.Matches 1 ⟨s.playerId, s.sessionId, s.epoch, 1, 1⟩ ∧
    ((z.scene.workers (NetServer.workerOf NetServer.twoWorkers s.playerId)).thread.life
      s.playerId).Holds 1 ⟨s.playerId, s.sessionId, s.epoch, 1, 1⟩ := by
  have hrun : (Run.exec (step Gateway.GatewayDispatcher.smallZone NetServer.twoWorkers)
      (init Gateway.GatewayDispatcher.smallZone true) comesToScene).any (fun z =>
      z.gate.sessions.nextSessionId ≤ 2 ^ 64 ∧
      (z.gate.sessions.get 1).any (fun s => s.playerId = 7 ∧ s.authed = true ∧
        s.sceneOnlineSubmitted = true ∧ s.sceneId = 1 ∧
        z.sessionOf.lookup s.sceneConnName = some 1 ∧ z.scene.net.conns.lookup 1 ≠ none ∧
        z.Drained s.sceneConnName ∧
        (z.scene.net.clients.latest.lookup s.playerId).all (·.gatewayId = 1) ∧
        z.scene.Settled NetServer.twoWorkers s.playerId ∧
        let st := (z.scene.workers (NetServer.workerOf NetServer.twoWorkers s.playerId)).standing
          s.playerId
        st.refused = false ∧ st.full = false ∧ st.loggedOut = false)) = true := by
    decide +kernel
  obtain ⟨z, hz, hall⟩ := (Option.any_eq_true ..).mp hrun
  obtain ⟨hids, hall⟩ := of_decide_eq_true hall
  obtain ⟨s, hs, hall⟩ := (Option.any_eq_true ..).mp hall
  obtain ⟨hplayer, hauthed, hflag, hscene, hn, hopen, hdrained, hours, hsettled, hrefused, hfull,
    hin⟩ := of_decide_eq_true hall
  have hsound : Sound Gateway.GatewayDispatcher.smallZone z.gate :=
    ⟨rfl, ⟨by decide, by decide⟩, hids⟩
  obtain ⟨hmatch, hholds⟩ := declared_bound hz hsound hs hauthed hflag hscene hn hopen hdrained
    fun e he => by
      rw [he] at hours
      exact of_decide_eq_true hours
  exact ⟨z, s, hz, hs, hplayer, hmatch, hholds hsettled hrefused hfull hin⟩

end Declared

section Rest

/-- All that was written for the scene has arrived there, and where the scene still has the
connection, the gateway has it too and nothing waits for it. -/
def AtRest (c : NetConfig) (z : ZoneServers) : Prop :=
  ∀ f ∈ z.gate.toScenes, f.endpoint.sceneId = c.sceneId → z.Drained f.endpoint.connName ∧
    ∃ n ∈ z.sessionOf.lookup f.endpoint.connName, z.scene.net.conns.lookup n ≠ none →
      z.gate.ready f.endpoint = true ∧ Quiet z.gate f.endpoint.connName

instance : Decidable (AtRest c z) :=
  inferInstanceAs (Decidable (∀ f ∈ z.gate.toScenes, f.endpoint.sceneId = c.sceneId →
    z.Drained f.endpoint.connName ∧ ∃ n ∈ z.sessionOf.lookup f.endpoint.connName,
      z.scene.net.conns.lookup n ≠ none → z.gate.ready f.endpoint = true ∧
        ∀ sub ∈ z.gate.loops, sub.endpoint.connName ≠ f.endpoint.connName))

/-- The session of the binding is connected, and its binding was declared on the channel. -/
def Present (cfg : DispatcherConfig) (c : NetConfig) (z : ZoneServers) (n : Nat) (d : ClientData) :
    Prop :=
  ∃ s, z.gate.sessions.get d.clientSession = some s ∧ s.authed = true ∧
    s.sceneOnlineSubmitted = true ∧ s.sceneId = c.sceneId ∧
    d = ⟨s.playerId, s.sessionId, s.epoch, cfg.gatewayId, c.sceneId⟩ ∧
    z.sessionOf.lookup s.sceneConnName = some n ∧ z.scene.net.conns.lookup n ≠ none

/-- The steps of the gateway are without the exceptions under which a binding stays declared. -/
def Orderly (cfg : DispatcherConfig) (z : ZoneServers) : ZoneLabel → Prop
  | .gate l => Brackets cfg z.gate l
  | _ => True

instance (l : ZoneLabel) : Decidable (Orderly cfg z l) :=
  match l with
  | .gate l => inferInstanceAs (Decidable (Brackets cfg z.gate l))
  | .dial => .isTrue trivial
  | .deliver .. => .isTrue trivial
  | .scene _ => .isTrue trivial

/-- An ONLINE that no later frame answers. -/
theorem mem_unanswered {pre post : List SceneFrame} {f : SceneFrame} (hkind : f.kind = .online)
    (h : ∀ x ∈ post, ¬ Answers x f) : f ∈ unanswered (pre ++ f :: post) := by
  induction pre with
  | nil =>
    rw [List.nil_append, Gateway.GatewayDispatcher.unanswered_cons, if_pos ⟨hkind, h⟩]
    exact List.mem_cons_self
  | cons x pre ih =>
    rw [List.cons_append, Gateway.GatewayDispatcher.unanswered_cons]
    split
    · exact List.mem_cons_of_mem _ ih
    · exact ih

/-- A binding that the scene has is the one of a session of the gateway. -/
theorem Joined.present (h : Joined cfg c enabled ls z) (hopen : Bracketing cfg z.gate)
    (hrest : AtRest c z) {n : Nat} {d : ClientData} (hmatch : z.scene.net.clients.Matches n d)
    (hgateway : d.gatewayId = cfg.gatewayId) : Present cfg c z n d := by
  obtain ⟨hroute, hlatest⟩ := (Net.GatewayClientIndex.matches_iff h.scene.net.index).mp hmatch
  have hlive := h.opened _ _ hroute
  obtain ⟨conn, pre, f, post, hn, hsplit, hkind, rfl, hpost⟩ := h.index.bound n d hmatch hgateway
  have hsceneId := h.index.scenes _ _ hlatest
  obtain ⟨hf, hconn⟩ := mem_arrived (show f ∈ z.arrived conn by rw [hsplit]; simp)
  have hproper := h.dated.proper _ _ (.frame hf)
  have hend : f.endpoint.sceneId = c.sceneId := hproper.scene.1.symm.trans hsceneId
  obtain ⟨hdrained, n', hn', hquiet⟩ := hrest f hf hend
  rw [hconn] at hdrained hn' hquiet
  cases hn.symm.trans hn'
  obtain ⟨hready, hquiet⟩ := hquiet hlive
  -- nothing after the frame answers it: what was written has arrived
  rw [hdrained.arrived] at hsplit
  obtain ⟨before, rest, hlog, -, hrest'⟩ := List.filter_eq_append_iff.mp hsplit
  obtain ⟨skipped, after, hrest'', -, -, hafter⟩ := List.filter_eq_cons_iff.mp hrest'
  have hwritten : z.gate.toScenes = (before ++ skipped) ++ f :: after := by
    rw [hlog, hrest'', List.append_assoc]
  have hunanswered : f ∈ unanswered z.gate.toScenes := by
    rw [hwritten]
    refine mem_unanswered hkind fun x hx hanswers => ?_
    have hxin : x ∈ z.gate.toScenes := by rw [hwritten]; simp [hx]
    obtain ⟨hkey, -, ⟨hoff, hclient⟩ | ⟨hon, hplayer, hepoch⟩⟩ := hanswers
    · have hxconn := h.one hf hxin hclient
      refine hpost x ?_ hoff hclient
      rw [← hafter, List.mem_filter]
      exact ⟨hx, decide_eq_true (hxconn.trans hconn)⟩
    · have hxend : x.endpoint.sceneId = c.sceneId :=
        (congrArg Gateway.BackendKey.sceneId hkey).trans hend
      obtain ⟨hxdrained, m, hm, -⟩ := hrest x hxin hxend
      have hxarrived : x ∈ z.arrived x.endpoint.connName := by
        rw [hxdrained.arrived]
        exact mem_channel.mpr ⟨hxin, rfl⟩
      have hxscene : x.client.sceneId = c.sceneId :=
        (h.dated.proper _ _ (.frame hxin)).scene.1.trans hxend
      obtain ⟨e, he, hle⟩ := h.index.latest _ m x hm hxarrived hon hxscene
      rw [hplayer, hlatest] at he
      cases he
      rcases hle with hother | hle
      · exact hother hgateway
      · omega
  obtain ⟨s, hs, hauthed, hplayer, hepoch, hmatches⟩ :=
    (hopen.bracketed h.sane).held f hunanswered hready (hconn ▸ hquiet)
  have hflag := h.dated.flagged f hf (by rw [hkind]; simp) s hs hauthed hplayer hepoch
  have hkey := (h.sane.sessions.key _ s hs).1
  refine ⟨s, hs, hauthed, hflag, hmatches.2.2.1.symm.trans hend, ?_, ?_, hlive⟩
  · rw [hplayer, hepoch, hkey, ← hgateway, ← hsceneId]
  · rw [← hmatches.2.2.2.2.2, hconn]
    exact hn

theorem bracketing_exec (hok : Run.Along (step cfg c) (Orderly cfg) (init cfg enabled) ls)
    (hrun : Run.exec (step cfg c) (init cfg enabled) ls = some z) : Bracketing cfg z.gate := by
  have h := Run.along_invariant (fun z : ZoneServers => Sane cfg z.gate ∧ Bracketing cfg z.gate)
    (fun z l t hz hl hstep => ?_)
    ⟨Gateway.GatewayDispatcher.sane_init, Gateway.GatewayDispatcher.bracketing_init⟩ hok hrun
  · exact h.2
  · obtain ⟨hsane, hbracketing⟩ := hz
    rcases gate_step hstep with hsame | ⟨l', hl', rfl | ⟨rfl, rfl⟩⟩
    · exact hsame ▸ ⟨hsane, hbracketing⟩
    · exact ⟨Gateway.GatewayDispatcher.sane_step hsane hl',
        Gateway.GatewayDispatcher.bracketing_step hsane hbracketing hl hl'⟩
    · exact ⟨Gateway.GatewayDispatcher.sane_step hsane hl',
        Gateway.GatewayDispatcher.bracketing_step hsane hbracketing
          (show Brackets cfg z.gate .backendConnected from trivial) hl'⟩

/-- At rest the scene has the players whose sessions the gateway has declared to it, under the
bindings of these sessions, and no others of this gateway; and so have the workers when they have
taken all that there was for them, but for players that logged out. -/
theorem players_agree (hok : Run.Along (step cfg c) (Orderly cfg) (init cfg enabled) ls)
    (hrun : Run.exec (step cfg c) (init cfg enabled) ls = some z) (hsound : Sound cfg z.gate)
    (hrest : AtRest c z) {n : Nat} {d : ClientData} (hgateway : d.gatewayId = cfg.gatewayId)
    (hours : ∀ e, z.scene.net.clients.latest.lookup d.playerId = some e →
      e.gatewayId = cfg.gatewayId) :
    let worker := z.scene.workers (NetServer.workerOf c d.playerId)
    (z.scene.net.clients.Matches n d ↔ Present cfg c z n d) ∧
      (z.scene.Settled c d.playerId → (worker.standing d.playerId).refused = false →
        (worker.standing d.playerId).full = false →
        ((worker.thread.life d.playerId).Holds n d ↔
          Present cfg c z n d ∧ (worker.standing d.playerId).loggedOut = false)) := by
  have h := joined_exec hrun hsound
  have hindex : z.scene.net.clients.Matches n d ↔ Present cfg c z n d := by
    constructor
    · exact fun hmatch => h.present (bracketing_exec hok hrun) hrest hmatch hgateway
    · rintro ⟨s, hs, hauthed, hflag, hscene, hd, hn, hopen⟩
      have hdeclared := h.dated.declared _ s hs hflag
      obtain ⟨f, hf, -, -, hmatches⟩ := hdeclared
      have hdrained := (hrest f hf (hmatches.2.2.1.trans hscene)).1
      rw [hmatches.2.2.2.2.2] at hdrained
      have hplayer : d.playerId = s.playerId := by rw [hd]
      rw [hd]
      refine (h.declared hs hauthed hflag hscene hn hopen hdrained).resolve_right ?_
      rintro ⟨e, he, hother⟩
      exact hother (hours e (hplayer ▸ he))
  refine ⟨hindex, fun hsettled hrefused hfull => ?_⟩
  rw [← (h.scene.agree hsettled).bound n d hrefused hfull, hindex]
  exact ⟨fun hall => ⟨hall.1, hall.2.2⟩, fun hall => ⟨hall.1, rfl, hall.2⟩⟩

theorem players_agree_online : ∃ z,
    Run.exec (step Gateway.GatewayDispatcher.smallZone NetServer.twoWorkers)
      (init Gateway.GatewayDispatcher.smallZone true) comesToScene = some z ∧
    (z.scene.net.clients.Matches 1 ⟨7, 1, 1, 1, 1⟩ ↔
      Present Gateway.GatewayDispatcher.smallZone NetServer.twoWorkers z 1 ⟨7, 1, 1, 1, 1⟩) ∧
    (((z.scene.workers (NetServer.workerOf NetServer.twoWorkers 7)).thread.life 7).Holds 1
        ⟨7, 1, 1, 1, 1⟩ ↔
      Present Gateway.GatewayDispatcher.smallZone NetServer.twoWorkers z 1 ⟨7, 1, 1, 1, 1⟩ ∧
        ((z.scene.workers (NetServer.workerOf NetServer.twoWorkers 7)).standing 7).loggedOut =
          false) := by
  have hrun : (Run.exec (step Gateway.GatewayDispatcher.smallZone NetServer.twoWorkers)
      (init Gateway.GatewayDispatcher.smallZone true) comesToScene).any (fun z =>
      z.gate.sessions.nextSessionId ≤ 2 ^ 64 ∧ AtRest NetServer.twoWorkers z ∧
      (z.scene.net.clients.latest.lookup 7).all (·.gatewayId = 1) ∧
      z.scene.Settled NetServer.twoWorkers 7 ∧
      let st := (z.scene.workers (NetServer.workerOf NetServer.twoWorkers 7)).standing 7
      st.refused = false ∧ st.full = false) = true := by
    decide +kernel
  obtain ⟨z, hz, hall⟩ := (Option.any_eq_true ..).mp hrun
  obtain ⟨hids, hrest, hours, hsettled, hrefused, hfull⟩ := of_decide_eq_true hall
  have hok : Run.Along (step Gateway.GatewayDispatcher.smallZone NetServer.twoWorkers)
      (Orderly Gateway.GatewayDispatcher.smallZone) (init Gateway.GatewayDispatcher.smallZone true)
      comesToScene := by
    decide +kernel
  obtain ⟨hindex, hworker⟩ := players_agree (n := 1) (d := ⟨7, 1, 1, 1, 1⟩) hok hz
    ⟨rfl, ⟨by decide, by decide⟩, hids⟩ hrest rfl fun e he => by
      rw [he] at hours
      exact of_decide_eq_true hours
  exact ⟨z, hz, hindex, hworker hsettled hrefused hfull⟩

end Rest

section Requests

theorem frameMsg_lifecycle {f : SceneFrame} {payload : Gateway.Bytes} {session : Nat}
    (hcarries : Carries cfg f payload) :
    (message session f).lifecycle = false ↔ f.kind = .business := by
  constructor
  · intro hlife
    by_contra hkind
    have hmodule := (hcarries.plain hkind).2
    have hmethod : f.frame.head.method = Gateway.GatewayPlayer.kOnline ∨
        f.frame.head.method = Gateway.GatewayPlayer.kOffline := by
      cases hk : f.kind with
      | online => exact .inl (hcarries.online hk)
      | offline => exact .inr (hcarries.offline hk)
      | business => exact absurd hk hkind
    exact of_decide_eq_false hlife ⟨hmodule, hmethod⟩
  · intro hkind
    exact decide_eq_false fun hboth => (hcarries.business hkind).1 hboth.1

/-- The requests of a channel, in the order in which they were written. -/
def written (z : ZoneServers) (conn : ConnName) : List SceneFrame :=
  (z.channel conn).filter (·.kind = .business)

/-- The requests that a worker gets over a channel of the gateway are among those that were written
to the channel, in their order and none twice, and each is one that a client has sent on the session
of its binding, when the session was the player's. -/
theorem requests_arrive_in_order (hrun : Run.exec (step cfg c) (init cfg enabled) ls = some z)
    (hsound : Sound cfg z.gate) {worker n : Nat} {conn : ConnName}
    (hworker : worker < c.pending.workers) (hn : z.sessionOf.lookup conn = some n) :
    (requests n (z.scene.net.handed worker)).Sublist ((written z conn).map (message n)) ∧
      ((requests n (z.scene.net.handed worker)).map (·.seq)).Nodup ∧
      ∀ m ∈ requests n (z.scene.net.handed worker), ∃ s hd nowMs r,
        GatewayDispatcher.Step.clientFrame s.sessionId hd m.body nowMs ∈ gateSteps ls ∧
        (r, some s) ∈ z.gate.asked ∧ s.authed = true ∧ hd.kind = .request ∧
        m.Module = hd.module ∧ m.Method = hd.method ∧ m.seq = r.internalSeq ∧
        m.playerId = s.playerId ∧ m.clientBinding.playerId = s.playerId ∧
        m.clientBinding.clientSession = s.sessionId ∧ m.clientBinding.clientEpoch = s.epoch ∧
        m.clientBinding.gatewayId = cfg.gatewayId := by
  have h := joined_exec hrun hsound
  have hcarries : ∀ f ∈ z.channel conn, ∃ payload, Carries cfg f payload := by
    intro f hf
    have hin := (mem_channel.mp hf).1
    exact carries hsound h.dated hin (h.traffic.frames f hin)
  -- a worker gets some of what was passed on, and that is some of what has arrived
  have hsub : (requests n (z.scene.net.handed worker)).Sublist ((written z conn).map (message n)) := by
    have hhanded : (z.scene.net.handed worker).Sublist z.scene.net.submitted :=
      ((List.sublist_append_left _ _).trans (h.scene.net.told.streams hworker).1).trans
        List.filter_sublist
    have hall : (requests n (z.scene.net.handed worker)).Sublist ((z.channel conn).map (message n)) :=
      ((hhanded.filter _).filter _).trans ((h.linked.requests conn n hn).trans
        ((List.take_sublist _ _).map _))
    have hlife := hall.filter (!·.lifecycle)
    have hself : (requests n (z.scene.net.handed worker)).filter (!·.lifecycle) =
        requests n (z.scene.net.handed worker) := by
      rw [List.filter_eq_self]
      exact fun m hm => (List.mem_filter.mp (List.mem_of_mem_filter hm)).2
    rw [hself, List.filter_map] at hlife
    have hsame : (z.channel conn).filter ((!·.lifecycle) ∘ message n) = written z conn := by
      refine List.filter_congr fun f hf => ?_
      obtain ⟨payload, hf⟩ := hcarries f hf
      have hiff := @frameMsg_lifecycle cfg f payload n hf
      rw [Function.comp_apply, Bool.eq_iff_iff]
      simpa using hiff
    rw [hsame] at hlife
    exact hlife
  refine ⟨hsub, ?_, fun m hm => ?_⟩
  · refine List.Nodup.sublist (hsub.map (·.seq)) ?_
    have hnumbers : ((written z conn).map (message n)).map (·.seq) =
        (written z conn).filterMap Gateway.GatewayDispatcher.frameNumber := by
      rw [List.map_map, ← List.filterMap_eq_map]
      refine List.filterMap_congr fun f hf => ?_
      have hkind := of_decide_eq_true (List.mem_filter.mp hf).2
      unfold Gateway.GatewayDispatcher.frameNumber
      rw [if_pos hkind]
      rfl
    rw [hnumbers]
    have hwritten : (written z conn).Sublist z.gate.toScenes :=
      List.filter_sublist.trans List.filter_sublist
    exact (List.nodup_append.mp h.once.nodup).2.1.sublist (hwritten.filterMap _)
  · obtain ⟨f, hf, rfl⟩ := List.mem_map.mp (hsub.subset hm)
    obtain ⟨hf, hkind⟩ := List.mem_filter.mp hf
    obtain ⟨hin, -⟩ := mem_channel.mp hf
    obtain ⟨s, hclient, hd, body, nowMs, r, hstep, hr, hauthed, hrequest, -, -, hframe⟩ :=
      (h.traffic.frames f hin).business (of_decide_eq_true hkind)
    obtain ⟨payload, hf⟩ := hcarries f hf
    have hbody : (message n f).body = body := by
      have hpacked := (Net.unpack_eq_some_iff.mp hf.unpacked).2.2
      rw [hframe, hclient] at hpacked
      show (unpack f.frame.body).elim [] (·.2) = body
      rw [hf.unpacked]
      exact (List.append_cancel_left hpacked).symm
    have hhead := congrArg Gateway.GateFrame.head hframe
    have hdata : (message n f).clientBinding = clientData cfg s f.endpoint := hclient
    refine ⟨s, hd, nowMs, r, hbody.symm ▸ hstep, hr, hauthed, hrequest,
      congrArg Gateway.Header.module hhead, congrArg Gateway.Header.method hhead,
      congrArg Gateway.Header.seq hhead, congrArg Gateway.Header.playerId hhead, ?_⟩
    rw [hdata]
    exact ⟨rfl, rfl, rfl, rfl⟩

/-- The player asks once more. -/
def asksTwice : List ZoneLabel :=
  comesToScene ++ [.gate (Gateway.GatewayDispatcher.requestFrame 1 2), .gate (.runLoop 1 true),
    .deliver 1 12 fun _ => .kAccepted]

theorem requests_arrive_in_order_two : ∃ z first second,
    Run.exec (step Gateway.GatewayDispatcher.smallZone NetServer.twoWorkers)
      (init Gateway.GatewayDispatcher.smallZone true) asksTwice = some z ∧
    requests 1 (z.scene.net.handed (NetServer.workerOf NetServer.twoWorkers 7)) = [first, second] ∧
    first.seq = 1 ∧ second.seq = 2 ∧
    [first, second].Sublist ((written z 1).map (message 1)) ∧
    ∀ m ∈ [first, second], ∃ s : Gateway.ClientSession, s.authed = true ∧ m.playerId = s.playerId := by
  have hrun : (Run.exec (step Gateway.GatewayDispatcher.smallZone NetServer.twoWorkers)
      (init Gateway.GatewayDispatcher.smallZone true) asksTwice).any (fun z =>
      z.gate.sessions.nextSessionId ≤ 2 ^ 64 ∧ z.sessionOf.lookup 1 = some 1 ∧
      (requests 1 (z.scene.net.handed (NetServer.workerOf NetServer.twoWorkers 7))).map (·.seq) =
        [1, 2]) = true := by
    decide +kernel
  obtain ⟨z, hz, hall⟩ := (Option.any_eq_true ..).mp hrun
  obtain ⟨hids, hn, htwo⟩ := of_decide_eq_true hall
  obtain ⟨first, rest, hrest, hfirst, htwo⟩ := List.map_eq_cons_iff.mp htwo
  obtain ⟨second, rfl, hsecond⟩ := List.map_eq_singleton_iff.mp htwo
  obtain ⟨hsub, -, hall⟩ := requests_arrive_in_order hz ⟨rfl, ⟨by decide, by decide⟩, hids⟩
    (NetServer.workerOf_lt NetServer.twoWorkers 7) hn
  rw [hrest] at hsub hall
  refine ⟨z, first, second, hz, hrest, hfirst, hsecond, hsub, fun m hm => ?_⟩
  obtain ⟨s, -, -, -, -, -, hauthed, -, -, -, -, hplayer, -⟩ := hall m hm
  exact ⟨s, hauthed, hplayer⟩

end Requests

end ZoneServers

end Zone
