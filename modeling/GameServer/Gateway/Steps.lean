import GameServer.Lib.Run
import GameServer.Gateway.Effects

/-!
# Steps are chains of effects

Handler by handler: which effects a handler has, and in which order.
-/

namespace Gateway

namespace GatewayDispatcher

open Relation

variable {cfg : DispatcherConfig} {g g' : GatewayDispatcher} {s : ClientSession}

section Major

variable (g)

variable (cfg) in
theorem relogged_fields (t : ClientSessionTable) (kicked : Nat) (cur : ClientSession) :
    (relogged cfg g t kicked cur).sessions = (if kicked = 0 then t else t.erase kicked) ∧
      (relogged cfg g t kicked cur).routes =
        (if kicked = 0 then g.routes else g.routes.eraseBySession kicked) ∧
      (relogged cfg g t kicked cur).services = g.services ∧
      (relogged cfg g t kicked cur).nextSeq = g.nextSeq ∧
      (relogged cfg g t kicked cur).nextConnId = g.nextConnId ∧
      (relogged cfg g t kicked cur).connected ⊆ g.connected := by
  unfold relogged kick forceClose
  rw [notifySceneBinding_eq]
  by_cases hk : kicked = 0
  · simp [hk]
  · cases ht : t.get kicked <;> simp [hk, ht, Finset.erase_subset]

variable (cfg) in
theorem relogged_logs (t : ClientSessionTable) (kicked : Nat) (cur : ClientSession) :
    (relogged cfg g t kicked cur).toClients = g.toClients ∧
      (relogged cfg g t kicked cur).toScenes = g.toScenes ∧
      (relogged cfg g t kicked cur).asked = g.asked ∧
      (relogged cfg g t kicked cur).loops = g.loops ++ (bindingTask cfg g cur true).toList := by
  unfold relogged kick forceClose
  rw [notifySceneBinding_eq]
  have htask : ∀ x : GatewayDispatcher, x.services = g.services →
      bindingTask cfg x cur true = bindingTask cfg g cur true := by
    intro x hx
    unfold bindingTask boundEndpoint
    rw [hx]
  by_cases hk : kicked = 0
  · simp [hk, htask]
  · cases ht : t.get kicked <;> simp [hk, ht, htask]

/-- The close of a client declares its binding ended before the session goes. -/
theorem onClientClosed_eq (sid : Nat) :
    g.onClientClosed cfg sid =
      { g with
        loops := g.loops ++
          ((g.sessions.get sid).bind fun s => bindingTask cfg g s false).toList
        sessions := g.sessions.erase sid
        routes := g.routes.eraseBySession sid } := by
  unfold onClientClosed
  cases g.sessions.get sid with
  | none => simp
  | some s => simp [notifySceneBinding_eq]

variable {g}

/-- The large effects give no session another connection. -/
theorem Major.session {l : Step} (hmaj : Major cfg g l g') {id : Nat} {s' : ClientSession}
    (hs' : g'.sessions.get id = some s') : ∃ s, g.sessions.get id = some s ∧ s'.conn = s.conn := by
  cases hmaj with
  | closed sid hconn =>
    rw [onClientClosed_eq] at hs'
    simp only [ClientSessionTable.get_erase] at hs'
    split at hs'
    · cases hs'
    · exact ⟨s', hs', rfl⟩
  | login s p dst kicked t hp hdst hbound =>
    rw [(relogged_fields cfg g _ _ _).1, hbound.get_kicked] at hs'
    split at hs'
    · rename_i hid
      cases hs'
      exact ⟨s, hid ▸ hbound.found, by simp [ClientSession.bound]⟩
    split at hs'
    · cases hs'
    · exact ⟨s', hs', rfl⟩
  | switched s s₁ service t hservice hauthed hne hsw =>
    rw [notifySceneBinding_eq] at hs'
    simp only [hsw.get] at hs'
    split at hs'
    · rename_i hid
      cases hs'
      exact ⟨s, hid ▸ hsw.found, by simp [hsw.changed hne]⟩
    · exact ⟨s', hs', rfl⟩

theorem Major.counters {l : Step} (hmaj : Major cfg g l g') : g'.nextConnId = g.nextConnId ∧
    g'.sessions.nextSessionId = g.sessions.nextSessionId := by
  cases hmaj with
  | closed sid hconn =>
    rw [onClientClosed_eq]
    exact ⟨rfl, ClientSessionTable.nextSessionId_erase _ _⟩
  | login s p dst kicked t hp hdst hbound =>
    obtain ⟨hsessions, -, -, -, hnames, -⟩ := relogged_fields cfg g t kicked
      (s.bound p dst (g.sessions.lastEpoch p + 1))
    refine ⟨hnames, ?_⟩
    rw [hsessions]
    split
    · exact hbound.next
    · exact (ClientSessionTable.nextSessionId_erase _ _).trans hbound.next
  | switched s s₁ service t hservice hauthed hne hsw =>
    rw [notifySceneBinding_eq]
    exact ⟨rfl, hsw.next⟩

end Major

/-- A task that is queued for a session of the table. -/
theorem Sane.bindingTask (h : Sane cfg g) {sid : Nat} {online : Bool} {sub : SceneSubmission}
    (hs : g.sessions.get sid = some s) (hsub : bindingTask cfg g s online = some sub) :
    Task cfg g sub ∧ sub.session = s ∧ sub.online = online ∧ sub.seq = 0 ∧
      sub.businessFrame = none := by
  unfold GatewayDispatcher.bindingTask at hsub
  split at hsub
  · rename_i hdecl
    obtain ⟨ep, hep, rfl⟩ := Option.map_eq_some_iff.mp hsub
    have hkey := h.sessions.key _ s hs
    have hscene := h.sessions.scene _ s hs (.inr hdecl.2.2.2.1)
    refine ⟨h.task ?_ hscene.2.2.2 hdecl hep (fun _ => rfl) fun hne => absurd rfl hne, rfl, rfl, rfl,
      rfl⟩
    exact hkey.1.symm ▸ hkey.2.2
  · cases hsub

/-- Small effects keep the gateway well formed, and so do the large ones. -/
theorem Major.sane {l : Step} (hmaj : Major cfg g l g') (h : Sane cfg g) : Sane cfg g' := by
  cases hmaj with
  | closed sid hconn =>
    have hnext := ClientSessionTable.nextSessionId_erase g.sessions sid
    unfold onClientClosed
    cases hs : g.sessions.get sid with
    | none =>
      exact h.frame (h.sessions.erase sid) h.services hnext.symm.le le_rfl le_rfl
        (fun _ _ => id) (fun _ => .inl) (fun seq r hr => .inl (ReturnRouteTable.of_eraseBySession hr).1) fun _ => .inl
    | some s =>
      simp only [notifySceneBinding_eq]
      refine h.frame (h.sessions.erase sid) h.services hnext.symm.le le_rfl le_rfl
        (fun _ _ => id) (fun _ => .inl) (fun seq r hr => .inl (ReturnRouteTable.of_eraseBySession hr).1) ?_
      intro sub hsub
      rcases List.mem_append.mp hsub with hsub | hsub
      · exact .inl hsub
      · have htask := (h.bindingTask hs (Option.mem_toList.mp hsub)).1
        refine .inr ⟨htask.declarable, htask.incarnation, htask.matched, htask.known,
          hnext.symm ▸ htask.session, htask.plain, fun hne => ?_⟩
        obtain ⟨hlt, hroute⟩ := htask.route hne
        exact ⟨hlt, fun r hr => hroute r (ReturnRouteTable.of_eraseBySession hr).1⟩
  | @login sid hd body nowMs s p dst kicked t hp hdst hbound =>
    obtain ⟨hsessions, hroutes, hservices, hseq, hnames, hconns⟩ := relogged_fields cfg g t kicked
      (s.bound p dst (g.sessions.lastEpoch p + 1))
    obtain ⟨-, -, -, hloops⟩ := relogged_logs cfg g t kicked
      (s.bound p dst (g.sessions.lastEpoch p + 1))
    have hold : ∀ seq r, (if kicked = 0 then g.routes else g.routes.eraseBySession kicked).lookup
        seq = some r → g.routes.lookup seq = some r := by
      intro seq r hr
      split at hr
      · exact hr
      · exact (ReturnRouteTable.of_eraseBySession hr).1
    have hnext : (if kicked = 0 then t else t.erase kicked).nextSessionId =
        g.sessions.nextSessionId := by
      split
      · exact hbound.next
      · exact (ClientSessionTable.nextSessionId_erase t kicked).trans hbound.next
    have hsane : (if kicked = 0 then t else t.erase kicked).Sane := by
      split
      · exact hbound.sane h.sessions
      · exact (hbound.sane h.sessions).erase kicked
    refine h.frame (hsessions ▸ hsane) (by rw [hservices, hnames]; exact h.services)
      (by rw [hsessions, hnext]) hnames.ge hseq.ge (fun _ _ hn => by rw [hservices]; exact hn)
      (fun _ hc => .inl (hconns hc)) (fun seq r hr => .inl (hold seq r (hroutes ▸ hr))) fun sub hsub => ?_
    rw [hloops] at hsub
    rcases List.mem_append.mp hsub with hsub | hsub
    · exact .inl hsub
    -- the task is for the session that has just logged in
    have hget := hbound.get_kicked sid
    rw [if_pos rfl] at hget
    have hself : Sane cfg { g with sessions := if kicked = 0 then t else t.erase kicked } := by
      exact h.frame hsane h.services hnext.ge le_rfl le_rfl (fun _ _ => id) (fun _ => .inl)
        (fun _ _ => .inl) fun _ => .inl
    have htask := (hself.bindingTask hget (Option.mem_toList.mp hsub)).1
    refine .inr ⟨htask.declarable, htask.incarnation, htask.matched, ?_, ?_, htask.plain,
      fun hne => ?_⟩
    · rw [hservices, hnames]
      exact htask.known
    · rw [hsessions]
      exact htask.session
    · obtain ⟨hlt, hroute⟩ := htask.route hne
      rw [hseq]
      exact ⟨hlt, fun r hr => hroute r (hold _ r (hroutes ▸ hr))⟩
  | switched s s' service t hservice hauthed hne hsw =>
    rw [notifySceneBinding_eq]
    refine h.frame (hsw.sane h.sessions) h.services hsw.next.symm.le le_rfl le_rfl
      (fun _ _ => id) (fun _ => .inl) (fun _ _ => .inl) fun sub hsub => ?_
    rcases List.mem_append.mp hsub with hsub | hsub
    · exact .inl hsub
    · have htask := (h.bindingTask hsw.found (Option.mem_toList.mp hsub)).1
      exact .inr ⟨htask.declarable, htask.incarnation, htask.matched, htask.known,
        hsw.next.symm ▸ htask.session, htask.plain, htask.route⟩

theorem Effects.sane (heff : Effects cfg g g') (h : Sane cfg g) : Sane cfg g' := by
  induction heff with
  | refl => exact h
  | tail _ hlast ih => exact hlast.sane ih

section Frames

theorem effects_sendToClient {head : ClientHeader} {body : Bytes} {cause : Cause}
    (hcause : cause = .reply ∨ cause = .shout) (hkind : head.kind ≠ .response) :
    Effects cfg g (g.sendToClient s head body cause) := by
  unfold sendToClient
  split
  · exact .single (.sent _ hcause hkind)
  · exact .refl

theorem effects_rejectClient {requestId method : Nat} {reason : String} :
    Effects cfg g (g.rejectClient s requestId method reason .reply) :=
  effects_sendToClient (.inl rfl) nofun

theorem effects_push {p : Nat} {head : ClientHeader} {body : Bytes}
    (hs : g.sessions.findByPlayer p = some s) (hkind : head.kind = .push) :
    Effects cfg g (g.sendToClient s head body (.push p)) := by
  unfold sendToClient
  split
  · exact .single (.pushed s _ p hs hkind)
  · exact .refl

theorem effects_shout {head : ClientHeader} {body : Bytes} (hkind : head.kind ≠ .response)
    (receivers : List ClientSession) :
    Effects cfg g (receivers.foldl (fun g s => g.sendToClient s head body .shout) g) := by
  induction receivers generalizing g with
  | nil => exact .refl
  | cons s receivers ih => exact (effects_sendToClient (.inr rfl) hkind).trans ih

/-- A request ends with a frame to its session, if the session can still be reached. -/
theorem effects_finish {r : ReturnRoute} {head : ClientHeader} {body : Bytes}
    (hr : g.routes.lookup r.internalSeq = some r)
    (hs : g.sessions.get r.clientSessionId = some s) (hlive : s.authed = true ∧ s.epoch = r.sessionEpoch)
    (hid : head.requestId = r.clientRequestId)
    (hkind : head.kind = .response ∨ head.kind = .error) :
    Effects cfg g
      ({ g with routes := g.routes.erase r.internalSeq }.sendToClient s head body (.answer r)) := by
  unfold sendToClient
  split
  · rename_i hconn
    exact .single (.answered r s head body hr hs hlive.1 hlive.2 hconn hid hkind)
  · rename_i hconn
    refine .single (.dropped r hr (.inl fun ⟨x, hx, _, _, hx4⟩ => hconn ?_))
    cases hs.symm.trans hx
    exact hx4

/-- A request ends without a frame when its session is not the same any more. -/
theorem effects_drop {r : ReturnRoute} (hr : g.routes.lookup r.internalSeq = some r)
    (hgone : ∀ s, g.sessions.get r.clientSessionId = some s →
      ¬ (s.authed = true ∧ s.epoch = r.sessionEpoch)) :
    Effects cfg g { g with routes := g.routes.erase r.internalSeq } :=
  .single (.dropped r hr (.inl fun ⟨s, hs, h1, h2, _⟩ => hgone s hs ⟨h1, h2⟩))

end Frames

section Requests

theorem sane_selectInstance {reg : ServiceRegistry} {n dst zoneId : Nat} (h : reg.Sane n)
    (candidates : List ServiceEndpoint) :
    (selectInstance reg dst zoneId candidates).2.Sane n ∧
      ServiceRegistry.Fewer reg (selectInstance reg dst zoneId candidates).2 := by
  induction candidates generalizing reg with
  | nil => exact ⟨h, .refl reg⟩
  | cons candidate rest ih =>
    have hsel := h.selectByScene ⟨dst, zoneId, candidate.sceneId⟩
    unfold selectInstance
    revert hsel
    generalize reg.selectByScene _ = out
    intro ⟨hsane, hfewer⟩
    obtain ⟨_ | ep, reg'⟩ := out
    · obtain ⟨hsane', hfewer'⟩ := ih hsane
      exact ⟨hsane', hfewer.trans hfewer'⟩
    · exact ⟨hsane, hfewer⟩

theorem sane_selectScene {reg : ServiceRegistry} {n : Nat} (h : reg.Sane n) (s : ClientSession) :
    (selectScene cfg reg s).2.Sane n ∧ ServiceRegistry.Fewer reg (selectScene cfg reg s).2 := by
  unfold selectScene
  split
  · exact h.selectByScene _
  · exact sane_selectInstance h _

/-- What `chooseBackend` gives: a session of the table, and its channel for a scene request. -/
structure Chosen (cfg : DispatcherConfig) (g : GatewayDispatcher) (s : ClientSession)
    (ep : ServiceEndpoint) (dst : Nat) : Prop where
  found : g.sessions.get s.sessionId = some s
  authed : s.authed = true
  bound : dst = ServerID.kScene → g.boundEndpoint cfg s = some ep

theorem chooseBackend_spec {dst : Nat} (hs : g.sessions.get s.sessionId = some s)
    (hauthed : s.authed = true) :
    Effects cfg g (g.chooseBackend cfg s dst).2 ∧
      ∀ s' ep, (g.chooseBackend cfg s dst).1 = some (s', ep) →
        Chosen cfg (g.chooseBackend cfg s dst).2 s' ep dst := by
  unfold chooseBackend
  split
  · rename_i hdst
    refine ⟨.refl, fun s' ep hout => ?_⟩
    obtain ⟨ep', _, heq⟩ := Option.map_eq_some_iff.mp hout
    cases heq
    exact ⟨hs, hauthed, fun h => absurd h hdst⟩
  split
  · refine ⟨.refl, fun s' ep hout => ?_⟩
    obtain ⟨ep', hep, heq⟩ := Option.map_eq_some_iff.mp hout
    cases heq
    exact ⟨hs, hauthed, fun _ => hep⟩
  have hsel := fun h => @sane_selectScene cfg g.services g.nextConnId h s
  revert hsel
  generalize selectScene cfg g.services s = out
  intro hsel
  obtain ⟨_ | ep, services⟩ := out
  · exact ⟨.single (.registry services hsel), by simp⟩
  have heff : Effects cfg g
      { g with
        services := services
        sessions := g.sessions.setSceneBinding s.sessionId ep.sceneId ep.channelId
          ep.sceneIncarnation ep.connName } :=
    (ReflTransGen.single (Effect.registry services hsel)).tail
      (Effect.assigned s.sessionId ep.sceneId ep.channelId ep.sceneIncarnation ep.connName)
  have hkept : ∀ s', (g.sessions.setSceneBinding s.sessionId ep.sceneId ep.channelId
      ep.sceneIncarnation ep.connName).get s.sessionId = some s' →
      s'.sessionId = s.sessionId ∧ s'.authed = true := by
    intro s' hs'
    rcases g.sessions.setSceneBinding_cases s.sessionId ep.sceneId ep.channelId
      ep.sceneIncarnation ep.connName with heq | ⟨_, _, _, old, hold, hold2, _, _, heq⟩
    · rw [heq] at hs'
      cases hs.symm.trans hs'
      exact ⟨rfl, hauthed⟩
    · rw [heq] at hs'
      cases hs.symm.trans hold
      simp only [ClientSessionTable.get, Table.lookup_insert_same] at hs'
      cases hs'
      exact ⟨rfl, hauthed⟩
  simp only
  split
  · exact ⟨heff, by simp⟩
  · rename_i s1 hs1
    obtain ⟨hid, hauthed1⟩ := hkept s1 hs1
    refine ⟨heff, fun s' ep' hout => ?_⟩
    obtain ⟨ep1, hep1, heq⟩ := Option.map_eq_some_iff.mp hout
    cases heq
    exact ⟨hid.symm ▸ hs1, hauthed1, fun _ => hep1⟩

/-- A session that is bound to an endpoint has a binding to declare. -/
theorem Sane.declarable (h : Sane cfg g) {ep : ServiceEndpoint} {sid : Nat}
    (hs : g.sessions.get sid = some s)
    (hauthed : s.authed = true) (hep : g.boundEndpoint cfg s = some ep) : Declarable s := by
  obtain ⟨hmatch, hreg⟩ := boundEndpoint_spec h.services hep
  have hpos := (h.services.named _ _ hreg).1
  have hconn : s.sceneConnName ≠ 0 := by
    rw [← hmatch.2.2.2.2.2]
    exact Nat.pos_iff_ne_zero.mp hpos
  obtain ⟨hdst, hscene, _, _⟩ := h.sessions.scene _ s hs (.inl hconn)
  exact ⟨hauthed, (h.sessions.epoch _ s hs hauthed).1, hdst, hscene, hconn⟩

theorem effects_forward (h : Sane cfg g) {ep : ServiceEndpoint} {dst : Nat} {hd : ClientHeader}
    {body : Bytes} {nowMs : Int} {seq : Nat} (hc : Chosen cfg g s ep dst) (hseq : seq < g.nextSeq)
    (hr : g.routes.lookup seq = some (returnRoute s ep dst hd seq nowMs)) :
    Effects cfg g (g.forward cfg s ep dst hd body (returnRoute s ep dst hd seq nowMs)) := by
  unfold forward
  split
  · exact effects_finish hr hc.found ⟨hc.authed, rfl⟩ rfl (.inr rfl)
  simp only
  split
  · rename_i hdst
    have hep := hc.bound hdst
    refine .single (.queued s ep _ seq hc.found (h.declarable hc.found hc.authed hep) hep hseq ?_)
    intro r hr'
    cases hr.symm.trans hr'
    exact ⟨rfl, rfl⟩
  split
  · exact .single (.relayed _ _)
  · exact .refl

theorem refusal_authed {hd : ClientHeader} (h : refusal cfg s hd = none) : s.authed = true := by
  unfold refusal at h
  split at h
  · cases h
  split at h
  · cases h
  split at h
  · cases h
  · rename_i hauthed
    simpa using hauthed

theorem effects_handleRequest (h : Sane cfg g) {hd : ClientHeader} {body : Bytes} {nowMs : Int}
    (hs : g.sessions.get s.sessionId = some s) :
    Effects cfg g (g.handleRequest cfg s hd body nowMs) := by
  unfold handleRequest
  split
  · exact effects_rejectClient
  rename_i hrefusal
  simp only
  obtain ⟨heff, hchosen⟩ :=
    @chooseBackend_spec cfg g s (targetService cfg s hd) hs (refusal_authed hrefusal)
  revert heff hchosen
  generalize targetService cfg s hd = dst
  generalize g.chooseBackend cfg s dst = out
  intro heff hchosen
  obtain ⟨_ | ⟨s', ep⟩, g1⟩ := out
  · exact heff.trans effects_rejectClient
  have hc := hchosen s' ep rfl
  have h1 := heff.sane h
  simp only
  split
  · exact (heff.tail .skipped).trans effects_rejectClient
  · rename_i routes hroutes
    unfold ReturnRouteTable.add at hroutes
    split at hroutes
    · cases hroutes
    cases hroutes
    have hadd : Effect cfg g1 _ := .added s' ep dst hd nowMs hc.found hc.authed
      fun hdst => ⟨(boundEndpoint_spec h1.services (hc.bound hdst)).1,
        (h1.declarable hc.found hc.authed (hc.bound hdst)).2.2.2.1⟩
    refine (heff.tail hadd).trans ?_
    refine effects_forward (hadd.sane h1) ⟨hc.found, hc.authed, hc.bound⟩ (Nat.lt_succ_self _) ?_
    exact Table.lookup_insert_same _ _ _

end Requests

section Control

/-- A step is a chain of small effects, which a large one may begin. -/
def StepCase (cfg : DispatcherConfig) (g : GatewayDispatcher) (l : Step) (g' : GatewayDispatcher) :
    Prop :=
  Effects cfg g g' ∨ ∃ g₁, Major cfg g l g₁ ∧ Effects cfg g₁ g'

/-- Declaring the binding of a session of the table is a small effect. -/
theorem effects_notify (h : Sane cfg g) (hs : g.sessions.get s.sessionId = some s) :
    Effects cfg g (g.notifySceneBinding cfg s true) := by
  unfold notifySceneBinding
  split
  · exact .refl
  rename_i hdecl
  simp only [not_or, Bool.not_eq_true', Bool.not_eq_false, ne_eq, not_not] at hdecl
  cases hep : g.boundEndpoint cfg s with
  | none => exact .refl
  | some ep =>
    refine .single (.queued s ep none 0 hs ?_ hep h.nextSeq fun r hr => ?_)
    · exact ⟨hdecl.1, hdecl.2.1, hdecl.2.2.1, hdecl.2.2.2.1, hdecl.2.2.2.2⟩
    · exact absurd (h.routes 0 r hr).2.1 (Nat.lt_irrefl 0)

theorem sessions_notify (online : Bool) :
    (g.notifySceneBinding cfg s online).sessions = g.sessions := by
  rw [notifySceneBinding_eq]

theorem login_case (h : Sane cfg g) {hd : ClientHeader} {body : Bytes} {nowMs : Int} {p : Nat}
    {sid : Nat} (hs : g.sessions.get sid = some s) (hp : authPlayer cfg hd body = some p) :
    StepCase cfg g (.clientFrame sid hd body nowMs) (g.login cfg s hd p) := by
  obtain ⟨rfl, _⟩ := h.sessions.key _ s hs
  unfold login
  simp only
  split
  · exact .inl .refl
  rename_i kicked t hbind
  obtain ⟨s', hbound⟩ := ClientSessionTable.bind_spec hbind
  cases hs.symm.trans hbound.found
  refine .inr ⟨_, .login s p _ kicked t hp (fun hne => if_pos hne) hbound, ?_⟩
  have hget := hbound.get_kicked s.sessionId
  have hsessions := (relogged_fields cfg g t kicked (s.bound p
    (if s.dstService ≠ 0 then s.dstService else cfg.defaultDstService)
    (g.sessions.lastEpoch p + 1))).1
  rw [relogged, sessions_notify] at hsessions
  rw [hsessions, hget, if_pos rfl]
  exact effects_sendToClient (.inl rfl) nofun

theorem handleAuth_case (h : Sane cfg g) {hd : ClientHeader} {body : Bytes} {nowMs : Int}
    {sid : Nat} (hs : g.sessions.get sid = some s)
    (hhd : hd.kind = .control ∧ hd.module = kClientSysModule ∧ hd.method = ClientSysMethod.kAuth) :
    StepCase cfg g (.clientFrame sid hd body nowMs) (g.handleAuth cfg s hd body) := by
  unfold handleAuth
  split
  · refine .inl ?_
    simp only
    split
    · exact effects_rejectClient.tail (.lost _)
    · exact effects_rejectClient
  · rename_i p hp
    refine login_case h hs ?_
    rw [authPlayer, if_pos hhd, hp]
    rfl

/-- What follows a change of service: the new binding is declared and the client is told. -/
theorem effects_redeclared (hx : Sane cfg g) {head : ClientHeader} {body : Bytes}
    (hkind : head.kind ≠ .response) :
    Effects cfg g ((match g.sessions.get s.sessionId with
      | none => g
      | some current => g.notifySceneBinding cfg current true).sendToClient s head body .reply) := by
  cases hcur : g.sessions.get s.sessionId with
  | none => exact effects_sendToClient (.inl rfl) hkind
  | some current =>
    have hkey := (hx.sessions.key _ current hcur).1
    exact (effects_notify hx (hkey.symm ▸ hcur)).trans (effects_sendToClient (.inl rfl) hkind)

theorem handleBindService_case (h : Sane cfg g) {hd : ClientHeader} {body : Bytes} {nowMs : Int}
    {sid : Nat} (hs : g.sessions.get sid = some s)
    (hhd : hd.kind = .control ∧ hd.module = kClientSysModule ∧
      hd.method = ClientSysMethod.kBindService) :
    StepCase cfg g (.clientFrame sid hd body nowMs) (g.handleBindService cfg s hd body) := by
  obtain ⟨rfl, _⟩ := h.sessions.key _ s hs
  unfold handleBindService
  split
  · exact .inl effects_rejectClient
  rename_i hauthed
  simp only [Bool.not_eq_true', Bool.not_eq_false] at hauthed
  split
  · exact .inl effects_rejectClient
  rename_i service hwanted
  have hservice : switchTo cfg hd body = some service := by rw [switchTo, if_pos hhd, hwanted]
  unfold switchService
  split
  · exact .inl effects_rejectClient
  rename_i t hset
  obtain ⟨s', s'', hsw⟩ := ClientSessionTable.setDstService_spec hset
  cases hs.symm.trans hsw.found
  simp only
  by_cases hne : s.dstService = service
  · obtain ⟨-, rfl⟩ := hsw.same hne
    simp only [if_neg (not_not.mpr hne.symm)]
    exact .inl (effects_redeclared h (by simp [control]))
  · simp only [if_pos (Ne.symm hne)]
    have hmaj : Major cfg g (.clientFrame s.sessionId hd body nowMs)
        ({ g with sessions := t }.notifySceneBinding cfg s false) :=
      .switched s s'' service t hservice hauthed hne hsw
    exact .inr ⟨_, hmaj, effects_redeclared (hmaj.sane h) (by simp [control])⟩

theorem handleClientFrame_case (h : Sane cfg g) {hd : ClientHeader} {body : Bytes} {nowMs : Int}
    {sid : Nat} :
    StepCase cfg g (.clientFrame sid hd body nowMs) (g.handleClientFrame cfg sid hd body nowMs) := by
  unfold handleClientFrame
  split
  · exact .inl .refl
  rename_i s hs
  obtain ⟨hkey, _⟩ := h.sessions.key _ s hs
  split
  · split
    · exact .inl effects_rejectClient
    rename_i hctl
    simp only [ne_eq, not_or, not_not] at hctl
    split
    · rename_i hmethod
      exact handleAuth_case h hs ⟨hctl.1, hctl.2, hmethod⟩
    split
    · rename_i hmethod
      exact handleBindService_case h hs ⟨hctl.1, hctl.2, hmethod⟩
    split
    · exact .inl (effects_sendToClient (.inl rfl) nofun)
    · exact .inl effects_rejectClient
  · exact .inl (effects_handleRequest h (hkey.symm ▸ hs))

end Control

section Backends

theorem effects_handleHandshake {conn : ConnName} {hd : Header} {body : Bytes} :
    Effects cfg g (g.handleHandshake cfg conn hd body) := by
  unfold handleHandshake
  split
  · exact .single (.lost conn)
  rename_i hs _
  simp only
  have hbind := fun h : g.services.Sane g.nextConnId => h.bind
    { connName := conn, serviceId := hs.serviceId, zoneId := hs.zoneId, sceneId := hs.sceneId
      channelId := hs.channelId, sceneIncarnation := hs.sceneIncarnation }
  revert hbind
  generalize g.services.bind _ = out
  intro hbind
  obtain ⟨_ | oldConn, services⟩ := out
  · exact (ReflTransGen.single (.registry services hbind)).tail (.lost conn)
  have hreg : Effects cfg g { g with services := services } := .single (.registry services hbind)
  simp only
  split
  · exact hreg
  have hremove := fun h : services.Sane g.nextConnId => h.removeByName oldConn
  revert hremove
  generalize services.removeByName oldConn = out
  intro hremove
  obtain ⟨_ | removed, services'⟩ := out
  · exact hreg.tail (.registry services' hremove)
  · exact (hreg.tail (.registry services' hremove)).tail (.lost oldConn)

theorem not_along_of_rebound {r : ReturnRoute} {origin : ServiceEndpoint} {conn : ConnName}
    {hd : Header} (hmatch : ¬ (mismatched r origin conn hd = true))
    (hre : rebound r origin conn s = true) : ¬ Along r s := by
  unfold mismatched at hmatch
  unfold rebound at hre
  simp only [decide_eq_true_eq, not_or, ne_eq, not_not] at hmatch hre
  obtain ⟨_, hscene, hconn, _, hdiff⟩ := hre
  intro halong
  obtain ⟨h1, h2, h3, h4⟩ := halong (hmatch.1.trans hscene)
  rcases hdiff with hne | hne | hne | hne
  · exact hne h1.symm
  · exact hne h2.symm
  · exact hne h3.symm
  · exact hne h4.symm

theorem effects_handleResponse (h : Sane cfg g) {origin : ServiceEndpoint} {conn : ConnName}
    {hd : Header} {body : Bytes} {r : ReturnRoute} (hr : g.routes.lookup hd.seq = some r) :
    Effects cfg g (g.handleResponse origin conn hd body r) := by
  obtain ⟨hkey, _⟩ := h.routes _ r hr
  unfold handleResponse
  split
  · exact .single (.lost conn)
  rename_i hmatch
  rw [← hkey] at hr ⊢
  simp only
  split
  · rename_i hs
    exact effects_drop hr fun s hs' => nomatch hs.symm.trans hs'
  rename_i s hs
  split
  · rename_i hre
    exact .single (.dropped r hr (.inr ⟨s, hs, not_along_of_rebound hmatch hre⟩))
  split
  · rename_i hlive
    exact effects_finish hr hs hlive rfl (.inl rfl)
  · rename_i hdead
    refine effects_drop hr fun s' hs' hlive => hdead ?_
    cases hs.symm.trans hs'
    exact hlive

theorem effects_handleShout {hd : Header} {body : Bytes} :
    Effects cfg g (g.handleShout hd body) := by
  unfold handleShout
  split
  · exact .refl
  split
  · exact .refl
  split
  · exact .refl
  · exact effects_shout (by simp) _

/-- A push goes to the session of the player, if there is one. -/
theorem effects_pushed {hd : Header} (name payload : Bytes) :
    Effects cfg g (match g.sessions.findByPlayer hd.playerId with
      | none => g
      | some s => g.sendToClient s
          { kind := .push, module := hd.module, method := hd.method, roleName := name } payload
          (.push hd.playerId)) := by
  split
  · exact .refl
  · rename_i s hs
    exact effects_push hs rfl

theorem effects_handlePush {origin : ServiceEndpoint} {conn : ConnName} {hd : Header}
    {body : Bytes} : Effects cfg g (g.handlePush origin conn hd body) := by
  unfold handlePush
  simp only
  split
  · exact effects_pushed _ _
  split
  · exact .single (.lost conn)
  split
  · split
    · exact .refl
    split
    · exact .refl
    · exact effects_pushed _ _
  · exact effects_pushed _ _

theorem effects_handleBackendFrame (h : Sane cfg g) {conn : ConnName} {hd : Header}
    {body : Bytes} : Effects cfg g (g.handleBackendFrame cfg conn hd body) := by
  unfold handleBackendFrame
  split
  · exact effects_handleHandshake
  split
  · exact .single (.lost conn)
  rename_i origin _
  split
  · exact .refl
  split
  · exact .single (.lost conn)
  split
  · rename_i r hr
    split at hr
    · cases hr
    · exact effects_handleResponse h hr
  split
  · exact effects_handleShout
  split
  · exact effects_handlePush
  · exact .refl

end Backends

section Loops

/-- The request of a refused submission ends: with an error if its session is still the same. -/
theorem effects_refuseSubmission {sub : SceneSubmission}
    (hroute : sub.seq ≠ 0 → ∀ r, g.routes.lookup sub.seq = some r → r.internalSeq = sub.seq ∧
      r.clientSessionId = sub.session.sessionId ∧ r.sessionEpoch = sub.session.epoch) :
    Effects cfg g (g.refuseSubmission sub) := by
  unfold refuseSubmission ReturnRouteTable.take
  split
  · exact .refl
  rename_i hne
  cases hr : g.routes.lookup sub.seq with
  | none => exact .refl
  | some r =>
    obtain ⟨hkey, hsession, hepoch⟩ := hroute hne r hr
    rw [← hkey] at hr ⊢
    rw [← hsession, ← hepoch]
    simp only [Option.map_some]
    split
    · rename_i hs
      exact effects_drop hr fun s hs' => nomatch hs.symm.trans hs'
    rename_i s hs
    split
    · rename_i hlive
      exact effects_finish hr hs hlive rfl (.inr rfl)
    · rename_i hdead
      refine effects_drop hr fun s' hs' hlive => hdead ?_
      cases hs.symm.trans hs'
      exact hlive

/-- What is submitted when an attempt succeeds, and why it may fail. -/
theorem effects_runSubmission (h : Sane cfg g) {conn : ConnName} {sub : SceneSubmission}
    {rest : List SceneSubmission} {sendOk : Bool} (hnext : nextTask conn g.loops = some (sub, rest)) :
    Effects cfg g ({ g with loops := rest }.runSubmission cfg sub sendOk) := by
  have htask := h.tasks sub (mem_of_nextTask hnext).1
  have hroute : sub.seq ≠ 0 → ∀ r, g.routes.lookup sub.seq = some r → r.internalSeq = sub.seq ∧
      r.clientSessionId = sub.session.sessionId ∧ r.sessionEpoch = sub.session.epoch :=
    fun hne r hr => ⟨(h.routes _ r hr).1, (htask.route hne).2 r hr⟩
  -- the send fails, or the connection is not the scene's any more
  have hbroken : Effects cfg g
      (({ g with loops := rest }.forceClose sub.endpoint.connName).refuseSubmission sub) :=
    .head (.broken conn sub rest hnext) (effects_refuseSubmission hroute)
  have hrefused : (g.ready sub.endpoint = false ∨ (sub.online = true ∧
      ∀ s, g.sessions.get sub.session.sessionId = some s →
        ClientSessionTable.current s sub.session = false)) →
      Effects cfg g ({ g with loops := rest }.refuseSubmission sub) := fun why =>
    .head (.refused conn sub rest hnext why) (effects_refuseSubmission hroute)
  unfold runSubmission
  rw [show ({ g with loops := rest } : GatewayDispatcher).ready sub.endpoint =
    g.ready sub.endpoint from rfl]
  cases honline : sub.online with
  | false =>
    simp only [Bool.false_eq_true, if_false]
    cases hr : g.ready sub.endpoint with
    | false => simpa using hrefused (.inl hr)
    | true =>
      simp only [if_true, Option.map_some]
      split
      · exact hbroken
      · exact .single (.withdrawn conn sub rest hnext hr honline)
  | true =>
    simp only [if_true]
    cases hsub : g.sessions.submitScene sub.session (fun declareOnline =>
        if g.ready sub.endpoint then some (sceneFrames cfg sub declareOnline) else none) with
    | none =>
      refine hrefused ?_
      cases hr : g.ready sub.endpoint with
      | false => exact .inl rfl
      | true =>
        refine .inr ⟨honline, fun s hs => ?_⟩
        unfold ClientSessionTable.submitScene at hsub
        rw [ClientSessionTable.get] at hs
        simpa [hs, hr] using hsub
    | some out =>
      obtain ⟨frames, sessions⟩ := out
      obtain ⟨s, hs, hcur, hframes, rfl⟩ := ClientSessionTable.submitScene_spec hsub
      cases hr : g.ready sub.endpoint with
      | false => simp [hr] at hframes
      | true =>
        simp only [hr, if_true, Option.some.injEq] at hframes
        subst hframes
        simp only
        split
        · exact hbroken
        · exact .single (.declared conn sub rest s hnext hr honline hs hcur)

end Loops

theorem effects_onClientConnected : Effects cfg g (g.onClientConnected cfg) := by
  unfold onClientConnected
  simp only
  split
  · exact (ReflTransGen.single .opened).tail (.lost _)
  · exact .single .opened

/-- Every step of a well formed gateway. -/
theorem step_cases {l : Step} (h : Sane cfg g) (hstep : step cfg g l = some g') :
    StepCase cfg g l g' := by
  cases l with
  | clientConnected =>
    cases hstep
    exact .inl effects_onClientConnected
  | clientClosed sid =>
    simp only [step] at hstep
    split at hstep
    · rename_i hconn
      cases hstep
      refine .inr ⟨_, .closed sid fun s hs => ?_, .refl⟩
      simpa [hs] using hconn
    · cases hstep
  | clientFrame sid hd body nowMs =>
    cases hstep
    exact handleClientFrame_case h
  | backendConnected =>
    cases hstep
    exact .inl (.single .accepted)
  | backendClosed conn =>
    simp only [step] at hstep
    split at hstep
    · cases hstep
    · cases hstep
      exact .inl (.single (.registry _ fun h => h.removeByName conn))
  | backendFrame conn hd body =>
    cases hstep
    exact .inl (effects_handleBackendFrame h)
  | sweep nowMs =>
    cases hstep
    exact .inl (.single (.swept nowMs))
  | runLoop conn sendOk =>
    obtain ⟨⟨sub, rest⟩, hnext, heq⟩ := Option.map_eq_some_iff.mp hstep
    cases heq
    exact .inl (effects_runSubmission h hnext)
  | lose conn =>
    cases hstep
    exact .inl (.single (.lost conn))

theorem sane_step {l : Step} (h : Sane cfg g) (hstep : step cfg g l = some g') : Sane cfg g' := by
  rcases step_cases h hstep with heff | ⟨g₁, hmaj, heff⟩
  · exact heff.sane h
  · exact heff.sane (hmaj.sane h)

/-- The gateway is well formed in every run. -/
theorem sane_exec {ls : List Step} (h : Sane cfg g) (hrun : Run.exec (step cfg) g ls = some g') :
    Sane cfg g' :=
  Run.exec_invariant (Sane cfg) (fun _ _ _ hs hst => sane_step hs hst) h hrun

/-- To preserve a property in a step, preserve it in every effect. -/
theorem step_induction {l : Step} {P : GatewayDispatcher → Prop} (h : Sane cfg g)
    (hstep : step cfg g l = some g')
    (hmajor : ∀ g₁, Major cfg g l g₁ → P g → P g₁)
    (heffect : ∀ x y, Sane cfg x → Effect cfg x y → P x → P y) (hp : P g) : P g' := by
  have hchain : ∀ x y, Sane cfg x → Effects cfg x y → P x → P y := by
    intro x y hx heff hpx
    induction heff with
    | refl => exact hpx
    | tail hbefore hlast ih => exact heffect _ _ (Effects.sane hbefore hx) hlast ih
  rcases step_cases h hstep with heff | ⟨g₁, hmaj, heff⟩
  · exact hchain _ _ h heff hp
  · exact hchain _ _ (hmaj.sane h) heff (hmajor g₁ hmaj hp)

section Samples

/-- A gateway for chat, global and scene services. -/
def smallZone : DispatcherConfig :=
  { allowedServices := [ServerID.kChat, ServerID.kGlobal, ServerID.kScene] }

/-- A scene takes the channel of a connection. -/
def sceneAnnounced (conn : ConnName) (sceneId sceneIncarnation : Nat) : Step :=
  .backendFrame conn
    (makeHeader (linkTypeOf ServerID.kScene) kSYS kHandshake 0 0 ServerID.kScene ServerID.kGateway)
    (packBackendHandshake
      { serviceId := ServerID.kScene, zoneId := 1, sceneId, sceneIncarnation, targetGatewayId := 1 })

def authFrame (sid playerId : Nat) : Step :=
  .clientFrame sid (control ClientSysMethod.kAuth 1) (makeAuthBody playerId 0) 0

def requestFrame (sid requestId : Nat) : Step :=
  .clientFrame sid { kind := .request, module := 2, method := 5, requestId } [] 0

def sceneResponse (conn : ConnName) (seq playerId : Nat) : Step :=
  .backendFrame conn (makeHeader (linkTypeOf ServerID.kScene) 2 5 seq playerId ServerID.kScene
    ServerID.kGateway) []

def scenePush (conn : ConnName) (playerId : Nat) : Step :=
  .backendFrame conn (makeHeader (linkTypeOf ServerID.kScene) 3 1 0 playerId ServerID.kScene
    ServerID.kGateway) []

end Samples

end GatewayDispatcher

end Gateway
