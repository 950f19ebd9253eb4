import Mathlib.Logic.Relation
import GameServer.Gateway.Dispatcher
import GameServer.Gateway.SessionSpec
import GameServer.Gateway.RegistrySpec

/-!
# What a step of the gateway can do

Every step is a short chain of small effects: a frame is sent, a route is added
or ended, a task is queued or run. A login, a change of service and the close of
a client begin with a larger one. The properties of the gateway are proved effect
by effect.
-/

namespace Gateway

namespace GatewayDispatcher

variable {cfg : DispatcherConfig} {g g' : GatewayDispatcher}

/-- The session of the route is connected and authenticated under the route's epoch. -/
def Steady (g : GatewayDispatcher) (r : ReturnRoute) : Prop :=
  ∃ s, g.sessions.get r.clientSessionId = some s ∧ s.authed = true ∧ s.epoch = r.sessionEpoch ∧
    s.conn ∈ g.connected

/-- The endpoint is the scene channel of the session. -/
def Matches (cfg : DispatcherConfig) (s : ClientSession) (ep : ServiceEndpoint) : Prop :=
  ep.serviceId = ServerID.kScene ∧ ep.zoneId = cfg.zoneId ∧ ep.sceneId = s.sceneId ∧
    ep.channelId = s.backendChannelId ∧ ep.sceneIncarnation = s.sceneIncarnation ∧
    ep.connName = s.sceneConnName

/-- A scene request went to the scene channel of the session. -/
def Along (r : ReturnRoute) (s : ClientSession) : Prop :=
  r.backendServiceId = ServerID.kScene → r.backendSceneId = s.sceneId ∧
    r.backendChannelId = s.backendChannelId ∧ r.backendSceneIncarnation = s.sceneIncarnation ∧
    r.backendConnName = s.sceneConnName

/-- A session that can have a scene binding declared. -/
def Declarable (s : ClientSession) : Prop :=
  s.authed = true ∧ s.playerId ≠ 0 ∧ s.dstService = ServerID.kScene ∧ s.sceneId ≠ 0 ∧
    s.sceneConnName ≠ 0

instance (s : ClientSession) : Decidable (Declarable s) :=
  inferInstanceAs (Decidable (_ ∧ _))

/-- The small effects. -/
inductive Effect (cfg : DispatcherConfig) (g : GatewayDispatcher) : GatewayDispatcher → Prop
  | lost (conn : ConnName) : Effect cfg g (g.forceClose conn)
  | sent (d : ClientSend) (hcause : d.cause = .reply ∨ d.cause = .shout)
      (hkind : d.frame.head.kind ≠ .response) :
    Effect cfg g { g with toClients := g.toClients ++ [d] }
  | pushed (s : ClientSession) (frame : ClientFrame) (p : Nat)
      (hs : g.sessions.findByPlayer p = some s) (hkind : frame.head.kind = .push) :
    Effect cfg g
      { g with toClients := g.toClients ++
          [{ sessionId := s.sessionId
             holder := g.sessions.get s.sessionId
             frame := frame
             cause := .push p }] }
  | registry (services : ServiceRegistry)
      (h : g.services.Sane g.nextConnId →
        services.Sane g.nextConnId ∧ ServiceRegistry.Fewer g.services services) :
    Effect cfg g { g with services := services }
  | accepted : Effect cfg g g.onBackendConnected
  | opened :
    Effect cfg g
      { g with
        sessions := (g.sessions.create g.nextConnId cfg.defaultDstService).2
        nextConnId := g.nextConnId + 1
        connected := insert g.nextConnId g.connected }
  | assigned (sid sceneId channelId incarnation : Nat) (conn : ConnName) :
    Effect cfg g
      { g with sessions := g.sessions.setSceneBinding sid sceneId channelId incarnation conn }
  | skipped : Effect cfg g { g with nextSeq := g.nextSeq + 1 }
  | added (s : ClientSession) (ep : ServiceEndpoint) (dst : Nat) (h : ClientHeader) (nowMs : Int)
      (hs : g.sessions.get s.sessionId = some s) (hauthed : s.authed = true)
      (hscene : dst = ServerID.kScene → Matches cfg s ep ∧ s.sceneId ≠ 0) :
    Effect cfg g
      { g with
        nextSeq := g.nextSeq + 1
        routes := g.routes.insert g.nextSeq (returnRoute s ep dst h g.nextSeq nowMs)
        asked := g.asked ++
          [(returnRoute s ep dst h g.nextSeq nowMs, g.sessions.get s.sessionId)] }
  | answered (r : ReturnRoute) (s : ClientSession) (head : ClientHeader) (body : Bytes)
      (hr : g.routes.lookup r.internalSeq = some r)
      (hs : g.sessions.get r.clientSessionId = some s) (hauthed : s.authed = true)
      (hepoch : s.epoch = r.sessionEpoch) (hconn : s.conn ∈ g.connected)
      (hid : head.requestId = r.clientRequestId)
      (hkind : head.kind = .response ∨ head.kind = .error) :
    Effect cfg g
      { g with
        routes := g.routes.erase r.internalSeq
        toClients := g.toClients ++
          [{ sessionId := s.sessionId
             holder := g.sessions.get s.sessionId
             frame := { head, body }
             cause := .answer r }] }
  | dropped (r : ReturnRoute) (hr : g.routes.lookup r.internalSeq = some r)
      (why : ¬ Steady g r ∨ ∃ s, g.sessions.get r.clientSessionId = some s ∧ ¬ Along r s) :
    Effect cfg g { g with routes := g.routes.erase r.internalSeq }
  | swept (nowMs : Int) : Effect cfg g (g.sweepRoutes cfg nowMs)
  | queued (s : ClientSession) (ep : ServiceEndpoint) (frame : Option GateFrame) (seq : Nat)
      (hs : g.sessions.get s.sessionId = some s) (hdecl : Declarable s)
      (hep : g.boundEndpoint cfg s = some ep) (hseq : seq < g.nextSeq)
      (hroute : ∀ r, g.routes.lookup seq = some r →
        r.clientSessionId = s.sessionId ∧ r.sessionEpoch = s.epoch) :
    Effect cfg g
      (g.queueSceneSubmission
        { session := s, endpoint := ep, online := true, businessFrame := frame, seq := seq })
  | relayed (conn : ConnName) (frame : GateFrame) :
    Effect cfg g { g with toServices := g.toServices ++ [(conn, frame)] }
  | refused (conn : ConnName) (sub : SceneSubmission) (rest : List SceneSubmission)
      (hnext : nextTask conn g.loops = some (sub, rest))
      (why : g.ready sub.endpoint = false ∨ (sub.online = true ∧
        ∀ s, g.sessions.get sub.session.sessionId = some s →
          ClientSessionTable.current s sub.session = false)) :
    Effect cfg g { g with loops := rest }
  | broken (conn : ConnName) (sub : SceneSubmission) (rest : List SceneSubmission)
      (hnext : nextTask conn g.loops = some (sub, rest)) :
    Effect cfg g ({ g with loops := rest }.forceClose sub.endpoint.connName)
  | declared (conn : ConnName) (sub : SceneSubmission) (rest : List SceneSubmission)
      (s : ClientSession) (hnext : nextTask conn g.loops = some (sub, rest))
      (hready : g.ready sub.endpoint = true) (honline : sub.online = true)
      (hs : g.sessions.get sub.session.sessionId = some s)
      (hcur : ClientSessionTable.current s sub.session = true) :
    Effect cfg g
      { g with
        loops := rest
        sessions :=
          { g.sessions with
            sessions := g.sessions.sessions.insert sub.session.sessionId
              { s with sceneOnlineSubmitted := true } }
        toScenes := g.toScenes ++ sceneFrames cfg sub (!s.sceneOnlineSubmitted) }
  | withdrawn (conn : ConnName) (sub : SceneSubmission) (rest : List SceneSubmission)
      (hnext : nextTask conn g.loops = some (sub, rest))
      (hready : g.ready sub.endpoint = true) (honline : sub.online = false) :
    Effect cfg g
      { g with
        loops := rest
        toScenes := g.toScenes ++ sceneFrames cfg sub false }

/-- A chain of small effects. -/
abbrev Effects (cfg : DispatcherConfig) : GatewayDispatcher → GatewayDispatcher → Prop :=
  Relation.ReflTransGen (Effect cfg)

/-- The player an `Auth` frame makes the session's, if it is one and is accepted. -/
def authPlayer (cfg : DispatcherConfig) (h : ClientHeader) (body : Bytes) : Option Nat :=
  if h.kind = .control ∧ h.module = kClientSysModule ∧ h.method = ClientSysMethod.kAuth then
    (authenticate cfg body).toOption
  else none

/-- The service a `BindService` frame makes the session's, if it is one and is accepted. -/
def switchTo (cfg : DispatcherConfig) (h : ClientHeader) (body : Bytes) : Option Nat :=
  if h.kind = .control ∧ h.module = kClientSysModule ∧ h.method = ClientSysMethod.kBindService then
    wantedService cfg body
  else none

/-- A login up to its answer: the older session of the player has gone, and the binding that the
session kept is declared. -/
def relogged (cfg : DispatcherConfig) (g : GatewayDispatcher) (t : ClientSessionTable)
    (kicked : Nat) (cur : ClientSession) : GatewayDispatcher :=
  ({ g with sessions := t }.kick kicked).notifySceneBinding cfg cur true

/-- The large effects, each the first of its step. -/
inductive Major (cfg : DispatcherConfig) (g : GatewayDispatcher) :
    Step → GatewayDispatcher → Prop
  | closed (sid : Nat) (hconn : ∀ s, g.sessions.get sid = some s → s.conn ∉ g.connected) :
    Major cfg g (.clientClosed sid) (g.onClientClosed cfg sid)
  | login {sid : Nat} {h : ClientHeader} {body : Bytes} {nowMs : Int} (s : ClientSession)
      (p dst kicked : Nat) (t : ClientSessionTable) (hp : authPlayer cfg h body = some p)
      (hdst : s.dstService ≠ 0 → dst = s.dstService)
      (hbound : ClientSessionTable.Bound g.sessions t sid p dst kicked s) :
    Major cfg g (.clientFrame sid h body nowMs)
      (relogged cfg g t kicked (s.bound p dst (g.sessions.lastEpoch p + 1)))
  | switched {sid : Nat} {h : ClientHeader} {body : Bytes} {nowMs : Int} (s s' : ClientSession)
      (service : Nat) (t : ClientSessionTable) (hservice : switchTo cfg h body = some service)
      (hauthed : s.authed = true) (hne : s.dstService ≠ service)
      (hswitched : ClientSessionTable.Switched g.sessions t sid service s s') :
    Major cfg g (.clientFrame sid h body nowMs)
      ({ g with sessions := t }.notifySceneBinding cfg s false)

/-- The first task of a connection is taken out of the queue, the others stay. -/
theorem nextTask_spec {conn : ConnName} {loops rest : List SceneSubmission} {sub : SceneSubmission}
    (h : nextTask conn loops = some (sub, rest)) :
    sub.endpoint.connName = conn ∧ ∃ before after, loops = before ++ sub :: after ∧
      rest = before ++ after := by
  induction loops generalizing rest with
  | nil => cases h
  | cons x loops ih =>
    unfold nextTask at h
    split at h
    · rename_i hconn
      cases h
      exact ⟨hconn, [], _, rfl, rfl⟩
    · obtain ⟨⟨sub', rest'⟩, hrest, heq⟩ := Option.map_eq_some_iff.mp h
      cases heq
      obtain ⟨hconn, before, after, rfl, rfl⟩ := ih hrest
      exact ⟨hconn, x :: before, after, rfl, rfl⟩

theorem mem_of_nextTask {conn : ConnName} {loops rest : List SceneSubmission}
    {sub : SceneSubmission} (h : nextTask conn loops = some (sub, rest)) :
    sub ∈ loops ∧ ∀ x ∈ rest, x ∈ loops := by
  obtain ⟨_, before, after, rfl, rfl⟩ := nextTask_spec h
  refine ⟨by simp, fun x hx => ?_⟩
  rcases List.mem_append.mp hx with hx | hx <;> simp [hx]

/-- The well-formedness of a queued task. -/
structure Task (cfg : DispatcherConfig) (g : GatewayDispatcher) (sub : SceneSubmission) : Prop where
  declarable : Declarable sub.session
  incarnation : sub.session.sceneIncarnation ≠ 0
  matched : Matches cfg sub.session sub.endpoint
  known : g.services.pendingConn.lookup sub.endpoint.connName = none ∧
    sub.endpoint.connName < g.nextConnId
  session : sub.session.sessionId < g.sessions.nextSessionId
  plain : sub.online = false → sub.businessFrame = none
  route : sub.seq ≠ 0 → sub.seq < g.nextSeq ∧ ∀ r, g.routes.lookup sub.seq = some r →
    r.clientSessionId = sub.session.sessionId ∧ r.sessionEpoch = sub.session.epoch

/-- The gateway is well formed. -/
structure Sane (cfg : DispatcherConfig) (g : GatewayDispatcher) : Prop where
  sessions : g.sessions.Sane
  services : g.services.Sane g.nextConnId
  nextConn : 0 < g.nextConnId
  nextSeq : 0 < g.nextSeq
  conns : ∀ conn ∈ g.connected, conn < g.nextConnId
  routes : ∀ seq r, g.routes.lookup seq = some r →
    r.internalSeq = seq ∧ 0 < seq ∧ seq < g.nextSeq ∧ r.clientSessionId < g.sessions.nextSessionId
  tasks : ∀ sub ∈ g.loops, Task cfg g sub

theorem sane_init : Sane cfg (init cfg) where
  sessions := ClientSessionTable.sane_init
  services := ServiceRegistry.sane_new _
  nextConn := Nat.zero_lt_one
  nextSeq := Nat.zero_lt_one
  conns := by simp [init]
  routes := by simp [init]
  tasks := by simp [init]

/-- The error that tells the session of a route that its request took too long. -/
def timeOutSend (g : GatewayDispatcher) (route : ReturnRoute) : Option ClientSend :=
  ((g.sessions.get route.clientSessionId).filter fun s =>
      s.authed ∧ s.epoch = route.sessionEpoch ∧ s.conn ∈ g.connected).map fun s =>
    { sessionId := s.sessionId
      holder := g.sessions.get s.sessionId
      frame :=
        { head :=
            { kind := .error, module := route.module, method := route.method
              requestId := route.clientRequestId }
          body := text "request timeout" }
      cause := .answer route }

theorem timeOut_eq (g : GatewayDispatcher) (route : ReturnRoute) :
    g.timeOut route = { g with toClients := g.toClients ++ (g.timeOutSend route).toList } := by
  unfold timeOut timeOutSend
  cases hs : g.sessions.get route.clientSessionId with
  | none => simp
  | some s =>
    by_cases hlive : s.authed = true ∧ s.epoch = route.sessionEpoch
    · by_cases hconn : s.conn ∈ g.connected <;>
        simp [sendToClient, hlive, hconn, Option.filter]
    · have hoff : ¬ (s.authed = true ∧ s.epoch = route.sessionEpoch ∧ s.conn ∈ g.connected) :=
        fun h => hlive ⟨h.1, h.2.1⟩
      simp [hlive, hoff, Option.filter]

/-- A sweep takes the expired routes and sends an error for each that is still wanted. -/
theorem sweepRoutes_eq (g : GatewayDispatcher) (nowMs : Int) :
    g.sweepRoutes cfg nowMs = { g with
      routes := g.routes.keep fun _ r => !ReturnRouteTable.expired nowMs cfg.routeTtlMs r
      toClients := g.toClients ++
        ((g.routes.entries.map (·.2)).filter
          (ReturnRouteTable.expired nowMs cfg.routeTtlMs)).filterMap g.timeOutSend } := by
  have hfold : ∀ (rs : List ReturnRoute) (x : GatewayDispatcher), x.sessions = g.sessions →
      x.connected = g.connected →
      rs.foldl timeOut x = { x with toClients := x.toClients ++ rs.filterMap g.timeOutSend } := by
    intro rs
    induction rs with
    | nil => simp
    | cons r rs ih =>
      intro x hsess hconn
      have hsend : x.timeOutSend r = g.timeOutSend r := by
        unfold timeOutSend
        rw [hsess, hconn]
      rw [List.foldl_cons, timeOut_eq, ih _ (by exact hsess) (by exact hconn), hsend]
      cases hr : g.timeOutSend r <;> simp [hr]
  unfold sweepRoutes
  exact hfold _ _ rfl rfl

section Sane

/-- Identities, routes and tasks may only go or be new. -/
theorem Sane.frame (h : Sane cfg g) (hsessions : g'.sessions.Sane)
    (hservices : g'.services.Sane g'.nextConnId)
    (hids : g.sessions.nextSessionId ≤ g'.sessions.nextSessionId)
    (hnames : g.nextConnId ≤ g'.nextConnId) (hseqs : g.nextSeq ≤ g'.nextSeq)
    (hpending : ∀ name < g.nextConnId, g.services.pendingConn.lookup name = none →
      g'.services.pendingConn.lookup name = none)
    (hconns : ∀ conn ∈ g'.connected, conn ∈ g.connected ∨ conn < g'.nextConnId)
    (hroutes : ∀ seq r, g'.routes.lookup seq = some r → g.routes.lookup seq = some r ∨
      (g.nextSeq ≤ seq ∧ r.internalSeq = seq ∧ seq < g'.nextSeq ∧
        r.clientSessionId < g'.sessions.nextSessionId))
    (htasks : ∀ sub ∈ g'.loops, sub ∈ g.loops ∨ Task cfg g' sub) : Sane cfg g' where
  sessions := hsessions
  services := hservices
  nextConn := Nat.lt_of_lt_of_le h.nextConn hnames
  nextSeq := Nat.lt_of_lt_of_le h.nextSeq hseqs
  conns := fun conn hc => by
    rcases hconns conn hc with hold | hnew
    · exact Nat.lt_of_lt_of_le (h.conns conn hold) hnames
    · exact hnew
  routes := fun seq r hr => by
    rcases hroutes seq r hr with hold | ⟨hge, hkey, hlt, hid⟩
    · obtain ⟨hkey, hpos, hlt, hid⟩ := h.routes seq r hold
      exact ⟨hkey, hpos, Nat.lt_of_lt_of_le hlt hseqs, Nat.lt_of_lt_of_le hid hids⟩
    · exact ⟨hkey, Nat.lt_of_lt_of_le h.nextSeq hge, hlt, hid⟩
  tasks := fun sub hsub => by
    rcases htasks sub hsub with hold | hnew
    · have ht := h.tasks sub hold
      refine ⟨ht.declarable, ht.incarnation, ht.matched,
        ⟨hpending _ ht.known.2 ht.known.1, Nat.lt_of_lt_of_le ht.known.2 hnames⟩,
        Nat.lt_of_lt_of_le ht.session hids, ht.plain, fun hseq => ?_⟩
      obtain ⟨hlt, hroute⟩ := ht.route hseq
      refine ⟨Nat.lt_of_lt_of_le hlt hseqs, fun r hr => ?_⟩
      rcases hroutes _ r hr with hr | ⟨hge, _⟩
      · exact hroute r hr
      · omega
    · exact hnew

theorem fewer_pending {reg reg' : ServiceRegistry} (h : ServiceRegistry.Fewer reg reg')
    {name : ConnName} (hnone : reg.pendingConn.lookup name = none) :
    reg'.pendingConn.lookup name = none := by
  cases hu : reg'.pendingConn.lookup name with
  | none => rfl
  | some u => cases hnone.symm.trans (h.pending name hu)

/-- An endpoint that a session is bound to is registered and the session's channel. -/
theorem boundEndpoint_spec (hservices : g.services.Sane g.nextConnId) {s : ClientSession}
    {ep : ServiceEndpoint} (h : g.boundEndpoint cfg s = some ep) :
    Matches cfg s ep ∧ g.services.byName.lookup ep.connName = some ep := by
  obtain ⟨hep, hmatch⟩ := Option.filter_eq_some_iff.mp h
  have hname := hservices.getByName_key hep
  simp only [decide_eq_true_eq] at hmatch
  obtain ⟨h1, h2, h3, h4, h5⟩ := hmatch
  refine ⟨⟨h1, h2, h3, h4, h5, hname⟩, ?_⟩
  rw [hname]
  refine ServiceRegistry.getByName_registered hep ?_
  rw [h1]
  decide

theorem boundEndpoint_of_ready {s : ClientSession} {ep : ServiceEndpoint}
    (hready : g.ready ep = true) (hmatch : Matches cfg s ep) : g.boundEndpoint cfg s = some ep := by
  obtain ⟨_, hep⟩ := of_decide_eq_true hready
  obtain ⟨h1, h2, h3, h4, h5, h6⟩ := hmatch
  refine Option.filter_eq_some_iff.mpr ⟨h6 ▸ hep, ?_⟩
  simp [h1, h2, h3, h4, h5]

/-- A task for a session and its own channel. -/
theorem Sane.task (h : Sane cfg g) {s : ClientSession} {ep : ServiceEndpoint} {online : Bool}
    {frame : Option GateFrame} {seq : Nat} (hs : s.sessionId < g.sessions.nextSessionId)
    (hinc : s.sceneIncarnation ≠ 0) (hdecl : Declarable s) (hep : g.boundEndpoint cfg s = some ep)
    (hplain : online = false → frame = none)
    (hroute : seq ≠ 0 → seq < g.nextSeq ∧ ∀ r, g.routes.lookup seq = some r →
      r.clientSessionId = s.sessionId ∧ r.sessionEpoch = s.epoch) :
    Task cfg g { session := s, endpoint := ep, online, businessFrame := frame, seq } := by
  obtain ⟨hmatch, hreg⟩ := boundEndpoint_spec h.services hep
  exact ⟨hdecl, hinc, hmatch, ⟨h.services.disjoint _ _ hreg, (h.services.named _ _ hreg).2⟩, hs,
    hplain, hroute⟩

/-- The task of `NotifySceneBinding`, if the session has a binding to declare. -/
def bindingTask (cfg : DispatcherConfig) (g : GatewayDispatcher) (s : ClientSession)
    (online : Bool) : Option SceneSubmission :=
  if Declarable s then
    (g.boundEndpoint cfg s).map fun ep => { session := s, endpoint := ep, online }
  else none

theorem notifySceneBinding_eq (g : GatewayDispatcher) (s : ClientSession) (online : Bool) :
    g.notifySceneBinding cfg s online =
      { g with loops := g.loops ++ (bindingTask cfg g s online).toList } := by
  unfold notifySceneBinding bindingTask
  by_cases hdecl : Declarable s
  · rw [if_neg, if_pos hdecl]
    · cases g.boundEndpoint cfg s <;> simp [queueSceneSubmission]
    · obtain ⟨h1, h2, h3, h4, h5⟩ := hdecl
      simp [h1, h2, h3, h4, h5]
  · rw [if_pos, if_neg hdecl]
    · simp
    · by_contra hno
      simp only [not_or, Bool.not_eq_true', Bool.not_eq_false, not_not] at hno
      exact hdecl ⟨hno.1, hno.2.1, hno.2.2.1, hno.2.2.2.1, hno.2.2.2.2⟩

theorem Effect.sane (heff : Effect cfg g g') (h : Sane cfg g) : Sane cfg g' := by
  cases heff with
  | lost conn =>
    exact h.frame h.sessions h.services le_rfl le_rfl le_rfl (fun _ _ => id)
      (fun _ hc => .inl (Finset.mem_of_mem_erase hc)) (fun _ _ => .inl) fun _ => .inl
  | sent d hcause hkind =>
    exact h.frame h.sessions h.services le_rfl le_rfl le_rfl (fun _ _ => id) (fun _ => .inl) (fun _ _ => .inl)
      fun _ => .inl
  | pushed s frame p hs hkind =>
    exact h.frame h.sessions h.services le_rfl le_rfl le_rfl (fun _ _ => id) (fun _ => .inl) (fun _ _ => .inl)
      fun _ => .inl
  | registry services hreg =>
    obtain ⟨hsane, hfewer⟩ := hreg h.services
    exact h.frame h.sessions hsane le_rfl le_rfl le_rfl (fun _ _ => fewer_pending hfewer)
      (fun _ => .inl) (fun _ _ => .inl) fun _ => .inl
  | accepted =>
    refine h.frame h.sessions (h.services.addPending h.nextConn).1 le_rfl (Nat.le_succ _) le_rfl
      (fun name hlt hnone => ?_) (fun conn hc => ?_) (fun _ _ => .inl) fun _ => .inl
    · exact ServiceRegistry.addPending_other (Nat.ne_of_lt hlt) hnone
    · rcases Finset.mem_insert.mp hc with rfl | hc
      · exact .inr (Nat.lt_succ_self _)
      · exact .inl hc
  | opened =>
    refine h.frame (h.sessions.create _ _) (h.services.mono (Nat.le_succ _)) (Nat.le_succ _)
      (Nat.le_succ _) le_rfl (fun _ _ => id) (fun conn hc => ?_) (fun _ _ => .inl) fun _ => .inl
    rcases Finset.mem_insert.mp hc with rfl | hc
    · exact .inr (Nat.lt_succ_self _)
    · exact .inl hc
  | assigned sid sceneId channelId incarnation conn =>
    refine h.frame (h.sessions.setSceneBinding _ _ _ _ _) h.services ?_ le_rfl le_rfl
      (fun _ _ => id) (fun _ => .inl) (fun _ _ => .inl) fun _ => .inl
    exact Nat.le_of_eq (ClientSessionTable.nextSessionId_setSceneBinding _ _ _ _ _ _).symm
  | skipped =>
    exact h.frame h.sessions h.services le_rfl le_rfl (Nat.le_succ _) (fun _ _ => id)
      (fun _ => .inl) (fun _ _ => .inl) fun _ => .inl
  | added s ep dst hd nowMs hs hauthed hscene =>
    refine h.frame h.sessions h.services le_rfl le_rfl (Nat.le_succ _) (fun _ _ => id)
      (fun _ => .inl) (fun seq r hr => ?_) fun _ => .inl
    rw [Table.lookup_insert] at hr
    split at hr
    · rename_i hseq
      cases hr
      rw [hseq]
      exact .inr ⟨le_rfl, rfl, Nat.lt_succ_self _, (h.sessions.key _ s hs).2.2⟩
    · exact .inl hr
  | answered r s head body hr hs hauthed hepoch hconn hid hkind =>
    exact h.frame h.sessions h.services le_rfl le_rfl le_rfl (fun _ _ => id) (fun _ => .inl)
      (fun seq r hr => .inl (ReturnRouteTable.of_erase hr).1) fun _ => .inl
  | dropped r hr why =>
    exact h.frame h.sessions h.services le_rfl le_rfl le_rfl (fun _ _ => id) (fun _ => .inl)
      (fun seq r hr => .inl (ReturnRouteTable.of_erase hr).1) fun _ => .inl
  | swept nowMs =>
    rw [sweepRoutes_eq]
    refine h.frame h.sessions h.services le_rfl le_rfl le_rfl (fun _ _ => id) (fun _ => .inl)
      (fun seq r hr => .inl ?_) fun _ => .inl
    rw [Table.lookup_keep, Option.filter_eq_some_iff] at hr
    exact hr.1
  | queued s ep frame seq hs hdecl hep hseq hroute =>
    refine h.frame h.sessions h.services le_rfl le_rfl le_rfl (fun _ _ => id) (fun _ => .inl) (fun _ _ => .inl)
      fun sub hsub => ?_
    rcases List.mem_append.mp hsub with hsub | hsub
    · exact .inl hsub
    · rw [List.mem_singleton] at hsub
      subst hsub
      have hkey := h.sessions.key _ s hs
      have hscene := h.sessions.scene _ s hs (.inr hdecl.2.2.2.1)
      have ht : Task cfg g
          { session := s, endpoint := ep, online := true, businessFrame := frame, seq } :=
        h.task hkey.2.2 hscene.2.2.2 hdecl hep nofun fun _ => ⟨hseq, hroute⟩
      exact .inr ⟨ht.declarable, ht.incarnation, ht.matched, ht.known, ht.session, ht.plain, ht.route⟩
  | relayed conn frame =>
    exact h.frame h.sessions h.services le_rfl le_rfl le_rfl (fun _ _ => id) (fun _ => .inl) (fun _ _ => .inl)
      fun _ => .inl
  | refused conn sub rest hnext why =>
    exact h.frame h.sessions h.services le_rfl le_rfl le_rfl (fun _ _ => id) (fun _ => .inl) (fun _ _ => .inl)
      fun x hx => .inl ((mem_of_nextTask hnext).2 x hx)
  | broken conn sub rest hnext =>
    exact h.frame h.sessions h.services le_rfl le_rfl le_rfl (fun _ _ => id)
      (fun _ hc => .inl (Finset.mem_of_mem_erase hc)) (fun _ _ => .inl)
      fun x hx => .inl ((mem_of_nextTask hnext).2 x hx)
  | declared conn sub rest s hnext hready honline hs hcur =>
    refine h.frame (h.sessions.replace hs rfl rfl rfl rfl (h.sessions.scene _ s hs)) h.services
      le_rfl le_rfl le_rfl (fun _ _ => id) (fun _ => .inl) (fun _ _ => .inl)
      fun x hx => .inl ((mem_of_nextTask hnext).2 x hx)
  | withdrawn conn sub rest hnext hready honline =>
    exact h.frame h.sessions h.services le_rfl le_rfl le_rfl (fun _ _ => id) (fun _ => .inl) (fun _ _ => .inl)
      fun x hx => .inl ((mem_of_nextTask hnext).2 x hx)

end Sane

section Sessions

/-- What a small effect leaves of a session: a scene is given, but never taken away. -/
structure Kept (s s' : ClientSession) : Prop where
  sessionId : s'.sessionId = s.sessionId
  conn : s'.conn = s.conn
  authed : s'.authed = s.authed
  playerId : s'.playerId = s.playerId
  epoch : s'.epoch = s.epoch
  dstService : s'.dstService = s.dstService
  scene : s.sceneId ≠ 0 → s'.sceneId = s.sceneId ∧ s'.backendChannelId = s.backendChannelId ∧
    s'.sceneIncarnation = s.sceneIncarnation ∧ s'.sceneConnName = s.sceneConnName
  submitted : s.sceneOnlineSubmitted = true → s'.sceneOnlineSubmitted = true

theorem Kept.refl (s : ClientSession) : Kept s s :=
  ⟨rfl, rfl, rfl, rfl, rfl, rfl, fun _ => ⟨rfl, rfl, rfl, rfl⟩, id⟩

/-- After an effect a session is new or one that was there before. -/
theorem Effect.session (heff : Effect cfg g g') {id : Nat} {s' : ClientSession}
    (hs' : g'.sessions.get id = some s') :
    (id = g.sessions.nextSessionId ∧ s'.conn = g.nextConnId ∧ g'.nextConnId = g.nextConnId + 1) ∨
      ∃ s, g.sessions.get id = some s ∧ Kept s s' := by
  have hsame : g'.sessions = g.sessions → ∃ s, g.sessions.get id = some s ∧ Kept s s' :=
    fun heq => ⟨s', heq ▸ hs', .refl s'⟩
  cases heff with
  | opened =>
    rw [ClientSessionTable.get_create] at hs'
    split at hs'
    · rename_i hid
      cases hs'
      exact .inl ⟨hid, rfl, rfl⟩
    · exact .inr ⟨s', hs', .refl s'⟩
  | assigned sid sceneId channelId incarnation conn =>
    rcases g.sessions.setSceneBinding_cases sid sceneId channelId incarnation conn with
      heq | ⟨_, _, _, s, hs, _, _, hnone, heq⟩
    · exact .inr (hsame heq)
    · rw [heq] at hs'
      simp only [ClientSessionTable.get, Table.lookup_insert] at hs'
      split at hs'
      · rename_i hid
        cases hs'
        exact .inr ⟨s, hid ▸ hs, rfl, rfl, rfl, rfl, rfl, rfl, fun hne => absurd hnone hne, fun h => h⟩
      · exact .inr ⟨s', hs', .refl s'⟩
  | declared conn sub rest s hnext hready honline hs hcur =>
    simp only [ClientSessionTable.get, Table.lookup_insert] at hs'
    split at hs'
    · rename_i hid
      cases hs'
      exact .inr ⟨s, hid ▸ hs, rfl, rfl, rfl, rfl, rfl, rfl, fun _ => ⟨rfl, rfl, rfl, rfl⟩,
        fun _ => rfl⟩
    · exact .inr ⟨s', hs', .refl s'⟩
  | swept nowMs =>
    rw [sweepRoutes_eq] at hs'
    exact .inr ⟨s', hs', .refl s'⟩
  | _ => exact .inr (hsame rfl)

theorem Effect.nextConnId_le (heff : Effect cfg g g') : g.nextConnId ≤ g'.nextConnId := by
  cases heff with
  | accepted => exact Nat.le_succ _
  | opened => exact Nat.le_succ _
  | swept nowMs =>
    rw [sweepRoutes_eq]
  | _ => exact le_rfl

/-- Connections are lost, or new under a number that was never used. -/
theorem Effect.connected (heff : Effect cfg g g') {conn : ConnName} (hconn : conn ∈ g'.connected) :
    conn ∈ g.connected ∨ conn = g.nextConnId := by
  cases heff with
  | lost c => exact .inl (Finset.mem_of_mem_erase hconn)
  | broken c sub rest hnext => exact .inl (Finset.mem_of_mem_erase hconn)
  | accepted => exact (Finset.mem_insert.mp hconn).symm
  | opened => exact (Finset.mem_insert.mp hconn).symm
  | swept nowMs =>
    rw [sweepRoutes_eq] at hconn
    exact .inl hconn
  | _ => exact .inl hconn

end Sessions

end GatewayDispatcher

end Gateway
