import Mathlib.Data.Finset.Basic
import GameServer.Gateway.Registry

/-!
# The gateway dispatcher

A step of the gateway handles one decoded frame, one connection event, one sweep
or one task of an event loop. What is submitted to a scene is queued in the loop of
the scene's connection; tasks of one connection run in order.
-/

namespace Gateway

structure DispatcherConfig where
  selfServiceId : Nat := 1
  zoneId : Nat := 1
  gatewayId : Nat := 1
  backendChannels : Nat := 1
  defaultDstService : Nat := 8
  defaultSceneId : Nat := 0
  allowedServices : List Nat := []
  clientToken : Nat := 0
  maxClientSessions : Nat := 4096
  maxPendingRoutes : Nat := 10000
  routeTtlMs : Nat := 15000

/-- What a task of `QueueSceneSubmission` has captured; `seq` is 0 without a request. -/
structure SceneSubmission where
  session : ClientSession
  endpoint : ServiceEndpoint
  online : Bool
  businessFrame : Option GateFrame := none
  seq : Nat := 0
  deriving DecidableEq, Repr

inductive SceneFrameKind where
  | online | offline | business
  deriving DecidableEq, Repr

/-- A frame that was written to a scene connection. -/
structure SceneFrame where
  endpoint : ServiceEndpoint
  kind : SceneFrameKind
  client : ClientData
  frame : GateFrame
  deriving DecidableEq, Repr

/-- Why a frame was sent to a client. -/
inductive Cause where
  | reply
  | answer (route : ReturnRoute)
  | push (playerId : Nat)
  | shout
  deriving DecidableEq, Repr

/-- A frame that was written to the connection of a session; `holder` is the session as the
table had it then. -/
structure ClientSend where
  sessionId : Nat
  holder : Option ClientSession
  frame : ClientFrame
  cause : Cause
  deriving DecidableEq, Repr

/-- The state of the gateway. The last four fields are no part of the program: they record what
was written to clients, scenes and other services, and the requests a route was added for
together with the session that asked. -/
structure GatewayDispatcher where
  sessions : ClientSessionTable := {}
  services : ServiceRegistry
  routes : ReturnRouteTable := ∅
  nextSeq : Nat := 1
  nextConnId : Nat := 1
  connected : Finset ConnName := ∅
  loops : List SceneSubmission := []
  toClients : List ClientSend := []
  toScenes : List SceneFrame := []
  toServices : List (ConnName × GateFrame) := []
  asked : List (ReturnRoute × Option ClientSession) := []

namespace GatewayDispatcher

variable (cfg : DispatcherConfig) (g : GatewayDispatcher)

def init : GatewayDispatcher := { services := .new cfg.backendChannels }

def isAllowedService (serviceId : Nat) : Bool := serviceId ∈ cfg.allowedServices

/-- `forceClose`: the close callback follows as a step of its own. -/
def forceClose (conn : ConnName) : GatewayDispatcher :=
  { g with connected := g.connected.erase conn }

def sendToClient (s : ClientSession) (head : ClientHeader) (body : Bytes) (cause : Cause) :
    GatewayDispatcher :=
  if s.conn ∈ g.connected then
    { g with toClients := g.toClients ++
        [{ sessionId := s.sessionId
           holder := g.sessions.get s.sessionId
           frame := { head, body }
           cause := cause }] }
  else g

def rejectClient (s : ClientSession) (requestId method : Nat) (reason : String) (cause : Cause) :
    GatewayDispatcher :=
  g.sendToClient s { kind := .error, module := kClientSysModule, method, requestId }
    (text reason) cause

/-- The endpoint a session is bound to, if it is still that endpoint. -/
def boundEndpoint (s : ClientSession) : Option ServiceEndpoint :=
  (g.services.getByChannel s.sceneConnName).filter fun ep =>
    ep.serviceId = ServerID.kScene ∧ ep.zoneId = cfg.zoneId ∧ ep.sceneId = s.sceneId ∧
      ep.channelId = s.backendChannelId ∧ ep.sceneIncarnation = s.sceneIncarnation

def queueSceneSubmission (sub : SceneSubmission) : GatewayDispatcher :=
  { g with loops := g.loops ++ [sub] }

def notifySceneBinding (s : ClientSession) (online : Bool) : GatewayDispatcher :=
  if !s.authed ∨ s.playerId = 0 ∨ s.dstService ≠ ServerID.kScene ∨ s.sceneId = 0 ∨
      s.sceneConnName = 0 then g
  else match g.boundEndpoint cfg s with
    | none => g
    | some ep => g.queueSceneSubmission { session := s, endpoint := ep, online }

def clientData (s : ClientSession) (ep : ServiceEndpoint) : ClientData :=
  ⟨s.playerId, s.sessionId, s.epoch, cfg.gatewayId, ep.sceneId⟩

def bindingFrame (s : ClientSession) (ep : ServiceEndpoint) (online : Bool) : SceneFrame where
  endpoint := ep
  kind := if online then .online else .offline
  client := clientData cfg s ep
  frame :=
    { head := makeHeader (linkTypeOf ep.serviceId) GatewayPlayer.kModule
        (if online then GatewayPlayer.kOnline else GatewayPlayer.kOffline) 0 s.playerId
        cfg.selfServiceId ep.serviceId
      body := GatewayPlayer.pack (clientData cfg s ep) [] }

/-- The endpoint is still the registered one and its connection is up. -/
def ready (ep : ServiceEndpoint) : Bool :=
  ep.connName ∈ g.connected ∧ g.services.getByChannel ep.connName = some ep

/-- The frames of a submission, the declaration of the binding before the business frame. -/
def sceneFrames (sub : SceneSubmission) (declareOnline : Bool) : List SceneFrame :=
  (if !sub.online || declareOnline then [bindingFrame cfg sub.session sub.endpoint sub.online]
    else []) ++
  match sub.businessFrame with
  | none => []
  | some frame =>
    [{ endpoint := sub.endpoint
       kind := .business
       client := clientData cfg sub.session sub.endpoint
       frame := frame }]

/-- The request of a submission that was refused gets its error. -/
def refuseSubmission (sub : SceneSubmission) : GatewayDispatcher :=
  if sub.seq = 0 then g
  else match g.routes.take sub.seq with
    | none => g
    | some (route, routes) =>
      let g := { g with routes := routes }
      match g.sessions.get sub.session.sessionId with
      | none => g
      | some current =>
        if current.authed ∧ current.epoch = sub.session.epoch then
          g.rejectClient current route.clientRequestId route.method
            "scene submission unavailable or stale binding" (.answer route)
        else g

/-- The task of a submission. A send that fails closes the connection. -/
def runSubmission (sub : SceneSubmission) (sendOk : Bool) : GatewayDispatcher :=
  let submit := fun declareOnline =>
    if g.ready sub.endpoint then some (sceneFrames cfg sub declareOnline) else none
  let attempt :=
    if sub.online then g.sessions.submitScene sub.session submit
    else (submit false).map fun frames => (frames, g.sessions)
  match attempt with
  | none => g.refuseSubmission sub
  | some (frames, sessions) =>
    if frames ≠ [] ∧ !sendOk then
      (g.forceClose sub.endpoint.connName).refuseSubmission sub
    else { g with sessions := sessions, toScenes := g.toScenes ++ frames }

/-- The first task of the connection's loop, and the tasks that remain. -/
def nextTask (conn : ConnName) :
    List SceneSubmission → Option (SceneSubmission × List SceneSubmission)
  | [] => none
  | sub :: rest =>
    if sub.endpoint.connName = conn then some (sub, rest)
    else (nextTask conn rest).map fun out => (out.1, sub :: out.2)

def onClientConnected : GatewayDispatcher :=
  let conn := g.nextConnId
  let (_, sessions) := g.sessions.create conn cfg.defaultDstService
  let g := { g with
    sessions := sessions
    nextConnId := conn + 1
    connected := insert conn g.connected }
  if cfg.maxClientSessions < sessions.sessions.size then g.forceClose conn else g

def onClientClosed (sessionId : Nat) : GatewayDispatcher :=
  let g := match g.sessions.get sessionId with
    | none => g
    | some s => g.notifySceneBinding cfg s false
  { g with
    sessions := g.sessions.erase sessionId
    routes := g.routes.eraseBySession sessionId }

/-- The session that gave way to a newer login loses its routes, its connection and itself. -/
def kick (kicked : Nat) : GatewayDispatcher :=
  if kicked = 0 then g
  else
    let g := { g with routes := g.routes.eraseBySession kicked }
    let g := match g.sessions.get kicked with
      | none => g
      | some old => g.forceClose old.conn
    { g with sessions := g.sessions.erase kicked }

/-- What a control frame of the client is answered with. -/
def control (method requestId : Nat) : ClientHeader :=
  { kind := .control, module := kClientSysModule, method, requestId }

/-- The player an `Auth` body stands for, or why it is refused and whether that is final. -/
def authenticate (body : Bytes) : Except (String × Bool) Nat :=
  match parseAuthBody body with
  | none => .error ("bad auth body", false)
  | some (playerId, ticket) =>
    if playerId = 0 then .error ("bad auth body", false)
    else if cfg.clientToken ≠ 0 ∧ ticket ≠ cfg.clientToken then .error ("bad ticket", true)
    else .ok playerId

/-- A successful `Auth`. -/
def login (s : ClientSession) (h : ClientHeader) (playerId : Nat) : GatewayDispatcher :=
  let dst := if s.dstService ≠ 0 then s.dstService else cfg.defaultDstService
  match g.sessions.bind s.sessionId playerId dst with
  | none => g
  | some (kicked, sessions) =>
    let g := { g with sessions := sessions }.kick kicked
    match g.sessions.get s.sessionId with
    | none => g
    | some cur =>
      (g.notifySceneBinding cfg cur true).sendToClient cur
        (control ClientSysMethod.kAuthAck h.requestId)
        (makeAuthAckBody playerId s.sessionId cur.epoch cfg.zoneId cur.dstService) .reply

def handleAuth (s : ClientSession) (h : ClientHeader) (body : Bytes) : GatewayDispatcher :=
  match authenticate cfg body with
  | .error (reason, final) =>
    let g := g.rejectClient s h.requestId ClientSysMethod.kAuthFail reason .reply
    if final then g.forceClose s.conn else g
  | .ok playerId => g.login cfg s h playerId

/-- The service a session asks for and may have. -/
def wantedService (body : Bytes) : Option Nat :=
  (parseServiceBody body).filter (isAllowedService cfg)

/-- A permitted `BindService`. -/
def switchService (s : ClientSession) (h : ClientHeader) (serviceId : Nat) : GatewayDispatcher :=
  match g.sessions.setDstService s.sessionId serviceId with
  | none => g.rejectClient s h.requestId h.method "cannot update service binding" .reply
  | some sessions =>
    let g := { g with sessions := sessions }
    let g := if serviceId ≠ s.dstService then g.notifySceneBinding cfg s false else g
    let g := match g.sessions.get s.sessionId with
      | none => g
      | some current => g.notifySceneBinding cfg current true
    g.sendToClient s (control ClientSysMethod.kBindServiceAck h.requestId)
      (makeServiceBody serviceId) .reply

def handleBindService (s : ClientSession) (h : ClientHeader) (body : Bytes) :
    GatewayDispatcher :=
  if !s.authed then
    g.rejectClient s h.requestId ClientSysMethod.kBindService "not authenticated" .reply
  else match wantedService cfg body with
    | none =>
      g.rejectClient s h.requestId ClientSysMethod.kBindService "service not allowed" .reply
    | some serviceId => g.switchService cfg s h serviceId

/-- Try the instances in turn until one has a channel. -/
def selectInstance (reg : ServiceRegistry) (dst zoneId : Nat) :
    List ServiceEndpoint → Option ServiceEndpoint × ServiceRegistry
  | [] => (none, reg)
  | candidate :: rest =>
    match reg.selectByScene ⟨dst, zoneId, candidate.sceneId⟩ with
    | (some ep, reg) => (some ep, reg)
    | (none, reg) => selectInstance reg dst zoneId rest

/-- The scene channel for a session that has none yet. -/
def selectScene (reg : ServiceRegistry) (s : ClientSession) :
    Option ServiceEndpoint × ServiceRegistry :=
  if cfg.defaultSceneId ≠ 0 then
    reg.selectByScene ⟨ServerID.kScene, cfg.zoneId, cfg.defaultSceneId⟩
  else
    let instances := reg.getInstances ServerID.kScene cfg.zoneId
    selectInstance reg ServerID.kScene cfg.zoneId (instances.rotate (s.playerId % instances.length))

/-- The backend of a request, after the session has got a scene if it needs one. -/
def chooseBackend (s : ClientSession) (dst : Nat) :
    Option (ClientSession × ServiceEndpoint) × GatewayDispatcher :=
  if dst ≠ ServerID.kScene then ((g.services.getByService dst).map fun ep => (s, ep), g)
  else if s.sceneId ≠ 0 then ((g.boundEndpoint cfg s).map fun ep => (s, ep), g)
  else match selectScene cfg g.services s with
    | (none, services) => (none, { g with services := services })
    | (some ep, services) =>
      let g := { g with
        services := services
        sessions := g.sessions.setSceneBinding s.sessionId ep.sceneId ep.channelId
          ep.sceneIncarnation ep.connName }
      match g.sessions.get s.sessionId with
      | none => (none, g)
      | some s => ((g.boundEndpoint cfg s).map fun ep => (s, ep), g)

/-- The body a backend gets, or why the request is refused. -/
def backendBody (s : ClientSession) (ep : ServiceEndpoint) (dst : Nat) (h : ClientHeader)
    (body : Bytes) : Except String Bytes :=
  if dst = ServerID.kScene then
    if !GatewayPlayer.valid (clientData cfg s ep) ∨ h.module = GatewayPlayer.kModule then
      .error "invalid scene binding or reserved gateway route"
    else .ok (GatewayPlayer.pack (clientData cfg s ep) body)
  else if dst = ServerID.kChat ∧ h.module = ServiceModule.kChat ∧
      (h.method = ServiceMethod.kPrivateChat ∨ h.method = ServiceMethod.kZoneShout) then
    if h.method = ServiceMethod.kPrivateChat ∧ body.length < 8 then .error "invalid chat message"
    else
      let prefixLen := if h.method = ServiceMethod.kPrivateChat then 8 else 0
      .ok (body.take prefixLen ++ padName h.roleName ++ body.drop prefixLen)
  else .ok body

/-- Forward a request whose route was added. -/
def forward (s : ClientSession) (ep : ServiceEndpoint) (dst : Nat)
    (h : ClientHeader) (body : Bytes) (r : ReturnRoute) : GatewayDispatcher :=
  match backendBody cfg s ep dst h body with
  | .error reason =>
    { g with routes := g.routes.erase r.internalSeq }.rejectClient s h.requestId h.method reason
      (.answer r)
  | .ok backendBody =>
    let frame : GateFrame :=
      { head := makeHeader (linkTypeOf dst) h.module h.method r.internalSeq s.playerId
          cfg.selfServiceId dst
        body := backendBody }
    if dst = ServerID.kScene then
      g.queueSceneSubmission
        { session := s, endpoint := ep, online := true, businessFrame := some frame
          seq := r.internalSeq }
    else if ep.connName ∈ g.connected then
      { g with toServices := g.toServices ++ [(ep.connName, frame)] }
    else g

def returnRoute (s : ClientSession) (ep : ServiceEndpoint) (dst : Nat) (h : ClientHeader)
    (internalSeq : Nat) (nowMs : Int) : ReturnRoute where
  internalSeq := internalSeq
  clientSessionId := s.sessionId
  clientRequestId := h.requestId
  backendServiceId := dst
  backendZoneId := ep.zoneId
  backendSceneId := ep.sceneId
  backendChannelId := ep.channelId
  backendSceneIncarnation := ep.sceneIncarnation
  backendConnName := ep.connName
  playerId := s.playerId
  module := h.module
  method := h.method
  sessionEpoch := s.epoch
  createdAtMs := nowMs

/-- The service a business request goes to. -/
def targetService (s : ClientSession) (h : ClientHeader) : Nat :=
  if h.module = ServiceModule.kChat then ServerID.kChat
  else if h.module = ServiceModule.kGlobal then ServerID.kGlobal
  else if s.dstService ≠ 0 then s.dstService
  else cfg.defaultDstService

/-- Why a business request is refused before a backend is looked for. -/
def refusal (s : ClientSession) (h : ClientHeader) : Option String :=
  if h.kind ≠ .request then some "only Request kind allowed from client"
  else if h.requestId = 0 then some "requestId must be nonzero"
  else if !s.authed then some "not authenticated"
  else if h.module = ServiceModule.kChat ∧ h.roleName = [] then some "chat role name required"
  else if !isAllowedService cfg (targetService cfg s h) then some "service not allowed"
  else none

def handleRequest (s : ClientSession) (h : ClientHeader) (body : Bytes)
    (nowMs : Int) : GatewayDispatcher :=
  match refusal cfg s h with
  | some reason => g.rejectClient s h.requestId h.method reason .reply
  | none =>
    let dst := targetService cfg s h
    match g.chooseBackend cfg s dst with
    | (none, g) => g.rejectClient s h.requestId h.method "backend service unavailable" .reply
    | (some (s, ep), g) =>
      let r := returnRoute s ep dst h g.nextSeq nowMs
      let g := { g with nextSeq := g.nextSeq + 1 }
      match g.routes.add r cfg.maxPendingRoutes with
      | none => g.rejectClient s h.requestId h.method "too many pending requests" .reply
      | some routes =>
        { g with
          routes := routes
          asked := g.asked ++ [(r, g.sessions.get s.sessionId)] }.forward cfg s ep dst h body r

def handleClientFrame (sessionId : Nat) (h : ClientHeader) (body : Bytes)
    (nowMs : Int) : GatewayDispatcher :=
  match g.sessions.get sessionId with
  | none => g
  | some s =>
    if h.kind = .control ∨ h.module = kClientSysModule then
      if h.kind ≠ .control ∨ h.module ≠ kClientSysModule then
        g.rejectClient s h.requestId h.method "control kind and module mismatch" .reply
      else if h.method = ClientSysMethod.kAuth then g.handleAuth cfg s h body
      else if h.method = ClientSysMethod.kBindService then g.handleBindService cfg s h body
      else if h.method = ClientSysMethod.kPing then
        g.sendToClient s (control ClientSysMethod.kPong h.requestId) [] .reply
      else g.rejectClient s h.requestId h.method "unknown control method" .reply
    else g.handleRequest cfg s h body nowMs

def onBackendConnected : GatewayDispatcher :=
  { g with
    services := (g.services.addPending g.nextConnId).2
    nextConnId := g.nextConnId + 1
    connected := insert g.nextConnId g.connected }

def onBackendClosed (conn : ConnName) : GatewayDispatcher :=
  { g with services := (g.services.removeByName conn).2 }

/-- The identity a handshake announces, if this gateway takes it. -/
def announced (h : Header) (body : Bytes) : Option BackendHandshake :=
  (unpackBackendHandshake body).filter fun hs =>
    h.srcServiceID = hs.serviceId ∧ h.seq = 0 ∧ h.playerId = 0 ∧ h.retrFlag = 0 ∧
      validBackendHandshake hs ∧ hs.targetGatewayId = cfg.gatewayId ∧
      !(hs.serviceId = ServerID.kScene ∧ cfg.backendChannels ≤ hs.channelId) ∧
      isAllowedService cfg hs.serviceId ∧ hs.zoneId = cfg.zoneId

def handleHandshake (conn : ConnName) (h : Header) (body : Bytes) : GatewayDispatcher :=
  match announced cfg h body with
  | none => g.forceClose conn
  | some hs =>
    match g.services.bind
        { connName := conn, serviceId := hs.serviceId, zoneId := hs.zoneId, sceneId := hs.sceneId
          channelId := hs.channelId, sceneIncarnation := hs.sceneIncarnation } with
    | (none, services) => { g with services := services }.forceClose conn
    | (some oldConn, services) =>
      let g := { g with services := services }
      if oldConn = 0 then g
      else match g.services.removeByName oldConn with
        | (none, services) => { g with services := services }
        | (some _, services) => { g with services := services }.forceClose oldConn

def isAllowedScenePush (h : Header) (serviceId : Nat) : Bool :=
  if serviceId ≠ ServerID.kScene ∨ h.seq ≠ 0 ∨ h.playerId = 0 then false
  else (h.module = 3 ∧ h.method = 1) ∨ (h.module = 100 ∧ (h.method = 7 ∨ h.method = 8))

/-- The channel of a scene was taken over by another connection. -/
def superseded (origin : ServiceEndpoint) (conn : ConnName) : Bool :=
  origin.sceneId ≠ 0 ∧ (g.services.getByChannel conn).all fun active =>
    active.sceneIncarnation ≠ origin.sceneIncarnation ∨ active.channelId ≠ origin.channelId

/-- The response is not from the backend the request went to, or not for it. -/
def mismatched (r : ReturnRoute) (origin : ServiceEndpoint) (conn : ConnName) (h : Header) : Bool :=
  r.backendServiceId ≠ origin.serviceId ∨ r.playerId ≠ h.playerId ∨ r.module ≠ h.module ∨
    r.method ≠ h.method ∨
    (!(r.backendConnName = 0 ∧ r.backendZoneId = 0 ∧ r.backendSceneIncarnation = 0) ∧
      (r.backendConnName ≠ conn ∨ r.backendZoneId ≠ origin.zoneId ∨
        r.backendSceneId ≠ origin.sceneId ∨ r.backendChannelId ≠ origin.channelId ∨
        r.backendSceneIncarnation ≠ origin.sceneIncarnation))

/-- The session has been given another scene channel than the request went to. -/
def rebound (r : ReturnRoute) (origin : ServiceEndpoint) (conn : ConnName) (s : ClientSession) :
    Bool :=
  !(r.backendConnName = 0 ∧ r.backendZoneId = 0 ∧ r.backendSceneIncarnation = 0) ∧
    origin.serviceId = ServerID.kScene ∧ r.backendConnName = conn ∧ s.sceneId ≠ 0 ∧
    (s.sceneId ≠ r.backendSceneId ∨ s.backendChannelId ≠ r.backendChannelId ∨
      s.sceneIncarnation ≠ r.backendSceneIncarnation ∨ s.sceneConnName ≠ r.backendConnName)

def handleResponse (origin : ServiceEndpoint) (conn : ConnName) (h : Header)
    (body : Bytes) (r : ReturnRoute) : GatewayDispatcher :=
  if mismatched r origin conn h then g.forceClose conn
  else
    let g := { g with routes := g.routes.erase h.seq }
    match g.sessions.get r.clientSessionId with
    | none => g
    | some s =>
      if rebound r origin conn s then g
      else if s.authed ∧ s.epoch = r.sessionEpoch then
        g.sendToClient s
          { kind := .response, module := h.module, method := h.method
            requestId := r.clientRequestId } body (.answer r)
      else g

/-- The sender's name and the rest of a chat body, which stand after eight bytes. -/
def chatContent (body : Bytes) : Option (Bytes × Bytes) :=
  match unpadName ((body.drop 8).take kRoleNameSize) with
  | none => none
  | some name =>
    if validRoleName name then some (name, body.take 8 ++ body.drop (8 + kRoleNameSize)) else none

def handleShout (h : Header) (body : Bytes) : GatewayDispatcher :=
  if body.length < 8 + kRoleNameSize + 1 ∨ 8 + kRoleNameSize + 1024 < body.length then g
  else match chatContent body with
    | none => g
    | some (name, payload) =>
      if name = [] then g
      else g.sessions.authedSessions.foldl (fun g s => g.sendToClient s
        { kind := .push, module := h.module, method := h.method, roleName := name } payload .shout) g

def handlePush (origin : ServiceEndpoint) (conn : ConnName) (h : Header)
    (body : Bytes) : GatewayDispatcher :=
  let push := fun (g : GatewayDispatcher) name payload =>
    match g.sessions.findByPlayer h.playerId with
    | none => g
    | some s => g.sendToClient s
        { kind := .push, module := h.module, method := h.method, roleName := name } payload
        (.push h.playerId)
  if isAllowedScenePush h origin.serviceId then push g [] body
  else if (h.module = ServiceModule.kChat ∧ origin.serviceId ≠ ServerID.kChat) ∨
      (h.module = ServiceModule.kGlobal ∧ origin.serviceId ≠ ServerID.kGlobal) then
    g.forceClose conn
  else if h.module = ServiceModule.kChat ∧ h.method = ServiceMethod.kPrivateChat then
    if body.length < 8 + kRoleNameSize then g
    else match chatContent body with
      | none => g
      | some (name, payload) => push g name payload
  else push g [] body

def handleBackendFrame (conn : ConnName) (h : Header) (body : Bytes) : GatewayDispatcher :=
  if h.module = kSYS ∧ h.method = kHandshake then g.handleHandshake cfg conn h body
  else match (g.services.getByName conn).filter (·.serviceId ≠ 0) with
    | none => g.forceClose conn
    | some origin =>
      if g.superseded origin conn then g
      else if h.srcServiceID ≠ origin.serviceId ∨ h.dstServiceID ≠ cfg.selfServiceId ∨ h.retrFlag ≠ 0 then
        g.forceClose conn
      else match (if h.seq = 0 then none else g.routes.lookup h.seq) with
        | some r => g.handleResponse origin conn h body r
        | none =>
          if h.seq = 0 ∧ h.module = ServiceModule.kChat ∧ h.method = ServiceMethod.kZoneShout ∧
              origin.serviceId = ServerID.kChat ∧ h.playerId = 0 then g.handleShout h body
          else if h.seq = 0 ∧ h.playerId ≠ 0 then g.handlePush origin conn h body
          else g

/-- The error that ends a request which took too long. -/
def timeOut (route : ReturnRoute) : GatewayDispatcher :=
  match g.sessions.get route.clientSessionId with
  | none => g
  | some s =>
    if s.authed ∧ s.epoch = route.sessionEpoch then
      g.sendToClient s
        { kind := .error, module := route.module, method := route.method
          requestId := route.clientRequestId } (text "request timeout") (.answer route)
    else g

def sweepRoutes (nowMs : Int) : GatewayDispatcher :=
  let (expired, routes) := g.routes.sweepExpired nowMs cfg.routeTtlMs
  expired.foldl timeOut { g with routes := routes }

inductive Step where
  | clientConnected
  | clientClosed (sessionId : Nat)
  | clientFrame (sessionId : Nat) (h : ClientHeader) (body : Bytes) (nowMs : Int)
  | backendConnected
  | backendClosed (conn : ConnName)
  | backendFrame (conn : ConnName) (h : Header) (body : Bytes)
  | sweep (nowMs : Int)
  | runLoop (conn : ConnName) (sendOk : Bool)
  | lose (conn : ConnName)

/-- One step. A connection is lost before its close callback runs. -/
def step : Step → Option GatewayDispatcher
  | .clientConnected => some (g.onClientConnected cfg)
  | .clientClosed sessionId =>
    if (g.sessions.get sessionId).all (·.conn ∉ g.connected) then
      some (g.onClientClosed cfg sessionId)
    else none
  | .clientFrame sessionId h body nowMs => some (g.handleClientFrame cfg sessionId h body nowMs)
  | .backendConnected => some g.onBackendConnected
  | .backendClosed conn => if conn ∈ g.connected then none else some (g.onBackendClosed conn)
  | .backendFrame conn h body => some (g.handleBackendFrame cfg conn h body)
  | .sweep nowMs => some (g.sweepRoutes cfg nowMs)
  | .runLoop conn sendOk =>
    (nextTask conn g.loops).map fun out =>
      { g with loops := out.2 }.runSubmission cfg out.1 sendOk
  | .lose conn => some (g.forceClose conn)

end GatewayDispatcher

end Gateway
