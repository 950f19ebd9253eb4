import GameServer.Chat.ServiceApp
import GameServer.Gateway.PushAuthority

/-!
# Chat through gateway, service and gateway

The gateway of the sender puts the role name into the request, the chat service
reads it and writes it into the push, and the gateways that get the push take it
out again. The states of the three are arbitrary: whatever happens between two
hops, a request in order is delivered with its name and its text, and any other is
refused.
-/

namespace Chat

open Gateway Gateway.GatewayDispatcher
open Net (putBE getBE unpadName_padName length_padName)

section Bodies

variable {first name rest : Bytes}

theorem length_injected (hfirst : first.length = 8) (hname : validRoleName name = true) :
    (first ++ padName name).length = 8 + kRoleNameSize := by
  rw [List.length_append, hfirst, length_padName hname]

/-- The field after the first eight bytes. -/
theorem field_injected (hfirst : first.length = 8) (hname : validRoleName name = true) :
    ((first ++ padName name ++ rest).drop 8).take kRoleNameSize = padName name := by
  rw [List.append_assoc, ← hfirst, List.drop_left, ← length_padName hname, List.take_left]

theorem take_injected (hfirst : first.length = 8) :
    (first ++ padName name ++ rest).take 8 = first := by
  rw [List.append_assoc, ← hfirst, List.take_left]

theorem drop_injected (hfirst : first.length = 8) (hname : validRoleName name = true) :
    (first ++ padName name ++ rest).drop (8 + kRoleNameSize) = rest := by
  rw [← length_injected hfirst hname, List.drop_left]

/-- What a gateway has put in, the service reads. -/
theorem parse_injected (hfirst : first.length = 8) (hname : validRoleName name = true)
    (hne : name ≠ []) :
    parseChatBody (first ++ padName name ++ rest) = some (getBE first, name, rest) := by
  have hlen : ¬ (first ++ padName name ++ rest).length < 8 + kRoleNameSize := by
    rw [List.length_append, length_injected hfirst hname]
    omega
  have hok : ¬ (name = [] ∨ (!validRoleName name) = true) := by
    simp [hne, hname]
  unfold parseChatBody
  rw [if_neg hlen, field_injected hfirst hname, unpadName_padName hname]
  simp only
  rw [if_neg hok, take_injected hfirst, drop_injected hfirst hname]

/-- What the service has written, a gateway takes apart. -/
theorem chatContent_injected (hfirst : first.length = 8) (hname : validRoleName name = true) :
    chatContent (first ++ padName name ++ rest) = some (name, first ++ rest) := by
  unfold chatContent
  rw [field_injected hfirst hname, unpadName_padName hname]
  simp only
  rw [if_pos hname, take_injected hfirst, drop_injected hfirst hname]

theorem chatBody_eq {playerId : Nat} (hname : validRoleName name = true) (hne : name ≠ []) :
    chatBody playerId name rest = putBE 8 playerId ++ padName name ++ rest := by
  unfold chatBody
  rw [if_neg (by simp [hne, hname])]

end Bodies

section Gateways

variable {cfg : DispatcherConfig} {g : GatewayDispatcher} {conn : ConnName}

/-- What is written when a frame is sent to a session. -/
def written (g : GatewayDispatcher) (s : ClientSession) (head : ClientHeader) (body : Bytes)
    (cause : Cause) : List ClientSend :=
  if s.conn ∈ g.connected then
    [{ sessionId := s.sessionId
       holder := g.sessions.get s.sessionId
       frame := { head, body }
       cause := cause }]
  else []

theorem sendToClient_eq (g : GatewayDispatcher) (s : ClientSession) (head : ClientHeader)
    (body : Bytes) (cause : Cause) :
    g.sendToClient s head body cause =
      { g with toClients := g.toClients ++ written g s head body cause } := by
  unfold sendToClient written
  split
  · rfl
  · simp

/-- The connection is the link of the chat service. -/
structure ChatLink (cfg : DispatcherConfig) (g : GatewayDispatcher) (conn : ConnName)
    (origin : ServiceEndpoint) : Prop where
  self : cfg.selfServiceId = ServerID.kGateway
  named : g.services.getByName conn = some origin
  service : origin.serviceId = ServerID.kChat
  scene : origin.sceneId = 0

theorem ChatLink.attributed {origin : ServiceEndpoint} (hl : ChatLink cfg g conn origin)
    {h : Header} (hsrc : h.srcServiceID = ServerID.kChat) (hdst : h.dstServiceID = ServerID.kGateway)
    (hretr : h.retrFlag = 0) : Attributed cfg g conn h origin := by
  refine ⟨hl.named, by rw [hl.service]; decide, ?_, hsrc.trans hl.service.symm,
    hdst.trans hl.self.symm, hretr⟩
  simp [superseded, hl.scene]

/-- What the push of a private chat becomes: one frame, if the target has a session here. -/
def privateDelivery (target : Nat) (name payload : Bytes) (g : GatewayDispatcher) :
    List ClientSend :=
  match g.sessions.findByPlayer target with
  | none => []
  | some t => written g t
      { kind := .push, module := ServiceModule.kChat, method := ServiceMethod.kPrivateChat
        roleName := name } payload (.push target)

/-- What the push of a shout becomes: one frame for each authenticated session. -/
def shoutDelivery (name payload : Bytes) (g : GatewayDispatcher) : List ClientSend :=
  g.sessions.authedSessions.flatMap fun t => written g t
    { kind := .push, module := ServiceModule.kChat, method := ServiceMethod.kZoneShout
      roleName := name } payload .shout

variable {first name rest : Bytes} {origin : ServiceEndpoint} {h : Header}

theorem private_delivered (hl : ChatLink cfg g conn origin) (hseq : h.seq = 0)
    (hplayer : h.playerId ≠ 0) (hmodule : h.module = ServiceModule.kChat)
    (hmethod : h.method = ServiceMethod.kPrivateChat) (hsrc : h.srcServiceID = ServerID.kChat)
    (hdst : h.dstServiceID = ServerID.kGateway) (hretr : h.retrFlag = 0) (hfirst : first.length = 8)
    (hname : validRoleName name = true) :
    (g.handleBackendFrame cfg conn h (first ++ padName name ++ rest)).toClients =
      g.toClients ++ privateDelivery h.playerId name (first ++ rest) g := by
  have hsys : ¬ (h.module = kSYS ∧ h.method = kHandshake) :=
    fun hboth => absurd (hmodule.symm.trans hboth.1) (by decide)
  have hscene : isAllowedScenePush h origin.serviceId = false := by
    unfold isAllowedScenePush
    rw [if_pos (.inl (by rw [hl.service]; decide))]
  have hlen : ¬ (first ++ padName name ++ rest).length < 8 + kRoleNameSize := by
    rw [List.length_append, length_injected hfirst hname]
    omega
  rw [handleBackendFrame_attributed hseq hplayer hsys (hl.attributed hsrc hdst hretr)]
  unfold handlePush
  simp only [hscene, Bool.false_eq_true, if_false]
  rw [if_neg (by rw [hmodule, hl.service]; decide), if_pos ⟨hmodule, hmethod⟩, if_neg hlen,
    chatContent_injected hfirst hname]
  unfold privateDelivery
  simp only
  cases g.sessions.findByPlayer h.playerId with
  | none => exact (List.append_nil _).symm
  | some t =>
    simp only [sendToClient_eq]
    rw [hmodule, hmethod]

theorem toClients_foldl (ss : List ClientSession) (head : ClientHeader) (payload : Bytes)
    (cause : Cause) (g : GatewayDispatcher) :
    (ss.foldl (fun g s => g.sendToClient s head payload cause) g).toClients =
      g.toClients ++ ss.flatMap fun t => written g t head payload cause := by
  induction ss generalizing g with
  | nil => exact (List.append_nil _).symm
  | cons s ss ih =>
    rw [List.foldl_cons, ih, sendToClient_eq, List.flatMap_cons]
    simp only [List.append_assoc]
    rfl

theorem shout_delivered (hl : ChatLink cfg g conn origin) (hseq : h.seq = 0)
    (hplayer : h.playerId = 0) (hmodule : h.module = ServiceModule.kChat)
    (hmethod : h.method = ServiceMethod.kZoneShout) (hsrc : h.srcServiceID = ServerID.kChat)
    (hdst : h.dstServiceID = ServerID.kGateway) (hretr : h.retrFlag = 0) (hfirst : first.length = 8)
    (hname : validRoleName name = true) (hne : name ≠ []) (hrest : rest ≠ [])
    (hlong : rest.length ≤ 1024) :
    (g.handleBackendFrame cfg conn h (first ++ padName name ++ rest)).toClients =
      g.toClients ++ shoutDelivery name (first ++ rest) g := by
  have hsys : ¬ (h.module = kSYS ∧ h.method = kHandshake) :=
    fun hboth => absurd (hmodule.symm.trans hboth.1) (by decide)
  obtain ⟨hget, hid, hsuper, hsrc', hdst', hretr'⟩ := hl.attributed hsrc hdst hretr
  have hframe : g.handleBackendFrame cfg conn h (first ++ padName name ++ rest) =
      g.handleShout h (first ++ padName name ++ rest) := by
    unfold handleBackendFrame
    rw [if_neg hsys, hget, Option.filter_some, if_pos (by simpa using hid)]
    simp only [hsuper, Bool.false_eq_true, if_false, if_pos hseq]
    rw [if_neg (by simp [hsrc', hdst', hretr']),
      if_pos ⟨hseq, hmodule, hmethod, hl.service, hplayer⟩]
  have hpos : 0 < rest.length := List.length_pos_iff.mpr hrest
  have hlen : ¬ ((first ++ padName name ++ rest).length < 8 + kRoleNameSize + 1 ∨
      8 + kRoleNameSize + 1024 < (first ++ padName name ++ rest).length) := by
    rw [List.length_append, length_injected hfirst hname]
    omega
  rw [hframe]
  unfold handleShout
  rw [if_neg hlen, chatContent_injected hfirst hname]
  simp only
  rw [if_neg hne, toClients_foldl, hmodule, hmethod]
  rfl

end Gateways

section Request

variable {cfg : DispatcherConfig} {g : GatewayDispatcher} {sid : Nat} {s : ClientSession}
  {h : ClientHeader} {body : Bytes} {nowMs : Int}

/-- A request for a private chat or a shout, with a name. -/
structure ChatRequest (h : ClientHeader) : Prop where
  kind : h.kind = .request
  requestId : h.requestId ≠ 0
  module : h.module = ServiceModule.kChat
  method : h.method = ServiceMethod.kPrivateChat ∨ h.method = ServiceMethod.kZoneShout
  nonempty : h.roleName ≠ []
  valid : validRoleName h.roleName = true

/-- The body is what the method asks for: a target and a text, or a text. -/
def InOrder (sender method : Nat) (body : Bytes) : Bool :=
  if method = ServiceMethod.kPrivateChat then
    8 ≤ body.length ∧ getBE (body.take 8) ≠ 0 ∧ getBE (body.take 8) ≠ sender ∧
      validChatText (body.drop 8) = true
  else validChatText body

/-- The chat service is registered, connected and permitted, and there is room for a route. -/
def ChatOpen (cfg : DispatcherConfig) (g : GatewayDispatcher) (ep : ServiceEndpoint) : Prop :=
  isAllowedService cfg ServerID.kChat = true ∧ g.services.getByService ServerID.kChat = some ep ∧
    ep.connName ∈ g.connected ∧ g.routes.size < cfg.maxPendingRoutes

/-- The request as it goes to the chat service. -/
def chatFrame (cfg : DispatcherConfig) (s : ClientSession) (h : ClientHeader) (body : Bytes)
    (seq : Nat) : GateFrame where
  head := makeHeader NetMessageType.kChatMsg h.module h.method seq s.playerId cfg.selfServiceId
    ServerID.kChat
  body :=
    if h.method = ServiceMethod.kPrivateChat then
      body.take 8 ++ padName h.roleName ++ body.drop 8
    else padName h.roleName ++ body

theorem handleClientFrame_chat (hs : g.sessions.get sid = some s) (hauth : s.authed = true)
    (hreq : ChatRequest h) :
    g.handleClientFrame cfg sid h body nowMs =
      if isAllowedService cfg ServerID.kChat = true then
        match g.services.getByService ServerID.kChat with
        | none => g.rejectClient s h.requestId h.method "backend service unavailable" .reply
        | some ep =>
          let r := returnRoute s ep ServerID.kChat h g.nextSeq nowMs
          let g := { g with nextSeq := g.nextSeq + 1 }
          match g.routes.add r cfg.maxPendingRoutes with
          | none => g.rejectClient s h.requestId h.method "too many pending requests" .reply
          | some routes =>
            { g with
              routes := routes
              asked := g.asked ++ [(r, g.sessions.get s.sessionId)] }.forward cfg s ep
                ServerID.kChat h body r
      else g.rejectClient s h.requestId h.method "service not allowed" .reply := by
  have hcontrol : ¬ (h.kind = .control ∨ h.module = kClientSysModule) := by
    rw [hreq.kind, hreq.module]
    decide
  have htarget : targetService cfg s h = ServerID.kChat := if_pos hreq.module
  have hrefusal : refusal cfg s h =
      if isAllowedService cfg ServerID.kChat = true then none else some "service not allowed" := by
    unfold refusal
    rw [htarget]
    cases isAllowedService cfg ServerID.kChat <;>
      simp [hreq.kind, hreq.requestId, hauth, hreq.nonempty]
  unfold handleClientFrame
  simp only [hs]
  rw [if_neg hcontrol]
  unfold handleRequest
  rw [hrefusal]
  by_cases hallow : isAllowedService cfg ServerID.kChat = true
  · rw [if_pos hallow, if_pos hallow]
    simp only [htarget, chooseBackend]
    rw [if_pos (by decide)]
    cases g.services.getByService ServerID.kChat with
    | none => rfl
    | some ep => rfl
  · rw [if_neg hallow, if_neg hallow]

theorem backendBody_chat (hreq : ChatRequest h) (ep : ServiceEndpoint) :
    backendBody cfg s ep ServerID.kChat h body =
      if h.method = ServiceMethod.kPrivateChat ∧ body.length < 8 then .error "invalid chat message"
      else .ok (chatFrame cfg s h body 0).body := by
  unfold backendBody
  rw [if_neg (by decide), if_pos ⟨rfl, hreq.module, hreq.method⟩]
  split
  · rfl
  · by_cases hm : h.method = ServiceMethod.kPrivateChat
    · simp [chatFrame, hm]
    · simp [chatFrame, hm]

/-- A request in form goes to the chat service, with the name after the first eight bytes of a
private chat and before the text of a shout. -/
theorem forwarded (hsane : Sane cfg g) (hs : g.sessions.get sid = some s)
    (hauth : s.authed = true) (hreq : ChatRequest h)
    (hlen : ¬ (h.method = ServiceMethod.kPrivateChat ∧ body.length < 8)) {ep : ServiceEndpoint}
    (hopen : ChatOpen cfg g ep) :
    (g.handleClientFrame cfg sid h body nowMs).toServices =
        g.toServices ++ [(ep.connName, chatFrame cfg s h body g.nextSeq)] ∧
      (g.handleClientFrame cfg sid h body nowMs).routes.lookup g.nextSeq =
        some (returnRoute s ep ServerID.kChat h g.nextSeq nowMs) := by
  obtain ⟨hallow, hep, hconn, hroom⟩ := hopen
  have hadd : g.routes.add (returnRoute s ep ServerID.kChat h g.nextSeq nowMs)
      cfg.maxPendingRoutes = some (g.routes.insert g.nextSeq
        (returnRoute s ep ServerID.kChat h g.nextSeq nowMs)) := by
    unfold ReturnRouteTable.add
    have hseq := hsane.nextSeq
    rw [if_neg (by simp only [returnRoute]; omega)]
    rfl
  rw [handleClientFrame_chat hs hauth hreq, if_pos hallow, hep]
  simp only [hadd, forward, backendBody_chat hreq, if_neg hlen]
  rw [if_neg (by decide), if_pos hconn]
  refine ⟨rfl, Table.lookup_insert_same _ _ _⟩

/-- What becomes of a request that is not forwarded. -/
inductive Turned (g g' : GatewayDispatcher) (s : ClientSession) (h : ClientHeader) : Prop where
  /-- It is answered with an error. -/
  | error (reason : String) (cause : Cause) (services : g'.toServices = g.toServices)
      (clients : g'.toClients = g.toClients ++ written g s
        { kind := .error, module := kClientSysModule, method := h.method
          requestId := h.requestId } (text reason) cause)
  /-- The chat service is gone; the request waits for its answer until it times out. -/
  | lost (r : ReturnRoute) (services : g'.toServices = g.toServices)
      (clients : g'.toClients = g.toClients) (route : g'.routes.lookup r.internalSeq = some r)
      (session : r.clientSessionId = s.sessionId) (request : r.clientRequestId = h.requestId)

theorem turned_or_open (hs : g.sessions.get sid = some s) (hauth : s.authed = true)
    (hreq : ChatRequest h) :
    Turned g (g.handleClientFrame cfg sid h body nowMs) s h ∨
      (∃ ep, ChatOpen cfg g ep) ∧ ¬ (h.method = ServiceMethod.kPrivateChat ∧ body.length < 8) := by
  have hreject : ∀ (x : GatewayDispatcher) reason cause, x.sessions = g.sessions →
      x.connected = g.connected → x.toServices = g.toServices → x.toClients = g.toClients →
      Turned g (x.rejectClient s h.requestId h.method reason cause) s h := by
    intro x reason cause h1 h2 h3 h4
    unfold rejectClient
    rw [sendToClient_eq]
    refine .error reason cause h3 ?_
    simp only [h4, written, h1, h2]
  rw [handleClientFrame_chat hs hauth hreq]
  by_cases hallow : isAllowedService cfg ServerID.kChat = true
  swap
  · rw [if_neg hallow]
    exact .inl (hreject g _ _ rfl rfl rfl rfl)
  rw [if_pos hallow]
  cases hep : g.services.getByService ServerID.kChat with
  | none => exact .inl (hreject g _ _ rfl rfl rfl rfl)
  | some ep =>
    simp only
    cases hadd : g.routes.add (returnRoute s ep ServerID.kChat h g.nextSeq nowMs)
        cfg.maxPendingRoutes with
    | none => exact .inl (hreject _ _ _ rfl rfl rfl rfl)
    | some routes =>
      simp only [forward, backendBody_chat hreq]
      by_cases hlen : h.method = ServiceMethod.kPrivateChat ∧ body.length < 8
      · rw [if_pos hlen]
        exact .inl (hreject _ _ _ rfl rfl rfl rfl)
      rw [if_neg hlen]
      simp only
      rw [if_neg (by decide)]
      unfold ReturnRouteTable.add at hadd
      split at hadd
      · cases hadd
      rename_i hroom
      cases hadd
      by_cases hconn : ep.connName ∈ g.connected
      · refine .inr ⟨⟨ep, hallow, hep, hconn, ?_⟩, hlen⟩
        omega
      · rw [if_neg hconn]
        refine .inl (.lost (returnRoute s ep ServerID.kChat h g.nextSeq nowMs) rfl rfl ?_ rfl rfl)
        exact Table.lookup_insert_same _ _ _

/-- An answer of the chat service goes to the session that has asked. -/
theorem answer_delivered {origin : ServiceEndpoint} (h' : Header) {r : ReturnRoute}
    (hl : ChatLink cfg g r.backendConnName origin) (hroute : g.routes.lookup h'.seq = some r)
    (hseq : h'.seq ≠ 0) (hsrc : h'.srcServiceID = ServerID.kChat)
    (hdst : h'.dstServiceID = ServerID.kGateway) (hretr : h'.retrFlag = 0)
    (hmodule : h'.module = ServiceModule.kChat)
    (hr : mismatched r origin r.backendConnName h' = false)
    {t : ClientSession} (ht : g.sessions.get r.clientSessionId = some t) (hauth : t.authed = true)
    (hepoch : t.epoch = r.sessionEpoch) :
    (g.handleBackendFrame cfg r.backendConnName h' body).toClients =
      g.toClients ++ written g t
        { kind := .response, module := h'.module, method := h'.method
          requestId := r.clientRequestId } body (.answer r) := by
  have hsys : ¬ (h'.module = kSYS ∧ h'.method = kHandshake) :=
    fun hboth => absurd (hmodule.symm.trans hboth.1) (by decide)
  obtain ⟨hget, hid, hsuper, hsrc', hdst', hretr'⟩ := hl.attributed hsrc hdst hretr
  have hframe : g.handleBackendFrame cfg r.backendConnName h' body =
      g.handleResponse origin r.backendConnName h' body r := by
    unfold handleBackendFrame
    rw [if_neg hsys, hget, Option.filter_some, if_pos (by simpa using hid)]
    simp only [hsuper, Bool.false_eq_true, if_false, if_neg hseq, hroute]
    rw [if_neg (by simp [hsrc', hdst', hretr'])]
  have hrebound : rebound r origin r.backendConnName t = false := by
    have hscene : origin.serviceId ≠ ServerID.kScene := by
      rw [hl.service]
      decide
    simp [rebound, hscene]
  rw [hframe]
  unfold handleResponse
  simp only [hr, Bool.false_eq_true, if_false, ht, hrebound]
  rw [if_pos ⟨hauth, hepoch⟩, sendToClient_eq]
  rfl

end Request

section Service

variable {cfg : DispatcherConfig} {s : ClientSession} {h : ClientHeader} {body : Bytes}
  {seq gateway : Nat} {app : ServiceApp}

/-- The request in the queue of the service. -/
def chatMessage (cfg : DispatcherConfig) (s : ClientSession) (h : ClientHeader) (body : Bytes)
    (seq gateway : Nat) : Message :=
  ⟨(chatFrame cfg s h body seq).head, (chatFrame cfg s h body seq).body, gateway⟩

/-- The text of a request, after the target if there is one. -/
def chatText (method : Nat) (body : Bytes) : Bytes :=
  if method = ServiceMethod.kPrivateChat then body.drop 8 else body

/-- Whom the pushes name: nobody, if everybody is meant. -/
def chatTarget (method : Nat) (body : Bytes) : Nat :=
  if method = ServiceMethod.kPrivateChat then getBE (body.take 8) else 0

theorem serve_chat (hreq : ChatRequest h) (hid : app.id = ServerID.kChat) (hseq : seq ≠ 0)
    (hplayer : s.playerId ≠ 0)
    (hlen : ¬ (h.method = ServiceMethod.kPrivateChat ∧ body.length < 8)) :
    app.serve (chatMessage cfg s h body seq gateway) =
      if InOrder s.playerId h.method body = true then
        app.publish (chatMessage cfg s h body seq gateway) (chatTarget h.method body)
          (putBE 8 s.playerId ++ padName h.roleName ++ chatText h.method body)
      else app.reply (chatMessage cfg s h body seq gateway) (text "invalid chat message") := by
  have hmodule : (chatMessage cfg s h body seq gateway).header.module = ServiceModule.kChat :=
    hreq.module
  have hmethod : (chatMessage cfg s h body seq gateway).header.method = h.method := rfl
  have hsender : (chatMessage cfg s h body seq gateway).header.playerId = s.playerId := rfl
  have hsplit : ¬ ((chatMessage cfg s h body seq gateway).header.seq = 0 ∨
      (chatMessage cfg s h body seq gateway).header.playerId = 0) := by
    rw [not_or]
    exact ⟨hseq, hplayer⟩
  unfold ServiceApp.serve
  rw [if_neg hsplit]
  by_cases hm : h.method = ServiceMethod.kPrivateChat
  · have h8 : 8 ≤ body.length := Nat.le_of_not_lt fun hlt => hlen ⟨hm, hlt⟩
    have hparse : parseChatBody (chatMessage cfg s h body seq gateway).body =
        some (getBE (body.take 8), h.roleName, body.drop 8) := by
      have hbody : (chatMessage cfg s h body seq gateway).body =
          body.take 8 ++ padName h.roleName ++ body.drop 8 := if_pos hm
      rw [hbody]
      exact parse_injected (List.length_take_of_le h8) hreq.valid hreq.nonempty
    rw [if_pos ⟨hid, hmodule, hmethod.trans hm⟩]
    unfold ServiceApp.privateChat
    simp only [hparse, hsender, InOrder, if_pos hm, chatTarget, chatText]
    rw [chatBody_eq hreq.valid hreq.nonempty]
    by_cases hbad : getBE (body.take 8) = 0 ∨ getBE (body.take 8) = s.playerId ∨
        h.roleName = [] ∨ (!validChatText (body.drop 8)) = true
    · rw [if_pos hbad, if_neg]
      simp only [decide_eq_true_eq]
      rintro ⟨_, hzero, hself, htext⟩
      rcases hbad with hb | hb | hb | hb
      · exact hzero hb
      · exact hself hb
      · exact hreq.nonempty hb
      · rw [htext] at hb
        cases hb
    · rw [if_neg hbad, if_pos]
      simp only [not_or, Bool.not_eq_true', Bool.not_eq_false] at hbad
      simp only [decide_eq_true_eq]
      exact ⟨h8, hbad.1, hbad.2.1, hbad.2.2.2⟩
  · have hshout : h.method = ServiceMethod.kZoneShout := hreq.method.resolve_left hm
    have hparse : parseChatBody
        (List.replicate 8 0 ++ (chatMessage cfg s h body seq gateway).body) =
          some (getBE (List.replicate 8 0), h.roleName, body) := by
      have hbody : (chatMessage cfg s h body seq gateway).body = padName h.roleName ++ body :=
        if_neg hm
      rw [hbody, ← List.append_assoc]
      exact parse_injected List.length_replicate hreq.valid hreq.nonempty
    rw [if_neg fun hc => hm hc.2.2, if_pos ⟨hid, hmodule, hmethod.trans hshout⟩]
    unfold ServiceApp.zoneShout
    simp only [hparse, hsender, InOrder, if_neg hm, chatTarget, chatText]
    rw [chatBody_eq hreq.valid hreq.nonempty]
    cases validChatText body with
    | true => rfl
    | false => rfl

/-- The request is accepted and every gateway gets one push, which it delivers in any state in
which the chat service is linked to it. -/
def Relayed (app : ServiceApp) (msg : Message) (deliver : GatewayDispatcher → List ClientSend) :
    Prop :=
  ∃ pushes : List Message,
    (app.serve msg).toNet = app.toNet ++ app.answer msg (text "accepted") :: pushes ∧
      pushes.map (·.gateway) = List.range app.gatewayCount ∧
      ∀ p ∈ pushes, ∀ cfg g conn origin, ChatLink cfg g conn origin →
        (g.handleBackendFrame cfg conn p.header p.body).toClients = g.toClients ++ deliver g

/-- What the sessions of a gateway get of a request in order. -/
def chatDelivery (sender : Nat) (h : ClientHeader) (body : Bytes) :
    GatewayDispatcher → List ClientSend :=
  if h.method = ServiceMethod.kPrivateChat then
    privateDelivery (getBE (body.take 8)) h.roleName (putBE 8 sender ++ body.drop 8)
  else shoutDelivery h.roleName (putBE 8 sender ++ body)

theorem publish_room {msg : Message} {playerId : Nat} {push : Bytes}
    (hroom : app.toNet.length + app.gatewayCount < Queue.kCapacity) :
    (app.publish msg playerId push).toNet =
      app.toNet ++ app.answer msg (text "accepted") :: app.pushes msg playerId push := by
  unfold ServiceApp.publish Queue.putBatch
  have hlen : (app.answer msg (text "accepted") :: app.pushes msg playerId push).length =
      app.gatewayCount + 1 := by
    simp [ServiceApp.pushes]
  rw [if_neg (by rw [hlen]; omega)]

theorem relayed (hreq : ChatRequest h) (hid : app.id = ServerID.kChat) (hseq : seq ≠ 0)
    (hplayer : s.playerId ≠ 0) (horder : InOrder s.playerId h.method body = true)
    (hroom : app.toNet.length + app.gatewayCount < Queue.kCapacity) :
    Relayed app (chatMessage cfg s h body seq gateway) (chatDelivery s.playerId h body) := by
  have hlen : ¬ (h.method = ServiceMethod.kPrivateChat ∧ body.length < 8) := by
    rintro ⟨hm, hlt⟩
    simp only [InOrder, if_pos hm, decide_eq_true_eq] at horder
    omega
  refine ⟨app.pushes (chatMessage cfg s h body seq gateway) (chatTarget h.method body)
    (putBE 8 s.playerId ++ padName h.roleName ++ chatText h.method body), ?_, ?_, ?_⟩
  · rw [serve_chat hreq hid hseq hplayer hlen, if_pos horder, publish_room hroom]
  · simp [ServiceApp.pushes, Function.comp_def]
  intro p hp cfg' g' conn origin hl
  obtain ⟨i, _, rfl⟩ := List.mem_map.mp hp
  by_cases hm : h.method = ServiceMethod.kPrivateChat
  · simp only [InOrder, if_pos hm, decide_eq_true_eq] at horder
    simp only [chatTarget, chatText, chatDelivery, if_pos hm]
    exact private_delivered hl rfl horder.2.1 hreq.module hm hid rfl rfl
      (Net.length_putBE 8 s.playerId) hreq.valid
  · have hshout : h.method = ServiceMethod.kZoneShout := hreq.method.resolve_left hm
    simp only [InOrder, if_neg hm, validChatText, Bool.and_eq_true, decide_eq_true_eq] at horder
    simp only [chatTarget, chatText, chatDelivery, if_neg hm]
    exact shout_delivered hl rfl rfl hreq.module hshout hid rfl rfl
      (Net.length_putBE 8 s.playerId) hreq.valid hreq.nonempty horder.1.1 horder.1.2

end Service

section Claim

variable {cfg : DispatcherConfig} {g : GatewayDispatcher} {sid : Nat} {s : ClientSession}
  {h : ClientHeader}

/-- A request that reaches the chat service is refused there, and the refusal reaches the session
that has asked while it waits for it. -/
def Refused (cfg : DispatcherConfig) (g' : GatewayDispatcher) (sid : Nat) (s : ClientSession)
    (h : ClientHeader) (ep : ServiceEndpoint) (msg : Message) : Prop :=
  ∀ app : ServiceApp, app.id = ServerID.kChat →
    app.serve msg = app.reply msg (text "invalid chat message") ∧
      ∃ r, g'.routes.lookup msg.header.seq = some r ∧
        ∀ later t, later.routes.lookup msg.header.seq = some r → ChatLink cfg later ep.connName ep →
          later.sessions.get sid = some t → t.authed = true → t.epoch = s.epoch →
          (later.handleBackendFrame cfg ep.connName
              (app.answer msg (text "invalid chat message")).header
              (text "invalid chat message")).toClients =
            later.toClients ++ written later t
              { kind := .response, module := h.module, method := h.method
                requestId := h.requestId } (text "invalid chat message") (.answer r)

theorem refused (hsane : Sane cfg g) (hs : g.sessions.get sid = some s) (hauth : s.authed = true)
    (hreq : ChatRequest h) {body : Bytes} (nowMs : Int)
    (hlen : ¬ (h.method = ServiceMethod.kPrivateChat ∧ body.length < 8))
    (hbad : InOrder s.playerId h.method body = false) {ep : ServiceEndpoint}
    (hopen : ChatOpen cfg g ep) (gateway : Nat) :
    Refused cfg (g.handleClientFrame cfg sid h body nowMs) sid s h ep
      (chatMessage cfg s h body g.nextSeq gateway) := by
  intro app hid
  obtain ⟨hkey, _, _⟩ := hsane.sessions.key sid s hs
  obtain ⟨hplayer, _, _⟩ := hsane.sessions.epoch sid s hs hauth
  have hseq : g.nextSeq ≠ 0 := Nat.ne_of_gt hsane.nextSeq
  refine ⟨?_, returnRoute s ep ServerID.kChat h g.nextSeq nowMs,
    (forwarded hsane hs hauth hreq hlen hopen).2, ?_⟩
  · rw [serve_chat hreq hid hseq hplayer hlen, hbad]
    rfl
  intro later t hroute hl ht htauth hepoch
  have hasker : later.sessions.get s.sessionId = some t := by
    rw [hkey]
    exact ht
  have hmatch : mismatched (returnRoute s ep ServerID.kChat h g.nextSeq nowMs) ep ep.connName
      (app.answer (chatMessage cfg s h body g.nextSeq gateway)
        (text "invalid chat message")).header = false := by
    simp [mismatched, returnRoute, ServiceApp.answer, chatMessage, chatFrame, makeHeader,
      hl.service]
  exact answer_delivered (app.answer (chatMessage cfg s h body g.nextSeq gateway) _).header hl hroute
    hseq hid rfl rfl hreq.module hmatch hasker htauth hepoch

/-- A chat request of an authenticated sender with a valid name: in order, it goes to the chat
service and is delivered by every gateway with the sender's name, and with the sender and the text
as its body; else it is answered with an error by the gateway or refused by the service. -/
theorem chat_agrees {ls : List Step} (hrun : Run.exec (step cfg) (init cfg) ls = some g)
    (hself : cfg.selfServiceId = ServerID.kGateway) (hs : g.sessions.get sid = some s)
    (hauth : s.authed = true) (hreq : ChatRequest h) (body : Bytes) (nowMs : Int) :
    (InOrder s.playerId h.method body = true → ∀ ep, ChatOpen cfg g ep → ∃ frame,
      (g.handleClientFrame cfg sid h body nowMs).toServices =
          g.toServices ++ [(ep.connName, frame)] ∧
        ∀ (app : ServiceApp) (gateway : Nat),
          (app.toLogic.length < Queue.kCapacity →
            app.receive frame.head frame.body gateway =
              { app with toLogic := app.toLogic ++ [⟨frame.head, frame.body, gateway⟩] }) ∧
          (app.id = ServerID.kChat → app.toNet.length + app.gatewayCount < Queue.kCapacity →
            Relayed app ⟨frame.head, frame.body, gateway⟩ (chatDelivery s.playerId h body))) ∧
    (InOrder s.playerId h.method body = false →
      Turned g (g.handleClientFrame cfg sid h body nowMs) s h ∨
        ∃ ep frame, (g.handleClientFrame cfg sid h body nowMs).toServices =
            g.toServices ++ [(ep.connName, frame)] ∧
          ∀ gateway, Refused cfg (g.handleClientFrame cfg sid h body nowMs) sid s h ep
            ⟨frame.head, frame.body, gateway⟩) := by
  have hsane := sane_exec sane_init hrun
  obtain ⟨hplayer, _, _⟩ := hsane.sessions.epoch sid s hs hauth
  have hseq : g.nextSeq ≠ 0 := Nat.ne_of_gt hsane.nextSeq
  constructor
  · intro horder ep hopen
    have hlen : ¬ (h.method = ServiceMethod.kPrivateChat ∧ body.length < 8) := by
      rintro ⟨hm, hlt⟩
      simp only [InOrder, if_pos hm, decide_eq_true_eq] at horder
      omega
    refine ⟨_, (forwarded hsane hs hauth hreq hlen hopen).1, fun app gateway => ⟨?_, ?_⟩⟩
    · intro hroom
      have hfrom : ¬ ((chatFrame cfg s h body g.nextSeq).head.srcServiceID ≠ ServerID.kGateway ∨
          (chatFrame cfg s h body g.nextSeq).head.seq = 0 ∨
          (chatFrame cfg s h body g.nextSeq).head.playerId = 0) := by
        simp [chatFrame, makeHeader, hself, hseq, hplayer]
      unfold ServiceApp.receive Queue.put
      rw [if_neg hfrom, if_neg (Nat.not_le_of_lt hroom)]
    · exact fun hid hroom => relayed hreq hid hseq hplayer horder hroom
  · intro hbad
    refine (turned_or_open hs hauth hreq).imp_right fun ⟨⟨ep, hopen⟩, hlen⟩ => ?_
    exact ⟨ep, _, (forwarded hsane hs hauth hreq hlen hopen).1, fun gateway =>
      refused hsane hs hauth hreq nowMs hlen hbad hopen gateway⟩

/-- The chat service registers and the players 7 and 8 log in. -/
def chatZone : List Step :=
  [.backendConnected,
    .backendFrame 1
      (makeHeader NetMessageType.kChatMsg kSYS kHandshake 0 0 ServerID.kChat ServerID.kGateway)
      (packBackendHandshake { serviceId := ServerID.kChat, zoneId := 1, targetGatewayId := 1 }),
    .clientConnected, authFrame 1 7, .clientConnected, authFrame 2 8]

def helloHeader : ClientHeader :=
  { kind := .request, module := ServiceModule.kChat, method := ServiceMethod.kPrivateChat
    requestId := 1, roleName := text "Ann" }

/-- Player 7 says hello to player 8. -/
def helloBody : Bytes := putBE 8 8 ++ text "hello"

theorem chat_agrees_hello : ∃ (g : GatewayDispatcher) (ep : ServiceEndpoint) (frame : GateFrame),
    Run.exec (step smallZone) (init smallZone) chatZone = some g ∧
      (g.handleClientFrame smallZone 1 helloHeader helloBody 0).toServices =
        g.toServices ++ [(ep.connName, frame)] ∧
      Relayed { id := ServerID.kChat, gatewayCount := 1 } ⟨frame.head, frame.body, 0⟩
        (chatDelivery 7 helloHeader helloBody) ∧
      (chatDelivery 7 helloHeader helloBody g).map (fun d => (d.sessionId, d.frame)) =
        [(2, { head := { helloHeader with kind := .push, requestId := 0 }
               body := putBE 8 7 ++ text "hello" })] := by
  have hstate : ((Run.exec (step smallZone) (init smallZone) chatZone).any fun g =>
      (g.sessions.get 1).any (fun s => s.authed && s.playerId = 7) &&
        (g.services.getByService ServerID.kChat).any (fun ep => ep.connName ∈ g.connected) &&
        decide (g.routes.size < smallZone.maxPendingRoutes) &&
        decide ((chatDelivery 7 helloHeader helloBody g).map (fun d => (d.sessionId, d.frame)) =
          [(2, { head := { helloHeader with kind := .push, requestId := 0 }
                 body := putBE 8 7 ++ text "hello" })])) = true := by
    decide +kernel
  obtain ⟨g, hg, hfacts⟩ := (Option.any_eq_true _ _).mp hstate
  simp only [Bool.and_eq_true, decide_eq_true_eq] at hfacts
  obtain ⟨⟨⟨hsession, hservice⟩, hroom⟩, hdelivered⟩ := hfacts
  obtain ⟨s, hs, hsfacts⟩ := (Option.any_eq_true _ _).mp hsession
  obtain ⟨ep, hep, hconn⟩ := (Option.any_eq_true _ _).mp hservice
  simp only [Bool.and_eq_true, decide_eq_true_eq] at hsfacts
  have hreq : ChatRequest helloHeader :=
    ⟨rfl, by decide, rfl, .inl rfl, by decide, by decide +kernel⟩
  have horder : InOrder s.playerId helloHeader.method helloBody = true := by
    rw [hsfacts.2]
    decide +kernel
  obtain ⟨frame, hsent, hrelay⟩ := (chat_agrees hg rfl hs hsfacts.1 hreq helloBody 0).1 horder ep
    ⟨by decide, hep, of_decide_eq_true hconn, hroom⟩
  have hplayer : s.playerId = 7 := hsfacts.2
  have hrelayed := (hrelay { id := ServerID.kChat, gatewayCount := 1 } 0).2 rfl (by decide)
  rw [hplayer] at hrelayed
  exact ⟨g, ep, frame, hg, hsent, hrelayed, hdelivered⟩

end Claim

end Chat
