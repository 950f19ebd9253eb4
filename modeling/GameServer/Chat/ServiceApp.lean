import GameServer.Net.ClientProto

/-!
# The chat and global services

One process serves several gateways. Its network thread hands requests to the logic
thread through one queue and takes answers and pushes from another; a push goes to
every gateway, since none of them knows the players of the others.
-/

namespace Chat

open Gateway
open Net (putBE getBE)

def kAdminBroadcast : Nat := 3
def kGlobalPing : Nat := 1

structure Message where
  header : Header
  body : Bytes
  gateway : Nat
  deriving DecidableEq, Repr

namespace Queue

def kCapacity : Nat := 4096

/-- `Put`; `none` is its `false`. -/
def put (items : List Message) (m : Message) : Option (List Message) :=
  if kCapacity ≤ items.length then none else some (items ++ [m])

/-- `PutBatch`: all or nothing. -/
def putBatch (items batch : List Message) : Option (List Message) :=
  if kCapacity - items.length < batch.length then none else some (items ++ batch)

end Queue

/-- `ValidChatText`; its loop is that of `ValidRoleName`. -/
def validChatText (chat : Bytes) : Bool := chat ≠ [] && chat.length ≤ 1024 && validUtf8 chat

/-- `ChatBody`; an unusable name makes it empty. -/
def chatBody (playerId : Nat) (name chat : Bytes) : Bytes :=
  if name = [] ∨ !validRoleName name then []
  else putBE 8 playerId ++ padName name ++ chat

/-- `ParseChatBody`: the player, the name and the text. -/
def parseChatBody (body : Bytes) : Option (Nat × Bytes × Bytes) :=
  if body.length < 8 + kRoleNameSize then none
  else match unpadName ((body.drop 8).take kRoleNameSize) with
    | none => none
    | some name =>
      if name = [] ∨ !validRoleName name then none
      else some (getBE (body.take 8), name, body.drop (8 + kRoleNameSize))

/-- A service: `running` is the flag that an answer which cannot be queued takes back. -/
structure ServiceApp where
  id : Nat
  gatewayCount : Nat
  running : Bool := true
  toLogic : List Message := []
  toNet : List Message := []
  deriving DecidableEq, Repr

namespace ServiceApp

variable (app : ServiceApp) (msg : Message)

def linkType : Nat :=
  if app.id = ServerID.kChat then NetMessageType.kChatMsg else NetMessageType.kGlobalMsg

/-- What goes back to the gateway that has asked. -/
def answer (body : Bytes) : Message where
  header := makeHeader app.linkType msg.header.module msg.header.method msg.header.seq
    msg.header.playerId app.id ServerID.kGateway
  body := body
  gateway := msg.gateway

/-- The same push for each gateway. -/
def pushes (playerId : Nat) (body : Bytes) : List Message :=
  (List.range app.gatewayCount).map fun i =>
    { header := makeHeader app.linkType msg.header.module msg.header.method 0 playerId app.id
        ServerID.kGateway
      body := body
      gateway := i }

/-- The lambda `reply`. -/
def reply (body : Bytes) : ServiceApp :=
  match Queue.put app.toNet (app.answer msg body) with
  | none => { app with running := false }
  | some items => { app with toNet := items }

/-- The answer and the pushes are queued together or not at all. -/
def publish (playerId : Nat) (body : Bytes) : ServiceApp :=
  match Queue.putBatch app.toNet (app.answer msg (text "accepted") :: app.pushes msg playerId body) with
  | none => app.reply msg (text "chat queue full")
  | some items => { app with toNet := items }

def privateChat : ServiceApp :=
  match parseChatBody msg.body with
  | none => app.reply msg (text "invalid chat message")
  | some (target, name, chat) =>
    if target = 0 ∨ target = msg.header.playerId ∨ name = [] ∨ !validChatText chat then
      app.reply msg (text "invalid chat message")
    else app.publish msg target (chatBody msg.header.playerId name chat)

/-- A shout names no target; zeros take its place. -/
def zoneShout : ServiceApp :=
  match parseChatBody (List.replicate 8 0 ++ msg.body) with
  | none => app.reply msg (text "invalid chat message")
  | some (_, name, chat) =>
    if !validChatText chat then app.reply msg (text "invalid chat message")
    else app.publish msg 0 (chatBody msg.header.playerId name chat)

/-- The body of the loop of `Logic` for a message it has got. -/
def serve : ServiceApp :=
  if msg.header.seq = 0 ∨ msg.header.playerId = 0 then app
  else if app.id = ServerID.kChat ∧ msg.header.module = ServiceModule.kChat ∧
      msg.header.method = ServiceMethod.kPrivateChat then app.privateChat msg
  else if app.id = ServerID.kChat ∧ msg.header.module = ServiceModule.kChat ∧
      msg.header.method = ServiceMethod.kZoneShout then app.zoneShout msg
  else if app.id = ServerID.kChat ∧ msg.header.module = ServiceModule.kChat ∧
      msg.header.method = kAdminBroadcast then app.reply msg (text "admin broadcast unavailable")
  else if app.id = ServerID.kGlobal ∧ msg.header.module = ServiceModule.kGlobal ∧
      msg.header.method = kGlobalPing then app.reply msg msg.body
  else app.reply msg (text "unsupported method")

/-- One round of `Logic`; `none` is no message, or a service that has stopped. -/
def logic : Option ServiceApp :=
  if !app.running then none
  else match app.toLogic with
    | [] => none
    | msg :: rest => some ({ app with toLogic := rest }.serve msg)

/-- A frame from the link of a gateway; what no gateway sends stops the service. -/
def receive (h : Header) (body : Bytes) (gateway : Nat) : ServiceApp :=
  if h.srcServiceID ≠ ServerID.kGateway ∨ h.seq = 0 ∨ h.playerId = 0 then
    { app with running := false }
  else match Queue.put app.toLogic ⟨h, body, gateway⟩ with
    | none => { app with running := false }
    | some items => { app with toLogic := items }

/-- The next message for the network, and what is left. -/
def send : Option (Message × ServiceApp) :=
  match app.toNet with
  | [] => none
  | m :: rest => some (m, { app with toNet := rest })

end ServiceApp

end Chat
