import GameServer.Lib.Keyed
import GameServer.Net.GatewayClientIndex
import GameServer.Net.PendingRun

/-!
# The network thread of a scene

Frames of the gateways carry messages of players. The thread keeps track of which player
is bound to which connection and passes the messages on to the worker of the player;
when a connection goes away it tells the workers for each of its players.

`submitted` keeps the messages that were passed on, numbered as the waiting tasks number them. It
is read where a waiting task is looked at again, which in the program holds its message.
-/

namespace Net

open Gateway (Bytes ClientData)
open Gateway.GatewayPlayer (kModule kOnline kOffline unpack valid)

section Hash

/-- The finalizer of splitmix64. -/
def splitMix64 (x : UInt64) : UInt64 :=
  let x := x + 0x9E3779B97F4A7C15
  let x := (x ^^^ (x >>> 30)) * 0xBF58476D1CE4E5B9
  let x := (x ^^^ (x >>> 27)) * 0x94D049BB133111EB
  x ^^^ (x >>> 31)

/-- `WorkerForActor`; the result is a `uint32_t`. -/
def workerForActor (actorId numWorkers : Nat) : Nat :=
  if numWorkers = 0 then 0
  else (splitMix64 (.ofNat actorId)).toNat % numWorkers % 2 ^ 32

end Hash

/-- A message about a player, on its way to the worker of the player, and whether it is one about
its binding. -/
structure PlayerMsg where
  Module : Nat
  Method : Nat
  seq : Nat := 0
  playerId : Nat
  session : Nat
  clientBinding : ClientData
  body : Bytes := []
  lifecycle : Bool
  deriving DecidableEq, Repr

/-- What the messages so far say of a player: the connection it is bound to, and its latest
binding. -/
structure Seat where
  route : Option Nat := none
  latest : Option ClientData := none
  deriving DecidableEq, Repr

namespace Seat

variable (s : Seat) (m : PlayerMsg)

def step : Seat :=
  if !m.lifecycle then s
  else if m.Method = kOnline then ⟨some m.session, some m.clientBinding⟩
  else { s with route := none }

/-- The player is bound as the message says. -/
def Held : Prop := s = ⟨some m.session, some m.clientBinding⟩

/-- The binding is later than all that the player had, and of the same gateway. -/
def Later (d : ClientData) : Prop :=
  ∀ old ∈ s.latest, old.gatewayId = d.gatewayId ∧ old.sceneId = d.sceneId ∧
    old.clientEpoch < d.clientEpoch

/-- A message may come if the player is bound as it says, and an online message also with a later
binding. -/
structure Allows : Prop where
  playerId : m.clientBinding.playerId = m.playerId
  valid : valid m.clientBinding = true
  session : m.session ≠ 0
  module : m.lifecycle = true ↔ m.Module = kModule
  lifecycle : m.lifecycle = true → m.body = [] ∧ (m.Method = kOnline ∨ m.Method = kOffline)
  held : (m.lifecycle = true → m.Method ≠ kOnline) → s.Held m
  online : m.lifecycle = true → m.Method = kOnline → s.Held m ∨ s.Later m.clientBinding

end Seat

/-- A stream in which each message finds its player bound as it should be. -/
abbrev Lawful : (Nat → Seat) → List PlayerMsg → Prop :=
  Keyed.Lawful PlayerMsg.playerId Seat.step Seat.Allows

/-- The seats of the players after a stream. -/
abbrev seatsAfter : (Nat → Seat) → List PlayerMsg → Nat → Seat :=
  Keyed.after PlayerMsg.playerId Seat.step

structure NetConfig where
  zoneId : Nat
  sceneId : Nat
  pending : PendingConfig

/-- The fields of a connection that decide about frames. -/
structure Conn where
  outbound : Bool
  peerServiceID : Nat
  gatewayId : Nat
  deriving DecidableEq, Repr

structure NetServer where
  conns : Table Nat Conn := ∅
  clients : GatewayClientIndex := {}
  pendingTasks : WorkerPendingTasks := {}
  nextSession : Nat := 1
  submitted : List PlayerMsg := []

/-- What the thread handles, with the clock and the answers of the workers' queues. -/
inductive NetLabel where
  | connect (conn : Conn)
  | frame (session : Nat) (head : Gateway.Header) (body : Bytes) (now : Nat)
    (send : Nat → DispatchResult)
  | close (session now : Nat) (send : Nat → DispatchResult)
  | retry (now : Nat) (send : Nat → Nat → PendingMsg → DispatchResult)

namespace NetServer

variable (c : NetConfig) (s : NetServer)

/-- `workerForPlayerId`. -/
def workerOf (playerId : Nat) : Nat := workerForActor playerId c.pending.workers

/-- `submitPlayerTask`, without the replies to the gateway. -/
def submitPlayerTask (m : PlayerMsg) (now : Nat) (send : Nat → DispatchResult) : NetServer :=
  { s with
    pendingTasks := (s.pendingTasks.submit c.pending (workerOf c m.playerId)
      { session := m.session, body := m.body } m.lifecycle now
      (send s.pendingTasks.submits)).1
    submitted := s.submitted ++ [m] }

/-- The message about a player whose connection is gone. -/
def offlineMsg (session : Nat) (d : ClientData) : PlayerMsg where
  Module := kModule
  Method := kOffline
  playerId := d.playerId
  session
  clientBinding := d
  lifecycle := true

def handleClose (session now : Nat) (send : Nat → DispatchResult) : NetServer :=
  match s.conns.lookup session with
  | none => s
  | some _ =>
    let closed := s.clients.close session
    closed.1.foldl (fun s d => s.submitPlayerTask c (offlineMsg session d) now send)
      { s with
        conns := s.conns.erase session
        clients := closed.2
        pendingTasks := s.pendingTasks.cancelSession c.pending session }

def handleHandshake (session : Nat) (conn : Conn) (body : Bytes) (now : Nat)
    (send : Nat → DispatchResult) : NetServer :=
  match Gateway.unpackBackendHandshake body with
  | none => s
  | some hs =>
    if conn.outbound ∨ hs.serviceId ≠ Gateway.ServerID.kGateway ∨
        hs.serviceId ≠ conn.peerServiceID ∨ hs.zoneId ≠ c.zoneId ∨ hs.sceneId ≠ 0 then
      s.handleClose c session now send
    else
      { s with conns := s.conns.insert session { conn with peerServiceID := hs.serviceId } }

/-- The message that a frame carries, and whether it is `online || offline`. -/
def frameMsg (session : Nat) (head : Gateway.Header) (d : ClientData) (payload : Bytes) :
    PlayerMsg where
  Module := head.module
  Method := head.method
  seq := head.seq
  playerId := head.playerId
  session
  clientBinding := d
  body := payload
  lifecycle := head.module = kModule ∧ (head.method = kOnline ∨ head.method = kOffline)

/-- The half of `onFrame` for messages with a player, after its envelope was found in order. -/
def onPlayerFrame (session : Nat) (head : Gateway.Header) (d : ClientData) (payload : Bytes)
    (now : Nat) (send : Nat → DispatchResult) : NetServer :=
  let online := head.module = kModule ∧ head.method = kOnline
  let offline := head.module = kModule ∧ head.method = kOffline
  let m := frameMsg session head d payload
  if head.module = kModule ∧ (payload ≠ [] ∨ ¬online ∧ ¬offline) then s
  else if online then
    let bound := s.clients.bind session d
    if bound.1 then { s with clients := bound.2 }.submitPlayerTask c m now send else s
  else if ¬s.clients.Matches session d then s
  else if offline then
    { s with clients := (s.clients.unbind session d).2 }.submitPlayerTask c m now send
  else s.submitPlayerTask c m now send

/-- Messages without a player are not about bindings, and are not modelled. -/
def onFrame (session : Nat) (conn : Conn) (head : Gateway.Header) (body : Bytes) (now : Nat)
    (send : Nat → DispatchResult) : NetServer :=
  if head.module = Gateway.kSYS ∧ head.method = Gateway.kHandshake then
    s.handleHandshake c session conn body now send
  else if head.playerId = 0 then s
  else
    match unpack body with
    | none => s
    | some (d, payload) =>
      if conn.peerServiceID ≠ Gateway.ServerID.kGateway ∨
          head.srcServiceID ≠ Gateway.ServerID.kGateway ∨ d.playerId ≠ head.playerId ∨
          d.sceneId ≠ c.sceneId ∨ conn.gatewayId ≠ 0 ∧ conn.gatewayId ≠ d.gatewayId then s
      else
        let conns := s.conns.insert session { conn with gatewayId := d.gatewayId }
        { s with conns }.onPlayerFrame c session head d payload now send

/-- The test of a waiting task in `retryClientNotifications`. -/
def stillBound (id : Nat) : Bool :=
  match s.submitted[id]? with
  | none => false
  | some m =>
    (s.conns.lookup m.session).isSome && decide (s.clients.Matches m.session m.clientBinding)

def step : NetLabel → Option NetServer
  | .connect conn =>
    some
      { s with
        conns := s.conns.insert s.nextSession conn
        nextSession := s.nextSession + 1 }
  | .frame session head body now send =>
    (s.conns.lookup session).map fun conn => s.onFrame c session conn head body now send
  | .close session now send => some (s.handleClose c session now send)
  | .retry now send =>
    some
      { s with
        pendingTasks := (s.pendingTasks.pump c.pending now send fun id _ => s.stillBound id).tasks }

end NetServer

end Net
