import GameServer.Lib.Table
import GameServer.Gateway.Wire

/-!
# Client sessions and return routes

A session is what the gateway knows of one client connection; it becomes a
player's when the client authenticates. A return route remembers which session
a forwarded request came from.
-/

namespace Gateway

/-- The number in the name of a connection; 0 is the empty name. -/
abbrev ConnName := Nat

def uint32Max : Nat := 4294967295

structure ClientSession where
  sessionId : Nat
  epoch : Nat := 0
  playerId : Nat := 0
  dstService : Nat := 0
  sceneId : Nat := 0
  backendChannelId : Nat := 0
  sceneIncarnation : Nat := 0
  sceneConnName : ConnName := 0
  authed : Bool := false
  sceneOnlineSubmitted : Bool := false
  conn : ConnName
  deriving DecidableEq, Repr

namespace ClientSession

/-- The session talks to another service: its scene is forgotten. -/
def routed (s : ClientSession) (dstService : Nat) : ClientSession :=
  if s.dstService ≠ dstService then
    { s with
      dstService := dstService
      sceneId := 0
      backendChannelId := 0
      sceneIncarnation := 0
      sceneConnName := 0 }
  else s

/-- The session becomes a player's. -/
def bound (s : ClientSession) (playerId dstService epoch : Nat) : ClientSession :=
  { s.routed dstService with
    playerId := playerId
    authed := true
    epoch := epoch
    sceneOnlineSubmitted := false }

end ClientSession

structure ClientSessionTable where
  sessions : Table Nat ClientSession := ∅
  playerIndex : Table Nat Nat := ∅
  playerEpoch : Table Nat Nat := ∅
  nextSessionId : Nat := 1

namespace ClientSessionTable

def create (t : ClientSessionTable) (conn : ConnName) (defaultDstService : Nat) :
    Nat × ClientSessionTable :=
  (t.nextSessionId,
    { t with
      sessions := t.sessions.insert t.nextSessionId
        { sessionId := t.nextSessionId, dstService := defaultDstService, conn := conn }
      nextSessionId := t.nextSessionId + 1 })

def get (t : ClientSessionTable) (sessionId : Nat) : Option ClientSession :=
  t.sessions.lookup sessionId

def findByPlayer (t : ClientSessionTable) (playerId : Nat) : Option ClientSession :=
  if playerId = 0 then none else (t.playerIndex.lookup playerId).bind t.get

def lastEpoch (t : ClientSessionTable) (playerId : Nat) : Nat :=
  (t.playerEpoch.lookup playerId).getD 0

/-- The other session of a player that has to give way; 0 is none. -/
def rival (t : ClientSessionTable) (sessionId playerId : Nat) : Nat :=
  match t.playerIndex.lookup playerId with
  | some other => if other ≠ sessionId then other else 0
  | none => 0

/-- A session that gave way is not authenticated any more. -/
def degrade (t : ClientSessionTable) (sessionId : Nat) : Table Nat ClientSession :=
  match t.sessions.lookup sessionId with
  | some old => t.sessions.insert sessionId { old with authed := false, playerId := 0 }
  | none => t.sessions

/-- `Bind`, with the session that gave way; `none` is its `false`. -/
def bind (t : ClientSessionTable) (sessionId playerId dstService : Nat) :
    Option (Nat × ClientSessionTable) :=
  if playerId = 0 then none
  else match t.sessions.lookup sessionId with
    | none => none
    | some s =>
      if t.lastEpoch playerId = uint32Max then none
      else
        let kicked := t.rival sessionId playerId
        let sessions := if kicked ≠ 0 then t.degrade kicked else t.sessions
        let epoch := t.lastEpoch playerId + 1
        some (kicked,
          { t with
            sessions := sessions.insert sessionId (s.bound playerId dstService epoch)
            playerIndex := t.playerIndex.insert playerId sessionId
            playerEpoch := t.playerEpoch.insert playerId epoch })

/-- `SetDstService`; a change of service is a new epoch of an authenticated session. -/
def setDstService (t : ClientSessionTable) (sessionId dstService : Nat) :
    Option ClientSessionTable :=
  match t.sessions.lookup sessionId with
  | none => none
  | some s =>
    if s.dstService = dstService then some t
    else if s.authed then
      let last := t.lastEpoch s.playerId
      if last = uint32Max then none
      else some
        { t with
          sessions := t.sessions.insert sessionId
            { s.routed dstService with epoch := last + 1, sceneOnlineSubmitted := false }
          playerEpoch := t.playerEpoch.insert s.playerId (last + 1) }
    else some
      { t with
        sessions := t.sessions.insert sessionId
          { s.routed dstService with sceneOnlineSubmitted := false } }

/-- `SetSceneBinding`; its caller does not look at the result. -/
def setSceneBinding (t : ClientSessionTable) (sessionId sceneId channelId sceneIncarnation : Nat)
    (connName : ConnName) : ClientSessionTable :=
  if sceneId = 0 ∨ sceneIncarnation = 0 ∨ connName = 0 then t
  else match t.sessions.lookup sessionId with
    | none => t
    | some s =>
      if !s.authed ∨ s.dstService ≠ ServerID.kScene ∨ s.sceneId ≠ 0 then t
      else
        { t with
          sessions := t.sessions.insert sessionId
            { s with
              sceneId := sceneId
              backendChannelId := channelId
              sceneIncarnation := sceneIncarnation
              sceneConnName := connName } }

/-- The session still has the binding it is expected to have. -/
def current (s expected : ClientSession) : Bool :=
  s.authed ∧ s.playerId ≠ 0 ∧ s.dstService = ServerID.kScene ∧ s.sceneId ≠ 0 ∧ s.sceneIncarnation ≠ 0 ∧
    s.sceneConnName ≠ 0 ∧ s.playerId = expected.playerId ∧ s.epoch = expected.epoch ∧
    s.dstService = expected.dstService ∧ s.sceneId = expected.sceneId ∧
    s.backendChannelId = expected.backendChannelId ∧
    s.sceneIncarnation = expected.sceneIncarnation ∧ s.sceneConnName = expected.sceneConnName

/-- `SubmitScene`: `submit` is told whether the session has to be declared, and may fail. -/
def submitScene {α : Type} (t : ClientSessionTable) (expected : ClientSession)
    (submit : Bool → Option α) : Option (α × ClientSessionTable) :=
  match t.sessions.lookup expected.sessionId with
  | none => none
  | some s =>
    if current s expected then
      (submit (!s.sceneOnlineSubmitted)).map fun out =>
        (out,
          { t with
            sessions := t.sessions.insert expected.sessionId
              { s with sceneOnlineSubmitted := true } })
    else none

/-- `Erase`; the index may already point to another session of the player. -/
def erase (t : ClientSessionTable) (sessionId : Nat) : ClientSessionTable :=
  match t.sessions.lookup sessionId with
  | none => t
  | some s =>
    { t with
      sessions := t.sessions.erase sessionId
      playerIndex :=
        if s.playerId ≠ 0 ∧ t.playerIndex.lookup s.playerId = some sessionId then
          t.playerIndex.erase s.playerId
        else t.playerIndex }

def authedSessions (t : ClientSessionTable) : List ClientSession :=
  (t.sessions.entries.map (·.2)).filter (·.authed)

end ClientSessionTable

structure ReturnRoute where
  internalSeq : Nat
  clientSessionId : Nat
  clientRequestId : Nat
  backendServiceId : Nat
  backendZoneId : Nat
  backendSceneId : Nat
  backendChannelId : Nat
  backendSceneIncarnation : Nat
  backendConnName : ConnName
  playerId : Nat
  module : Nat
  method : Nat
  sessionEpoch : Nat
  createdAtMs : Int
  deriving DecidableEq, Repr

abbrev ReturnRouteTable := Table Nat ReturnRoute

namespace ReturnRouteTable

def add (t : ReturnRouteTable) (r : ReturnRoute) (maxSize : Nat) : Option ReturnRouteTable :=
  if r.internalSeq = 0 ∨ maxSize ≤ t.size then none else some (t.insert r.internalSeq r)

def take (t : ReturnRouteTable) (internalSeq : Nat) : Option (ReturnRoute × ReturnRouteTable) :=
  (t.lookup internalSeq).map fun r => (r, t.erase internalSeq)

def eraseBySession (t : ReturnRouteTable) (clientSessionId : Nat) : ReturnRouteTable :=
  t.keep fun _ r => r.clientSessionId ≠ clientSessionId

def expired (nowMs : Int) (ttlMs : Nat) (r : ReturnRoute) : Bool := nowMs - r.createdAtMs > ttlMs

def sweepExpired (t : ReturnRouteTable) (nowMs : Int) (ttlMs : Nat) :
    List ReturnRoute × ReturnRouteTable :=
  ((t.entries.map (·.2)).filter (expired nowMs ttlMs), t.keep fun _ r => !expired nowMs ttlMs r)

end ReturnRouteTable

end Gateway
