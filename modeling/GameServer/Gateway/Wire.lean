import Mathlib.Algebra.Group.Int.Defs
import Mathlib.Algebra.Group.Nat.Defs
import Mathlib.Data.List.Basic

/-!
# What goes over the wire

Two protocols meet in the gateway: the frames of the public clients and the
frames between the services. The headers are records here; the bodies that the
gateway itself reads or writes are bytes.
-/

namespace Gateway

abbrev Bytes := List UInt8

instance : LawfulBEq Bytes := inferInstance

/-- The bytes of an ASCII text. -/
def text (s : String) : Bytes := s.toList.map fun c => UInt8.ofNat c.toNat

/-- The low bytes of a number, the least one first. -/
def putLE (bytes v : Nat) : Bytes := (List.range bytes).map fun i => UInt8.ofNat (v / 256 ^ i)

def getLE (s : Bytes) : Nat := s.foldr (fun b v => b.toNat + 256 * v) 0

/-- The field of so many bytes at an offset. -/
def field (s : Bytes) (off bytes : Nat) : Nat := getLE ((s.drop off).take bytes)

namespace ServerID

def kServiceAny : Nat := 0
def kGateway : Nat := 1
def kDB : Nat := 2
def kChat : Nat := 3
def kGlobal : Nat := 4
def kScene : Nat := 8

end ServerID

namespace NetMessageType

def kGatewayMsg : Nat := 1
def kDBMsg : Nat := 2
def kGlobalMsg : Nat := 3
def kChatMsg : Nat := 4
def kSceneMsg : Nat := 10

end NetMessageType

def kSYS : Nat := 1
def kHandshake : Nat := 1

namespace ServiceModule

def kChat : Nat := 100
def kGlobal : Nat := 101

end ServiceModule

namespace ServiceMethod

def kPrivateChat : Nat := 1
def kZoneShout : Nat := 2

end ServiceMethod

/-- The header of a frame between services. -/
structure Header where
  retrFlag : Nat := 0
  msgType : Nat := 0
  module : Nat := 0
  method : Nat := 0
  seq : Nat := 0
  playerId : Nat := 0
  srcServiceID : Nat := 0
  dstServiceID : Nat := 0
  deriving DecidableEq, Repr

structure GateFrame where
  head : Header
  body : Bytes
  deriving DecidableEq, Repr

def makeHeader (msgType module method seq playerId srcServiceID dstServiceID : Nat) : Header where
  retrFlag := 0
  msgType := msgType
  module := module
  method := method
  seq := seq
  playerId := playerId
  srcServiceID := srcServiceID
  dstServiceID := dstServiceID

def linkTypeOf (serviceId : Nat) : Nat :=
  if serviceId = ServerID.kGateway then NetMessageType.kGatewayMsg
  else if serviceId = ServerID.kDB then NetMessageType.kDBMsg
  else if serviceId = ServerID.kChat then NetMessageType.kChatMsg
  else if serviceId = ServerID.kGlobal then NetMessageType.kGlobalMsg
  else NetMessageType.kSceneMsg

structure BackendHandshake where
  protocolVersion : Nat := 1
  serviceId : Nat := 0
  zoneId : Nat := 0
  sceneId : Nat := 0
  sceneIncarnation : Nat := 0
  targetGatewayId : Nat := 0
  channelId : Nat := 0
  deriving DecidableEq, Repr

def validBackendHandshake (h : BackendHandshake) : Bool :=
  if h.protocolVersion ≠ 1 ∨ h.serviceId = 0 ∨ h.zoneId = 0 ∨ h.targetGatewayId = 0 then false
  else if h.serviceId = ServerID.kScene then h.sceneId ≠ 0 ∧ h.sceneIncarnation ≠ 0
  else h.sceneId = 0 ∧ h.sceneIncarnation = 0 ∧ h.channelId = 0

def packBackendHandshake (h : BackendHandshake) : Bytes :=
  putLE 2 h.protocolVersion ++ putLE 1 h.serviceId ++ putLE 4 h.zoneId ++ putLE 4 h.sceneId ++
    putLE 8 h.sceneIncarnation ++ putLE 4 h.targetGatewayId ++ putLE 4 h.channelId

def unpackBackendHandshake (body : Bytes) : Option BackendHandshake :=
  if body.length ≠ 27 then none
  else
    let parsed : BackendHandshake :=
      { protocolVersion := field body 0 2
        serviceId := field body 2 1
        zoneId := field body 3 4
        sceneId := field body 7 4
        sceneIncarnation := field body 11 8
        targetGatewayId := field body 19 4
        channelId := field body 23 4 }
    if validBackendHandshake parsed then some parsed else none

/-- Who a client is, as the gateway tells a scene. -/
structure ClientData where
  playerId : Nat
  clientSession : Nat
  clientEpoch : Nat
  gatewayId : Nat
  sceneId : Nat
  deriving DecidableEq, Repr

namespace GatewayPlayer

def kModule : Nat := 200
def kOnline : Nat := 1
def kOffline : Nat := 2
def kHeaderSize : Nat := 32

def valid (d : ClientData) : Bool :=
  d.playerId ≠ 0 ∧ d.clientSession ≠ 0 ∧ d.clientEpoch ≠ 0 ∧ d.gatewayId ≠ 0 ∧ d.sceneId ≠ 0

def pack (d : ClientData) (payload : Bytes) : Bytes :=
  putLE 2 0x4750 ++ putLE 2 1 ++ putLE 8 d.playerId ++ putLE 8 d.clientSession ++
    putLE 4 d.clientEpoch ++ putLE 4 d.gatewayId ++ putLE 4 d.sceneId ++ payload

end GatewayPlayer

inductive ClientKind where
  | request | response | push | error | control | unknown
  deriving DecidableEq, Repr

def kClientSysModule : Nat := 1
def kRoleNameSize : Nat := 12

namespace ClientSysMethod

def kAuth : Nat := 1
def kAuthAck : Nat := 2
def kAuthFail : Nat := 3
def kBindService : Nat := 4
def kBindServiceAck : Nat := 5
def kPing : Nat := 6
def kPong : Nat := 7

end ClientSysMethod

/-- The header of a client frame; the role name is empty or valid. -/
structure ClientHeader where
  kind : ClientKind := .request
  module : Nat := 0
  method : Nat := 0
  requestId : Nat := 0
  roleName : Bytes := []
  deriving DecidableEq, Repr

structure ClientFrame where
  head : ClientHeader
  body : Bytes
  deriving DecidableEq, Repr

/-- A continuation byte of UTF-8. -/
def continues (b : UInt8) : Bool := b &&& 0xc0 = 0x80

/-- The loop of `ValidRoleName`: UTF-8 without control characters. -/
def validUtf8 : Bytes → Bool
  | [] => true
  | c :: rest =>
    if c < 0x20 ∨ c = 0x7f then false
    else if c < 0x80 then validUtf8 rest
    else if 0xc2 ≤ c ∧ c ≤ 0xdf then
      match rest with
      | b1 :: rest => continues b1 && validUtf8 rest
      | _ => false
    else if 0xe0 ≤ c ∧ c ≤ 0xef then
      match rest with
      | b1 :: b2 :: rest =>
        continues b1 && continues b2 && !(c = 0xe0 ∧ b1 < 0xa0) && !(c = 0xed ∧ 0xa0 ≤ b1) &&
          validUtf8 rest
      | _ => false
    else if 0xf0 ≤ c ∧ c ≤ 0xf4 then
      match rest with
      | b1 :: b2 :: b3 :: rest =>
        continues b1 && continues b2 && continues b3 && !(c = 0xf0 ∧ b1 < 0x90) &&
          !(c = 0xf4 ∧ 0x90 ≤ b1) && validUtf8 rest
      | _ => false
    else false

def validRoleName (name : Bytes) : Bool := name.length ≤ kRoleNameSize && validUtf8 name

/-- A role name as it stands in a body: filled up with zeros. -/
def padName (name : Bytes) : Bytes := name ++ List.replicate (kRoleNameSize - name.length) 0

/-- The role name in a field, provided only zeros follow it. -/
def unpadName (field : Bytes) : Option Bytes :=
  let name := field.takeWhile (· ≠ 0)
  if (field.drop name.length).all (· = 0) then some name else none

def makeAuthBody (playerId ticket : Nat) : Bytes := putLE 8 playerId ++ putLE 8 ticket

def parseAuthBody (body : Bytes) : Option (Nat × Nat) :=
  if body.length = 16 then some (field body 0 8, field body 8 8) else none

def makeAuthAckBody (playerId sessionId epoch zoneId dstService : Nat) : Bytes :=
  putLE 8 playerId ++ putLE 8 sessionId ++ putLE 4 epoch ++ putLE 4 zoneId ++ putLE 1 dstService

def makeServiceBody (serviceId : Nat) : Bytes := putLE 1 serviceId

def parseServiceBody (body : Bytes) : Option Nat :=
  if body.length = 1 then some (field body 0 1) else none

end Gateway
