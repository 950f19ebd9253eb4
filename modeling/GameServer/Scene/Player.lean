import GameServer.Gateway.Wire
import GameServer.Scene.Bag

/-!
# Players

The state of a player on its logic thread. Every change of what is saved raises
the revision by one and marks the player dirty. An operation that throws has
changed nothing.
-/

namespace Scene

open Gateway (Bytes ClientData)

inductive Thrown where
  | logicError
  | invalidArgument
  | overflowError
  deriving DecidableEq, Repr

structure EconomyRequest where
  operationId : Bytes
  cost : UInt32 := 0
  itemId : UInt32 := 0
  count : UInt16 := 0
  rulesVersion : UInt32 := 0
  deriving DecidableEq, Repr

structure EconomyReservation where
  request : EconomyRequest
  candidate : PlayerSaveSnapshot
  preparedBag : Bag

theorem firstScene_ne : (1 : UInt32) ≠ 0 := by decide

/-- `touch` and its time are not modelled. -/
structure Player where
  playerId : Nat := 0
  epoch : Nat := 0
  session : Nat := 0
  clientBinding : ClientData := ⟨0, 0, 0, 0, 0⟩
  hp : UInt16 := 100
  mp : UInt16 := 50
  gold : UInt32 := 0
  x : Int32 := 0
  y : Int32 := 0
  dir : Int32 := 0
  sceneId : UInt32 := 1
  sceneId_ne : sceneId ≠ 0 := by exact firstScene_ne
  mutationRevision : Nat := 0
  persistedVersion : Nat := 0
  persistedRevision : Nat := 0
  bag : Bag := Bag.fresh
  economyReservation : Option EconomyReservation := none
  dirty : Bool := false

namespace Player

/-- The greatest revision. -/
def maxRevision : Nat := 2 ^ 64 - 1

variable (p : Player)

def economyPending : Bool := p.economyReservation.isSome

def recordMutation : Player := { p with mutationRevision := p.mutationRevision + 1, dirty := true }

/-- `ensureRevisionAvailable`, a change, and `recordMutation`. -/
def mutate (change : Player → Player) : Except Thrown Player :=
  if p.mutationRevision = maxRevision then .error .overflowError
  else .ok (change p).recordMutation

section Values

def set_hp (value : UInt16) : Except Thrown Player :=
  if p.hp = value then .ok p else p.mutate fun p => { p with hp := value }

def set_mp (value : UInt16) : Except Thrown Player :=
  if p.mp = value then .ok p else p.mutate fun p => { p with mp := value }

/-- A sum kept between 0 and 65535. -/
def clampedSum (value : UInt16) (delta : Int32) : UInt16 :=
  UInt16.ofNat (min 65535 (max 0 ((value.toNat : Int) + delta.toInt))).toNat

def modifyHp (delta : Int32) : Except Thrown Player := p.set_hp (clampedSum p.hp delta)

def modifyMp (delta : Int32) : Except Thrown Player := p.set_mp (clampedSum p.mp delta)

def addGold (delta : Int64) : Except Thrown Player :=
  if p.economyPending then .error .logicError
  else
    let clamped := min (2 ^ 32 - 1 - (p.gold.toNat : Int)) (max (-(p.gold.toNat : Int)) delta.toInt)
    let value := UInt32.ofNat ((p.gold.toNat : Int) + clamped).toNat
    if value = p.gold then .ok p else p.mutate fun p => { p with gold := value }

def setPos (x y dir : Int32) : Except Thrown Player :=
  if p.x = x ∧ p.y = y ∧ p.dir = dir then .ok p else p.mutate fun p => { p with x, y, dir }

def setSceneId (sceneId : UInt32) : Except Thrown Player :=
  if h : sceneId = 0 then .error .invalidArgument
  else if p.sceneId = sceneId then .ok p
  else p.mutate fun p => { p with sceneId, sceneId_ne := h }

end Values

section Bag

/-- What `addItem` and `consumeItem` do with their change of the bag. -/
def changeBag (change : Bag → Option Bag) : Except Thrown (Bool × Player) :=
  if p.economyPending then .ok (false, p)
  else if p.mutationRevision = maxRevision then .error .overflowError
  else match change p.bag with
    | none => .ok (false, p)
    | some bag => .ok (true, recordMutation { p with bag })

def addItem (itemId : UInt32) (count : UInt16) : Except Thrown (Bool × Player) :=
  p.changeBag fun bag => bag.addItem itemId count

def consumeItem (itemId : UInt32) (count : UInt16) : Except Thrown (Bool × Player) :=
  p.changeBag fun bag => bag.reduceItem itemId count

def clearBag : Except Thrown Player :=
  if p.economyPending then .error .logicError
  else if p.bag.used = 0 ∧ p.bag.nextSlot = 0 then .ok p
  else p.mutate fun p => { p with bag := p.bag.clear }

end Bag

section Save

def freezeSaveSnapshot (saveVersion lifecycleToken : Nat) : Except Thrown PlayerSaveSnapshot :=
  if 2 ^ 63 ≤ saveVersion then .error .invalidArgument
  else .ok
    { playerId := p.playerId
      hp := p.hp
      mp := p.mp
      gold := p.gold
      x := p.x
      y := p.y
      dir := p.dir
      sceneId := p.sceneId
      bagCapacity := p.bag.capacity
      bagNextSlot := p.bag.nextSlot
      items := p.bag.view
      saveVersion
      capturedRevision := p.mutationRevision
      saveLifecycleToken := lifecycleToken }

/-- `none` is a snapshot that is not restored. -/
def restoreSaveSnapshot (snapshot : PlayerSaveSnapshot) : Option Player :=
  if p.economyPending then none
  else if h : snapshot.playerId = 0 ∨ 2 ^ 63 ≤ snapshot.playerId ∨ snapshot.sceneId = 0 ∨
      2 ^ 63 ≤ snapshot.saveVersion ∨ (p.playerId ≠ 0 ∧ p.playerId ≠ snapshot.playerId) then none
  else match Bag.restore snapshot.bagCapacity snapshot.bagNextSlot snapshot.items with
    | none => none
    | some bag => some
      { p with
        bag
        playerId := snapshot.playerId
        hp := snapshot.hp
        mp := snapshot.mp
        gold := snapshot.gold
        x := snapshot.x
        y := snapshot.y
        dir := snapshot.dir
        sceneId := snapshot.sceneId
        sceneId_ne := (not_or.mp (not_or.mp (not_or.mp h).2).2).1
        mutationRevision := 0
        persistedVersion := snapshot.saveVersion
        persistedRevision := 0
        dirty := false }

def confirmSave (version revision : Nat) : Player :=
  if p.mutationRevision < revision ∨ version < p.persistedVersion then p
  else
    { p with
      persistedVersion := version
      persistedRevision := revision
      dirty := if revision = p.mutationRevision then false else p.dirty }

end Save

section Economy

def reserveEconomy (request : EconomyRequest) : Except Thrown (Bool × Player) :=
  match p.economyReservation with
  | some reservation => .ok (reservation.request = request, p)
  | none =>
    if p.playerId = 0 ∨ request.operationId.isEmpty ∨ 128 < request.operationId.length ∨
        request.itemId = 0 ∨ request.count = 0 ∨ request.rulesVersion = 0 ∨
        p.gold < request.cost then .ok (false, p)
    else if p.mutationRevision = maxRevision then .error .overflowError
    else match p.freezeSaveSnapshot p.persistedVersion 0 with
      | .error thrown => .error thrown
      | .ok frozen =>
        match (Bag.restore p.bag.capacity p.bag.nextSlot p.bag.view).bind
            fun bag => bag.addItem request.itemId request.count with
        | none => .ok (false, p)
        | some preparedBag => .ok (true,
          { p with
            economyReservation := some
              { request
                candidate :=
                  { frozen with
                    gold := p.gold - request.cost
                    items := preparedBag.view
                    bagNextSlot := preparedBag.nextSlot }
                preparedBag } })

def commitEconomy (operationId : Bytes) : Except Thrown (Bool × Player) :=
  match p.economyReservation with
  | none => .ok (false, p)
  | some reservation =>
    if reservation.request.operationId ≠ operationId then .ok (false, p)
    else if p.mutationRevision = maxRevision then .error .overflowError
    else .ok (true, recordMutation
      { p with
        gold := reservation.candidate.gold
        bag := reservation.preparedBag
        economyReservation := none })

def cancelEconomy (operationId : Bytes) : Bool × Player :=
  match p.economyReservation with
  | none => (false, p)
  | some reservation =>
    if reservation.request.operationId ≠ operationId then (false, p)
    else (true, { p with economyReservation := none })

end Economy

/-- The operations of a player. -/
inductive Op where
  | set_hp (value : UInt16)
  | modifyHp (delta : Int32)
  | set_mp (value : UInt16)
  | modifyMp (delta : Int32)
  | addGold (delta : Int64)
  | setPos (x y dir : Int32)
  | setSceneId (sceneId : UInt32)
  | addItem (itemId : UInt32) (count : UInt16)
  | consumeItem (itemId : UInt32) (count : UInt16)
  | clearBag
  | reserveEconomy (request : EconomyRequest)
  | commitEconomy (operationId : Bytes)
  | cancelEconomy (operationId : Bytes)
  | restoreSaveSnapshot (snapshot : PlayerSaveSnapshot)
  | confirmSave (version revision : Nat)

/-- What an operation leaves, also if it throws. -/
def left {ε α : Type} (p : Player) (get : α → Player) : Except ε α → Player
  | .error _ => p
  | .ok a => get a

def apply : Op → Player
  | .set_hp value => p.left id (p.set_hp value)
  | .modifyHp delta => p.left id (p.modifyHp delta)
  | .set_mp value => p.left id (p.set_mp value)
  | .modifyMp delta => p.left id (p.modifyMp delta)
  | .addGold delta => p.left id (p.addGold delta)
  | .setPos x y dir => p.left id (p.setPos x y dir)
  | .setSceneId sceneId => p.left id (p.setSceneId sceneId)
  | .addItem itemId count => p.left (·.2) (p.addItem itemId count)
  | .consumeItem itemId count => p.left (·.2) (p.consumeItem itemId count)
  | .clearBag => p.left id p.clearBag
  | .reserveEconomy request => p.left (·.2) (p.reserveEconomy request)
  | .commitEconomy operationId => p.left (·.2) (p.commitEconomy operationId)
  | .cancelEconomy operationId => (p.cancelEconomy operationId).2
  | .restoreSaveSnapshot snapshot => (p.restoreSaveSnapshot snapshot).getD p
  | .confirmSave version revision => p.confirmSave version revision

/-- A player after a history of operations. -/
def run (ops : List Op) : Player := ops.foldl apply p

end Player

end Scene
