import GameServer.Db.TransactionExecutor

/-!
# Snapshots of a player and their statements

What is saved of a player, the transaction that saves it and the one that loads it
again. The checks refuse a snapshot that could not be stored as it is, and rows
that could not have been saved.
-/

namespace Scene

open Gateway (Bytes text)
open Db (DbResult DbTask SqlStep Val decimal toDecimal)

structure ItemStack where
  itemId : UInt32
  count : UInt16
  slot : UInt16
  deriving DecidableEq, Repr

structure PlayerSaveSnapshot where
  playerId : Nat := 0
  hp : UInt16 := 100
  mp : UInt16 := 50
  gold : UInt32 := 0
  x : Int32 := 0
  y : Int32 := 0
  dir : Int32 := 0
  sceneId : UInt32 := 1
  bagCapacity : Nat := 64
  bagNextSlot : Nat := 0
  items : List ItemStack := []
  saveVersion : Nat := 0
  capturedRevision : Nat := 0
  saveLifecycleToken : Nat := 0
  deriving DecidableEq, Repr

/-- The order that stacks are stored and shown in. -/
def bySlot (items : List ItemStack) : List ItemStack :=
  items.mergeSort fun a b => decide (a.slot ≤ b.slot)

namespace PlayerSnapshotDao

section Statements

/-- A long text in pieces. -/
def sql (pieces : List String) : Bytes := pieces.flatMap text

def selectPlayerForUpdate : Bytes :=
  sql ["SELECT hp,mp,gold,pos_x,pos_y,dir,scene_id,save_version ", "FROM player WHERE id=? FOR UPDATE"]

def selectPlayer : Bytes :=
  sql ["SELECT hp,mp,gold,pos_x,pos_y,dir,scene_id,save_version ", "FROM player WHERE id=?"]

def selectContainer : Bytes :=
  sql ["SELECT capacity,next_slot,container_version ",
    "FROM player_container WHERE player_id=? AND container_kind=1"]

def selectItems : Bytes :=
  sql ["SELECT item_id,slot,quantity ",
    "FROM player_item_stack WHERE player_id=? ", "AND container_kind=1 ORDER BY slot"]

def updatePlayer : Bytes :=
  sql ["UPDATE player SET hp=?,mp=?,gold=?,pos_x=?,pos_y=?,", "dir=?,scene_id=?,save_version=?,",
    "updated_at=CURRENT_TIMESTAMP(3) ", "WHERE id=? AND save_version<?"]

def insertContainer : Bytes :=
  sql ["INSERT INTO player_container(", "player_id,container_kind,capacity,next_slot,",
    "container_version) VALUES(?,1,?,?,?) ", "ON DUPLICATE KEY UPDATE capacity=VALUES(capacity),",
    "next_slot=VALUES(next_slot),", "container_version=VALUES(container_version),",
    "updated_at=CURRENT_TIMESTAMP(3)"]

def deleteItems : Bytes :=
  sql ["DELETE FROM player_item_stack ", "WHERE player_id=? AND container_kind=1"]

def insertItem : Bytes :=
  sql ["INSERT INTO player_item_stack(", "player_id,container_kind,item_id,slot,quantity) ",
    "VALUES(?,1,?,?,?)"]

end Statements

section Save

/-- The stacks of a snapshot that a save accepts. -/
def validItems (nextSlot : Nat) (items : List ItemStack) : Bool :=
  items.all (fun item => item.itemId ≠ 0 ∧ item.count ≠ 0 ∧ item.slot.toNat < nextSlot) ∧
    (items.map (·.itemId)).Nodup ∧ (items.map (·.slot)).Nodup

def updateStep (s : PlayerSaveSnapshot) : SqlStep :=
  { args := [updatePlayer, decimal s.hp.toNat, decimal s.mp.toNat, decimal s.gold.toNat,
      toDecimal s.x.toInt, toDecimal s.y.toInt, toDecimal s.dir.toInt, decimal s.sceneId.toNat,
      decimal s.saveVersion, decimal s.playerId, decimal s.saveVersion]
    expectedAffected := 1 }

def containerStep (s : PlayerSaveSnapshot) : SqlStep :=
  { args := [insertContainer, decimal s.playerId, decimal s.bagCapacity, decimal s.bagNextSlot,
      decimal s.saveVersion] }

def eraseStep (playerId : Nat) : SqlStep := { args := [deleteItems, decimal playerId] }

def insertStep (playerId : Nat) (item : ItemStack) : SqlStep :=
  { args := [insertItem, decimal playerId, decimal item.itemId.toNat, decimal item.slot.toNat,
      decimal item.count.toNat]
    expectedAffected := 1 }

def verifyStep (playerId : Nat) (statement : Bytes) (expected : List Val) : SqlStep :=
  { kind := 1
    args := [statement, decimal playerId]
    checkData := true
    expectedData := .arr expected }

def playerValues (s : PlayerSaveSnapshot) : List Int :=
  [s.hp.toNat, s.mp.toNat, s.gold.toNat, s.x.toInt, s.y.toInt, s.dir.toInt, s.sceneId.toNat,
    s.saveVersion]

def containerValues (s : PlayerSaveSnapshot) : List Int :=
  [s.bagCapacity, s.bagNextSlot, s.saveVersion]

def itemValues (item : ItemStack) : List Int :=
  [item.itemId.toNat, item.slot.toNat, item.count.toNat]

def row (values : List Int) : Val := .arr (values.map .int)

/-- The task of a save that is accepted. -/
def saveTask (s : PlayerSaveSnapshot) : DbTask :=
  { kind := 5
    playerId := s.playerId
    saveVersion := s.saveVersion
    capturedRevision := s.capturedRevision
    saveLifecycleToken := s.saveLifecycleToken
    steps :=
      updateStep s :: containerStep s :: eraseStep s.playerId ::
        (bySlot s.items).map (insertStep s.playerId)
    verification :=
      [verifyStep s.playerId selectPlayer [row (playerValues s)],
        verifyStep s.playerId selectContainer [row (containerValues s)],
        verifyStep s.playerId selectItems ((bySlot s.items).map fun item => row (itemValues item))] }

def buildSave (s : PlayerSaveSnapshot) : Except String DbTask :=
  if s.playerId = 0 ∨ 2 ^ 63 ≤ s.playerId ∨ s.saveVersion = 0 ∨ 2 ^ 63 ≤ s.saveVersion ∨
      s.sceneId = 0 ∨ s.bagCapacity = 0 ∨ 65536 < s.bagCapacity ∨ 65536 < s.bagNextSlot ∨
      s.bagCapacity < s.items.length then
    .error "invalid player snapshot metadata"
  else if !validItems s.bagNextSlot s.items then .error "invalid or duplicate item stack"
  else .ok (saveTask s)

end Save

section Load

/-- `none` is the exception for an identity that is not one of the database. -/
def buildLoad (playerId : Nat) : Option DbTask :=
  if playerId = 0 ∨ 2 ^ 63 ≤ playerId then none
  else some
    { kind := 4
      playerId
      steps := [selectPlayerForUpdate, selectContainer, selectItems].map fun statement =>
        { kind := 1, args := [statement, decimal playerId] } }

/-- The integers of a row. -/
def ints : List Val → Option (List Int)
  | [] => some []
  | .int i :: vs => (ints vs).map (i :: ·)
  | _ :: _ => none

def fits (lo hi i : Int) : Bool := lo ≤ i ∧ i ≤ hi

/-- The row of the player, with an empty bag. -/
def parsePlayer (playerId : Nat) (row : List Val) : Except String PlayerSaveSnapshot :=
  match ints row with
  | some [hp, mp, gold, x, y, dir, sceneId, version] =>
    if !fits 0 65535 hp ∨ !fits 0 65535 mp ∨ !fits 0 (2 ^ 32 - 1) gold ∨
        !fits 1 (2 ^ 32 - 1) sceneId ∨ version < 0 then .error "player state out of range"
    else if !fits (-2 ^ 31) (2 ^ 31 - 1) x ∨ !fits (-2 ^ 31) (2 ^ 31 - 1) y ∨
        !fits (-2 ^ 31) (2 ^ 31 - 1) dir then .error "position out of range"
    else .ok
      { playerId
        hp := UInt16.ofNat hp.toNat
        mp := UInt16.ofNat mp.toNat
        gold := UInt32.ofNat gold.toNat
        x := Int32.ofInt x
        y := Int32.ofInt y
        dir := Int32.ofInt dir
        sceneId := UInt32.ofNat sceneId.toNat
        saveVersion := version.toNat }
  | _ => .error "noninteger player state"

/-- The metadata of the bag, which only a player that was never saved may lack. -/
def parseContainer (snap : PlayerSaveSnapshot) (container items : List Val) :
    Except String PlayerSaveSnapshot :=
  match container with
  | [] =>
    if snap.saveVersion ≠ 0 ∨ !items.isEmpty then .error "missing persisted bag metadata"
    else .ok snap
  | .arr values :: _ =>
    if values.length ≠ 3 then .error "malformed bag metadata"
    else match ints values with
      | some [capacity, nextSlot, version] =>
        if !fits 1 65536 capacity ∨ !fits 0 65536 nextSlot ∨ version ≠ snap.saveVersion then
          .error "bag metadata/version mismatch"
        else .ok { snap with bagCapacity := capacity.toNat, bagNextSlot := nextSlot.toNat }
      | _ => .error "noninteger bag metadata"
  | _ => .error "malformed bag metadata"

/-- The loop over the item rows. -/
def parseItems (nextSlot : Nat) : List Val → List ItemStack → Except String (List ItemStack)
  | [], parsed => .ok parsed
  | .arr values :: rows, parsed =>
    if values.length ≠ 3 then .error "malformed item row"
    else match ints values with
      | some [itemId, slot, count] =>
        let item : ItemStack :=
          { itemId := UInt32.ofNat itemId.toNat
            count := UInt16.ofNat count.toNat
            slot := UInt16.ofNat slot.toNat }
        if !fits 1 (2 ^ 32 - 1) itemId ∨ slot < 0 ∨ (nextSlot : Int) ≤ slot ∨ 65535 < slot ∨
            !fits 1 65535 count ∨ item.itemId ∈ parsed.map (·.itemId) ∨
            item.slot ∈ parsed.map (·.slot) then .error "invalid or duplicate stack"
        else parseItems nextSlot rows (parsed ++ [item])
      | _ => .error "noninteger item row"
  | _ :: _, _ => .error "malformed item row"

def parseLoad (playerId : Nat) (result : DbResult) : Except String PlayerSaveSnapshot :=
  match result.data with
  | .arr [main, container, items] =>
    if result.errcode ≠ 0 ∨ result.classification ≠ .success ∨ result.playerId ≠ playerId then
      .error "invalid player load result"
    else match main, container, items with
      | .arr [.arr row], .arr container, .arr items =>
        if row.length ≠ 8 ∨ 1 < container.length then .error "player missing or malformed rows"
        else do
          let snap ← parsePlayer playerId row
          let snap ← parseContainer snap container items
          let parsed ← parseItems snap.bagNextSlot items []
          if snap.bagCapacity < parsed.length then .error "bag capacity exceeded"
          else .ok { snap with items := parsed }
      | _, _, _ => .error "player missing or malformed rows"
  | _ => .error "invalid player load result"

end Load

end PlayerSnapshotDao

end Scene
