import GameServer.Lib.Table

/-!
# AOI data

The records the workers exchange about entities, and the two static inputs of a
scene: the configuration and the map. Both carry the checks that `Validate` and
`Map::Load` make, so a scene that was refused at start-up cannot be written down.
-/

namespace Aoi

abbrev WorkerId := Nat
abbrev EntityId := Nat

def int32Max : Nat := 2147483647
def uint32Max : Nat := 4294967295
def uint64Max : Nat := 18446744073709551615

inductive EntityKind where
  | player | monster | npc | drop | invalid
  deriving DecidableEq, Repr

def EntityKind.code : EntityKind → Nat
  | .player => 1
  | .monster => 2
  | .npc => 3
  | .drop => 4
  | .invalid => 255

/-- The anonymous `ValidEntityKind`; any value outside the enumeration counts as `invalid`. -/
def validEntityKind : EntityKind → Bool
  | .invalid => false
  | _ => true

inductive AoiMsgKind where
  | entry | move | leave | invalid
  deriving DecidableEq, Repr

structure AoiEntity where
  entityId : EntityId
  kind : EntityKind
  businessId : Nat
  x : Nat
  y : Nat
  dir : Int
  cellIdx : Nat
  entityGeneration : Nat
  actorEpoch : Nat
  spatialVersion : Nat
  ownerWorker : WorkerId
  ownerSeq : Nat
  deriving DecidableEq, Repr

structure AoiEvent where
  msgKind : AoiMsgKind
  entityKind : EntityKind
  eId : EntityId
  businessId : Nat
  target_x : Nat
  target_y : Nat
  target_dir : Int
  entityGeneration : Nat
  actorEpoch : Nat
  spatialVersion : Nat
  ownerThreadId : WorkerId
  ownerSeq : Nat
  deriving DecidableEq, Repr

structure AoiOwnerSnapshot where
  seq : Nat
  ownerWorkerId : WorkerId
  ents : List AoiEntity
  deriving DecidableEq, Repr

/-- `updateEntity` overwrites every field, so the old entity does not matter. -/
def updateEntity (ev : AoiEvent) (cellIdx : Nat) : AoiEntity where
  entityId := ev.eId
  kind := ev.entityKind
  businessId := ev.businessId
  x := ev.target_x
  y := ev.target_y
  dir := ev.target_dir
  cellIdx := cellIdx
  entityGeneration := ev.entityGeneration
  actorEpoch := ev.actorEpoch
  spatialVersion := ev.spatialVersion
  ownerWorker := ev.ownerThreadId
  ownerSeq := ev.ownerSeq

/-- The anonymous `FromEntity` of the service. -/
def fromEntity (ent : AoiEntity) (kind : AoiMsgKind) : AoiEvent where
  msgKind := kind
  entityKind := ent.kind
  eId := ent.entityId
  businessId := ent.businessId
  target_x := ent.x
  target_y := ent.y
  target_dir := ent.dir
  entityGeneration := ent.entityGeneration
  actorEpoch := ent.actorEpoch
  spatialVersion := ent.spatialVersion
  ownerThreadId := ent.ownerWorker
  ownerSeq := ent.ownerSeq

structure AoiConfig where
  tickMs : Nat := 50
  aoiKind : String := "nineGrid"
  cellSize : Nat := 50
  viewRange : Nat := 50

def AoiConfig.viewRadiusCells (cfg : AoiConfig) : Nat :=
  if cfg.cellSize = 0 then 0
  else cfg.viewRange / cfg.cellSize + (if cfg.viewRange % cfg.cellSize ≠ 0 then 1 else 0)

def AoiConfig.validate (cfg : AoiConfig) : Except String Unit :=
  if cfg.aoiKind ≠ "nineGrid" then
    .error "SceneServer.aoi.aoiKind only supports nineGrid"
  else if cfg.tickMs = 0 then
    .error "SceneServer.aoi.tickMs must be > 0"
  else if cfg.cellSize = 0 ∨ cfg.cellSize > int32Max then
    .error "SceneServer.aoi.nineGrid.cellSize must be in [1, INT32_MAX]"
  else if cfg.viewRange > int32Max then
    .error "SceneServer.aoi.nineGrid.viewRange must be <= INT32_MAX"
  else .ok ()

/-- `length / cellSize` rounded up. -/
def cellsAcross (length cellSize : Nat) : Nat :=
  if cellSize = 0 then 0
  else length / cellSize + (if length % cellSize ≠ 0 then 1 else 0)

/-- A map that `Map::Load` accepted. The blocks play no part in AOI. -/
structure Map where
  length : Nat
  width : Nat
  cellSize : Nat
  cellSize_pos : 0 < cellSize
  cellSize_le : cellSize ≤ int32Max
  length_pos : 0 < length
  width_pos : 0 < width
  length_le : length ≤ int32Max
  width_le : width ≤ int32Max
  cells_le : cellsAcross length cellSize * cellsAcross width cellSize ≤ uint32Max

namespace Map

def getCols (m : Map) : Nat := cellsAcross m.length m.cellSize
def getRows (m : Map) : Nat := cellsAcross m.width m.cellSize
def getMinX (_ : Map) : Nat := 0
def getMinY (_ : Map) : Nat := 0

/-- `Map::contains`; the coordinates are signed, as a player's are. -/
def contains (m : Map) (x y : Int) : Bool :=
  0 ≤ x ∧ 0 ≤ y ∧ x < m.length ∧ y < m.width

end Map

/-- The static inputs with which the `AoiService` constructor does not throw. -/
structure Scene where
  cfg : AoiConfig
  map : Map
  valid : cfg.validate = .ok ()
  sameCell : map.cellSize = cfg.cellSize

theorem cellsAcross_le {length cellSize : Nat} (h : 0 < cellSize) :
    cellsAcross length cellSize ≤ length := by
  have hdiv := Nat.div_add_mod length cellSize
  have hle : length / cellSize ≤ cellSize * (length / cellSize) := Nat.le_mul_of_pos_left _ h
  unfold cellsAcross
  split
  · omega
  · split <;> omega

theorem lt_cellsAcross_mul {length cellSize p : Nat} (h : 0 < cellSize) (hp : p < length) :
    p < cellsAcross length cellSize * cellSize := by
  have hdiv := Nat.div_add_mod length cellSize
  have hmod := Nat.mod_lt length h
  have hcomm : length / cellSize * cellSize = cellSize * (length / cellSize) := Nat.mul_comm _ _
  unfold cellsAcross
  split
  · omega
  · split
    · rw [Nat.add_mul]; omega
    · rw [Nat.add_zero]; omega

theorem cellsAcross_pos {length cellSize : Nat} (h : 0 < cellSize) (hl : 0 < length) :
    0 < cellsAcross length cellSize := by
  have hlt := lt_cellsAcross_mul h hl
  refine Nat.pos_of_ne_zero fun h0 => ?_
  rw [h0, Nat.zero_mul] at hlt
  exact Nat.lt_irrefl 0 hlt

/-- The last cell across begins inside the map. -/
theorem sub_one_mul_lt {length cellSize : Nat} (h : 0 < cellSize) (hl : 0 < length) :
    (cellsAcross length cellSize - 1) * cellSize < length := by
  have hdiv := Nat.div_add_mod length cellSize
  have hcomm : length / cellSize * cellSize = cellSize * (length / cellSize) := Nat.mul_comm _ _
  unfold cellsAcross
  split
  · omega
  · split
    · rw [Nat.add_sub_cancel]; omega
    · rw [Nat.add_zero, Nat.sub_mul, Nat.one_mul]; omega

namespace Map

theorem getCols_pos (m : Map) : 0 < m.getCols := cellsAcross_pos m.cellSize_pos m.length_pos

theorem getRows_pos (m : Map) : 0 < m.getRows := cellsAcross_pos m.cellSize_pos m.width_pos

theorem getCols_le (m : Map) : m.getCols ≤ int32Max :=
  Nat.le_trans (cellsAcross_le m.cellSize_pos) m.length_le

theorem getRows_le (m : Map) : m.getRows ≤ int32Max :=
  Nat.le_trans (cellsAcross_le m.cellSize_pos) m.width_le

end Map

theorem AoiConfig.viewRadiusCells_le {cfg : AoiConfig} (h : cfg.validate = .ok ()) :
    cfg.viewRadiusCells ≤ int32Max := by
  unfold AoiConfig.validate at h
  split at h
  · cases h
  split at h
  · cases h
  split at h
  · cases h
  split at h
  · cases h
  rename_i hcell hrange
  have hle : cellsAcross cfg.viewRange cfg.cellSize ≤ cfg.viewRange :=
    cellsAcross_le (by omega)
  unfold cellsAcross at hle
  unfold AoiConfig.viewRadiusCells
  omega

end Aoi
