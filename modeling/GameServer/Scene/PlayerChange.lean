import GameServer.Scene.LogicThread

/-!
# How a player changes

What is saved of a player changes with the revision and not without it. The logic
thread alone changes who the player is for it and what is known to be stored.
-/

namespace Scene

/-- A snapshot without the marks of its save. -/
def PlayerSaveSnapshot.content (s : PlayerSaveSnapshot) : PlayerSaveSnapshot :=
  { s with saveVersion := 0, capturedRevision := 0, saveLifecycleToken := 0 }

namespace Player

variable (p : Player)

/-- What is saved of a player. -/
def content : PlayerSaveSnapshot where
  playerId := p.playerId
  hp := p.hp
  mp := p.mp
  gold := p.gold
  x := p.x
  y := p.y
  dir := p.dir
  sceneId := p.sceneId
  bagCapacity := p.bag.capacity
  bagNextSlot := p.bag.nextSlot
  items := p.bag.view
  saveVersion := 0
  capturedRevision := 0
  saveLifecycleToken := 0

/-- A change from a script or a service. -/
structure Played (p q : Player) : Prop where
  playerId : q.playerId = p.playerId
  epoch : q.epoch = p.epoch
  session : q.session = p.session
  clientBinding : q.clientBinding = p.clientBinding
  persistedVersion : q.persistedVersion = p.persistedVersion
  persistedRevision : q.persistedRevision = p.persistedRevision
  change : q.content = p.content ∧ q.mutationRevision = p.mutationRevision ∧ q.dirty = p.dirty ∨
    q.mutationRevision = p.mutationRevision + 1 ∧ q.dirty = true

variable {p}

theorem Played.refl : Played p p := ⟨rfl, rfl, rfl, rfl, rfl, rfl, .inl ⟨rfl, rfl, rfl⟩⟩

/-- `mutate` with a change of the values. -/
theorem played_mutate {change : Player → Player}
    (h : Played p (change p).recordMutation) :
    Played p (p.left id (p.mutate change)) := by
  unfold mutate
  split
  · exact .refl
  · exact h

theorem played_changeBag (change : Bag → Option Bag) :
    Played p (p.left (·.2) (p.changeBag change)) := by
  unfold changeBag
  split
  · exact .refl
  · split
    · exact .refl
    · split
      · exact .refl
      · exact ⟨rfl, rfl, rfl, rfl, rfl, rfl, .inr ⟨rfl, rfl⟩⟩

theorem played_set_hp (value : UInt16) : Played p (p.left id (p.set_hp value)) := by
  unfold set_hp
  split
  · exact .refl
  · exact played_mutate ⟨rfl, rfl, rfl, rfl, rfl, rfl, .inr ⟨rfl, rfl⟩⟩

theorem played_set_mp (value : UInt16) : Played p (p.left id (p.set_mp value)) := by
  unfold set_mp
  split
  · exact .refl
  · exact played_mutate ⟨rfl, rfl, rfl, rfl, rfl, rfl, .inr ⟨rfl, rfl⟩⟩

theorem played_reserveEconomy (request : EconomyRequest) :
    Played p (p.left (·.2) (p.reserveEconomy request)) := by
  unfold reserveEconomy
  split
  · exact .refl
  · split
    · exact .refl
    · split
      · exact .refl
      · split
        · exact .refl
        · split
          · exact .refl
          · exact ⟨rfl, rfl, rfl, rfl, rfl, rfl, .inl ⟨rfl, rfl, rfl⟩⟩

theorem played_commitEconomy (operationId : Gateway.Bytes) :
    Played p (p.left (·.2) (p.commitEconomy operationId)) := by
  unfold commitEconomy
  split
  · exact .refl
  · split
    · exact .refl
    · split
      · exact .refl
      · exact ⟨rfl, rfl, rfl, rfl, rfl, rfl, .inr ⟨rfl, rfl⟩⟩

theorem played_cancelEconomy (operationId : Gateway.Bytes) :
    Played p (p.cancelEconomy operationId).2 := by
  unfold cancelEconomy
  split
  · exact .refl
  · split
    · exact .refl
    · exact ⟨rfl, rfl, rfl, rfl, rfl, rfl, .inl ⟨rfl, rfl, rfl⟩⟩

theorem played_apply (op : GameOp) : Played p (p.apply op.1) := by
  obtain ⟨op, hop⟩ := op
  cases op with
  | set_hp value => exact played_set_hp value
  | modifyHp delta => exact played_set_hp _
  | set_mp value => exact played_set_mp value
  | modifyMp delta => exact played_set_mp _
  | addGold delta =>
    change Played p (p.left id (p.addGold delta))
    unfold addGold
    split
    · exact .refl
    · dsimp only
      split
      · exact .refl
      · exact played_mutate ⟨rfl, rfl, rfl, rfl, rfl, rfl, .inr ⟨rfl, rfl⟩⟩
  | setPos x y dir =>
    change Played p (p.left id (p.setPos x y dir))
    unfold setPos
    split
    · exact .refl
    · exact played_mutate ⟨rfl, rfl, rfl, rfl, rfl, rfl, .inr ⟨rfl, rfl⟩⟩
  | setSceneId sceneId =>
    change Played p (p.left id (p.setSceneId sceneId))
    unfold setSceneId
    split
    · exact .refl
    · split
      · exact .refl
      · exact played_mutate ⟨rfl, rfl, rfl, rfl, rfl, rfl, .inr ⟨rfl, rfl⟩⟩
  | addItem itemId count => exact played_changeBag _
  | consumeItem itemId count => exact played_changeBag _
  | clearBag =>
    change Played p (p.left id p.clearBag)
    unfold clearBag
    split
    · exact .refl
    · split
      · exact .refl
      · exact played_mutate ⟨rfl, rfl, rfl, rfl, rfl, rfl, .inr ⟨rfl, rfl⟩⟩
  | reserveEconomy request => exact played_reserveEconomy request
  | commitEconomy operationId => exact played_commitEconomy operationId
  | cancelEconomy operationId => exact played_cancelEconomy operationId
  | restoreSaveSnapshot snapshot => cases hop
  | confirmSave version revision => cases hop

variable (p)

/-- What every change of the thread or a script keeps, a list of changes keeps. -/
theorem run_induction {P : Player → Prop} (hstep : ∀ q (op : GameOp), P q → P (q.apply op.1))
    (h : P p) (ops : List GameOp) : P (p.run (ops.map (·.1))) := by
  refine List.foldlRecOn (motive := P) _ _ h ?_
  intro q hq op hop
  obtain ⟨op, -, rfl⟩ := List.mem_map.mp hop
  exact hstep q op hq

theorem run_playerId (ops : List GameOp) : (p.run (ops.map (·.1))).playerId = p.playerId :=
  p.run_induction (P := fun q => q.playerId = p.playerId)
    (fun _ op h => (played_apply op).playerId.trans h) rfl ops

theorem confirmSave_playerId (version revision : Nat) :
    (p.confirmSave version revision).playerId = p.playerId := by
  unfold confirmSave
  split <;> rfl

theorem restoreSaveSnapshot_playerId {p' : Player} {snapshot : PlayerSaveSnapshot}
    (hid : p.playerId ≠ 0) (h : p.restoreSaveSnapshot snapshot = some p') :
    snapshot.playerId = p.playerId ∧ p'.playerId = p.playerId := by
  unfold restoreSaveSnapshot at h
  split at h
  · cases h
  · split at h
    · cases h
    · rename_i hvalid
      split at h
      · cases h
      · cases h
        have hsame : snapshot.playerId = p.playerId := by
          by_contra hne
          exact hvalid (.inr (.inr (.inr (.inr ⟨hid, Ne.symm hne⟩))))
        exact ⟨hsame, hsame⟩

theorem restoreSaveSnapshot_binding {p' : Player} {snapshot : PlayerSaveSnapshot}
    (h : p.restoreSaveSnapshot snapshot = some p') :
    p'.session = p.session ∧ p'.clientBinding = p.clientBinding := by
  unfold restoreSaveSnapshot at h
  split at h
  · cases h
  · split at h
    · cases h
    · split at h
      · cases h
      · cases h
        exact ⟨rfl, rfl⟩

end Player

end Scene
