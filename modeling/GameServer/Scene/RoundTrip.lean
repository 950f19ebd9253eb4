import GameServer.Scene.Player
import GameServer.Scene.SaveOrder

/-!
# What is saved is what is loaded

The snapshot of a player passes the checks of a save. Loaded from the store that
the save has written, it is the same snapshot, and a player that restores it has
the same state.
-/

namespace Scene

open Gateway (Bytes)
open Db (DbResult DbTask Session Val)
open PlayerSnapshotDao

section Frozen

variable {p : Player} {version token : Nat} {snapshot : PlayerSaveSnapshot}

theorem buildSave_frozen (hid : p.playerId ≠ 0) (hidmax : p.playerId < 2 ^ 63)
    (hversion : version ≠ 0) (h : p.freezeSaveSnapshot version token = .ok snapshot) :
    buildSave snapshot = .ok (saveTask snapshot) := by
  unfold Player.freezeSaveSnapshot at h
  split at h
  · cases h
  rename_i hmax
  obtain rfl := Except.ok.inj h
  have hbag := p.bag.sound
  have hlen := hbag.used_le
  unfold buildSave
  rw [if_neg ?_, if_neg ?_]
  · rw [Bag.validItems_view]
    decide
  · simp only [not_or, Nat.not_le, Nat.not_lt, Bag.length_view]
    exact ⟨hid, hidmax, hversion, Nat.lt_of_not_le hmax, p.sceneId_ne,
      Nat.pos_iff_ne_zero.mp hbag.capacity_pos, hbag.capacity_le, hbag.nextSlot_le, hlen⟩

end Frozen

section Load

/-- A load is run on the tables. -/
def runLoad (t : Tables) (task : DbTask) : DbResult :=
  (Db.executeTransaction Store.backend task { tables := t }).1

def selectStep (playerId : Nat) (st : Statement) : Db.SqlStep :=
  { kind := 1, args := [st.sql, Db.decimal playerId] }

def loadTask (playerId : Nat) : DbTask :=
  { kind := 4
    playerId
    steps := [selectStep playerId .selectPlayerForUpdate, selectStep playerId .selectContainer,
      selectStep playerId .selectItems] }

theorem buildLoad_eq {playerId : Nat} (hid : playerId ≠ 0) (hmax : playerId < 2 ^ 63) :
    buildLoad playerId = some (loadTask playerId) := by
  unfold buildLoad
  rw [if_neg (by omega)]
  rfl

theorem refusal_loadTask (playerId : Nat) : Db.refusal (loadTask playerId) = none := by
  have hstep : ∀ st : Statement, st.kind = 1 → Db.validStep (selectStep playerId st) = true :=
    fun st hkind => validStep_of_sql st (-1) rfl hkind.symm rfl (by decide) fun _ => rfl
  unfold Db.refusal loadTask
  rw [if_neg (by simp), if_neg ?_, if_neg (by simp), if_neg (by simp)]
  simp [hstep .selectPlayerForUpdate rfl, hstep .selectContainer rfl, hstep .selectItems rfl]

/-- A load gives the rows of the player. -/
theorem runLoad_loadTask (t : Tables) (playerId : Nat) :
    runLoad t (loadTask playerId) =
      { playerId
        data := .arr [.arr (t.playerRows playerId), .arr (t.containerRows playerId),
          .arr (t.itemRows playerId)] } := by
  have hexec : ∀ (st : Statement) {data : Val}, t.run st [(playerId : Int)] = some (data, t) →
      Store.execute (selectStep playerId st) { tables := t, saved := some t } =
        ({ data }, { tables := t, saved := some t }) := fun st data hrun =>
    execute_statement st [(playerId : Int)] rfl (by simp) hrun
  unfold runLoad Db.executeTransaction
  rw [refusal_loadTask]
  show (Db.applyAll Store.backend (Db.identity (loadTask playerId)) (loadTask playerId).steps [] {}
    ⟨{ tables := t, saved := some t }, [.begin {}]⟩).1 = _
  have hfree : ¬ 0 ≤ (-1 : Int) := by decide
  obtain ⟨calls₁, h₁⟩ := @applyAll_cons (Db.identity (loadTask playerId))
    ⟨{ tables := t, saved := some t }, [.begin {}]⟩ _ _ _ (hexec .selectPlayerForUpdate rfl)
    (fun h => absurd h hfree) rfl
    [selectStep playerId .selectContainer, selectStep playerId .selectItems] [] {}
  obtain ⟨calls₂, h₂⟩ := @applyAll_cons (Db.identity (loadTask playerId))
    ⟨{ tables := t, saved := some t }, calls₁⟩ _ _ _ (hexec .selectContainer rfl)
    (fun h => absurd h hfree) rfl [selectStep playerId .selectItems] _ _
  obtain ⟨calls₃, h₃⟩ := @applyAll_cons (Db.identity (loadTask playerId))
    ⟨{ tables := t, saved := some t }, calls₂⟩ _ _ _ (hexec .selectItems rfl)
    (fun h => absurd h hfree) rfl [] _ _
  simp only [loadTask] at h₁ h₂ h₃ ⊢
  rw [h₁, h₂, h₃]
  rfl

end Load

section Parse

theorem ints_map (values : List Int) : ints (values.map .int) = some values := by
  induction values with
  | nil => rfl
  | cons i values ih => simp [ints, ih]

theorem fits_iff {lo hi i : Int} : fits lo hi i = true ↔ lo ≤ i ∧ i ≤ hi := by
  simp [fits]

/-- The row of a snapshot is read as it was written. -/
theorem parsePlayer_values (s : PlayerSaveSnapshot) (hscene : s.sceneId ≠ 0) :
    parsePlayer s.playerId ((playerValues s).map .int) = .ok
      { s with
        bagCapacity := 64, bagNextSlot := 0, items := [], capturedRevision := 0
        saveLifecycleToken := 0 } := by
  have hhp := s.hp.toNat_lt
  have hmp := s.mp.toNat_lt
  have hgold := s.gold.toNat_lt
  have hsceneMax := s.sceneId.toNat_lt
  have hscenePos : s.sceneId.toNat ≠ 0 := fun h => hscene (UInt32.toNat_inj.mp h)
  have hx := s.x.toInt_lt
  have hx' := s.x.le_toInt
  have hy := s.y.toInt_lt
  have hy' := s.y.le_toInt
  have hdir := s.dir.toInt_lt
  have hdir' := s.dir.le_toInt
  unfold parsePlayer
  simp only [ints_map, playerValues]
  rw [if_neg ?_, if_neg ?_]
  · simp only [Int.toNat_natCast, UInt16.ofNat_toNat, UInt32.ofNat_toNat, Int32.ofInt_toInt]
  · simp only [Bool.not_eq_true', ← Bool.not_eq_true, fits_iff]
    omega
  · simp only [Bool.not_eq_true', ← Bool.not_eq_true, fits_iff]
    omega

theorem parseContainer_values {snap : PlayerSaveSnapshot} {capacity nextSlot : Nat}
    (hpos : 0 < capacity) (hle : capacity ≤ 65536) (hnext : nextSlot ≤ 65536) (items : List Val) :
    parseContainer snap [row [(capacity : Int), (nextSlot : Int), (snap.saveVersion : Int)]] items =
      .ok { snap with bagCapacity := capacity, bagNextSlot := nextSlot } := by
  unfold parseContainer row
  simp only [ints_map]
  rw [if_neg (by simp), if_neg ?_]
  · simp only [Int.toNat_natCast]
  · simp only [Bool.not_eq_true', ← Bool.not_eq_true, fits_iff, ne_eq, not_true_eq_false, or_false]
    omega

/-- Valid stacks are read as they were written, after the ones that are read already. -/
theorem parseItems_values {nextSlot : Nat} {items : List ItemStack} {parsed : List ItemStack}
    (hnext : nextSlot ≤ 65536) (hvalid : validItems nextSlot (parsed ++ items) = true) :
    parseItems nextSlot (items.map fun item => row (itemValues item)) parsed =
      .ok (parsed ++ items) := by
  induction items generalizing parsed with
  | nil => simp [parseItems]
  | cons item items ih =>
    have hrest : validItems nextSlot ((parsed ++ [item]) ++ items) = true := by
      rw [List.append_assoc]
      exact hvalid
    simp only [validItems, Bool.decide_and, Bool.and_eq_true, List.all_eq_true,
      decide_eq_true_eq] at hvalid
    obtain ⟨hall, hids, hslots⟩ := hvalid
    obtain ⟨hid, hcount, hslot⟩ := hall item (by simp)
    have hid' : item.itemId.toNat ≠ 0 := fun h => hid (UInt32.toNat_inj.mp h)
    have hcount' : item.count.toNat ≠ 0 := fun h => hcount (UInt16.toNat_inj.mp h)
    have hidMax := item.itemId.toNat_lt
    have hcountMax := item.count.toNat_lt
    have hidNew : item.itemId ∉ parsed.map (·.itemId) := fun h => by
      rw [List.map_append, List.nodup_append] at hids
      exact hids.2.2 _ h _ (List.mem_map_of_mem List.mem_cons_self) rfl
    have hslotNew : item.slot ∉ parsed.map (·.slot) := fun h => by
      rw [List.map_append, List.nodup_append] at hslots
      exact hslots.2.2 _ h _ (List.mem_map_of_mem List.mem_cons_self) rfl
    rw [List.map_cons]
    unfold parseItems row
    simp only [ints_map, itemValues, Int.toNat_natCast, UInt16.ofNat_toNat, UInt32.ofNat_toNat]
    rw [if_neg (by simp), if_neg ?_]
    · exact (ih hrest).trans (by rw [List.append_assoc]; rfl)
    · simp only [Bool.not_eq_true', ← Bool.not_eq_true, fits_iff, hidNew, hslotNew, or_false]
      omega

end Parse

section RoundTrip

/-- A snapshot as it is loaded. -/
def PlayerSaveSnapshot.reloaded (s : PlayerSaveSnapshot) : PlayerSaveSnapshot :=
  { s with capturedRevision := 0, saveLifecycleToken := 0 }

/-- The rows of a snapshot that can be saved are the ones of that snapshot. -/
theorem parseLoad_rows {s : PlayerSaveSnapshot} {task : DbTask} (hbuilt : buildSave s = .ok task)
    {t : Tables} (hholds : Holds s t) (hsorted : bySlot s.items = s.items) :
    parseLoad s.playerId (runLoad t (loadTask s.playerId)) = .ok s.reloaded := by
  unfold buildSave at hbuilt
  split at hbuilt
  · cases hbuilt
  rename_i hmeta
  split at hbuilt
  · cases hbuilt
  rename_i hitems
  simp only [not_or, Nat.not_le, Nat.not_lt] at hmeta
  obtain ⟨-, -, -, -, hscene, hcapacity, hcapacityMax, hnext, hlen⟩ := hmeta
  have hvalid : validItems s.bagNextSlot s.items = true := by simpa using hitems
  have hslots : (s.items.map (·.slot)).Nodup := by
    simp only [validItems, Bool.decide_and, Bool.and_eq_true, decide_eq_true_eq] at hvalid
    exact hvalid.2.2
  rw [runLoad_loadTask, playerRows_eq_iff.mpr hholds.player,
    containerRows_eq_iff.mpr hholds.container, (itemRows_eq_iff hslots).mpr hholds.items, hsorted]
  have hcontainer := @parseContainer_values
    { s with
      bagCapacity := 64, bagNextSlot := 0, items := [], capturedRevision := 0
      saveLifecycleToken := 0 } s.bagCapacity s.bagNextSlot (Nat.pos_of_ne_zero hcapacity)
    hcapacityMax hnext (s.items.map fun item => row (itemValues item))
  have hparsed := @parseItems_values s.bagNextSlot s.items [] hnext hvalid
  unfold parseLoad
  rw [show row (playerValues s) = .arr ((playerValues s).map .int) from rfl]
  simp only
  rw [if_neg (by simp), if_neg (by simp [playerValues]), parsePlayer_values s hscene]
  simp only [bind, Except.bind, containerValues]
  rw [hcontainer]
  simp only [hparsed, List.nil_append]
  rw [if_neg (Nat.not_lt.mpr hlen)]
  rfl

/-- Two players with the same state, as far as it is saved. -/
structure Player.SamePersistent (p q : Player) : Prop where
  playerId : p.playerId = q.playerId
  hp : p.hp = q.hp
  mp : p.mp = q.mp
  gold : p.gold = q.gold
  x : p.x = q.x
  y : p.y = q.y
  dir : p.dir = q.dir
  sceneId : p.sceneId = q.sceneId
  bag : p.bag.Same q.bag

variable {p : Player} {version token : Nat} {snapshot : PlayerSaveSnapshot}

/-- A player that is not in use restores the snapshot of another. -/
theorem restore_frozen (hid : p.playerId ≠ 0) (hidMax : p.playerId < 2 ^ 63)
    (h : p.freezeSaveSnapshot version token = .ok snapshot) {q : Player}
    (hpending : q.economyPending = false) (hq : q.playerId = 0 ∨ q.playerId = snapshot.playerId) :
    ∃ q', q.restoreSaveSnapshot snapshot.reloaded = some q' ∧ q'.SamePersistent p := by
  unfold Player.freezeSaveSnapshot at h
  split at h
  · cases h
  rename_i hmax
  obtain rfl := Except.ok.inj h
  obtain ⟨bag, hbag, hsame⟩ := p.bag.restore_view
  unfold Player.restoreSaveSnapshot PlayerSaveSnapshot.reloaded
  rw [hpending, if_neg Bool.false_ne_true, dif_neg ?_]
  · simp only [hbag]
    exact ⟨_, rfl, ⟨rfl, rfl, rfl, rfl, rfl, rfl, rfl, rfl, hsame⟩⟩
  · have hscene := p.sceneId_ne
    simp only [not_or, not_and_or, not_not]
    exact ⟨hid, Nat.not_le.mpr hidMax, hscene, hmax, hq⟩

/-- Whatever has happened to a player, its snapshot can be saved and loaded again. -/
theorem save_load_round_trip (start : Player) (ops : List Player.Op) {version : Nat} (token : Nat)
    (hid : 1 ≤ (start.run ops).playerId) (hidMax : (start.run ops).playerId < 2 ^ 63)
    (hversion : 1 ≤ version) (hversionMax : version < 2 ^ 63) :
    ∃ snapshot save, (start.run ops).freezeSaveSnapshot version token = .ok snapshot ∧
      buildSave snapshot = .ok save ∧
      ∀ (t : Tables) (r : PlayerRow) (v₀ : Nat), t.player snapshot.playerId = some r →
        r.saveVersion = v₀ → v₀ < version →
        let saved := Db.executeTransaction Store.backend save { tables := t }
        saved.1.classification = .success ∧
          ∃ load, buildLoad snapshot.playerId = some load ∧
            let loaded := Db.executeTransaction Store.backend load
              { tables := saved.2.state.tables }
            parseLoad snapshot.playerId loaded.1 = .ok snapshot.reloaded ∧
              ∀ q : Player, q.economyPending = false →
                (q.playerId = 0 ∨ q.playerId = snapshot.playerId) →
                ∃ q', q.restoreSaveSnapshot snapshot.reloaded = some q' ∧
                  q'.SamePersistent (start.run ops) := by
  generalize start.run ops = p at hid hidMax ⊢
  have hid := Nat.pos_iff_ne_zero.mp hid
  obtain ⟨snapshot, hfrozen⟩ : ∃ snapshot, p.freezeSaveSnapshot version token = .ok snapshot := by
    unfold Player.freezeSaveSnapshot
    rw [if_neg (Nat.not_le.mpr hversionMax)]
    exact ⟨_, rfl⟩
  have hbuilt := buildSave_frozen hid hidMax (Nat.pos_iff_ne_zero.mp hversion) hfrozen
  have hfields : snapshot.playerId = p.playerId ∧ snapshot.saveVersion = version ∧
      snapshot.items = p.bag.view := by
    unfold Player.freezeSaveSnapshot at hfrozen
    rw [if_neg (Nat.not_le.mpr hversionMax)] at hfrozen
    obtain rfl := Except.ok.inj hfrozen
    exact ⟨rfl, rfl, rfl⟩
  obtain ⟨hplayer, hsaveVersion, hitems⟩ := hfields
  refine ⟨snapshot, saveTask snapshot, hfrozen, hbuilt, fun t r v₀ hrow hrowVersion hlt => ?_⟩
  obtain ⟨hsuccess, htables⟩ := @runSave_newer ⟨snapshot, saveTask snapshot, hbuilt⟩ t v₀
    (storedVersion_eq hrow hrowVersion) (hsaveVersion.symm ▸ hlt)
  refine ⟨hsuccess, loadTask snapshot.playerId, ?_, ?_, fun q hpending hq =>
    restore_frozen hid hidMax hfrozen hpending hq⟩
  · exact buildLoad_eq (hplayer.symm ▸ hid) (hplayer.symm ▸ hidMax)
  · have hsorted : bySlot snapshot.items = snapshot.items := by
      rw [hitems]
      exact bySlot_bySlot _
    have hholds : Holds snapshot (runSave t ⟨snapshot, saveTask snapshot, hbuilt⟩).2 :=
      htables ▸ holds_stored t snapshot
    exact parseLoad_rows hbuilt hholds hsorted

/-- A player that has bought something and sold it again. -/
def trader : Player :=
  ({ playerId := 7 } : Player).run [.addGold 90, .addItem 5 3, .consumeItem 5 3, .addItem 6 1]

/-- The tables with a row for each player, as it was first saved. -/
def registered : Tables where
  player _ := some
    { hp := 100, mp := 100, gold := 0, posX := 0, posY := 0, dir := 0, sceneId := 1, saveVersion := 1 }

theorem save_load_round_trip_trader :
    ∃ snapshot save load q', trader.freezeSaveSnapshot 2 0 = .ok snapshot ∧
      buildSave snapshot = .ok save ∧ buildLoad snapshot.playerId = some load ∧
      let saved := Db.executeTransaction Store.backend save { tables := registered }
      saved.1.classification = .success ∧
        parseLoad snapshot.playerId
          (Db.executeTransaction Store.backend load { tables := saved.2.state.tables }).1 =
            .ok snapshot.reloaded ∧
        ({ playerId := 0 } : Player).restoreSaveSnapshot snapshot.reloaded = some q' ∧
        q'.SamePersistent trader := by
  obtain ⟨snapshot, save, hfrozen, hsave, hstore⟩ := @save_load_round_trip { playerId := 7 }
    [.addGold 90, .addItem 5 3, .consumeItem 5 3, .addItem 6 1] 2 0 (by decide) (by decide)
    (by decide) (by decide)
  obtain ⟨hsuccess, load, hload, hparsed, hrestored⟩ :=
    hstore registered _ 1 rfl rfl (by decide)
  obtain ⟨q', hq', hsame⟩ := hrestored { playerId := 0 } rfl (.inl rfl)
  exact ⟨snapshot, save, load, q', hfrozen, hsave, hload, hsuccess, hparsed, hq', hsame⟩

end RoundTrip

end Scene
