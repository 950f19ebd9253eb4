import Mathlib.Data.List.Nodup
import Mathlib.Order.WithBot
import GameServer.Lib.Versioned
import GameServer.Scene.SnapshotStore

/-!
# Saves in any order

Saves of one player, run one after another in any order and any number of times,
leave the rows of the first one of the greatest version. A save that comes too
late changes nothing, and its result says why.
-/

namespace Scene

open Gateway (Bytes text)
open Db (DbResult DbTask SqlStep Session TransactionBackend Val decimal equalValue equalValues)
open Function (update)
open PlayerSnapshotDao

section Values

mutual

theorem equalValue_iff : ∀ a b : Val, equalValue a b = true ↔ a = b
  | .nil, b => by cases b <;> simp [equalValue]
  | .int i, b => by cases b <;> simp [equalValue]
  | .str s, b => by cases b <;> simp [equalValue]
  | .arr as, b => by
    cases b with
    | arr bs =>
      simp only [equalValue, Val.arr.injEq]
      exact equalValues_iff as bs
    | _ => simp [equalValue]

theorem equalValues_iff : ∀ as bs : List Val, equalValues as bs = true ↔ as = bs
  | [], bs => by cases bs <;> simp [equalValues]
  | a :: as, bs => by
    cases bs with
    | nil => simp [equalValues]
    | cons b bs =>
      simp only [equalValues, Bool.and_eq_true, List.cons.injEq]
      rw [equalValue_iff a b, equalValues_iff as bs]

end

theorem row_inj {as bs : List Int} : row as = row bs ↔ as = bs := by
  unfold row
  simp only [Val.arr.injEq]
  exact List.map_inj_right fun _ _ h => Val.int.inj h

end Values

section Rows

def playerRow (s : PlayerSaveSnapshot) : PlayerRow :=
  { hp := s.hp.toNat, mp := s.mp.toNat, gold := s.gold.toNat, posX := s.x.toInt, posY := s.y.toInt,
    dir := s.dir.toInt, sceneId := s.sceneId.toNat, saveVersion := s.saveVersion }

def containerRow (s : PlayerSaveSnapshot) : ContainerRow :=
  { capacity := s.bagCapacity, nextSlot := s.bagNextSlot, containerVersion := s.saveVersion }

def itemRow (item : ItemStack) : ItemRow :=
  { itemId := item.itemId.toNat, slot := item.slot.toNat, quantity := item.count.toNat }

/-- The tables have exactly the rows of the snapshot for its player. -/
structure Holds (s : PlayerSaveSnapshot) (t : Tables) : Prop where
  player : t.player s.playerId = some (playerRow s)
  container : t.container s.playerId = some (containerRow s)
  items : (t.items s.playerId).Perm (s.items.map itemRow)

theorem perm_bySlot (items : List ItemStack) : (bySlot items).Perm items :=
  List.mergeSort_perm _ _

end Rows

/-- A save that `buildSave` has accepted. -/
structure Save where
  snapshot : PlayerSaveSnapshot
  task : DbTask
  built : buildSave snapshot = .ok task

namespace Save

variable (s : Save)

theorem task_eq : s.task = saveTask s.snapshot := by
  have h := s.built
  unfold buildSave at h
  split at h
  · cases h
  split at h
  · cases h
  · exact (Except.ok.inj h).symm

/-- What `buildSave` has checked. -/
theorem accepted : 0 < s.snapshot.playerId ∧ s.snapshot.playerId < 2 ^ 63 ∧
    0 < s.snapshot.saveVersion ∧ s.snapshot.saveVersion < 2 ^ 63 ∧
    s.snapshot.bagCapacity ≤ 65536 ∧ s.snapshot.items.length ≤ s.snapshot.bagCapacity ∧
    (s.snapshot.items.map (·.itemId)).Nodup ∧ (s.snapshot.items.map (·.slot)).Nodup := by
  have h := s.built
  unfold buildSave at h
  split at h
  · cases h
  rename_i hmeta
  split at h
  · cases h
  rename_i hitems
  simp only [not_or, Nat.not_lt, Nat.not_le] at hmeta
  simp only [Bool.not_eq_true', Bool.not_eq_false, validItems, Bool.decide_and, Bool.and_eq_true,
    decide_eq_true_eq] at hitems
  obtain ⟨h1, h2, h3, h4, h5, h6, h7, h8, h9⟩ := hmeta
  exact ⟨Nat.pos_of_ne_zero h1, h2, Nat.pos_of_ne_zero h3, h4, h7, h9, hitems.2.1, hitems.2.2⟩

end Save

section Steps

/-- A step that the store understands. -/
theorem execute_statement {step : SqlStep} (st : Statement) {params : List Bytes}
    (values : List Int) {data : Val} {tables : Tables} {s : Store}
    (hargs : step.args = st.sql :: params) (hparse : params.mapM parseInt = some values)
    (hrun : s.tables.run st values = some (data, tables)) :
    Store.execute step s = ({ data }, { s with tables }) := by
  unfold Store.execute
  simp only [hargs, Statement.ofSql_sql, hparse, hrun]

variable {out : DbResult} {t : Session Store}

section

variable (s : PlayerSaveSnapshot) (store : Store)

theorem execute_updateStep {r : PlayerRow} (hrow : store.tables.player s.playerId = some r)
    (hlt : r.saveVersion < s.saveVersion) :
    Store.execute (updateStep s) store = ({ data := Tables.changed 1 }, { store with
      tables := store.tables.setPlayer s.playerId (playerRow s) }) := by
  refine execute_statement .updatePlayer
    (playerValues s ++ [(s.playerId : Int), (s.saveVersion : Int)]) rfl ?_ ?_
  · simp [playerValues]
  · simp only [Tables.run, playerValues, List.cons_append, List.nil_append, hrow]
    rw [if_pos hlt]
    rfl

theorem execute_containerStep :
    ∃ n, Store.execute (containerStep s) store = ({ data := Tables.changed n }, { store with
      tables := store.tables.setContainer s.playerId (containerRow s) }) :=
  ⟨_, execute_statement .insertContainer
    [(s.playerId : Int), (s.bagCapacity : Int), (s.bagNextSlot : Int), (s.saveVersion : Int)] rfl
    (by simp) rfl⟩

theorem execute_eraseStep (playerId : Nat) :
    ∃ n, Store.execute (eraseStep playerId) store = ({ data := Tables.changed n }, { store with
      tables := store.tables.setItems playerId [] }) :=
  ⟨_, execute_statement .deleteItems [(playerId : Int)] rfl (by simp) rfl⟩

theorem execute_insertStep {playerId : Nat} {item : ItemStack}
    (hfree : ∀ r ∈ store.tables.items playerId,
      r.itemId ≠ item.itemId.toNat ∧ r.slot ≠ item.slot.toNat) :
    Store.execute (insertStep playerId item) store =
      ({ data := Tables.changed 1 }, { store with
        tables := store.tables.setItems playerId
          (store.tables.items playerId ++ [itemRow item]) }) := by
  refine execute_statement .insertItem
    [(playerId : Int), (item.itemId.toNat : Int), (item.slot.toNat : Int),
      (item.count.toNat : Int)] rfl (by simp) ?_
  have hnone : ((store.tables.items playerId).any fun r =>
      r.itemId = item.itemId.toNat ∨ r.slot = item.slot.toNat) = false := by
    rw [List.any_eq_false]
    intro r hr
    simp [hfree r hr]
  simp only [Tables.run]
  rw [if_neg (by rw [hnone]; exact Bool.false_ne_true)]
  rfl

end

/-- A statement of a save that does what is expected of it. -/
theorem applyAll_cons {step : SqlStep} {data : Val} {tables : Tables}
    (hexec : Store.execute step t.state = ({ data }, { t.state with tables }))
    (haffected : 0 ≤ step.expectedAffected → Db.affected data step.expectedAffected = true)
    (hcheck : step.checkData = false) (steps : List SqlStep) (results : List Val)
    (result : DbResult) :
    ∃ calls, Db.applyAll Store.backend out (step :: steps) results result t =
      Db.applyAll Store.backend out steps (results ++ [data]) { data }
        ⟨{ t.state with tables }, calls⟩ := by
  refine ⟨t.calls ++ [.execute step { data }], ?_⟩
  have hstep : t.execute Store.backend step result =
      ({ data }, ⟨{ t.state with tables }, t.calls ++ [.execute step { data }]⟩) := by
    unfold Session.execute
    simp only [Store.backend, hexec]
  rw [Db.applyAll]
  simp only [hstep, hcheck]
  rw [if_neg (by simp), if_neg ?_, if_neg (by simp)]
  rintro ⟨hnonneg, hbad⟩
  rw [haffected hnonneg] at hbad
  cases hbad

@[simp] theorem items_setItems (t : Tables) (id : Int) (rows : List ItemRow) :
    (t.setItems id rows).items id = rows :=
  Function.update_self ..

@[simp] theorem setItems_setItems (t : Tables) (id : Int) (rows rows' : List ItemRow) :
    (t.setItems id rows).setItems id rows' = t.setItems id rows' := by
  simp [Tables.setItems]

@[simp] theorem setItems_items (t : Tables) (id : Int) : t.setItems id (t.items id) = t := by
  simp [Tables.setItems]

/-- The stacks are stored one after another. -/
theorem applyAll_items {playerId : Nat} (items : List ItemStack) (store : Store)
    (calls : List Db.BackendCall) (results : List Val) (result : DbResult)
    (hout : out.classification = .success)
    (hids : ((store.tables.items playerId).map (·.itemId) ++
      items.map fun item => (item.itemId.toNat : Int)).Nodup)
    (hslots : ((store.tables.items playerId).map (·.slot) ++
      items.map fun item => (item.slot.toNat : Int)).Nodup) :
    let ended := Db.applyAll Store.backend out (items.map (insertStep playerId)) results result
      ⟨store, calls⟩
    ended.1.classification = .success ∧ ended.2.state.tables =
      store.tables.setItems playerId (store.tables.items playerId ++ items.map itemRow) := by
  induction items generalizing store calls results result with
  | nil => exact ⟨hout, by simp [Db.applyAll, Session.commit, Store.backend]⟩
  | cons item items ih =>
    have hfree : ∀ r ∈ store.tables.items playerId,
        r.itemId ≠ item.itemId.toNat ∧ r.slot ≠ item.slot.toNat := by
      intro r hr
      refine ⟨fun heq => ?_, fun heq => ?_⟩
      · exact (List.nodup_append.mp hids).2.2 _ (List.mem_map_of_mem hr) _ List.mem_cons_self heq
      · exact (List.nodup_append.mp hslots).2.2 _ (List.mem_map_of_mem hr) _ List.mem_cons_self heq
    obtain ⟨calls', hnext⟩ := @applyAll_cons out ⟨store, calls⟩ _ _ _
      (execute_insertStep store hfree) (fun _ => rfl) rfl (items.map (insertStep playerId)) results
      result
    obtain ⟨hclass, htables⟩ := ih { store with
        tables := store.tables.setItems playerId (store.tables.items playerId ++ [itemRow item]) }
      calls' (results ++ [Tables.changed 1]) { data := Tables.changed 1 }
      (by simpa [itemRow] using hids) (by simpa [itemRow] using hslots)
    rw [List.map_cons, hnext]
    exact ⟨hclass, htables.trans (by simp)⟩

end Steps

section Verification

theorem pairwise_bySlot (items : List ItemStack) :
    (bySlot items).Pairwise fun a b => decide (a.slot ≤ b.slot) = true :=
  List.pairwise_mergeSort
    (fun a b c => by simp only [decide_eq_true_eq, UInt16.le_iff_toNat_le]; omega)
    (fun a b => by simp only [Bool.or_eq_true, decide_eq_true_eq, UInt16.le_iff_toNat_le]; omega)
    items

theorem bySlot_bySlot (items : List ItemStack) : bySlot (bySlot items) = bySlot items :=
  List.mergeSort_of_pairwise (pairwise_bySlot items)

/-- The store's rows of a container in the order of their slots. -/
theorem sortRows_eq_iff {rows : List ItemRow} {items : List ItemStack}
    (hslots : (items.map (·.slot)).Nodup) :
    Tables.sortRows rows = (bySlot items).map itemRow ↔ rows.Perm (items.map itemRow) := by
  have hsorted : (Tables.sortRows rows).Pairwise fun a b => decide (a.slot ≤ b.slot) = true :=
    List.pairwise_mergeSort (fun a b c => by simp only [decide_eq_true_eq]; omega)
      (fun a b => by simp only [Bool.or_eq_true, decide_eq_true_eq]; omega) rows
  have hmapped : ((bySlot items).map itemRow).Pairwise
      fun a b => decide (a.slot ≤ b.slot) = true := by
    refine List.pairwise_map.mpr ((pairwise_bySlot items).imp fun {a b} hab => ?_)
    have hle : a.slot.toNat ≤ b.slot.toNat := UInt16.le_iff_toNat_le.mp (of_decide_eq_true hab)
    exact decide_eq_true (Int.ofNat_le.mpr hle)
  constructor
  · intro heq
    have hperm : (Tables.sortRows rows).Perm rows := List.mergeSort_perm _ _
    exact hperm.symm.trans (heq ▸ (perm_bySlot items).map itemRow)
  · intro hperm
    have hall : (Tables.sortRows rows).Perm ((bySlot items).map itemRow) :=
      (List.mergeSort_perm _ _).trans (hperm.trans ((perm_bySlot items).map itemRow).symm)
    refine List.Perm.eq_of_pairwise (fun a b ha hb hab hba => ?_) hsorted hmapped hall
    -- two rows of the same slot are the row of one stack
    obtain ⟨x, hx, rfl⟩ := List.mem_map.mp (hall.subset ha)
    obtain ⟨y, hy, rfl⟩ := List.mem_map.mp hb
    have hx := (perm_bySlot items).subset hx
    have hy := (perm_bySlot items).subset hy
    have hle : x.slot.toNat ≤ y.slot.toNat := Int.ofNat_le.mp (of_decide_eq_true hab)
    have hge : y.slot.toNat ≤ x.slot.toNat := Int.ofNat_le.mp (of_decide_eq_true hba)
    have hslot : x.slot = y.slot := UInt16.toNat_inj.mp (Nat.le_antisymm hle hge)
    exact congrArg itemRow (List.inj_on_of_nodup_map hslots hx hy hslot)

theorem playerRows_eq_iff {t : Tables} {s : PlayerSaveSnapshot} :
    t.playerRows s.playerId = [row (playerValues s)] ↔
      t.player s.playerId = some (playerRow s) := by
  unfold Tables.playerRows playerValues playerRow
  cases t.player s.playerId with
  | none => simp
  | some r =>
    cases r
    simp [row]

theorem containerRows_eq_iff {t : Tables} {s : PlayerSaveSnapshot} :
    t.containerRows s.playerId = [row (containerValues s)] ↔
      t.container s.playerId = some (containerRow s) := by
  unfold Tables.containerRows containerValues containerRow
  cases t.container s.playerId with
  | none => simp
  | some r =>
    cases r
    simp [row]

theorem itemRows_eq_iff {t : Tables} {s : PlayerSaveSnapshot}
    (hslots : (s.items.map (·.slot)).Nodup) :
    t.itemRows s.playerId = (bySlot s.items).map (fun item => row (itemValues item)) ↔
      (t.items s.playerId).Perm (s.items.map itemRow) := by
  rw [← sortRows_eq_iff hslots]
  have hmap : (bySlot s.items).map (fun item => row (itemValues item)) =
      ((bySlot s.items).map itemRow).map fun r => row [r.itemId, r.slot, r.quantity] := by
    rw [List.map_map]
    rfl
  unfold Tables.itemRows
  rw [hmap]
  refine List.map_inj_right fun a b h => ?_
  have hvalues := row_inj.mp h
  simp only [List.cons.injEq, and_true] at hvalues
  cases a
  cases b
  simp_all

/-- The data that a read gives. -/
def readOf (step : SqlStep) (s : Store) : Val := (Store.execute step s).1.data

/-- The verification reads of a save. -/
theorem verifyAll_reads {out : DbResult} {store : Store} (steps : List SqlStep)
    (hread : ∀ step ∈ steps, Store.execute step store = ({ data := readOf step store }, store))
    (result : DbResult) (calls : List Db.BackendCall) :
    let ended := Db.verifyAll Store.backend out steps result ⟨store, calls⟩
    ((∀ step ∈ steps, readOf step store = step.expectedData) → ended.1 = out) ∧
      ((¬ ∀ step ∈ steps, readOf step store = step.expectedData) →
        ended.1.classification = .versionConflict) ∧
      ended.2.state.tables = store.saved.getD store.tables := by
  induction steps generalizing result calls with
  | nil => exact ⟨fun _ => rfl, fun h => absurd (by simp) h, rfl⟩
  | cons step steps ih =>
    have hstep : Session.execute Store.backend ⟨store, calls⟩ step result =
        ({ data := readOf step store },
          ⟨store, calls ++ [.execute step { data := readOf step store }]⟩) := by
      unfold Session.execute
      simp only [Store.backend, hread step List.mem_cons_self]
    simp only [Db.verifyAll, hstep]
    rw [if_neg (by simp)]
    by_cases heq : readOf step store = step.expectedData
    · rw [if_neg (by simp [(equalValue_iff _ _).mpr heq])]
      obtain ⟨hall, hsome, htables⟩ := ih (fun x hx => hread x (List.mem_cons_of_mem _ hx))
        { data := readOf step store }
        (calls ++ [.execute step { data := readOf step store }])
      refine ⟨fun h => hall fun x hx => h x (List.mem_cons_of_mem _ hx), fun h => hsome ?_, htables⟩
      exact fun h' => h (List.forall_mem_cons.mpr ⟨heq, h'⟩)
    · rw [if_pos (by simpa using fun h => heq ((equalValue_iff _ _).mp h))]
      exact ⟨fun h => absurd (h step List.mem_cons_self) heq, fun _ => rfl, rfl⟩

end Verification

section Run

/-- A save is run on the tables. -/
def runSave (t : Tables) (s : Save) : DbResult × Tables :=
  let out := Db.executeTransaction Store.backend s.task { tables := t }
  (out.1, out.2.state.tables)

/-- The version in the row of a player, if there is a row with a version. -/
def storedVersion (t : Tables) (playerId : Nat) : Option Nat :=
  match t.player playerId with
  | some r => if r.saveVersion < 0 then none else some r.saveVersion.toNat
  | none => none

/-- The tables with the rows of a snapshot. -/
def stored (t : Tables) (s : PlayerSaveSnapshot) : Tables :=
  ((t.setPlayer s.playerId (playerRow s)).setContainer s.playerId (containerRow s)).setItems
    s.playerId ((bySlot s.items).map itemRow)

theorem holds_stored (t : Tables) (s : PlayerSaveSnapshot) : Holds s (stored t s) where
  player := Function.update_self ..
  container := Function.update_self ..
  items := by
    unfold stored
    rw [items_setItems]
    exact (perm_bySlot s.items).map itemRow

variable {s : Save} {t : Tables}

theorem refusal_task (s : Save) : Db.refusal s.task = none := by
  obtain ⟨hid, hidmax, hver, hvermax, hcap, hlen, -, -⟩ := s.accepted
  have hsteps : s.task.steps.all Db.validStep = true := by
    rw [s.task_eq]
    simp only [saveTask, List.all_cons, Bool.and_eq_true, List.all_eq_true, List.mem_map,
      forall_exists_index, and_imp, forall_apply_eq_imp_iff₂]
    refine ⟨?_, ?_, ?_, fun item _ => ?_⟩
    · exact validStep_of_sql .updatePlayer 1 rfl rfl rfl (by decide) nofun
    · exact validStep_of_sql .insertContainer (-1) rfl rfl rfl (by decide) nofun
    · exact validStep_of_sql .deleteItems (-1) rfl rfl rfl (by decide) nofun
    · exact validStep_of_sql .insertItem 1 rfl rfl rfl (by decide) nofun
  have hreads : s.task.verification.all
      (fun step => Db.validStep step ∧ step.kind = 1 ∧ step.checkData) = true := by
    rw [s.task_eq]
    simp only [saveTask, List.all_cons, List.all_nil, Bool.and_true, Bool.and_eq_true,
      decide_eq_true_eq]
    refine ⟨⟨?_, rfl, rfl⟩, ⟨?_, rfl, rfl⟩, ?_, rfl, rfl⟩
    · exact validStep_of_sql .selectPlayer (-1) rfl rfl rfl (by decide) fun _ => rfl
    · exact validStep_of_sql .selectContainer (-1) rfl rfl rfl (by decide) fun _ => rfl
    · exact validStep_of_sql .selectItems (-1) rfl rfl rfl (by decide) fun _ => rfl
  unfold Db.refusal
  rw [if_neg ?_, hsteps, hreads, if_neg (by simp), if_neg (by simp), if_neg ?_]
  · rw [s.task_eq]
    simp only [saveTask, List.length_cons, List.length_nil, not_and_or, not_or]
    refine .inr ⟨?_, ?_, ?_, ?_, by decide⟩ <;> omega
  · rw [s.task_eq]
    simp [saveTask, bySlot]
    omega

/-- The steps of a save over an older row. -/
theorem applyAll_task {store : Store} {calls : List Db.BackendCall} {out result : DbResult}
    (hout : out.classification = .success) {r : PlayerRow}
    (hrow : store.tables.player s.snapshot.playerId = some r)
    (hlt : r.saveVersion < s.snapshot.saveVersion) :
    let ended := Db.applyAll Store.backend out s.task.steps [] result ⟨store, calls⟩
    ended.1.classification = .success ∧
      ended.2.state.tables = stored store.tables s.snapshot := by
  obtain ⟨-, -, -, -, -, -, hids, hslots⟩ := s.accepted
  have hperm := perm_bySlot s.snapshot.items
  have hids' : ((bySlot s.snapshot.items).map fun item => (item.itemId.toNat : Int)).Nodup := by
    refine (hperm.map _).nodup_iff.mpr ?_
    refine List.Nodup.of_map (fun i : Int => UInt32.ofNat i.toNat) ?_
    simpa [Function.comp_def] using hids
  have hslots' : ((bySlot s.snapshot.items).map fun item => (item.slot.toNat : Int)).Nodup := by
    refine (hperm.map _).nodup_iff.mpr ?_
    refine List.Nodup.of_map (fun i : Int => UInt16.ofNat i.toNat) ?_
    simpa [Function.comp_def] using hslots
  rw [s.task_eq]
  simp only [saveTask]
  obtain ⟨calls₁, h₁⟩ := @applyAll_cons out ⟨store, calls⟩ _ _ _
    (execute_updateStep s.snapshot store hrow hlt) (fun _ => rfl) rfl
    (containerStep s.snapshot :: eraseStep s.snapshot.playerId ::
      (bySlot s.snapshot.items).map (insertStep s.snapshot.playerId)) [] result
  obtain ⟨n₂, hexec₂⟩ := execute_containerStep s.snapshot { store with
    tables := store.tables.setPlayer s.snapshot.playerId (playerRow s.snapshot) }
  obtain ⟨calls₂, h₂⟩ := @applyAll_cons out ⟨_, calls₁⟩ _ _ _ hexec₂
    (fun h : (0 : Int) ≤ -1 => absurd h (by decide)) rfl
    (eraseStep s.snapshot.playerId ::
      (bySlot s.snapshot.items).map (insertStep s.snapshot.playerId))
    [Tables.changed 1] { data := Tables.changed 1 }
  obtain ⟨n₃, hexec₃⟩ := execute_eraseStep { store with
    tables := (store.tables.setPlayer s.snapshot.playerId (playerRow s.snapshot)).setContainer
      s.snapshot.playerId (containerRow s.snapshot) } s.snapshot.playerId
  obtain ⟨calls₃, h₃⟩ := @applyAll_cons out ⟨_, calls₂⟩ _ _ _ hexec₃
    (fun h : (0 : Int) ≤ -1 => absurd h (by decide)) rfl
    ((bySlot s.snapshot.items).map (insertStep s.snapshot.playerId))
    [Tables.changed 1, Tables.changed n₂] { data := Tables.changed n₂ }
  obtain ⟨hclass, htables⟩ := @applyAll_items out s.snapshot.playerId (bySlot s.snapshot.items)
    { store with
      tables := ((store.tables.setPlayer s.snapshot.playerId (playerRow s.snapshot)).setContainer
        s.snapshot.playerId (containerRow s.snapshot)).setItems s.snapshot.playerId [] }
    calls₃ [Tables.changed 1, Tables.changed n₂, Tables.changed n₃] { data := Tables.changed n₃ }
    hout (by simpa using hids') (by simpa using hslots')
  rw [h₁, List.nil_append, h₂, List.cons_append, List.nil_append, h₃, List.cons_append,
    List.cons_append, List.nil_append]
  exact ⟨hclass, htables.trans (by simp [stored])⟩

/-- A read leaves the store as it is. -/
theorem readOf_statement (step : SqlStep) (store : Store) (st : Statement) {params : List Bytes}
    (values : List Int) {data : Val} (hargs : step.args = st.sql :: params)
    (hparse : params.mapM parseInt = some values)
    (hrun : store.tables.run st values = some (data, store.tables)) :
    Store.execute step store = ({ data := readOf step store }, store) ∧
      readOf step store = data := by
  have h : Store.execute step store = ({ data }, store) :=
    execute_statement st values hargs hparse hrun
  unfold readOf
  rw [h]
  exact ⟨rfl, rfl⟩

/-- The reads of a save match exactly the tables that have its rows. -/
theorem verification_reads (s : Save) (store : Store) :
    (∀ step ∈ s.task.verification,
      Store.execute step store = ({ data := readOf step store }, store)) ∧
      ((∀ step ∈ s.task.verification, readOf step store = step.expectedData) ↔
        Holds s.snapshot store.tables) := by
  obtain ⟨-, -, -, -, -, -, -, hslots⟩ := s.accepted
  obtain ⟨hrun₁, hread₁⟩ := readOf_statement
    (verifyStep s.snapshot.playerId selectPlayer [row (playerValues s.snapshot)]) store
    .selectPlayer [(s.snapshot.playerId : Int)] rfl (by simp) rfl
  obtain ⟨hrun₂, hread₂⟩ := readOf_statement
    (verifyStep s.snapshot.playerId selectContainer [row (containerValues s.snapshot)]) store
    .selectContainer [(s.snapshot.playerId : Int)] rfl (by simp) rfl
  obtain ⟨hrun₃, hread₃⟩ := readOf_statement
    (verifyStep s.snapshot.playerId selectItems
      ((bySlot s.snapshot.items).map fun item => row (itemValues item))) store
    .selectItems [(s.snapshot.playerId : Int)] rfl (by simp) rfl
  rw [s.task_eq]
  simp only [saveTask, List.forall_mem_cons]
  refine ⟨⟨hrun₁, hrun₂, hrun₃, by simp⟩, ?_⟩
  simp only [hread₁, hread₂, hread₃]
  simp only [verifyStep, Val.arr.injEq, playerRows_eq_iff, containerRows_eq_iff,
    itemRows_eq_iff hslots]
  exact ⟨fun ⟨h1, h2, h3, _⟩ => ⟨h1, h2, h3⟩, fun ⟨h1, h2, h3⟩ => ⟨h1, h2, h3, by simp⟩⟩

/-- The rows of a player that are locked, and the version in them. -/
def versionRows (t : Tables) (playerId : Nat) : Val :=
  .arr ((t.player playerId).toList.map fun r => row [r.saveVersion])

theorem lockedVersion_versionRows (t : Tables) (playerId : Nat) :
    Db.lockedVersion (versionRows t playerId) = storedVersion t playerId := by
  unfold versionRows storedVersion
  cases t.player playerId with
  | none => rfl
  | some r => rfl

theorem execute_lockStep (store : Store) (playerId : Nat) :
    Store.execute (Db.lockStep playerId) store =
      ({ data := versionRows store.tables playerId }, store) :=
  execute_statement .lockPlayer [(playerId : Int)] rfl (by simp) rfl

/-- A save begins, and reads the version of its player. -/
theorem runSave_eq (t : Tables) (s : Save) :
    ∃ calls, runSave t s =
      let store : Store := { tables := t, saved := some t }
      let out := Db.identity s.task
      let result : DbResult := { data := versionRows t s.snapshot.playerId }
      let ended := match storedVersion t s.snapshot.playerId with
        | none => Db.abort Store.backend (Db.fail out .versionConflict
            "player row missing or invalid; creation requires explicit provisioning") ⟨store, calls⟩
        | some version =>
          if s.snapshot.saveVersion < version then
            Db.abort Store.backend { out with classification := .superseded } ⟨store, calls⟩
          else if version = s.snapshot.saveVersion then
            Db.verifyAll Store.backend out s.task.verification result ⟨store, calls⟩
          else Db.applyAll Store.backend out s.task.steps [] result ⟨store, calls⟩
      (ended.1, ended.2.state.tables) := by
  refine ⟨[.begin {}, .execute (Db.lockStep s.snapshot.playerId)
    { data := versionRows t s.snapshot.playerId }], ?_⟩
  have hkind : s.task.kind = 5 := by
    rw [s.task_eq]
    rfl
  have hid : s.task.playerId = s.snapshot.playerId := by
    rw [s.task_eq]
    rfl
  have hver : s.task.saveVersion = s.snapshot.saveVersion := by
    rw [s.task_eq]
    rfl
  unfold runSave Db.executeTransaction
  rw [refusal_task s]
  simp only [Db.Session.begin, Store.backend, ne_eq, not_true_eq_false, if_false, hkind, if_true,
    Db.lockAndApply, Db.Session.execute, hid, execute_lockStep, lockedVersion_versionRows, hver]
  rfl

/-- How a save ends, by the version of the row of its player. -/
theorem runSave_none (h : storedVersion t s.snapshot.playerId = none) :
    (runSave t s).1.classification = .versionConflict ∧ (runSave t s).2 = t := by
  obtain ⟨calls, heq⟩ := runSave_eq t s
  rw [heq]
  simp only [h]
  exact ⟨rfl, rfl⟩

theorem runSave_older {version : Nat} (h : storedVersion t s.snapshot.playerId = some version)
    (hlt : s.snapshot.saveVersion < version) :
    (runSave t s).1.classification = .superseded ∧ (runSave t s).2 = t := by
  obtain ⟨calls, heq⟩ := runSave_eq t s
  rw [heq]
  simp only [h, if_pos hlt]
  exact ⟨rfl, rfl⟩

theorem runSave_same (h : storedVersion t s.snapshot.playerId = some s.snapshot.saveVersion) :
    (Holds s.snapshot t → (runSave t s).1.classification = .success) ∧
      (¬ Holds s.snapshot t → (runSave t s).1.classification = .versionConflict) ∧
      (runSave t s).2 = t := by
  obtain ⟨calls, heq⟩ := runSave_eq t s
  obtain ⟨hread, hmatch⟩ := verification_reads s { tables := t, saved := some t }
  obtain ⟨hall, hsome, htables⟩ := @verifyAll_reads (Db.identity s.task) _
    s.task.verification hread { data := versionRows t s.snapshot.playerId } calls
  rw [heq]
  simp only [h, lt_irrefl, if_false, if_true]
  refine ⟨fun hholds => ?_, fun hholds => hsome (mt hmatch.mp hholds), htables⟩
  rw [hall (hmatch.mpr hholds)]
  rfl

theorem runSave_newer {version : Nat} (h : storedVersion t s.snapshot.playerId = some version)
    (hlt : version < s.snapshot.saveVersion) :
    (runSave t s).1.classification = .success ∧ (runSave t s).2 = stored t s.snapshot := by
  obtain ⟨calls, heq⟩ := runSave_eq t s
  obtain ⟨r, hrow, hversion⟩ : ∃ r, t.player s.snapshot.playerId = some r ∧
      r.saveVersion < s.snapshot.saveVersion := by
    unfold storedVersion at h
    split at h
    · rename_i r hr
      split at h
      · cases h
      · refine ⟨r, hr, ?_⟩
        have hv := Option.some.inj h
        omega
    · cases h
  obtain ⟨hclass, htables⟩ := @applyAll_task s { tables := t, saved := some t } calls
    (Db.identity s.task) { data := versionRows t s.snapshot.playerId } rfl r hrow hversion
  rw [heq]
  simp only [h, if_neg (Nat.lt_asymm hlt), if_neg (Nat.ne_of_lt hlt)]
  exact ⟨hclass, htables⟩

theorem storedVersion_stored (t : Tables) (s : PlayerSaveSnapshot) :
    storedVersion (stored t s) s.playerId = some s.saveVersion := by
  unfold storedVersion
  rw [(holds_stored t s).player]
  show (if (s.saveVersion : Int) < 0 then none else some (s.saveVersion : Int).toNat) = _
  rw [if_neg (by omega), Int.toNat_natCast]

/-- The version of the row, or the greatest one where no save is stored. -/
def versionOf (playerId : Nat) (t : Tables) : WithTop Nat :=
  (storedVersion t playerId).elim ⊤ fun version => (version : WithTop Nat)

end Run

section Order

/-- A save of a player. -/
abbrev SaveOf (playerId : Nat) := { s : Save // s.snapshot.playerId = playerId }

variable {playerId : Nat}

def SaveOf.version (s : SaveOf playerId) : Nat := s.val.snapshot.saveVersion

/-- Saves one after another. -/
def runSaves (t : Tables) (saves : List (SaveOf playerId)) : Tables :=
  saves.foldl (fun t s => (runSave t s.val).2) t

/-- The tables are a register of the saves of a player. -/
theorem register (playerId : Nat) :
    Versioned.Register (versionOf playerId)
      (fun s : SaveOf playerId => (s.version : WithTop Nat))
      (fun t s => (runSave t s.val).2) (fun s t => Holds s.val.snapshot t) where
  stale := by
    rintro t ⟨s, rfl⟩ hle
    simp only [versionOf, SaveOf.version] at hle
    cases hv : storedVersion t s.snapshot.playerId with
    | none => exact (runSave_none hv).2
    | some version =>
      rw [hv, Option.elim_some, Nat.cast_le] at hle
      rcases Nat.lt_or_eq_of_le hle with hlt | heq
      · exact (runSave_older hv hlt).2
      · exact (runSave_same (heq ▸ hv)).2.2
  newer := by
    rintro t ⟨s, rfl⟩ hlt
    simp only [versionOf, SaveOf.version] at hlt ⊢
    cases hv : storedVersion t s.snapshot.playerId with
    | none => simp [hv] at hlt
    | some version =>
      rw [hv, Option.elim_some, Nat.cast_lt] at hlt
      rw [(runSave_newer hv hlt).2, storedVersion_stored]
      exact ⟨rfl, holds_stored t s.snapshot⟩

theorem latest_natCast {low : Nat} {saves : List (SaveOf playerId)} {s : SaveOf playerId} :
    Versioned.Latest (fun s : SaveOf playerId => (s.version : WithTop Nat)) low saves s ↔
      Versioned.Latest SaveOf.version low saves s := by
  simp only [Versioned.Latest, Nat.cast_lt, Nat.cast_le]

/-- The rows of a player after any saves of it. -/
theorem runSaves_rows {t : Tables} {v₀ : Nat} (hstored : storedVersion t playerId = some v₀)
    (saves : List (SaveOf playerId)) :
    ((∀ s ∈ saves, s.version ≤ v₀) ∧ runSaves t saves = t) ∨
      ∃ s, Versioned.Latest SaveOf.version v₀ saves s ∧ Holds s.val.snapshot (runSaves t saves) := by
  have hlow : versionOf playerId t = (v₀ : WithTop Nat) := by
    unfold versionOf
    rw [hstored, Option.elim_some]
  rcases (register playerId).foldl t saves with ⟨hall, hsame⟩ | ⟨s, hlatest, hholds, -⟩
  · rw [hlow] at hall
    exact .inl ⟨fun s hs => Nat.cast_le.mp (hall s hs), hsame⟩
  · rw [hlow] at hlatest
    exact .inr ⟨s, latest_natCast.mp hlatest, hholds⟩

theorem storedVersion_eq {t : Tables} {r : PlayerRow} {v : Nat} (hrow : t.player playerId = some r)
    (hversion : r.saveVersion = v) : storedVersion t playerId = some v := by
  unfold storedVersion
  simp only [hrow, hversion]
  rw [if_neg (by omega), Int.toNat_natCast]

/-- After any saves of a player, in any order and with any repetitions, its rows are those of the
first save of the greatest version, and the next save ends as its version and the stored rows
say. -/
theorem saves_monotone_idempotent {t : Tables} {r : PlayerRow} {v₀ : Nat}
    (hrow : t.player playerId = some r) (hversion : r.saveVersion = v₀)
    (saves : List (SaveOf playerId)) :
    (((∀ s ∈ saves, s.version ≤ v₀) ∧ runSaves t saves = t) ∨
      ∃ s, Versioned.Latest SaveOf.version v₀ saves s ∧
        Holds s.val.snapshot (runSaves t saves)) ∧
    ∃ (now : PlayerRow) (v : Nat), (runSaves t saves).player playerId = some now ∧
      now.saveVersion = v ∧ ∀ s : SaveOf playerId,
        let out := runSave (runSaves t saves) s.val
        (s.version < v → out.1.classification = .superseded ∧ out.2 = runSaves t saves) ∧
        (s.version = v → Holds s.val.snapshot (runSaves t saves) →
          out.1.classification = .success ∧ out.2 = runSaves t saves) ∧
        (s.version = v → ¬ Holds s.val.snapshot (runSaves t saves) →
          out.1.classification = .versionConflict ∧ out.2 = runSaves t saves) ∧
        (v < s.version → out.1.classification = .success ∧ Holds s.val.snapshot out.2) := by
  have hrows := runSaves_rows (storedVersion_eq hrow hversion) saves
  refine ⟨hrows, ?_⟩
  obtain ⟨now, v, hnow, hv⟩ : ∃ (now : PlayerRow) (v : Nat),
      (runSaves t saves).player playerId = some now ∧ now.saveVersion = v := by
    rcases hrows with ⟨-, hsame⟩ | ⟨s, -, hholds⟩
    · exact ⟨r, v₀, by rw [hsame, hrow], hversion⟩
    · exact ⟨_, _, s.property ▸ hholds.player, rfl⟩
  have hstored := storedVersion_eq hnow hv
  refine ⟨now, v, hnow, hv, ?_⟩
  rintro ⟨s, rfl⟩
  refine ⟨fun hlt => runSave_older hstored hlt, ?_, ?_, fun hlt => ?_⟩
  · rintro (rfl : s.snapshot.saveVersion = v) hholds
    obtain ⟨hsuccess, -, hsame⟩ := runSave_same hstored
    exact ⟨hsuccess hholds, hsame⟩
  · rintro (rfl : s.snapshot.saveVersion = v) hholds
    obtain ⟨-, hconflict, hsame⟩ := runSave_same hstored
    exact ⟨hconflict hholds, hsame⟩
  · obtain ⟨hsuccess, htables⟩ := runSave_newer hstored hlt
    exact ⟨hsuccess, htables ▸ holds_stored _ _⟩

/-- A player that is stored with version 1. -/
def storedPlayer : Tables :=
  { player := Function.update (fun _ => none) 7 (some
      { hp := 100, mp := 50, gold := 0, posX := 0, posY := 0, dir := 0, sceneId := 1,
        saveVersion := 1 }) }

/-- A save of it with some gold and a stack. -/
def richSave (gold : UInt32) : SaveOf 7 :=
  ⟨{ snapshot :=
      { playerId := 7, gold, saveVersion := 2, bagNextSlot := 1,
        items := [{ itemId := 5, count := 2, slot := 0 }] }
     task := _
     built := rfl }, rfl⟩

theorem saves_monotone_idempotent_rich :
    Holds (richSave 30).val.snapshot (runSaves storedPlayer [richSave 30]) ∧
      (runSave (runSaves storedPlayer [richSave 30]) (richSave 40).val).1.classification =
        .versionConflict := by
  obtain ⟨hrows, now, v, hnow, hv, hnext⟩ :=
    @saves_monotone_idempotent 7 storedPlayer _ 1 rfl rfl [richSave 30]
  have hholds : Holds (richSave 30).val.snapshot (runSaves storedPlayer [richSave 30]) := by
    rcases hrows with ⟨hold, -⟩ | ⟨s, hlatest, hholds⟩
    · exact absurd (hold _ List.mem_cons_self) (show ¬ 2 ≤ 1 by decide)
    · obtain ⟨before, after, hsaves, -⟩ := hlatest
      have hmem : s ∈ [richSave 30] := hsaves ▸ List.mem_append_right _ List.mem_cons_self
      rwa [List.mem_singleton.mp hmem] at hholds
  have hrow : now = playerRow (richSave 30).val.snapshot :=
    Option.some.inj (hnow.symm.trans hholds.player)
  have hversion : v = 2 := by
    rw [hrow] at hv
    exact (Int.natCast_inj.mp hv).symm
  refine ⟨hholds, ((hnext (richSave 40)).2.2.1 hversion.symm fun hother => ?_).1⟩
  have hgold := congrArg PlayerRow.gold (Option.some.inj (hother.player.symm.trans hholds.player))
  exact absurd hgold (by decide)

end Order

end Scene
