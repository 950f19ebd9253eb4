import Mathlib.Data.Nat.Digits.Lemmas
import GameServer.Db.Codec
import GameServer.Db.TransactionTruth
import GameServer.Scene.SaveOrder

/-!
# The way of a save to the database

A save is built, encoded, decoded by the other thread and checked again before it is
begun. Each of these has limits of its own. A bag has at most 65536 stacks, and with so
many of them a save keeps to all of the limits.
-/

namespace Scene

open Db (DbTask SqlStep Val decimal toDecimal encodeStep encodeSteps encodeVal encodeValD putStr)
open Gateway (Bytes)
open PlayerSnapshotDao

section Lengths

theorem length_decimal_le {n k : Nat} (hk : 0 < k) (h : n < 10 ^ k) : (decimal n).length ≤ k := by
  unfold decimal
  split
  · exact hk
  · rw [List.length_map, List.length_reverse]
    exact (Nat.digits_length_le_iff (by decide) n).mpr h

theorem length_decimal {n : Nat} (h : n < 2 ^ 64) : (decimal n).length ≤ 21 :=
  length_decimal_le (by decide) (Nat.lt_trans h (by decide))

theorem length_toDecimal (i : Int32) : (toDecimal i.toInt).length ≤ 21 := by
  have hlow := i.le_toInt
  have hhigh := i.toInt_lt
  unfold toDecimal
  split
  · have hlen := @length_decimal_le i.toInt.natAbs 20 (by decide) (by omega)
    rw [List.length_append]
    change 1 + _ ≤ 21
    omega
  · exact length_decimal (by omega)

theorem length_flatMap_le {α : Type} {f : α → Bytes} {n : Nat} {xs : List α}
    (h : ∀ x ∈ xs, (f x).length ≤ n) : (xs.flatMap f).length ≤ xs.length * n := by
  induction xs with
  | nil => simp
  | cons x xs ih =>
    have hx := h x List.mem_cons_self
    have htail := ih fun y hy => h y (List.mem_cons_of_mem _ hy)
    rw [List.flatMap_cons, List.length_append, List.length_cons, Nat.add_mul]
    omega

/-- A step with a statement and parameters that are numbers, as long and as many as that. -/
def Slim (step : SqlStep) (m n : Nat) : Prop :=
  ∃ statement params, step.args = statement :: params ∧ statement.length ≤ m ∧
    params.length ≤ n ∧ ∀ p ∈ params, p.length ≤ 21

theorem Slim.length_le {step : SqlStep} {m n : Nat} (h : Slim step m n) :
    (encodeStep step).length ≤ 18 + m + n * 25 + (encodeVal step.expectedData).length := by
  obtain ⟨statement, params, hargs, hstatement, hcount, hparams⟩ := h
  have hflat : (params.flatMap putStr).length ≤ params.length * 25 := by
    refine length_flatMap_le fun p hp => ?_
    have hp := hparams p hp
    simp only [putStr, List.length_append, Net.length_putLE]
    omega
  simp only [encodeStep, hargs, List.flatMap_cons, Db.putI64, putStr, List.length_append,
    Net.length_putLE] at hflat ⊢
  omega

theorem Slim.good {step : SqlStep} {m n : Nat} (h : Slim step m n) (hm : m ≤ 300) (hn : n ≤ 10) :
    step.args ≠ [] ∧ step.args.length ≤ Db.kMaxArgs ∧
      ∀ a ∈ step.args, a.length ≤ Db.kMaxArgSize := by
  obtain ⟨statement, params, hargs, hstatement, hcount, hparams⟩ := h
  rw [hargs, List.forall_mem_cons, List.length_cons]
  unfold Db.kMaxArgs Db.kMaxArgSize
  refine ⟨List.cons_ne_nil _ _, by omega, by omega, fun p hp => ?_⟩
  have hp := hparams p hp
  omega

theorem length_int_le (i : Int) (depth : Nat) : (encodeValD (.int i) depth).length ≤ 9 := by
  unfold encodeValD
  split <;> simp [Db.putI64]

theorem length_row_le (values : List Int) (depth : Nat) :
    (encodeValD (row values) depth).length ≤ 5 + values.length * 9 := by
  have hflat : ((values.map Val.int).flatMap fun v => encodeValD v (depth + 1)).length ≤
      (values.map Val.int).length * 9 := by
    refine length_flatMap_le fun v hv => ?_
    obtain ⟨i, -, rfl⟩ := List.mem_map.mp hv
    exact length_int_le i _
  rw [List.length_map] at hflat
  unfold row encodeValD
  split
  · rw [List.length_singleton]
    omega
  · rw [Db.encodeValsD_eq, List.length_cons, List.length_append, Net.length_putLE]
    omega

/-- Rows with so many values each. -/
theorem length_rows_le {rows : List (List Int)} {n : Nat} (h : ∀ r ∈ rows, r.length ≤ n) :
    (encodeVal (.arr (rows.map row))).length ≤ 5 + rows.length * (5 + n * 9) := by
  have hflat : ((rows.map row).flatMap fun v => encodeValD v 1).length ≤
      (rows.map row).length * (5 + n * 9) := by
    refine length_flatMap_le fun v hv => ?_
    obtain ⟨values, hvalues, rfl⟩ := List.mem_map.mp hv
    have hrow := length_row_le values 1
    have hlen := Nat.mul_le_mul_right 9 (h values hvalues)
    omega
  rw [List.length_map] at hflat
  change (3 :: (Gateway.putLE 4 _ ++ Db.encodeValsD (rows.map row) 1)).length ≤ _
  rw [Db.encodeValsD_eq, List.length_cons, List.length_append, Net.length_putLE]
  omega

end Lengths

section Save

variable {s : PlayerSaveSnapshot} {task : DbTask}

/-- What `buildSave` accepts, with the types of the fields that it does not look at. -/
structure Shippable (s : PlayerSaveSnapshot) (task : DbTask) : Prop where
  built : buildSave s = .ok task
  capturedRevision : s.capturedRevision < 2 ^ 64
  saveLifecycleToken : s.saveLifecycleToken < 2 ^ 64

/-- The steps of a save, one after the other. -/
theorem forall_steps {p : SqlStep → Prop} (hupdate : p (updateStep s))
    (hcontainer : p (containerStep s)) (herase : p (eraseStep s.playerId))
    (hinsert : ∀ item, p (insertStep s.playerId item)) : ∀ step ∈ (saveTask s).steps, p step := by
  simp only [saveTask, List.forall_mem_cons, List.forall_mem_map]
  exact ⟨hupdate, hcontainer, herase, fun item _ => hinsert item⟩

theorem forall_verification {p : SqlStep → Prop}
    (hplayer : p (verifyStep s.playerId selectPlayer [row (playerValues s)]))
    (hcontainer : p (verifyStep s.playerId selectContainer [row (containerValues s)]))
    (hitems : p (verifyStep s.playerId selectItems
      ((bySlot s.items).map fun item => row (itemValues item)))) :
    ∀ step ∈ (saveTask s).verification, p step := by
  simp only [saveTask, List.forall_mem_cons, List.not_mem_nil, false_imp_iff, implies_true, and_true]
  exact ⟨hplayer, hcontainer, hitems⟩

namespace Shippable

variable (h : Shippable s task)

include h

theorem task_eq : task = saveTask s := Save.task_eq ⟨s, task, h.built⟩

theorem bounds : s.playerId < 2 ^ 63 ∧ s.saveVersion < 2 ^ 63 ∧ s.bagCapacity ≤ 65536 ∧
    s.bagNextSlot ≤ 65536 ∧ s.items.length ≤ 65536 := by
  have hbuilt := h.built
  unfold buildSave at hbuilt
  split at hbuilt
  · cases hbuilt
  · omega

theorem slim_insertStep (item : ItemStack) : Slim (insertStep s.playerId item) 150 4 := by
  obtain ⟨hid, -⟩ := h.bounds
  have hitem := item.itemId.toNat_lt
  have hslot := item.slot.toNat_lt
  have hcount := item.count.toNat_lt
  refine ⟨insertItem, _, rfl, by decide +kernel, by simp, ?_⟩
  simp only [List.forall_mem_cons, List.not_mem_nil, false_imp_iff, implies_true, and_true]
  refine ⟨length_decimal ?_, length_decimal ?_, length_decimal ?_, length_decimal ?_⟩ <;> omega

theorem slim_updateStep : Slim (updateStep s) 200 10 := by
  obtain ⟨hid, hversion, -⟩ := h.bounds
  have hhp := s.hp.toNat_lt
  have hmp := s.mp.toNat_lt
  have hgold := s.gold.toNat_lt
  have hscene := s.sceneId.toNat_lt
  refine ⟨updatePlayer, _, rfl, by decide +kernel, by simp, ?_⟩
  simp only [List.forall_mem_cons, List.not_mem_nil, false_imp_iff, implies_true, and_true]
  refine ⟨length_decimal ?_, length_decimal ?_, length_decimal ?_, length_toDecimal _,
    length_toDecimal _, length_toDecimal _, length_decimal ?_, length_decimal ?_,
    length_decimal ?_, length_decimal ?_⟩ <;> omega

theorem slim_containerStep : Slim (containerStep s) 300 4 := by
  obtain ⟨hid, hversion, hcapacity, hnextSlot, -⟩ := h.bounds
  refine ⟨insertContainer, _, rfl, by decide +kernel, by simp, ?_⟩
  simp only [List.forall_mem_cons, List.not_mem_nil, false_imp_iff, implies_true, and_true]
  refine ⟨length_decimal ?_, length_decimal ?_, length_decimal ?_, length_decimal ?_⟩ <;> omega

theorem slim_eraseStep : Slim (eraseStep s.playerId) 200 1 := by
  obtain ⟨hid, -⟩ := h.bounds
  refine ⟨deleteItems, _, rfl, by decide +kernel, by simp, ?_⟩
  simp only [List.forall_mem_cons, List.not_mem_nil, false_imp_iff, implies_true, and_true]
  exact length_decimal (by omega)

theorem slim_verifyStep (st : Bytes) (hst : st.length ≤ 200) (expected : List Val) :
    Slim (verifyStep s.playerId st expected) 200 1 := by
  obtain ⟨hid, -⟩ := h.bounds
  refine ⟨st, _, rfl, hst, by simp, ?_⟩
  simp only [List.forall_mem_cons, List.not_mem_nil, false_imp_iff, implies_true, and_true]
  exact length_decimal (by omega)

/-- A read with so many rows of so many values. -/
theorem length_verifyStep (st : Bytes) (hst : st.length ≤ 200) {rows : List (List Int)} {n : Nat}
    (hrows : ∀ r ∈ rows, r.length ≤ n) :
    (encodeStep (verifyStep s.playerId st (rows.map row))).length ≤
      300 + rows.length * (5 + n * 9) := by
  have hlen := (h.slim_verifyStep st hst (rows.map row)).length_le
  have hdata := length_rows_le hrows
  change _ ≤ _ + (encodeVal (.arr (rows.map row))).length at hlen
  omega

theorem length_steps : (encodeSteps (saveTask s).steps).length ≤ 20000000 := by
  have hcount := h.bounds.2.2.2.2
  have hinserts : (((bySlot s.items).map (insertStep s.playerId)).flatMap encodeStep).length ≤
      ((bySlot s.items).map (insertStep s.playerId)).length * 269 := by
    refine length_flatMap_le fun step hstep => ?_
    obtain ⟨item, -, rfl⟩ := List.mem_map.mp hstep
    exact (h.slim_insertStep item).length_le
  rw [List.length_map, bySlot, List.length_mergeSort] at hinserts
  have hupdate := h.slim_updateStep.length_le
  have hcontainer := h.slim_containerStep.length_le
  have herase := h.slim_eraseStep.length_le
  change _ ≤ _ + 1 at hupdate hcontainer herase
  simp only [encodeSteps, saveTask, bySlot, List.flatMap_cons, List.length_append,
    Net.length_putLE] at hinserts ⊢
  omega

theorem length_verification : (encodeSteps (saveTask s).verification).length ≤ 5000000 := by
  have hcount := h.bounds.2.2.2.2
  have hplayer := @length_verifyStep s task h selectPlayer (by decide +kernel) [playerValues s] 8
    (by simp [playerValues])
  have hcontainer := @length_verifyStep s task h selectContainer (by decide +kernel)
    [containerValues s] 3 (by simp [containerValues])
  have hitems := @length_verifyStep s task h selectItems (by decide +kernel)
    ((bySlot s.items).map itemValues) 3 (by simp [itemValues])
  rw [List.map_map, List.length_map, bySlot, List.length_mergeSort] at hitems
  have hrows : (fun item => row (itemValues item)) = row ∘ itemValues := rfl
  simp only [encodeSteps, saveTask, bySlot, hrows, List.flatMap_cons, List.flatMap_nil,
    List.length_append, List.length_nil, Net.length_putLE, List.map_cons, List.map_nil,
    List.length_cons] at hplayer hcontainer hitems ⊢
  omega

theorem encode_isSome : ∃ body, (saveTask s).encode = some body := by
  have hcount := h.bounds.2.2.2.2
  have hsteps : Db.badSteps (saveTask s).steps = false :=
    Db.badSteps_eq_false_iff.mpr (forall_steps (h.slim_updateStep.good (by decide) (by decide))
      (h.slim_containerStep.good (by decide) (by decide))
      (h.slim_eraseStep.good (by decide) (by decide))
      fun item => (h.slim_insertStep item).good (by decide) (by decide))
  have hverification : Db.badSteps (saveTask s).verification = false :=
    Db.badSteps_eq_false_iff.mpr (forall_verification
      ((h.slim_verifyStep selectPlayer (by decide +kernel) _).good (by decide) (by decide))
      ((h.slim_verifyStep selectContainer (by decide +kernel) _).good (by decide) (by decide))
      ((h.slim_verifyStep selectItems (by decide +kernel) _).good (by decide) (by decide)))
  have hlen := h.length_steps
  have hlen' := h.length_verification
  unfold DbTask.encode
  rw [if_pos (.inr rfl), if_neg ?_, if_neg (by rw [hsteps, hverification]; simp)]
  · dsimp only
    rw [if_neg]
    · exact ⟨_, rfl⟩
    · simp only [List.length_append, Net.length_putLE, Db.kMaxTaskSize]
      omega
  · simp only [saveTask, bySlot, List.isEmpty_cons, List.length_cons, List.length_map,
      List.length_mergeSort, List.length_nil, Bool.false_eq_true, false_or, Db.kMaxSteps]
    omega

end Shippable

/-- Numbers that the database takes. -/
theorem typed_row {values : List Int} (h : ∀ i ∈ values, -2 ^ 63 ≤ i ∧ i < 2 ^ 63) :
    (row values).Typed := by
  refine Db.Val.allTyped_iff.mpr fun v hv => ?_
  obtain ⟨i, hi, rfl⟩ := List.mem_map.mp hv
  exact h i hi

theorem typed_rows {rows : List (List Int)} (h : ∀ r ∈ rows, ∀ i ∈ r, -2 ^ 63 ≤ i ∧ i < 2 ^ 63) :
    (Val.arr (rows.map row)).Typed := by
  refine Db.Val.allTyped_iff.mpr fun v hv => ?_
  obtain ⟨r, hr, rfl⟩ := List.mem_map.mp hv
  exact typed_row (h r hr)

/-- Rows of numbers are not nested deeply. -/
theorem within_rows {rows : List (List Int)} (hcount : rows.length ≤ Db.kMaxItems)
    (h : ∀ r ∈ rows, r.length ≤ Db.kMaxItems) : (Val.arr (rows.map row)).Within := by
  rw [Db.Val.within_iff]
  refine ⟨by rwa [List.length_map], fun v hv => ?_⟩
  obtain ⟨r, hr, rfl⟩ := List.mem_map.mp hv
  refine ⟨by rw [List.length_map]; exact h r hr, fun v hv => ?_⟩
  obtain ⟨i, -, rfl⟩ := List.mem_map.mp hv
  trivial

namespace Shippable

variable (h : Shippable s task)

include h

theorem typed_values : (∀ i ∈ playerValues s, -2 ^ 63 ≤ i ∧ i < 2 ^ 63) ∧
    (∀ i ∈ containerValues s, -2 ^ 63 ≤ i ∧ i < 2 ^ 63) ∧
    ∀ r ∈ (bySlot s.items).map itemValues, ∀ i ∈ r, -2 ^ 63 ≤ i ∧ i < 2 ^ 63 := by
  obtain ⟨-, hversion, hcapacity, hnextSlot, -⟩ := h.bounds
  refine ⟨?_, ?_, fun r hr => ?_⟩
  · have hhp := s.hp.toNat_lt
    have hmp := s.mp.toNat_lt
    have hgold := s.gold.toNat_lt
    have hscene := s.sceneId.toNat_lt
    have hx := And.intro s.x.le_toInt s.x.toInt_lt
    have hy := And.intro s.y.le_toInt s.y.toInt_lt
    have hdir := And.intro s.dir.le_toInt s.dir.toInt_lt
    simp only [playerValues, List.forall_mem_cons, List.not_mem_nil, false_imp_iff, implies_true,
      and_true]
    omega
  · simp only [containerValues, List.forall_mem_cons, List.not_mem_nil, false_imp_iff,
      implies_true, and_true]
    omega
  · obtain ⟨item, -, rfl⟩ := List.mem_map.mp hr
    have hitem := item.itemId.toNat_lt
    have hslot := item.slot.toNat_lt
    have hcount := item.count.toNat_lt
    simp only [itemValues, List.forall_mem_cons, List.not_mem_nil, false_imp_iff, implies_true,
      and_true]
    omega

theorem sized : (saveTask s).Sized where
  kind := (by decide : 5 < 256 ^ 1)
  args := fun hkind => absurd (.inr rfl) hkind
  steps := by
    have hkind : 2 < 256 ^ 1 := by decide
    have hone : -2 ^ 63 ≤ (1 : Int) ∧ (1 : Int) < 2 ^ 63 := by decide
    have hany : -2 ^ 63 ≤ (-1 : Int) ∧ (-1 : Int) < 2 ^ 63 := by decide
    exact forall_steps ⟨hkind, hone, trivial⟩ ⟨hkind, hany, trivial⟩ ⟨hkind, hany, trivial⟩
      fun _ => ⟨hkind, hone, trivial⟩
  verification := by
    obtain ⟨hplayer, hcontainer, hitems⟩ := h.typed_values
    have hrows : (fun item => row (itemValues item)) = row ∘ itemValues := rfl
    have hkind : 1 < 256 ^ 1 := by decide
    have hany : -2 ^ 63 ≤ (-1 : Int) ∧ (-1 : Int) < 2 ^ 63 := by decide
    refine forall_verification ⟨hkind, hany, ?_⟩ ⟨hkind, hany, ?_⟩ ⟨hkind, hany, ?_⟩
    · exact @typed_rows [playerValues s] (List.forall_mem_singleton.mpr hplayer)
    · exact @typed_rows [containerValues s] (List.forall_mem_singleton.mpr hcontainer)
    · change (Val.arr ((bySlot s.items).map fun item => row (itemValues item))).Typed
      rw [hrows, ← List.map_map]
      exact typed_rows hitems
  playerId := Nat.lt_trans h.bounds.1 (by decide)
  saveVersion := Nat.lt_trans h.bounds.2.1 (by decide)
  capturedRevision := h.capturedRevision
  saveLifecycleToken := h.saveLifecycleToken

theorem readable : (saveTask s).Readable := by
  have hcount := h.bounds.2.2.2.2
  have hnil : Val.nil.Within := by rw [Db.Val.within_iff]; trivial
  have hrows : (fun item => row (itemValues item)) = row ∘ itemValues := rfl
  unfold DbTask.Readable
  rw [if_pos (.inr rfl)]
  have hone : (-1 : Int) ≤ 1 := by decide
  have hany : (-1 : Int) ≤ -1 := Int.le_refl _
  refine ⟨forall_steps ⟨.inr rfl, hone, hnil⟩ ⟨.inr rfl, hany, hnil⟩ ⟨.inr rfl, hany, hnil⟩
    fun _ => ⟨.inr rfl, hone, hnil⟩, ?_⟩
  refine forall_verification ⟨.inl rfl, hany, ?_⟩ ⟨.inl rfl, hany, ?_⟩ ⟨.inl rfl, hany, ?_⟩
  · exact @within_rows [playerValues s] (by simp [Db.kMaxItems])
      (by simp [playerValues, Db.kMaxItems])
  · exact @within_rows [containerValues s] (by simp [Db.kMaxItems])
      (by simp [containerValues, Db.kMaxItems])
  · change (Val.arr ((bySlot s.items).map fun item => row (itemValues item))).Within
    rw [hrows, ← List.map_map]
    refine within_rows ?_ (by simp [itemValues, Db.kMaxItems])
    rw [List.length_map, bySlot, List.length_mergeSort]
    unfold Db.kMaxItems
    omega

end Shippable

/-- A task that passes the checks is begun. -/
theorem executeTransaction_begins (hpass : Db.refusal task = none) {σ : Type}
    (b : Db.TransactionBackend σ) (state : σ) :
    ∃ start rest, (Db.executeTransaction b task state).2.calls = .begin start :: rest := by
  unfold Db.executeTransaction
  rw [hpass]
  dsimp only
  split
  · exact ⟨_, [], rfl⟩
  have hout : (Db.identity task).errcode = 0 ∧ (Db.identity task).classification = .success :=
    ⟨rfl, rfl⟩
  split
  · rename_i hkind
    obtain ⟨new, hcalls, -⟩ := Db.lockAndApply_spec (b := b) hout
      (Db.verification_length hpass hkind) (Db.Session.begin b ⟨state, []⟩ {}).1
      (Db.Session.begin b ⟨state, []⟩ {}).2
    exact ⟨_, new, hcalls⟩
  · obtain ⟨new, hcalls, -⟩ := Db.applyAll_spec (b := b) hout task.steps []
      (Db.Session.begin b ⟨state, []⟩ {}).1 (Db.Session.begin b ⟨state, []⟩ {}).2
    exact ⟨_, new, hcalls⟩

/-- A save that is accepted is encoded, decoded as it is, and begun on every backend. -/
theorem save_ships (h : Shippable s task) :
    ∃ body, task.encode = some body ∧ DbTask.decode body = some task ∧
      ∀ (σ : Type) (b : Db.TransactionBackend σ) (state : σ), ∃ start rest,
        (Db.executeTransaction b task state).2.calls = .begin start :: rest := by
  have htask := h.task_eq
  obtain ⟨body, hbody⟩ := h.encode_isSome
  have hread := (Db.task_decoded h.sized hbody).1 h.readable
  have hcarried : (saveTask s).carried = saveTask s := if_pos (.inr rfl)
  rw [hcarried] at hread
  subst htask
  exact ⟨body, hbody, hread, fun σ b state =>
    executeTransaction_begins (refusal_task ⟨s, _, h.built⟩) b state⟩

/-- A player with two stacks. -/
def packed : PlayerSaveSnapshot where
  playerId := 7
  saveVersion := 3
  bagNextSlot := 2
  items := [⟨11, 5, 1⟩, ⟨12, 1, 0⟩]

theorem save_ships_packed : ∃ body, (saveTask packed).encode = some body ∧
    DbTask.decode body = some (saveTask packed) := by
  have hbuilt : buildSave packed = .ok (saveTask packed) := by
    unfold buildSave
    rw [if_neg (by decide), if_neg (by decide)]
  obtain ⟨body, hbody, hread, -⟩ := save_ships ⟨hbuilt, by decide, by decide⟩
  exact ⟨body, hbody, hread⟩

end Save

end Scene
