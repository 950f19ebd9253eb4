import Mathlib.Logic.Function.Basic
import GameServer.Scene.SnapshotDao

/-!
# A store for snapshots

A database that knows the statements of the snapshots, and no others. The rows
are kept as the integers that the parameters denote. A transaction keeps a copy
of the tables and a rollback puts it back.
-/

namespace Scene

open Gateway (Bytes text)
open Db (DbResult DbTask SqlStep TransactionBackend Val decimal)
open Function (update)
open PlayerSnapshotDao

/-- The digits of a number, the last one first. -/
def digitsOf : Bytes → Option (List Nat)
  | [] => some []
  | c :: cs => if 48 ≤ c ∧ c ≤ 57 then (digitsOf cs).map fun ds => (c.toNat - 48) :: ds else none

/-- The number that a parameter denotes. -/
def parseDecimal (s : Bytes) : Option Nat :=
  if s.isEmpty then none else (digitsOf s.reverse).map (Nat.ofDigits 10)

def parseInt : Bytes → Option Int
  | 45 :: s => (parseDecimal s).map fun n : Nat => -(n : Int)
  | s => (parseDecimal s).map fun n : Nat => (n : Int)

section Decimal

theorem digitsOf_map {ds : List Nat} (h : ∀ d ∈ ds, d < 10) :
    digitsOf (ds.map fun d => UInt8.ofNat (48 + d)) = some ds := by
  induction ds with
  | nil => rfl
  | cons d ds ih =>
    have hd : d < 10 := h d List.mem_cons_self
    have hnat : (UInt8.ofNat (48 + d)).toNat = 48 + d := by
      rw [UInt8.toNat_ofNat', Nat.mod_eq_of_lt (by omega)]
    have hdigit : 48 ≤ UInt8.ofNat (48 + d) ∧ UInt8.ofNat (48 + d) ≤ 57 := by
      simp only [UInt8.le_iff_toNat_le, hnat]
      exact ⟨Nat.le_add_right _ _, by simp; omega⟩
    simp only [List.map_cons, digitsOf, hdigit, and_self, if_true, hnat,
      ih fun x hx => h x (List.mem_cons_of_mem _ hx), Option.map_some, Nat.add_sub_cancel_left]

theorem parseDecimal_decimal (n : Nat) : parseDecimal (decimal n) = some n := by
  unfold decimal
  split
  · rename_i hn
    subst hn
    decide
  · rename_i hn
    have hlt : ∀ d ∈ Nat.digits 10 n, d < 10 := fun d hd => Nat.digits_lt_base (by decide) hd
    have hne : ((Nat.digits 10 n).reverse.map fun d => UInt8.ofNat (48 + d)).isEmpty = false := by
      simp [Nat.digits_eq_nil_iff_eq_zero, hn]
    unfold parseDecimal
    rw [hne, if_neg Bool.false_ne_true, ← List.map_reverse, List.reverse_reverse,
      digitsOf_map hlt, Option.map_some, Nat.ofDigits_digits]

/-- A number is not written with a sign. -/
theorem head_decimal (n : Nat) (s : Bytes) : decimal n ≠ 45 :: s := by
  intro h
  have hparse := parseDecimal_decimal n
  rw [h] at hparse
  unfold parseDecimal at hparse
  have hfail : ∀ cs : Bytes, digitsOf (cs ++ [45]) = none := by
    intro cs
    induction cs with
    | nil => decide
    | cons c cs ih =>
      simp only [List.cons_append, digitsOf, ih, Option.map_none, ite_self]
  simp [hfail] at hparse

@[simp] theorem parseInt_decimal (n : Nat) : parseInt (decimal n) = some (n : Int) := by
  unfold parseInt
  split
  · rename_i s h
    exact absurd h (head_decimal n s)
  · rw [parseDecimal_decimal]
    rfl

@[simp] theorem parseInt_toDecimal (i : Int) : parseInt (Db.toDecimal i) = some i := by
  unfold Db.toDecimal
  split
  · rename_i hi
    show (parseDecimal (decimal i.natAbs)).map (fun n : Nat => -(n : Int)) = some i
    rw [parseDecimal_decimal, Option.map_some]
    congr 1
    omega
  · rename_i hi
    rw [parseInt_decimal]
    congr 1
    omega

end Decimal

structure PlayerRow where
  hp : Int
  mp : Int
  gold : Int
  posX : Int
  posY : Int
  dir : Int
  sceneId : Int
  saveVersion : Int
  deriving DecidableEq, Repr

structure ContainerRow where
  capacity : Int
  nextSlot : Int
  containerVersion : Int
  deriving DecidableEq, Repr

structure ItemRow where
  itemId : Int
  slot : Int
  quantity : Int
  deriving DecidableEq, Repr

/-- The tables by player; of the containers and their items only those of kind 1. -/
structure Tables where
  player : Int → Option PlayerRow := fun _ => none
  container : Int → Option ContainerRow := fun _ => none
  items : Int → List ItemRow := fun _ => []

inductive Statement where
  | lockPlayer
  | selectPlayerForUpdate
  | selectPlayer
  | selectContainer
  | selectItems
  | updatePlayer
  | insertContainer
  | deleteItems
  | insertItem
  deriving DecidableEq, Repr

namespace Statement

def sql : Statement → Bytes
  | lockPlayer => text "SELECT save_version FROM player WHERE id=? FOR UPDATE"
  | selectPlayerForUpdate => PlayerSnapshotDao.selectPlayerForUpdate
  | selectPlayer => PlayerSnapshotDao.selectPlayer
  | selectContainer => PlayerSnapshotDao.selectContainer
  | selectItems => PlayerSnapshotDao.selectItems
  | updatePlayer => PlayerSnapshotDao.updatePlayer
  | insertContainer => PlayerSnapshotDao.insertContainer
  | deleteItems => PlayerSnapshotDao.deleteItems
  | insertItem => PlayerSnapshotDao.insertItem

def all : List Statement :=
  [lockPlayer, selectPlayerForUpdate, selectPlayer, selectContainer, selectItems, updatePlayer,
    insertContainer, deleteItems, insertItem]

def ofSql (s : Bytes) : Option Statement := all.find? fun st => st.sql = s

/-- The kind of the step that a statement is put in. -/
def kind : Statement → Nat
  | updatePlayer | insertContainer | deleteItems | insertItem => 2
  | _ => 1

theorem ofSql_sql (st : Statement) : ofSql st.sql = some st := by
  cases st <;> decide +kernel

theorem validStep_sql (st : Statement) :
    Db.validStep { kind := st.kind, args := [st.sql] } = true := by
  cases st <;> decide +kernel

end Statement

/-- A step that runs a statement is one that a transaction accepts. -/
theorem validStep_of_sql {step : SqlStep} (st : Statement) {args : List Bytes} (n : Int)
    (hargs : step.args = st.sql :: args) (hkind : step.kind = st.kind)
    (hn : step.expectedAffected = n) (haffected : -1 ≤ n) (hselect : st.kind = 1 → n = -1) :
    Db.validStep step = true := by
  have h := Statement.validStep_sql st
  unfold Db.validStep at h ⊢
  simp only [hargs, hkind, hn] at h ⊢
  have hbounds : ¬ n < -1 := by omega
  have hplain : ¬ (st.kind = 1 ∧ n ≠ -1) := fun hk => hk.2 (hselect hk.1)
  simpa [hbounds, hplain] using h

namespace Tables

variable (t : Tables)

def setPlayer (id : Int) (r : PlayerRow) : Tables :=
  { t with player := update t.player id (some r) }

def setContainer (id : Int) (r : ContainerRow) : Tables :=
  { t with container := update t.container id (some r) }

def setItems (id : Int) (rows : List ItemRow) : Tables :=
  { t with items := update t.items id rows }

def sortRows (rows : List ItemRow) : List ItemRow :=
  rows.mergeSort fun a b => decide (a.slot ≤ b.slot)

def playerRows (id : Int) : List Val :=
  match t.player id with
  | none => []
  | some r => [row [r.hp, r.mp, r.gold, r.posX, r.posY, r.dir, r.sceneId, r.saveVersion]]

def containerRows (id : Int) : List Val :=
  match t.container id with
  | none => []
  | some r => [row [r.capacity, r.nextSlot, r.containerVersion]]

def itemRows (id : Int) : List Val :=
  (sortRows (t.items id)).map fun r => row [r.itemId, r.slot, r.quantity]

/-- What a statement changed: the number of rows, and no generated key. -/
def changed (n : Nat) : Val := .arr [.int n, .int 0]

/-- A statement with its parameters: its data and the tables after it, or nothing if it fails. -/
def run : Statement → List Int → Option (Val × Tables)
  | .lockPlayer, [id] =>
    some (.arr ((t.player id).toList.map fun r => row [r.saveVersion]), t)
  | .selectPlayerForUpdate, [id] => some (.arr (t.playerRows id), t)
  | .selectPlayer, [id] => some (.arr (t.playerRows id), t)
  | .selectContainer, [id] => some (.arr (t.containerRows id), t)
  | .selectItems, [id] => some (.arr (t.itemRows id), t)
  | .updatePlayer, [hp, mp, gold, posX, posY, dir, sceneId, saveVersion, id, below] =>
    match t.player id with
    | none => some (changed 0, t)
    | some r =>
      if r.saveVersion < below then
        some (changed 1, t.setPlayer id { hp, mp, gold, posX, posY, dir, sceneId, saveVersion })
      else some (changed 0, t)
  | .insertContainer, [id, capacity, nextSlot, containerVersion] =>
    some (changed (if (t.container id).isSome then 2 else 1),
      t.setContainer id { capacity, nextSlot, containerVersion })
  | .deleteItems, [id] =>
    some (changed (t.items id).length, t.setItems id [])
  | .insertItem, [id, itemId, slot, quantity] =>
    -- an item and a slot have one row each
    if (t.items id).any fun r => r.itemId = itemId ∨ r.slot = slot then none
    else some (changed 1, t.setItems id (t.items id ++ [{ itemId, slot, quantity }]))
  | _, _ => none

end Tables

/-- The tables, and what a rollback would put back. -/
structure Store where
  tables : Tables
  saved : Option Tables := none

namespace Store

def refused (message : String) : DbResult :=
  { errcode := 1003, errmsg := text message, classification := .failure }

def execute (step : SqlStep) (s : Store) : DbResult × Store :=
  match step.args with
  | [] => (refused "empty sql", s)
  | statement :: args =>
    match Statement.ofSql statement, args.mapM parseInt with
    | some st, some values =>
      match s.tables.run st values with
      | some (data, tables) => ({ data }, { s with tables })
      | none => (refused "statement failed", s)
    | _, _ => (refused "unknown statement", s)

def backend : TransactionBackend Store where
  begin := fun _ s => ({}, { s with saved := some s.tables })
  execute := fun step _ s => execute step s
  commit := fun _ s => ({}, { s with saved := none })
  rollback := fun s => (true, { tables := s.saved.getD s.tables, saved := none })

end Store

end Scene
