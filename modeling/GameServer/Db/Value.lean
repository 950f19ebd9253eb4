import Mathlib.Data.Option.Basic
import GameServer.Gateway.Wire

/-!
# Tasks and results of the database

The bodies of the messages between a worker and a DB thread: a task is one
statement or a transaction of several, a result carries a tree of values. Both
have a wire format; a reader takes bytes from the front and may refuse them.
-/

namespace Db

open Gateway (Bytes text putLE getLE)

inductive Val where
  | nil
  | int (i : Int)
  | str (s : Bytes)
  | arr (a : List Val)
  deriving Repr

structure SqlStep where
  kind : Nat := 2
  args : List Bytes := []
  expectedAffected : Int := -1
  checkData : Bool := false
  expectedData : Val := .nil
  deriving Repr

/-- Kinds 1 and 2 are single statements, 3 a Redis command, 4 a transaction and 5 the transaction
that saves a player. -/
structure DbTask where
  kind : Nat := 1
  args : List Bytes := []
  steps : List SqlStep := []
  verification : List SqlStep := []
  playerId : Nat := 0
  saveVersion : Nat := 0
  capturedRevision : Nat := 0
  saveLifecycleToken : Nat := 0
  deriving Repr

inductive ResultClass where
  | success
  | failure
  | retryable
  | outcomeUnknown
  | identityConflict
  | superseded
  | businessRejected
  | versionConflict
  deriving DecidableEq, Repr

structure DbResult where
  errcode : Int := 0
  errmsg : Bytes := []
  data : Val := .nil
  classification : ResultClass := .success
  nativeError : Nat := 0
  playerId : Nat := 0
  saveVersion : Nat := 0
  capturedRevision : Nat := 0
  saveLifecycleToken : Nat := 0
  deriving Repr

mutual

def equalValue : Val → Val → Bool
  | .nil, .nil => true
  | .int i, .int j => i = j
  | .str s, .str t => s = t
  | .arr a, .arr b => equalValues a b
  | _, _ => false

/-- The loop of `equalValue` over the elements of two arrays. -/
def equalValues : List Val → List Val → Bool
  | [], [] => true
  | a :: as, b :: bs => equalValue a b && equalValues as bs
  | _, _ => false

end

section Wire

def kWireMagic : Nat := 0xDB01
def kWireVersion : Nat := 1
def kMaxDepth : Nat := 64
def kMaxErrMsg : Nat := 64 * 1024
def kMaxItems : Nat := 2 ^ 24
def kMaxSteps : Nat := 65540
def kMaxArgs : Nat := 65536
def kMaxArgSize : Nat := 1024 * 1024
def kMaxTaskSize : Nat := 32 * 1024 * 1024

def putI64 (i : Int) : Bytes := putLE 8 (i % 2 ^ 64).toNat

def getI64 (s : Bytes) : Int :=
  if getLE s < 2 ^ 63 then getLE s else (getLE s : Int) - 2 ^ 64

def putI32 (i : Int) : Bytes := putLE 4 (i % 2 ^ 32).toNat

def getI32 (s : Bytes) : Int :=
  if getLE s < 2 ^ 31 then getLE s else (getLE s : Int) - 2 ^ 32

/-- A length and the bytes. -/
def putStr (s : Bytes) : Bytes := putLE 4 s.length ++ s

/-- A reader takes a value from the front of the bytes. -/
abbrev Reader (α : Type) := StateT Bytes Option α

namespace Reader

def fail {α : Type} : Reader α := fun _ => none

/-- So many bytes. -/
def take (n : Nat) : Reader Bytes := fun s =>
  if s.length < n then none else some (s.take n, s.drop n)

def remaining : Reader Nat := fun s => some (s.length, s)

def num (bytes : Nat) : Reader Nat := do return getLE (← take bytes)

/-- The same reader so many times. -/
def many {α : Type} (r : Reader α) : Nat → Reader (List α)
  | 0 => return []
  | n + 1 => do return (← r) :: (← many r n)

end Reader

open Reader

namespace Val

def kind : Val → Nat
  | .nil => 0
  | .int _ => 1
  | .str _ => 2
  | .arr _ => 3

end Val

mutual

/-- Past the depth limit only the kind is written. -/
def encodeValD : Val → Nat → Bytes
  | .nil, _ => [0]
  | .int i, depth => 1 :: if depth > kMaxDepth then [] else putI64 i
  | .str s, depth => 2 :: if depth > kMaxDepth then [] else putStr s
  | .arr a, depth =>
    3 :: if depth > kMaxDepth then [] else putLE 4 a.length ++ encodeValsD a (depth + 1)

def encodeValsD : List Val → Nat → Bytes
  | [], _ => []
  | v :: vs, depth => encodeValD v depth ++ encodeValsD vs depth

end

def encodeVal (v : Val) : Bytes := encodeValD v 0

/-- `DecodeValD` with the number of levels that are left, `kMaxDepth + 1 - depth`. -/
def decodeValD : Nat → Reader Val
  | 0 => fail
  | levels + 1 => do
    match ← num 1 with
    | 0 => return .nil
    | 1 => return .int (getI64 (← take 8))
    | 2 => return .str (← take (← num 4))
    | 3 =>
      let n ← num 4
      guard (n ≤ kMaxItems ∧ n ≤ (← remaining))
      return .arr (← many (decodeValD levels) n)
    | _ => fail

def decodeVal : Reader Val := decodeValD (kMaxDepth + 1)

def encodeStep (step : SqlStep) : Bytes :=
  putLE 1 step.kind ++ putI64 step.expectedAffected ++ putLE 1 step.checkData.toNat ++
    putLE 4 step.args.length ++ step.args.flatMap putStr ++ encodeVal step.expectedData

def encodeSteps (steps : List SqlStep) : Bytes := putLE 4 steps.length ++ steps.flatMap encodeStep

/-- What `Encode` refuses by an exception. -/
def badSteps (steps : List SqlStep) : Bool :=
  steps.any fun step => step.args.isEmpty ∨ step.args.length > kMaxArgs ∨
    step.args.any (·.length > kMaxArgSize)

/-- `DbTask::Encode`; `none` is its exception. -/
def DbTask.encode (t : DbTask) : Option Bytes :=
  if t.kind = 4 ∨ t.kind = 5 then
    if t.steps.isEmpty ∨ t.steps.length > kMaxSteps ∨ t.verification.length > kMaxSteps then none
    else if badSteps t.steps ∨ badSteps t.verification then none
    else
      let s := putLE 2 kWireMagic ++ putLE 1 2 ++ putLE 1 t.kind ++ putLE 8 t.playerId ++
        putLE 8 t.saveVersion ++ putLE 8 t.capturedRevision ++ putLE 8 t.saveLifecycleToken ++
        encodeSteps t.steps ++ encodeSteps t.verification
      if s.length > kMaxTaskSize then none else some s
  else some (putLE 2 kWireMagic ++ putLE 1 kWireVersion ++ putLE 1 t.kind ++
    putLE 4 t.args.length ++ t.args.flatMap putStr)

def decodeArg : Reader Bytes := do
  let len ← num 4
  guard (len ≤ kMaxArgSize)
  take len

def decodeStep : Reader SqlStep := do
  guard (14 ≤ (← remaining))
  let kind ← num 1
  let expectedAffected := getI64 (← take 8)
  let check ← num 1
  guard ((kind = 1 ∨ kind = 2) ∧ check ≤ 1 ∧ -1 ≤ expectedAffected)
  let argc ← num 4
  guard (argc ≠ 0 ∧ argc ≤ kMaxArgs ∧ argc * 4 ≤ (← remaining))
  let args ← many decodeArg argc
  let expectedData ← decodeVal
  return { kind, args, expectedAffected, checkData := check = 1, expectedData }

def decodeSteps : Reader (List SqlStep) := do
  let count ← num 4
  guard (count ≤ kMaxSteps ∧ count * 15 ≤ (← remaining))
  many decodeStep count

def decodeTransaction (size : Nat) : Reader DbTask := do
  guard (size ≤ kMaxTaskSize ∧ 33 ≤ (← remaining))
  let kind ← num 1
  guard (kind = 4 ∨ kind = 5)
  let playerId ← num 8
  let saveVersion ← num 8
  let capturedRevision ← num 8
  let saveLifecycleToken ← num 8
  let steps ← decodeSteps
  guard (steps.isEmpty = false)
  let verification ← decodeSteps
  return { kind, steps, verification, playerId, saveVersion, capturedRevision, saveLifecycleToken }

def decodeStatement : Reader DbTask := do
  let kind ← num 1
  let n ← num 4
  guard (n ≤ kMaxItems ∧ n * 4 ≤ (← remaining))
  let args ← many (do take (← num 4)) n
  return { kind, args }

/-- `DbTask::Decode`. -/
def DbTask.decode (body : Bytes) : Option DbTask := do
  if body.length < 8 then none
  else
    let (task, rest) ← (do
      guard ((← num 2) = kWireMagic)
      match ← num 1 with
      | 2 => decodeTransaction body.length
      | 1 => decodeStatement
      | _ => fail : Reader DbTask).run body
    if rest.isEmpty then some task else none

namespace ResultClass

def toNat : ResultClass → Nat
  | success => 0
  | failure => 1
  | retryable => 2
  | outcomeUnknown => 3
  | identityConflict => 4
  | superseded => 5
  | businessRejected => 6
  | versionConflict => 7

def ofNat? : Nat → Option ResultClass
  | 0 => some success
  | 1 => some failure
  | 2 => some retryable
  | 3 => some outcomeUnknown
  | 4 => some identityConflict
  | 5 => some superseded
  | 6 => some businessRejected
  | 7 => some versionConflict
  | _ => none

end ResultClass

def DbResult.encode (r : DbResult) : Bytes :=
  putLE 2 kWireMagic ++ putLE 1 3 ++ putI32 r.errcode ++ putStr r.errmsg ++ encodeVal r.data ++
    putLE 1 (if r.errcode ≠ 0 ∧ r.classification = .success then ResultClass.failure
      else r.classification).toNat ++
    putLE 4 r.nativeError ++ putLE 8 r.playerId ++ putLE 8 r.saveVersion ++
    putLE 8 r.capturedRevision ++ putLE 8 r.saveLifecycleToken

/-- Version 1 has no classification, version 2 no identities. -/
def decodeResult : Reader DbResult := do
  guard ((← num 2) = kWireMagic)
  let version ← num 1
  guard (version = 1 ∨ version = 2 ∨ version = 3)
  let errcode := getI32 (← take 4)
  let elen ← num 4
  guard (elen ≤ kMaxErrMsg)
  let errmsg ← take elen
  let data ← decodeVal
  let out : DbResult :=
    { errcode, errmsg, data, classification := if errcode = 0 then .success else .failure }
  if version = 1 then return out
  match ResultClass.ofNat? (← num 1) with
  | none => fail
  | some classification =>
    if version = 2 then return { out with classification }
    let nativeError ← num 4
    let playerId ← num 8
    let saveVersion ← num 8
    let capturedRevision ← num 8
    let saveLifecycleToken ← num 8
    return { out with
      classification, nativeError, playerId, saveVersion, capturedRevision, saveLifecycleToken }

/-- `DbResult::Decode`. -/
def DbResult.decode (body : Bytes) : Option DbResult := do
  if body.length < 11 then none
  else
    let (result, rest) ← decodeResult.run body
    if rest.isEmpty then some result else none

theorem decodeStatement_kind {b : UInt8} {rest rest' : Bytes} {t : DbTask}
    (h : decodeStatement (b :: rest) = some (t, rest')) : t.kind = b.toNat := by
  unfold decodeStatement at h
  obtain ⟨⟨n, s⟩, -, h⟩ := Option.bind_eq_some_iff.mp h
  obtain ⟨⟨u, s₁⟩, -, h⟩ := Option.bind_eq_some_iff.mp h
  obtain ⟨⟨args, s₂⟩, -, h⟩ := Option.bind_eq_some_iff.mp h
  cases h
  simp [getLE]

theorem DbTask.decode_statement {b : UInt8} {rest : Bytes} {t : DbTask}
    (h : DbTask.decode (1 :: 0xDB :: 1 :: b :: rest) = some t) : t.kind = b.toNat := by
  unfold DbTask.decode at h
  split at h
  · cases h
  obtain ⟨⟨task, rest'⟩, hrun, h⟩ := Option.bind_eq_some_iff.mp h
  have htask : task.kind = b.toNat := @decodeStatement_kind b rest rest' task hrun
  simp only at h
  split at h
  · cases h
    exact htask
  · cases h

/-- A statement is decoded with the kind it was written with, or not at all. -/
theorem DbTask.kind_of_decode {kind : Nat} {args : List Bytes} {body : Bytes} {t : DbTask}
    (hkind : kind = 1 ∨ kind = 2 ∨ kind = 3) (hbody : DbTask.encode { kind, args } = some body)
    (h : DbTask.decode body = some t) : t.kind = kind := by
  have hshape : body = 1 :: 0xDB :: 1 :: UInt8.ofNat kind ::
      (putLE 4 args.length ++ args.flatMap putStr) := by
    have hplain : ¬ (kind = 4 ∨ kind = 5) := by omega
    simp only [DbTask.encode, hplain, if_false, Option.some.injEq] at hbody
    rw [← hbody]
    simp [putLE, kWireMagic, kWireVersion, List.range_succ]
  rw [hshape] at h
  rw [DbTask.decode_statement h]
  rcases hkind with rfl | rfl | rfl <;> rfl

end Wire

end Db
