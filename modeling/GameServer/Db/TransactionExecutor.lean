import Mathlib.Data.Nat.Digits.Defs
import GameServer.Db.Value

/-!
# Transactions on a backend

A transaction task is checked, begun, executed step by step and committed; what
fails after it has begun is rolled back. The backend answers as it likes. The
calls it gets are recorded with their answers.
-/

namespace Db

open Gateway (Bytes text)

/-- `std::to_string` of a number that is not negative. -/
def decimal (n : Nat) : Bytes :=
  if n = 0 then text "0" else (Nat.digits 10 n).reverse.map fun d => UInt8.ofNat (48 + d)

/-- `std::to_string`. -/
def toDecimal (i : Int) : Bytes := if i < 0 then text "-" ++ decimal i.natAbs else decimal i.toNat

/-- `TransactionBackend`. The result that a call writes to is the one of the call before. -/
structure TransactionBackend (σ : Type) where
  begin : DbResult → σ → DbResult × σ
  execute : SqlStep → DbResult → σ → DbResult × σ
  commit : DbResult → σ → DbResult × σ
  rollback : σ → Bool × σ

inductive BackendCall where
  | begin (result : DbResult)
  | execute (step : SqlStep) (result : DbResult)
  | commit (result : DbResult)
  | rollback (ok : Bool)

section Statement

def isBlank (c : UInt8) : Bool := c = 32 ∨ c = 9 ∨ c = 13 ∨ c = 10

def isAlpha (c : UInt8) : Bool := (65 ≤ c ∧ c ≤ 90) ∨ (97 ≤ c ∧ c ≤ 122)

def toUpper (c : UInt8) : UInt8 := if 97 ≤ c ∧ c ≤ 122 then c - 32 else c

/-- The word that a statement starts with. -/
def verb (sql : Bytes) : Bytes := ((sql.dropWhile isBlank).takeWhile isAlpha).map toUpper

def validStep (step : SqlStep) : Bool :=
  match step.args with
  | [] => false
  | sql :: _ =>
    if sql.isEmpty ∨ step.expectedAffected < -1 ∨ (step.kind ≠ 1 ∧ step.kind ≠ 2) ∨
        (step.kind = 1 ∧ step.expectedAffected ≠ -1) then false
    else if (sql.dropWhile isBlank).isEmpty ∨ 59 ∈ sql then false
    else if step.kind = 1 then verb sql = text "SELECT"
    else verb sql = text "INSERT" ∨ verb sql = text "UPDATE" ∨ verb sql = text "DELETE"

end Statement

section Execute

variable {σ : Type} (b : TransactionBackend σ)

/-- What an execution has so far: the backend and the calls it got. -/
structure Session (σ : Type) where
  state : σ
  calls : List BackendCall := []

namespace Session

variable (t : Session σ)

def begin (result : DbResult) : DbResult × Session σ :=
  let out := b.begin result t.state
  (out.1, ⟨out.2, t.calls ++ [.begin out.1]⟩)

def execute (step : SqlStep) (result : DbResult) : DbResult × Session σ :=
  let out := b.execute step result t.state
  (out.1, ⟨out.2, t.calls ++ [.execute step out.1]⟩)

def commit (result : DbResult) : DbResult × Session σ :=
  let out := b.commit result t.state
  (out.1, ⟨out.2, t.calls ++ [.commit out.1]⟩)

def rollback : Bool × Session σ :=
  let out := b.rollback t.state
  (out.1, ⟨out.2, t.calls ++ [.rollback out.1]⟩)

end Session

/-- `fail` of `executeTransaction`. -/
def fail (out : DbResult) (kind : ResultClass) (message : String) : DbResult :=
  { out with errcode := 1010, errmsg := text message, classification := kind }

def copyError (out result : DbResult) : DbResult :=
  { out with
    errcode := result.errcode
    errmsg := result.errmsg
    classification := if result.classification = .success then .failure else result.classification
    nativeError := result.nativeError }

def abort (out : DbResult) (t : Session σ) : DbResult × Session σ :=
  match t.rollback b with
  | (true, t) => (out, t)
  | (false, t) =>
    ({ out with
        errcode := 1011
        errmsg := out.errmsg ++ text "; rollback not confirmed"
        classification := .outcomeUnknown }, t)

/-- The reads of a save whose version is stored already. -/
def verifyAll (out : DbResult) : List SqlStep → DbResult → Session σ → DbResult × Session σ
  | [], _, t => abort b out t
  | step :: steps, result, t =>
    let (result, t) := t.execute b step result
    if result.errcode ≠ 0 then abort b (copyError out result) t
    else if !equalValue result.data step.expectedData then
      abort b (fail out .versionConflict "same save_version has different persistent payload") t
    else verifyAll out steps result t

def affected (data : Val) (expected : Int) : Bool :=
  match data with
  | .arr (.int n :: _) => n = expected
  | _ => false

/-- The steps of a transaction and its commit. -/
def applyAll (out : DbResult) :
    List SqlStep → List Val → DbResult → Session σ → DbResult × Session σ
  | [], results, result, t =>
    let (result, t) := t.commit b result
    if result.errcode ≠ 0 then abort b (copyError out result) t
    else ({ out with data := .arr results }, t)
  | step :: steps, results, result, t =>
    let (result, t) := t.execute b step result
    if result.errcode ≠ 0 then abort b (copyError out result) t
    else if 0 ≤ step.expectedAffected ∧ !affected result.data step.expectedAffected then
      abort b (fail out .businessRejected "affected row precondition failed") t
    else if step.checkData ∧ !equalValue result.data step.expectedData then
      abort b (fail out .businessRejected "SQL result precondition failed") t
    else applyAll out steps (results ++ [result.data]) result t

def lockStep (playerId : Nat) : SqlStep :=
  { kind := 1
    args := [text "SELECT save_version FROM player WHERE id=? FOR UPDATE", decimal playerId] }

/-- The version in the row of the player, if there is one row with one version. -/
def lockedVersion : Val → Option Nat
  | .arr [.arr [.int v]] => if v < 0 then none else some v.toNat
  | _ => none

/-- What a save does before its steps. -/
def lockAndApply (task : DbTask) (out : DbResult) (result : DbResult) (t : Session σ) :
    DbResult × Session σ :=
  let (result, t) := t.execute b (lockStep task.playerId) result
  if result.errcode ≠ 0 then abort b (copyError out result) t
  else match lockedVersion result.data with
    | none =>
      abort b (fail out .versionConflict
        "player row missing or invalid; creation requires explicit provisioning") t
    | some version =>
      if task.saveVersion < version then abort b { out with classification := .superseded } t
      else if version = task.saveVersion then verifyAll b out task.verification result t
      else applyAll b out task.steps [] result t

/-- The checks on a task before it is begun; `none` if it passes. -/
def refusal (task : DbTask) : Option String :=
  if (task.kind ≠ 4 ∧ task.kind ≠ 5) ∨ task.steps.isEmpty ∨ 65540 < task.steps.length ∨
      !task.args.isEmpty ∨ (task.kind = 4 ∧ !task.verification.isEmpty) then
    some "invalid transaction request"
  else if !task.steps.all validStep then some "transaction accepts parameterized DML only"
  else if !task.verification.all fun step => validStep step ∧ step.kind = 1 ∧ step.checkData then
    some "invalid snapshot verification"
  else if task.kind = 5 ∧ (task.playerId = 0 ∨ task.saveVersion = 0 ∨ 2 ^ 63 ≤ task.playerId ∨
      2 ^ 63 ≤ task.saveVersion ∨ task.verification.length ≠ 3) then
    some "invalid snapshot identity/version"
  else none

/-- The result that a task starts with. -/
def identity (task : DbTask) : DbResult :=
  { playerId := task.playerId
    saveVersion := task.saveVersion
    capturedRevision := task.capturedRevision
    saveLifecycleToken := task.saveLifecycleToken }

def executeTransaction (task : DbTask) (s : σ) : DbResult × Session σ :=
  match refusal task with
  | some message => (fail (identity task) .failure message, ⟨s, []⟩)
  | none =>
    let (result, t) := Session.begin b ⟨s, []⟩ {}
    if result.errcode ≠ 0 then (copyError (identity task) result, t)
    else if task.kind = 5 then lockAndApply b task (identity task) result t
    else applyAll b (identity task) task.steps [] result t

end Execute

section MySql

/-- What the MySQL client library gives: an error with its number and its text, or nothing. A
statement gives its result and whether the connection was lost. -/
structure MySqlClient (σ : Type) where
  startTransaction : σ → Option (Nat × Bytes) × σ
  statement : SqlStep → Bool → σ → DbResult × Bool × σ
  commit : σ → Option (Nat × Bytes) × σ
  rollback : σ → Option (Nat × Bytes) × σ

structure MySqlConnection (σ : Type) where
  client : σ
  connected : Bool := true
  inTransaction : Bool := false

namespace MySqlConnection

variable {σ : Type} (client : MySqlClient σ)

def kErrNotConnected : Int := 1000
def kErrBadTask : Int := 1001
def kErrExecute : Int := 1003

/-- `Fail`. -/
def failed (code : Int) (message : Bytes) : DbResult :=
  { errcode := code, errmsg := message, classification := .failure }

def close (c : MySqlConnection σ) : MySqlConnection σ :=
  { c with connected := false, inTransaction := false }

def begin (c : MySqlConnection σ) : DbResult × MySqlConnection σ :=
  if !c.connected then
    ({ failed kErrNotConnected (text "mysql not connected; transaction not started") with
        classification := .retryable }, c)
  else if c.inTransaction then (failed kErrBadTask (text "nested transaction rejected"), c)
  else match client.startTransaction c.client with
    | (some (number, message), s) =>
      let c := { c with client := s }
      ({ failed kErrExecute message with nativeError := number },
        if number = 2006 ∨ number = 2013 then c.close else c)
    | (none, s) => ({}, { c with client := s, inTransaction := true })

def execute (step : SqlStep) (c : MySqlConnection σ) : DbResult × MySqlConnection σ :=
  if !c.connected then (failed kErrNotConnected (text "mysql not connected"), c)
  else
    let out := client.statement step c.inTransaction c.client
    let c := { c with client := out.2.2 }
    (out.1, if out.2.1 then c.close else c)

/-- A commit whose outcome is not known is never tried again. -/
def commit (c : MySqlConnection σ) : DbResult × MySqlConnection σ :=
  if !c.connected ∨ !c.inTransaction then
    ({ failed kErrExecute (text "transaction connection lost before commit") with
        classification := .outcomeUnknown }, c)
  else match client.commit c.client with
    | (some (number, message), s) =>
      ({ failed kErrExecute message with
          nativeError := number, classification := .outcomeUnknown },
        { c with client := s }.close)
    | (none, s) => ({}, { c with client := s, inTransaction := false })

def rollback (c : MySqlConnection σ) : Bool × MySqlConnection σ :=
  if !c.connected then (false, c)
  else if !c.inTransaction then (true, c)
  else match client.rollback c.client with
    | (some _, s) => (false, { c with client := s }.close)
    | (none, s) => (true, { c with client := s, inTransaction := false })

def backend : TransactionBackend (MySqlConnection σ) where
  begin := fun _ => begin client
  execute := fun step _ => execute client step
  commit := fun _ => commit client
  rollback := rollback client

theorem commit_classification (c : MySqlConnection σ) :
    (commit client c).1.classification ≠ .retryable := by
  unfold commit
  split
  · simp
  split <;> simp

end MySqlConnection

end MySql

end Db
