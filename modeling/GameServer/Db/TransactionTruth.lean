import GameServer.Lib.Run
import GameServer.Db.TransactionExecutor
import GameServer.Db.TransactionRetries

/-!
# What the result of a transaction means

The ends of an execution: it was committed, it was rolled back, the rollback was
not confirmed, or the reads of a save that is stored already have matched. The
result says which, so that a transaction that is tried again has not called
commit before.
-/

namespace Db

open Gateway (text)

variable {σ : Type} {b : TransactionBackend σ} {out res : DbResult} {t : Session σ}
  {new : List BackendCall}

section Calls

def commits (calls : List BackendCall) : List DbResult :=
  calls.filterMap fun
    | .commit result => some result
    | _ => none

def rollbacks (calls : List BackendCall) : List Bool :=
  calls.filterMap fun
    | .rollback ok => some ok
    | _ => none

/-- The transaction was begun. -/
def Begun (calls : List BackendCall) : Prop :=
  ∃ result rest, calls = .begin result :: rest ∧ result.errcode = 0

/-- The transaction was committed. -/
def Committed (calls : List BackendCall) : Prop := ∃ result ∈ commits calls, result.errcode = 0

/-- The reads of `verification`, each with the data that it expects. -/
def Matched (steps : List SqlStep) (reads : List DbResult) : Prop :=
  List.Forall₂ (fun step read => read.errcode = 0 ∧ equalValue read.data step.expectedData = true)
    steps reads

/-- The three reads of a save have matched what is stored under its own version, and nothing was
done. -/
def Verified (task : DbTask) (calls : List BackendCall) : Prop :=
  ∃ start lock reads, calls =
      .begin start :: .execute (lockStep task.playerId) lock ::
        (List.zipWith .execute task.verification reads ++ [.rollback true]) ∧
    lockedVersion lock.data = some task.saveVersion ∧ reads.length = 3 ∧
    Matched task.verification reads

end Calls

/-- How an execution ended, with the calls since it has begun. -/
inductive Ended (b : TransactionBackend σ) (verified : Prop) (res : DbResult)
    (new : List BackendCall) : Prop
  | committed (c : DbResult) (hcommit : commits new = [c]) (hok : c.errcode = 0)
      (hrollback : rollbacks new = []) (herr : res.errcode = 0)
      (hres : res.classification = .success)
  | undone (hcommit : commits new = [] ∨ ∃ r s, commits new = [(b.commit r s).1] ∧
      (b.commit r s).1.errcode ≠ 0 ∧
      (res.classification = .retryable → (b.commit r s).1.classification = .retryable))
      (hrollback : rollbacks new = [true]) (hres : res.classification ≠ .success)
  | unconfirmed (hcommit : commits new = [] ∨ ∃ c, commits new = [c] ∧ c.errcode ≠ 0)
      (hrollback : rollbacks new = [false]) (hres : res.classification = .outcomeUnknown)
  | verified (hmatched : verified) (hcommit : commits new = []) (hrollback : rollbacks new = [true])
      (herr : res.errcode = 0) (hres : res.classification = .success)

theorem Ended.mono {v w : Prop} (h : Ended b v res new) (hvw : v → w) : Ended b w res new := by
  cases h with
  | committed c hcommit hok hrollback herr hres => exact .committed c hcommit hok hrollback herr hres
  | undone hcommit hrollback hres => exact .undone hcommit hrollback hres
  | unconfirmed hcommit hrollback hres => exact .unconfirmed hcommit hrollback hres
  | verified hmatched hcommit hrollback herr hres =>
    exact .verified (hvw hmatched) hcommit hrollback herr hres

/-- A call that is no commit and no rollback is put before the others. -/
theorem Ended.cons {v w : Prop} (h : Ended b v res new) (hvw : v → w) (step : SqlStep)
    (read : DbResult) : Ended b w res (.execute step read :: new) := by
  cases h.mono hvw with
  | committed c hcommit hok hrollback herr hres => exact .committed c hcommit hok hrollback herr hres
  | undone hcommit hrollback hres => exact .undone hcommit hrollback hres
  | unconfirmed hcommit hrollback hres => exact .unconfirmed hcommit hrollback hres
  | verified hmatched hcommit hrollback herr hres =>
    exact .verified hmatched hcommit hrollback herr hres

/-- Commit was not called, or it failed. -/
theorem uncommitted (h : commits new = [] ∨ ∃ c, commits new = [c] ∧ c.errcode ≠ 0) :
    ¬ ∃ result ∈ commits new, result.errcode = 0 := by
  rintro ⟨result, hmem, hok⟩
  rcases h with hnone | ⟨c, hone, herr⟩
  · rw [hnone] at hmem
    cases hmem
  · rw [hone, List.mem_singleton] at hmem
    exact herr (hmem ▸ hok)

section Abort

theorem copyError_classification (out result : DbResult) :
    (copyError out result).classification ≠ .success := by
  unfold copyError
  simp only
  split
  · simp
  · assumption

/-- An execution that failed is aborted: its result is kept if the rollback is confirmed. -/
theorem abort_spec (out : DbResult) (t : Session σ) :
    ((abort b out t).2.calls = t.calls ++ [.rollback true] ∧ (abort b out t).1 = out) ∨
      ((abort b out t).2.calls = t.calls ++ [.rollback false] ∧
        (abort b out t).1.classification = .outcomeUnknown) := by
  unfold abort Session.rollback
  cases hok : (b.rollback t.state).1 with
  | true => exact .inl (by simp [hok])
  | false => exact .inr (by simp [hok])

/-- What `before` has called since the transaction has begun is undone. -/
theorem ended_abort {v : List BackendCall → Prop} {before : List BackendCall} (calls : List BackendCall)
    (ht : t.calls = calls ++ before) (hrollback : rollbacks before = [])
    (hcommit : commits before = [] ∨ ∃ r s, commits before = [(b.commit r s).1] ∧
      (b.commit r s).1.errcode ≠ 0 ∧
      (out.classification = .retryable → (b.commit r s).1.classification = .retryable))
    (hout : out.classification ≠ .success) :
    ∃ new, (abort b out t).2.calls = calls ++ new ∧ Ended b (v new) (abort b out t).1 new := by
  have hcommits : ∀ ok, commits (before ++ [.rollback ok]) = commits before := by
    intro ok
    simp [commits]
  have hrollbacks : ∀ ok, rollbacks (before ++ [.rollback ok]) = [ok] := by
    intro ok
    unfold rollbacks at hrollback ⊢
    rw [List.filterMap_append, hrollback]
    rfl
  rcases abort_spec (b := b) out t with ⟨hcalls, hres⟩ | ⟨hcalls, hres⟩
  · refine ⟨before ++ [.rollback true], by rw [hcalls, ht, List.append_assoc], ?_⟩
    rw [hres]
    exact .undone (hcommits true ▸ hcommit) (hrollbacks true) hout
  · refine ⟨before ++ [.rollback false], by rw [hcalls, ht, List.append_assoc], ?_⟩
    refine .unconfirmed ?_ (hrollbacks false) hres
    rw [hcommits]
    exact hcommit.imp id fun ⟨r, s, hc, herr, _⟩ => ⟨_, hc, herr⟩

/-- A failed statement is undone. -/
theorem ended_execute {v : List BackendCall → Prop} (step : SqlStep) (result : DbResult) (t : Session σ)
    (hout : out.classification ≠ .success) :
    ∃ new, (abort b out (t.execute b step result).2).2.calls = t.calls ++ new ∧
      Ended b (v new) (abort b out (t.execute b step result).2).1 new :=
  ended_abort t.calls rfl rfl (.inl rfl) hout

end Abort

section Steps

/-- The reads of a save that is stored already: they all match, or one of them is the reason to
abort. -/
theorem verifyAll_spec (hout : out.errcode = 0 ∧ out.classification = .success)
    (steps : List SqlStep) (result : DbResult) (t : Session σ) :
    ∃ new, (verifyAll b out steps result t).2.calls = t.calls ++ new ∧
      Ended b (∃ reads, new = List.zipWith .execute steps reads ++ [.rollback true] ∧
        Matched steps reads) (verifyAll b out steps result t).1 new := by
  induction steps generalizing result t with
  | nil =>
    unfold verifyAll
    rcases abort_spec (b := b) out t with ⟨hcalls, hres⟩ | ⟨hcalls, hres⟩
    · refine ⟨_, hcalls, ?_⟩
      rw [hres]
      exact .verified ⟨[], rfl, .nil⟩ rfl rfl hout.1 hout.2
    · exact ⟨_, hcalls, .unconfirmed (.inl rfl) rfl hres⟩
  | cons step steps ih =>
    unfold verifyAll
    simp only
    split
    · exact ended_execute _ result t (copyError_classification _ _)
    rename_i hread
    split
    · exact ended_execute _ result t (by simp [fail])
    rename_i hequal
    obtain ⟨new, hcalls, hended⟩ :=
      ih (t.execute b step result).1 (t.execute b step result).2
    refine ⟨.execute step (t.execute b step result).1 :: new, ?_, hended.cons ?_ step _⟩
    · rw [hcalls]
      simp [Session.execute]
    · rintro ⟨reads, rfl, hmatched⟩
      refine ⟨(t.execute b step result).1 :: reads, rfl, .cons ⟨?_, ?_⟩ hmatched⟩
      · simpa using hread
      · simpa using hequal

/-- The steps of a transaction: the last thing is a commit that succeeds, or a rollback. -/
theorem applyAll_spec (hout : out.errcode = 0 ∧ out.classification = .success)
    (steps : List SqlStep) (results : List Val) (result : DbResult) (t : Session σ) :
    ∃ new, (applyAll b out steps results result t).2.calls = t.calls ++ new ∧
      Ended b False (applyAll b out steps results result t).1 new := by
  induction steps generalizing results result t with
  | nil =>
    unfold applyAll
    simp only
    split
    · rename_i herr
      refine ended_abort (v := fun _ => False) t.calls rfl rfl (.inr ⟨_, _, rfl, herr, ?_⟩)
        (copyError_classification _ _)
      intro hretry
      unfold copyError at hretry
      simp only at hretry
      split at hretry
      · cases hretry
      · exact hretry
    · rename_i hok
      exact ⟨_, rfl, .committed (t.commit b result).1 rfl (not_not.mp hok) rfl hout.1 hout.2⟩
  | cons step steps ih =>
    unfold applyAll
    simp only
    split
    · exact ended_execute (v := fun _ => False) _ result t (copyError_classification _ _)
    split
    · exact ended_execute (v := fun _ => False) _ result t (by simp [fail])
    split
    · exact ended_execute (v := fun _ => False) _ result t (by simp [fail])
    obtain ⟨new, hcalls, hended⟩ := ih (results ++ [(t.execute b step result).1.data])
      (t.execute b step result).1 (t.execute b step result).2
    refine ⟨.execute step (t.execute b step result).1 :: new, ?_, hended.cons id step _⟩
    rw [hcalls]
    simp [Session.execute]

theorem lockAndApply_spec {task : DbTask} (hout : out.errcode = 0 ∧ out.classification = .success)
    (hthree : task.verification.length = 3) (result : DbResult) (t : Session σ) :
    ∃ new, (lockAndApply b task out result t).2.calls = t.calls ++ new ∧
      Ended b (∃ lock reads, new = .execute (lockStep task.playerId) lock ::
          (List.zipWith .execute task.verification reads ++ [.rollback true]) ∧
        lockedVersion lock.data = some task.saveVersion ∧ reads.length = 3 ∧
        Matched task.verification reads) (lockAndApply b task out result t).1 new := by
  unfold lockAndApply
  simp only
  split
  · exact ended_execute _ result t (copyError_classification _ _)
  split
  · exact ended_execute _ result t (by simp [fail])
  rename_i version hversion
  split
  · exact ended_execute _ result t (by simp)
  split
  · rename_i heq
    obtain ⟨new, hcalls, hended⟩ := verifyAll_spec (b := b) hout task.verification
      (t.execute b (lockStep task.playerId) result).1 (t.execute b (lockStep task.playerId) result).2
    refine ⟨.execute (lockStep task.playerId) (t.execute b (lockStep task.playerId) result).1 :: new,
      ?_, hended.cons ?_ _ _⟩
    · rw [hcalls]
      simp [Session.execute]
    · rintro ⟨reads, rfl, hmatched⟩
      exact ⟨_, reads, rfl, heq ▸ hversion, hmatched.length_eq.symm.trans hthree, hmatched⟩
  · obtain ⟨new, hcalls, hended⟩ := applyAll_spec (b := b) hout task.steps []
      (t.execute b (lockStep task.playerId) result).1 (t.execute b (lockStep task.playerId) result).2
    refine ⟨.execute (lockStep task.playerId) (t.execute b (lockStep task.playerId) result).1 :: new,
      ?_, hended.cons nofun _ _⟩
    rw [hcalls]
    simp [Session.execute]

/-- What the calls and the result of a task are. -/
inductive Outcome (b : TransactionBackend σ) (task : DbTask) (res : DbResult) (calls : List BackendCall) : Prop
  | refused (hcalls : calls = []) (herr : res.errcode ≠ 0) (hres : res.classification = .failure)
  | unbegun (start : DbResult) (hcalls : calls = [.begin start]) (hstart : start.errcode ≠ 0)
      (hres : res.classification ≠ .success)
  | ended (start : DbResult) (new : List BackendCall) (hcalls : calls = .begin start :: new)
      (hstart : start.errcode = 0)
      (hended : Ended b (task.kind = 5 ∧ Verified task calls) res new)

theorem verification_length {task : DbTask} (h : refusal task = none) (hkind : task.kind = 5) :
    task.verification.length = 3 := by
  unfold refusal at h
  repeat (split at h; · cases h)
  rename_i hok
  simp only [hkind, true_and, not_or, not_not, ne_eq] at hok
  exact hok.2.2.2.2

theorem executeTransaction_outcome (task : DbTask) (b : TransactionBackend σ) (s : σ) :
    Outcome b task (executeTransaction b task s).1 (executeTransaction b task s).2.calls := by
  unfold executeTransaction
  split
  · exact .refused rfl (by simp [fail]) rfl
  rename_i hpass
  simp only
  split
  · rename_i hstart
    exact .unbegun _ rfl hstart (copyError_classification _ _)
  rename_i hstart
  have hstart := not_not.mp hstart
  have hout : (identity task).errcode = 0 ∧ (identity task).classification = .success := ⟨rfl, rfl⟩
  split
  · rename_i hkind
    obtain ⟨new, hcalls, hended⟩ := lockAndApply_spec (b := b) hout
      (verification_length hpass hkind) (Session.begin b ⟨s, []⟩ {}).1 (Session.begin b ⟨s, []⟩ {}).2
    refine .ended _ new hcalls hstart (hended.mono ?_)
    rintro ⟨lock, reads, rfl, hlock, hlength, hmatched⟩
    exact ⟨hkind, _, lock, reads, hcalls, hlock, hlength, hmatched⟩
  · obtain ⟨new, hcalls, hended⟩ := applyAll_spec (b := b) hout
      task.steps [] (Session.begin b ⟨s, []⟩ {}).1 (Session.begin b ⟨s, []⟩ {}).2
    exact .ended _ new hcalls hstart (hended.mono nofun)

end Steps

section Driver

/-- The MySQL channel's part in transactions: its connection and the tasks that wait. The requests
that were executed for the first time and those that commit was called for are recorded. -/
structure TransactionDriver (σ : Type) where
  connection : σ
  retries : TransactionRetries := {}
  started : List Msg := []
  committed : List Msg := []

inductive DriverStep where
  | execute (request : Msg) (task : DbTask) (now : Int)
  | tick (now : Int)

/-- An execution on behalf of a request. -/
def attempt (b : TransactionBackend σ) (request : Msg) (task : DbTask) (s : σ × List Msg) :
    DbResult × σ × List Msg :=
  let out := executeTransaction b task s.1
  (out.1, out.2.state, s.2 ++ (commits out.2.calls).map fun _ => request)

def driverStep (b : TransactionBackend σ) (d : TransactionDriver σ) :
    DriverStep → Option (TransactionDriver σ)
  | .execute request task now =>
    let out := attempt b request task (d.connection, d.committed)
    some
      { connection := out.2.1
        retries := (d.retries.schedule request task out.1 1 now).getD d.retries
        started := d.started ++ [request]
        committed := out.2.2 }
  | .tick now =>
    let out := d.retries.tick now (fun e s => attempt b e.request e.task s) (fun _ _ s => s)
      (d.connection, d.committed)
    some { d with connection := out.2.1, retries := out.1, committed := out.2.2 }

/-- The requests that wait to be executed again. -/
def waitingRequests (q : TransactionRetries) : List Msg := q.entries.map (·.request)

/-- Each time a request was started, commit was called for it, or it waits, or neither; not both. -/
def CommitsOnce (d : TransactionDriver σ) : Prop :=
  ∀ request, d.committed.count request + (waitingRequests d.retries).count request ≤
    d.started.count request

/-- Commit is called once at most, and not by an execution that is tried again. -/
theorem commits_of_outcome {task : DbTask} {calls : List BackendCall}
    (hcommit : ∀ r s, (b.commit r s).1.errcode ≠ 0 → (b.commit r s).1.classification ≠ .retryable)
    (h : Outcome b task res calls) :
    (commits calls).length ≤ 1 ∧ (res.classification = .retryable → commits calls = []) := by
  cases h with
  | refused hcalls _ _ => simp [hcalls, commits]
  | unbegun start hcalls _ _ => simp [hcalls, commits]
  | ended start new hcalls hstart hended =>
    have hnew : commits calls = commits new := by
      rw [hcalls]
      rfl
    rw [hnew]
    cases hended with
    | committed c hcommit _ _ _ hres => simp [hcommit, hres]
    | undone hcommits _ _ =>
      rcases hcommits with hnil | ⟨r, s, hc, herr, hretry⟩
      · simp [hnil]
      · exact ⟨by simp [hc], fun hres => absurd (hretry hres) (hcommit r s herr)⟩
    | unconfirmed hcommits _ hres =>
      rcases hcommits with hnil | ⟨c, hc, _⟩
      · simp [hnil]
      · simp [hc, hres]
    | verified _ hcommits _ _ _ => simp [hcommits]

/-- One execution of a request: commit is called for it once, or it may wait. -/
theorem attempt_count
    (hcommit : ∀ r s, (b.commit r s).1.errcode ≠ 0 → (b.commit r s).1.classification ≠ .retryable)
    (request : Msg) (task : DbTask) (s : σ × List Msg) (other : Msg) :
    (attempt b request task s).2.2.count other ≤
        s.2.count other + [request].count other ∧
      ((attempt b request task s).1.classification = .retryable →
        (attempt b request task s).2.2 = s.2) := by
  obtain ⟨hone, hretry⟩ := commits_of_outcome hcommit (executeTransaction_outcome task b s.1)
  refine ⟨?_, fun hres => ?_⟩
  · unfold attempt
    rw [List.count_append]
    refine Nat.add_le_add_left ?_ _
    have hmap : ∀ l : List DbResult, l.length ≤ 1 →
        (l.map fun _ => request).count other ≤ [request].count other := by
      rintro (_ | ⟨c, _ | ⟨d, l⟩⟩) hl
      · exact Nat.zero_le _
      · exact Nat.le_refl _
      · simp at hl
    exact hmap _ hone
  · unfold attempt at hres ⊢
    simp only [hretry hres, List.map_nil, List.append_nil]

theorem commitsOnce_step
    (hcommit : ∀ r s, (b.commit r s).1.errcode ≠ 0 → (b.commit r s).1.classification ≠ .retryable)
    {d d' : TransactionDriver σ} {step : DriverStep} (h : CommitsOnce d)
    (hstep : driverStep b d step = some d') : CommitsOnce d' := by
  cases step with
  | execute request task now =>
    cases hstep
    intro other
    have hother := h other
    obtain ⟨hcount, hretry⟩ :=
      attempt_count hcommit request task (d.connection, d.committed) other
    simp only [List.count_append] at hcount ⊢
    cases hq : d.retries.schedule request task
        (attempt b request task (d.connection, d.committed)).1 1 now with
    | none =>
      simp only [Option.getD_none]
      omega
    | some q =>
      obtain ⟨-, hres, -, -, hentries⟩ := TransactionRetries.schedule_spec hq
      simp only [Option.getD_some, waitingRequests, hentries, List.map_append, List.count_append,
        hretry hres, List.map_cons, List.map_nil] at hother ⊢
      omega
  | tick now =>
    cases hstep
    refine TransactionRetries.tick_induction
      (fun q (s : σ × List Msg) => ∀ other, s.2.count other + (waitingRequests q).count other ≤
        d.started.count other) ?_ ?_ h
    · intro before e after s q hs hq other
      have hother := hs other
      obtain ⟨-, hres, -, -, hentries⟩ := TransactionRetries.schedule_spec hq
      rw [(attempt_count hcommit e.request e.task s other).2 hres]
      simp only [waitingRequests, hentries, List.map_append, List.map_cons, List.map_nil,
        List.count_append, List.count_cons, List.count_nil] at hother ⊢
      omega
    · intro before e after s hs _ other
      have hother := hs other
      have hcount := (attempt_count hcommit e.request e.task s other).1
      simp only [waitingRequests, List.map_append, List.map_cons, List.count_append,
        List.count_cons, List.count_nil] at hother hcount ⊢
      omega

end Driver

/-- The result of a transaction is true: it says success only after a commit, or if the three reads
of a save have matched under its version and the rollback was confirmed. What was committed is a
success without an error. What ends otherwise after it has begun is rolled back once, and is of
unknown outcome if that is not confirmed. No error comes with success. A request that is tried again
calls commit once at most for each time it was started, if no failed commit is retryable; those of
the MySQL connection are not. -/
theorem transaction_truthful (b : TransactionBackend σ) :
    (∀ task s, let out := executeTransaction b task s
      (out.1.classification = .success →
        Committed out.2.calls ∨ (task.kind = 5 ∧ Verified task out.2.calls)) ∧
      (Committed out.2.calls → out.1.classification = .success ∧ out.1.errcode = 0 ∧
        rollbacks out.2.calls = []) ∧
      (Begun out.2.calls → ¬ Committed out.2.calls → ∃ ok, rollbacks out.2.calls = [ok] ∧
        (ok = false → out.1.classification = .outcomeUnknown)) ∧
      (out.1.errcode ≠ 0 → out.1.classification ≠ .success)) ∧
    ((∀ r s, (b.commit r s).1.errcode ≠ 0 → (b.commit r s).1.classification ≠ .retryable) →
      ∀ steps s d, Run.exec (driverStep b) { connection := s } steps = some d →
        ∀ request, d.committed.count request ≤ d.started.count request) ∧
    ∀ (τ : Type) (client : MySqlClient τ) r c,
      ((MySqlConnection.backend client).commit r c).1.classification ≠ .retryable := by
  refine ⟨fun task s => ?_, fun hcommit steps s d hrun request => ?_,
    fun τ client r c => MySqlConnection.commit_classification client c⟩
  · have h := executeTransaction_outcome task b s
    generalize executeTransaction b task s = out at h
    obtain ⟨res, t⟩ := out
    simp only
    cases h with
    | refused hcalls herr hres =>
      rw [hcalls, hres]
      refine ⟨by simp, fun ⟨_, hmem, _⟩ => ?_, fun ⟨_, _, hcalls, _⟩ => by simp at hcalls, by simp⟩
      cases hmem
    | unbegun start hcalls hstart hres =>
      rw [hcalls]
      refine ⟨fun h => absurd h hres, fun ⟨_, hmem, _⟩ => ?_, fun ⟨_, _, heq, hok⟩ => ?_,
        fun _ => hres⟩
      · cases hmem
      · cases heq
        exact absurd hok hstart
    | ended start new hcalls hstart hended =>
      have hcommits : commits t.calls = commits new := by
        rw [hcalls]
        rfl
      have hrollbacks : rollbacks t.calls = rollbacks new := by
        rw [hcalls]
        rfl
      unfold Committed
      rw [hcommits, hrollbacks]
      cases hended with
      | committed c hcommit hok hrollback herr hres =>
        rw [hcommit]
        exact ⟨fun _ => .inl ⟨c, List.mem_singleton_self _, hok⟩,
          fun _ => ⟨hres, herr, hrollback⟩,
          fun _ hnot => absurd ⟨c, List.mem_singleton_self _, hok⟩ hnot, fun h => absurd herr h⟩
      | undone hcommit hrollback hres =>
        have hno := uncommitted (hcommit.imp id fun ⟨_, _, hone, herr, _⟩ => ⟨_, hone, herr⟩)
        exact ⟨fun h => absurd h hres, fun h => absurd h hno,
          fun _ _ => ⟨true, hrollback, nofun⟩, fun _ => hres⟩
      | unconfirmed hcommit hrollback hres =>
        rw [hres]
        exact ⟨by simp, fun h => absurd h (uncommitted hcommit),
          fun _ _ => ⟨false, hrollback, fun _ => rfl⟩, by simp⟩
      | verified hmatched hcommit hrollback herr hres =>
        exact ⟨fun _ => .inr hmatched, fun h => absurd h (uncommitted (.inl hcommit)),
          fun _ _ => ⟨true, hrollback, nofun⟩, fun h => absurd herr h⟩
  · have hinv : CommitsOnce d := Run.exec_invariant CommitsOnce
      (fun _ _ _ h hstep => commitsOnce_step hcommit h hstep) (fun _ => Nat.le_refl _) hrun
    exact le_trans (Nat.le_add_right _ _) (hinv request)

section Deadlock

/-- A server on which the first statement runs into a deadlock. -/
def deadlockOnce : MySqlClient Nat where
  startTransaction := fun n => (none, n)
  statement := fun _ inTransaction n =>
    if n = 0 ∧ inTransaction then
      ({ errcode := MySqlConnection.kErrExecute, classification := .retryable, nativeError := 1213 },
        false, n + 1)
    else ({ data := .arr [.int 1, .int 0] }, false, n + 1)
  commit := fun n => (none, n)
  rollback := fun n => (none, n)

def payment : DbTask :=
  { kind := 4
    steps := [{ args := [text "UPDATE player SET gold=gold-1 WHERE id=?", text "7"],
                expectedAffected := 1 }] }

theorem transaction_truthful_deadlock : ∃ d,
    Run.exec (driverStep (MySqlConnection.backend deadlockOnce)) { connection := { client := 0 } }
      [.execute {} payment 0, .tick 1000] = some d ∧
    d.committed = [{}] ∧ d.committed.count {} ≤ d.started.count {} := by
  have hrun : (Run.exec (driverStep (MySqlConnection.backend deadlockOnce))
      { connection := { client := 0 } } [.execute {} payment 0, .tick 1000]).any
      (fun d => decide (d.committed = [{}])) = true := by
    decide +kernel
  obtain ⟨d, hd, hcommitted⟩ := (Option.any_eq_true _ _).mp hrun
  exact ⟨d, hd, of_decide_eq_true hcommitted,
    (transaction_truthful (MySqlConnection.backend deadlockOnce)).2.1
      (fun _ c _ => MySqlConnection.commit_classification deadlockOnce c) _ _ d hd {}⟩

end Deadlock

end Db
