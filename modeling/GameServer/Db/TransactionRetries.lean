import GameServer.Db.TaskDelivery

/-!
# Transactions that are tried again

A transaction that is known to have had no effect waits here and is executed
again, three times in all. The callbacks of a pass work on a state of their own.
-/

namespace Db

structure RetryEntry where
  request : Msg
  task : DbTask
  attempts : Nat
  nextAt : Int

structure TransactionRetries where
  entries : List RetryEntry := []

namespace TransactionRetries

def kCapacity : Nat := 1024
def kMaxAttempts : Nat := 3

/-- `schedule`; `none` is its `false`. -/
def schedule (q : TransactionRetries) (request : Msg) (task : DbTask) (result : DbResult)
    (attempts : Nat) (now : Int) : Option TransactionRetries :=
  if (task.kind ≠ 4 ∧ task.kind ≠ 5) ∨ result.classification ≠ .retryable ∨ attempts = 0 ∨
      kMaxAttempts ≤ attempts ∨ kCapacity ≤ q.entries.length then none
  else some
    { entries := q.entries ++
        [{ request, task, attempts, nextAt := now + 100 * 2 ^ (attempts - 1) }] }

/-- The first entry whose time has come, and the others. -/
def takeDue (now : Int) : List RetryEntry → Option (RetryEntry × List RetryEntry)
  | [] => none
  | e :: es =>
    if e.nextAt ≤ now then some (e, es) else (takeDue now es).map fun (d, rest) => (d, e :: rest)

variable {σ : Type}

/-- The loop of `tick`: after each execution the deque is searched from its front again. -/
def tickLoop (execute : RetryEntry → σ → DbResult × σ) (complete : Msg → DbResult → σ → σ)
    (now : Int) : Nat → TransactionRetries → σ → TransactionRetries × σ
  | 0, q, s => (q, s)
  | budget + 1, q, s =>
    match takeDue now q.entries with
    | none => (q, s)
    | some (e, rest) =>
      let out := execute e s
      match schedule { entries := rest } e.request e.task out.1 (e.attempts + 1) now with
      | some q => tickLoop execute complete now budget q out.2
      | none => tickLoop execute complete now budget { entries := rest }
          (complete e.request out.1 out.2)

def tick (q : TransactionRetries) (now : Int) (execute : RetryEntry → σ → DbResult × σ)
    (complete : Msg → DbResult → σ → σ) (s : σ) : TransactionRetries × σ :=
  tickLoop execute complete now 16 q s

/-- The due entry is taken out, the others keep their order. -/
theorem takeDue_spec {now : Int} {es rest : List RetryEntry} {e : RetryEntry}
    (h : takeDue now es = some (e, rest)) :
    ∃ before after, es = before ++ e :: after ∧ rest = before ++ after := by
  induction es generalizing rest with
  | nil => cases h
  | cons x es ih =>
    unfold takeDue at h
    split at h
    · cases h
      exact ⟨[], _, rfl, rfl⟩
    · obtain ⟨⟨d, rest'⟩, hrest, heq⟩ := Option.map_eq_some_iff.mp h
      cases heq
      obtain ⟨before, after, rfl, rfl⟩ := ih hrest
      exact ⟨x :: before, after, rfl, rfl⟩

theorem schedule_spec {q q' : TransactionRetries} {request : Msg} {task : DbTask}
    {result : DbResult} {attempts : Nat} {now : Int}
    (h : q.schedule request task result attempts now = some q') :
    (task.kind = 4 ∨ task.kind = 5) ∧ result.classification = .retryable ∧ 0 < attempts ∧
      attempts < kMaxAttempts ∧ q'.entries = q.entries ++
        [{ request, task, attempts, nextAt := now + 100 * 2 ^ (attempts - 1) }] := by
  unfold schedule at h
  split at h
  · cases h
  · rename_i hok
    simp only [not_or, not_and_or, not_not, Nat.not_le] at hok
    cases h
    exact ⟨hok.1, hok.2.1, Nat.pos_of_ne_zero hok.2.2.1, hok.2.2.2.1, rfl⟩

/-- What one execution of a due entry preserves, a pass preserves. -/
theorem tick_induction {execute : RetryEntry → σ → DbResult × σ}
    {complete : Msg → DbResult → σ → σ} {now : Int} (P : TransactionRetries → σ → Prop)
    (hsome : ∀ before e after s q, P { entries := before ++ e :: after } s →
      schedule { entries := before ++ after } e.request e.task (execute e s).1 (e.attempts + 1) now =
        some q → P q (execute e s).2)
    (hnone : ∀ before e after s, P { entries := before ++ e :: after } s →
      schedule { entries := before ++ after } e.request e.task (execute e s).1 (e.attempts + 1) now =
        none → P { entries := before ++ after } (complete e.request (execute e s).1 (execute e s).2))
    {q : TransactionRetries} {s : σ} (h : P q s) :
    P (q.tick now execute complete s).1 (q.tick now execute complete s).2 := by
  have hloop : ∀ budget q s, P q s → P (tickLoop execute complete now budget q s).1
      (tickLoop execute complete now budget q s).2 := by
    intro budget
    induction budget with
    | zero => exact fun _ _ h => h
    | succ budget ih =>
      intro q s h
      unfold tickLoop
      cases hdue : takeDue now q.entries with
      | none => exact h
      | some due =>
        obtain ⟨e, rest⟩ := due
        obtain ⟨before, after, hentries, rfl⟩ := takeDue_spec hdue
        have hq : P { entries := before ++ e :: after } s := hentries ▸ h
        simp only
        split
        · rename_i q' hq'
          exact ih _ _ (hsome before e after s q' hq hq')
        · rename_i hq'
          exact ih _ _ (hnone before e after s hq hq')
  exact hloop 16 q s h

end TransactionRetries

end Db
