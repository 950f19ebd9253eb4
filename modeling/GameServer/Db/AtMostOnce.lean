import GameServer.Db.FullTable

/-!
# At most once, and nothing is lost

The two guarantees of task delivery, read off a lawful history. While its ledger has
an entry of it, a task has its effect once, and while its worker has a record of it,
the worker takes one result. A result stays in its ledger, the same, until the worker
has acknowledged one. A task that has had one record has had one entry too, and then
both hold of the whole history.
-/

namespace Db

open Gateway (text)
open Function (update)
open History (Lawful since_eq_self since_append_of_mem mem_of_mem_since)

namespace DbSystem

variable {cfg : DeliveryConfig} {g : DbSystem} {id : Nat} {log pre : List Event}

/-- An execution follows the admission as new, and executions that were all retryable, less than
three; all of this in what `view` shows of the past. -/
def ExecutedOnce (view : List Event → List Event) (id : Nat) (log : List Event) : Prop :=
  ∀ pre c classification post, log = pre ++ .executed c id classification :: post →
    .admitted c id .new ∈ view pre ∧ (∀ earlier ∈ executions id (view pre), earlier = .retryable) ∧
      (executions id (view pre)).length < TransactionRetries.kMaxAttempts

/-- An entry is evicted when the result that `view` shows of it was taken and acknowledged by its
worker. -/
def EvictedTaken (view : List Event → List Event) (id : Nat) (log : List Event) : Prop :=
  ∀ pre c post, log = pre ++ .evicted c id :: post → ∃ m, recordings id (view pre) = [m] ∧
    .completed m.head.srcWorkerId id m ∈ pre ∧ .acked m.head.srcWorkerId id ∈ pre

section Lawful

/-- A task is admitted once for each record at most. -/
theorem admissions_le (h : Lawful Law log) (hid : id ≠ 0) :
    admissions id log ≤ registrations id log := by
  refine h.induction (fun log => admissions id log ≤ registrations id log) (Nat.le_refl 0)
    fun pre e _ hlaw ih => ?_
  rw [admissions_append, registrations_append]
  by_cases hother : e.taskId = id
  · cases e with
    | admitted c i a =>
      obtain rfl : i = id := hother
      have := (hlaw hid).1
      simp only [admissions, Event.admits, decide_true, List.countP_singleton, if_true] at this ⊢
      omega
    | _ => exact Nat.le_add_right_of_le ih
  · rw [admissions_other hother]
    exact Nat.le_add_right_of_le ih

/-- A task has one entry at a time; without a second record or an eviction it has one in all. -/
theorem entries_le_one (h : Lawful Law log) (hid : id ≠ 0)
    (hone : registrations id log ≤ 1 ∨ ∀ c, .evicted c id ∉ log) :
    log.countP (Event.enters id) ≤ 1 := by
  rcases hone with hone | hone
  · refine le_trans ?_ (le_trans (admissions_le h hid) hone)
    exact List.countP_mono_left fun e _ he => Event.admits_of_enters he
  revert hone
  refine h.induction (fun log => (∀ c, .evicted c id ∉ log) → log.countP (Event.enters id) ≤ 1)
    (fun _ => Nat.zero_le 1) fun pre e _ hlaw ih hone => ?_
  have hpre : ∀ c, .evicted c id ∉ pre := fun c hc => hone c (List.mem_append_left _ hc)
  rw [List.countP_append]
  by_cases he : e.enters id = true
  · have hlife : entryLife id pre = pre := by
      refine since_eq_self fun x hx => ?_
      cases x with
      | evicted c i =>
        by_contra hne
        obtain rfl : i = id := by simpa [Event.evicts] using hne
        exact hpre c hx
      | _ => rfl
    have hnone : pre.countP (Event.enters id) = 0 := by
      rw [List.countP_eq_zero]
      intro x hx henters
      obtain ⟨c, rfl⟩ := (Event.enters_iff).mp he
      obtain ⟨d, rfl⟩ := (Event.enters_iff).mp henters
      exact (hlaw hid).2.2.2 rfl d (by rwa [hlife])
    rw [hnone, List.countP_singleton, if_pos he]
  · rw [List.countP_singleton, if_neg he]
    exact ih hpre

/-- An execution belongs to an entry, and is one of three. -/
theorem executed_law (hid : id ≠ 0) (pre : List Event) (e : Event) (_ : Lawful Law pre)
    (hlaw : Law pre e) (he : executions id [e] ≠ []) :
    (∃ b ∈ entryLife id pre, b.enters id = true) ∧
      (executions id (entryLife id pre)).length < TransactionRetries.kMaxAttempts := by
  by_cases hother : e.taskId = id
  · cases e with
    | executed c i cls =>
      obtain rfl : i = id := hother
      obtain ⟨hnew, -, k, hk, hexec⟩ := hlaw hid
      refine ⟨⟨_, hnew, Event.enters_iff.mpr ⟨c, rfl⟩⟩, ?_⟩
      rw [hexec, List.length_replicate]
      exact hk
    | _ => exact absurd rfl he
  · exact absurd (executions_other hother) he

theorem recorded_law (hid : id ≠ 0) (pre : List Event) (e : Event) (_ : Lawful Law pre)
    (hlaw : Law pre e) (he : recordings id [e] ≠ []) :
    (∃ b ∈ entryLife id pre, b.enters id = true) ∧
      (recordings id (entryLife id pre)).length < 1 := by
  by_cases hother : e.taskId = id
  · cases e with
    | recorded c i m =>
      obtain rfl : i = id := hother
      obtain ⟨hnew, hnone, -⟩ := hlaw hid
      refine ⟨⟨_, hnew, Event.enters_iff.mpr ⟨c, rfl⟩⟩, ?_⟩
      rw [hnone]
      exact Nat.zero_lt_one
    | _ => exact absurd rfl he
  · exact absurd (recordings_other hother) he

theorem completed_law (hid : id ≠ 0) (pre : List Event) (e : Event) (_ : Lawful Law pre)
    (hlaw : Law pre e) (he : completions id [e] ≠ []) :
    (∃ b ∈ recordLife id pre, b.registers id = true) ∧
      (completions id (recordLife id pre)).length < 1 := by
  by_cases hother : e.taskId = id
  · cases e with
    | completed w i m =>
      obtain rfl : i = id := hother
      obtain ⟨hreg, hnone, -⟩ := hlaw hid
      refine ⟨⟨_, hreg, by simp [Event.registers]⟩, ?_⟩
      rw [hnone]
      exact Nat.zero_lt_one
    | _ => exact absurd rfl he
  · exact absurd (completions_other hother) he

/-- Each entry of a task accounts for three executions and one result, each record for one result
that is taken. -/
theorem executions_le (h : Lawful Law log) (hid : id ≠ 0) :
    (executions id log).length ≤ TransactionRetries.kMaxAttempts * log.countP (Event.enters id) :=
  h.length_le_lives (executed_law hid)

theorem recordings_le (h : Lawful Law log) (hid : id ≠ 0) :
    (recordings id log).length ≤ 1 * log.countP (Event.enters id) :=
  h.length_le_lives (recorded_law hid)

theorem completions_le (h : Lawful Law log) (hid : id ≠ 0) :
    (completions id log).length ≤ registrations id log := by
  rw [← Nat.one_mul (registrations id log)]
  exact h.length_le_lives (completed_law hid)

/-- The result of a task that has had one entry. -/
theorem recordings_eq {m : Msg} (h : Lawful Law log) (hid : id ≠ 0)
    (hone : log.countP (Event.enters id) ≤ 1) (hm : m ∈ recordings id log) :
    recordings id log = [m] := by
  have hle := recordings_le h hid
  cases hrec : recordings id log with
  | nil =>
    rw [hrec] at hm
    cases hm
  | cons r rest =>
    rw [hrec] at hm hle
    obtain rfl : rest = [] := by
      refine List.length_eq_zero_iff.mp ?_
      rw [List.length_cons] at hle
      omega
    rw [List.mem_singleton.mp hm]

/-- What was taken was recorded before. -/
theorem completed_recorded {w : Nat} {m : Msg} (h : Lawful Law log) (hid : id ≠ 0)
    (hm : .completed w id m ∈ log) : m.head.srcWorkerId = w ∧ m ∈ recordings id log := by
  obtain ⟨pre, post, rfl, hlaw⟩ := h.of_mem hm
  obtain ⟨-, -, hsrc, c, hrec⟩ := hlaw hid
  exact ⟨hsrc, mem_recordings.mpr ⟨c, List.mem_append_left _ hrec⟩⟩

end Lawful

/-- As long as its ledger has an entry of it, a task is executed again only after executions that
were all retryable, three times in all, and only after its admission as new. As long as its worker
has a record of it, `complete` accepts one result, and that is one its ledger recorded. A task whose
worker made one record of it, or whose entry was never evicted, has its effect once in the whole
run. -/
theorem at_most_once {steps : List Step} (hused : Run.Along (step cfg) UsedOnce (init cfg) steps)
    (hrun : Run.exec (step cfg) (init cfg) steps = some g) (id : Nat) (hid : id ≠ 0) :
    (ExecutedOnce (entryLife id) id g.log ∧
      (∀ pre c a post, g.log = pre ++ .admitted c id a :: post → a ≠ .conflict ∧
        (a = .new ↔ ∀ d, .admitted d id .new ∉ entryLife id pre)) ∧
      ∀ pre w m post, g.log = pre ++ .completed w id m :: post →
        .registered w id ∈ recordLife id pre ∧ completions id (recordLife id pre) = [] ∧
          m ∈ recordings id pre) ∧
      ((executions id g.log).length ≤ TransactionRetries.kMaxAttempts * registrations id g.log ∧
        (completions id g.log).length ≤ registrations id g.log) ∧
      ((registrations id g.log ≤ 1 ∨ ∀ c, .evicted c id ∉ g.log) →
        ExecutedOnce (fun log => log) id g.log ∧
          (executions id g.log).length ≤ TransactionRetries.kMaxAttempts ∧
          ∀ w m, .completed w id m ∈ g.log → recordings id g.log = [m]) ∧
      (registrations id g.log ≤ 1 → (completions id g.log).length ≤ 1) := by
  have h := (delivery_exec hused hrun).lawful
  have hexec : ExecutedOnce (entryLife id) id g.log := by
    intro pre c cls post hsplit
    obtain ⟨hnew, -, k, hk, hall⟩ := h pre _ post hsplit hid
    rw [hall, List.length_replicate]
    exact ⟨hnew, fun _ he => List.eq_of_mem_replicate he, hk⟩
  refine ⟨⟨hexec, fun pre c a post hsplit => ?_, fun pre w m post hsplit => ?_⟩, ⟨?_, ?_⟩,
    fun hone => ?_, fun hone => le_trans (completions_le h hid) hone⟩
  · obtain ⟨-, hno, hdup, hnew⟩ := h pre _ post hsplit hid
    refine ⟨hno, hnew, fun hnone => ?_⟩
    cases a with
    | new => rfl
    | duplicate => exact absurd (hdup rfl) (hnone c)
    | conflict => exact absurd rfl hno
  · obtain ⟨hreg, hnone, -, hrec⟩ := h pre _ post hsplit hid
    exact ⟨hreg, hnone, mem_recordings.mpr hrec⟩
  · refine le_trans (executions_le h hid) (Nat.mul_le_mul_left _ (le_trans ?_ (admissions_le h hid)))
    exact List.countP_mono_left fun e _ he => Event.admits_of_enters he
  · exact completions_le h hid
  · have hentries := entries_le_one h hid hone
    refine ⟨fun pre c cls post hsplit => ?_, ?_, fun w m hm => ?_⟩
    · -- all that was executed before belongs to the one entry
      obtain ⟨hnew, hearlier, hless⟩ := hexec pre c cls post hsplit
      have hpre : Lawful Law pre := (hsplit ▸ h).of_append
      have hle : pre.countP (Event.enters id) ≤ 1 := by
        rw [hsplit, List.countP_append] at hentries
        omega
      have hall : executions id (entryLife id pre) = executions id pre :=
        hpre.filterMap_since (executed_law hid) hle ⟨_, hnew, Event.enters_iff.mpr ⟨c, rfl⟩⟩
      rw [hall] at hearlier hless
      exact ⟨mem_of_mem_since hnew, hearlier, hless⟩
    · exact le_trans (executions_le h hid) (Nat.mul_le_mul_left _ hentries)
    · exact recordings_eq h hid hentries (completed_recorded h hid hm).2

section Retried

def kOneEntry : DeliveryConfig := { capacity := 1 }

def transactionMsg (id : Nat) : Msg :=
  { head := { taskId := id, msgType := .dbTaskMySql, playerId := 3 }
    body := (DbTask.encode
      { kind := 4, playerId := 3, saveVersion := 1,
        steps := [{ kind := 2, args := [text "SELECT 1"] }] }).getD [] }

/-- A transaction is tried again, its result is taken and acknowledged, and the next task gets its
place in a ledger of one entry. -/
def retriedRun : List Step :=
  [.submit 0 (transactionMsg 7) 0 (fun _ => true) 0,
    .round .mysql 0 0 0 { classification := .retryable, errcode := 1 } {},
    .retryTick 1000 (fun _ => {}) (fun _ => { room := fun _ _ => false }),
    .flushResults .mysql { now := 1100 },
    .receive 0 0 1100 (fun _ => true),
    .tickControls 0 1100 (fun _ => true),
    .processControl .mysql 0,
    .submit 0 (transactionMsg 8) 2000 (fun _ => true) 0,
    .round .mysql 0 7 2000 {} {}]

theorem retriedRun_usedOnce : Run.Along (step kOneEntry) UsedOnce (init kOneEntry) retriedRun := by
  decide +kernel

theorem at_most_once_retried : ∃ g, Run.exec (step kOneEntry) (init kOneEntry) retriedRun = some g ∧
    executions 7 g.log = [.retryable, .success] ∧ registrations 7 g.log = 1 ∧
      (completions 7 g.log).length ≤ 1 := by
  have hlog : (Run.exec (step kOneEntry) (init kOneEntry) retriedRun).any
      (fun g => decide (executions 7 g.log = [.retryable, .success] ∧
        registrations 7 g.log = 1)) = true := by
    decide +kernel
  obtain ⟨g, hg, hseen⟩ := (Option.any_eq_true _ _).mp hlog
  obtain ⟨hexec, hreg⟩ := of_decide_eq_true hseen
  exact ⟨g, hg, hexec, hreg,
    (at_most_once retriedRun_usedOnce hg 7 (by decide)).2.2.2 (Nat.le_of_eq hreg)⟩

end Retried

section Resubmitted

/-- Two tasks are executed, their results taken and acknowledged. The result of the second came
twice, and so did its acknowledgement; one of the two is still under way. -/
def settledRun : List Step :=
  [.submit 0 (transactionMsg 8) 0 (fun _ => true) 0,
    .round .mysql 0 0 0 {} {},
    .receive 0 0 0 (fun _ => true),
    .tickControls 0 0 (fun _ => true),
    .processControl .mysql 0,
    .submit 0 (transactionMsg 7) 0 (fun _ => true) 0,
    .round .mysql 0 8 0 {} {},
    .flushResults .mysql { now := 1000 },
    .receive 0 0 1000 (fun _ => true),
    .tickControls 0 1000 (fun _ => true),
    .processControl .mysql 0,
    .receive 0 0 1000 (fun _ => true)]

/-- The task is taken out of the queue a second time, and its old entry makes room for the new one.
The acknowledgement comes before the worker's queue has room for the result. -/
def againRun : List Step :=
  [.round .mysql 0 7 61000 { saveVersion := 2 } { now := 61000, room := fun _ _ => false },
    .processControl .mysql 0,
    .round .mysql 0 7 61000 {} {}]

def requeued (g : DbSystem) : DbSystem :=
  { g with
    queue := update g.queue .mysql (g.queue .mysql ++ [ownedBy 0 (numbered (transactionMsg 7) 7)])
    log := [] }

/-- What `resubmitted` asks of the first part, and what is seen of both. -/
def Settled7 (g : DbSystem) : Prop :=
  (g.workers 0).tasks.size ≤ 2 ∧ g.task 0 0 = none ∧
    (g.task 0 7).any (PendingDbTasks.evictable 61000) = true ∧
    (g.task 0 8).any (PendingDbTasks.evictable 61000) = true ∧
    (∀ r ∈ g.requests 7, same r (ownedBy 0 (numbered (transactionMsg 7) 7)) = true) ∧
    (∀ e ∈ g.log, e.taskId < 9) ∧ .success ∈ executions 7 g.log ∧
    ∀ m ∈ completions 7 g.log, m.body = DbResult.encode {}

instance decidableSettled7 (g : DbSystem) : Decidable (Settled7 g) := by
  unfold Settled7
  infer_instance

def Again7 (g : DbSystem) : Prop :=
  g.log = g.log.take 2 ++ .executed .mysql 7 .success :: g.log.drop 3 ∧
    g.log = g.log.dropLast ++ [.evicted .mysql 7] ∧
    recordings 7 (entryLife 7 g.log.dropLast) =
      [replyMsg (ownedBy 0 (transactionMsg 7)) { saveVersion := 2 }] ∧
    .evicted .mysql 7 ∈ g.log.dropLast ∧ completions 7 g.log = []

instance decidableAgain7 (g : DbSystem) : Decidable (Again7 g) := by
  unfold Again7
  infer_instance

theorem settledRun_usedOnce :
    Run.Along (step kOneEntry) UsedOnce (init kOneEntry) settledRun := by
  decide +kernel

/-- The task is submitted again after its record has made room for another, and executed again after
its entry has. -/
theorem executed_again : ∃ steps g g₁ L g₂,
    Run.Along (step kOneEntry) UsedOnce (init kOneEntry) steps ∧
      Run.exec (step kOneEntry) (init kOneEntry) steps = some g ∧ g.log = (g₁.log ++ L) ++ g₂.log ∧
      Settled7 g₁ ∧ Again7 g₂ ∧ ∀ e ∈ L, ∃ j, e = .registered 0 j ∨ e = .forgotten 0 j := by
  have hseen : (Run.exec (step kOneEntry) (init kOneEntry) settledRun).any
      (fun g₁ => decide (Settled7 g₁) &&
        (Run.exec (step kOneEntry) (requeued g₁) againRun).any fun g₂ => decide (Again7 g₂)) =
        true := by
    decide +kernel
  obtain ⟨g₁, hg₁, hboth⟩ := (Option.any_eq_true _ _).mp hseen
  rw [Bool.and_eq_true] at hboth
  obtain ⟨g₂, hg₂, hagain⟩ := (Option.any_eq_true _ _).mp hboth.2
  have hsettled := of_decide_eq_true hboth.1
  obtain ⟨hsize, hzero, ha, hb, hsame, hsmall, -⟩ := id hsettled
  obtain ⟨ta, hta, haold⟩ := (Option.any_eq_true _ _).mp ha
  obtain ⟨tb, htb, hbold⟩ := (Option.any_eq_true _ _).mp hb
  have h := delivery_exec settledRun_usedOnce hg₁
  have hfree : ∀ j, 9 ≤ j → g₁.task 0 j = none ∧ g₁.requests j = none := by
    intro j hj
    have hnone : g₁.requests j = none := by
      by_contra hne
      obtain ⟨m, hm⟩ := Option.ne_none_iff_exists'.mp hne
      obtain ⟨v, hv⟩ := h.known j m hm
      have : j < 9 := hsmall _ hv
      omega
    refine ⟨?_, hnone⟩
    by_contra hne
    obtain ⟨t, ht⟩ := Option.ne_none_iff_exists'.mp hne
    exact (h.record 0 j t ht).1.known hnone
  obtain ⟨steps, halong, W, R, L, hL, hexec⟩ := @resubmitted kOneEntry g₁ 0 (transactionMsg 7) 61000 9
    7 8 ta tb rfl (by decide) (by decide) (by decide) (by decide) (le_trans hsize (by decide)) hzero
    hfree hta haold htb hbold hsame
  have hthread : ∀ s ∈ againRun, s.onChannel = true := by decide
  have hlast := @exec_beside kOneEntry (requeued g₁) W R (g₁.log ++ L) againRun hthread
  rw [hg₂, Option.map_some] at hlast
  have hboth : Run.exec (step kOneEntry) (init kOneEntry) (settledRun ++ steps) = some
      (beside W R (g₁.log ++ L) (requeued g₁)) := by
    rw [Run.exec_append, hg₁, Option.bind_some, hexec]
    rfl
  refine ⟨settledRun ++ steps ++ againRun, beside W R (g₁.log ++ L) g₂, g₁, L, g₂, ?_, ?_, rfl,
    hsettled, of_decide_eq_true hagain, hL⟩
  · exact Run.along_append (Run.along_append settledRun_usedOnce hg₁ halong) hboth
      (Run.along_of_labels fun s hs _ => usedOnce_onChannel (hthread s hs))
  · rw [Run.exec_append, hboth, Option.bind_some]
    exact hlast

/-- Over a whole run the same task may be executed after an execution that was a success. -/
theorem executed_after_success : ∃ steps g,
    Run.Along (step kOneEntry) UsedOnce (init kOneEntry) steps ∧
      Run.exec (step kOneEntry) (init kOneEntry) steps = some g ∧
      ¬ ExecutedOnce (fun log => log) 7 g.log := by
  obtain ⟨steps, g, g₁, L, g₂, halong, hexec, hlog, hsettled, hagain, -⟩ := executed_again
  refine ⟨steps, g, halong, hexec, fun honce => ?_⟩
  have hsplit : g.log = (g₁.log ++ L ++ g₂.log.take 2) ++
      .executed .mysql 7 .success :: g₂.log.drop 3 := by
    rw [hlog, List.append_assoc, List.append_assoc, List.append_assoc]
    exact congrArg (fun rest => g₁.log ++ (L ++ rest)) hagain.1
  have hearlier := (honce _ _ _ _ hsplit).2.1 .success
  rw [executions_append, executions_append] at hearlier
  cases hearlier (List.mem_append_left _ (List.mem_append_left _ hsettled.2.2.2.2.2.2.1))

end Resubmitted

/-- An entry that is evicted has one result, and the worker that it is for has acknowledged one,
which it does only once it has taken one. A task that is finished has its entry, the ledgers stay
within their capacity, and a result is sent as it was recorded in its entry, before the first
acknowledgement as it was recorded first. If the worker made one record of the task, then it has
taken the result that is evicted. -/
theorem results_kept {steps : List Step} (hused : Run.Along (step cfg) UsedOnce (init cfg) steps)
    (hrun : Run.exec (step cfg) (init cfg) steps = some g) :
    (∀ id ≠ 0, ∀ pre c post, g.log = pre ++ .evicted c id :: post →
      ∃ m, recordings id (entryLife id pre) = [m] ∧ .acked m.head.srcWorkerId id ∈ pre) ∧
      (∀ id ≠ 0, ∀ pre w post, g.log = pre ++ .acked w id :: post →
        ∃ m, m.head.srcWorkerId = w ∧ .completed w id m ∈ recordLife id pre ∧
          m ∈ recordings id pre) ∧
      (∀ id ≠ 0, registrations id g.log ≤ 1 → EvictedTaken (fun log => log) id g.log) ∧
      (∀ c id, .missing c id ∉ g.log) ∧
      (∀ c, (g.ledger c).load ≤ cfg.capacity) ∧
      ∀ id ≠ 0, ∀ pre c m post, g.log = pre ++ .sent c id m :: post →
        recordings id (entryLife id pre) = [m] ∧
          ((∀ w, .acked w id ∉ pre) → recordings id pre = [m]) := by
  have hinv := delivery_exec hused hrun
  have h := hinv.lawful
  have hpast : ∀ {pre e post}, g.log = pre ++ e :: post → Lawful Law pre :=
    fun hsplit => (hsplit ▸ h).of_append
  have hevicted : ∀ id ≠ 0, ∀ pre c post, g.log = pre ++ .evicted c id :: post →
      ∃ m, recordings id (entryLife id pre) = [m] ∧ .acked m.head.srcWorkerId id ∈ pre := by
    intro id hid pre c post hsplit
    obtain ⟨m, hrec, hack⟩ := h pre _ post hsplit hid
    exact ⟨m, recordings_entryLife (hpast hsplit) hid hrec, hack⟩
  refine ⟨hevicted, fun id hid pre w post hsplit => ?_, fun id hid hone pre c post hsplit => ?_,
    fun c id hm => ?_, fun c => (hinv.capacity c).2, fun id hid pre c m post hsplit => ?_⟩
  · obtain ⟨m, hm⟩ := h pre _ post hsplit hid
    obtain ⟨hsrc, hrec⟩ := completed_recorded (hpast hsplit) hid (mem_of_mem_since hm)
    exact ⟨m, hsrc, hm, hrec⟩
  · obtain ⟨m, hrec, hack⟩ := hevicted id hid pre c post hsplit
    have hpre := hpast hsplit
    have hentries : pre.countP (Event.enters id) ≤ 1 := by
      refine entries_le_one hpre hid (.inl ?_)
      rw [hsplit, registrations_append] at hone
      omega
    have hm : m ∈ recordings id pre := by
      obtain ⟨d, hd⟩ := mem_recordings.mp (hrec ▸ List.mem_singleton_self m)
      exact mem_recordings.mpr ⟨d, mem_of_mem_since hd⟩
    have hall := recordings_eq hpre hid hentries hm
    -- what was acknowledged was taken, and only this was ever recorded
    obtain ⟨old, rest, hold, hlaw⟩ := hpre.of_mem hack
    obtain ⟨r, hr⟩ := hlaw hid
    have hrpre : .completed m.head.srcWorkerId id r ∈ pre :=
      hold ▸ List.mem_append_left _ (mem_of_mem_since hr)
    have hsame := (completed_recorded hpre hid hrpre).2
    rw [hall, List.mem_singleton] at hsame
    exact ⟨m, hall, hsame ▸ hrpre, hack⟩
  · obtain ⟨pre, post, -, hlaw⟩ := h.of_mem hm
    exact hlaw
  · have hrec := h pre _ post hsplit hid
    have hpre := hpast hsplit
    refine ⟨recordings_entryLife hpre hid hrec, fun hnone => ?_⟩
    refine recordings_eq hpre hid (entries_le_one hpre hid (.inr fun d hd => ?_))
      (mem_recordings.mpr ⟨c, mem_of_mem_since hrec⟩)
    obtain ⟨old, rest, hold, hlaw⟩ := hpre.of_mem hd
    obtain ⟨r, -, hack⟩ := hlaw hid
    exact hnone _ (hold ▸ List.mem_append_left _ hack)

theorem results_kept_retried :
    ∃ g, Run.exec (step kOneEntry) (init kOneEntry) retriedRun = some g ∧
      Event.evicted .mysql 7 ∈ g.log ∧ (g.ledger .mysql).load ≤ 1 := by
  have hlog : (Run.exec (step kOneEntry) (init kOneEntry) retriedRun).any
      (fun g => decide (Event.evicted .mysql 7 ∈ g.log)) = true := by
    decide +kernel
  obtain ⟨g, hg, hevicted⟩ := (Option.any_eq_true _ _).mp hlog
  exact ⟨g, hg, of_decide_eq_true hevicted,
    (results_kept retriedRun_usedOnce hg).2.2.2.2.1 .mysql⟩

/-- The result of the second execution is evicted for the acknowledgement of the first. -/
theorem evicted_untaken : ∃ steps g,
    Run.Along (step kOneEntry) UsedOnce (init kOneEntry) steps ∧
      Run.exec (step kOneEntry) (init kOneEntry) steps = some g ∧
      ¬ EvictedTaken (entryLife 7) 7 g.log := by
  obtain ⟨steps, g, g₁, L, g₂, halong, hexec, hlog, hsettled, hagain, hL⟩ := executed_again
  refine ⟨steps, g, halong, hexec, fun htaken => ?_⟩
  obtain ⟨-, hlast, hrec, hends, hnone⟩ := hagain
  have hsplit : g.log = (g₁.log ++ L ++ g₂.log.dropLast) ++ .evicted .mysql 7 :: [] := by
    rw [hlog, List.append_assoc (g₁.log ++ L), ← hlast]
  obtain ⟨m, hm, hcompleted, -⟩ := htaken _ _ _ hsplit
  have hlife : entryLife 7 (g₁.log ++ L ++ g₂.log.dropLast) = entryLife 7 g₂.log.dropLast :=
    since_append_of_mem ⟨_, hends, by decide⟩
  rw [hlife, hrec] at hm
  obtain rfl := (List.cons.inj hm).1
  rcases List.mem_append.mp hcompleted with hold | hnew
  · rcases List.mem_append.mp hold with hold | hidle
    · have hbody := hsettled.2.2.2.2.2.2.2 _ (mem_completions.mpr ⟨_, hold⟩)
      revert hbody
      decide +kernel
    · obtain ⟨j, heq | heq⟩ := hL _ hidle <;> cases heq
  · have hmem := mem_completions.mpr ⟨_, (List.dropLast_subset _) hnew⟩
    rw [hnone] at hmem
    cases hmem

end DbSystem

end Db
