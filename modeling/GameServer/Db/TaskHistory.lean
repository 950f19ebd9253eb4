import GameServer.Lib.History
import GameServer.Db.DbThread

/-!
# The history of a task

A task lives in two places. Its worker has a record of it, from `submit` until the record makes
room for another task, and the ledger of its channel has an entry, from the admission as new until
the entry is evicted. Either may come again, if the request is submitted again. What may follow what
in the history of a task is said of these lives.
-/

namespace Db

open History (Lawful since since_append since_of_ends since_of_goes since_suffix since_eq_self
  mem_of_mem_since)

namespace Event

def registers (id : Nat) : Event → Bool
  | registered _ i => i = id
  | _ => false

def admits (id : Nat) : Event → Bool
  | admitted _ i _ => i = id
  | _ => false

/-- The task gets its entry. -/
def enters (id : Nat) : Event → Bool
  | admitted _ i .new => i = id
  | _ => false

def forgets (id : Nat) : Event → Bool
  | forgotten _ i => i = id
  | _ => false

def evicts (id : Nat) : Event → Bool
  | evicted _ i => i = id
  | _ => false

theorem enters_iff {id : Nat} {e : Event} : e.enters id = true ↔ ∃ c, e = .admitted c id .new := by
  cases e with
  | admitted c i a => cases a <;> simp [enters]
  | _ => simp [enters]

theorem admits_of_enters {id : Nat} {e : Event} (h : e.enters id = true) : e.admits id = true := by
  obtain ⟨c, rfl⟩ := enters_iff.mp h
  simp [admits]

end Event

namespace DbSystem

variable {id : Nat} {log pre : List Event} {e : Event}

/-- The classifications of the executions of a task. -/
def executions (id : Nat) (log : List Event) : List ResultClass :=
  log.filterMap fun
    | .executed _ i classification => if i = id then some classification else none
    | _ => none

/-- The results that a ledger has recorded for a task. -/
def recordings (id : Nat) (log : List Event) : List Msg :=
  log.filterMap fun
    | .recorded _ i result => if i = id then some result else none
    | _ => none

/-- The results with which `complete` has returned true for a task. -/
def completions (id : Nat) (log : List Event) : List Msg :=
  log.filterMap fun
    | .completed _ i result => if i = id then some result else none
    | _ => none

/-- How often a worker has made a record of a task. -/
def registrations (id : Nat) (log : List Event) : Nat := log.countP (·.registers id)

/-- How often a ledger was given a task. -/
def admissions (id : Nat) (log : List Event) : Nat := log.countP (·.admits id)

/-- What has happened since the last record of the task was given up. -/
def recordLife (id : Nat) (log : List Event) : List Event := since (Event.forgets id) log

/-- What has happened since the last entry of the task was evicted. -/
def entryLife (id : Nat) (log : List Event) : List Event := since (Event.evicts id) log

/-- Nothing has happened to the task yet. -/
def Silent (id : Nat) (log : List Event) : Prop := ∀ e ∈ log, e.taskId ≠ id

/-- When an event about a numbered task may follow. -/
def Law (pre : List Event) : Event → Prop
  | .registered _ id => id ≠ 0 → ∀ v, .registered v id ∉ recordLife id pre
  | .forgotten w id => id ≠ 0 →
      (∃ m, .completed w id m ∈ recordLife id pre) ∧ .acked w id ∈ recordLife id pre
  | .admitted c id a => id ≠ 0 → admissions id pre < registrations id pre ∧ a ≠ .conflict ∧
      (a = .duplicate → .admitted c id .new ∈ entryLife id pre) ∧
      (a = .new → ∀ d, .admitted d id .new ∉ entryLife id pre)
  | .executed c id _ => id ≠ 0 → .admitted c id .new ∈ entryLife id pre ∧
      recordings id (entryLife id pre) = [] ∧
      ∃ k, k < TransactionRetries.kMaxAttempts ∧
        executions id (entryLife id pre) = List.replicate k .retryable
  | .recorded c id m => id ≠ 0 → .admitted c id .new ∈ entryLife id pre ∧
      recordings id (entryLife id pre) = [] ∧ m.head.taskId = id
  | .missing _ _ => False
  | .sent c id m => id ≠ 0 → .recorded c id m ∈ entryLife id pre
  | .completed w id m => id ≠ 0 → .registered w id ∈ recordLife id pre ∧
      completions id (recordLife id pre) = [] ∧ m.head.srcWorkerId = w ∧
      ∃ c, .recorded c id m ∈ pre
  | .acked w id => id ≠ 0 → ∃ m, .completed w id m ∈ recordLife id pre
  | .evicted c id => id ≠ 0 → ∃ m, .recorded c id m ∈ entryLife id pre ∧
      .acked m.head.srcWorkerId id ∈ pre

/-! ### Appending -/

theorem executions_append (id : Nat) (log log' : List Event) :
    executions id (log ++ log') = executions id log ++ executions id log' :=
  List.filterMap_append

theorem recordings_append (id : Nat) (log log' : List Event) :
    recordings id (log ++ log') = recordings id log ++ recordings id log' :=
  List.filterMap_append

theorem completions_append (id : Nat) (log log' : List Event) :
    completions id (log ++ log') = completions id log ++ completions id log' :=
  List.filterMap_append

theorem registrations_append (id : Nat) (log log' : List Event) :
    registrations id (log ++ log') = registrations id log + registrations id log' :=
  List.countP_append

theorem admissions_append (id : Nat) (log log' : List Event) :
    admissions id (log ++ log') = admissions id log + admissions id log' :=
  List.countP_append

theorem mem_recordings {m : Msg} : m ∈ recordings id log ↔ ∃ c, .recorded c id m ∈ log := by
  unfold recordings
  rw [List.mem_filterMap]
  constructor
  · rintro ⟨e, he, hm⟩
    cases e with
    | recorded c i result =>
      simp only [Option.ite_none_right_eq_some, Option.some.injEq] at hm
      obtain ⟨rfl, rfl⟩ := hm
      exact ⟨c, he⟩
    | _ => cases hm
  · rintro ⟨c, he⟩
    exact ⟨_, he, by simp⟩

theorem mem_completions {m : Msg} : m ∈ completions id log ↔ ∃ w, .completed w id m ∈ log := by
  unfold completions
  rw [List.mem_filterMap]
  constructor
  · rintro ⟨e, he, hm⟩
    cases e with
    | completed w i result =>
      simp only [Option.ite_none_right_eq_some, Option.some.injEq] at hm
      obtain ⟨rfl, rfl⟩ := hm
      exact ⟨w, he⟩
    | _ => cases hm
  · rintro ⟨w, he⟩
    exact ⟨_, he, by simp⟩

theorem Silent.append (h : Silent id log) (he : e.taskId ≠ id) : Silent id (log ++ [e]) := by
  intro x hx
  rcases List.mem_append.mp hx with hx | hx
  · exact h x hx
  · rw [List.mem_singleton.mp hx]
    exact he

/-- What has happened in a life and goes on is still in it. -/
theorem mem_entryLife {x : Event} (h : x ∈ entryLife id log) (he : e.evicts id = false) :
    x ∈ entryLife id (log ++ [e]) := by
  unfold entryLife
  rw [since_of_goes he]
  exact List.mem_append_left _ h

theorem mem_recordLife {x : Event} (h : x ∈ recordLife id log) (he : e.forgets id = false) :
    x ∈ recordLife id (log ++ [e]) := by
  unfold recordLife
  rw [since_of_goes he]
  exact List.mem_append_left _ h

theorem last_mem_entryLife (he : e.evicts id = false) : e ∈ entryLife id (log ++ [e]) := by
  unfold entryLife
  rw [since_of_goes he]
  exact List.mem_append_right _ (List.mem_singleton_self e)

theorem last_mem_recordLife (he : e.forgets id = false) : e ∈ recordLife id (log ++ [e]) := by
  unfold recordLife
  rw [since_of_goes he]
  exact List.mem_append_right _ (List.mem_singleton_self e)

/-- What is new in a life has just happened, and it was not the end. -/
theorem mem_entryLife_append {x : Event} (h : x ∈ entryLife id (log ++ [e])) :
    e.evicts id = false ∧ (x ∈ entryLife id log ∨ x = e) := by
  unfold entryLife at h ⊢
  rw [since_append] at h
  split at h
  · cases h
  · rename_i he
    refine ⟨by simpa using he, ?_⟩
    simpa using h

theorem mem_recordLife_append {x : Event} (h : x ∈ recordLife id (log ++ [e])) :
    e.forgets id = false ∧ (x ∈ recordLife id log ∨ x = e) := by
  unfold recordLife at h ⊢
  rw [since_append] at h
  split at h
  · cases h
  · rename_i he
    refine ⟨by simpa using he, ?_⟩
    simpa using h

/-- An event that is about another task counts for nothing here. -/
theorem executions_other (h : e.taskId ≠ id) : executions id [e] = [] := by
  cases e with
  | executed c i cls => simpa [executions, Event.taskId] using h
  | _ => rfl

theorem recordings_other (h : e.taskId ≠ id) : recordings id [e] = [] := by
  cases e with
  | recorded c i m => simpa [recordings, Event.taskId] using h
  | _ => rfl

theorem completions_other (h : e.taskId ≠ id) : completions id [e] = [] := by
  cases e with
  | completed w i m => simpa [completions, Event.taskId] using h
  | _ => rfl

theorem registrations_other (h : e.taskId ≠ id) : registrations id [e] = 0 := by
  cases e with
  | registered w i => simpa [registrations, Event.registers, Event.taskId] using h
  | _ => rfl

theorem admissions_other (h : e.taskId ≠ id) : admissions id [e] = 0 := by
  cases e with
  | admitted c i a => simpa [admissions, Event.admits, Event.taskId] using h
  | _ => rfl

theorem forgets_other (h : e.taskId ≠ id) : e.forgets id = false := by
  cases e with
  | forgotten w i => simpa [Event.forgets, Event.taskId] using h
  | _ => rfl

theorem evicts_other (h : e.taskId ≠ id) : e.evicts id = false := by
  cases e with
  | evicted c i => simpa [Event.evicts, Event.taskId] using h
  | _ => rfl

/-! ### What the law makes of a life -/

/-- Without an admission as new nothing is executed or recorded. -/
theorem dormant_quiet (h : Lawful Law log) (hid : id ≠ 0)
    (hnone : ∀ c, .admitted c id .new ∉ entryLife id log) :
    executions id (entryLife id log) = [] ∧ recordings id (entryLife id log) = [] := by
  revert hnone
  refine h.induction (fun log => (∀ c, .admitted c id .new ∉ entryLife id log) →
    executions id (entryLife id log) = [] ∧ recordings id (entryLife id log) = [])
    (fun _ => ⟨rfl, rfl⟩) fun pre e _ hlaw ih hnone => ?_
  unfold entryLife at hnone ⊢
  rw [since_append] at hnone ⊢
  split
  · exact ⟨rfl, rfl⟩
  rename_i hgoes
  rw [if_neg hgoes] at hnone
  have hbefore : ∀ c, .admitted c id .new ∉ entryLife id pre :=
    fun c hc => hnone c (List.mem_append_left _ hc)
  obtain ⟨hexec, hrec⟩ := ih hbefore
  unfold entryLife at hexec hrec
  rw [executions_append, recordings_append, hexec, hrec, List.nil_append, List.nil_append]
  by_cases hother : e.taskId = id
  · cases e with
    | executed c i cls =>
      obtain rfl : i = id := hother
      exact absurd (hlaw hid).1 (hbefore c)
    | recorded c i m =>
      obtain rfl : i = id := hother
      exact absurd (hlaw hid).1 (hbefore c)
    | _ => exact ⟨rfl, rfl⟩
  · exact ⟨executions_other hother, recordings_other hother⟩

/-- Without a record no result is taken. -/
theorem vacant_quiet (h : Lawful Law log) (hid : id ≠ 0)
    (hnone : ∀ w, .registered w id ∉ recordLife id log) : completions id (recordLife id log) = [] := by
  revert hnone
  refine h.induction (fun log => (∀ w, .registered w id ∉ recordLife id log) →
    completions id (recordLife id log) = []) (fun _ => rfl) fun pre e _ hlaw ih hnone => ?_
  unfold recordLife at hnone ⊢
  rw [since_append] at hnone ⊢
  split
  · rfl
  rename_i hgoes
  rw [if_neg hgoes] at hnone
  have hbefore : ∀ w, .registered w id ∉ recordLife id pre :=
    fun w hw => hnone w (List.mem_append_left _ hw)
  have hcomp := ih hbefore
  unfold recordLife at hcomp
  rw [completions_append, hcomp, List.nil_append]
  by_cases hother : e.taskId = id
  · cases e with
    | completed w i m =>
      obtain rfl : i = id := hother
      exact absurd (hlaw hid).1 (hbefore w)
    | _ => rfl
  · exact completions_other hother

/-- What is recorded in a life is the one result of it. -/
theorem recordings_entryLife (h : Lawful Law log) (hid : id ≠ 0) {c : Channel} {m : Msg}
    (hm : .recorded c id m ∈ entryLife id log) : recordings id (entryLife id log) = [m] := by
  revert c m
  refine h.induction (fun log => ∀ {c m}, .recorded c id m ∈ entryLife id log →
    recordings id (entryLife id log) = [m]) (fun hm => by cases hm) fun pre e _ hlaw ih c m hm => ?_
  obtain ⟨hgoes, hm⟩ := mem_entryLife_append hm
  have hlife : entryLife id (pre ++ [e]) = entryLife id pre ++ [e] := since_of_goes hgoes
  rw [hlife, recordings_append]
  rcases hm with hm | rfl
  · have hpre := ih hm
    by_cases hother : e.taskId = id
    · cases e with
      | recorded d i r =>
        obtain rfl : i = id := hother
        rw [(hlaw hid).2.1] at hpre
        cases hpre
      | _ => simpa [recordings] using hpre
    · rw [recordings_other hother, List.append_nil, hpre]
  · rw [(hlaw hid).2.1]
    simp [recordings]

end DbSystem

end Db
