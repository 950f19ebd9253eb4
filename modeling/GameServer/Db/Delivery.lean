import GameServer.Db.TaskHistory
import GameServer.Db.DeliverySpec

/-!
# What ties the history to the tables

The invariant that ties the history of the tasks to the tables, the queues, the ledgers and the
retries. Each lemma of the second half is one small change of the state that keeps the invariant.
-/

namespace Db

open Function (update)
open History (Lawful since_of_goes since_of_ends mem_of_mem_since)

namespace DbSystem

variable {cfg : DeliveryConfig} {g g' : DbSystem} {id w : Nat} {c : Channel} {log : List Event}

/-- The record that a worker has of a task. -/
def task (g : DbSystem) (w id : Nat) : Option Task := (g.workers w).tasks.lookup id

theorem task_update (w j : Nat) (p : PendingDbTasks) (v : Nat) :
    task { g with workers := update g.workers w p } v j =
      if v = w then p.tasks.lookup j else g.task v j := by
  unfold task
  by_cases hv : v = w
  · subst hv
    simp
  · simp [hv]

/-- A message is the request that was first registered under its number, submitted again perhaps. -/
structure Named (requests : Nat → Option Msg) (id : Nat) (m : Msg) : Prop where
  taskId : m.head.taskId = id
  registered : ∃ r, requests id = some r ∧ same r m = true

namespace Named

variable {requests requests' : Nat → Option Msg} {m m' : Msg}

theorem mono (h : Named requests id m) (hmore : ∀ j r, requests j = some r → requests' j = some r) :
    Named requests' id m := by
  obtain ⟨htask, r, hr, hsame⟩ := h
  exact ⟨htask, r, hmore _ _ hr, hsame⟩

/-- Two such messages of one number carry the same request. -/
theorem same (h : Named requests id m) (h' : Named requests id m') : same m m' = true := by
  obtain ⟨-, r, hr, hsame⟩ := h
  obtain ⟨-, r', hr', hsame'⟩ := h'
  obtain rfl := Option.some.inj (hr.symm.trans hr')
  exact same_iff.mpr ((same_iff.mp hsame).symm.trans (same_iff.mp hsame'))

theorem channelOf (h : Named requests id m) (h' : Named requests id m') :
    channelOf m.head = channelOf m'.head := by
  obtain ⟨-, htype, hshard, -⟩ := same_spec (h.same h')
  unfold DbSystem.channelOf
  rw [htype, hshard]

theorem owner (h : Named requests id m) (h' : Named requests id m') :
    m.head.srcWorkerId = m'.head.srcWorkerId := (same_spec (h.same h')).2.2.2

theorem known (h : Named requests id m) : requests id ≠ none := by
  obtain ⟨-, r, hr, -⟩ := h
  rw [hr]
  exact Option.some_ne_none r

end Named

/-- The requests by their numbers, with the one that is first registered under its own. -/
def remembered (requests : Nat → Option Msg) (m : Msg) : Nat → Option Msg :=
  update requests m.head.taskId ((requests m.head.taskId).or (some m))

section Remembered

variable {requests : Nat → Option Msg} {m r : Msg} {j : Nat}

theorem remembered_other (hj : j ≠ m.head.taskId) : remembered requests m j = requests j :=
  Function.update_of_ne hj _ _

theorem remembered_mono (hr : requests j = some r) : remembered requests m j = some r := by
  unfold remembered
  rw [Function.update_apply]
  split
  · rename_i hj
    rw [← hj, hr, Option.some_or]
  · exact hr

/-- What is remembered was remembered before, or it is the new request. -/
theorem remembered_some (hr : remembered requests m j = some r) :
    requests j = some r ∨ (j = m.head.taskId ∧ r = m) := by
  by_cases hj : j = m.head.taskId
  · subst hj
    rw [remembered, Function.update_self] at hr
    cases hold : requests m.head.taskId with
    | none =>
      rw [hold] at hr
      cases hr
      exact .inr ⟨rfl, rfl⟩
    | some x =>
      rw [hold] at hr
      exact .inl hr
  · exact .inl ((remembered_other hj).symm.trans hr)

theorem remembered_none (hr : remembered requests m j = none) :
    requests j = none ∧ j ≠ m.head.taskId := by
  have hj : j ≠ m.head.taskId := by
    rintro rfl
    rw [remembered, Function.update_self, Option.or_eq_none_iff] at hr
    cases hr.2
  exact ⟨(remembered_other hj).symm.trans hr, hj⟩

theorem named_remembered (hused : ∀ r, requests m.head.taskId = some r → same r m = true) :
    Named (remembered requests m) m.head.taskId m := by
  refine ⟨rfl, ?_⟩
  cases hr : requests m.head.taskId with
  | none => exact ⟨m, by rw [remembered, Function.update_self, hr, Option.none_or], same_refl m⟩
  | some r => exact ⟨r, remembered_mono hr, hused r hr⟩

end Remembered

/-- A record of a worker: what has happened since it was made. -/
structure Settled (log : List Event) (w id : Nat) (t : Task) : Prop where
  registered : .registered w id ∈ recordLife id log
  completed : t.state = .completed → .completed w id t.result ∈ recordLife id log
  waiting : t.state ≠ .completed → completions id (recordLife id log) = []
  acked : t.state = .completed → t.ackPending = false → .acked w id ∈ recordLife id log

/-- An entry of a ledger: a result that it has is recorded, and if it is acknowledged, then by the
worker that it is for. -/
structure Filed (requests : Nat → Option Msg) (log : List Event) (c : Channel) (id : Nat)
    (x : LedgerEntry) : Prop where
  numbered : id ≠ 0
  named : Named requests id x.request
  channel : channelOf x.request.head = c
  admitted : .admitted c id .new ∈ entryLife id log
  recorded : x.ready = true → .recorded c id x.result ∈ entryLife id log ∧
    x.result.head.taskId = id ∧ x.result.head.srcWorkerId = x.request.head.srcWorkerId
  unrecorded : x.ready = false → recordings id (entryLife id log) = []
  acked : x.acknowledged = true → x.ready = true ∧ .acked x.request.head.srcWorkerId id ∈ log

/-- A transaction that waits to be tried again. -/
structure Waiting (log : List Event) (l : DbResultLedger) (e : RetryEntry) : Prop where
  numbered : e.request.head.taskId ≠ 0
  attempts : 0 < e.attempts ∧ e.attempts < TransactionRetries.kMaxAttempts
  executed : executions e.request.head.taskId (entryLife e.request.head.taskId log) =
    List.replicate e.attempts .retryable
  entry : ∃ x, l.entries.lookup e.request.head.taskId = some x ∧ x.ready = false ∧
    x.request = e.request

section Later

variable {requests : Nat → Option Msg} {e : Event}

theorem Settled.later {t : Task} (h : Settled log w id t) (hgoes : e.forgets id = false)
    (hnone : completions id [e] = []) : Settled (log ++ [e]) w id t where
  registered := mem_recordLife h.registered hgoes
  completed hs := mem_recordLife (h.completed hs) hgoes
  waiting hs := by
    unfold recordLife
    rw [since_of_goes hgoes, completions_append, hnone, List.append_nil]
    exact h.waiting hs
  acked hs ha := mem_recordLife (h.acked hs ha) hgoes

theorem Filed.later {x : LedgerEntry} (h : Filed requests log c id x)
    (hgoes : e.evicts id = false) (hnone : recordings id [e] = []) :
    Filed requests (log ++ [e]) c id x where
  numbered := h.numbered
  named := h.named
  channel := h.channel
  admitted := mem_entryLife h.admitted hgoes
  recorded hr := ⟨mem_entryLife (h.recorded hr).1 hgoes, (h.recorded hr).2⟩
  unrecorded hr := by
    unfold entryLife
    rw [since_of_goes hgoes, recordings_append, hnone, List.append_nil]
    exact h.unrecorded hr
  acked ha := ⟨(h.acked ha).1, List.mem_append_left _ (h.acked ha).2⟩

theorem Waiting.later {l : DbResultLedger} {x : RetryEntry} (h : Waiting log l x)
    (hgoes : e.evicts x.request.head.taskId = false)
    (hnone : executions x.request.head.taskId [e] = []) : Waiting (log ++ [e]) l x where
  numbered := h.numbered
  attempts := h.attempts
  executed := by
    unfold entryLife
    rw [since_of_goes hgoes, executions_append, hnone, List.append_nil]
    exact h.executed
  entry := h.entry

end Later

/-- The invariant. -/
structure Delivery (cfg : DeliveryConfig) (g : DbSystem) : Prop where
  lawful : Lawful Law g.log
  nextId : 0 < g.nextId
  fresh : ∀ id ≠ 0, g.requests id = none → Silent id g.log
  known : ∀ id m, g.requests id = some m → ∃ w, .registered w id ∈ g.log
  request : ∀ id m, g.requests id = some m →
    id ≠ 0 ∧ m.head.taskId = id ∧ isDbTask m.head.msgType = true
  record : ∀ w id t, g.task w id = some t →
    Named g.requests id t.request ∧ t.request.head.srcWorkerId = w
  settled : ∀ w id t, g.task w id = some t → Settled g.log w id t
  vacant : ∀ id ≠ 0, (∀ w, g.task w id = none) → ∀ w, .registered w id ∉ recordLife id g.log
  queued : ∀ c, ∀ m ∈ g.queue c, m.head.taskId ≠ 0 →
    Named g.requests m.head.taskId m ∧ channelOf m.head = c
  count : ∀ id ≠ 0, ∀ c,
    (g.queue c).countP (·.head.taskId = id) + admissions id g.log ≤ registrations id g.log
  unsent : ∀ w id t, g.task w id = some t → t.state = .pendingDispatch → ∀ c,
    (g.queue c).countP (·.head.taskId = id) + admissions id g.log < registrations id g.log
  plain : ∀ c, ∀ m ∈ g.queue c, m.head.taskId = 0 → ∀ t, DbTask.decode m.body = some t →
    t.kind ≠ 4 ∧ t.kind ≠ 5
  entry : ∀ c id x, (g.ledger c).entries.lookup id = some x → Filed g.requests g.log c id x
  dormant : ∀ id ≠ 0, (∀ c, (g.ledger c).entries.lookup id = none) →
    ∀ c, .admitted c id .new ∉ entryLife id g.log
  waiting : ∀ e ∈ g.retries.entries, Waiting g.log (g.ledger .mysql) e
  waitingOnce : (g.retries.entries.map (·.request.head.taskId)).Nodup
  legacy : ∀ c, ∀ m ∈ (g.ledger c).legacy, m.head.taskId = 0 ∨ isDbResult m.head.msgType = false
  inbox : ∀ w, ∀ m ∈ g.inbox w, m.head.taskId ≠ 0 → isDbResult m.head.msgType = true →
    m.head.srcWorkerId = w ∧ ∃ c, .recorded c m.head.taskId m ∈ g.log
  controls : ∀ c, ∀ m ∈ g.controls c, m.head.dbControl = 1 →
    .acked m.head.srcWorkerId m.head.taskId ∈ g.log
  capacity : ∀ c, (g.ledger c).capacity = cfg.capacity ∧ (g.ledger c).load ≤ cfg.capacity

theorem delivery_init : Delivery cfg (init cfg) where
  lawful := History.lawful_nil
  nextId := Nat.zero_lt_one
  fresh := fun _ _ _ => by simp [Silent, init]
  known := by simp [init]
  request := by simp [init]
  record := by simp [task, init]
  settled := by simp [task, init]
  vacant := fun _ _ _ _ hmem => by cases hmem
  queued := by simp [init]
  count := fun _ _ _ => Nat.le_refl 0
  unsent := by simp [task, init]
  plain := by simp [init]
  entry := by simp [init]
  dormant := fun _ _ _ _ hmem => by cases hmem
  waiting := by simp [init]
  waitingOnce := by simp [init]
  legacy := by simp [init]
  inbox := by simp [init]
  controls := by simp [init]
  capacity := fun _ => ⟨rfl, Nat.zero_le _⟩

namespace Delivery

theorem numbered {t : Task} (h : Delivery cfg g) (ht : g.task w id = some t) : id ≠ 0 := by
  obtain ⟨-, r, hr, -⟩ := (h.record w id t ht).1
  exact (h.request id r hr).1

/-- A task has one record. -/
theorem one_record {v : Nat} {t t' : Task} (h : Delivery cfg g) (ht : g.task w id = some t)
    (ht' : g.task v id = some t') : v = w := by
  obtain ⟨hnamed, howner⟩ := h.record w id t ht
  obtain ⟨hnamed', howner'⟩ := h.record v id t' ht'
  rw [← howner, ← howner', hnamed.owner hnamed']

section Log

variable {e : Event}

/-- What has happened to a task was registered. -/
theorem heard (h : Delivery cfg g) (he : e ∈ g.log) (hid : e.taskId ≠ 0) :
    g.requests e.taskId ≠ none := fun hnone => h.fresh _ hid hnone e he rfl

theorem fresh_later (h : Delivery cfg g) (hknown : e.taskId ≠ 0 → g.requests e.taskId ≠ none) :
    ∀ id ≠ 0, g.requests id = none → Silent id (g.log ++ [e]) := fun id hid hnone =>
  (h.fresh id hid hnone).append fun heq => hknown (heq ▸ hid) (heq ▸ hnone)

theorem known_later (h : Delivery cfg g) (e : Event) :
    ∀ id m, g.requests id = some m → ∃ w, .registered w id ∈ g.log ++ [e] := by
  intro id m hm
  obtain ⟨w, hw⟩ := h.known id m hm
  exact ⟨w, List.mem_append_left _ hw⟩

theorem inbox_later (h : Delivery cfg g) (e : Event) :
    ∀ w, ∀ m ∈ g.inbox w, m.head.taskId ≠ 0 → isDbResult m.head.msgType = true →
      m.head.srcWorkerId = w ∧ ∃ c, .recorded c m.head.taskId m ∈ g.log ++ [e] := by
  intro w m hm hid hres
  obtain ⟨howner, c, hrec⟩ := h.inbox w m hm hid hres
  exact ⟨howner, c, List.mem_append_left _ hrec⟩

theorem controls_later (h : Delivery cfg g) (e : Event) :
    ∀ c, ∀ m ∈ g.controls c, m.head.dbControl = 1 →
      .acked m.head.srcWorkerId m.head.taskId ∈ g.log ++ [e] :=
  fun c m hm hack => List.mem_append_left _ (h.controls c m hm hack)

theorem entry_later (h : Delivery cfg g)
    (he : ∀ id ≠ 0, e.evicts id = false ∧ recordings id [e] = []) :
    ∀ c id x, (g.ledger c).entries.lookup id = some x →
      Filed g.requests (g.log ++ [e]) c id x := by
  intro c id x hx
  have hfiled := h.entry c id x hx
  obtain ⟨hgoes, hnone⟩ := he id hfiled.numbered
  exact hfiled.later hgoes hnone

theorem waiting_later (h : Delivery cfg g) (hgoes : ∀ id ≠ 0, e.evicts id = false)
    (hwait : ∀ x ∈ g.retries.entries, executions x.request.head.taskId [e] = []) :
    ∀ x ∈ g.retries.entries, Waiting (g.log ++ [e]) (g.ledger .mysql) x := by
  intro x hx
  have hwaits := h.waiting x hx
  exact hwaits.later (hgoes _ hwaits.numbered) (hwait x hx)

theorem dormant_later (h : Delivery cfg g) (hnew : ∀ c, ∀ id ≠ 0, e ≠ .admitted c id .new) :
    ∀ id ≠ 0, (∀ c, (g.ledger c).entries.lookup id = none) →
      ∀ c, .admitted c id .new ∉ entryLife id (g.log ++ [e]) := by
  intro id hid hnone c hmem
  obtain ⟨-, hmem | heq⟩ := mem_entryLife_append hmem
  · exact h.dormant id hid hnone c hmem
  · exact hnew c id hid heq.symm

theorem vacant_later (h : Delivery cfg g) (hnone : ∀ id ≠ 0, registrations id [e] = 0) :
    ∀ id ≠ 0, (∀ w, g.task w id = none) → ∀ w, .registered w id ∉ recordLife id (g.log ++ [e]) := by
  intro id hid hempty w hmem
  obtain ⟨-, hmem | rfl⟩ := mem_recordLife_append hmem
  · exact h.vacant id hid hempty w hmem
  · have := hnone id hid
    simp [registrations, Event.registers] at this

theorem settled_later (h : Delivery cfg g)
    (he : ∀ id ≠ 0, e.forgets id = false ∧ completions id [e] = []) :
    ∀ w id t, g.task w id = some t → Settled (g.log ++ [e]) w id t := by
  intro w id t ht
  obtain ⟨hgoes, hnone⟩ := he id (h.numbered ht)
  exact (h.settled w id t ht).later hgoes hnone

theorem count_later (h : Delivery cfg g) (hnone : ∀ id ≠ 0, admissions id [e] = 0) :
    ∀ id ≠ 0, ∀ c, (g.queue c).countP (·.head.taskId = id) + admissions id (g.log ++ [e]) ≤
      registrations id (g.log ++ [e]) := by
  intro id hid c
  rw [admissions_append, registrations_append, hnone id hid]
  exact Nat.le_add_right_of_le (h.count id hid c)

theorem unsent_later (h : Delivery cfg g) (hnone : ∀ id ≠ 0, admissions id [e] = 0) :
    ∀ w id t, g.task w id = some t → t.state = .pendingDispatch → ∀ c,
      (g.queue c).countP (·.head.taskId = id) + admissions id (g.log ++ [e]) <
        registrations id (g.log ++ [e]) := by
  intro w id t ht hs c
  rw [admissions_append, registrations_append, hnone id (h.numbered ht)]
  exact Nat.lt_add_right _ (h.unsent w id t ht hs c)

/-- An event that begins and ends no life. -/
def Mild (e : Event) : Prop := ∀ id ≠ 0, registrations id [e] = 0 ∧ admissions id [e] = 0 ∧
  e.forgets id = false ∧ e.evicts id = false ∧ recordings id [e] = [] ∧ completions id [e] = []

theorem mild_of_plain (h : e.taskId = 0) : Mild e := by
  intro id hid
  have hne : e.taskId ≠ id := fun heq => hid (heq.symm.trans h)
  exact ⟨registrations_other hne, admissions_other hne, forgets_other hne, evicts_other hne,
    recordings_other hne, completions_other hne⟩

/-- An event that the law allows is added to the history. -/
theorem logged (h : Delivery cfg g) (hlaw : Law g.log e)
    (hknown : e.taskId ≠ 0 → g.requests e.taskId ≠ none) (hmild : Mild e)
    (hwait : ∀ x ∈ g.retries.entries, executions x.request.head.taskId [e] = []) :
    Delivery cfg { g with log := g.log ++ [e] } :=
  { h with
    lawful := h.lawful.append hlaw
    fresh := h.fresh_later hknown
    known := h.known_later _
    settled := h.settled_later fun id hid => ⟨(hmild id hid).2.2.1, (hmild id hid).2.2.2.2.2⟩
    vacant := h.vacant_later fun id hid => (hmild id hid).1
    count := h.count_later fun id hid => (hmild id hid).2.1
    unsent := h.unsent_later fun id hid => (hmild id hid).2.1
    entry := h.entry_later fun id hid => ⟨(hmild id hid).2.2.2.1, (hmild id hid).2.2.2.2.1⟩
    dormant := h.dormant_later fun c id hid heq => by
      have := (hmild id hid).2.1
      simp [heq, admissions, Event.admits] at this
    waiting := h.waiting_later (fun id hid => (hmild id hid).2.2.2.1) hwait
    inbox := h.inbox_later e
    controls := h.controls_later e }

/-- An event of a task that is on its way changes nothing but the history. -/
theorem noted (h : Delivery cfg g) (hlaw : Law g.log e) {x : Event} (hx : x ∈ g.log)
    (hid : x.taskId = e.taskId) (hmild : Mild e)
    (hwait : ∀ x ∈ g.retries.entries, executions x.request.head.taskId [e] = []) :
    Delivery cfg { g with log := g.log ++ [e] } :=
  h.logged hlaw (fun hne => hid ▸ h.heard hx (hid ▸ hne)) hmild hwait

end Log

section Workers

variable {p : PendingDbTasks} {t t' : Task} {o : Option Task}

theorem task_self (hp : ∀ j, p.tasks.lookup j = if j = id then o else g.task w j) :
    task { g with workers := update g.workers w p } w id = o := by
  rw [task_update, if_pos rfl, hp, if_pos rfl]

theorem task_other (hp : ∀ j, p.tasks.lookup j = if j = id then o else g.task w j) {j : Nat}
    (hj : j ≠ id) (v : Nat) : task { g with workers := update g.workers w p } v j = g.task v j := by
  rw [task_update]
  split
  · rename_i hv
    rw [hp, if_neg hj, hv]
  · rfl

/-- After a record has changed, every record is that one or an old one of another task. -/
theorem changed (h : Delivery cfg g) (ht : g.task w id = some t)
    (hp : ∀ j, p.tasks.lookup j = if j = id then some t' else g.task w j) {v j : Nat} {x : Task}
    (hx : task { g with workers := update g.workers w p } v j = some x) :
    (g.task v j = some x ∧ j ≠ id) ∨ (v = w ∧ j = id ∧ x = t') := by
  by_cases hj : j = id
  · subst hj
    rw [task_update] at hx
    split at hx
    · rename_i hv
      rw [hp, if_pos rfl] at hx
      cases hx
      exact .inr ⟨hv, rfl, rfl⟩
    · rename_i hv
      exact absurd (h.one_record ht hx) hv
  · exact .inl ⟨task_other hp hj v ▸ hx, hj⟩

/-- No record has gone. -/
theorem vacant_changed (ht : g.task w id = some t)
    (hp : ∀ j, p.tasks.lookup j = if j = id then some t' else g.task w j) {j : Nat}
    (hempty : ∀ v, task { g with workers := update g.workers w p } v j = none) :
    ∀ v, g.task v j = none := by
  have hj : j ≠ id := by
    rintro rfl
    cases (task_self hp).symm.trans (hempty w)
  exact fun v => (task_other hp hj v).symm.trans (hempty v)

/-- A record changes without being sent or completed. -/
theorem touched (h : Delivery cfg g) (ht : g.task w id = some t) (hreq : t'.request = t.request)
    (hres : t'.result = t.result)
    (hstate : t'.state = t.state ∨ (t.state = .pendingDispatch ∧ t'.state = .dispatchFailed))
    (hack : t'.state = .completed → t'.ackPending = false → .acked w id ∈ recordLife id g.log)
    (hp : ∀ j, p.tasks.lookup j = if j = id then some t' else g.task w j) :
    Delivery cfg { g with workers := update g.workers w p } := by
  have hdone : t'.state = .completed → t.state = .completed := by
    rcases hstate with heq | ⟨-, hfailed⟩
    · exact fun hs => heq ▸ hs
    · exact fun hs => by rw [hfailed] at hs; cases hs
  have hopen : t'.state ≠ .completed → t.state ≠ .completed := by
    rcases hstate with heq | ⟨hpending, -⟩
    · exact fun hs => heq ▸ hs
    · exact fun _ hs => by rw [hpending] at hs; cases hs
  refine
    { h with
      record := fun v j x hx => ?_
      settled := fun v j x hx => ?_
      vacant := fun j hj hempty => h.vacant j hj (vacant_changed ht hp hempty)
      unsent := fun v j x hx hs => ?_ }
  · rcases h.changed ht hp hx with ⟨hx, _⟩ | ⟨rfl, rfl, rfl⟩
    · exact h.record v j x hx
    · rw [hreq]
      exact h.record _ _ t ht
  · rcases h.changed ht hp hx with ⟨hx, _⟩ | ⟨rfl, rfl, rfl⟩
    · exact h.settled v j x hx
    · obtain ⟨hreg, hcompleted, hwaiting, -⟩ := h.settled _ _ t ht
      exact ⟨hreg, fun hs => hres ▸ hcompleted (hdone hs), fun hs => hwaiting (hopen hs), hack⟩
  · rcases h.changed ht hp hx with ⟨hx, _⟩ | ⟨rfl, rfl, rfl⟩
    · exact h.unsent v j x hx hs
    · rcases hstate with heq | ⟨_, hfailed⟩
      · exact h.unsent _ _ t ht (heq ▸ hs)
      · rw [hfailed] at hs
        cases hs

/-- A table with the same records. -/
theorem retabled (h : Delivery cfg g) (hp : ∀ j, p.tasks.lookup j = g.task w j) :
    Delivery cfg { g with workers := update g.workers w p } := by
  have hold : ∀ v j, task { g with workers := update g.workers w p } v j = g.task v j := by
    intro v j
    rw [task_update]
    split
    · rename_i hv
      rw [hp, hv]
    · rfl
  exact
    { h with
      record := fun v j x hx => h.record v j x (hold v j ▸ hx)
      settled := fun v j x hx => h.settled v j x (hold v j ▸ hx)
      vacant := fun j hj hempty => h.vacant j hj fun v => hold v j ▸ hempty v
      unsent := fun v j x hx => h.unsent v j x (hold v j ▸ hx) }

/-- A record that is settled is taken out of the table. -/
theorem forgot (h : Delivery cfg g) (ht : g.task w id = some t) (hdone : t.state = .completed)
    (hack : t.ackPending = false)
    (hp : ∀ j, p.tasks.lookup j = if j = id then none else g.task w j) :
    Delivery cfg
      { g with
        workers := update g.workers w p
        log := g.log ++ [.forgotten w id] } := by
  have hsettled := h.settled w id t ht
  have hid := h.numbered ht
  have hold : ∀ v j x, task { g with workers := update g.workers w p } v j = some x →
      g.task v j = some x ∧ j ≠ id := by
    intro v j x hx
    have hj : j ≠ id := by
      rintro rfl
      rw [task_update] at hx
      split at hx
      · rw [hp, if_pos rfl] at hx
        cases hx
      · rename_i hv
        exact hv (h.one_record ht hx)
    exact ⟨task_other hp hj v ▸ hx, hj⟩
  refine
    { h with
      lawful := h.lawful.append fun _ => ⟨⟨_, hsettled.completed hdone⟩, hsettled.acked hdone hack⟩
      fresh := h.fresh_later fun _ => (h.record w id t ht).1.known
      known := h.known_later _
      record := fun v j x hx => h.record v j x (hold v j x hx).1
      settled := fun v j x hx => ?_
      vacant := fun j hj hempty v hmem => ?_
      count := h.count_later fun _ _ => rfl
      unsent := fun v j x hx => h.unsent_later (fun _ _ => rfl) v j x (hold v j x hx).1
      entry := h.entry_later fun _ _ => ⟨rfl, rfl⟩
      dormant := h.dormant_later nofun
      waiting := h.waiting_later (fun _ _ => rfl) fun _ _ => rfl
      inbox := h.inbox_later _
      controls := h.controls_later _ }
  · obtain ⟨hx, hj⟩ := hold v j x hx
    exact (h.settled v j x hx).later (forgets_other hj.symm) rfl
  · obtain ⟨hgoes, hmem | heq⟩ := mem_recordLife_append hmem
    · have hne : j ≠ id := by
        rintro rfl
        simp [Event.forgets] at hgoes
      exact h.vacant j hj (fun u => (task_other hp hne u).symm.trans (hempty u)) v hmem
    · cases heq

/-- No worker has a record under the number of a request that its own worker has no record of. -/
theorem unrecorded (h : Delivery cfg g) {request : Msg}
    (hempty : g.task request.head.srcWorkerId request.head.taskId = none)
    (hused : ∀ r, g.requests request.head.taskId = some r → same r request = true) (v : Nat) :
    g.task v request.head.taskId = none := by
  by_contra hne
  obtain ⟨x, hx⟩ := Option.ne_none_iff_exists'.mp hne
  obtain ⟨hnamed, howner⟩ := h.record v _ x hx
  have hsame := (hnamed.mono fun _ _ hr => remembered_mono hr).owner (named_remembered hused)
  rw [← howner, hsame, hempty] at hx
  cases hx

/-- A request gets its number and its record. -/
theorem registered (h : Delivery cfg g) {request : Msg} {next : Nat} (hid : request.head.taskId ≠ 0)
    (hempty : g.task request.head.srcWorkerId request.head.taskId = none)
    (hused : ∀ r, g.requests request.head.taskId = some r → same r request = true)
    (htype : isDbTask request.head.msgType = true) (hnext : 0 < next)
    (hp : ∀ j, p.tasks.lookup j =
      if j = request.head.taskId then some { request := request } else g.task request.head.srcWorkerId j) :
    Delivery cfg
      { g with
        workers := update g.workers request.head.srcWorkerId p
        nextId := next
        requests := remembered g.requests request
        log := g.log ++ [.registered request.head.srcWorkerId request.head.taskId] } := by
  have hnobody := h.unrecorded hempty hused
  have hfree := h.vacant _ hid hnobody
  have hold : ∀ v j x, task { g with workers := update g.workers request.head.srcWorkerId p } v j =
      some x → (g.task v j = some x ∧ j ≠ request.head.taskId) ∨
        (v = request.head.srcWorkerId ∧ j = request.head.taskId ∧ x = { request := request }) := by
    intro v j x hx
    by_cases hj : j = request.head.taskId
    · subst hj
      rw [task_update] at hx
      split at hx
      · rename_i hv
        rw [hp, if_pos rfl] at hx
        cases hx
        exact .inr ⟨hv, rfl, rfl⟩
      · rw [hnobody] at hx
        cases hx
    · exact .inl ⟨task_other hp hj v ▸ hx, hj⟩
  refine
    { h with
      lawful := h.lawful.append fun _ => hfree
      nextId := hnext
      fresh := fun j hj hnone => ?_
      known := fun j m hm => ?_
      request := fun j m hm => ?_
      record := fun v j x hx => ?_
      settled := fun v j x hx => ?_
      vacant := fun j hj hempty v hmem => ?_
      queued := fun c m hm hj => ⟨(h.queued c m hm hj).1.mono fun _ _ => remembered_mono,
        (h.queued c m hm hj).2⟩
      count := h.count_later fun _ _ => rfl
      unsent := fun v j x hx hs c => ?_
      entry := fun c j x hx => ?_
      dormant := h.dormant_later nofun
      waiting := h.waiting_later (fun _ _ => rfl) fun _ _ => rfl
      inbox := h.inbox_later _
      controls := h.controls_later _ }
  · obtain ⟨hnone, hne⟩ := remembered_none hnone
    exact (h.fresh j hj hnone).append hne.symm
  · rcases remembered_some hm with hm | ⟨rfl, -⟩
    · exact h.known_later _ j m hm
    · exact ⟨request.head.srcWorkerId, by simp⟩
  · rcases remembered_some hm with hm | ⟨rfl, rfl⟩
    · exact h.request j m hm
    · exact ⟨hid, rfl, htype⟩
  · rcases hold v j x hx with ⟨hx, -⟩ | ⟨rfl, rfl, rfl⟩
    · exact ⟨(h.record v j x hx).1.mono fun _ _ => remembered_mono, (h.record v j x hx).2⟩
    · exact ⟨named_remembered hused, rfl⟩
  · rcases hold v j x hx with ⟨hx, -⟩ | ⟨rfl, rfl, rfl⟩
    · exact (h.settled v j x hx).later rfl rfl
    · refine ⟨last_mem_recordLife rfl, nofun, fun _ => ?_, nofun⟩
      unfold recordLife
      rw [since_of_goes rfl, completions_append]
      exact (List.append_nil _).trans (vacant_quiet h.lawful hid hfree)
  · have hne : j ≠ request.head.taskId := by
      rintro rfl
      cases (task_self hp).symm.trans (hempty _)
    obtain ⟨-, hmem | heq⟩ := mem_recordLife_append hmem
    · exact h.vacant j hj (fun u => (task_other hp hne u).symm.trans (hempty u)) v hmem
    · cases heq
      exact hne rfl
  · rcases hold v j x hx with ⟨hx, -⟩ | ⟨rfl, rfl, rfl⟩
    · exact h.unsent_later (fun _ _ => rfl) v j x hx hs c
    · rw [admissions_append, registrations_append]
      have := h.count _ hid c
      simp only [registrations, admissions, List.countP_singleton, Event.registers, Event.admits,
        decide_true, if_true] at this ⊢
      simpa using Nat.lt_succ_of_le this
  · have hfiled := h.entry c j x hx
    have hlater : Filed g.requests (g.log ++
      [.registered request.head.srcWorkerId request.head.taskId]) c j x := hfiled.later rfl rfl
    exact { hlater with named := hlater.named.mono fun _ _ => remembered_mono }

/-- A task that was not sent is put in its queue. -/
theorem dispatched (h : Delivery cfg g) (ht : g.task w id = some t)
    (hpending : t.state = .pendingDispatch) (hreq : t'.request = t.request)
    (hstate : t'.state = .awaitResult)
    (hp : ∀ j, p.tasks.lookup j = if j = id then some t' else g.task w j) :
    Delivery cfg
      { g with
        workers := update g.workers w p
        queue := update g.queue (channelOf t.request.head)
          (g.queue (channelOf t.request.head) ++ [t.request]) } := by
  have hnamed := (h.record w id t ht).1
  have hid := h.numbered ht
  have hqueue : ∀ c, ∀ m ∈ update g.queue (channelOf t.request.head)
      (g.queue (channelOf t.request.head) ++ [t.request]) c,
      m ∈ g.queue c ∨ (m = t.request ∧ c = channelOf t.request.head) := by
    intro c m hm
    simp only [Function.update_apply] at hm
    split at hm
    · rename_i hc
      rcases List.mem_append.mp hm with hm | hm
      · exact .inl (hc ▸ hm)
      · exact .inr ⟨List.mem_singleton.mp hm, hc⟩
    · exact .inl hm
  have hcount : ∀ j c, (update g.queue (channelOf t.request.head)
      (g.queue (channelOf t.request.head) ++ [t.request]) c).countP (·.head.taskId = j) ≤
        (g.queue c).countP (·.head.taskId = j) + if id = j then 1 else 0 := by
    intro j c
    simp only [Function.update_apply]
    split
    · rename_i hc
      rw [List.countP_append, hc]
      simp [hnamed.taskId]
    · exact Nat.le_add_right _ _
  refine
    { h with
      record := fun v j x hx => ?_
      settled := fun v j x hx => ?_
      vacant := fun j hj hempty => h.vacant j hj (vacant_changed ht hp hempty)
      queued := fun c m hm hj => ?_
      count := fun j hj c => ?_
      unsent := fun v j x hx hs c => ?_
      plain := fun c m hm hj => ?_ }
  · rcases h.changed ht hp hx with ⟨hx, _⟩ | ⟨rfl, rfl, rfl⟩
    · exact h.record v j x hx
    · rw [hreq]
      exact h.record _ _ t ht
  · rcases h.changed ht hp hx with ⟨hx, _⟩ | ⟨rfl, rfl, rfl⟩
    · exact h.settled v j x hx
    · obtain ⟨hreg, -, hwaiting, -⟩ := h.settled _ _ t ht
      have hdone : x.state ≠ .completed := by
        rw [hstate]
        decide
      exact ⟨hreg, fun hs => absurd hs hdone, fun _ => hwaiting (by rw [hpending]; decide),
        fun hs => absurd hs hdone⟩
  · rcases hqueue c m hm with hm | ⟨rfl, rfl⟩
    · exact h.queued c m hm hj
    · rw [hnamed.taskId]
      exact ⟨hnamed, rfl⟩
  · have hc := hcount j c
    by_cases heq : id = j
    · subst heq
      have := h.unsent w id t ht hpending c
      simp only [if_true] at hc
      dsimp only
      omega
    · have := h.count j hj c
      simp only [if_neg heq] at hc
      dsimp only
      omega
  · rcases h.changed ht hp hx with ⟨hx, hne⟩ | ⟨rfl, rfl, rfl⟩
    · have hc := hcount j c
      have := h.unsent v j x hx hs c
      simp only [if_neg hne.symm] at hc
      dsimp only
      omega
    · rw [hstate] at hs
      cases hs
  · rcases hqueue c m hm with hm | ⟨rfl, _⟩
    · exact h.plain c m hm hj
    · exact absurd (hnamed.taskId.symm.trans hj) hid

/-- A result is taken by the record that waits for it. -/
theorem completed (h : Delivery cfg g) {m : Msg} (ht : g.task w id = some t)
    (hwait : t.state = .awaitResult) (hreq : t'.request = t.request)
    (hstate : t'.state = .completed) (hres : t'.result = m) (hack : t'.ackPending = true)
    (howner : m.head.srcWorkerId = w) (hrec : ∃ c, .recorded c id m ∈ g.log)
    (hp : ∀ j, p.tasks.lookup j = if j = id then some t' else g.task w j) :
    Delivery cfg
      { g with
        workers := update g.workers w p
        log := g.log ++ [.completed w id m] } := by
  have hsettled := h.settled w id t ht
  have hnamed := (h.record w id t ht).1
  have hnone : completions id (recordLife id g.log) = [] :=
    hsettled.waiting (by rw [hwait]; decide)
  refine
    { h with
      lawful := h.lawful.append fun _ => ⟨hsettled.registered, hnone, howner, hrec⟩
      fresh := h.fresh_later fun _ => hnamed.known
      known := h.known_later _
      record := fun v j x hx => ?_
      settled := fun v j x hx => ?_
      vacant := fun j hj hempty =>
        h.vacant_later (fun _ _ => rfl) j hj (vacant_changed ht hp hempty)
      count := h.count_later fun _ _ => rfl
      unsent := fun v j x hx hs => ?_
      entry := h.entry_later fun _ _ => ⟨rfl, rfl⟩
      dormant := h.dormant_later nofun
      waiting := h.waiting_later (fun _ _ => rfl) fun _ _ => rfl
      inbox := h.inbox_later _
      controls := h.controls_later _ }
  · rcases h.changed ht hp hx with ⟨hx, _⟩ | ⟨rfl, rfl, rfl⟩
    · exact h.record v j x hx
    · rw [hreq]
      exact h.record _ _ t ht
  · rcases h.changed ht hp hx with ⟨hx, hne⟩ | ⟨rfl, rfl, rfl⟩
    · exact (h.settled v j x hx).later rfl (completions_other hne.symm)
    · refine ⟨mem_recordLife hsettled.registered rfl, fun _ => ?_, fun hs => absurd hstate hs,
        fun _ ha => ?_⟩
      · rw [hres]
        exact last_mem_recordLife rfl
      · rw [hack] at ha
        cases ha
  · rcases h.changed ht hp hx with ⟨hx, hne⟩ | ⟨rfl, rfl, rfl⟩
    · exact h.unsent_later (fun _ _ => rfl) v j x hx hs
    · rw [hstate] at hs
      cases hs

end Workers

section Queues

/-- A message without a number is put in a queue. -/
theorem posted (h : Delivery cfg g) {m : Msg} (hid : m.head.taskId = 0)
    (hplain : ∀ t, DbTask.decode m.body = some t → t.kind ≠ 4 ∧ t.kind ≠ 5) :
    Delivery cfg { g with queue := update g.queue c (g.queue c ++ [m]) } := by
  have hqueue : ∀ d, ∀ x ∈ update g.queue c (g.queue c ++ [m]) d, x ∈ g.queue d ∨ x = m := by
    intro d x hx
    simp only [Function.update_apply] at hx
    split at hx
    · rename_i hd
      rcases List.mem_append.mp hx with hx | hx
      · exact .inl (hd ▸ hx)
      · exact .inr (List.mem_singleton.mp hx)
    · exact .inl hx
  have hcount : ∀ j ≠ 0, ∀ d, (update g.queue c (g.queue c ++ [m]) d).countP (·.head.taskId = j) =
      (g.queue d).countP (·.head.taskId = j) := by
    intro j hj d
    simp only [Function.update_apply]
    split
    · rename_i hd
      have hne : ¬ m.head.taskId = j := fun heq => hj (heq.symm.trans hid)
      rw [List.countP_append, hd]
      simp [hne]
    · rfl
  refine
    { h with
      queued := fun d x hx hj => ?_
      count := fun j hj d => (hcount j hj d).symm ▸ h.count j hj d
      unsent := fun v j t ht hs d => (hcount j (h.numbered ht) d).symm ▸ h.unsent v j t ht hs d
      plain := fun d x hx hj => ?_ }
  · rcases hqueue d x hx with hx | rfl
    · exact h.queued d x hx hj
    · exact absurd hid hj
  · rcases hqueue d x hx with hx | rfl
    · exact h.plain d x hx hj
    · exact hplain

/-- A message is taken out of a queue. -/
theorem popped (h : Delivery cfg g) (c : Channel) (i : Nat) :
    Delivery cfg { g with queue := update g.queue c ((g.queue c).eraseIdx i) } := by
  have hqueue : ∀ d, (update g.queue c ((g.queue c).eraseIdx i) d).Sublist (g.queue d) := by
    intro d
    simp only [Function.update_apply]
    split
    · rename_i hd
      rw [hd]
      exact List.eraseIdx_sublist ..
    · exact List.Sublist.refl _
  exact
    { h with
      queued := fun d x hx => h.queued d x ((hqueue d).subset hx)
      count := fun j hj d => le_trans (Nat.add_le_add_right (hqueue d).countP_le _) (h.count j hj d)
      unsent := fun v j t ht hs d =>
        lt_of_le_of_lt (Nat.add_le_add_right (hqueue d).countP_le _) (h.unsent v j t ht hs d)
      plain := fun d x hx => h.plain d x ((hqueue d).subset hx) }

/-- When a numbered message has been taken out, there is one less of its number. -/
theorem gone (h : Delivery cfg g) {i : Nat} {m : Msg} (hm : (g.queue c)[i]? = some m)
    (hid : m.head.taskId ≠ 0) (d : Channel) :
    (update g.queue c ((g.queue c).eraseIdx i) d).countP (·.head.taskId = m.head.taskId) <
      (g.queue c).countP (·.head.taskId = m.head.taskId) := by
  obtain ⟨hnamed, hchan⟩ := h.queued c m (List.mem_of_getElem? hm) hid
  obtain ⟨hi, hget⟩ := List.getElem?_eq_some_iff.mp hm
  have hperm := List.getElem_cons_eraseIdx_perm hi
  have hone : (g.queue c).countP (·.head.taskId = m.head.taskId) =
      ((g.queue c).eraseIdx i).countP (·.head.taskId = m.head.taskId) + 1 := by
    rw [← hperm.countP_eq, List.countP_cons, hget]
    simp
  simp only [Function.update_apply]
  split
  · omega
  · rename_i hd
    -- all messages of the number are in the queue of one channel
    have hzero : (g.queue d).countP (·.head.taskId = m.head.taskId) = 0 := by
      rw [List.countP_eq_zero]
      intro x hx heq
      have heq : x.head.taskId = m.head.taskId := of_decide_eq_true heq
      obtain ⟨hnamed', hchan'⟩ := h.queued d x hx (heq ▸ hid)
      rw [heq] at hnamed'
      exact hd (hchan'.symm.trans ((hnamed'.channelOf hnamed).trans hchan))
    omega

/-- A control message is put in a queue: an acknowledgement was sent. -/
theorem controlled (h : Delivery cfg g) {m : Msg}
    (hack : m.head.dbControl = 1 → .acked m.head.srcWorkerId m.head.taskId ∈ g.log) :
    Delivery cfg { g with controls := update g.controls c (g.controls c ++ [m]) } :=
  { h with
    controls := fun d x hx hx1 => by
      simp only [Function.update_apply] at hx
      split at hx
      · rename_i hd
        rcases List.mem_append.mp hx with hx | hx
        · exact h.controls d x (hd ▸ hx) hx1
        · cases List.mem_singleton.mp hx
          exact hack hx1
      · exact h.controls d x hx hx1 }

theorem handled (h : Delivery cfg g) (c : Channel) (i : Nat) :
    Delivery cfg { g with controls := update g.controls c ((g.controls c).eraseIdx i) } :=
  { h with
    controls := fun d x hx hx1 => by
      simp only [Function.update_apply] at hx
      split at hx
      · rename_i hd
        exact h.controls d x (hd ▸ List.mem_of_mem_eraseIdx hx) hx1
      · exact h.controls d x hx hx1 }

/-- A worker is sent a recorded result, or a message that is no result of a numbered task. -/
theorem delivered (h : Delivery cfg g) {m : Msg}
    (hrec : m.head.taskId ≠ 0 → isDbResult m.head.msgType = true →
      ∃ c, .recorded c m.head.taskId m ∈ g.log) : Delivery cfg (postWorker g m) :=
  { h with
    inbox := fun w x hx hid hres => by
      simp only [postWorker, Function.update_apply] at hx
      split at hx
      · rename_i hw
        rcases List.mem_append.mp hx with hx | hx
        · exact h.inbox w x (hw ▸ hx) hid hres
        · cases List.mem_singleton.mp hx
          exact ⟨hw.symm, hrec hid hres⟩
      · exact h.inbox w x hx hid hres }

theorem received (h : Delivery cfg g) (w i : Nat) :
    Delivery cfg { g with inbox := update g.inbox w ((g.inbox w).eraseIdx i) } :=
  { h with
    inbox := fun v x hx => by
      simp only [Function.update_apply] at hx
      split at hx
      · rename_i hv
        exact h.inbox v x (hv ▸ List.mem_of_mem_eraseIdx hx)
      · exact h.inbox v x hx }

end Queues

section Ledgers

variable {l : DbResultLedger}

/-- A ledger changes: its rows are as they have to be, no row has gone, the waiting transactions
keep theirs. -/
theorem ledgered (h : Delivery cfg g)
    (hentry : ∀ id x, l.entries.lookup id = some x → Filed g.requests g.log c id x)
    (hstays : ∀ id, l.entries.lookup id = none → (g.ledger c).entries.lookup id = none)
    (hwait : c = .mysql → ∀ e ∈ g.retries.entries, Waiting g.log l e)
    (hlegacy : ∀ m ∈ l.legacy, m.head.taskId = 0 ∨ isDbResult m.head.msgType = false)
    (hcap : l.capacity = cfg.capacity ∧ l.load ≤ cfg.capacity) :
    Delivery cfg { g with ledger := update g.ledger c l } := by
  have hcases : ∀ (P : Channel → DbResultLedger → Prop), P c l → (∀ d, P d (g.ledger d)) →
      ∀ d, P d (update g.ledger c l d) := by
    intro P hc hd d
    simp only [Function.update_apply]
    split
    · rename_i hdc
      exact hdc ▸ hc
    · exact hd d
  refine
    { h with
      entry := hcases (fun d l => ∀ id x, l.entries.lookup id = some x →
        Filed g.requests g.log d id x) hentry h.entry
      dormant := fun id hid hnone => h.dormant id hid fun d => ?_
      waiting := fun e he => ?_
      legacy := hcases (fun _ l => ∀ m ∈ l.legacy, m.head.taskId = 0 ∨
        isDbResult m.head.msgType = false) hlegacy h.legacy
      capacity := hcases (fun _ l => l.capacity = cfg.capacity ∧ l.load ≤ cfg.capacity) hcap
        h.capacity }
  · have hd := hnone d
    simp only [Function.update_apply] at hd
    split at hd
    · rename_i hdc
      exact hdc ▸ hstays id hd
    · exact hd
  · show Waiting g.log (update g.ledger c l .mysql) e
    by_cases hc : c = .mysql
    · subst hc
      rw [Function.update_self]
      exact hwait rfl e he
    · rw [Function.update_of_ne (Ne.symm hc)]
      exact h.waiting e he

/-- The rows stay, or change only in their marks. -/
theorem refiled (h : Delivery cfg g) {x x' : LedgerEntry}
    (hx : (g.ledger c).entries.lookup id = some x) (hreq : x'.request = x.request)
    (hres : x'.result = x.result) (hready : x'.ready = x.ready)
    (hack : x'.acknowledged = true → x.ready = true ∧ .acked x.request.head.srcWorkerId id ∈ g.log) :
    Delivery cfg { g with
      ledger := update g.ledger c
        { g.ledger c with entries := (g.ledger c).entries.insert id x' } } := by
  obtain ⟨hcap, hload⟩ := h.capacity c
  obtain ⟨h1, h2, h3, h4, h5, h6, h7⟩ := h.entry c id x hx
  refine h.ledgered (fun j y hy => ?_) (fun j hj => ?_) (fun hc e he => ?_) (h.legacy c) ⟨hcap, ?_⟩
  · rw [Table.lookup_insert] at hy
    split at hy
    · rename_i hj
      cases hy
      subst hj
      refine ⟨h1, hreq ▸ h2, hreq ▸ h3, h4, fun hr => ?_, fun hr => h6 (hready ▸ hr), fun ha => ?_⟩
      · rw [hres, hreq]
        exact h5 (hready ▸ hr)
      · rw [hready, hreq]
        exact hack ha
    · exact h.entry c j y hy
  · rw [Table.lookup_insert] at hj
    split at hj
    · cases hj
    · exact hj
  · subst hc
    obtain ⟨w1, w2, w3, y, hy, hyr, hyq⟩ := h.waiting e he
    refine ⟨w1, w2, w3, ?_⟩
    simp only [Table.lookup_insert]
    by_cases hj : e.request.head.taskId = id
    · rw [if_pos hj]
      rw [hj, hx] at hy
      cases hy
      exact ⟨x', rfl, hready.trans hyr, hreq.trans hyq⟩
    · rw [if_neg hj]
      exact ⟨y, hy, hyr, hyq⟩
  · unfold DbResultLedger.load at hload ⊢
    rwa [Table.size_insert_of_lookup _ hx]

/-- A message that is sent without an acknowledgement joins the ledger. -/
theorem noticed (h : Delivery cfg g) {m : Msg}
    (hm : m.head.taskId = 0 ∨ isDbResult m.head.msgType = false)
    (hroom : (g.ledger c).load < cfg.capacity) :
    Delivery cfg { g with
      ledger := update g.ledger c { g.ledger c with legacy := (g.ledger c).legacy ++ [m] } } := by
  obtain ⟨hcap, hload⟩ := h.capacity c
  refine h.ledgered (h.entry c) (fun _ hj => hj) (fun hc e he => ?_) (fun x hx => ?_) ⟨hcap, ?_⟩
  · subst hc
    obtain ⟨w1, w2, w3, w4⟩ := h.waiting e he
    exact ⟨w1, w2, w3, w4⟩
  · rcases List.mem_append.mp hx with hx | hx
    · exact h.legacy c x hx
    · rw [List.mem_singleton.mp hx]
      exact hm
  · unfold DbResultLedger.load at hroom ⊢
    rw [List.length_append]
    exact hroom

theorem queuedNotice (h : Delivery cfg g) {m : Msg}
    (hm : m.head.taskId = 0 ∨ isDbResult m.head.msgType = false) :
    Delivery cfg (g.queueNotice c m) := by
  unfold queueNotice DbResultLedger.queueNotice
  split
  · simpa using h
  · rename_i hroom
    exact h.noticed hm ((h.capacity c).1 ▸ Nat.not_le.mp hroom)

/-- A task has one entry. -/
theorem one_entry (h : Delivery cfg g) {d : Channel} {x y : LedgerEntry}
    (hx : (g.ledger c).entries.lookup id = some x) (hy : (g.ledger d).entries.lookup id = some y) :
    d = c := by
  have hfiled := h.entry c id x hx
  have hfiled' := h.entry d id y hy
  rw [← hfiled.channel, ← hfiled'.channel]
  exact hfiled'.named.channelOf hfiled.named

/-- What happens to a task in the ledger of its channel. The other tasks keep their rows, and the
task is not among those that wait. -/
theorem entered (h : Delivery cfg g) {e : Event} (hid : e.taskId = id) (hlaw : Law g.log e)
    (hknown : g.requests id ≠ none)
    (hmild : ∀ j, registrations j [e] = 0 ∧ e.forgets j = false ∧ completions j [e] = [])
    (hcount : ∀ j ≠ 0, ∀ d, (g.queue d).countP (·.head.taskId = j) + admissions j (g.log ++ [e]) ≤
      registrations j (g.log ++ [e]))
    (hunsent : ∀ v j t, g.task v j = some t → t.state = .pendingDispatch → ∀ d,
      (g.queue d).countP (·.head.taskId = j) + admissions j (g.log ++ [e]) <
        registrations j (g.log ++ [e]))
    (hrow : ∀ x, l.entries.lookup id = some x → Filed g.requests (g.log ++ [e]) c id x)
    (hrows : ∀ j ≠ id, l.entries.lookup j = (g.ledger c).entries.lookup j)
    (honly : ∀ d ≠ c, (g.ledger d).entries.lookup id = none)
    (hgone : l.entries.lookup id = none → entryLife id (g.log ++ [e]) = [])
    (hapart : ∀ x ∈ g.retries.entries, x.request.head.taskId ≠ id)
    (hlegacy : l.legacy = (g.ledger c).legacy)
    (hcap : l.capacity = cfg.capacity ∧ l.load ≤ cfg.capacity) :
    Delivery cfg { g with ledger := update g.ledger c l, log := g.log ++ [e] } := by
  have hother : ∀ j ≠ id, e.taskId ≠ j := fun j hj heq => hj (heq.symm.trans hid)
  have hlookup : ∀ d, ∀ j ≠ id, (update g.ledger c l d).entries.lookup j =
      (g.ledger d).entries.lookup j := by
    intro d j hj
    simp only [Function.update_apply]
    split
    · rename_i hd
      rw [hd, hrows j hj]
    · rfl
  refine
    { h with
      lawful := h.lawful.append hlaw
      fresh := h.fresh_later fun _ => hid ▸ hknown
      known := h.known_later _
      settled := h.settled_later fun j _ => (hmild j).2
      vacant := h.vacant_later fun j _ => (hmild j).1
      count := hcount
      unsent := hunsent
      entry := fun d j x hx => ?_
      dormant := fun j hj hnone d hmem => ?_
      waiting := fun x hx => ?_
      legacy := fun d m hm => ?_
      inbox := h.inbox_later e
      controls := h.controls_later e
      capacity := fun d => ?_ }
  · by_cases hj : j = id
    · subst hj
      simp only [Function.update_apply] at hx
      split at hx
      · rename_i hd
        exact hd ▸ hrow x hx
      · rename_i hd
        rw [honly d hd] at hx
        cases hx
    · rw [hlookup d j hj] at hx
      exact (h.entry d j x hx).later (evicts_other (hother j hj)) (recordings_other (hother j hj))
  · by_cases heq : j = id
    · subst heq
      have hrow := hnone c
      simp only [Function.update_self] at hrow
      rw [hgone hrow] at hmem
      cases hmem
    · refine h.dormant j hj (fun d => hlookup d j heq ▸ hnone d) d ?_
      obtain ⟨-, hmem | rfl⟩ := mem_entryLife_append hmem
      · exact hmem
      · exact absurd rfl (hother j heq)
  · have hne := hapart x hx
    obtain ⟨w1, w2, w3, w4⟩ := (h.waiting x hx).later (evicts_other (hother _ hne))
      (executions_other (hother _ hne))
    refine ⟨w1, w2, w3, ?_⟩
    show ∃ y, (update g.ledger c l .mysql).entries.lookup x.request.head.taskId = some y ∧ _
    rw [hlookup .mysql _ hne]
    exact w4
  · simp only [Function.update_apply] at hm
    split at hm
    · rename_i hd
      rw [hlegacy] at hm
      exact h.legacy c m hm
    · exact h.legacy d m hm
  · simp only [Function.update_apply]
    split
    · exact hcap
    · exact h.capacity d

end Ledgers

section Execution

variable {request : Msg} {res : DbResult} {k : Nat}

/-- A numbered task that has an entry and has been executed `k` times; it is not among those that
wait. -/
structure Open (g : DbSystem) (c : Channel) (request : Msg) (k : Nat) : Prop where
  numbered : request.head.taskId ≠ 0
  executed : executions request.head.taskId (entryLife request.head.taskId g.log) =
    List.replicate k .retryable
  entry : ∃ x, (g.ledger c).entries.lookup request.head.taskId = some x ∧ x.ready = false ∧
    x.request = request
  apart : ∀ e ∈ g.retries.entries, e.request.head.taskId ≠ request.head.taskId

/-- What a ledger records, it records once. -/
theorem finished (h : Delivery cfg g)
    (hentry : ∃ x, (g.ledger c).entries.lookup request.head.taskId = some x ∧ x.ready = false ∧
      x.request = request)
    (hapart : ∀ e ∈ g.retries.entries, e.request.head.taskId ≠ request.head.taskId) :
    ∃ l, (g.ledger c).finish request (replyMsg request res) = some l ∧ Delivery cfg
      { g with
        ledger := update g.ledger c l
        log := g.log ++ [.recorded c request.head.taskId (replyMsg request res)] } := by
  obtain ⟨x, hx, hready, hreq⟩ := hentry
  have hfiled := h.entry c _ x hx
  obtain ⟨hcap, hload⟩ := h.capacity c
  refine ⟨_, by rw [DbResultLedger.finish, if_neg hfiled.numbered, hx]; rfl, ?_⟩
  refine @entered cfg g request.head.taskId c _ h _ rfl
    (fun _ => ⟨hfiled.admitted, hfiled.unrecorded hready, rfl⟩)
    hfiled.named.known (fun _ => ⟨rfl, rfl, rfl⟩) (h.count_later fun _ _ => rfl)
    (h.unsent_later fun _ _ => rfl) (fun y hy => ?_) (fun j hj => ?_) (fun d hd => ?_)
    (fun hnone => ?_) hapart rfl ⟨hcap, ?_⟩
  · rw [Table.lookup_insert, if_pos rfl] at hy
    cases hy
    refine ⟨hfiled.numbered, hfiled.named, hfiled.channel, mem_entryLife hfiled.admitted rfl,
      fun _ => ⟨last_mem_entryLife rfl, rfl, ?_⟩, nofun, fun ha => ?_⟩
    · rw [hreq]
      rfl
    · have := (hfiled.acked ha).1
      rw [hready] at this
      cases this
  · rw [Table.lookup_insert, if_neg hj]
  · by_contra hne
    obtain ⟨y, hy⟩ := Option.ne_none_iff_exists'.mp hne
    exact hd (h.one_entry hx hy)
  · rw [Table.lookup_insert, if_pos rfl] at hnone
    cases hnone
  · unfold DbResultLedger.load at hload ⊢
    rwa [Table.size_insert_of_lookup _ hx]

/-- The result of a task without a number is a message of its own. -/
theorem finishedPlain (h : Delivery cfg g) (hid : request.head.taskId = 0)
    (hroom : (g.ledger c).load < cfg.capacity) :
    ∃ l, (g.ledger c).finish request (replyMsg request res) = some l ∧ Delivery cfg
      { g with
        ledger := update g.ledger c l
        log := g.log ++ [.recorded c request.head.taskId (replyMsg request res)] } := by
  refine ⟨_, if_pos hid, ?_⟩
  have hlog : Delivery cfg
      { g with log := g.log ++ [.recorded c request.head.taskId (replyMsg request res)] } :=
    h.logged (fun hne => absurd hid hne) (fun hne => absurd hid hne) (mild_of_plain hid)
      fun _ _ => rfl
  exact hlog.noticed (.inl hid) hroom

/-- An execution is added to the history. -/
theorem ran (h : Delivery cfg g) (ho : Open g c request k) (hk : k < TransactionRetries.kMaxAttempts)
    (cls : ResultClass) :
    Delivery cfg { g with log := g.log ++ [.executed c request.head.taskId cls] } := by
  obtain ⟨x, hx, hready, -⟩ := ho.entry
  have hfiled := h.entry c _ x hx
  refine h.logged (fun _ => ⟨hfiled.admitted, hfiled.unrecorded hready, k, hk, ho.executed⟩)
    (fun _ => hfiled.named.known) (fun _ _ => ⟨rfl, rfl, rfl, rfl, rfl, rfl⟩) fun e he => ?_
  exact executions_other (ho.apart e he).symm

/-- A transaction waits for its next try. -/
theorem rescheduled (h : Delivery cfg g) {task : DbTask} {next : Int} {q : TransactionRetries}
    (ho : Open g .mysql request k) (hk : 0 < k ∧ k < TransactionRetries.kMaxAttempts)
    (hq : q.entries = g.retries.entries ++ [⟨request, task, k, next⟩]) :
    Delivery cfg { g with retries := q } := by
  refine { h with waiting := fun e he => ?_, waitingOnce := ?_ }
  · rw [hq] at he
    rcases List.mem_append.mp he with he | he
    · exact h.waiting e he
    · rw [List.mem_singleton.mp he]
      exact ⟨ho.numbered, hk, ho.executed, ho.entry⟩
  · show (q.entries.map _).Nodup
    rw [hq, List.map_append, List.nodup_append]
    refine ⟨h.waitingOnce, List.nodup_singleton _, fun a ha b hb => ?_⟩
    obtain ⟨e, he, rfl⟩ := List.mem_map.mp ha
    rw [List.mem_singleton.mp hb]
    exact ho.apart e he

/-- A transaction that waited is taken out to be tried again. -/
theorem retaken (h : Delivery cfg g) {e : RetryEntry} {before after : List RetryEntry}
    (hq : g.retries.entries = before ++ e :: after) :
    Delivery cfg { g with retries := { entries := before ++ after } } ∧
      Open { g with retries := { entries := before ++ after } } .mysql e.request e.attempts ∧
      e.attempts < TransactionRetries.kMaxAttempts := by
  have hsub : (before ++ after).Sublist g.retries.entries := by
    rw [hq]
    exact List.Sublist.append_left (List.sublist_cons_self _ _) _
  have he : e ∈ g.retries.entries := by
    rw [hq]
    exact List.mem_append_right _ List.mem_cons_self
  obtain ⟨w1, w2, w3, w4⟩ := h.waiting e he
  refine ⟨?_, ?_, w2.2⟩
  · exact
      { h with
        waiting := fun x hx => h.waiting x (hsub.subset hx)
        waitingOnce := h.waitingOnce.sublist (hsub.map _) }
  · refine ⟨w1, w3, w4, fun y hy heq => ?_⟩
    have hnd := h.waitingOnce
    rw [hq, List.map_append, List.map_cons, List.nodup_middle, List.nodup_cons,
      ← List.map_append] at hnd
    exact hnd.1 (List.mem_map.mpr ⟨y, hy, heq⟩)

end Execution

end Delivery

end DbSystem

end Db
