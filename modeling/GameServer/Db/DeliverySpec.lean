import GameServer.Db.TaskDelivery

/-!
# What the operations of task delivery do

One lemma for each operation of the task table and of the ledger: which rows it
changes and what it hands to its sender.
-/

namespace Db

/-- What `same` compares. -/
def compared (m : Msg) : Gateway.Bytes × MsgType × List Nat :=
  (m.body, m.head.msgType,
    [m.head.dbShard, m.head.srcWorkerId, m.head.ctx, m.head.playerId, m.head.epoch, m.head.session,
      m.head.module, m.head.method, m.head.seq])

theorem same_iff {a b : Msg} : same a b = true ↔ compared a = compared b := by
  simp [same, compared]

theorem same_refl (a : Msg) : same a a = true := same_iff.mpr rfl

theorem same_spec {a b : Msg} (h : same a b = true) :
    a.body = b.body ∧ a.head.msgType = b.head.msgType ∧ a.head.dbShard = b.head.dbShard ∧
      a.head.srcWorkerId = b.head.srcWorkerId := by
  obtain ⟨h1, h2, h3, h4, _⟩ := of_decide_eq_true h
  exact ⟨h1, h2, h3, h4⟩

namespace PendingDbTasks

variable {p p' q : PendingDbTasks} {id victim : Nat} {now : Int}

/-- The index does not matter to the table. -/
@[simp] theorem tasks_activate : (p.activate id).tasks = p.tasks := by
  unfold activate
  split <;> rfl

@[simp] theorem tasks_deactivate : (p.deactivate id).tasks = p.tasks := by
  unfold deactivate
  split <;> rfl

theorem dispatch_request (task : Task) (now : Int) (verdict : DispatchResult) :
    (dispatch task now verdict).request = task.request := rfl

theorem dispatch_result (task : Task) (now : Int) (verdict : DispatchResult) :
    (dispatch task now verdict).result = task.result := rfl

/-- Room is made by nothing, or by taking out a completed record other than the task's own. -/
theorem makeRoom_spec (h : p.makeRoom id now victim = some (some q)) :
    q = p ∨ ∃ task, p.tasks.lookup victim = some task ∧ evictable now task = true ∧ victim ≠ id ∧
      p.tasks.lookup id = none ∧ q = { p.deactivate victim with tasks := p.tasks.erase victim } := by
  unfold makeRoom at h
  split at h
  · cases h
    exact .inl rfl
  rename_i hfull
  simp only [not_or, Option.not_isSome_iff_eq_none] at hfull
  split at h
  · split at h
    · cases h
    · rename_i task htask
      split at h
      · rename_i hold
        cases h
        refine .inr ⟨task, htask, hold, ?_, hfull.2, rfl⟩
        rintro rfl
        cases hfull.2.symm.trans htask
      · cases h
  · cases h

/-- What `submit` does with a request under its number, in a table with room for it. -/
inductive Submitted (send : Sender) (now : Int) (request : Msg) (q : PendingDbTasks) :
    Bool × PendingDbTasks × List Msg → Prop
  | known (task : Task) (hfound : q.tasks.lookup request.head.taskId = some task) (ok : Bool)
      (hok : ok = same task.request request) : Submitted send now request q (ok, q, [])
  | invalid (p : PendingDbTasks) (htasks : p.tasks = q.tasks)
      (hfresh : q.tasks.lookup request.head.taskId = none)
      (hsend : isInvalid (send request) = true) : Submitted send now request q (false, p, [request])
  | registered (p : PendingDbTasks) (hfresh : q.tasks.lookup request.head.taskId = none)
      (hsend : isInvalid (send request) = false)
      (htasks : p.tasks = q.tasks.insert request.head.taskId
        (dispatch { request } now (send request))) :
    Submitted send now request q (true, p, [request])

theorem submit_spec {request : Msg} {send : Sender} {fresh : Nat}
    {out : Bool × PendingDbTasks × List Msg}
    (h : p.submit request now send fresh victim = some out) :
    out = (false, p, []) ∨ (isDbTask request.head.msgType = true ∧ ∃ q,
      p.makeRoom (if request.head.taskId = 0 then fresh else request.head.taskId) now victim =
        some (some q) ∧
      Submitted send now { request with head := { request.head with
        taskId := if request.head.taskId = 0 then fresh else request.head.taskId } } q out) := by
  unfold submit at h
  split at h
  · cases h
    exact .inl rfl
  rename_i htype
  simp only [Bool.not_eq_true', Bool.not_eq_false] at htype
  obtain ⟨room, hroom, hout⟩ := Option.map_eq_some_iff.mp h
  cases room with
  | none => exact .inl hout.symm
  | some q =>
    refine .inr ⟨htype, q, hroom, ?_⟩
    revert hout
    generalize (if request.head.taskId = 0 then fresh else request.head.taskId) = id
    intro hout
    simp only at hout
    split at hout
    · rename_i task htask
      subst hout
      exact .known task htask _ rfl
    · rename_i htask
      split at hout
      · rename_i hsend
        subst hout
        exact .invalid _ (by simp) htask hsend
      · rename_i hsend
        subst hout
        exact .registered _ htask (by simpa using hsend) rfl

/-- A task that is new to a table with room is registered, and handed to the bus. -/
theorem submit_new {request : Msg} {send : Sender} {fresh : Nat}
    (htype : isDbTask request.head.msgType = true) (hid : request.head.taskId ≠ 0)
    (hroom : p.makeRoom request.head.taskId now victim = some (some q))
    (hfresh : q.tasks.lookup request.head.taskId = none)
    (hgood : isInvalid (send request) = false) :
    p.submit request now send fresh victim =
      some (true,
        { q.activate request.head.taskId with
          tasks := q.tasks.insert request.head.taskId (dispatch { request } now (send request)) },
        [request]) := by
  have hkey : (if request.head.taskId = 0 then fresh else request.head.taskId) =
      request.head.taskId := if_neg hid
  have hself : { request with head := { request.head with taskId := request.head.taskId } } =
      request := rfl
  unfold submit
  simp only [hkey, hself, htype, Bool.not_true, Bool.false_eq_true, if_false, hroom, hgood,
    Option.map_some]
  rw [hkey, hfresh]

/-- What every round of a pass preserves, the pass preserves. -/
theorem scanIds_induction {advance : Task → Task × List Msg} (P : Table Nat Task → List Msg → Prop)
    (hstep : ∀ tasks sent id task, tasks.lookup id = some task → P tasks sent →
      P (tasks.insert id (advance task).1) (sent ++ (advance task).2))
    {ids kept : List Nat} {tasks tasks' : Table Nat Task} {before sent : List Msg}
    (h : P tasks before) (hscan : scanIds advance ids tasks = some (tasks', kept, sent)) :
    P tasks' (before ++ sent) := by
  induction ids generalizing tasks before kept sent with
  | nil =>
    cases hscan
    simpa using h
  | cons id ids ih =>
    unfold scanIds at hscan
    split at hscan
    · cases hscan
    rename_i task htask
    obtain ⟨⟨tasks₁, kept₁, sent₁⟩, hrest, heq⟩ := Option.map_eq_some_iff.mp hscan
    cases heq
    rw [← List.append_assoc]
    exact ih (hstep tasks before id task htask h) hrest

theorem scan_induction {advance : Task → Task × List Msg} (P : Table Nat Task → List Msg → Prop)
    (hstep : ∀ tasks sent id task, tasks.lookup id = some task → P tasks sent →
      P (tasks.insert id (advance task).1) (sent ++ (advance task).2))
    {sent : List Msg} (h : P p.tasks []) (hscan : p.scan advance = some (p', sent)) :
    P p'.tasks sent := by
  unfold scan at hscan
  split at hscan
  · obtain ⟨⟨tasks, kept, sent₁⟩, hrest, heq⟩ := Option.map_eq_some_iff.mp hscan
    cases heq
    exact scanIds_induction P hstep h hrest
  · obtain ⟨⟨tasks, kept, sent₁⟩, hrest, heq⟩ := Option.map_eq_some_iff.mp hscan
    cases heq
    exact scanIds_induction P hstep h hrest

/-- `complete` takes the result of a task that waits for it, or changes nothing. -/
theorem complete_spec (result : Msg) :
    p.complete result now = (false, p) ∨
      ∃ task, p.tasks.lookup result.head.taskId = some task ∧ task.state = .awaitResult ∧
        answers task.request result = true ∧
        p.complete result now = (true, { p with
          tasks := p.tasks.insert result.head.taskId
            { task with
              state := .completed
              completedAt := now
              result := result
              ackPending := true
              nextTryAt := 0 } }) := by
  unfold complete
  cases htask : p.tasks.lookup result.head.taskId with
  | none => exact .inl rfl
  | some task =>
    simp only
    split
    · exact .inl rfl
    · rename_i hok
      simp only [not_or, not_not, ne_eq, Bool.not_eq_true', Bool.not_eq_false] at hok
      exact .inr ⟨task, rfl, hok.1, hok.2, rfl⟩

/-- `acknowledgeDuplicate` and `observeStatus` leave request, state and result of a record. -/
theorem acknowledgeDuplicate_spec (result : Msg) :
    (p.acknowledgeDuplicate result).2 = p ∨
      ∃ task, p.tasks.lookup result.head.taskId = some task ∧
        (p.acknowledgeDuplicate result).2.tasks = p.tasks.insert result.head.taskId
          { task with ackPending := true, nextTryAt := 0 } := by
  unfold acknowledgeDuplicate
  cases htask : p.tasks.lookup result.head.taskId with
  | none => exact .inl rfl
  | some task =>
    simp only
    split
    · exact .inl rfl
    · exact .inr ⟨task, rfl, rfl⟩

theorem observeStatus_spec (status : Msg) :
    (p.observeStatus status).2 = p ∨
      ∃ task value, p.tasks.lookup status.head.taskId = some task ∧
        (p.observeStatus status).2.tasks = p.tasks.insert status.head.taskId
          { task with observedStatus := value } := by
  unfold observeStatus
  split
  · rename_i task value htask _
    split
    · exact .inl rfl
    simp only
    split
    · exact .inl rfl
    · exact .inr ⟨task, _, htask, rfl⟩
  · exact .inl rfl

end PendingDbTasks

namespace DbResultLedger

variable {l l' : DbResultLedger} {victim evicted : Nat} {now : Int}

/-- `hasCapacity` finds room, or makes it by evicting an acknowledged entry. -/
theorem hasCapacity_spec {ok : Bool} (h : l.hasCapacity victim = some (ok, evicted, l')) :
    (evicted = 0 ∧ l' = l ∧ (ok = true → l.load < l.capacity)) ∨
      (ok = true ∧ evicted = victim ∧ l.capacity ≤ l.load ∧ ∃ entry,
        l.entries.lookup victim = some entry ∧ entry.acknowledged = true ∧
        l' = { l with entries := l.entries.erase victim }) := by
  unfold hasCapacity at h
  split at h
  · rename_i hroom
    cases h
    exact .inl ⟨rfl, rfl, fun _ => hroom⟩
  rename_i hfull
  split at h
  · split at h
    · cases h
    rename_i entry hentry
    split at h
    · rename_i hack
      cases h
      exact .inr ⟨rfl, rfl, Nat.not_lt.mp hfull, entry, hentry, hack, rfl⟩
    · cases h
  · cases h
    exact .inl ⟨rfl, rfl, nofun⟩

theorem accept_new {request : Msg} (hid : request.head.taskId ≠ 0)
    (hfresh : l.entries.lookup request.head.taskId = none) :
    l.accept request =
      (.new, { l with entries := l.entries.insert request.head.taskId { request } }) := by
  unfold accept
  rw [if_neg hid, hfresh]

/-- A request that has its entry is admitted as a duplicate; its result is to be sent again. -/
theorem accept_duplicate {request : Msg} {x : LedgerEntry} (hid : request.head.taskId ≠ 0)
    (hx : l.entries.lookup request.head.taskId = some x) (hsame : same x.request request = true) :
    ∃ x', x'.request = x.request ∧ x'.result = x.result ∧ x'.ready = x.ready ∧
      x'.acknowledged = (!x.ready && x.acknowledged) ∧
      (l.accept request = (.duplicate, l) ∨ l.accept request =
        (.duplicate, { l with entries := l.entries.insert request.head.taskId x' })) := by
  refine ⟨{ x with
    delivered := false, nextSendAt := 0, acknowledged := !x.ready && x.acknowledged }, rfl, rfl, rfl,
    rfl, ?_⟩
  unfold accept
  rw [if_neg hid, hx]
  simp only [hsame, Bool.not_true, Bool.false_eq_true, if_false]
  split
  · rename_i hready
    exact .inr (by simp [hready])
  · exact .inl rfl

/-- A control message changes the marks of the entry it is about; only an acknowledgement of a
finished entry makes it acknowledged. -/
theorem handleControl_spec (m : Msg) :
    (l.handleControl m).2 = l ∨
      ∃ entry entry', l.entries.lookup m.head.taskId = some entry ∧
        same entry.request (controlled m) = true ∧ entry'.request = entry.request ∧
        entry'.result = entry.result ∧ entry'.ready = entry.ready ∧
        (entry'.acknowledged = true → m.head.dbControl = 1 ∧ entry.ready = true) ∧
        (l.handleControl m).2 = { l with entries := l.entries.insert m.head.taskId entry' } := by
  unfold handleControl
  split
  · exact .inl rfl
  cases hentry : l.entries.lookup m.head.taskId with
  | none => exact .inl rfl
  | some entry =>
    simp only
    split
    · exact .inl rfl
    rename_i hsame
    simp only [Bool.not_eq_true', Bool.not_eq_false] at hsame
    split
    · rename_i hack
      exact .inr ⟨entry, { entry with acknowledged := true }, rfl, hsame, rfl, rfl, rfl,
        fun _ => hack, rfl⟩
    split
    · exact .inr ⟨entry, { entry with nextSendAt := 0, delivered := false, acknowledged := false },
        rfl, hsame, rfl, rfl, rfl, (by simp), rfl⟩
    · exact .inl rfl

/-- The rows of the ledger after a flush. -/
theorem lookup_flush (send : Nat → Sender) (id : Nat) :
    (l.flush now send).1.entries.lookup id = (l.entries.lookup id).map fun entry =>
      flushEntry now (send 0 entry.result) entry :=
  Table.lookup_mapVals _ _ _

theorem flushEntry_spec (verdict : DispatchResult) (entry : LedgerEntry) :
    (flushEntry now verdict entry).request = entry.request ∧
      (flushEntry now verdict entry).result = entry.result ∧
      (flushEntry now verdict entry).ready = entry.ready ∧
      (flushEntry now verdict entry).acknowledged = entry.acknowledged := by
  unfold flushEntry
  split <;> exact ⟨rfl, rfl, rfl, rfl⟩

theorem mem_flush_sent {send : Nat → Sender} {m : Msg} (h : m ∈ (l.flush now send).2.1) :
    ∃ id entry, l.entries.lookup id = some entry ∧ entry.ready = true ∧ entry.result = m := by
  obtain ⟨r, hr, rfl⟩ := List.mem_map.mp h
  obtain ⟨hmem, hdue⟩ := List.mem_filter.mp hr
  exact ⟨r.1, r.2, Table.lookup_of_mem hmem, (of_decide_eq_true hdue).1, rfl⟩

theorem mem_flush_legacy {send : Nat → Sender} {m : Msg}
    (h : m ∈ (l.flush now send).1.legacy ∨ m ∈ (l.flush now send).2.2) : m ∈ l.legacy := by
  have hmem : ∀ p : Msg × Nat → Bool, m ∈ (l.legacy.zipIdx.filter p).map (·.1) → m ∈ l.legacy := by
    intro p hp
    obtain ⟨⟨x, i⟩, hx, rfl⟩ := List.mem_map.mp hp
    exact List.fst_mem_of_mem_zipIdx (List.mem_filter.mp hx).1
  exact h.elim (hmem _) (hmem _)

theorem load_flush_le (send : Nat → Sender) : (l.flush now send).1.load ≤ l.load := by
  unfold load flush
  simp only [Table.size_mapVals, List.length_map]
  refine Nat.add_le_add_left ?_ _
  exact le_of_le_of_eq (List.length_filter_le _ _) List.length_zipIdx

end DbResultLedger

end Db
