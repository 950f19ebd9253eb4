import GameServer.Db.DeliverySpec
import GameServer.Lua.DbCallbacks

/-!
# What becomes of a task

A task is live until its result comes. The passes over the table keep it so, because the bus
refuses a request for good only when it is first asked. A record that gives way to another one
is not live.
-/

namespace Db

namespace DbSystem

/-- Whether a request is refused for good does not depend on the queue. -/
theorem isInvalid_sendToDb (cfg : DeliveryConfig) (room room' : Msg → Bool) (m : Msg) :
    isInvalid (sendToDb cfg room m) = isInvalid (sendToDb cfg room' m) := by
  unfold sendToDb
  split
  · rfl
  split
  · rfl
  · cases room m <;> cases room' m <;> rfl

end DbSystem

/-- No result has come for the task yet, and one may still come. -/
def Task.Live (t : Task) : Prop := t.state = .pendingDispatch ∨ t.state = .awaitResult

instance (t : Task) : Decidable t.Live := inferInstanceAs (Decidable (_ ∨ _))

namespace PendingDbTasks

variable {p p' q : PendingDbTasks} {now : Int} {cfg : DeliveryConfig} {room : Msg → Bool}

/-- The records are those from before, with the same requests and the same of them live; some
that are not live may be missing. -/
structure Persists (p q : Table Nat Task) : Prop where
  old : ∀ id task', q.lookup id = some task' → ∃ task, p.lookup id = some task ∧
    task'.request = task.request ∧ (task'.Live ↔ task.Live)
  live : ∀ id task, p.lookup id = some task → task.Live → ∃ task', q.lookup id = some task'

theorem Persists.refl (p : Table Nat Task) : Persists p p :=
  ⟨fun _ task h => ⟨task, h, rfl, .rfl⟩, fun _ task h _ => ⟨task, h⟩⟩

theorem Persists.trans {p q r : Table Nat Task} (h : Persists p q) (h' : Persists q r) :
    Persists p r where
  old id task'' hlook := by
    obtain ⟨task', hlook', hreq', hlive'⟩ := h'.old id task'' hlook
    obtain ⟨task, hlook, hreq, hlive⟩ := h.old id task' hlook'
    exact ⟨task, hlook, hreq'.trans hreq, hlive'.trans hlive⟩
  live id task hlook hlive := by
    obtain ⟨task', hlook'⟩ := h.live id task hlook hlive
    obtain ⟨task₀, hlook₀, -, hiff⟩ := h.old id task' hlook'
    cases hlook.symm.trans hlook₀
    exact h'.live id task' hlook' (hiff.mpr hlive)

theorem Persists.insert {p : Table Nat Task} {id : Nat} {task task' : Task}
    (hlook : p.lookup id = some task) (hreq : task'.request = task.request)
    (hlive : task'.Live ↔ task.Live) : Persists p (p.insert id task') where
  old j t hj := by
    rw [Table.lookup_insert] at hj
    split at hj
    · rename_i heq
      cases hj
      exact ⟨task, heq ▸ hlook, hreq, hlive⟩
    · exact ⟨t, hj, rfl, .rfl⟩
  live j t hj _ := by
    rw [Table.lookup_insert]
    split
    · exact ⟨_, rfl⟩
    · exact ⟨t, hj⟩

theorem Persists.erase {p : Table Nat Task} {id : Nat} {task : Task}
    (hlook : p.lookup id = some task) (hlive : ¬ task.Live) : Persists p (p.erase id) where
  old j t hj := by
    rw [Table.lookup_erase] at hj
    split at hj
    · cases hj
    · exact ⟨t, hj, rfl, .rfl⟩
  live j t hj ht := by
    rw [Table.lookup_erase]
    split
    · rename_i heq
      subst heq
      cases hlook.symm.trans hj
      exact absurd ht hlive
    · exact ⟨t, hj⟩

theorem Persists.scan {advance : Task → Task × List Msg} {sent : List Msg}
    (hadvance : ∀ id task task', p.tasks.lookup id = some task → task'.request = task.request →
      (advance task').1.request = task'.request ∧ ((advance task').1.Live ↔ task'.Live))
    (h : p.scan advance = some (p', sent)) : Persists p.tasks p'.tasks := by
  refine scan_induction (fun tasks _ => Persists p.tasks tasks) (fun tasks _ id task hlook hf => ?_)
    (.refl _) h
  obtain ⟨task₀, hlook₀, hreq, -⟩ := hf.old id task hlook
  obtain ⟨hreq', hlive'⟩ := hadvance id task₀ task hlook₀ hreq
  exact hf.trans (.insert hlook hreq' hlive')

/-- The bus has not refused the request for good. -/
def Sendable (cfg : DeliveryConfig) (request : Msg) : Prop :=
  isInvalid (DbSystem.sendToDb cfg (fun _ => true) request) = false

theorem Sendable.send {request : Msg} (h : Sendable cfg request) (room : Msg → Bool) :
    isInvalid (DbSystem.sendToDb cfg room request) = false :=
  (DbSystem.isInvalid_sendToDb cfg room _ request).trans h

theorem live_dispatch {task : Task} {verdict : DispatchResult} (h : isInvalid verdict = false)
    (hlive : task.Live) : (dispatch task now verdict).Live := by
  unfold dispatch Task.Live at *
  simp only [h, Bool.false_eq_true, if_false]
  split
  · exact .inr rfl
  · exact hlive

theorem tick_persists {sent : List Msg}
    (hsend : ∀ id task, p.tasks.lookup id = some task → Sendable cfg task.request)
    (h : p.tick now (DbSystem.sendToDb cfg room) = some (p', sent)) :
    Persists p.tasks p'.tasks := by
  refine Persists.scan (fun id task task' hlook hreq => ?_) h
  unfold tickTask
  split
  · rename_i hdue
    have hvalid := (hreq ▸ hsend id task hlook : Sendable cfg task'.request).send room
    exact ⟨rfl, iff_of_true (live_dispatch hvalid (.inl hdue.1)) (.inl hdue.1)⟩
  · exact ⟨rfl, .rfl⟩

theorem tickControls_persists {send : Sender} {sent : List Msg}
    (h : p.tickControls now send = some (p', sent)) : Persists p.tasks p'.tasks := by
  refine Persists.scan (fun _ _ task' _ _ => ?_) h
  unfold controlTask
  split
  · exact ⟨rfl, .rfl⟩
  split
  · exact ⟨rfl, .rfl⟩
  split
  · exact ⟨rfl, .rfl⟩
  · exact ⟨rfl, .rfl⟩

theorem acknowledgeDuplicate_persists (result : Msg) :
    Persists p.tasks (p.acknowledgeDuplicate result).2.tasks := by
  rcases p.acknowledgeDuplicate_spec result with h | ⟨task, hlook, h⟩
  · rw [h]
    exact .refl _
  · rw [h]
    exact .insert hlook rfl .rfl

theorem observeStatus_persists (status : Msg) :
    Persists p.tasks (p.observeStatus status).2.tasks := by
  rcases p.observeStatus_spec status with h | ⟨task, value, hlook, h⟩
  · rw [h]
    exact .refl _
  · rw [h]
    exact .insert hlook rfl .rfl

/-- A message settles a task that waits for it. -/
def Settles (p : PendingDbTasks) (m : Msg) : Prop :=
  ∃ task, p.tasks.lookup m.head.taskId = some task ∧ task.state = .awaitResult ∧
    answers task.request m = true

theorem complete_iff (m : Msg) (now : Int) : (p.complete m now).1 = true ↔ p.Settles m := by
  unfold complete Settles
  cases p.tasks.lookup m.head.taskId with
  | none => simp
  | some task =>
    dsimp only
    split
    · rename_i hno
      refine iff_of_false Bool.false_ne_true ?_
      rintro ⟨task', heq, hstate, hans⟩
      cases heq
      simp [hstate, hans] at hno
    · rename_i hyes
      simp only [not_or, not_not, ne_eq, Bool.not_eq_true', Bool.not_eq_false] at hyes
      exact iff_of_true rfl ⟨task, rfl, hyes.1, hyes.2⟩

/-! ### Taking a task -/

/-- There is room for one record more. -/
def HasRoom (p : PendingDbTasks) (now : Int) : Prop :=
  p.tasks.size < kMaxTasks ∨ p.anyEvictable now = true

instance (p : PendingDbTasks) (now : Int) : Decidable (p.HasRoom now) :=
  inferInstanceAs (Decidable (_ ∨ _))

/-- The record that gives way may do so. -/
theorem victim_evictable (h : p.anyEvictable now = true) (named : Nat) :
    ∃ task, p.tasks.lookup (p.victim now named) = some task ∧ evictable now task = true := by
  unfold victim
  by_cases hnamed : (p.tasks.lookup named).any (evictable now) = true
  · rw [if_pos hnamed]
    obtain ⟨task, hlook, hev⟩ := (Option.any_eq_true ..).mp hnamed
    exact ⟨task, hlook, hev⟩
  · rw [if_neg hnamed]
    obtain ⟨r, hr, hev⟩ := List.any_eq_true.mp h
    cases hfind : p.tasks.entries.find? fun r => evictable now r.2 with
    | none => exact absurd hev (by simpa using List.find?_eq_none.mp hfind r hr)
    | some found =>
      have hfound := List.find?_some hfind
      exact ⟨found.2, Table.lookup_of_mem (List.mem_of_find?_eq_some hfind), hfound⟩

/-- With that record, a table makes room exactly if it has it; only a record that is not live is
lost. -/
theorem makeRoom_victim (now : Int) {id : Nat} (named : Nat) (hid : p.tasks.lookup id = none) :
    (p.HasRoom now ∧ ∃ q, p.makeRoom id now (p.victim now named) = some (some q) ∧
      Persists p.tasks q.tasks) ∨
    (¬ p.HasRoom now ∧ p.makeRoom id now (p.victim now named) = some none) := by
  unfold makeRoom HasRoom
  rw [hid]
  by_cases hsize : p.tasks.size < kMaxTasks
  · refine .inl ⟨.inl hsize, p, ?_, .refl _⟩
    rw [if_pos (.inl hsize)]
  rw [if_neg (by simpa using hsize)]
  by_cases hany : p.anyEvictable now = true
  · obtain ⟨task, hlook, hev⟩ := victim_evictable hany named
    refine .inl ⟨.inr hany, { p.deactivate (p.victim now named) with
      tasks := p.tasks.erase (p.victim now named) }, ?_, .erase hlook ?_⟩
    · rw [if_pos hany, hlook]
      exact if_pos hev
    · rintro (hs | hs) <;> simp [evictable, hs] at hev
  · refine .inr ⟨?_, if_neg hany⟩
    rintro (h | h)
    · exact hsize h
    · exact hany h

/-- A task whose number the table knows changes nothing. -/
theorem submit_known (p : PendingDbTasks) (request : Msg) (now : Int) (send : Sender)
    (fresh victim : Nat) {id : Nat} {task : Task}
    (hid : id = if request.head.taskId = 0 then fresh else request.head.taskId)
    (hlook : p.tasks.lookup id = some task) :
    ∃ ok, p.submit request now send fresh victim = some (ok, p, []) := by
  unfold submit
  split
  · exact ⟨false, rfl⟩
  · rw [← hid]
    dsimp only
    rw [show p.makeRoom id now victim = some (some p) from if_pos (.inr (by rw [hlook]; rfl))]
    rw [Option.map_some]
    dsimp only
    rw [hlook]
    exact ⟨_, rfl⟩

/-- A database task under a number that the table does not know is taken if there is room and
the bus does not refuse it for good. -/
theorem submit_fresh (p : PendingDbTasks) (request : Msg) (now : Int) (cfg : DeliveryConfig)
    (room : Msg → Bool) (fresh named : Nat) {id : Nat}
    (htype : isDbTask request.head.msgType = true)
    (hid : id = if request.head.taskId = 0 then fresh else request.head.taskId)
    (hlook : p.tasks.lookup id = none) :
    ∃ ok q sent, p.submit request now (DbSystem.sendToDb cfg room) fresh (p.victim now named) =
        some (ok, q, sent) ∧
      let m := { request with head := { request.head with taskId := id } }
      (ok = true ↔ p.HasRoom now ∧ Sendable cfg m) ∧
      ∃ r, Persists p.tasks r ∧ (ok = false → q.tasks = r) ∧
        (ok = true → ∃ task : Task, task.request = m ∧ task.Live ∧
          q.tasks = r.insert id task) := by
  have hvalid : ∀ m, isInvalid (DbSystem.sendToDb cfg room m) = false ↔ Sendable cfg m := fun m => by
    unfold Sendable
    rw [DbSystem.isInvalid_sendToDb cfg room (fun _ => true)]
  unfold submit
  rw [if_neg (by simp [htype]), ← hid]
  dsimp only
  rcases makeRoom_victim now named hlook with ⟨hroom, q, hmake, hpersists⟩ | ⟨hroom, hmake⟩
  · rw [hmake, Option.map_some]
    have hnone : q.tasks.lookup id = none := by
      rw [Option.eq_none_iff_forall_ne_some]
      intro task' hlook'
      obtain ⟨task, hold, -⟩ := hpersists.old id task' hlook'
      rw [hlook] at hold
      cases hold
    dsimp only
    rw [hnone]
    dsimp only
    split
    · rename_i hinv
      refine ⟨false, _, _, rfl, ?_, q.tasks, hpersists,
        fun _ => tasks_deactivate.trans tasks_activate, nofun⟩
      refine iff_of_false (by decide) fun h => ?_
      rw [(hvalid _).mpr h.2] at hinv
      cases hinv
    · rename_i hinv
      rw [Bool.not_eq_true] at hinv
      exact ⟨true, _, _, rfl, iff_of_true rfl ⟨hroom, (hvalid _).mp hinv⟩, q.tasks, hpersists, nofun,
        fun _ => ⟨_, rfl, live_dispatch hinv (.inl rfl), rfl⟩⟩
  · rw [hmake, Option.map_some]
    exact ⟨false, p, [], rfl, iff_of_false (by decide) fun h => hroom h.1, p.tasks, .refl _,
      fun _ => rfl, nofun⟩

end PendingDbTasks

end Db
