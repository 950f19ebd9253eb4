import GameServer.Lib.Run
import GameServer.Db.DeliverySpec

/-!
# The active index and the scan

A task table schedules its records over the whole table or over an index of the
records that need it. Here a table with the index is run beside one without it:
the same calls give the same records, the same answers and the same messages, in
some order.
-/

namespace Db

namespace PendingDbTasks

inductive Call where
  | submit (request : Msg) (now : Int) (fresh victim : Nat)
  | tick (now : Int)
  | tickControls (now : Int)
  | complete (result : Msg) (now : Int)
  | acknowledgeDuplicate (result : Msg)
  | observeStatus (status : Msg)

/-- What a call gives its caller, and what it hands to the sender. -/
structure Answer where
  value : Option Bool := none
  sent : List Msg := []
  deriving DecidableEq, Repr

/-- A call, with the answers so far. -/
def call (send : Int → Sender) (s : PendingDbTasks × List Answer) :
    Call → Option (PendingDbTasks × List Answer)
  | .submit request now fresh victim =>
    (s.1.submit request now (send now) fresh victim).map fun (ok, p, sent) =>
      (p, s.2 ++ [{ value := ok, sent }])
  | .tick now => (s.1.tick now (send now)).map fun (p, sent) => (p, s.2 ++ [{ sent }])
  | .tickControls now =>
    (s.1.tickControls now (send now)).map fun (p, sent) => (p, s.2 ++ [{ sent }])
  | .complete result now =>
    let out := s.1.complete result now
    some (out.2, s.2 ++ [{ value := out.1 }])
  | .acknowledgeDuplicate result =>
    let out := s.1.acknowledgeDuplicate result
    some (out.2, s.2 ++ [{ value := out.1 }])
  | .observeStatus status =>
    let out := s.1.observeStatus status
    some (out.2, s.2 ++ [{ value := out.1 }])

/-- If a record has to make room, the one that is named can. -/
def Chosen (s : PendingDbTasks × List Answer) : Call → Prop
  | .submit request now fresh victim => isDbTask request.head.msgType = true →
    (s.1.makeRoom (if request.head.taskId = 0 then fresh else request.head.taskId) now
      victim).isSome = true
  | _ => True

/-- The table with the index has the records of the other, and the index has those that need
scheduling. -/
structure Mirrors (p q : PendingDbTasks) : Prop where
  indexed : p.indexed = true
  scanned : q.indexed = false
  rows : ∀ id, p.tasks.lookup id = q.tasks.lookup id
  nodup : p.active.Nodup
  known : ∀ id ∈ p.active, ∃ task, p.tasks.lookup id = some task
  needed : ∀ id task, p.tasks.lookup id = some task → needsScheduling task = true → id ∈ p.active

def SameAnswer (a b : Answer) : Prop := a.value = b.value ∧ a.sent.Perm b.sent

variable {p q : PendingDbTasks} {now : Int} {send : Sender} {id victim : Nat} {task task' : Task}

section Idle

/-- A record that needs no scheduling is left alone by both passes. -/
theorem tickTask_idle (h : needsScheduling task = false) : tickTask now send task = (task, []) := by
  unfold tickTask
  rw [if_neg]
  rintro ⟨hpending, -⟩
  simp [needsScheduling, hpending] at h

theorem controlTask_idle (h : needsScheduling task = false) :
    controlTask now send task = (task, []) := by
  simp only [needsScheduling, decide_eq_false_iff_not, not_or] at h
  obtain ⟨-, hawait, hack⟩ := h
  unfold controlTask
  rw [if_neg hack, if_neg hawait]
  split <;> rfl

end Idle

section Scan

variable {advance : Task → Task × List Msg}

variable (advance) in
/-- The pass over a list of known numbers without repetitions. -/
theorem scanIds_spec {ids : List Nat} {tasks : Table Nat Task} (hnd : ids.Nodup)
    (hknown : ∀ id ∈ ids, ∃ task, tasks.lookup id = some task) :
    ∃ tasks', scanIds advance ids tasks =
        some (tasks', ids.filter fun id => (tasks.lookup id).any fun t => needsScheduling (advance t).1,
          ids.flatMap fun id => ((tasks.lookup id).map fun t => (advance t).2).getD []) ∧
      ∀ id, tasks'.lookup id =
        if id ∈ ids then (tasks.lookup id).map fun t => (advance t).1 else tasks.lookup id := by
  induction ids generalizing tasks with
  | nil => exact ⟨tasks, rfl, by simp⟩
  | cons id ids ih =>
    obtain ⟨task, htask⟩ := hknown id List.mem_cons_self
    obtain ⟨hid, hnd⟩ := List.nodup_cons.mp hnd
    have hother : ∀ j ∈ ids, AList.lookup j (AList.insert id (advance task).1 tasks) =
        tasks.lookup j := by
      intro j hj
      rw [Table.lookup_insert, if_neg]
      rintro rfl
      exact hid hj
    obtain ⟨tasks', hscan, hrows⟩ := @ih (tasks.insert id (advance task).1) hnd
      fun j hj => by
        rw [hother j hj]
        exact hknown j (List.mem_cons_of_mem _ hj)
    refine ⟨tasks', ?_, fun j => ?_⟩
    · unfold scanIds
      simp only [htask, hscan, Option.map_some, Option.some.injEq, Prod.mk.injEq, true_and]
      refine ⟨?_, ?_⟩
      · rw [List.filter_cons, htask, List.filter_congr fun j hj => by rw [hother j hj]]
        simp
      · rw [List.flatMap_cons, htask]
        congr 1
        exact List.flatMap_congr fun j hj => by rw [hother j hj]
    · rw [hrows, Table.lookup_insert]
      by_cases hj : j = id
      · subst hj
        simp [hid, htask]
      · simp [hj]

/-- Numbers that give nothing can be left out. -/
theorem flatMap_perm {ids all : List Nat} {f : Nat → List Msg} (hids : ids.Nodup)
    (hall : all.Nodup) (hsub : ∀ id ∈ ids, id ∈ all) (hnil : ∀ id ∈ all, id ∉ ids → f id = []) :
    (ids.flatMap f).Perm (all.flatMap f) := by
  have hperm : ids.Perm (all.filter (· ∈ ids)) := by
    refine (List.perm_ext_iff_of_nodup hids (hall.filter _)).mpr fun id => ?_
    simp only [List.mem_filter, decide_eq_true_eq]
    exact ⟨fun h => ⟨hsub id h, h⟩, And.right⟩
  have hdrop : (all.filter (· ∈ ids)).flatMap f = all.flatMap f := by
    clear hperm hsub hall
    induction all with
    | nil => rfl
    | cons id all ih =>
      have ih := ih fun j hj => hnil j (List.mem_cons_of_mem _ hj)
      by_cases hid : id ∈ ids
      · simp [hid, ih]
      · simp [hid, ih, hnil id List.mem_cons_self hid]
  rw [← hdrop]
  exact hperm.flatMap_right f

/-- A pass that leaves the idle records alone does the same with and without the index. -/
theorem Mirrors.scan (h : Mirrors p q)
    (hidle : ∀ task, needsScheduling task = false → advance task = (task, [])) :
    ∃ p' q' sent sent', p.scan advance = some (p', sent) ∧ q.scan advance = some (q', sent') ∧
      Mirrors p' q' ∧ sent.Perm sent' := by
  obtain ⟨tasks, hscan, hrows⟩ := scanIds_spec advance h.nodup h.known
  obtain ⟨tasks', hscan', hrows'⟩ := scanIds_spec advance q.tasks.keys_nodup
    fun id hid => Table.mem_keys_iff.mp hid
  have hskip : ∀ id task, p.tasks.lookup id = some task → id ∉ p.active →
      advance task = (task, []) := by
    intro id task htask hid
    refine hidle task ?_
    by_contra hneeds
    exact hid (h.needed id task htask (Bool.not_eq_false _ ▸ hneeds))
  refine ⟨_, _, _, _, by unfold PendingDbTasks.scan; rw [if_pos h.indexed, hscan]; rfl,
    by unfold PendingDbTasks.scan; rw [if_neg (by simp [h.scanned]), hscan']; rfl, ?_, ?_⟩
  · refine ⟨h.indexed, h.scanned, fun id => ?_, h.nodup.filter _, fun id hid => ?_,
      fun id task htask hneeds => ?_⟩
    · simp only [hrows, hrows', ← h.rows]
      cases htask : p.tasks.lookup id with
      | none => simp
      | some task =>
        have hkey : id ∈ q.tasks.keys := Table.mem_keys_iff.mpr ⟨task, h.rows id ▸ htask⟩
        rw [if_pos hkey]
        by_cases hid : id ∈ p.active
        · rw [if_pos hid]
        · rw [if_neg hid, Option.map_some, hskip id task htask hid]
    · obtain ⟨hid, hkept⟩ := List.mem_filter.mp hid
      obtain ⟨task, htask⟩ := h.known id hid
      exact ⟨(advance task).1, by rw [hrows, if_pos hid, htask]; rfl⟩
    · rw [hrows] at htask
      split at htask
      · rename_i hid
        obtain ⟨t, ht, rfl⟩ := Option.map_eq_some_iff.mp htask
        exact List.mem_filter.mpr ⟨hid, by rw [ht]; exact hneeds⟩
      · rename_i hid
        exact absurd (h.needed id task htask hneeds) hid
  · have hsame : (q.tasks.keys.flatMap fun id =>
        ((q.tasks.lookup id).map fun t => (advance t).2).getD []) =
        q.tasks.keys.flatMap fun id => ((p.tasks.lookup id).map fun t => (advance t).2).getD [] :=
      List.flatMap_congr fun id _ => by rw [h.rows]
    rw [hsame]
    refine flatMap_perm h.nodup q.tasks.keys_nodup (fun id hid => ?_) fun id _ hid => ?_
    · obtain ⟨task, htask⟩ := h.known id hid
      exact Table.mem_keys_iff.mpr ⟨task, h.rows id ▸ htask⟩
    · cases htask : p.tasks.lookup id with
      | none => rfl
      | some task =>
        rw [Option.map_some, hskip id task htask hid]
        rfl

end Scan

section Rows

theorem active_activate (hi : p.indexed = true) :
    (p.activate id).active = if id ∈ p.active then p.active else id :: p.active := by
  unfold activate
  rw [if_pos hi]

theorem active_deactivate (hi : p.indexed = true) :
    (p.deactivate id).active = p.active.filter (· ≠ id) := by
  unfold deactivate
  rw [if_pos hi]

theorem indexed_activate : (p.activate id).indexed = p.indexed := by
  unfold activate
  split <;> rfl

theorem indexed_deactivate : (p.deactivate id).indexed = p.indexed := by
  unfold deactivate
  split <;> rfl

theorem mem_activate (hi : p.indexed = true) (j : Nat) :
    j ∈ (p.activate id).active ↔ j = id ∨ j ∈ p.active := by
  rw [active_activate hi]
  split
  · rename_i hid
    refine ⟨.inr, ?_⟩
    rintro (rfl | hj)
    · exact hid
    · exact hj
  · exact List.mem_cons

theorem nodup_activate (hi : p.indexed = true) (hnd : p.active.Nodup) :
    (p.activate id).active.Nodup := by
  rw [active_activate hi]
  split
  · exact hnd
  · rename_i hid
    exact List.nodup_cons.mpr ⟨hid, hnd⟩

/-- A record is written and its number joins the index. -/
theorem Mirrors.put (h : Mirrors p q) (id : Nat) (task : Task) :
    Mirrors { p.activate id with tasks := p.tasks.insert id task }
      { q.activate id with tasks := q.tasks.insert id task } where
  indexed := indexed_activate.trans h.indexed
  scanned := indexed_activate.trans h.scanned
  rows := fun j => by simp [h.rows]
  nodup := nodup_activate h.indexed h.nodup
  known := fun j hj => by
    simp only [Table.lookup_insert]
    split
    · exact ⟨task, rfl⟩
    · rename_i hne
      exact h.known j (((mem_activate h.indexed j).mp hj).resolve_left hne)
  needed := fun j t ht hneeds => by
    refine (mem_activate h.indexed j).mpr ?_
    simp only [Table.lookup_insert] at ht
    split at ht
    · rename_i heq
      exact .inl heq
    · exact .inr (h.needed j t ht hneeds)

/-- A record that needed scheduling is written again. -/
theorem Mirrors.rewrite (h : Mirrors p q) (htask : p.tasks.lookup id = some task)
    (hneeds : needsScheduling task = true) (task' : Task) :
    Mirrors { p with tasks := p.tasks.insert id task' }
      { q with tasks := q.tasks.insert id task' } := by
  have hid := h.needed id task htask hneeds
  have hp : p.activate id = p := by
    unfold activate
    rw [if_pos h.indexed, if_pos hid]
  have hq : q.activate id = q := by
    unfold activate
    rw [if_neg (by simp [h.scanned])]
  have hput := h.put id task'
  rwa [hp, hq] at hput

/-- A number leaves the index with its record. -/
theorem Mirrors.take (h : Mirrors p q) (id : Nat) :
    Mirrors { p.deactivate id with tasks := p.tasks.erase id }
      { q.deactivate id with tasks := q.tasks.erase id } where
  indexed := indexed_deactivate.trans h.indexed
  scanned := indexed_deactivate.trans h.scanned
  rows := fun j => by simp [h.rows]
  nodup := by
    show (p.deactivate id).active.Nodup
    rw [active_deactivate h.indexed]
    exact h.nodup.filter _
  known := fun j hj => by
    change j ∈ (p.deactivate id).active at hj
    rw [active_deactivate h.indexed, List.mem_filter] at hj
    have hne : j ≠ id := by simpa using hj.2
    simpa [hne] using h.known j hj.1
  needed := fun j t ht hneeds => by
    show j ∈ (p.deactivate id).active
    simp only [Table.lookup_erase] at ht
    split at ht
    · cases ht
    · rename_i hne
      rw [active_deactivate h.indexed, List.mem_filter]
      exact ⟨h.needed j t ht hneeds, by simpa using hne⟩

/-- A number that has no record joins the index and leaves it. -/
theorem Mirrors.withdraw (h : Mirrors p q) (hnone : p.tasks.lookup id = none) :
    Mirrors ((p.activate id).deactivate id) ((q.activate id).deactivate id) := by
  have hi : (p.activate id).indexed = true := indexed_activate.trans h.indexed
  have hmem : ∀ j, j ∈ ((p.activate id).deactivate id).active ↔ j ∈ p.active := by
    intro j
    rw [active_deactivate hi, List.mem_filter, mem_activate h.indexed]
    have hne : j ∈ p.active → j ≠ id := by
      rintro hj rfl
      obtain ⟨t, ht⟩ := h.known j hj
      cases hnone.symm.trans ht
    simp only [ne_eq, decide_not, Bool.not_eq_true', decide_eq_false_iff_not]
    tauto
  exact
    { indexed := indexed_deactivate.trans hi
      scanned := indexed_deactivate.trans (indexed_activate.trans h.scanned)
      rows := fun j => by simp [h.rows]
      nodup := by
        rw [active_deactivate hi]
        exact (nodup_activate h.indexed h.nodup).filter _
      known := fun j hj => by simpa using h.known j ((hmem j).mp hj)
      needed := fun j t ht hneeds => (hmem j).mpr (h.needed j t (by simpa using ht) hneeds) }

/-- Tables with the same rows make room in the same way. -/
theorem Mirrors.makeRoom (h : Mirrors p q) (id : Nat) (now : Int) (victim : Nat) :
    (p.makeRoom id now victim = none ∧ q.makeRoom id now victim = none) ∨
      (p.makeRoom id now victim = some none ∧ q.makeRoom id now victim = some none) ∨
      ∃ p' q', p.makeRoom id now victim = some (some p') ∧
        q.makeRoom id now victim = some (some q') ∧ Mirrors p' q' := by
  have hperm := Table.entries_perm_of_lookup h.rows
  have hsize : p.tasks.size = q.tasks.size := hperm.length_eq
  have hany : p.anyEvictable now = q.anyEvictable now := hperm.any_eq
  unfold PendingDbTasks.makeRoom
  rw [hsize, hany, h.rows id, h.rows victim]
  split
  · exact .inr (.inr ⟨p, q, rfl, rfl, h⟩)
  split
  · cases q.tasks.lookup victim with
    | none => exact .inl ⟨rfl, rfl⟩
    | some task =>
      simp only
      split
      · exact .inr (.inr ⟨_, _, rfl, rfl, h.take victim⟩)
      · exact .inl ⟨rfl, rfl⟩
  · exact .inr (.inl ⟨rfl, rfl⟩)

end Rows

section Calls

variable (send) in
theorem Mirrors.submit (h : Mirrors p q) {request : Msg} {fresh : Nat}
    (hroom : isDbTask request.head.msgType = true → (q.makeRoom
      (if request.head.taskId = 0 then fresh else request.head.taskId) now victim).isSome = true) :
    ∃ ok p' q' sent, p.submit request now send fresh victim = some (ok, p', sent) ∧
      q.submit request now send fresh victim = some (ok, q', sent) ∧ Mirrors p' q' := by
  unfold PendingDbTasks.submit
  split
  · exact ⟨false, p, q, [], rfl, rfl, h⟩
  rename_i htype
  have hroom := hroom (by simpa using htype)
  simp only
  generalize (if request.head.taskId = 0 then fresh else request.head.taskId) = id at *
  rcases h.makeRoom id now victim with ⟨hp, hq⟩ | ⟨hp, hq⟩ | ⟨p', q', hp, hq, h'⟩
  · rw [hq] at hroom
    cases hroom
  · exact ⟨false, p, q, [], by rw [hp]; rfl, by rw [hq]; rfl, h⟩
  simp only [hp, hq, Option.map_some, h'.rows id]
  cases htask : q'.tasks.lookup id with
  | some task => exact ⟨_, p', q', [], rfl, rfl, h'⟩
  | none =>
    simp only
    split
    · exact ⟨_, _, _, _, rfl, rfl, h'.withdraw ((h'.rows id).trans htask)⟩
    · exact ⟨_, _, _, _, rfl, rfl, h'.put id _⟩

theorem Mirrors.complete (h : Mirrors p q) (result : Msg) (now : Int) :
    (p.complete result now).1 = (q.complete result now).1 ∧
      Mirrors (p.complete result now).2 (q.complete result now).2 := by
  unfold PendingDbTasks.complete
  rw [← h.rows]
  cases htask : p.tasks.lookup result.head.taskId with
  | none => exact ⟨rfl, h⟩
  | some task =>
    simp only
    split
    · exact ⟨rfl, h⟩
    · rename_i hok
      simp only [not_or, not_not, ne_eq] at hok
      exact ⟨rfl, h.rewrite htask (by simp [needsScheduling, hok.1]) _⟩

theorem Mirrors.acknowledgeDuplicate (h : Mirrors p q) (result : Msg) :
    (p.acknowledgeDuplicate result).1 = (q.acknowledgeDuplicate result).1 ∧
      Mirrors (p.acknowledgeDuplicate result).2 (q.acknowledgeDuplicate result).2 := by
  unfold PendingDbTasks.acknowledgeDuplicate
  rw [← h.rows]
  cases p.tasks.lookup result.head.taskId with
  | none => exact ⟨rfl, h⟩
  | some task =>
    simp only
    split
    · exact ⟨rfl, h⟩
    · exact ⟨rfl, h.put _ _⟩

theorem Mirrors.observeStatus (h : Mirrors p q) (status : Msg) :
    (p.observeStatus status).1 = (q.observeStatus status).1 ∧
      Mirrors (p.observeStatus status).2 (q.observeStatus status).2 := by
  unfold PendingDbTasks.observeStatus
  rw [← h.rows]
  split
  · rename_i task value htask _
    split
    · exact ⟨rfl, h⟩
    rename_i hok
    simp only [not_or, not_not, ne_eq] at hok
    simp only
    split
    · exact ⟨rfl, h⟩
    · exact ⟨rfl, h.rewrite htask (by simp [needsScheduling, hok.1]) _⟩
  · exact ⟨rfl, h⟩

/-- The two tables after the same calls. -/
structure InStep (s t : PendingDbTasks × List Answer) : Prop where
  mirrors : Mirrors s.1 t.1
  answers : List.Forall₂ SameAnswer s.2 t.2

theorem inStep_start : InStep ({ indexed := true }, []) ({}, []) where
  mirrors := ⟨rfl, rfl, fun _ => rfl, List.nodup_nil, by simp, by simp⟩
  answers := .nil

theorem InStep.append {s t : PendingDbTasks × List Answer} (h : InStep s t) {a b : Answer}
    (hm : Mirrors p q) (hab : SameAnswer a b) : InStep (p, s.2 ++ [a]) (q, t.2 ++ [b]) :=
  ⟨hm, List.rel_append h.answers (.cons hab .nil)⟩

/-- A call keeps the two tables in step. -/
theorem InStep.call {s t : PendingDbTasks × List Answer} (h : InStep s t) (send : Int → Sender)
    {c : Call} (hchosen : Chosen t c) :
    ∃ s' t', call send s c = some s' ∧ call send t c = some t' ∧ InStep s' t' := by
  cases c with
  | submit request now fresh victim =>
    obtain ⟨ok, p, q, sent, hp, hq, hm⟩ := h.mirrors.submit (send now) hchosen
    refine ⟨(p, s.2 ++ [{ value := ok, sent }]), (q, t.2 ++ [{ value := ok, sent }]), ?_, ?_,
      h.append hm ⟨rfl, List.Perm.refl _⟩⟩
    · simp only [PendingDbTasks.call, hp, Option.map_some]
    · simp only [PendingDbTasks.call, hq, Option.map_some]
  | tick now =>
    obtain ⟨p, q, sent, sent', hp, hq, hm, hperm⟩ :=
      h.mirrors.scan fun task htask => @tickTask_idle now (send now) task htask
    refine ⟨(p, s.2 ++ [{ sent }]), (q, t.2 ++ [{ sent := sent' }]), ?_, ?_,
      h.append hm ⟨rfl, hperm⟩⟩
    · simp only [PendingDbTasks.call, tick, hp, Option.map_some]
    · simp only [PendingDbTasks.call, tick, hq, Option.map_some]
  | tickControls now =>
    obtain ⟨p, q, sent, sent', hp, hq, hm, hperm⟩ :=
      h.mirrors.scan fun task htask => @controlTask_idle now (send now) task htask
    refine ⟨(p, s.2 ++ [{ sent }]), (q, t.2 ++ [{ sent := sent' }]), ?_, ?_,
      h.append hm ⟨rfl, hperm⟩⟩
    · simp only [PendingDbTasks.call, tickControls, hp, Option.map_some]
    · simp only [PendingDbTasks.call, tickControls, hq, Option.map_some]
  | complete result now =>
    obtain ⟨hval, hm⟩ := h.mirrors.complete result now
    exact ⟨_, _, rfl, rfl, h.append hm ⟨congrArg some hval, List.Perm.refl _⟩⟩
  | acknowledgeDuplicate result =>
    obtain ⟨hval, hm⟩ := h.mirrors.acknowledgeDuplicate result
    exact ⟨_, _, rfl, rfl, h.append hm ⟨congrArg some hval, List.Perm.refl _⟩⟩
  | observeStatus status =>
    obtain ⟨hval, hm⟩ := h.mirrors.observeStatus status
    exact ⟨_, _, rfl, rfl, h.append hm ⟨congrArg some hval, List.Perm.refl _⟩⟩

theorem InStep.exec {s t : PendingDbTasks × List Answer} (h : InStep s t) {send : Int → Sender}
    {calls : List Call} (hchosen : Run.Along (PendingDbTasks.call send) Chosen t calls) :
    ∃ s' t', Run.exec (PendingDbTasks.call send) s calls = some s' ∧
      Run.exec (PendingDbTasks.call send) t calls = some t' ∧ InStep s' t' := by
  induction calls generalizing s t with
  | nil => exact ⟨s, t, rfl, rfl, h⟩
  | cons c calls ih =>
    obtain ⟨s₁, t₁, hs, ht, h₁⟩ := h.call send hchosen.1
    obtain ⟨s', t', hs', ht', h'⟩ := ih h₁ (hchosen.2 t₁ ht)
    refine ⟨s', t', ?_, ?_, h'⟩
    · rw [Run.exec_cons, hs]
      exact hs'
    · rw [Run.exec_cons, ht]
      exact ht'

end Calls

/-- After the same calls a table with the index and a table without it have the same records, have
given the same answers and have sent the same messages at each call. The index has every record
that needs scheduling. -/
theorem active_index_eq_scan (send : Int → Sender) (calls : List Call)
    (hchosen : Run.Along (call send) Chosen ({}, []) calls) :
    ∃ p outs q outs', Run.exec (call send) ({ indexed := true }, []) calls = some (p, outs) ∧
      Run.exec (call send) ({}, []) calls = some (q, outs') ∧
      (∀ id, p.tasks.lookup id = q.tasks.lookup id) ∧
      List.Forall₂ SameAnswer outs outs' ∧
      ∀ id task, p.tasks.lookup id = some task → needsScheduling task = true → id ∈ p.active := by
  obtain ⟨⟨p, outs⟩, ⟨q, outs'⟩, hp, hq, h⟩ := inStep_start.exec hchosen
  exact ⟨p, outs, q, outs', hp, hq, h.mirrors.rows, h.answers, h.mirrors.needed⟩

instance decidableChosen (s : PendingDbTasks × List Answer) : ∀ c : Call, Decidable (Chosen s c)
  | .submit request now fresh victim =>
    inferInstanceAs (Decidable (isDbTask request.head.msgType = true → (s.1.makeRoom
      (if request.head.taskId = 0 then fresh else request.head.taskId) now victim).isSome = true))
  | .tick _ | .tickControls _ | .complete .. | .acknowledgeDuplicate _ | .observeStatus _ =>
    .isTrue trivial

/-- A result that was acknowledged comes again and is acknowledged again. -/
def acknowledgedTwice : List Call :=
  let result : Msg := { head := { taskId := 7, msgType := .dbResultMySql } }
  [.submit { head := { msgType := .dbTaskMySql } } 0 7 0, .tickControls 6000,
    .complete result 6000, .tickControls 6000, .tick 7000, .acknowledgeDuplicate result,
    .tickControls 8000]

theorem active_index_eq_scan_acknowledgedTwice :
    ∃ p outs q outs', Run.exec (call fun _ _ => .accepted) ({ indexed := true }, [])
        acknowledgedTwice = some (p, outs) ∧
      Run.exec (call fun _ _ => .accepted) ({}, []) acknowledgedTwice = some (q, outs') ∧
      ∀ id task, p.tasks.lookup id = some task → needsScheduling task = true → id ∈ p.active := by
  obtain ⟨p, outs, q, outs', hp, hq, -, -, hneeded⟩ :=
    active_index_eq_scan (fun _ _ => .accepted) acknowledgedTwice (by decide +kernel)
  exact ⟨p, outs, q, outs', hp, hq, hneeded⟩

end PendingDbTasks

end Db
