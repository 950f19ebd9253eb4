import Mathlib.Algebra.Ring.Nat
import Mathlib.Data.List.Nodup
import Mathlib.Data.List.Pairwise
import GameServer.Net.WorkerPendingTasks

/-!
# The discipline of the waiting tasks

A message is in one place: in a waiting line, or ended in one way. Every function
moves messages one at a time, from the front of a line to its worker or, if they
are business messages, out of the middle of a line; so what a worker accepted and
what still waits for it are together in the order of the submits.
-/

namespace Net

/-- The message is ended. -/
def Event.ends (id : Nat) : Event → Bool
  | .submitted _ _ _ => false
  | .accepted i _ => i = id
  | .refused i => i = id
  | .rejected i _ => i = id
  | .cancelled i => i = id

/-- How often a message is ended. -/
def ended (id : Nat) (log : List Event) : Nat := log.countP (·.ends id)

/-- The numbers of the messages that were submitted for a worker, in order. -/
def submittedFor (worker : Nat) (log : List Event) : List Nat :=
  log.filterMap fun e =>
    match e with
    | .submitted id w _ => if w = worker then some id else none
    | _ => none

/-- The numbers of the messages that a worker accepted, in order. -/
def acceptedBy (worker : Nat) (log : List Event) : List Nat :=
  log.filterMap fun e =>
    match e with
    | .accepted id w => if w = worker then some id else none
    | _ => none

def business (tasks : List Task) : List Task := tasks.filter fun t => !t.lifecycle

def lifecycles (tasks : List Task) : List Task := tasks.filter fun t => t.lifecycle

def bytesOf (tasks : List Task) : Nat := (tasks.map (·.bytes)).sum

/-- The counters of a queue are those of its contents. -/
structure Counted (c : PendingConfig) (q : Queue) : Prop where
  businessTasks : q.stats.businessTasks = (business q.tasks).length
  businessBytes : q.stats.businessBytes = bytesOf (business q.tasks)
  lifecycleTasks : q.stats.lifecycleTasks = (lifecycles q.tasks).length
  bytes : ∀ t ∈ q.tasks, t.bytes = c.sizeofTask + t.message.body.length

section Lists

variable {tasks kept rest : List Task} {t : Task}

theorem business_insert : business (kept ++ t :: rest) =
    business kept ++ (if t.lifecycle then [] else [t]) ++ business rest := by
  cases h : t.lifecycle <;> simp [business, h]

theorem lifecycles_insert : lifecycles (kept ++ t :: rest) =
    lifecycles kept ++ (if t.lifecycle then [t] else []) ++ lifecycles rest := by
  cases h : t.lifecycle <;> simp [lifecycles, h]

@[simp] theorem business_append : business (kept ++ rest) = business kept ++ business rest :=
  List.filter_append ..

@[simp] theorem lifecycles_append :
    lifecycles (kept ++ rest) = lifecycles kept ++ lifecycles rest :=
  List.filter_append ..

@[simp] theorem bytesOf_append : bytesOf (kept ++ rest) = bytesOf kept + bytesOf rest := by
  simp [bytesOf]

@[simp] theorem bytesOf_cons : bytesOf (t :: rest) = t.bytes + bytesOf rest := by simp [bytesOf]

@[simp] theorem bytesOf_nil : bytesOf [] = 0 := rfl

theorem bytesOf_le {fewer tasks : List Task} (h : fewer.Sublist tasks) :
    bytesOf fewer ≤ bytesOf tasks := by
  induction h with
  | slnil => exact Nat.le_refl _
  | cons t _ ih =>
    rw [bytesOf_cons]
    omega
  | cons_cons t _ ih =>
    rw [bytesOf_cons, bytesOf_cons]
    omega

end Lists

section Logs

variable (log : List Event) (worker id : Nat)

theorem ended_append (e : Event) :
    ended id (log ++ [e]) = ended id log + if e.ends id then 1 else 0 := by
  simp [ended, List.countP_append, List.countP_cons]

theorem submittedFor_append (e : Event) :
    submittedFor worker (log ++ [e]) = submittedFor worker log ++ submittedFor worker [e] :=
  List.filterMap_append

theorem acceptedBy_append (e : Event) :
    acceptedBy worker (log ++ [e]) = acceptedBy worker log ++ acceptedBy worker [e] :=
  List.filterMap_append

theorem mem_submittedFor {log : List Event} {worker id : Nat} :
    id ∈ submittedFor worker log ↔ ∃ lifecycle, Event.submitted id worker lifecycle ∈ log := by
  simp only [submittedFor, List.mem_filterMap]
  constructor
  · rintro ⟨e, he, hsome⟩
    cases e with
    | submitted i w lifecycle =>
      dsimp only at hsome
      split at hsome
      · rename_i hw
        cases hsome
        exact ⟨lifecycle, hw ▸ he⟩
      · cases hsome
    | accepted i w => cases hsome
    | refused i => cases hsome
    | rejected i r => cases hsome
    | cancelled i => cases hsome
  · rintro ⟨lifecycle, he⟩
    exact ⟨_, he, by simp⟩

end Logs

namespace Queue

variable {c : PendingConfig}

theorem counted_remove {q : Queue} {kept rest : List Task} {t : Task} (h : Counted c q)
    (hq : q.tasks = kept ++ t :: rest) :
    Counted c { tasks := kept ++ rest, stats := q.stats.accountRemove t } := by
  have h1 := h.businessTasks
  have h2 := h.businessBytes
  have h3 := h.lifecycleTasks
  rw [hq, business_insert] at h1 h2
  rw [hq, lifecycles_insert] at h3
  refine ⟨?_, ?_, ?_, fun t' ht' => h.bytes t' ?_⟩
  · cases hl : t.lifecycle <;> simp [Stats.accountRemove, hl, h1]
    all_goals omega
  · cases hl : t.lifecycle <;> simp [Stats.accountRemove, hl, h2]
    all_goals omega
  · cases hl : t.lifecycle <;> simp [Stats.accountRemove, hl, h3]
    all_goals omega
  · rw [hq]
    rcases List.mem_append.mp ht' with hmem | hmem
    · exact List.mem_append_left _ hmem
    · exact List.mem_append_right _ (List.mem_cons_of_mem _ hmem)

theorem counted_add {q : Queue} {t : Task} (h : Counted c q)
    (hbytes : t.bytes = c.sizeofTask + t.message.body.length) :
    Counted c { tasks := q.tasks ++ [t], stats := q.stats.accountAdd t } := by
  have h1 := h.businessTasks
  have h2 := h.businessBytes
  have h3 := h.lifecycleTasks
  refine ⟨?_, ?_, ?_, fun t' ht' => ?_⟩
  · rw [business_insert]
    cases hl : t.lifecycle <;> simp [Stats.accountAdd, hl, h1, business]
  · rw [business_insert]
    cases hl : t.lifecycle <;> simp [Stats.accountAdd, hl, h2, business]
  · rw [lifecycles_insert]
    cases hl : t.lifecycle <;> simp [Stats.accountAdd, hl, h3, lifecycles]
  · rcases List.mem_append.mp ht' with hmem | hmem
    · exact h.bytes t' hmem
    · rw [List.mem_singleton.mp hmem]
      exact hbytes

end Queue

namespace WorkerPendingTasks

def ids (q : Queue) : List Nat := q.tasks.map (·.id)

/-- Every message is waiting or ended, and the counters, the limits and the order are kept. -/
structure Sane (c : PendingConfig) (s : WorkerPendingTasks) : Prop where
  cursor : s.cursor < c.workers
  counted : ∀ w, Counted c (s.queues w)
  tasksLimited : ∀ w, (business (s.queues w).tasks).length ≤ c.limits.maxBusinessTasks
  bytesLimited : ∀ w, bytesOf (business (s.queues w).tasks) ≤ c.limits.maxBusinessBytes
  order : ∀ w, List.Sublist (acceptedBy w s.log ++ ids (s.queues w)) (submittedFor w s.log)
  numbered : ∀ w, (submittedFor w s.log).Pairwise (· < ·)
  known : ∀ id w lifecycle, Event.submitted id w lifecycle ∈ s.log → id < s.submits
  once : ∀ id w w' lifecycle lifecycle', Event.submitted id w lifecycle ∈ s.log →
    Event.submitted id w' lifecycle' ∈ s.log → w = w' ∧ lifecycle = lifecycle'
  queued : ∀ w, ∀ t ∈ (s.queues w).tasks, Event.submitted t.id w t.lifecycle ∈ s.log ∧
    w < c.workers ∧ ended t.id s.log = 0
  fate : ∀ id, id < s.submits → ended id s.log = 1 ∨
    ended id s.log = 0 ∧ ∃ w, id ∈ ids (s.queues w)
  fresh : ∀ id, s.submits ≤ id → ended id s.log = 0
  kept : ∀ id w, Event.submitted id w true ∈ s.log →
    (Event.refused id ∈ s.log → c.workers ≤ w) ∧ (∀ r, Event.rejected id r ∉ s.log) ∧
      Event.cancelled id ∉ s.log
  unknown : ∀ id w lifecycle, c.workers ≤ w → Event.submitted id w lifecycle ∈ s.log →
    Event.refused id ∈ s.log

variable {c : PendingConfig} {s : WorkerPendingTasks}

theorem sane_init (c : PendingConfig) : Sane c {} where
  cursor := c.workers_pos
  counted := fun _ => ⟨rfl, rfl, rfl, nofun⟩
  tasksLimited := fun _ => Nat.zero_le _
  bytesLimited := fun _ => Nat.zero_le _
  order := fun _ => List.Sublist.slnil
  numbered := fun _ => List.Pairwise.nil
  known := nofun
  once := nofun
  queued := nofun
  fate := nofun
  fresh := fun _ _ => rfl
  kept := nofun
  unknown := nofun

@[simp] theorem setQueue_queues (worker : Nat) (q : Queue) (w : Nat) :
    (s.setQueue worker q).queues w = if w = worker then q else s.queues w :=
  Function.update_apply ..

@[simp] theorem setQueue_log (worker : Nat) (q : Queue) : (s.setQueue worker q).log = s.log := rfl

/-- The function counts nothing that the queue holds. -/
def SameCounts (f : Stats → Stats) : Prop :=
  ∀ st, (f st).businessTasks = st.businessTasks ∧ (f st).businessBytes = st.businessBytes ∧
    (f st).lifecycleTasks = st.lifecycleTasks

/-- Counting anything but the contents changes nothing that matters. -/
theorem bump_sane (h : Sane c s) (worker : Nat) {f : Stats → Stats} (hf : SameCounts f) :
    Sane c (s.bump worker f) := by
  have htasks : ∀ w, ((s.bump worker f).queues w).tasks = (s.queues w).tasks := by
    intro w
    simp only [bump, setQueue_queues]
    split
    · rename_i hw
      rw [hw]
    · rfl
  have hids : ∀ w, ids ((s.bump worker f).queues w) = ids (s.queues w) :=
    fun w => congrArg (List.map _) (htasks w)
  exact
    { cursor := h.cursor
      counted := fun w => by
        simp only [bump, setQueue_queues]
        split
        · have hc := h.counted worker
          obtain ⟨h1, h2, h3⟩ := hf (s.queues worker).stats
          exact ⟨h1.trans hc.businessTasks, h2.trans hc.businessBytes, h3.trans hc.lifecycleTasks,
            hc.bytes⟩
        · exact h.counted w
      tasksLimited := fun w => by rw [htasks]; exact h.tasksLimited w
      bytesLimited := fun w => by rw [htasks]; exact h.bytesLimited w
      order := fun w => by rw [hids]; exact h.order w
      numbered := h.numbered
      known := h.known
      once := h.once
      queued := fun w t ht => h.queued w t (htasks w ▸ ht)
      fate := fun id hid => by
        rcases h.fate id hid with hend | ⟨hopen, w, hw⟩
        · exact .inl hend
        · exact .inr ⟨hopen, w, by rw [hids]; exact hw⟩
      fresh := h.fresh
      kept := h.kept
      unknown := h.unknown }

theorem Sane.nodup_ids (h : Sane c s) (w : Nat) : (ids (s.queues w)).Nodup :=
  ((h.numbered w).sublist ((List.sublist_append_right _ _).trans (h.order w))).imp Nat.ne_of_lt

/-- How a message leaves a waiting line: from the front to its worker, or as a business message. -/
inductive Leaves (worker : Nat) (kept : List Task) (t : Task) : Event → Prop
  | accepted (hfront : kept = []) : Leaves worker kept t (.accepted t.id worker)
  | rejected (r : Rejected) (hbusiness : t.lifecycle = false) : Leaves worker kept t (.rejected t.id r)
  | cancelled (hbusiness : t.lifecycle = false) : Leaves worker kept t (.cancelled t.id)

section Leaves

variable {worker : Nat} {kept rest : List Task} {t : Task} {e : Event}

theorem Leaves.ends (h : Leaves worker kept t e) (id : Nat) : e.ends id = decide (t.id = id) := by
  cases h <;> rfl

theorem Leaves.submittedFor (h : Leaves worker kept t e) (w : Nat) : Net.submittedFor w [e] = [] := by
  cases h <;> rfl

theorem Leaves.mem_submitted (h : Leaves worker kept t e) {log : List Event} {id w : Nat}
    {lifecycle : Bool} (hmem : Event.submitted id w lifecycle ∈ log ++ [e]) :
    Event.submitted id w lifecycle ∈ log := by
  rcases List.mem_append.mp hmem with hmem | hmem
  · exact hmem
  · cases h <;> cases List.mem_singleton.mp hmem

/-- What a worker accepted and what waits for it keep their order. -/
theorem Leaves.order (h : Leaves worker kept t e) (log : List Event) :
    (acceptedBy worker (log ++ [e]) ++ (kept ++ rest).map (·.id)).Sublist
      (acceptedBy worker log ++ (kept ++ t :: rest).map (·.id)) := by
  rw [acceptedBy_append]
  cases h with
  | accepted hfront =>
    subst hfront
    simp [acceptedBy]
  | rejected r => simp [acceptedBy]
  | cancelled => simp [acceptedBy]

theorem Leaves.acceptedBy_other (h : Leaves worker kept t e) (log : List Event) {w : Nat}
    (hw : w ≠ worker) : acceptedBy w (log ++ [e]) = acceptedBy w log := by
  rw [acceptedBy_append]
  cases h with
  | accepted => simp [acceptedBy, Ne.symm hw]
  | rejected r => simp [acceptedBy]
  | cancelled => simp [acceptedBy]

theorem remove_sane (h : Sane c s) (hq : (s.queues worker).tasks = kept ++ t :: rest)
    (he : Leaves worker kept t e) : Sane c (s.remove worker t (kept ++ rest) e) := by
  obtain ⟨hsubmitted, -, hopen⟩ := h.queued worker t (by simp [hq])
  have hqueues : ∀ w, (s.remove worker t (kept ++ rest) e).queues w =
      if w = worker then
        { tasks := kept ++ rest, stats := (s.queues worker).stats.accountRemove t }
      else s.queues w := setQueue_queues worker _
  have hlog : (s.remove worker t (kept ++ rest) e).log = s.log ++ [e] := rfl
  have hfewer : ∀ w, (((s.remove worker t (kept ++ rest) e).queues w).tasks).Sublist
      (s.queues w).tasks := by
    intro w
    rw [hqueues]
    split
    · rename_i hw
      rw [hw, hq]
      exact List.Sublist.append_left (List.sublist_cons_self t rest) kept
    · exact List.Sublist.refl _
  have hnodup := h.nodup_ids worker
  rw [ids, hq, List.map_append, List.map_cons, List.nodup_middle] at hnodup
  -- the number of `t` waits nowhere any more
  have hgone : ∀ w, ∀ t' ∈ ((s.remove worker t (kept ++ rest) e).queues w).tasks,
      t'.id ≠ t.id := by
    intro w t' ht' heq
    by_cases hw : w = worker
    · rw [hqueues, if_pos hw] at ht'
      refine (List.nodup_cons.mp hnodup).1 ?_
      rw [← heq, ← List.map_append]
      exact List.mem_map_of_mem ht'
    · have hother := (h.queued w t' ((hfewer w).subset ht')).1
      rw [heq] at hother
      exact hw (h.once _ _ _ _ _ hother hsubmitted).1
  refine
    { cursor := h.cursor
      counted := fun w => ?_
      tasksLimited := fun w =>
        Nat.le_trans ((hfewer w).filter _).length_le (h.tasksLimited w)
      bytesLimited := fun w =>
        Nat.le_trans (bytesOf_le ((hfewer w).filter _)) (h.bytesLimited w)
      order := fun w => ?_
      numbered := fun w => ?_
      known := fun id w lifecycle hmem => h.known id w lifecycle (he.mem_submitted hmem)
      once := fun id w w' l l' h1 h2 =>
        h.once id w w' l l' (he.mem_submitted h1) (he.mem_submitted h2)
      queued := fun w t' ht' => ?_
      fate := fun id hid => ?_
      fresh := fun id hid => ?_
      kept := fun id w hmem => ?_
      unknown := fun id w lifecycle hw hmem =>
        List.mem_append_left _ (h.unknown id w lifecycle hw (he.mem_submitted hmem)) }
  · rw [hqueues]
    split
    · exact Queue.counted_remove (h.counted worker) hq
    · exact h.counted w
  · rw [hlog, submittedFor_append, he.submittedFor, List.append_nil, hqueues]
    by_cases hw : w = worker
    · rw [if_pos hw, hw]
      have horder := h.order worker
      rw [ids, hq] at horder
      exact (he.order s.log).trans horder
    · rw [if_neg hw, he.acceptedBy_other s.log hw]
      exact h.order w
  · rw [hlog, submittedFor_append, he.submittedFor, List.append_nil]
    exact h.numbered w
  · obtain ⟨h1, h2, h3⟩ := h.queued w t' ((hfewer w).subset ht')
    refine ⟨List.mem_append_left _ h1, h2, ?_⟩
    have hne := hgone w t' ht'
    rw [hlog, ended_append, he.ends, h3]
    simp [Ne.symm hne]
  · rw [hlog, ended_append, he.ends]
    by_cases heq : t.id = id
    · subst heq
      exact .inl (by simp [hopen])
    · simp only [heq, decide_false, Bool.false_eq_true, if_false, Nat.add_zero]
      rcases h.fate id hid with hend | ⟨hnone, w, hw⟩
      · exact .inl hend
      · refine .inr ⟨hnone, w, ?_⟩
        rw [hqueues]
        split
        · rename_i hworker
          subst hworker
          rw [ids, hq, List.map_append, List.map_cons] at hw
          rw [ids, List.map_append]
          rcases List.mem_append.mp hw with hw | hw
          · exact List.mem_append_left _ hw
          · rcases List.mem_cons.mp hw with hw | hw
            · exact absurd hw.symm heq
            · exact List.mem_append_right _ hw
        · exact hw
  · have hne : t.id ≠ id := Nat.ne_of_lt (Nat.lt_of_lt_of_le (h.known _ _ _ hsubmitted) hid)
    rw [hlog, ended_append, he.ends, h.fresh id hid]
    simp [hne]
  · have hold := he.mem_submitted hmem
    obtain ⟨h1, h2, h3⟩ := h.kept id w hold
    have hbusiness : t.lifecycle = false → t.id ≠ id := by
      rintro hl rfl
      rw [hl] at hsubmitted
      exact absurd (h.once _ _ _ _ _ hold hsubmitted).2 (by simp)
    have hsame : ∀ e', e'.ends id = true → e' ∈ s.log ++ [e] → e' ∉ s.log →
        ∃ w', e' = .accepted id w' := by
      intro e' hends hmem' hnew
      rcases List.mem_append.mp hmem' with hmem' | hmem'
      · exact absurd hmem' hnew
      · obtain rfl := List.mem_singleton.mp hmem'
        rw [he.ends, decide_eq_true_eq] at hends
        cases he with
        | accepted => exact ⟨worker, by rw [hends]⟩
        | rejected r hl => exact absurd hends (hbusiness hl)
        | cancelled hl => exact absurd hends (hbusiness hl)
    refine ⟨fun hmem' => ?_, fun r hmem' => ?_, fun hmem' => ?_⟩
    · by_contra hw
      obtain ⟨w', hcontra⟩ := hsame _ (by simp [Event.ends]) hmem' fun h' => hw (h1 h')
      cases hcontra
    · obtain ⟨w', hcontra⟩ := hsame _ (by simp [Event.ends]) hmem' (h2 r)
      cases hcontra
    · obtain ⟨w', hcontra⟩ := hsame _ (by simp [Event.ends]) hmem' h3
      cases hcontra

end Leaves

section Submit

variable {worker : Nat} {lifecycle : Bool}

theorem opened_bump (f : Stats → Stats) :
    (opened s worker lifecycle).bump worker f = opened (s.bump worker f) worker lifecycle := rfl

theorem mem_opened {id w : Nat} {l : Bool} :
    Event.submitted id w l ∈ (opened s worker lifecycle).log ↔
      Event.submitted id w l ∈ s.log ∨ id = s.submits ∧ w = worker ∧ l = lifecycle := by
  simp [opened, note]

theorem opened_submittedFor (w : Nat) :
    submittedFor w (opened s worker lifecycle).log =
      submittedFor w s.log ++ if worker = w then [s.submits] else [] := by
  have hlog : (opened s worker lifecycle).log = s.log ++ [.submitted s.submits worker lifecycle] := rfl
  rw [hlog, submittedFor_append]
  congr 1
  by_cases hw : worker = w <;> simp [submittedFor, hw]

theorem opened_acceptedBy (w : Nat) :
    acceptedBy w (opened s worker lifecycle).log = acceptedBy w s.log := by
  have hlog : (opened s worker lifecycle).log = s.log ++ [.submitted s.submits worker lifecycle] := rfl
  rw [hlog, acceptedBy_append]
  exact List.append_nil _

theorem opened_ended (id : Nat) : ended id (opened s worker lifecycle).log = ended id s.log := by
  have hlog : (opened s worker lifecycle).log = s.log ++ [.submitted s.submits worker lifecycle] := rfl
  rw [hlog, ended_append]
  rfl

/-- The new number is above all others. -/
theorem Sane.numbered_opened (h : Sane c s) (w : Nat) :
    (submittedFor w (opened s worker lifecycle).log).Pairwise (· < ·) := by
  rw [opened_submittedFor]
  refine List.pairwise_append.mpr ⟨h.numbered w, ?_, fun i hi j hj => ?_⟩
  · split <;> simp
  · split at hj
    · rw [List.mem_singleton.mp hj]
      obtain ⟨l, hl⟩ := mem_submittedFor.mp hi
      exact h.known i w l hl
    · cases hj

theorem Sane.known_opened (h : Sane c s) {id w : Nat} {l : Bool}
    (hmem : Event.submitted id w l ∈ (opened s worker lifecycle).log) : id < s.submits + 1 := by
  rcases mem_opened.mp hmem with hold | ⟨rfl, -, -⟩
  · exact Nat.lt_succ_of_lt (h.known id w l hold)
  · exact Nat.lt_succ_self _

theorem Sane.once_opened (h : Sane c s) {id w w' : Nat} {l l' : Bool}
    (h1 : Event.submitted id w l ∈ (opened s worker lifecycle).log)
    (h2 : Event.submitted id w' l' ∈ (opened s worker lifecycle).log) : w = w' ∧ l = l' := by
  rcases mem_opened.mp h1 with h1 | ⟨hid, hw, hl⟩ <;>
    rcases mem_opened.mp h2 with h2 | ⟨hid', hw', hl'⟩
  · exact h.once id w w' l l' h1 h2
  · exact absurd (h.known id w l h1) (by omega)
  · exact absurd (h.known id w' l' h2) (by omega)
  · exact ⟨hw.trans hw'.symm, hl.trans hl'.symm⟩

theorem Sane.not_mem_of_fresh (h : Sane c s) {id : Nat} (hid : s.submits ≤ id) {e : Event}
    (he : e.ends id = true) : e ∉ s.log := by
  intro hmem
  have hzero := h.fresh id hid
  rw [ended, List.countP_eq_zero] at hzero
  exact hzero e hmem he

theorem Sane.kept_opened (h : Sane c s) {id w : Nat}
    (hmem : Event.submitted id w true ∈ (opened s worker lifecycle).log) :
    (Event.refused id ∈ (opened s worker lifecycle).log → c.workers ≤ w) ∧
      (∀ r, Event.rejected id r ∉ (opened s worker lifecycle).log) ∧
      Event.cancelled id ∉ (opened s worker lifecycle).log := by
  have hlog : ∀ e, e.ends id = true → e ∈ (opened s worker lifecycle).log → e ∈ s.log := by
    intro e he hmem
    rcases List.mem_append.mp hmem with hmem | hmem
    · exact hmem
    · rw [List.mem_singleton.mp hmem] at he
      cases he
  rcases mem_opened.mp hmem with hold | ⟨hid, -, -⟩
  · obtain ⟨h1, h2, h3⟩ := h.kept id w hold
    exact ⟨fun he => h1 (hlog _ (by simp [Event.ends]) he),
      fun r he => h2 r (hlog _ (by simp [Event.ends]) he),
      fun he => h3 (hlog _ (by simp [Event.ends]) he)⟩
  · have hnot : ∀ e, e.ends id = true → e ∉ (opened s worker lifecycle).log := fun e he hmem =>
      h.not_mem_of_fresh (Nat.le_of_eq hid.symm) he (hlog e he hmem)
    exact ⟨fun he => absurd he (hnot _ (by simp [Event.ends])),
      fun r => hnot _ (by simp [Event.ends]), hnot _ (by simp [Event.ends])⟩

/-- How a message ends in `submit`. -/
inductive Settles (c : PendingConfig) (s : WorkerPendingTasks) (worker : Nat) (lifecycle : Bool) :
    Event → Prop
  | refused (h : lifecycle = true → c.workers ≤ worker) :
      Settles c s worker lifecycle (.refused s.submits)
  | accepted (hworker : worker < c.workers) (h : (s.queues worker).tasks = []) :
      Settles c s worker lifecycle (.accepted s.submits worker)

theorem Settles.ends {e : Event} (h : Settles c s worker lifecycle e) (id : Nat) :
    e.ends id = decide (s.submits = id) := by
  cases h <;> rfl

theorem settle_sane (h : Sane c s) {e : Event} (he : Settles c s worker lifecycle e) :
    Sane c ((opened s worker lifecycle).note e) := by
  have hlog : ((opened s worker lifecycle).note e).log = (opened s worker lifecycle).log ++ [e] := rfl
  have hno : ∀ id w l, Event.submitted id w l ∈ ((opened s worker lifecycle).note e).log →
      Event.submitted id w l ∈ (opened s worker lifecycle).log := by
    intro id w l hmem
    rcases List.mem_append.mp hmem with hmem | hmem
    · exact hmem
    · cases he <;> cases List.mem_singleton.mp hmem
  have hsubmitted : ∀ w, submittedFor w ((opened s worker lifecycle).note e).log =
      submittedFor w (opened s worker lifecycle).log := by
    intro w
    rw [hlog, submittedFor_append]
    cases he <;> exact List.append_nil _
  have hended : ∀ id, ended id ((opened s worker lifecycle).note e).log =
      ended id s.log + if s.submits = id then 1 else 0 := by
    intro id
    rw [hlog, ended_append, opened_ended, he.ends]
    simp
  refine
    { cursor := h.cursor
      counted := h.counted
      tasksLimited := h.tasksLimited
      bytesLimited := h.bytesLimited
      order := fun w => ?_
      numbered := fun w => by rw [hsubmitted]; exact h.numbered_opened w
      known := fun id w l hmem => h.known_opened (hno id w l hmem)
      once := fun id w w' l l' h1 h2 => h.once_opened (hno id w l h1) (hno id w' l' h2)
      queued := fun w t ht => ?_
      fate := fun id hid => ?_
      fresh := fun id hid => ?_
      kept := fun id w hmem => ?_
      unknown := fun id w l hw hmem => ?_ }
  · rw [hsubmitted, opened_submittedFor, hlog, acceptedBy_append, opened_acceptedBy]
    have horder := h.order w
    cases he with
    | refused =>
      have hnil : acceptedBy w [.refused s.submits] = [] := rfl
      rw [hnil, List.append_nil]
      exact horder.trans (List.sublist_append_left _ _)
    | accepted _ hempty =>
      by_cases hw : worker = w
      · subst hw
        have hids : ids (((opened s worker lifecycle).note (.accepted s.submits worker)).queues
            worker) = [] := by
          change (s.queues worker).tasks.map _ = []
          rw [hempty]
          rfl
        rw [ids, hempty, List.map_nil, List.append_nil] at horder
        rw [hids, List.append_nil, if_pos rfl]
        have hone : acceptedBy worker [.accepted s.submits worker] = [s.submits] := by
          simp [acceptedBy]
        rw [hone]
        exact horder.append (List.Sublist.refl _)
      · have hnil : acceptedBy w [.accepted s.submits worker] = [] := by simp [acceptedBy, hw]
        rw [hnil, List.append_nil]
        exact horder.trans (List.sublist_append_left _ _)
  · obtain ⟨h1, h2, h3⟩ := h.queued w t ht
    have hne : s.submits ≠ t.id := Nat.ne_of_gt (h.known _ _ _ h1)
    refine ⟨List.mem_append_left _ (mem_opened.mpr (.inl h1)), h2, ?_⟩
    rw [hended, h3, if_neg hne]
  · rw [hended]
    by_cases hnew : s.submits = id
    · rw [if_pos hnew, h.fresh id (Nat.le_of_eq hnew)]
      exact .inl rfl
    · rw [if_neg hnew]
      exact h.fate id (Nat.lt_of_le_of_ne (Nat.le_of_lt_succ hid) (Ne.symm hnew))
  · have hle : s.submits + 1 ≤ id := hid
    rw [hended, if_neg (by omega)]
    exact h.fresh id (by omega)
  · obtain ⟨h1, h2, h3⟩ := h.kept_opened (hno id w true hmem)
    refine ⟨fun hmem' => ?_, fun r hmem' => ?_, fun hmem' => ?_⟩
    · rcases List.mem_append.mp hmem' with hmem' | hmem'
      · exact h1 hmem'
      · have heq := List.mem_singleton.mp hmem'
        cases he with
        | refused hle =>
          cases heq
          rcases mem_opened.mp (hno _ w true hmem) with hold | ⟨-, rfl, hl⟩
          · exact absurd (h.known _ _ _ hold) (Nat.lt_irrefl _)
          · exact hle hl.symm
        | accepted => cases heq
    · rcases List.mem_append.mp hmem' with hmem' | hmem'
      · exact h2 r hmem'
      · cases he <;> cases List.mem_singleton.mp hmem'
    · rcases List.mem_append.mp hmem' with hmem' | hmem'
      · exact h3 hmem'
      · cases he <;> cases List.mem_singleton.mp hmem'
  · rcases mem_opened.mp (hno id w l hmem) with hold | ⟨rfl, rfl, -⟩
    · exact List.mem_append_left _ (List.mem_append_left _ (h.unknown id w l hw hold))
    · cases he with
      | refused => exact List.mem_append_right _ List.mem_cons_self
      | accepted hworker => exact absurd hw (Nat.not_le_of_lt hworker)

theorem settle_bump (h : Sane c s) {f : Stats → Stats} (hf : SameCounts f) {e : Event}
    (he : Settles c s worker lifecycle e) :
    Sane c (((opened s worker lifecycle).bump worker f).note e) := by
  rw [opened_bump]
  refine settle_sane (bump_sane h worker hf) ?_
  cases he with
  | refused hle => exact .refused hle
  | accepted hworker hempty => exact .accepted hworker (by simpa [bump] using hempty)

/-- A task with the new number joins its waiting line. -/
theorem wait_sane (h : Sane c s) (hworker : worker < c.workers) {t : Task} (hid : t.id = s.submits)
    (hbytes : t.bytes = c.sizeofTask + t.message.body.length)
    (hlimits : t.lifecycle = false →
      (business (s.queues worker).tasks).length + 1 ≤ c.limits.maxBusinessTasks ∧
        bytesOf (business (s.queues worker).tasks) + t.bytes ≤ c.limits.maxBusinessBytes) :
    Sane c ((opened s worker t.lifecycle).setQueue worker
      { tasks := (s.queues worker).tasks ++ [t]
        stats := (s.queues worker).stats.accountAdd t }) := by
  generalize hs' : (opened s worker t.lifecycle).setQueue worker _ = s'
  have hlog : s'.log = (opened s worker t.lifecycle).log := by rw [← hs']; rfl
  have hsubmits : s'.submits = s.submits + 1 := by rw [← hs']; rfl
  have hqueues : ∀ w, s'.queues w = if w = worker then
      { tasks := (s.queues worker).tasks ++ [t]
        stats := (s.queues worker).stats.accountAdd t } else s.queues w := by
    intro w
    rw [← hs', setQueue_queues]
    rfl
  have hbusiness : business ((s.queues worker).tasks ++ [t]) =
      business (s.queues worker).tasks ++ if t.lifecycle then [] else [t] := by
    rw [business_insert]
    exact List.append_nil _
  refine
    { cursor := by rw [← hs']; exact h.cursor
      counted := fun w => ?_
      tasksLimited := fun w => ?_
      bytesLimited := fun w => ?_
      order := fun w => ?_
      numbered := fun w => by rw [hlog]; exact h.numbered_opened w
      known := fun id w l hmem => by rw [hsubmits]; exact h.known_opened (hlog ▸ hmem)
      once := fun id w w' l l' h1 h2 => h.once_opened (hlog ▸ h1) (hlog ▸ h2)
      queued := fun w t' ht' => ?_
      fate := fun id hid' => ?_
      fresh := fun id hid' => ?_
      kept := fun id w hmem => by rw [hlog] at hmem ⊢; exact h.kept_opened hmem
      unknown := fun id w l hw hmem => ?_ }
  · rw [hqueues]
    split
    · exact Queue.counted_add (h.counted worker) hbytes
    · exact h.counted w
  · rw [hqueues]
    split
    · rw [hbusiness]
      cases hl : t.lifecycle with
      | true => simpa using h.tasksLimited worker
      | false => simpa using (hlimits hl).1
    · exact h.tasksLimited w
  · rw [hqueues]
    split
    · rw [hbusiness, bytesOf_append]
      cases hl : t.lifecycle with
      | true => simpa using h.bytesLimited worker
      | false => simpa using (hlimits hl).2
    · exact h.bytesLimited w
  · rw [hlog, opened_submittedFor, opened_acceptedBy, hqueues]
    have horder := h.order w
    by_cases hw : w = worker
    · subst hw
      rw [if_pos rfl, if_pos rfl, ids, List.map_append, ← List.append_assoc]
      refine horder.append ?_
      simp [hid]
    · rw [if_neg hw, if_neg (Ne.symm hw), List.append_nil]
      exact horder
  · rw [hlog, mem_opened, opened_ended]
    have hold : t' ∈ (s.queues w).tasks →
        (Event.submitted t'.id w t'.lifecycle ∈ s.log ∨
          t'.id = s.submits ∧ w = worker ∧ t'.lifecycle = t.lifecycle) ∧ w < c.workers ∧
        ended t'.id s.log = 0 := by
      intro hmem
      obtain ⟨h1, h2, h3⟩ := h.queued w t' hmem
      exact ⟨.inl h1, h2, h3⟩
    rw [hqueues] at ht'
    split at ht'
    · rename_i hw
      subst hw
      rcases List.mem_append.mp ht' with hmem | hmem
      · exact hold hmem
      · rw [List.mem_singleton.mp hmem]
        exact ⟨.inr ⟨hid, rfl, rfl⟩, hworker, h.fresh _ (Nat.le_of_eq hid.symm)⟩
    · exact hold ht'
  · rw [hlog, opened_ended]
    rw [hsubmits] at hid'
    by_cases hnew : id = s.submits
    · refine .inr ⟨h.fresh id (Nat.le_of_eq hnew.symm), worker, ?_⟩
      rw [hqueues, if_pos rfl, ids, List.map_append]
      exact List.mem_append_right _ (by simp [hid, hnew])
    · rcases h.fate id (by omega) with hend | ⟨hopen, w, hw⟩
      · exact .inl hend
      · refine .inr ⟨hopen, w, ?_⟩
        rw [hqueues]
        split
        · rename_i hworker
          subst hworker
          rw [ids, List.map_append]
          exact List.mem_append_left _ hw
        · exact hw
  · rw [hsubmits] at hid'
    rw [hlog, opened_ended]
    exact h.fresh id (by omega)
  · rw [hlog] at hmem ⊢
    rcases mem_opened.mp hmem with hold | ⟨-, rfl, -⟩
    · exact List.mem_append_left _ (h.unknown id w l hw hold)
    · exact absurd hw (Nat.not_le_of_lt hworker)

variable (message : PendingMsg) (now : Nat)

theorem enqueue_sane (h : Sane c s) (hworker : worker < c.workers) :
    Sane c ((opened s worker lifecycle).enqueue c worker message lifecycle now s.submits).1 := by
  have hrefused : ∀ {f : Stats → Stats}, SameCounts f → (!lifecycle) = true →
      Sane c (((opened s worker lifecycle).bump worker f).note (.refused s.submits)) := by
    intro f hf hl
    refine settle_bump h hf (.refused fun htrue => ?_)
    rw [htrue] at hl
    cases hl
  have hcounted := h.counted worker
  have htasks := hcounted.businessTasks
  have hbytes := hcounted.businessBytes
  unfold enqueue
  dsimp only
  split
  · rename_i hbusy
    exact hrefused (fun _ => ⟨rfl, rfl, rfl⟩) hbusy.1
  · rename_i htasksFree
    split
    · rename_i hbusy
      exact hrefused (fun _ => ⟨rfl, rfl, rfl⟩) hbusy.1
    · rename_i hbytesFree
      refine wait_sane (t := { message, lifecycle, deadline := _, bytes := _, id := s.submits })
        h hworker rfl rfl fun hl => ?_
      have hq : (opened s worker lifecycle).queues worker = s.queues worker := rfl
      have hfree : (!lifecycle) = true := by simpa using hl
      rw [hq, htasks] at htasksFree
      rw [hq, hbytes] at hbytesFree
      have h1 := mt (And.intro hfree) htasksFree
      have h2 := mt (And.intro hfree) hbytesFree
      constructor
      · omega
      · change bytesOf _ + (c.sizeofTask + message.body.length) ≤ _
        omega

/-- Whatever is submitted, and whatever `send` answers. -/
theorem submit_sane (h : Sane c s) (worker : Nat) (lifecycle : Bool) (result : DispatchResult) :
    Sane c (s.submit c worker message lifecycle now result).1 := by
  unfold submit
  dsimp only
  split
  · rename_i hworker
    exact settle_sane h (.refused fun _ => hworker)
  · rename_i hworker
    have hlt : worker < c.workers := Nat.lt_of_not_ge hworker
    split
    · rename_i hempty
      split
      · refine settle_bump h ?_ (.accepted hlt hempty)
        exact fun _ => ⟨rfl, rfl, rfl⟩
      · -- an unexpected answer is counted first
        have hsane : ∃ s', Sane c s' ∧ s'.submits = s.submits ∧
            (if result ≠ .kBackpressure then
              (opened s worker lifecycle).bump worker fun st =>
                { st with internalErrors := st.internalErrors + 1 }
            else opened s worker lifecycle) = opened s' worker lifecycle := by
          split
          · refine ⟨_, bump_sane h worker ?_, rfl, (opened_bump ..)⟩
            exact fun _ => ⟨rfl, rfl, rfl⟩
          · exact ⟨s, h, rfl, rfl⟩
        obtain ⟨s', h', hsubmits, hs'⟩ := hsane
        rw [hs', ← hsubmits]
        have hrefused : (!lifecycle) = true → Settles c s' worker lifecycle (.refused s'.submits) := by
          intro hl
          refine .refused fun htrue => ?_
          rw [htrue] at hl
          cases hl
        split
        · rename_i hbusy
          exact settle_sane h' (hrefused hbusy.2)
        · split
          · rename_i hl
            refine settle_bump h' ?_ (hrefused hl)
            exact fun _ => ⟨rfl, rfl, rfl⟩
          · exact enqueue_sane message now h' hlt
    · exact enqueue_sane message now h hlt

end Submit

end WorkerPendingTasks

end Net
