import Mathlib.Data.List.Induction
import GameServer.Net.PendingDiscipline

/-!
# Runs of the waiting tasks

What one call keeps, any sequence of calls keeps.
-/

namespace Net

namespace WorkerPendingTasks

variable {c : PendingConfig} {s : WorkerPendingTasks}

section Pump

variable {now : Nat} {valid : Nat → PendingMsg → Bool}

/-- What holds after each erased element holds after the pass. -/
theorem eraseWhere_rule {σ : Type} (gone : Task → Bool) (erase : σ → Task → List Task → σ)
    (P : σ → List Task → Prop)
    (h : ∀ s kept t rest, gone t = true → P s (kept ++ t :: rest) →
      P (erase s t (kept ++ rest)) (kept ++ rest)) :
    ∀ (rest kept : List Task) (s : σ), P s (kept ++ rest) →
      P (eraseWhere gone erase kept rest s) (kept ++ rest.filter fun t => !gone t) := by
  intro rest
  induction rest with
  | nil => exact fun kept s hP => hP
  | cons t rest ih =>
    intro kept s hP
    cases hgone : gone t with
    | true =>
      have hnext := ih kept _ (h s kept t rest hgone hP)
      simpa [eraseWhere, hgone] using hnext
    | false =>
      have hnext := ih (kept ++ [t]) s (by simpa using hP)
      simpa [eraseWhere, hgone] using hnext

/-- The rejections that a log records, in order. -/
def rejectedIn (log : List Event) : List Rejected :=
  log.filterMap fun e =>
    match e with
    | .rejected _ r => some r
    | _ => none

/-- A call of `pump` that was at `p₀` and is at `p` now. -/
structure Pumped (c : PendingConfig) (p₀ p : Pumping) : Prop where
  sane : Sane c p.tasks
  returned : ∃ l, p.tasks.log = p₀.tasks.log ++ l ∧ p.rejected = p₀.rejected ++ rejectedIn l
  attempts : p.total ≤ c.limits.globalAttempts
  counted : p.sends.length = p.total
  fewer : ∀ w, ((p.tasks.queues w).tasks).Sublist (p₀.tasks.queues w).tasks

theorem bump_tasks (worker w : Nat) (f : Stats → Stats) :
    ((s.bump worker f).queues w).tasks = (s.queues w).tasks := by
  simp only [bump, setQueue_queues]
  split
  · rename_i hw
    rw [hw]
  · rfl

theorem remove_tasks (worker w : Nat) (t : Task) (tasks : List Task) (e : Event) :
    ((s.remove worker t tasks e).queues w).tasks =
      if w = worker then tasks else (s.queues w).tasks := by
  change ((s.setQueue worker _).queues w).tasks = _
  rw [setQueue_queues]
  split <;> rfl

theorem remove_fewer {worker : Nat} {kept rest : List Task} {t : Task}
    (hq : (s.queues worker).tasks = kept ++ t :: rest) (e : Event) (w : Nat) :
    (((s.remove worker t (kept ++ rest) e).queues w).tasks).Sublist (s.queues w).tasks := by
  rw [remove_tasks]
  split
  · rename_i hw
    rw [hw, hq]
    exact List.Sublist.append_left (List.sublist_cons_self t rest) kept
  · exact List.Sublist.refl _

variable {p₀ p : Pumping} {worker : Nat} {kept rest : List Task} {t : Task}

variable (worker) in
theorem Pumped.bump (h : Pumped c p₀ p) {f : Stats → Stats} (hf : SameCounts f) :
    Pumped c p₀ { p with tasks := p.tasks.bump worker f } where
  sane := bump_sane h.sane worker hf
  returned := h.returned
  attempts := h.attempts
  counted := h.counted
  fewer := fun w => by
    change ((p.tasks.bump worker f).queues w).tasks.Sublist _
    rw [bump_tasks]
    exact h.fewer w

theorem Pumped.accept (h : Pumped c p₀ p) (hq : (p.tasks.queues worker).tasks = t :: rest) :
    Pumped c p₀ { p with tasks := p.tasks.remove worker t rest (.accepted t.id worker) } where
  sane := by
    have hfront : (p.tasks.queues worker).tasks = [] ++ t :: rest := hq
    exact remove_sane h.sane hfront (.accepted rfl)
  returned := by
    obtain ⟨l, hl, hr⟩ := h.returned
    refine ⟨l ++ [.accepted t.id worker], ?_, ?_⟩
    · change p.tasks.log ++ _ = _
      rw [hl, List.append_assoc]
    · change p.rejected = _
      rw [hr, rejectedIn, rejectedIn, List.filterMap_append]
      exact congrArg _ (List.append_nil _).symm
  attempts := h.attempts
  counted := h.counted
  fewer := fun w => by
    have hfront : (p.tasks.queues worker).tasks = [] ++ t :: rest := hq
    exact (remove_fewer hfront _ w).trans (h.fewer w)

theorem Pumped.reject (h : Pumped c p₀ p) (hq : (p.tasks.queues worker).tasks = kept ++ t :: rest)
    (hbusiness : t.lifecycle = false) (code : ErrorCode) {count : Stats → Stats}
    (hcount : SameCounts count) :
    Pumped c p₀ (p.reject worker t (kept ++ rest) code count) := by
  have hb := h.bump worker hcount
  have hq' : ((p.tasks.bump worker count).queues worker).tasks = kept ++ t :: rest := by
    rw [bump_tasks, hq]
  exact
    { sane := remove_sane hb.sane hq' (.rejected _ hbusiness)
      returned := by
        obtain ⟨l, hl, hr⟩ := h.returned
        refine ⟨l ++ [.rejected t.id { message := t.message, code }], ?_, ?_⟩
        · change p.tasks.log ++ _ = _
          rw [hl, List.append_assoc]
        · change p.rejected ++ _ = _
          rw [hr, rejectedIn, rejectedIn, List.filterMap_append, List.append_assoc]
          rfl
      attempts := h.attempts
      counted := h.counted
      fewer := fun w => (remove_fewer hq' _ w).trans (hb.fewer w) }

variable (worker) in
/-- One more call of `send`. -/
theorem Pumped.send (h : Pumped c p₀ p) (hlt : p.total < c.limits.globalAttempts)
    (message : PendingMsg) :
    Pumped c p₀ { p with total := p.total + 1, sends := p.sends ++ [(worker, message)] } where
  sane := h.sane
  returned := h.returned
  attempts := hlt
  counted := by
    change (p.sends ++ [_]).length = p.total + 1
    rw [List.length_append, h.counted]
    rfl
  fewer := h.fewer

theorem Pumped.turn (h : Pumped c p₀ p) :
    Pumped c p₀ { p with tasks := { p.tasks with cursor := (p.tasks.cursor + 1) % c.workers } } where
  sane := { h.sane with cursor := Nat.mod_lt _ c.workers_pos }
  returned := h.returned
  attempts := h.attempts
  counted := h.counted
  fewer := h.fewer

theorem reject_tasks (w : Nat) (tasks : List Task) (code : ErrorCode) (count : Stats → Stats) :
    ((p.reject worker t tasks code count).tasks.queues w).tasks =
      if w = worker then tasks else (p.tasks.queues w).tasks := by
  change (((p.tasks.bump worker count).remove worker t tasks _).queues w).tasks = _
  rw [remove_tasks, bump_tasks]

variable (now valid worker) in
/-- The first loop leaves no outdated task, and no other queue is touched. -/
theorem expireQueue_spec (h : Pumped c p₀ p) :
    Pumped c p₀ (expireQueue now valid p worker) ∧
      ∀ w, ((expireQueue now valid p worker).tasks.queues w).tasks =
        if w = worker then (p.tasks.queues w).tasks.filter fun t => !outdated now valid t
        else (p.tasks.queues w).tasks := by
  have hrule := eraseWhere_rule (outdated now valid)
    (P := fun p' tasks => Pumped c p₀ p' ∧
      ∀ w, (p'.tasks.queues w).tasks = if w = worker then tasks else (p.tasks.queues w).tasks)
    (fun p t tasks =>
      if now ≥ t.deadline then
        p.reject worker t tasks .ERROR_CODE_PENDING_TIMEOUT
          fun st => { st with expired := st.expired + 1 }
      else
        p.reject worker t tasks .ERROR_CODE_PLAYER_SESSION_INVALID
          fun st => { st with stale := st.stale + 1 })
    (fun p' kept t rest hgone hP => by
      obtain ⟨hp', hqueues⟩ := hP
      have hq := hqueues worker
      rw [if_pos rfl] at hq
      have hbusiness : t.lifecycle = false := by
        cases hl : t.lifecycle with
        | false => rfl
        | true => simp [outdated, hl] at hgone
      have hother : ∀ code count w,
          ((p'.reject worker t (kept ++ rest) code count).tasks.queues w).tasks =
            if w = worker then kept ++ rest else (p.tasks.queues w).tasks := by
        intro code count w
        rw [reject_tasks, hqueues]
        split <;> rfl
      split
      · refine ⟨hp'.reject hq hbusiness _ ?_, hother _ _⟩
        exact fun _ => ⟨rfl, rfl, rfl⟩
      · refine ⟨hp'.reject hq hbusiness _ ?_, hother _ _⟩
        exact fun _ => ⟨rfl, rfl, rfl⟩)
    (p.tasks.queues worker).tasks [] p ⟨h, fun w => by split <;> simp_all⟩
  refine ⟨hrule.1, fun w => (hrule.2 w).trans ?_⟩
  split
  · rename_i hw
    rw [hw]
    rfl
  · rfl

variable (now valid) in
/-- All queues are swept one after the other. -/
theorem expireAll_spec (h : Pumped c p₀ p) : ∀ workers : List Nat,
    Pumped c p₀ (workers.foldl (expireQueue now valid) p) ∧
      ∀ w ∈ workers, ∀ t ∈ ((workers.foldl (expireQueue now valid) p).tasks.queues w).tasks,
        outdated now valid t = false := by
  intro workers
  induction workers using List.reverseRecOn with
  | nil => exact ⟨h, nofun⟩
  | append_singleton workers worker ih =>
    rw [List.foldl_append]
    obtain ⟨hp, hswept⟩ := ih
    obtain ⟨hp', hqueues⟩ := expireQueue_spec now valid worker hp
    refine ⟨hp', fun w hw t ht => ?_⟩
    change t ∈ ((expireQueue now valid (workers.foldl (expireQueue now valid) p)
      worker).tasks.queues w).tasks at ht
    rw [hqueues] at ht
    split at ht
    · simpa using (List.mem_filter.mp ht).2
    · rename_i hne
      rcases List.mem_append.mp hw with hw | hw
      · exact hswept w hw t ht
      · exact absurd (List.mem_singleton.mp hw) hne

variable {send : Nat → Nat → PendingMsg → DispatchResult}

theorem serve_spec (tries : Nat) : ∀ {p : Pumping}, Pumped c p₀ p →
    Pumped c p₀ (serve c send worker tries p) := by
  induction tries with
  | zero => exact fun hp => hp
  | succ tries ih =>
    intro p hp
    unfold serve
    split
    · exact hp
    · rename_i task rest hq
      split
      · rename_i hlt
        have hsent := hp.send worker hlt task.message
        dsimp only
        split
        · exact hsent
        · split
          · split
            · refine hsent.bump worker ?_
              exact fun _ => ⟨rfl, rfl, rfl⟩
            · rename_i hbusiness
              have hfront : (p.tasks.queues worker).tasks = [] ++ task :: rest := hq
              refine ih (hsent.reject hfront (by simpa using hbusiness) _ ?_)
              exact fun _ => ⟨rfl, rfl, rfl⟩
          · let count : Stats → Stats := fun st => { st with accepted := st.accepted + 1 }
            have hcount : SameCounts count := fun _ => ⟨rfl, rfl, rfl⟩
            have hfront : ((p.tasks.bump worker count).queues worker).tasks = task :: rest := by
              rw [bump_tasks, hq]
            have hcounted := hsent.bump worker hcount
            exact ih (hcounted.accept hfront)
      · exact hp

variable (send) in
theorem visit_spec (n : Nat) : ∀ {p : Pumping}, Pumped c p₀ p → Pumped c p₀ (visit c send n p) := by
  induction n with
  | zero => exact fun hp => hp
  | succ n ih =>
    intro p hp
    unfold visit
    split
    · exact ih (serve_spec _ hp.turn)
    · exact hp

theorem Pumped.refl (h : Pumped c p₀ p) : Pumped c p p where
  sane := h.sane
  returned := ⟨[], (List.append_nil _).symm, (List.append_nil _).symm⟩
  attempts := h.attempts
  counted := h.counted
  fewer := fun _ => List.Sublist.refl _

theorem pumped_init (h : Sane c s) : Pumped c { tasks := s } { tasks := s } where
  sane := h
  returned := ⟨[], (List.append_nil _).symm, rfl⟩
  attempts := Nat.zero_le _
  counted := rfl
  fewer := fun _ => List.Sublist.refl _

theorem pump_spec (h : Sane c s) (now : Nat) (send : Nat → Nat → PendingMsg → DispatchResult)
    (valid : Nat → PendingMsg → Bool) : Pumped c { tasks := s } (pump c now send valid s) :=
  visit_spec send _ (expireAll_spec now valid (pumped_init h) _).1

/-- No outdated task is left. -/
theorem pump_not_outdated (h : Sane c s) {w : Nat}
    (ht : t ∈ ((pump c now send valid s).tasks.queues w).tasks) : outdated now valid t = false := by
  obtain ⟨hswept, hclean⟩ :=
    expireAll_spec now valid (pumped_init h) (List.range c.workers)
  have hw : w < c.workers := (h.queued w t ((pump_spec h now send valid).fewer w |>.subset ht)).2.1
  have hafter := visit_spec send c.workers hswept.refl
  exact hclean w (List.mem_range.mpr hw) t ((hafter.fewer w).subset ht)

end Pump

section Cancel

theorem cancelQueue_sane (session : Nat) (h : Sane c s) (worker : Nat) :
    Sane c (cancelQueue session s worker) := by
  have hrule := eraseWhere_rule (fun t => !t.lifecycle && t.message.session == session)
    (P := fun s' tasks => Sane c s' ∧ (s'.queues worker).tasks = tasks)
    (fun s t tasks => s.remove worker t tasks (.cancelled t.id))
    (fun s' kept t rest hgone hP => by
      have hbusiness : t.lifecycle = false := by
        cases hl : t.lifecycle with
        | false => rfl
        | true => simp [hl] at hgone
      refine ⟨remove_sane hP.1 hP.2 (.cancelled hbusiness), ?_⟩
      rw [remove_tasks, if_pos rfl])
    (s.queues worker).tasks [] s ⟨h, rfl⟩
  exact hrule.1

theorem cancelSession_sane (h : Sane c s) (session : Nat) : Sane c (cancelSession c s session) := by
  refine List.foldlRecOn (motive := Sane c) _ _ h fun s' hs' worker _ => ?_
  exact cancelQueue_sane session hs' worker

end Cancel

/-- A call from the network thread, with the answers of `send` and of the validity check. -/
inductive Call where
  | submit (worker : Nat) (message : PendingMsg) (lifecycle : Bool) (now : Nat)
    (result : DispatchResult)
  | pump (now : Nat) (send : Nat → Nat → PendingMsg → DispatchResult)
    (valid : Nat → PendingMsg → Bool)
  | cancelSession (session : Nat)

def call (c : PendingConfig) (s : WorkerPendingTasks) : Call → WorkerPendingTasks
  | .submit worker message lifecycle now result =>
    (s.submit c worker message lifecycle now result).1
  | .pump now send valid => (pump c now send valid s).tasks
  | .cancelSession session => cancelSession c s session

/-- The state after a sequence of calls. -/
def run (c : PendingConfig) (calls : List Call) : WorkerPendingTasks := calls.foldl (call c) {}

theorem call_sane (h : Sane c s) (l : Call) : Sane c (call c s l) := by
  cases l with
  | submit worker message lifecycle now result => exact submit_sane message now h ..
  | pump now send valid => exact (pump_spec h now send valid).sane
  | cancelSession session => exact cancelSession_sane h session

theorem run_sane (c : PendingConfig) (calls : List Call) : Sane c (run c calls) := by
  refine List.foldlRecOn (motive := Sane c) calls _ (sane_init c) fun s hs l _ => ?_
  exact call_sane hs l

/-- What a worker accepted was submitted for it. -/
theorem Sane.submitted_of_accepted (h : Sane c s) {id w : Nat} (he : Event.accepted id w ∈ s.log) :
    ∃ lifecycle, Event.submitted id w lifecycle ∈ s.log := by
  have hmem : id ∈ acceptedBy w s.log := List.mem_filterMap.mpr ⟨_, he, by simp⟩
  exact mem_submittedFor.mp ((h.order w).subset (List.mem_append_left _ hmem))

theorem exists_ends {id : Nat} {log : List Event} (h : ended id log = 1) :
    ∃ e ∈ log, e.ends id = true :=
  List.countP_pos_iff.mp (Nat.lt_of_lt_of_eq Nat.one_pos h.symm)

/-- A message that waits anywhere waits for the worker it was submitted for. -/
theorem Sane.waits_at (h : Sane c s) {id w w' : Nat} {lifecycle : Bool}
    (hsubmitted : Event.submitted id w lifecycle ∈ s.log) (hwaits : id ∈ ids (s.queues w')) :
    w' = w ∧ ∃ t ∈ (s.queues w).tasks, t.id = id ∧ t.lifecycle = lifecycle := by
  obtain ⟨t, ht, hid⟩ := List.mem_map.mp hwaits
  have hq := (h.queued w' t ht).1
  rw [hid] at hq
  obtain ⟨rfl, hl⟩ := h.once _ _ _ _ _ hq hsubmitted
  exact ⟨rfl, t, ht, hid, hl⟩

/-- A lifecycle message for a worker there is reaches it, or waits for it. -/
theorem Sane.lifecycle_kept (h : Sane c s) {id w : Nat} (hw : w < c.workers)
    (hsubmitted : Event.submitted id w true ∈ s.log) :
    Event.accepted id w ∈ s.log ∨ id ∈ ids (s.queues w) := by
  obtain ⟨hrefused, hrejected, hcancelled⟩ := h.kept id w hsubmitted
  rcases h.fate id (h.known _ _ _ hsubmitted) with hend | ⟨-, w', hwaits⟩
  · obtain ⟨e, he, hid⟩ := exists_ends hend
    cases e with
    | submitted => cases hid
    | accepted i w' =>
      cases of_decide_eq_true hid
      obtain ⟨_, hother⟩ := h.submitted_of_accepted he
      exact .inl ((h.once _ _ _ _ _ hother hsubmitted).1 ▸ he)
    | refused i =>
      cases of_decide_eq_true hid
      exact absurd (hrefused he) (Nat.not_le_of_lt hw)
    | rejected i r =>
      cases of_decide_eq_true hid
      exact absurd he (hrejected r)
    | cancelled i =>
      cases of_decide_eq_true hid
      exact absurd he hcancelled
  · exact .inr ((h.waits_at hsubmitted hwaits).1 ▸ hwaits)

/-- What holds of the waiting tasks at any time, and what the next call of `pump` does. -/
structure Disciplined (c : PendingConfig) (s : WorkerPendingTasks) : Prop where
  /-- A worker accepts in the order of the submits, and what waits for it comes after. -/
  order : ∀ w, List.Sublist (acceptedBy w s.log ++ ids (s.queues w)) (submittedFor w s.log) ∧
    (submittedFor w s.log).Pairwise (· < ·)
  /-- A lifecycle message is not lost. -/
  lifecycles : ∀ id w, w < c.workers → Event.submitted id w true ∈ s.log →
    (Event.accepted id w ∈ s.log ∨ id ∈ ids (s.queues w)) ∧ Event.refused id ∉ s.log ∧
      (∀ r, Event.rejected id r ∉ s.log) ∧ Event.cancelled id ∉ s.log
  /-- A message for a worker there is not is refused and kept nowhere. -/
  unknown : ∀ w, c.workers ≤ w →
    (∀ id lifecycle, Event.submitted id w lifecycle ∈ s.log →
      Event.refused id ∈ s.log ∧ ∀ w', id ∉ ids (s.queues w')) ∧
    ∀ message lifecycle now result,
      (s.submit c w message lifecycle now result).2 = .internalError
  /-- A message ended exactly once, or it has not ended and waits. -/
  fate : ∀ id w lifecycle, Event.submitted id w lifecycle ∈ s.log →
    ended id s.log = 1 ∧ (∀ w', id ∉ ids (s.queues w')) ∨
      ended id s.log = 0 ∧ (ids (s.queues w)).count id = 1
  /-- The counters are those of the contents, so they are not negative. -/
  counters : ∀ w, (s.queues w).stats.businessTasks = (business (s.queues w).tasks).length ∧
    (s.queues w).stats.businessBytes =
      ((business (s.queues w).tasks).map fun t => c.sizeofTask + t.message.body.length).sum ∧
    (s.queues w).stats.lifecycleTasks = (Net.lifecycles (s.queues w).tasks).length
  limits : ∀ w, (s.queues w).stats.businessTasks ≤ c.limits.maxBusinessTasks ∧
    (s.queues w).stats.businessBytes ≤ c.limits.maxBusinessBytes
  /-- `pump` keeps to its budget, returns what it rejects, and no outdated task waits after it. -/
  pump : ∀ now send valid, (pump c now send valid s).sends.length ≤ c.limits.globalAttempts ∧
    (∃ l, (pump c now send valid s).tasks.log = s.log ++ l ∧
      (pump c now send valid s).rejected = rejectedIn l) ∧
    ∀ w, ∀ t ∈ ((pump c now send valid s).tasks.queues w).tasks, t.lifecycle = false →
      now < t.deadline ∧ valid t.id t.message = true

theorem Sane.disciplined (h : Sane c s) : Disciplined c s where
  order := fun w => ⟨h.order w, h.numbered w⟩
  lifecycles := fun id w hw hsubmitted => by
    obtain ⟨hrefused, hrejected, hcancelled⟩ := h.kept id w hsubmitted
    exact ⟨h.lifecycle_kept hw hsubmitted, fun he => Nat.not_le_of_lt hw (hrefused he),
      hrejected, hcancelled⟩
  unknown := fun w hw => by
    refine ⟨fun id lifecycle hsubmitted => ⟨h.unknown id w lifecycle hw hsubmitted, fun w' hwaits => ?_⟩,
      fun message lifecycle now result => ?_⟩
    · obtain ⟨rfl, t, ht, -, -⟩ := h.waits_at hsubmitted hwaits
      exact absurd hw (Nat.not_le_of_lt (h.queued w' t ht).2.1)
    · rw [submit]
      exact congrArg Prod.snd (if_pos hw)
  fate := fun id w lifecycle hsubmitted => by
    rcases h.fate id (h.known _ _ _ hsubmitted) with hend | ⟨hopen, w', hwaits⟩
    · refine .inl ⟨hend, fun w' hwaits => ?_⟩
      obtain ⟨t, ht, rfl⟩ := List.mem_map.mp hwaits
      have hopen := (h.queued w' t ht).2.2
      omega
    · obtain ⟨rfl, -⟩ := h.waits_at hsubmitted hwaits
      exact .inr ⟨hopen, List.count_eq_one_of_mem (h.nodup_ids w') hwaits⟩
  counters := fun w => by
    have hc := h.counted w
    refine ⟨hc.businessTasks, ?_, hc.lifecycleTasks⟩
    rw [hc.businessBytes, bytesOf]
    congr 2
    exact List.map_congr_left fun t ht => hc.bytes t (List.mem_filter.mp ht).1
  limits := fun w => by
    have hc := h.counted w
    have htasks := h.tasksLimited w
    have hbytes := h.bytesLimited w
    have hbusinessTasks := hc.businessTasks
    have hbusinessBytes := hc.businessBytes
    omega
  pump := fun now send valid => by
    have hp := pump_spec h now send valid
    obtain ⟨l, hlog, hreturned⟩ := hp.returned
    refine ⟨Nat.le_trans (Nat.le_of_eq hp.counted) hp.attempts, ⟨l, hlog, hreturned⟩, ?_⟩
    intro w t ht hbusiness
    have hold := pump_not_outdated h ht
    simpa [outdated, hbusiness] using hold

/-- Every sequence of calls, whatever `send` and the validity check answer. -/
theorem run_disciplined (c : PendingConfig) (calls : List Call) : Disciplined c (run c calls) :=
  (run_sane c calls).disciplined

/-- A message for a worker there is not is refused, also when it is a lifecycle message. -/
theorem lifecycle_of_unknown_worker : ∃ (c : PendingConfig) (calls : List Call) (id w : Nat),
    Event.submitted id w true ∈ (run c calls).log ∧ Event.refused id ∈ (run c calls).log ∧
      ∀ w', id ∉ ids ((run c calls).queues w') :=
  ⟨{ workers := 1, limits := {}, sizeofTask := 200, workers_pos := by decide,
      limits_valid := by decide },
    [.submit 1 { session := 7, body := [] } true 0 .kAccepted], 0, 1, by decide, by decide,
    nofun⟩

end WorkerPendingTasks

end Net
