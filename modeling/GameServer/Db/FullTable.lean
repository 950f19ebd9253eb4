import GameServer.Db.DeliveryRun

/-!
# A table that is full

A worker's table fills up with tasks that the bus does not take, and then a record
that is settled makes room. The DB threads see nothing of the tables: what they do is
the same whatever the workers' records and the history before it are.
-/

namespace Db

open Function (update)
open History (Lawful)

namespace DbSystem

variable {cfg : DeliveryConfig} {g g' : DbSystem} {id w : Nat} {c : Channel}

section Beside

variable (W : Nat → PendingDbTasks) (R : Nat → Option Msg) (L : List Event)

/-- The system with other tables, other requests and a longer past. -/
def beside (g : DbSystem) : DbSystem :=
  { g with workers := W, requests := R, log := L ++ g.log }

@[simp] theorem beside_ledger : (beside W R L g).ledger = g.ledger := rfl
@[simp] theorem beside_queue : (beside W R L g).queue = g.queue := rfl
@[simp] theorem beside_controls : (beside W R L g).controls = g.controls := rfl

/-- A step of a DB channel that looks at its queue, its controls or its results. -/
def Step.onChannel : Step → Bool
  | .round .. | .processControl .. | .flushResults .. => true
  | _ => false

theorem foldl_beside (ms : List Msg) (g : DbSystem) :
    ms.foldl postWorker (beside W R L g) = beside W R L (ms.foldl postWorker g) := by
  induction ms generalizing g with
  | nil => rfl
  | cons m ms ih => exact ih (postWorker g m)

theorem flushResults_beside (f : Flush) :
    flushResults cfg (beside W R L g) c f = beside W R L (flushResults cfg g c f) := by
  unfold flushResults
  simp only [← foldl_beside]
  simp only [beside, List.append_assoc]

theorem replyResult_beside (task : Msg) (res : DbResult) (f : Flush) :
    replyResult cfg (beside W R L g) c task res f = beside W R L (replyResult cfg g c task res f) := by
  unfold replyResult
  cases hfinish : (g.ledger c).finish task (replyMsg task res) with
  | none => simp [beside, hfinish]
  | some l =>
    simp only [← flushResults_beside]
    simp only [beside, hfinish, List.append_assoc]

theorem queueNotice_beside (notice : Msg) :
    queueNotice (beside W R L g) c notice = beside W R L (queueNotice g c notice) := rfl

theorem execute_beside (task : Msg) (dbTask : DbTask) (now : Int) (res : DbResult) (f : Flush) :
    execute cfg (beside W R L g) c task dbTask now res f =
      beside W R L (execute cfg g c task dbTask now res f) := by
  have hlog : ({ beside W R L g with
      log := (beside W R L g).log ++ [Event.executed c task.head.taskId res.classification] } :
        DbSystem) = beside W R L
      { g with log := g.log ++ [Event.executed c task.head.taskId res.classification] } := by
    simp [beside]
  unfold execute
  simp only [hlog, replyResult_beside]
  split
  · cases hq : g.retries.schedule task dbTask res 1 now <;> simp [beside, hq]
  · rfl

theorem acceptTask_beside (task : Msg) (now : Int) (res : DbResult) (f : Flush) :
    acceptTask cfg (beside W R L g) c task now res f =
      beside W R L (acceptTask cfg g c task now res f) := by
  have hlog : ∀ (l : DbResultLedger) (a : Admission), ({ beside W R L g with
      ledger := update (beside W R L g).ledger c l
      log := (beside W R L g).log ++ [Event.admitted c task.head.taskId a] } : DbSystem) =
      beside W R L
        { g with
          ledger := update g.ledger c l
          log := g.log ++ [Event.admitted c task.head.taskId a] } := by
    simp [beside]
  unfold acceptTask
  simp only [hlog, queueNotice_beside, flushResults_beside, replyResult_beside, execute_beside]
  rw [beside_ledger]
  obtain ⟨a, l⟩ := (g.ledger c).accept task
  cases a with
  | conflict => rfl
  | duplicate => rfl
  | new =>
    simp only
    split <;> rfl

theorem hasCapacity_beside (victim : Nat) :
    hasCapacity (beside W R L g) c victim =
      (hasCapacity g c victim).map fun (ok, g) => (ok, beside W R L g) := by
  unfold hasCapacity
  rw [beside_ledger, Option.map_map]
  congr 1
  funext ⟨ok, evicted, l⟩
  simp [beside]

theorem round_beside (i victim : Nat) (now : Int) (res : DbResult) (f : Flush) :
    round cfg (beside W R L g) c i victim now res f =
      (round cfg g c i victim now res f).map (beside W R L) := by
  unfold round
  rw [hasCapacity_beside, Option.map_map, Option.map_map]
  congr 1
  funext ⟨ok, g⟩
  simp only [Function.comp, beside_queue]
  cases ok with
  | false => rfl
  | true =>
    cases (g.queue c)[i]? with
    | none => rfl
    | some task =>
      exact @acceptTask_beside cfg { g with queue := update g.queue c ((g.queue c).eraseIdx i) } c
        W R L task now res f

theorem processControl_beside (i : Nat) :
    processControl (beside W R L g) c i = (processControl g c i).map (beside W R L) := by
  unfold processControl
  rw [beside_controls]
  cases (g.controls c)[i]? with
  | none => rfl
  | some m =>
    simp only [beside_ledger]
    split <;> rfl

/-- What the DB threads do does not depend on the tables of the workers. -/
theorem exec_beside {steps : List Step} (hsteps : ∀ s ∈ steps, s.onChannel = true) :
    Run.exec (step cfg) (beside W R L g) steps =
      (Run.exec (step cfg) g steps).map (beside W R L) := by
  induction steps generalizing g with
  | nil => rfl
  | cons s steps ih =>
    have hstep : step cfg (beside W R L g) s = (step cfg g s).map (beside W R L) := by
      have hs := hsteps s List.mem_cons_self
      cases s with
      | round c i victim now res f => exact round_beside W R L ..
      | processControl c i => exact processControl_beside W R L i
      | flushResults c f => exact congrArg some (flushResults_beside W R L f)
      | _ => cases hs
    rw [Run.exec_cons, Run.exec_cons, hstep]
    cases step cfg g s with
    | none => rfl
    | some g' => exact ih fun x hx => hsteps x (List.mem_cons_of_mem _ hx)

theorem usedOnce_onChannel {s : Step} (hs : s.onChannel = true) : UsedOnce g s := by
  cases s with
  | submit w request now room victim => cases hs
  | _ => trivial

end Beside

section Fill

variable {m : Msg} {now : Int} {first : Nat}

def numbered (m : Msg) (id : Nat) : Msg := { m with head := { m.head with taskId := id } }

/-- The request as its worker registers it. -/
def ownedBy (w : Nat) (m : Msg) : Msg := { m with head := { m.head with srcWorkerId := w } }

/-- A new task for the MySQL thread: it has its record, and it is in the queue if that had room. -/
theorem submitDbTask_new {victim : Nat} {room : Bool} {q : PendingDbTasks}
    (hid : m.head.taskId ≠ 0) (htype : m.head.msgType = .dbTaskMySql)
    (hroom : (g.workers w).makeRoom m.head.taskId now victim = some (some q))
    (hfresh : q.tasks.lookup m.head.taskId = none) (hnone : g.task w m.head.taskId = none) :
    ∃ t p, p.tasks = q.tasks.insert m.head.taskId t ∧
      g.submitDbTask cfg w m now (fun _ => room) victim = some
        { g with
          workers := update g.workers w p
          requests := update g.requests m.head.taskId
            ((g.requests m.head.taskId).or (some (ownedBy w m)))
          queue :=
            if room then update g.queue .mysql (g.queue .mysql ++ [ownedBy w m]) else g.queue
          log := g.log ++
            ((if (g.task w victim).isSome && (p.tasks.lookup victim).isNone then [.forgotten w victim]
              else []) ++ [.registered w m.head.taskId]) } := by
  have htask : isDbTask m.head.msgType = true := by rw [htype]; rfl
  have hsend : sendToDb cfg (fun _ => room) (ownedBy w m) =
      if room then .accepted else .backpressure := by
    simp [sendToDb, ownedBy, htype, isDbTask]
  have hlookup : (g.workers w).tasks.lookup m.head.taskId = none := hnone
  have hgood : isInvalid (sendToDb cfg (fun _ => room) (ownedBy w m)) = false := by
    rw [hsend]
    cases room <;> rfl
  have hsubmit := @PendingDbTasks.submit_new (g.workers w) q victim now (ownedBy w m)
    (sendToDb cfg fun _ => room) g.nextId htask hid hroom hfresh hgood
  have hkey : (if m.head.taskId = 0 then g.nextId else m.head.taskId) = m.head.taskId := if_neg hid
  have hno : ¬ (isDbTask m.head.msgType = true ∧ m.head.taskId = 0) := fun h => hid h.2
  have hchannel : channelOf (ownedBy w m).head = .mysql := by simp [channelOf, ownedBy, htype]
  refine ⟨PendingDbTasks.dispatch { request := ownedBy w m } now
      (sendToDb cfg (fun _ => room) (ownedBy w m)),
    { q.activate m.head.taskId with tasks := q.tasks.insert m.head.taskId _ }, rfl,
    Option.map_eq_some_iff.mpr ⟨_, hsubmit, ?_⟩⟩
  have hmade : (true && ((g.workers w).tasks.lookup
      (if m.head.taskId = 0 then g.nextId else m.head.taskId)).isNone) = true := by
    rw [hkey, hlookup]
    rfl
  dsimp only
  rw [hmade, hkey, if_neg hno, if_pos rfl, if_pos rfl, List.foldl_cons, List.foldl_nil]
  unfold postTask
  rw [hsend, hchannel]
  cases room <;> rfl

/-- Tasks of the numbers from `first` on, `n` of them, for which the queue has no room. -/
def refusals (w : Nat) (m : Msg) (now : Int) : Nat → Nat → List Step
  | _, 0 => []
  | first, n + 1 =>
    .submit w (numbered m first) now (fun _ => false) 0 :: refusals w m now (first + 1) n

/-- What the table of a worker and the history are after tasks that are not in a queue yet. -/
structure Filled (w first n : Nat) (g : DbSystem) (p : PendingDbTasks) (R : Nat → Option Msg)
    (L : List Event) : Prop where
  size : p.tasks.size = (g.workers w).tasks.size + n
  kept : ∀ j < first, p.tasks.lookup j = g.task w j ∧ R j = g.requests j
  free : ∀ j, first + n ≤ j → p.tasks.lookup j = none ∧ R j = none
  log : ∀ e ∈ L, ∃ j, first ≤ j ∧ e = .registered w j

theorem usedOnce_of_free {request : Msg} {room : Msg → Bool} {victim : Nat}
    (h : g.requests (g.numberOf request) = none) :
    UsedOnce g (.submit w request now room victim) := by
  refine .inr fun r hr => ?_
  rw [h] at hr
  cases hr

/-- As long as it has room, a table fills up with tasks that are refused. -/
theorem filled (htype : m.head.msgType = .dbTaskMySql) (n : Nat) (hfirst : 0 < first)
    (hroom : (g.workers w).tasks.size + n ≤ PendingDbTasks.kMaxTasks)
    (hzero : g.task w 0 = none) (hfree : ∀ j, first ≤ j → g.task w j = none ∧ g.requests j = none) :
    Run.Along (step cfg) UsedOnce g (refusals w m now first n) ∧
      ∃ p R L, Filled w first n g p R L ∧
        Run.exec (step cfg) g (refusals w m now first n) = some
          { g with workers := update g.workers w p, requests := R, log := g.log ++ L } := by
  induction n generalizing g first with
  | zero =>
    refine ⟨trivial, g.workers w, g.requests, [], ⟨rfl, fun _ _ => ⟨rfl, rfl⟩, hfree, by simp⟩, ?_⟩
    simp [refusals]
  | succ n ih =>
    have hnumber : (numbered m first).head.taskId = first := rfl
    obtain ⟨hnone, hreq⟩ := hfree first (Nat.le_refl first)
    have hmake : (g.workers w).makeRoom first now 0 = some (some (g.workers w)) := by
      unfold PendingDbTasks.makeRoom
      rw [if_pos (.inl (by omega))]
    obtain ⟨t, p, htasks, hstep⟩ := @submitDbTask_new cfg g w (numbered m first) now 0 false
      (g.workers w) (Nat.ne_of_gt hfirst) htype hmake hnone hnone
    simp only [hzero, hnumber, Option.isSome_none, Bool.false_and, Bool.false_eq_true, if_false,
      List.nil_append] at hstep htasks
    obtain ⟨g', hg'⟩ : ∃ g' : DbSystem, g' =
      { g with
        workers := update g.workers w p
        requests := update g.requests first
          ((g.requests first).or (some (ownedBy w (numbered m first))))
        log := g.log ++ [.registered w first] } := ⟨_, rfl⟩
    rw [← hg'] at hstep
    have htask : ∀ j, g'.task w j = if j = first then some t else g.task w j := by
      intro j
      simp [hg', task, htasks]
    have hrequests : ∀ j ≠ first, g'.requests j = g.requests j := by
      intro j hj
      simp [hg', hj]
    have hsize : (g'.workers w).tasks.size = (g.workers w).tasks.size + 1 := by
      simp only [hg', Function.update_self, htasks]
      exact Table.size_insert_of_none _ hnone
    obtain ⟨halong, p', R, L, hfilled, hexec⟩ := ih (g := g') (Nat.succ_pos first) (by omega)
      (by rw [htask, if_neg (Nat.ne_of_lt hfirst), hzero]) fun j hj => by
        have hne : j ≠ first := by omega
        rw [htask, if_neg hne, hrequests j hne]
        exact hfree j (by omega)
    refine ⟨⟨usedOnce_of_free ?_, fun u hu => ?_⟩, p', R, [.registered w first] ++ L, ⟨?_, ?_, ?_, ?_⟩, ?_⟩
    · rw [numberOf, hnumber, if_neg (Nat.ne_of_gt hfirst), hreq]
    · cases hstep.symm.trans hu
      exact halong
    · rw [hfilled.size, hsize]
      omega
    · intro j hj
      have hne : j ≠ first := Nat.ne_of_lt hj
      rw [(hfilled.kept j (by omega)).1, (hfilled.kept j (by omega)).2, htask, if_neg hne,
        hrequests j hne]
      exact ⟨rfl, rfl⟩
    · intro j hj
      exact hfilled.free j (by omega)
    · intro e he
      rcases List.mem_append.mp he with he | he
      · exact ⟨first, Nat.le_refl first, List.mem_singleton.mp he⟩
      · obtain ⟨j, hj, heq⟩ := hfilled.log e he
        exact ⟨j, by omega, heq⟩
    · rw [refusals, Run.exec_cons, show step cfg g (.submit w (numbered m first) now _ 0) = some g' from
        hstep, Option.bind_some, hexec, hg']
      simp

/-- In a full table a new task takes the place of a record that is settled. -/
theorem replaced {victim : Nat} {room : Bool} {t : Task} (hid : 0 < id)
    (htype : m.head.msgType = .dbTaskMySql)
    (hfull : PendingDbTasks.kMaxTasks ≤ (g.workers w).tasks.size) (hnone : g.task w id = none)
    (hvictim : g.task w victim = some t) (hold : PendingDbTasks.evictable now t = true) :
    ∃ p, p.tasks.size = (g.workers w).tasks.size ∧
      (∀ j ≠ id, p.tasks.lookup j = if j = victim then none else g.task w j) ∧
      g.submitDbTask cfg w (numbered m id) now (fun _ => room) victim = some
        { g with
          workers := update g.workers w p
          requests := update g.requests id
            ((g.requests id).or (some (ownedBy w (numbered m id))))
          queue :=
            if room then update g.queue .mysql (g.queue .mysql ++ [ownedBy w (numbered m id)])
            else g.queue
          log := g.log ++ [.forgotten w victim, .registered w id] } := by
  have hne : victim ≠ id := by
    rintro rfl
    rw [hnone] at hvictim
    cases hvictim
  have hlookup : (g.workers w).tasks.lookup victim = some t := hvictim
  have hany : (g.workers w).anyEvictable now = true :=
    List.any_eq_true.mpr ⟨_, Table.mem_entries.mpr hlookup, hold⟩
  have hmake : (g.workers w).makeRoom id now victim = some (some
      { (g.workers w).deactivate victim with tasks := (g.workers w).tasks.erase victim }) := by
    unfold PendingDbTasks.makeRoom
    have hno : ¬ ((g.workers w).tasks.size < PendingDbTasks.kMaxTasks ∨
        ((g.workers w).tasks.lookup id).isSome = true) := by
      rw [show (g.workers w).tasks.lookup id = none from hnone]
      simpa using hfull
    rw [if_neg hno, if_pos hany, hlookup]
    simp only [hold, if_true]
  have hfresh : ((g.workers w).tasks.erase victim).lookup id = none := by
    rw [Table.lookup_erase, if_neg hne.symm]
    exact hnone
  obtain ⟨t', p, htasks, hstep⟩ := @submitDbTask_new cfg g w (numbered m id) now victim room _
    (Nat.ne_of_gt hid) htype hmake hfresh hnone
  have hnumber : (numbered m id).head.taskId = id := rfl
  rw [hnumber] at htasks hstep
  have hlost : (p.tasks.lookup victim).isNone = true := by
    rw [htasks]
    simp [hne]
  refine ⟨p, ?_, fun j hj => ?_, ?_⟩
  · rw [htasks, Table.size_insert_of_none _ hfresh]
    exact Table.size_erase_of_lookup hlookup
  · rw [htasks, Table.lookup_insert, if_neg hj, Table.lookup_erase]
    rfl
  · rw [hstep, hvictim, hlost]
    rfl

/-- A request is submitted again after the table has filled up and its record has gone. -/
theorem resubmitted {a b : Nat} {ta tb : Task} (htype : m.head.msgType = .dbTaskMySql) (ha : 0 < a)
    (hab : a ≠ b) (hafirst : a < first) (hbfirst : b < first)
    (hroom : (g.workers w).tasks.size ≤ PendingDbTasks.kMaxTasks) (hzero : g.task w 0 = none)
    (hfree : ∀ j, first ≤ j → g.task w j = none ∧ g.requests j = none)
    (hta : g.task w a = some ta) (haold : PendingDbTasks.evictable now ta = true)
    (htb : g.task w b = some tb) (hbold : PendingDbTasks.evictable now tb = true)
    (hsame : ∀ r ∈ g.requests a, same r (ownedBy w (numbered m a)) = true) :
    ∃ steps, Run.Along (step cfg) UsedOnce g steps ∧ ∃ W R L,
      (∀ e ∈ L, ∃ j, e = .registered w j ∨ e = .forgotten w j) ∧
      Run.exec (step cfg) g steps = some (beside W R (g.log ++ L)
        { g with
          queue := update g.queue .mysql (g.queue .mysql ++ [ownedBy w (numbered m a)])
          log := [] }) := by
  obtain ⟨n, hn⟩ : ∃ n, (g.workers w).tasks.size + n = PendingDbTasks.kMaxTasks :=
    Nat.exists_eq_add_of_le hroom |>.imp fun _ h => h.symm
  obtain ⟨halong, p, R, L, hfilled, hexec⟩ := @filled cfg g w m now first htype n (by omega)
    (Nat.le_of_eq hn) hzero hfree
  obtain ⟨g₁, hg₁⟩ : ∃ g₁ : DbSystem, g₁ =
    { g with workers := update g.workers w p, requests := R, log := g.log ++ L } := ⟨_, rfl⟩
  rw [← hg₁] at hexec
  have htask₁ : ∀ j < first, g₁.task w j = g.task w j := fun j hj => by
    simp [hg₁, task, (hfilled.kept j hj).1]
  have hsize₁ : (g₁.workers w).tasks.size = PendingDbTasks.kMaxTasks := by
    simp [hg₁, hfilled.size, hn]
  have hnone₁ : g₁.task w (first + n) = none ∧ g₁.requests (first + n) = none := by
    simpa [hg₁, task] using hfilled.free (first + n) (Nat.le_refl _)
  -- the record of `a` makes room for one more task, and that of `b` for `a` again
  obtain ⟨p₂, hsize₂, hlookup₂, hstep₂⟩ := @replaced cfg g₁ (first + n) w m now a false ta (by omega)
    htype (Nat.le_of_eq hsize₁.symm) hnone₁.1 (by rw [htask₁ a hafirst, hta]) haold
  obtain ⟨g₂, hg₂⟩ : ∃ g₂, g₁.submitDbTask cfg w (numbered m (first + n)) now (fun _ => false) a =
    some g₂ := ⟨_, hstep₂⟩
  have heq₂ := Option.some.inj (hg₂.symm.trans hstep₂)
  have htask₂ : ∀ j < first, g₂.task w j = if j = a then none else g₁.task w j := fun j hj => by
    simpa [heq₂, task] using hlookup₂ j (by omega)
  have hrequests₂ : g₂.requests a = g.requests a := by
    have hne : a ≠ first + n := by omega
    simp [heq₂, hne, hg₁, (hfilled.kept a hafirst).2]
  obtain ⟨p₃, -, -, hstep₃⟩ := @replaced cfg g₂ a w m now b true tb ha htype
    (by simp [heq₂, hsize₂, hsize₁]) (by rw [htask₂ a hafirst, if_pos rfl])
    (by rw [htask₂ b hbfirst, if_neg hab.symm, htask₁ b hbfirst, htb]) hbold
  have hnumber : ∀ g : DbSystem, ∀ j ≠ 0, g.numberOf (numbered m j) = j := fun _ _ hj => if_neg hj
  refine ⟨refusals w m now first n ++
    [.submit w (numbered m (first + n)) now (fun _ => false) a,
      .submit w (numbered m a) now (fun _ => true) b], ?_, ?_⟩
  · refine Run.along_append halong hexec ⟨usedOnce_of_free ?_, fun g' hg' => ?_⟩
    · rw [hnumber _ _ (by omega), hnone₁.2]
    · cases hg₂.symm.trans hg'
      refine ⟨.inr ?_, fun _ _ => trivial⟩
      rw [hnumber _ _ (by omega), hrequests₂]
      exact hsame
  · refine ⟨update g₂.workers w p₃,
      update g₂.requests a ((g₂.requests a).or (some (ownedBy w (numbered m a)))),
      L ++ [.forgotten w a, .registered w (first + n), .forgotten w b, .registered w a],
      fun e he => ?_, ?_⟩
    · rcases List.mem_append.mp he with he | he
      · obtain ⟨j, -, heq⟩ := hfilled.log e he
        exact ⟨j, .inl heq⟩
      · simp only [List.mem_cons, List.not_mem_nil, or_false] at he
        rcases he with rfl | rfl | rfl | rfl
        · exact ⟨a, .inr rfl⟩
        · exact ⟨first + n, .inl rfl⟩
        · exact ⟨b, .inr rfl⟩
        · exact ⟨a, .inl rfl⟩
    · rw [Run.exec_append, hexec, Option.bind_some, Run.exec_cons,
        show step cfg g₁ (.submit w (numbered m (first + n)) now _ a) = some g₂ from hg₂,
        Option.bind_some, Run.exec_cons,
        show step cfg g₂ (.submit w (numbered m a) now _ b) = _ from hstep₃]
      simp [heq₂, hg₁, beside]

end Fill

end DbSystem

end Db
