import GameServer.Db.Delivery

/-!
# Runs of the workers and the DB threads

Every step keeps the invariant, provided that a task number is used for one
request. The history of a run then shows what a task goes through between its
admission as new and the eviction of its entry, and its worker between the making
of its record and the next.
-/

namespace Db

open Gateway (Bytes text)
open Function (update)
open History (Lawful since_of_goes since_of_ends mem_of_mem_since)

namespace DbSystem

variable {cfg : DeliveryConfig} {g g' : DbSystem} {id w : Nat} {c : Channel}

/-- The number that a request is registered under. -/
def numberOf (g : DbSystem) (request : Msg) : Nat :=
  if request.head.taskId = 0 then g.nextId else request.head.taskId

namespace Delivery

section Flush

/-- Results that are recorded are sent. -/
theorem sentAll (h : Delivery cfg g) {ms : List Msg}
    (hms : ∀ m ∈ ms, m.head.taskId ≠ 0 ∧
      .recorded c m.head.taskId m ∈ entryLife m.head.taskId g.log) :
    Delivery cfg { g with log := g.log ++ ms.map fun m => .sent c m.head.taskId m } := by
  induction ms generalizing g with
  | nil => simpa using h
  | cons m ms ih =>
    obtain ⟨hid, hrec⟩ := hms m List.mem_cons_self
    have hsent : Delivery cfg { g with log := g.log ++ [.sent c m.head.taskId m] } :=
      h.noted (fun _ => hrec) (mem_of_mem_since hrec) rfl
        (fun _ _ => ⟨rfl, rfl, rfl, rfl, rfl, rfl⟩) fun _ _ => rfl
    rw [List.map_cons, List.append_cons]
    refine ih hsent fun x hx => ?_
    obtain ⟨hxid, hxrec⟩ := hms x (List.mem_cons_of_mem _ hx)
    exact ⟨hxid, mem_entryLife hxrec rfl⟩

theorem deliveredAll (h : Delivery cfg g) {ms : List Msg}
    (hms : ∀ m ∈ ms, m.head.taskId ≠ 0 → isDbResult m.head.msgType = true →
      ∃ c, .recorded c m.head.taskId m ∈ g.log) : Delivery cfg (ms.foldl postWorker g) := by
  induction ms generalizing g with
  | nil => exact h
  | cons m ms ih =>
    rw [List.foldl_cons]
    exact ih (h.delivered (hms m List.mem_cons_self)) fun x hx => hms x (List.mem_cons_of_mem _ hx)

/-- The results that are due are sent again. -/
theorem flushResults (h : Delivery cfg g) (f : Flush) : Delivery cfg (g.flushResults cfg c f) := by
  have hrec : ∀ m ∈ ((g.ledger c).flush f.now fun k => sendToWorker cfg (f.room k)).2.1,
      m.head.taskId ≠ 0 ∧ .recorded c m.head.taskId m ∈ entryLife m.head.taskId g.log := by
    intro m hm
    obtain ⟨id, x, hx, hready, rfl⟩ := DbResultLedger.mem_flush_sent hm
    have hfiled := h.entry c id x hx
    obtain ⟨hlog, hid, -⟩ := hfiled.recorded hready
    rw [hid]
    exact ⟨hfiled.numbered, hlog⟩
  have hlog := h.sentAll hrec
  obtain ⟨hcapacity, hload⟩ := h.capacity c
  have hledger := hlog.ledgered (c := c)
    (l := ((g.ledger c).flush f.now fun k => sendToWorker cfg (f.room k)).1) (fun id x hx => ?_)
    (fun id hnone => ?_) (fun hc e he => ?_)
    (fun m hm => h.legacy c m (DbResultLedger.mem_flush_legacy (.inl hm)))
    ⟨hcapacity, le_trans (DbResultLedger.load_flush_le _) hload⟩
  · refine hledger.deliveredAll fun m hm hid hres => ?_
    rcases List.mem_append.mp hm with hm | hm
    · exact ⟨c, List.mem_append_left _ (mem_of_mem_since (hrec m (List.mem_filter.mp hm).1).2)⟩
    · have hmem : m ∈ (g.ledger c).legacy := @DbResultLedger.mem_flush_legacy (g.ledger c) f.now
        (fun k => sendToWorker cfg (f.room k)) m (.inr hm)
      rcases h.legacy c m hmem with hzero | hno
      · exact absurd hzero hid
      · rw [hno] at hres
        cases hres
  · rw [DbResultLedger.lookup_flush] at hx
    obtain ⟨y, hy, rfl⟩ := Option.map_eq_some_iff.mp hx
    obtain ⟨hreq, hres, hready, hack⟩ := @DbResultLedger.flushEntry_spec f.now
      (sendToWorker cfg (f.room 0) y.result) y
    have hfiled := hlog.entry c id y hy
    refine ⟨hfiled.numbered, hreq ▸ hfiled.named, hreq ▸ hfiled.channel, hfiled.admitted,
      fun hr => ?_, fun hr => hfiled.unrecorded (hready ▸ hr), fun ha => ?_⟩
    · rw [hres, hreq]
      exact hfiled.recorded (hready ▸ hr)
    · rw [hready, hreq]
      exact hfiled.acked (hack ▸ ha)
  · rw [DbResultLedger.lookup_flush] at hnone
    exact Option.map_eq_none_iff.mp hnone
  · subst hc
    obtain ⟨w1, w2, w3, y, hy, hyready, hyreq⟩ := hlog.waiting e he
    refine ⟨w1, w2, w3, ?_⟩
    rw [DbResultLedger.lookup_flush]
    obtain ⟨hreq, -, hready, -⟩ := @DbResultLedger.flushEntry_spec f.now
      (sendToWorker cfg (f.room 0) y.result) y
    exact ⟨_, Option.map_eq_some_iff.mpr ⟨y, hy, rfl⟩, hready.trans hyready, hreq.trans hyreq⟩

end Flush

section Execution

variable {request : Msg} {res : DbResult} {f : Flush} {k : Nat}

/-- A result that is recorded is sent at once, with the others that are due. -/
theorem replied (h : ∃ l, (g.ledger c).finish request (replyMsg request res) = some l ∧
      Delivery cfg
        { g with
          ledger := update g.ledger c l
          log := g.log ++ [.recorded c request.head.taskId (replyMsg request res)] }) :
    Delivery cfg (g.replyResult cfg c request res f) := by
  obtain ⟨l, hl, hdone⟩ := h
  unfold replyResult
  rw [hl]
  exact hdone.flushResults f

theorem Open.ran (ho : Open g c request k) (cls : ResultClass) :
    executions request.head.taskId (entryLife request.head.taskId
        (g.log ++ [Event.executed c request.head.taskId cls])) =
      List.replicate k .retryable ++ [cls] := by
  unfold entryLife
  rw [since_of_goes rfl, executions_append]
  have := ho.executed
  unfold entryLife at this
  rw [this]
  simp [executions]

/-- A task that has had `k` executions is executed: it waits again, or its result is recorded. -/
theorem attempt (h : Delivery cfg g) (ho : Open g c request k)
    (hk : k < TransactionRetries.kMaxAttempts) (dbTask : DbTask) (res : DbResult) (now : Int)
    (f : Flush) :
    let g' := { g with log := g.log ++ [Event.executed c request.head.taskId res.classification] }
    Delivery cfg (g'.replyResult cfg c request res f) ∧
      ∀ q, c = .mysql → g.retries.schedule request dbTask res (k + 1) now = some q →
        Delivery cfg { g' with retries := q } := by
  intro g'
  have hran := h.ran ho hk res.classification
  refine ⟨replied (hran.finished ho.entry ho.apart), fun q hc hq => ?_⟩
  obtain ⟨-, hcls, hpos, hlt, hentries⟩ := TransactionRetries.schedule_spec hq
  subst hc
  refine hran.rescheduled ⟨ho.numbered, ?_, ho.entry, ho.apart⟩ ⟨hpos, hlt⟩ hentries
  rw [ho.ran, hcls, List.replicate_succ']

theorem execute (h : Delivery cfg g) (ho : Open g c request 0) (dbTask : DbTask) (now : Int)
    (res : DbResult) : Delivery cfg (g.execute cfg c request dbTask now res f) := by
  obtain ⟨hdone, hagain⟩ := h.attempt ho (by decide) dbTask res now f
  unfold DbSystem.execute
  simp only
  split
  · rename_i hc
    split
    · rename_i q hq
      exact hagain q hc hq
    · exact hdone
  · exact hdone

/-- A task without a number is executed: its result is recorded. -/
theorem executePlain (h : Delivery cfg g) (hid : request.head.taskId = 0) {dbTask : DbTask}
    (hkind : dbTask.kind ≠ 4 ∧ dbTask.kind ≠ 5) (hroom : (g.ledger c).load < cfg.capacity)
    (now : Int) (res : DbResult) : Delivery cfg (g.execute cfg c request dbTask now res f) := by
  have hran : Delivery cfg
      { g with log := g.log ++ [Event.executed c request.head.taskId res.classification] } := by
    refine h.logged (fun hne => absurd hid hne) (fun hne => absurd hid hne) (mild_of_plain hid)
      fun e he => executions_other fun heq => (h.waiting e he).numbered (heq.symm.trans hid)
  have hdone : Delivery cfg (DbSystem.replyResult cfg _ c request res f) :=
    replied (hran.finishedPlain hid hroom)
  unfold DbSystem.execute
  simp only
  split
  · split
    · rename_i q hq
      have := (TransactionRetries.schedule_spec hq).1
      tauto
    · exact hdone
  · exact hdone

end Execution

section Round

/-- Room in a ledger: an entry may be evicted, the queues stay. -/
theorem hasCapacity (h : Delivery cfg g) {ok : Bool} {victim : Nat}
    (hcap : g.hasCapacity c victim = some (ok, g')) :
    Delivery cfg g' ∧ g'.queue = g.queue ∧
      (ok = true → (g'.ledger c).load < cfg.capacity) := by
  obtain ⟨⟨ok', evicted, l⟩, hl, heq⟩ := Option.map_eq_some_iff.mp hcap
  cases heq
  obtain ⟨hcapacity, hload⟩ := h.capacity c
  rcases DbResultLedger.hasCapacity_spec hl with ⟨rfl, rfl, hroom⟩ |
    ⟨rfl, rfl, hfull, x, hx, hack, rfl⟩
  · refine ⟨?_, rfl, fun hok => ?_⟩
    · simpa using h
    · simpa [hcapacity] using hroom hok
  have hfiled := h.entry c _ x hx
  obtain ⟨hready, hacked⟩ := hfiled.acked hack
  obtain ⟨hrec, -, hsrc⟩ := hfiled.recorded hready
  have hsize : Table.size (AList.erase evicted (g.ledger c).entries) + 1 =
      (g.ledger c).entries.size := Table.size_erase_of_lookup hx
  have hless : ({ g.ledger c with entries := (g.ledger c).entries.erase evicted } :
      DbResultLedger).load < cfg.capacity := by
    unfold DbResultLedger.load at hload ⊢
    simp only at hload ⊢
    omega
  refine ⟨?_, rfl, fun _ => ?_⟩
  · rw [if_neg hfiled.numbered]
    refine @entered cfg g evicted c _ h _ rfl (fun _ => ⟨x.result, hrec, hsrc ▸ hacked⟩)
      hfiled.named.known (fun _ => ⟨rfl, rfl, rfl⟩) (h.count_later fun _ _ => rfl) (h.unsent_later fun _ _ => rfl)
      (fun y hy => ?_) (fun j hj => ?_) (fun d hd => ?_) (fun _ => ?_) (fun e he heq => ?_) rfl
      ⟨hcapacity, Nat.le_of_lt hless⟩
    · rw [Table.lookup_erase, if_pos rfl] at hy
      cases hy
    · rw [Table.lookup_erase, if_neg hj]
    · by_contra hne
      obtain ⟨y, hy⟩ := Option.ne_none_iff_exists'.mp hne
      exact hd (h.one_entry hx hy)
    · exact since_of_ends (by simp [Event.evicts])
    · -- what waits has no result yet
      obtain ⟨y, hy, hyready, -⟩ := (h.waiting e he).entry
      rw [heq] at hy
      obtain rfl := h.one_entry hx hy
      cases hx.symm.trans hy
      rw [hready] at hyready
      cases hyready
  · show (update g.ledger c _ c).load < cfg.capacity
    rw [Function.update_self]
    exact hless

variable {request : Msg} {i : Nat}

/-- A task that is admitted has left its queue. -/
theorem left (h : Delivery cfg g) (hm : (g.queue c)[i]? = some request)
    (hid : request.head.taskId ≠ 0) (a : Admission) :
    admissions request.head.taskId g.log < registrations request.head.taskId g.log ∧
      (∀ j ≠ 0, ∀ d,
        (update g.queue c ((g.queue c).eraseIdx i) d).countP (·.head.taskId = j) +
            admissions j (g.log ++ [.admitted c request.head.taskId a]) ≤
          registrations j (g.log ++ [.admitted c request.head.taskId a])) ∧
      ∀ w j t, g.task w j = some t → t.state = .pendingDispatch → ∀ d,
        (update g.queue c ((g.queue c).eraseIdx i) d).countP (·.head.taskId = j) +
            admissions j (g.log ++ [.admitted c request.head.taskId a]) <
          registrations j (g.log ++ [.admitted c request.head.taskId a]) := by
  have hgone := h.gone hm hid
  have hpop := h.popped c i
  have hadm : ∀ j, admissions j [.admitted c request.head.taskId a] =
      if request.head.taskId = j then 1 else 0 := fun j => by
    by_cases hj : request.head.taskId = j <;> simp [admissions, Event.admits, hj]
  have hreg : ∀ j, registrations j [.admitted c request.head.taskId a] = 0 := fun _ => rfl
  refine ⟨?_, fun j hj d => ?_, fun w j t ht hs d => ?_⟩
  · have := h.count _ hid c
    have := hgone c
    omega
  · rw [admissions_append, registrations_append, hadm, hreg]
    by_cases heq : request.head.taskId = j
    · subst heq
      have := h.count _ hid c
      have := hgone d
      rw [if_pos rfl]
      omega
    · have := hpop.count j hj d
      rw [if_neg heq]
      exact this
  · rw [admissions_append, registrations_append, hadm, hreg]
    by_cases heq : request.head.taskId = j
    · subst heq
      have := h.unsent w _ t ht hs c
      have := hgone d
      rw [if_pos rfl]
      omega
    · have := hpop.unsent w j t ht hs d
      rw [if_neg heq]
      exact this

/-- A task without an entry is admitted as new. -/
theorem admitted (h : Delivery cfg g) (hm : (g.queue c)[i]? = some request)
    (hid : request.head.taskId ≠ 0)
    (hfresh : (g.ledger c).entries.lookup request.head.taskId = none)
    (hroom : (g.ledger c).load < cfg.capacity) :
    let g' : DbSystem :=
      { g with
        queue := update g.queue c ((g.queue c).eraseIdx i)
        ledger := update g.ledger c
          { g.ledger c with
            entries := (g.ledger c).entries.insert request.head.taskId { request } }
        log := g.log ++ [.admitted c request.head.taskId .new] }
    Delivery cfg g' ∧ Open g' c request 0 := by
  obtain ⟨hnamed, hchan⟩ := h.queued c request (List.mem_of_getElem? hm) hid
  obtain ⟨hless, hcount, hunsent⟩ := h.left hm hid .new
  obtain ⟨hcapacity, hload⟩ := h.capacity c
  have hnobody : ∀ d, (g.ledger d).entries.lookup request.head.taskId = none := by
    intro d
    by_contra hne
    obtain ⟨x, hx⟩ := Option.ne_none_iff_exists'.mp hne
    have hfiled := h.entry d _ x hx
    obtain rfl : d = c := by rw [← hfiled.channel, ← hchan, hfiled.named.channelOf hnamed]
    rw [hfresh] at hx
    cases hx
  have hdormant := h.dormant _ hid hnobody
  obtain ⟨hexec, hrec⟩ := dormant_quiet h.lawful hid hdormant
  have hapart : ∀ e ∈ g.retries.entries, e.request.head.taskId ≠ request.head.taskId := by
    intro e he heq
    obtain ⟨x, hx, -⟩ := (h.waiting e he).entry
    rw [heq, hnobody] at hx
    cases hx
  refine ⟨?_, hid, ?_, ⟨{ request }, by simp, rfl, rfl⟩, hapart⟩
  · refine @entered cfg _ request.head.taskId c _ (h.popped c i) _ rfl
      (fun _ => ⟨hless, nofun, nofun, fun _ => hdormant⟩) hnamed.known
      (fun _ => ⟨rfl, rfl, rfl⟩) hcount hunsent (fun y hy => ?_) (fun j hj => ?_)
      (fun d _ => hnobody d) (fun hnone => ?_) hapart rfl ⟨hcapacity, ?_⟩
    · simp only [Table.lookup_insert, if_true] at hy
      cases hy
      refine ⟨hid, hnamed, hchan, last_mem_entryLife rfl, nofun, fun _ => ?_, nofun⟩
      unfold entryLife at hrec ⊢
      rw [since_of_goes rfl, recordings_append]
      exact (List.append_nil _).trans hrec
    · rw [Table.lookup_insert, if_neg hj]
    · simp at hnone
    · have := Table.size_insert_le (g.ledger c).entries request.head.taskId { request }
      unfold DbResultLedger.load at hroom ⊢
      simp only at hroom ⊢
      omega
  · unfold entryLife at hexec ⊢
    rw [since_of_goes rfl, executions_append]
    exact (List.append_nil _).trans hexec

/-- A task that has an entry is admitted again, as a duplicate. -/
theorem readmitted (h : Delivery cfg g) (hm : (g.queue c)[i]? = some request)
    (hid : request.head.taskId ≠ 0) {x : LedgerEntry}
    (hx : (g.ledger c).entries.lookup request.head.taskId = some x) :
    Delivery cfg
      { g with
        queue := update g.queue c ((g.queue c).eraseIdx i)
        log := g.log ++ [.admitted c request.head.taskId .duplicate] } := by
  obtain ⟨hnamed, -⟩ := h.queued c request (List.mem_of_getElem? hm) hid
  obtain ⟨hless, hcount, hunsent⟩ := h.left hm hid .duplicate
  have hpop := h.popped c i
  exact
    { hpop with
      lawful := h.lawful.append
        fun _ => ⟨hless, nofun, fun _ => (h.entry c _ x hx).admitted, nofun⟩
      fresh := h.fresh_later fun _ => hnamed.known
      known := h.known_later _
      settled := h.settled_later fun _ _ => ⟨rfl, rfl⟩
      vacant := h.vacant_later fun _ _ => rfl
      count := hcount
      unsent := hunsent
      entry := h.entry_later fun _ _ => ⟨rfl, rfl⟩
      dormant := h.dormant_later nofun
      waiting := h.waiting_later (fun _ _ => rfl) fun _ _ => rfl
      inbox := h.inbox_later _
      controls := h.controls_later _ }

/-- A task that is taken out of its queue is executed if it is new. -/
theorem acceptTask (h : Delivery cfg g) (hm : (g.queue c)[i]? = some request)
    (hroom : (g.ledger c).load < cfg.capacity) (now : Int) (res : DbResult) (f : Flush) :
    Delivery cfg
      (DbSystem.acceptTask cfg { g with queue := update g.queue c ((g.queue c).eraseIdx i) } c request
        now res f) := by
  have hmem := List.mem_of_getElem? hm
  unfold DbSystem.acceptTask
  by_cases hid : request.head.taskId = 0
  · -- a task without a number
    have hlog : Delivery cfg
        { g with
          queue := update g.queue c ((g.queue c).eraseIdx i)
          ledger := update g.ledger c (g.ledger c)
          log := g.log ++ [.admitted c request.head.taskId .new] } := by
      rw [Function.update_eq_self]
      exact (h.popped c i).logged (fun hne => absurd hid hne) (fun hne => absurd hid hne)
        (mild_of_plain hid) fun _ _ => rfl
    have haccept : (g.ledger c).accept request = (.new, g.ledger c) := if_pos hid
    simp only [haccept]
    split
    · exact replied (hlog.finishedPlain hid (by simpa using hroom))
    · rename_i dbTask hdecode
      exact hlog.executePlain hid (h.plain c request hmem hid dbTask hdecode) (by simpa using hroom)
        now res
  cases hx : (g.ledger c).entries.lookup request.head.taskId with
  | none =>
    obtain ⟨hadmitted, hopen⟩ := h.admitted hm hid hx hroom
    simp only [DbResultLedger.accept_new hid hx]
    split
    · exact replied (hadmitted.finished hopen.entry hopen.apart)
    · exact hadmitted.execute hopen _ now res
  | some x =>
    -- the entry is of the same request, so this is no conflict
    have hsame := (h.entry c _ x hx).named.same (h.queued c request hmem hid).1
    have hagain := h.readmitted hm hid hx
    obtain ⟨x', hreq, hres, hready, hack, heq | heq⟩ :=
      DbResultLedger.accept_duplicate (l := g.ledger c) hid hx hsame
    · simp only [heq, Function.update_eq_self]
      exact hagain.flushResults f
    · simp only [heq]
      refine Delivery.flushResults (hagain.refiled hx hreq hres hready fun ha => ?_) f
      -- only an entry that has its result is acknowledged
      rw [hack] at ha
      simp only [Bool.and_eq_true, Bool.not_eq_true'] at ha
      have := ((h.entry c _ x hx).acked ha.2).1
      rw [ha.1] at this
      cases this

theorem round (h : Delivery cfg g) {victim : Nat} {now : Int} {res : DbResult} {f : Flush}
    (hround : g.round cfg c i victim now res f = some g') : Delivery cfg g' := by
  obtain ⟨⟨ok, g₁⟩, hcap, heq⟩ := Option.map_eq_some_iff.mp hround
  obtain ⟨h₁, -, hroom⟩ := h.hasCapacity hcap
  simp only at heq
  split at heq
  · rename_i hm
    subst heq
    exact h₁.acceptTask hm (hroom rfl) now res f
  · subst heq
    exact h₁

theorem processControl (h : Delivery cfg g) (hcontrol : g.processControl c i = some g') :
    Delivery cfg g' := by
  unfold DbSystem.processControl at hcontrol
  split at hcontrol
  · cases hcontrol
  rename_i m hm
  have hpop := h.handled c i
  have hledger : Delivery cfg
      { g with
        controls := update g.controls c ((g.controls c).eraseIdx i)
        ledger := update g.ledger c ((g.ledger c).handleControl m).2 } := by
    rcases DbResultLedger.handleControl_spec (l := g.ledger c) m with hsame |
      ⟨x, x', hx, hsame, hreq, hres, hready, hack, hout⟩
    · rw [hsame, Function.update_eq_self]
      exact hpop
    · rw [hout]
      refine hpop.refiled hx hreq hres hready fun ha => ?_
      obtain ⟨hkind, hfinished⟩ := hack ha
      have hsrc : x.request.head.srcWorkerId = m.head.srcWorkerId := (same_spec hsame).2.2.2
      rw [hsrc]
      exact ⟨hfinished, h.controls c m (List.mem_of_getElem? hm) hkind⟩
  simp only at hcontrol
  split at hcontrol
  · cases hcontrol
    exact hledger.queuedNotice (.inr rfl)
  · cases hcontrol
    exact hledger

theorem foldl_postWorker_retries (q : TransactionRetries) (ms : List Msg) (g : DbSystem) :
    { ms.foldl postWorker g with retries := q } = ms.foldl postWorker { g with retries := q } := by
  induction ms generalizing g with
  | nil => rfl
  | cons m ms ih => exact ih (postWorker g m)

theorem replyResult_retries (q : TransactionRetries) (task : Msg) (res : DbResult) (f : Flush) :
    { g.replyResult cfg c task res f with retries := q } =
      DbSystem.replyResult cfg { g with retries := q } c task res f := by
  unfold replyResult
  simp only
  split
  · rfl
  · exact foldl_postWorker_retries q _ _

theorem retryTick (h : Delivery cfg g) (now : Int) (results : Nat → DbResult)
    (flushes : Nat → Flush) : Delivery cfg (g.retryTick cfg now results flushes) := by
  refine TransactionRetries.tick_induction
    (fun q (s : Retrying) => Delivery cfg { s.2.2 with retries := q }) ?_ ?_ h
  · intro before e after s q hs hq
    obtain ⟨hout, hopen, hlt⟩ := hs.retaken rfl
    exact (hout.attempt hopen hlt e.task (s.1 0) now (s.2.1 0)).2 q rfl hq
  · intro before e after s hs hq
    obtain ⟨hout, hopen, hlt⟩ := hs.retaken rfl
    show Delivery cfg { DbSystem.replyResult cfg _ .mysql e.request (s.1 0) (s.2.1 0) with
      retries := { entries := before ++ after } }
    rw [replyResult_retries]
    exact (hout.attempt hopen hlt e.task (s.1 0) now (s.2.1 0)).1

end Round

section Worker

variable {p : PendingDbTasks} {t : Task} {send : Sender}

theorem postTask_workers (g : DbSystem) (W : Nat → PendingDbTasks) (m : Msg) :
    postTask send { g with workers := W } m = { postTask send g m with workers := W } := by
  unfold postTask
  split <;> rfl

theorem postControl_workers (g : DbSystem) (W : Nat → PendingDbTasks) (m : Msg) :
    postControl send w { g with workers := W } m = { postControl send w g m with workers := W } := by
  unfold postControl
  split <;> rfl

/-- The tables stay as they are. -/
theorem postControl_kept (g : DbSystem) (m : Msg) : (postControl send w g m).workers = g.workers := by
  unfold postControl
  split <;> rfl

theorem foldl_workers {post : DbSystem → Msg → DbSystem}
    (hpost : ∀ g W m, post { g with workers := W } m = { post g m with workers := W })
    (W : Nat → PendingDbTasks) (sent : List Msg) (g : DbSystem) :
    sent.foldl post { g with workers := W } = { sent.foldl post g with workers := W } := by
  induction sent generalizing g with
  | nil => rfl
  | cons m sent ih =>
    rw [List.foldl_cons, List.foldl_cons, hpost, ih]

/-- A pass over a table, with what it sends on the way. -/
theorem scanned {advance : Task → Task × List Msg} {post : DbSystem → Msg → DbSystem}
    (hpost : ∀ g W m, post { g with workers := W } m = { post g m with workers := W })
    (hstep : ∀ g p id t, Delivery cfg g → g.task w id = some t →
      (∀ j, p.tasks.lookup j = if j = id then some (advance t).1 else g.task w j) →
      Delivery cfg ((advance t).2.foldl post { g with workers := update g.workers w p }))
    (h : Delivery cfg g) {sent : List Msg} (hscan : (g.workers w).scan advance = some (p, sent)) :
    Delivery cfg (sent.foldl post { g with workers := update g.workers w p }) := by
  have hrun := PendingDbTasks.scan_induction
    (fun tasks sent => Delivery cfg (sent.foldl post
      { g with workers := update g.workers w { tasks } })) ?_ ?_ hscan
  · rw [foldl_workers hpost] at hrun ⊢
    have hsame := hrun.retabled (w := w) (p := p) fun j => by simp [task]
    simpa using hsame
  · intro tasks sent id t ht hprev
    rw [foldl_workers hpost] at hprev
    have hnext := hstep _ { tasks := tasks.insert id (advance t).1 } id t hprev (by simpa [task])
      fun j => by simp [task]
    rw [List.foldl_append, foldl_workers hpost _ sent]
    simpa using hnext
  · have hsame := h.retabled (w := w) (p := { tasks := (g.workers w).tasks }) fun j => rfl
    exact hsame

/-- A request is handed to the bus, and its record follows the verdict. -/
theorem advanced (h : Delivery cfg g) (ht : g.task w id = some t)
    (hpending : t.state = .pendingDispatch) {now : Int}
    (hp : ∀ j, p.tasks.lookup j =
      if j = id then some (PendingDbTasks.dispatch t now (send t.request)) else g.task w j) :
    Delivery cfg (postTask send { g with workers := update g.workers w p } t.request) := by
  unfold postTask
  split
  · rename_i hgood
    have hstate : (PendingDbTasks.dispatch t now (send t.request)).state = .awaitResult :=
      if_pos hgood
    exact h.dispatched ht hpending (PendingDbTasks.dispatch_request ..) hstate hp
  · rename_i hbad
    have hstate : (PendingDbTasks.dispatch t now (send t.request)).state = t.state ∨
        (t.state = .pendingDispatch ∧
          (PendingDbTasks.dispatch t now (send t.request)).state = .dispatchFailed) := by
      unfold PendingDbTasks.dispatch
      simp only [if_neg hbad]
      split
      · exact .inr ⟨hpending, rfl⟩
      · exact .inl rfl
    refine h.touched ht (PendingDbTasks.dispatch_request ..) (PendingDbTasks.dispatch_result ..)
      hstate (fun hs => ?_) hp
    rcases hstate with heq | ⟨-, heq⟩
    · rw [hs, hpending] at heq
      cases heq
    · rw [hs] at heq
      cases heq

theorem idle (h : Delivery cfg g) (ht : g.task w id = some t)
    (hp : ∀ j, p.tasks.lookup j = if j = id then some t else g.task w j) :
    Delivery cfg { g with workers := update g.workers w p } :=
  h.touched ht rfl rfl (.inl rfl) (h.settled w id t ht).acked hp

theorem tick (h : Delivery cfg g) {now : Int} {room : Msg → Bool}
    (htick : g.tick cfg w now room = some g') : Delivery cfg g' := by
  obtain ⟨⟨p, sent⟩, hscan, rfl⟩ := Option.map_eq_some_iff.mp htick
  refine h.scanned postTask_workers (fun g p id t h ht hp => ?_) hscan
  unfold PendingDbTasks.tickTask at hp ⊢
  split at hp
  · rename_i hdue
    rw [if_pos hdue]
    exact h.advanced ht hdue.1 hp
  · rename_i hdue
    rw [if_neg hdue]
    exact h.idle ht hp

/-- A control message is handed to the bus: an acknowledgement only for a result that was taken. -/
theorem asked (h : Delivery cfg g) {m : Msg} (hsrc : m.head.srcWorkerId = w)
    (hdone : m.head.dbControl = 1 → ∃ r,
      .completed w m.head.taskId r ∈ recordLife m.head.taskId g.log) :
    Delivery cfg (postControl send w g m) ∧ (m.head.dbControl = 1 → isAccepted (send m) = true →
      .acked w m.head.taskId ∈ recordLife m.head.taskId (postControl send w g m).log) := by
  unfold postControl
  split
  · by_cases hkind : m.head.dbControl = 1
    · obtain ⟨r, hr⟩ := hdone hkind
      rw [if_pos hkind]
      have hlog : Delivery cfg { g with log := g.log ++ [.acked w m.head.taskId] } :=
        h.noted (fun _ => ⟨r, hr⟩) (mem_of_mem_since hr) rfl
          (fun _ _ => ⟨rfl, rfl, rfl, rfl, rfl, rfl⟩) fun _ _ => rfl
      refine ⟨hlog.controlled fun _ => ?_, fun _ _ => last_mem_recordLife rfl⟩
      rw [hsrc]
      exact List.mem_append_right _ (List.mem_singleton_self _)
    · rw [if_neg hkind]
      refine ⟨?_, fun hack => absurd hack hkind⟩
      simpa using h.controlled (c := channelOf m.head) fun hack => absurd hack hkind
  · rename_i hbad
    exact ⟨h, fun _ hgood => absurd hgood hbad⟩

theorem tickControls (h : Delivery cfg g) {now : Int} {room : Msg → Bool}
    (htick : g.tickControls cfg w now room = some g') : Delivery cfg g' := by
  obtain ⟨⟨p, sent⟩, hscan, rfl⟩ := Option.map_eq_some_iff.mp htick
  refine h.scanned postControl_workers (fun g p id t h ht hp => ?_) hscan
  obtain ⟨hnamed, howner⟩ := h.record w id t ht
  have hkey : ∀ kind, (control t.request kind).head.taskId = id := fun _ => hnamed.taskId
  unfold PendingDbTasks.controlTask at hp ⊢
  split at hp
  · rename_i hwait
    rw [if_pos hwait]
    exact h.idle ht hp
  rename_i hwait
  rw [if_neg hwait]
  split at hp
  · rename_i hack
    rw [if_pos hack]
    have hdone := (h.settled w id t ht).completed hack.1
    obtain ⟨hasked, hacked⟩ := @asked cfg g w (sendToDbControl cfg room) h (control t.request 1)
      howner fun _ => ⟨t.result, by rwa [hkey]⟩
    rw [hkey] at hacked
    -- the record is settled once the acknowledgement was taken
    show Delivery cfg (postControl _ w { g with workers := _ } _)
    rw [postControl_workers, ← postControl_kept]
    refine @touched cfg _ id w p t { t with
      ackPending := !isAccepted (sendToDbControl cfg room (control t.request 1))
      nextTryAt := now + 100 } hasked ?_ rfl rfl (.inl rfl) (fun _ hsent => ?_) fun j => ?_
    · rwa [task, postControl_kept]
    · exact hacked rfl (by simpa using hsent)
    · rw [task, postControl_kept]
      exact hp j
  rename_i hack
  rw [if_neg hack]
  split at hp
  · rename_i hawait
    rw [if_pos hawait]
    have hlater := @touched cfg g id w p t { t with nextTryAt := now + 5000 } h ht rfl rfl (.inl rfl)
      (fun hs => by rw [show t.state = .completed from hs] at hawait; cases hawait) hp
    exact (@asked cfg _ w (sendToDbControl cfg room) hlater (control t.request 2) howner
      fun hkind => by cases hkind).1
  · rename_i hawait
    rw [if_neg hawait]
    exact h.idle ht hp

/-- A table whose records are those that were there, and a number to give next. -/
theorem kept (h : Delivery cfg g) {n : Nat} (hn : 0 < n)
    (hp : ∀ j, p.tasks.lookup j = g.task w j) :
    Delivery cfg { g with workers := update g.workers w p, nextId := n } :=
  { h.retabled hp with nextId := hn }

/-- Room in a table: a record may be taken out. -/
theorem roomMade (h : Delivery cfg g) {victim : Nat} {now : Int}
    (hroom : (g.workers w).makeRoom id now victim = some (some p)) :
    Delivery cfg
        { g with
          workers := update g.workers w p
          log := g.log ++
            if (g.task w victim).isSome && (p.tasks.lookup victim).isNone then [.forgotten w victim]
            else [] } ∧
      (p.tasks.lookup id = none ↔ g.task w id = none) := by
  rcases PendingDbTasks.makeRoom_spec hroom with rfl | ⟨t, ht, hold, hne, hnone, rfl⟩
  · refine ⟨?_, Iff.rfl⟩
    have hsame : ((g.task w victim).isSome && ((g.workers w).tasks.lookup victim).isNone) = false := by
      show ((g.task w victim).isSome && (g.task w victim).isNone) = false
      cases g.task w victim <;> rfl
    rw [hsame]
    simpa using h.retabled (p := g.workers w) fun _ => rfl
  · have hlost : ((g.task w victim).isSome &&
        (AList.lookup victim (AList.erase victim (g.workers w).tasks)).isNone) = true := by
      have ht' : g.task w victim = some t := ht
      simp [ht']
    unfold PendingDbTasks.evictable at hold
    simp only [decide_eq_true_eq, Bool.not_eq_true'] at hold
    refine ⟨?_, ?_⟩
    · rw [hlost]
      exact h.forgot ht hold.1 hold.2.1 fun j => by simp [task]
    · simp [task, hnone]

theorem submitted (h : Delivery cfg g) {request : Msg} (hsrc : request.head.srcWorkerId = w)
    {registered : Bool} {sent : List Msg} {now : Int} {victim n : Nat} (hn : 0 < n)
    (hout : (g.workers w).submit request now send g.nextId victim = some (registered, p, sent))
    (hused : g.task w (g.numberOf request) ≠ none ∨
      ∀ r, g.requests (g.numberOf request) = some r → same r request = true)
    {made lost : Bool} (hmade : made = (registered && (g.task w (g.numberOf request)).isNone))
    (hlost : lost = ((g.task w victim).isSome && (p.tasks.lookup victim).isNone)) :
    Delivery cfg (sent.foldl (postTask send)
      { g with
        workers := update g.workers w p
        nextId := n
        requests :=
          if made then
            update g.requests (g.numberOf request) <| (g.requests (g.numberOf request)).or <|
              some { request with head := { request.head with taskId := g.numberOf request } }
          else g.requests
        log := g.log ++ ((if lost then [.forgotten w victim] else []) ++
          if made then [.registered w (g.numberOf request)] else []) }) := by
  have hid : g.numberOf request ≠ 0 := by
    unfold numberOf
    split
    · exact Nat.ne_of_gt h.nextId
    · assumption
  rcases PendingDbTasks.submit_spec hout with heq | ⟨htype, q, hroom, hq⟩
  · cases heq
    have hlost : lost = false := by
      rw [hlost]
      show ((g.task w victim).isSome && (g.task w victim).isNone) = false
      cases g.task w victim <;> rfl
    rw [hlost, hmade]
    simpa using h.kept (p := g.workers w) hn fun _ => rfl
  change (g.workers w).makeRoom (g.numberOf request) now victim = _ at hroom
  change PendingDbTasks.Submitted send now
    { request with head := { request.head with taskId := g.numberOf request } } q _ at hq
  generalize g.numberOf request = id at *
  obtain ⟨r, hr⟩ : ∃ r : Msg, r = { request with head := { request.head with taskId := id } } :=
    ⟨_, rfl⟩
  have hkey : r.head.taskId = id := hr ▸ rfl
  have hsrc' : r.head.srcWorkerId = w := by rw [hr, ← hsrc]
  have htype' : isDbTask r.head.msgType = true := by rw [hr]; exact htype
  have hused' : g.task w id = none → ∀ x, g.requests id = some x → same x r = true := by
    intro hnone x hx
    rw [same_iff, hr]
    exact same_iff.mp (hused.resolve_left (fun hne => hne hnone) x hx)
  rw [← hr] at hq ⊢
  obtain ⟨h₁, hnone⟩ := h.roomMade hroom
  cases hq with
  | known t hfound _ hok =>
    have hmade : made = false := by
      cases ht : g.task w id with
      | none =>
        rw [hkey, hnone.mpr ht] at hfound
        cases hfound
      | some t => simp [hmade, ht]
    have hsame := h₁.kept (w := w) (p := p) hn fun j => by simp [task]
    rw [hmade, hlost]
    simpa using hsame
  | invalid _ htasks hfresh hsend =>
    have hdrop : isAccepted (send r) = false := by
      cases hverdict : send r <;> simp_all [isInvalid, isAccepted]
    have hsame := h₁.kept (w := w) (p := p) hn fun j => by simp [task, htasks]
    rw [hmade, hlost]
    simpa [htasks, postTask, hdrop] using hsame
  | registered _ hfresh hsend htasks =>
    rw [hkey] at hfresh htasks
    have hempty : g.task w id = none := hnone.mp hfresh
    have hmade : made = true := by simp [hmade, hempty]
    have hlost : lost = ((g.task w victim).isSome && (q.tasks.lookup victim).isNone) := by
      by_cases hv : victim = id
      · simp [hlost, hv, hempty]
      · simp [hlost, htasks, hv]
    rw [hmade, hlost, if_pos rfl, if_pos rfl]
    subst hkey hsrc'
    have hreg := h₁.registered (p := { tasks := q.tasks.insert r.head.taskId { request := r } })
      hid (by simpa [task] using hfresh) (hused' hempty) htype' hn fun j => by simp [task]
    have hsent := @advanced cfg _ r.head.taskId r.head.srcWorkerId p { request := r } send hreg
      (by simp [task]) rfl now fun j => by
        rw [htasks]
        by_cases hj : j = r.head.taskId <;> simp [task, hj]
    simpa [remembered] using hsent

theorem submitDbTask (h : Delivery cfg g) {request : Msg} {now : Int} {room : Msg → Bool}
    {victim : Nat} (hsubmit : g.submitDbTask cfg w request now room victim = some g')
    (hused : g.task w (g.numberOf request) ≠ none ∨ ∀ r, g.requests (g.numberOf request) = some r →
      same r { request with head := { request.head with srcWorkerId := w } } = true) :
    Delivery cfg g' := by
  obtain ⟨⟨registered, p, sent⟩, hout, rfl⟩ := Option.map_eq_some_iff.mp hsubmit
  refine h.submitted rfl ?_ hout hused rfl rfl
  split
  · exact Nat.succ_pos _
  · exact h.nextId

/-- A task without a number is handed to the bus. -/
theorem postedPlain (h : Delivery cfg g) {m : Msg} (hid : m.head.taskId = 0)
    (hplain : ∀ t, DbTask.decode m.body = some t → t.kind ≠ 4 ∧ t.kind ≠ 5) :
    Delivery cfg (postTask send g m) := by
  unfold postTask
  split
  · exact h.posted hid hplain
  · exact h

theorem sendDb (h : Delivery cfg g) {kind : Nat} {args : List Bytes} {head : MsgHead}
    {room : Msg → Bool} (hsend : g.sendDb cfg kind args head room = some g') : Delivery cfg g' := by
  unfold DbSystem.sendDb at hsend
  split at hsend
  · rename_i hkind
    obtain ⟨body, hbody, rfl⟩ := Option.map_eq_some_iff.mp hsend
    refine h.postedPlain rfl fun t ht => ?_
    have := DbTask.kind_of_decode hkind hbody ht
    omega
  · cases hsend

theorem onDbResult (h : Delivery cfg g) {m : Msg} {now : Int} {room : Msg → Bool}
    (hm : m.head.taskId ≠ 0 → m.head.srcWorkerId = w ∧ ∃ c, .recorded c m.head.taskId m ∈ g.log)
    (hresult : g.onDbResult cfg w m now room = some g') : Delivery cfg g' := by
  unfold DbSystem.onDbResult at hresult
  split at hresult
  · cases hresult
    exact h
  rename_i hok
  obtain ⟨hsrc, hrec⟩ := hm fun hzero => hok (.inr hzero)
  split at hresult
  · rename_i p hdone
    cases hresult
    rcases @PendingDbTasks.complete_spec (g.workers w) now m with hno |
      ⟨t, ht, hwait, -, hyes⟩
    · rw [hdone] at hno
      cases hno
    · rw [hdone] at hyes
      cases hyes
      refine @completed cfg g _ w _ t { t with
        state := .completed, completedAt := now, result := m, ackPending := true, nextTryAt := 0 }
        h m ht hwait rfl rfl rfl rfl hsrc hrec fun j => ?_
      simp [task]
  · refine Delivery.tickControls ?_ hresult
    rcases PendingDbTasks.acknowledgeDuplicate_spec (p := g.workers w) m with hsame | ⟨t, ht, heq⟩
    · exact h.retabled fun j => by simp [hsame, task]
    · refine @touched cfg g _ w _ t { t with ackPending := true, nextTryAt := 0 } h ht rfl rfl
        (.inl rfl) (fun _ hack => by cases hack) fun j => ?_
      simp [heq, task]

theorem receive (h : Delivery cfg g) {i : Nat} {now : Int} {room : Msg → Bool}
    (hreceive : g.receive cfg w i now room = some g') : Delivery cfg g' := by
  unfold DbSystem.receive at hreceive
  split at hreceive
  · cases hreceive
  rename_i m hm
  have hpop := h.received w i
  simp only at hreceive
  split at hreceive
  · rename_i hres
    exact hpop.onDbResult (fun hid => h.inbox w m (List.mem_of_getElem? hm) hid hres) hreceive
  split at hreceive
  · cases hreceive
    rcases PendingDbTasks.observeStatus_spec (p := g.workers w) m with hsame | ⟨t, value, ht, heq⟩
    · exact hpop.retabled fun j => by simp [hsame, task]
    · refine @touched cfg _ _ w _ t { t with observedStatus := value } hpop ht rfl rfl (.inl rfl)
        (hpop.settled w _ t ht).acked fun j => ?_
      simp [heq, task]
  · cases hreceive
    exact hpop

end Worker

end Delivery

/-- A task number is used for one request: what is submitted under it is the request that it was
first registered for. What the worker refuses, as it still has the record, does not count. -/
def UsedOnce (g : DbSystem) : Step → Prop
  | .submit w request _ _ _ =>
    g.task w (g.numberOf request) ≠ none ∨ ∀ r ∈ g.requests (g.numberOf request),
      same r { request with head := { request.head with srcWorkerId := w } } = true
  | _ => True

instance decidableUsedOnce (g : DbSystem) : ∀ s : Step, Decidable (UsedOnce g s)
  | .submit w request _ _ _ =>
    inferInstanceAs (Decidable (g.task w (g.numberOf request) ≠ none ∨
      ∀ r ∈ g.requests (g.numberOf request),
        same r { request with head := { request.head with srcWorkerId := w } } = true))
  | .sendDb .. | .tick .. | .tickControls .. | .receive .. | .round .. | .processControl ..
  | .retryTick .. | .flushResults .. => .isTrue trivial

theorem delivery_step {s : Step} (h : Delivery cfg g) (hused : UsedOnce g s)
    (hstep : g.step cfg s = some g') : Delivery cfg g' := by
  cases s with
  | submit w request now room victim => exact h.submitDbTask hstep hused
  | sendDb kind args head room => exact h.sendDb hstep
  | tick w now room => exact h.tick hstep
  | tickControls w now room => exact h.tickControls hstep
  | receive w i now room => exact h.receive hstep
  | round c i victim now res f => exact h.round hstep
  | processControl c i => exact h.processControl hstep
  | retryTick now results flushes =>
    cases hstep
    exact h.retryTick now results flushes
  | flushResults c f =>
    cases hstep
    exact h.flushResults f

theorem delivery_exec {steps : List Step}
    (hused : Run.Along (step cfg) UsedOnce (init cfg) steps)
    (hrun : Run.exec (step cfg) (init cfg) steps = some g) : Delivery cfg g :=
  Run.along_invariant (Delivery cfg) (fun _ _ _ h hok hstep => delivery_step h hok hstep)
    delivery_init hused hrun

end DbSystem

end Db
