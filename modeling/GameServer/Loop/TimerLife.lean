import GameServer.Loop.TimerAccounts

/-!
# The life of a timer

Every timer that was created is held by the ordered set or by the batch, or was released
once. One that is held and was cancelled is in the batch and in the third set, so it is
released when the batch is put back; what remains is whether its turn in the batch came first.
-/

namespace Loop

namespace TimerQueue

section Invariant

/-- A cancelled timer that is still held is in the batch and in the third set; a one-shot that
ran is held by the batch only; and what is no longer held was cancelled or a one-shot that
ran. -/
structure Sound (q : TimerQueue) (expired rest : List Entry) : Prop where
  accounts : Accounts q.heap q.numCreated q.events (q.timers ++ expired)
  active : ∀ id, id ∈ q.activeTimers ↔ Lives q.heap id ∧ ∃ e ∈ q.timers, e.timer = id.timer
  known : ∀ id, .cancelled id ∈ q.events → id.timer = 0 ∨ q.Issued id
  cancelling : ∀ id ∈ q.cancelligTimer, .cancelled id ∈ q.events
  cancelled : ∀ id, .cancelled id ∈ q.events → Lives q.heap id →
    id ∈ q.cancelligTimer ∧ ∃ e ∈ expired, e.timer = id.timer
  issued : ∀ id, .started id ∈ q.events → q.Issued id
  started : ∀ id t, .started id ∈ q.events → q.heap id.timer = some t →
    t.sequence = id.sequence → t.repeats = true ∨ ∃ e ∈ expired, e.timer = id.timer
  ran : ∀ e ∈ expired, e ∉ rest → ∀ t, q.heap e.timer = some t →
    .started ⟨e.timer, t.sequence⟩ ∈ q.events
  ended : ∀ id r, .created id r ∈ q.events → ¬Lives q.heap id →
    .cancelled id ∈ q.events ∨ r = false ∧ .started id ∈ q.events

/-- What holds of the queue between two steps. -/
inductive Good (q : TimerQueue) : Prop
  | idle (hbatch : q.batch = none) (hdestroyed : q.destroyed = false)
      (hhandle : q.handleTimer = false) (hcancel : q.cancelligTimer = ∅) (hsound : q.Sound [] [])
  | batch (b : Batch) (hbatch : q.batch = some b) (hdestroyed : q.destroyed = false)
      (hhandle : q.handleTimer = true) (hsub : b.rest ⊆ b.expired)
      (hsound : q.Sound b.expired b.rest)
  | destroyed (hbatch : q.batch = none) (hdestroyed : q.destroyed = true)
      (haccounts : Accounts q.heap q.numCreated q.events [])

variable {q : TimerQueue} {expired rest : List Entry}

theorem Sound.lives_issued (h : q.Sound expired rest) {id : TimerId} (hid : Lives q.heap id) :
    q.Issued id := by
  obtain ⟨t, ht, hseq⟩ := hid
  have hcreated := (h.accounts.object _ t ht).2
  rw [hseq] at hcreated
  exact ⟨_, hcreated⟩

theorem Sound.not_expired (h : q.Sound expired rest) {e f : Entry} (he : e ∈ q.timers)
    (hf : f ∈ expired) : e.timer ≠ f.timer := by
  have hnodup := h.accounts.nodup
  rw [List.map_append, List.nodup_append] at hnodup
  exact hnodup.2.2 _ (List.mem_map_of_mem he) _ (List.mem_map_of_mem hf)

theorem mem_insertEntry {e f : Entry} : f ∈ q.insertEntry e ↔ f = e ∨ f ∈ q.timers := by
  unfold insertEntry
  split
  · rename_i hmem
    constructor
    · exact .inr
    · rintro (rfl | hf)
      · exact hmem
      · exact hf
  · exact List.mem_orderedInsert _

theorem insertEntry_perm {e : Entry} (h : e ∉ q.timers) :
    (q.insertEntry e).Perm (e :: q.timers) := by
  unfold insertEntry
  rw [if_neg h]
  exact List.perm_orderedInsert _ _ _

/-- An address that is free is in no entry. -/
theorem Sound.free (h : q.Sound expired rest) {timer : Nat} (hfree : q.heap timer = none) :
    ∀ e ∈ q.timers ++ expired, e.timer ≠ timer := by
  rintro e he rfl
  obtain ⟨t, ht, -⟩ := h.accounts.entry e he
  cases hfree.symm.trans ht

theorem Sound.addTimer (h : q.Sound expired rest) {timer : Nat} (hnull : timer ≠ 0)
    (hfree : q.heap timer = none) (when micro : Int) (repeats : Bool) :
    (q.addTimer timer when micro repeats).Sound expired rest := by
  have hentries := h.free hfree
  have hnot : (⟨when, timer⟩ : Entry) ∉ q.timers := fun hmem =>
    hentries _ (List.mem_append_left _ hmem) rfl
  have hother : ∀ a, a ≠ timer → (q.addTimer timer when micro repeats).heap a = q.heap a :=
    fun a ha => Function.update_of_ne ha _ _
  have hself : (q.addTimer timer when micro repeats).heap timer =
      some { expiration := when, micro, repeats, sequence := q.numCreated } :=
    Function.update_self ..
  have hlives : ∀ id, Lives (q.addTimer timer when micro repeats).heap id ↔
      Lives q.heap id ∨ id = ⟨timer, q.numCreated⟩ := by
    intro id
    unfold Lives
    by_cases hid : id.timer = timer
    · rw [hid, hself, hfree]
      constructor
      · rintro ⟨t, ht, hseq⟩
        cases ht
        exact .inr (TimerId.ext hid hseq.symm)
      · rintro (⟨t, ht, -⟩ | rfl)
        · cases ht
        · exact ⟨_, rfl, rfl⟩
    · rw [hother _ hid]
      refine ⟨.inl, ?_⟩
      rintro (h | rfl)
      · exact h
      · exact absurd rfl hid
  have hnew : ¬q.Issued ⟨timer, q.numCreated⟩ := by
    rintro ⟨r, hr⟩
    exact Nat.lt_irrefl _ (h.accounts.numbered _ r hr).2
  have hissued : ∀ id, q.Issued id → (q.addTimer timer when micro repeats).Issued id :=
    fun id hid => hid.imp fun r hr => List.mem_append_left _ hr
  have hcancelled : ∀ id, .cancelled id ∈ (q.addTimer timer when micro repeats).events →
      .cancelled id ∈ q.events := fun id hid => by simpa [TimerQueue.addTimer] using hid
  have hstarted : ∀ id, .started id ∈ (q.addTimer timer when micro repeats).events →
      .started id ∈ q.events := fun id hid => by simpa [TimerQueue.addTimer] using hid
  refine ⟨?_, fun id => ?_, fun id hid => ?_, fun id hid => ?_, fun id hid hl => ?_, fun id hid => ?_,
    fun id t hid ht hseq => ?_, fun e he hrest t ht => ?_, fun id r hid hl => ?_⟩
  · exact (h.accounts.add (e := ⟨when, timer⟩)
      (t := { expiration := when, micro, repeats, sequence := q.numCreated }) hfree hnull rfl rfl
      rfl).perm ((insertEntry_perm hnot).symm.append_right expired)
  · rw [hlives]
    change id ∈ insert _ q.activeTimers ↔ _ ∧ ∃ e ∈ q.insertEntry ⟨when, timer⟩, _
    rw [Finset.mem_insert, h.active]
    constructor
    · rintro (rfl | ⟨hl, e, he, hid⟩)
      · exact ⟨.inr rfl, _, mem_insertEntry.mpr (.inl rfl), rfl⟩
      · exact ⟨.inl hl, e, mem_insertEntry.mpr (.inr he), hid⟩
    · rintro ⟨hl | rfl, e, he, hid⟩
      · rcases mem_insertEntry.mp he with rfl | he
        · obtain ⟨t, ht, -⟩ := hl
          rw [← hid, hfree] at ht
          cases ht
        · exact .inr ⟨hl, e, he, hid⟩
      · exact .inl rfl
  · exact (h.known id (hcancelled id hid)).imp_right (hissued id)
  · exact List.mem_append_left _ (h.cancelling id hid)
  · rcases (hlives id).mp hl with hl | rfl
    · exact h.cancelled id (hcancelled id hid) hl
    · exact absurd (h.known _ (hcancelled _ hid)) (not_or.mpr ⟨hnull, hnew⟩)
  · exact hissued id (h.issued id (hstarted id hid))
  · have hold := h.issued id (hstarted id hid)
    by_cases htimer : id.timer = timer
    · rw [htimer, hself] at ht
      cases ht
      obtain ⟨r, hr⟩ := hold
      have := (h.accounts.numbered id r hr).2
      dsimp only at hseq
      omega
    · rw [hother _ htimer] at ht
      exact h.started id t (hstarted id hid) ht hseq
  · rw [hother _ (hentries e (List.mem_append_right _ he))] at ht
    exact List.mem_append_left _ (h.ran e he hrest t ht)
  · have hold : .created id r ∈ q.events := by
      rcases List.mem_append.mp hid with hid | hid
      · exact hid
      · rw [List.mem_singleton] at hid
        cases hid
        exact absurd ((hlives _).mpr (.inr rfl)) hl
    exact (h.ended id r hold fun hl' => hl ((hlives id).mpr (.inl hl'))).imp
      (List.mem_append_left _) (And.imp_right (List.mem_append_left _))

/-- Only the log grows, by a cancellation of a timer that is not active any more. -/
theorem Sound.cancelled_gone (h : q.Sound expired rest) {id : TimerId}
    (hknown : id.timer = 0 ∨ q.Issued id) (hactive : id ∉ q.activeTimers)
    {cancelligTimer : Finset TimerId} (hsub : q.cancelligTimer ⊆ cancelligTimer)
    (hset : ∀ j ∈ cancelligTimer, j ∈ q.cancelligTimer ∨ j = id)
    (hmem : Lives q.heap id → id ∈ cancelligTimer) :
    ({ q with cancelligTimer, events := q.events ++ [.cancelled id] } : TimerQueue).Sound
      expired rest := by
  have hissued : ∀ j, q.Issued j → ({ q with cancelligTimer, events := q.events ++ [.cancelled id] } :
      TimerQueue).Issued j := fun j hj => hj.imp fun r hr => List.mem_append_left _ hr
  have hcancelled : ∀ j, Event.cancelled j ∈ q.events ++ [.cancelled id] →
      .cancelled j ∈ q.events ∨ j = id := fun j hj => by simpa using hj
  have hstarted : ∀ j, Event.started j ∈ q.events ++ [.cancelled id] → .started j ∈ q.events :=
    fun j hj => by simpa using hj
  -- a timer that is there and is not active is in the batch
  have hexpired : Lives q.heap id → ∃ e ∈ expired, e.timer = id.timer := by
    intro hl
    obtain ⟨t, ht, -⟩ := (show Lives q.heap id from hl)
    obtain ⟨e, he, hid⟩ := h.accounts.holder _ t ht
    rcases List.mem_append.mp he with he | he
    · exact absurd ((h.active id).mpr ⟨hl, e, he, hid⟩) hactive
    · exact ⟨e, he, hid⟩
  refine ⟨h.accounts.log (by simp) (by simp), h.active, fun j hj => ?_, fun j hj => ?_,
    fun j hj hl => ?_, fun j hj => hissued j (h.issued j (hstarted j hj)),
    fun j t hj => h.started j t (hstarted j hj), fun e he hrest t ht => ?_, fun j r hj hl => ?_⟩
  · rcases hcancelled j hj with hj | rfl
    · exact (h.known j hj).imp_right (hissued j)
    · exact hknown.imp_right (hissued j)
  · rcases hset j hj with hj | rfl
    · exact List.mem_append_left _ (h.cancelling j hj)
    · exact List.mem_append_right _ (List.mem_singleton_self _)
  · rcases hcancelled j hj with hj | rfl
    · exact (h.cancelled j hj hl).imp_left (@hsub j)
    · exact ⟨hmem hl, hexpired hl⟩
  · exact List.mem_append_left _ (h.ran e he hrest t ht)
  · have hold : .created j r ∈ q.events := by simpa using hj
    exact (h.ended j r hold hl).imp (List.mem_append_left _)
      (And.imp_right (List.mem_append_left _))

/-- A timer is released: its entry leaves the set or the batch it is in. -/
theorem Sound.release (h : q.Sound expired rest) {e : Entry} {t : Timer}
    (ht : q.heap e.timer = some t) (timers' expired' : List Entry) (log : List Event)
    (hperm : (q.timers ++ expired).Perm (e :: (timers' ++ expired')))
    (htimers : ∀ f, f ∈ timers' → f ∈ q.timers)
    (htimers' : ∀ f ∈ q.timers, f ∈ timers' ∨ f.timer = e.timer)
    (hexpired : ∀ f, f ∈ expired' → f ∈ expired)
    (hexpired' : ∀ f ∈ expired, f ∈ expired' ∨ f.timer = e.timer)
    (hlog : ∀ event ∈ log, event = .cancelled ⟨e.timer, t.sequence⟩)
    (haccounts : Accounts q.heap q.numCreated (q.events ++ log) (q.timers ++ expired))
    (hend : .cancelled ⟨e.timer, t.sequence⟩ ∈ q.events ++ log ∨
      t.repeats = false ∧ .started ⟨e.timer, t.sequence⟩ ∈ q.events) :
    ({ q with
        heap := Function.update q.heap e.timer none
        timers := timers'
        activeTimers := q.activeTimers.erase ⟨e.timer, t.sequence⟩
        events := q.events ++ log ++ [.released ⟨e.timer, t.sequence⟩] } : TimerQueue).Sound
      expired' rest := by
  have hother : ∀ a u, Function.update q.heap e.timer none a = some u → q.heap a = some u := by
    intro a u hu
    by_cases ha : a = e.timer
    · rw [ha, Function.update_self] at hu
      cases hu
    · rwa [Function.update_of_ne ha] at hu
  have hsame : ∀ id, Lives q.heap id → id.timer = e.timer → id = ⟨e.timer, t.sequence⟩ := by
    rintro id ⟨u, hu, hseq⟩ hid
    rw [hid, ht] at hu
    cases hu
    exact TimerId.ext hid hseq.symm
  have hlives : ∀ id, Lives (Function.update q.heap e.timer none) id ↔
      Lives q.heap id ∧ id.timer ≠ e.timer := by
    intro id
    unfold Lives
    by_cases hid : id.timer = e.timer
    · simp [hid]
    · rw [Function.update_of_ne hid]
      simp [hid]
  have hold : ∀ event, event ∈ q.events → event ∈ q.events ++ log ++ [.released ⟨e.timer, t.sequence⟩] :=
    fun event hevent => List.mem_append_left _ (List.mem_append_left _ hevent)
  have hnew : ∀ event, event ∈ q.events ++ log ++ [.released ⟨e.timer, t.sequence⟩] →
      event ∈ q.events ∨ event = .cancelled ⟨e.timer, t.sequence⟩ ∨
        event = .released ⟨e.timer, t.sequence⟩ := by
    intro event hevent
    rcases List.mem_append.mp hevent with hevent | hevent
    · exact (List.mem_append.mp hevent).imp_right fun hevent => .inl (hlog event hevent)
    · exact .inr (.inr (List.mem_singleton.mp hevent))
  have hstarted : ∀ j, .started j ∈ q.events ++ log ++ [.released ⟨e.timer, t.sequence⟩] →
      .started j ∈ q.events := fun j hj => by simpa using hnew _ hj
  have hcreated : ∀ j r, .created j r ∈ q.events ++ log ++ [.released ⟨e.timer, t.sequence⟩] →
      .created j r ∈ q.events := fun j r hj => by simpa using hnew _ hj
  have hcancelled : ∀ j, .cancelled j ∈ q.events ++ log ++ [.released ⟨e.timer, t.sequence⟩] →
      .cancelled j ∈ q.events ∨ j = ⟨e.timer, t.sequence⟩ := fun j hj => by simpa using hnew _ hj
  have hissued : ∀ j, q.Issued j → ∃ r, .created j r ∈
      q.events ++ log ++ [.released ⟨e.timer, t.sequence⟩] := fun j hj => hj.imp fun r hr => hold _ hr
  have hself : q.Issued ⟨e.timer, t.sequence⟩ := h.lives_issued ⟨t, ht, rfl⟩
  refine ⟨?_, fun id => ?_, fun id hid => ?_, fun id hid => hold _ (h.cancelling id hid),
    fun id hid hl => ?_, fun id hid => hissued id (h.issued id (hstarted id hid)),
    fun id u hid hu hseq => ?_, fun f hf hrest u hu => ?_, fun id r hid hl => ?_⟩
  · obtain ⟨u, hu, hrelease⟩ := (haccounts.perm hperm).delete
    cases ht.symm.trans hu
    exact hrelease
  · change id ∈ q.activeTimers.erase _ ↔ Lives _ id ∧ ∃ f ∈ timers', _
    rw [Finset.mem_erase, h.active, hlives]
    constructor
    · rintro ⟨hne, hl, f, hf, hid⟩
      have htimer : id.timer ≠ e.timer := fun hc => hne (hsame id hl hc)
      refine ⟨⟨hl, htimer⟩, f, (htimers' f hf).resolve_right (hid ▸ htimer), hid⟩
    · rintro ⟨⟨hl, hne⟩, f, hf, hid⟩
      exact ⟨fun hc => hne (congrArg TimerId.timer hc), hl, f, htimers f hf, hid⟩
  · rcases hcancelled id hid with hid | rfl
    · exact (h.known id hid).imp_right (hissued id)
    · exact .inr (hissued _ hself)
  · obtain ⟨hl, hne⟩ := (hlives id).mp hl
    rcases hcancelled id hid with hid | rfl
    · obtain ⟨hmem, f, hf, hfid⟩ := h.cancelled id hid hl
      exact ⟨hmem, f, (hexpired' f hf).resolve_right (hfid ▸ hne), hfid⟩
    · exact absurd rfl hne
  · have hne : id.timer ≠ e.timer := fun hc => by
      rw [hc] at hu
      change Function.update q.heap e.timer none e.timer = some u at hu
      rw [Function.update_self] at hu
      cases hu
    refine (h.started id u (hstarted id hid) (hother _ u hu) hseq).imp_right ?_
    rintro ⟨f, hf, hfid⟩
    exact ⟨f, (hexpired' f hf).resolve_right (hfid ▸ hne), hfid⟩
  · exact hold _ (h.ran f (hexpired f hf) hrest u (hother _ u hu))
  · have hcreate := hcreated id r hid
    by_cases hl' : Lives q.heap id
    · have hid' := hsame id hl' (by
        by_contra hne
        exact hl ((hlives id).mpr ⟨hl', hne⟩))
      have hr := (h.accounts.once id id r t.repeats hcreate
        (hid' ▸ (h.accounts.object _ t ht).2) rfl).2
      rw [hid', hr]
      exact hend.imp (List.mem_append_left _) (And.imp_right (hold _))
    · exact (h.ended id r hcreate hl').imp (hold _) (And.imp_right (hold _))

/-- The cancelled timer is gone, or it is in the batch and in the third set. -/
theorem Sound.cancelInLoop (h : q.Sound expired rest) {id : TimerId}
    (hknown : id.timer = 0 ∨ q.Issued id) (hidle : q.handleTimer = false → expired = []) :
    ∃ q', q.cancelInLoop id = some q' ∧ q'.Sound expired rest ∧ q'.batch = q.batch ∧
      q'.destroyed = q.destroyed ∧ q'.handleTimer = q.handleTimer ∧
      (q.handleTimer = false → q'.cancelligTimer = q.cancelligTimer) := by
  unfold TimerQueue.cancelInLoop
  dsimp only
  by_cases hactive : id ∈ q.activeTimers
  · obtain ⟨⟨t, ht, hseq⟩, e, he, hid⟩ := (h.active id).mp hactive
    obtain ⟨u, hu, hexp⟩ := h.accounts.entry e (List.mem_append_left _ he)
    rw [hid, ht] at hu
    cases hu
    have hid' : id = ⟨e.timer, t.sequence⟩ := TimerId.ext hid.symm hseq.symm
    have hentry : (⟨t.expiration, id.timer⟩ : Entry) = e := by
      rw [hexp, ← hid]
    rw [if_pos hactive, ht, Option.bind_eq_bind, Option.bind_some, hentry, hid']
    have hrelease := h.release (hid ▸ ht) (q.timers.erase e) expired
      [.cancelled ⟨e.timer, t.sequence⟩]
      ((List.perm_cons_erase he).append_right _) (fun f hf => List.mem_of_mem_erase hf)
      (fun f hf => by
        by_cases hfe : f = e
        · exact .inr (congrArg Entry.timer hfe)
        · exact .inl ((List.mem_erase_of_ne hfe).mpr hf))
      (fun f hf => hf) (fun f hf => .inl hf) (fun event hevent => List.mem_singleton.mp hevent)
      (h.accounts.log (by simp) (by simp)) (.inl (by simp))
    refine ⟨_, ?_, hrelease, rfl, rfl, rfl, fun _ => rfl⟩
    have ht' : q.heap e.timer = some t := hid ▸ ht
    unfold TimerQueue.delete
    dsimp only
    rw [ht']
    rfl
  · rw [if_neg hactive]
    by_cases hhandle : q.handleTimer = true
    · rw [if_pos hhandle]
      exact ⟨_, rfl, h.cancelled_gone hknown hactive (Finset.subset_insert _ _)
        (fun j hj => (Finset.mem_insert.mp hj).symm) (fun _ => Finset.mem_insert_self _ _),
        rfl, rfl, rfl, fun hf => absurd (hhandle.symm.trans hf) (by decide)⟩
    · have hgone : Lives q.heap id → id ∈ q.cancelligTimer := by
        intro hl
        have ⟨t, ht, _⟩ := hl
        obtain ⟨e, he, hid⟩ := h.accounts.holder _ t ht
        rw [hidle (Bool.eq_false_of_not_eq_true hhandle), List.append_nil] at he
        exact absurd ((h.active id).mpr ⟨hl, e, he, hid⟩) hactive
      rw [if_neg hhandle]
      exact ⟨_, rfl, h.cancelled_gone hknown hactive (Finset.Subset.refl _) (fun j hj => .inl hj) hgone,
        rfl, rfl, rfl, fun _ => rfl⟩

theorem deactivate_spec {es : List Entry} (hes : ∀ e ∈ es, ∃ t, q.heap e.timer = some t)
    (active : Finset TimerId) :
    ∃ active', q.deactivate es active = some active' ∧ ∀ id, id ∈ active' ↔ id ∈ active ∧
      ∀ e ∈ es, ∀ t, q.heap e.timer = some t → id ≠ ⟨e.timer, t.sequence⟩ := by
  induction es generalizing active with
  | nil => exact ⟨active, rfl, fun id => by simp⟩
  | cons e es ih =>
    obtain ⟨t, ht⟩ := hes e List.mem_cons_self
    obtain ⟨active', hactive', hmem⟩ :=
      ih (fun f hf => hes f (List.mem_cons_of_mem _ hf)) (active.erase ⟨e.timer, t.sequence⟩)
    refine ⟨active', ?_, fun id => ?_⟩
    · rw [deactivate, ht]
      exact hactive'
    · rw [hmem, Finset.mem_erase]
      simp only [List.mem_cons, forall_eq_or_imp, ht, Option.some.injEq, forall_eq']
      tauto

/-- The timers that are due are in the batch, and in neither set. -/
theorem Sound.expire (h : q.Sound [] []) (now : Int) (hdestroyed : q.destroyed = false) :
    ∃ q', q.expire now = some q' ∧ q'.Good := by
  have hsplit := List.takeWhile_append_dropWhile (p := (·.expiration ≤ now)) (l := q.timers)
  generalize hexpired : q.timers.takeWhile (·.expiration ≤ now) = expired at hsplit
  generalize hleft : q.timers.dropWhile (·.expiration ≤ now) = left at hsplit
  have hmem : ∀ e, e ∈ q.timers ↔ e ∈ expired ∨ e ∈ left := fun e => by
    rw [← hsplit, List.mem_append]
  have hentry : ∀ e ∈ q.timers, ∃ t, q.heap e.timer = some t := fun e he => by
    obtain ⟨t, ht, -⟩ := h.accounts.entry e (List.mem_append_left _ he)
    exact ⟨t, ht⟩
  obtain ⟨active', hactive', hactive⟩ := q.deactivate_spec
    (fun e he => hentry e ((hmem e).mpr (.inl he))) q.activeTimers
  have hperm : (q.timers ++ []).Perm (left ++ expired) := by
    rw [List.append_nil, ← hsplit]
    exact List.perm_append_comm
  unfold TimerQueue.expire
  dsimp only
  rw [hexpired, hleft, hactive']
  refine ⟨_, rfl, .batch { now, expired, rest := expired } rfl hdestroyed rfl (fun e he => he) ?_⟩
  refine ⟨h.accounts.perm hperm, fun id => ?_, h.known, h.cancelling, fun id hid hl => ?_, h.issued,
    fun id t hid ht hseq => ?_, fun e he hrest => absurd he hrest, h.ended⟩
  · change id ∈ active' ↔ Lives q.heap id ∧ ∃ e ∈ left, _
    rw [hactive, h.active]
    constructor
    · rintro ⟨⟨hl, e, he, hid⟩, hnot⟩
      refine ⟨hl, e, ((hmem e).mp he).resolve_left fun hexp => ?_, hid⟩
      obtain ⟨t, ht, hseq⟩ := hl
      exact hnot e hexp t (hid ▸ ht) (TimerId.ext hid.symm hseq.symm)
    · rintro ⟨hl, e, he, hid⟩
      refine ⟨⟨hl, e, (hmem e).mpr (.inr he), hid⟩, fun f hf t ht hft => ?_⟩
      have hnodup := (h.accounts.perm hperm).nodup
      rw [List.map_append, List.nodup_append] at hnodup
      refine hnodup.2.2 _ (List.mem_map_of_mem he) _ (List.mem_map_of_mem hf) ?_
      rw [hid, hft]
  · obtain ⟨-, e, he, -⟩ := h.cancelled id hid hl
    exact absurd he List.not_mem_nil
  · rcases h.started id t hid ht hseq with hr | ⟨e, he, -⟩
    · exact .inl hr
    · exact absurd he List.not_mem_nil

/-- The next timer of the batch is there, and its callback starts. -/
theorem Sound.next {b : Batch} {e : Entry} (h : q.Sound b.expired b.rest) (hrest : b.rest = e :: rest)
    (hsub : b.rest ⊆ b.expired) :
    ∃ t, q.heap e.timer = some t ∧
      q.next b e rest = some { q with
        batch := some { b with rest, inCallback := true }
        events := q.events ++ [.started ⟨e.timer, t.sequence⟩] } ∧
      ({ q with
        batch := some { b with rest, inCallback := true }
        events := q.events ++ [.started ⟨e.timer, t.sequence⟩] } : TimerQueue).Sound b.expired rest := by
  have he : e ∈ b.expired := hsub (by rw [hrest]; exact List.mem_cons_self)
  obtain ⟨t, ht, -⟩ := h.accounts.entry e (List.mem_append_right _ he)
  have hlive := (h.accounts.object _ t ht).1
  refine ⟨t, ht, ?_, ?_⟩
  · unfold TimerQueue.next
    rw [ht]
    simp [hlive]
  have hold : ∀ event, event ∈ q.events → event ∈ q.events ++ [.started ⟨e.timer, t.sequence⟩] :=
    fun event => List.mem_append_left _
  have hissued : ∀ j, q.Issued j → ∃ r, .created j r ∈ q.events ++ [.started ⟨e.timer, t.sequence⟩] :=
    fun j hj => hj.imp fun r hr => hold _ hr
  have hcancelled : ∀ j, .cancelled j ∈ q.events ++ [.started ⟨e.timer, t.sequence⟩] →
      .cancelled j ∈ q.events := fun j hj => by simpa using hj
  have hstarted : ∀ j, .started j ∈ q.events ++ [.started ⟨e.timer, t.sequence⟩] →
      .started j ∈ q.events ∨ j = ⟨e.timer, t.sequence⟩ := fun j hj => by simpa using hj
  refine ⟨h.accounts.log (by simp) (by simp), h.active,
    fun j hj => (h.known j (hcancelled j hj)).imp_right (hissued j),
    fun j hj => hold _ (h.cancelling j hj), fun j hj => h.cancelled j (hcancelled j hj),
    fun j hj => ?_, fun j u hj hu hseq => ?_, fun f hf hnot u hu => ?_, fun j r hj hl => ?_⟩
  · rcases hstarted j hj with hj | rfl
    · exact hissued j (h.issued j hj)
    · exact hissued _ (h.lives_issued ⟨t, ht, rfl⟩)
  · rcases hstarted j hj with hj | rfl
    · exact h.started j u hj hu hseq
    · exact .inr ⟨e, he, rfl⟩
  · by_cases hfe : f = e
    · subst hfe
      cases ht.symm.trans hu
      exact List.mem_append_right _ (List.mem_singleton_self _)
    · refine hold _ (h.ran f hf ?_ u hu)
      rw [hrest]
      exact List.not_mem_cons_of_ne_of_not_mem hfe hnot
  · have hcreate : .created j r ∈ q.events := by simpa using hj
    exact (h.ended j r hcreate hl).imp (hold _) (And.imp_right (hold _))

/-- A repeating timer that was not cancelled goes from the batch to the sets. -/
theorem Sound.restart {e : Entry} {t : Timer} (h : q.Sound (e :: expired) [])
    (ht : q.heap e.timer = some t) (hr : t.repeats = true)
    (hcancel : (⟨e.timer, t.sequence⟩ : TimerId) ∉ q.cancelligTimer) (expiration : Int) :
    ({ q with
        heap := Function.update q.heap e.timer (some { t with expiration })
        timers := q.insertEntry ⟨expiration, e.timer⟩
        activeTimers := insert ⟨e.timer, t.sequence⟩ q.activeTimers } : TimerQueue).Sound
      expired [] := by
  have hnodup := (h.accounts.perm List.perm_middle).nodup
  have hnot : ∀ f ∈ q.timers ++ expired, f.timer ≠ e.timer := fun f hf hfe =>
    (List.nodup_cons.mp hnodup).1 (List.mem_map.mpr ⟨f, hf, hfe⟩)
  have hentry : (⟨expiration, e.timer⟩ : Entry) ∉ q.timers := fun hmem =>
    hnot _ (List.mem_append_left _ hmem) rfl
  have hlives : ∀ id, Lives (Function.update q.heap e.timer (some { t with expiration })) id ↔
      Lives q.heap id := by
    intro id
    unfold Lives
    by_cases hid : id.timer = e.timer
    · rw [hid, Function.update_self, ht]
      simp
    · rw [Function.update_of_ne hid]
  have hsame : ∀ id, Lives q.heap id → id.timer = e.timer → id = ⟨e.timer, t.sequence⟩ := by
    rintro id ⟨u, hu, hseq⟩ hid
    rw [hid, ht] at hu
    cases hu
    exact TimerId.ext hid hseq.symm
  refine ⟨?_, fun id => ?_, h.known, h.cancelling, fun id hid hl => ?_, h.issued,
    fun id u hid hu hseq => ?_, fun f hf hrest u hu => ?_, fun id r hid hl => ?_⟩
  · exact ((h.accounts.perm List.perm_middle).restart ht expiration).perm
      ((insertEntry_perm hentry).symm.append_right expired)
  · change id ∈ insert _ q.activeTimers ↔ Lives _ id ∧ ∃ f ∈ q.insertEntry _, _
    rw [Finset.mem_insert, h.active, hlives]
    constructor
    · rintro (rfl | ⟨hl, f, hf, hid⟩)
      · exact ⟨⟨t, ht, rfl⟩, _, mem_insertEntry.mpr (.inl rfl), rfl⟩
      · exact ⟨hl, f, mem_insertEntry.mpr (.inr hf), hid⟩
    · rintro ⟨hl, f, hf, hid⟩
      rcases mem_insertEntry.mp hf with rfl | hf
      · exact .inl (hsame id hl hid.symm)
      · exact .inr ⟨hl, f, hf, hid⟩
  · have hold := (hlives id).mp hl
    obtain ⟨hmem, f, hf, hfid⟩ := h.cancelled id hid hold
    refine ⟨hmem, f, (List.mem_cons.mp hf).resolve_left fun hfe => ?_, hfid⟩
    rw [hfe] at hfid
    exact hcancel (hsame id hold hfid.symm ▸ hmem)
  · by_cases hid' : id.timer = e.timer
    · rw [hid'] at hu
      change Function.update q.heap e.timer _ e.timer = some u at hu
      rw [Function.update_self] at hu
      cases hu
      exact .inl hr
    · change Function.update q.heap e.timer _ id.timer = some u at hu
      rw [Function.update_of_ne hid'] at hu
      refine (h.started id u hid hu hseq).imp_right ?_
      rintro ⟨f, hf, hfid⟩
      refine ⟨f, (List.mem_cons.mp hf).resolve_left ?_, hfid⟩
      rintro rfl
      exact hid' hfid.symm
  · change Function.update q.heap e.timer _ f.timer = some u at hu
    rw [Function.update_of_ne (hnot f (List.mem_append_right _ hf))] at hu
    exact h.ran f (List.mem_cons_of_mem _ hf) hrest u hu
  · exact h.ended id r hid fun hl' => hl ((hlives id).mpr hl')

/-- One timer of a batch that ran is put back, or released because it was cancelled or is a
one-shot. -/
theorem Sound.resetOne {e : Entry} (h : q.Sound (e :: expired) []) (now : Int) :
    ∃ q', q.resetOne now e = some q' ∧ q'.Sound expired [] ∧ q'.destroyed = q.destroyed ∧
      q'.handleTimer = q.handleTimer := by
  obtain ⟨t, ht, -⟩ := h.accounts.entry e (List.mem_append_right _ List.mem_cons_self)
  have hlive := (h.accounts.object _ t ht).1
  have hperm : (q.timers ++ e :: expired).Perm (e :: (q.timers ++ expired)) := List.perm_middle
  have hinactive : (⟨e.timer, t.sequence⟩ : TimerId) ∉ q.activeTimers := by
    intro hmem
    obtain ⟨-, f, hf, hfe⟩ := (h.active _).mp hmem
    exact h.not_expired hf List.mem_cons_self hfe
  -- both ways to release it
  have hdelete : (.cancelled ⟨e.timer, t.sequence⟩ ∈ q.events ∨ t.repeats = false) →
      ∃ q', q.delete e.timer = some q' ∧ q'.Sound expired [] ∧ q'.destroyed = q.destroyed ∧
        q'.handleTimer = q.handleTimer := by
    intro hend
    have hrelease := h.release ht q.timers expired [] hperm
      (fun f hf => hf) (fun f hf => .inl hf) (fun f hf => List.mem_cons_of_mem _ hf)
      (fun f hf => (List.mem_cons.mp hf).symm.imp_right (congrArg Entry.timer)) (by simp)
      (by rw [List.append_nil]; exact h.accounts)
      (by
        rw [List.append_nil]
        exact hend.imp_right fun hr => ⟨hr, h.ran e List.mem_cons_self List.not_mem_nil t ht⟩)
    rw [Finset.erase_eq_of_notMem hinactive, List.append_nil] at hrelease
    refine ⟨_, ?_, hrelease, rfl, rfl⟩
    unfold TimerQueue.delete
    rw [ht]
    rfl
  unfold TimerQueue.resetOne
  rw [ht, Option.bind_eq_bind, Option.bind_some]
  by_cases hcancel : (⟨e.timer, t.sequence⟩ : TimerId) ∈ q.cancelligTimer
  · rw [if_pos hcancel]
    exact hdelete (.inl (h.cancelling _ hcancel))
  · rw [if_neg hcancel, if_neg (by simp [hlive])]
    by_cases hr : t.repeats = true
    · rw [if_pos hr]
      exact ⟨_, rfl, h.restart ht hr hcancel (now + t.micro), rfl, rfl⟩
    · rw [if_neg hr]
      exact hdelete (.inr (Bool.eq_false_of_not_eq_true hr))

theorem reset_sound (now : Int) (h : q.Sound expired []) :
    ∃ q', reset now expired q = some q' ∧ q'.Sound [] [] ∧ q'.destroyed = q.destroyed ∧
      q'.handleTimer = q.handleTimer := by
  induction expired generalizing q with
  | nil => exact ⟨q, rfl, h, rfl, rfl⟩
  | cons e es ih =>
    obtain ⟨mid, hmid, hsound, hdestroyed, hhandle⟩ := h.resetOne now
    obtain ⟨q', hq', hsound', hdestroyed', hhandle'⟩ := ih hsound
    refine ⟨q', ?_, hsound', hdestroyed'.trans hdestroyed, hhandle'.trans hhandle⟩
    rw [reset, hmid]
    exact hq'

theorem Sound.finish {b : Batch} (h : q.Sound b.expired b.rest) (hrest : b.rest = [])
    (hdestroyed : q.destroyed = false) : ∃ q', q.finish b = some q' ∧ q'.Good := by
  rw [hrest] at h
  have h' : ({ q with handleTimer := false } : TimerQueue).Sound b.expired [] :=
    ⟨h.accounts, h.active, h.known, h.cancelling, h.cancelled, h.issued, h.started, h.ran, h.ended⟩
  obtain ⟨q', hq', hsound, hdestroyed', hhandle⟩ := reset_sound b.now h'
  refine ⟨{ q' with cancelligTimer := ∅, batch := none }, ?_, ?_⟩
  · unfold TimerQueue.finish
    rw [hq']
    rfl
  · refine .idle rfl (hdestroyed'.trans hdestroyed) hhandle rfl ?_
    refine ⟨hsound.accounts, hsound.active, hsound.known, fun id hid => absurd hid (Finset.notMem_empty _),
      fun id hid hl => ?_, hsound.issued, hsound.started, hsound.ran, hsound.ended⟩
    obtain ⟨-, e, he, -⟩ := hsound.cancelled id hid hl
    exact absurd he List.not_mem_nil

theorem deleteAll_accounts {es : List Entry}
    (h : Accounts q.heap q.numCreated q.events es) :
    ∃ q', deleteAll es q = some q' ∧ Accounts q'.heap q'.numCreated q'.events [] ∧
      q'.batch = q.batch := by
  induction es generalizing q with
  | nil => exact ⟨q, rfl, h, rfl⟩
  | cons e es ih =>
    obtain ⟨t, ht, haccounts⟩ := h.delete
    obtain ⟨q', hq', haccounts', hbatch⟩ := ih (q := { q with
      heap := Function.update q.heap e.timer none
      events := q.events ++ [.released ⟨e.timer, t.sequence⟩] }) haccounts
    refine ⟨q', ?_, haccounts', hbatch⟩
    rw [deleteAll, TimerQueue.delete, ht]
    exact hq'

theorem Sound.destroy (h : q.Sound [] []) (hbatch : q.batch = none) :
    ∃ q', q.destroy = some q' ∧ q'.Good := by
  have haccounts := h.accounts
  rw [List.append_nil] at haccounts
  obtain ⟨q', hq', haccounts', hbatch'⟩ := deleteAll_accounts haccounts
  refine ⟨{ q' with timers := [], activeTimers := ∅, destroyed := true }, ?_,
    .destroyed (hbatch'.trans hbatch) rfl haccounts'⟩
  unfold TimerQueue.destroy
  rw [hq']
  rfl

end Invariant

section Steps

variable {q q' : TimerQueue} {l : TimerStep}

theorem good_init : Good {} := by
  refine .idle rfl rfl rfl rfl ?_
  refine ⟨⟨nofun, nofun, nofun, .nil, nofun, nofun, .nil, fun id => ?_⟩, fun id => ?_, nofun, nofun,
    nofun, nofun, nofun, nofun, nofun⟩
  · exact iff_of_false List.not_mem_nil fun ⟨⟨r, hr⟩, _⟩ => List.not_mem_nil hr
  · exact iff_of_false (Finset.notMem_empty _) fun ⟨_, e, he, _⟩ => List.not_mem_nil he

/-- Every step that is enabled can be taken, and leads to a state as sound as before. -/
theorem Good.step (h : q.Good) (hl : q.Enabled l) : ∃ q', q.step l = some q' ∧ q'.Good := by
  cases l with
  | add timer when micro repeats =>
    refine ⟨q.addTimer timer when micro repeats, if_pos hl, ?_⟩
    obtain ⟨hcall, hnull, hfree⟩ := hl
    cases h with
    | idle hbatch hdestroyed hhandle hcancel hsound =>
      exact .idle hbatch hdestroyed hhandle hcancel (hsound.addTimer hnull hfree when micro repeats)
    | batch b hbatch hdestroyed hhandle hsub hsound =>
      exact .batch b hbatch hdestroyed hhandle hsub (hsound.addTimer hnull hfree when micro repeats)
    | destroyed hbatch hdestroyed haccounts => simp [callable, hdestroyed] at hcall
  | cancel id =>
    obtain ⟨hcall, hknown⟩ := hl
    dsimp only [TimerQueue.step]
    rw [if_pos ⟨hcall, hknown⟩]
    cases h with
    | idle hbatch hdestroyed hhandle hcancel hsound =>
      obtain ⟨q', hq', hsound', hbatch', hdestroyed', hhandle', hcancel'⟩ :=
        hsound.cancelInLoop hknown fun _ => rfl
      exact ⟨q', hq', .idle (hbatch'.trans hbatch) (hdestroyed'.trans hdestroyed)
        (hhandle'.trans hhandle) ((hcancel' hhandle).trans hcancel) hsound'⟩
    | batch b hbatch hdestroyed hhandle hsub hsound =>
      obtain ⟨q', hq', hsound', hbatch', hdestroyed', hhandle', -⟩ :=
        hsound.cancelInLoop hknown fun hf => absurd (hhandle.symm.trans hf) (by decide)
      exact ⟨q', hq', .batch b (hbatch'.trans hbatch) (hdestroyed'.trans hdestroyed)
        (hhandle'.trans hhandle) hsub hsound'⟩
    | destroyed hbatch hdestroyed haccounts => simp [callable, hdestroyed] at hcall
  | expire now =>
    obtain ⟨hidle, hd⟩ := hl
    dsimp only [TimerQueue.step]
    rw [if_pos ⟨hidle, hd⟩]
    cases h with
    | idle hbatch hdestroyed hhandle hcancel hsound => exact hsound.expire now hdestroyed
    | batch b hbatch hdestroyed hhandle hsub hsound => cases hidle.symm.trans hbatch
    | destroyed hbatch hdestroyed haccounts => simp [hdestroyed] at hd
  | next =>
    obtain ⟨b, hb, hrest⟩ := hl
    cases h with
    | idle hbatch hdestroyed hhandle hcancel hsound => cases hbatch.symm.trans hb
    | batch c hbatch hdestroyed hhandle hsub hsound =>
      cases hbatch.symm.trans hb
      obtain ⟨e, rest, he⟩ := List.exists_cons_of_ne_nil hrest
      obtain ⟨t, ht, hnext, hsound'⟩ := hsound.next he hsub
      have hstep : q.step .next = q.next b e rest := by
        dsimp only [TimerQueue.step]
        rw [hbatch]
        dsimp only
        rw [he]
      exact ⟨_, hstep.trans hnext, .batch { b with rest, inCallback := true } rfl hdestroyed hhandle
        (fun f hf => hsub (he ▸ List.mem_cons_of_mem _ hf)) hsound'⟩
    | destroyed hbatch hdestroyed haccounts => cases hbatch.symm.trans hb
  | finish =>
    obtain ⟨b, hb, hrest⟩ := hl
    cases h with
    | idle hbatch hdestroyed hhandle hcancel hsound => cases hbatch.symm.trans hb
    | batch c hbatch hdestroyed hhandle hsub hsound =>
      cases hbatch.symm.trans hb
      dsimp only [TimerQueue.step]
      rw [hbatch]
      dsimp only
      rw [if_pos hrest]
      exact hsound.finish hrest hdestroyed
    | destroyed hbatch hdestroyed haccounts => cases hbatch.symm.trans hb
  | destroy =>
    obtain ⟨hidle, hd⟩ := hl
    dsimp only [TimerQueue.step]
    rw [if_pos ⟨hidle, hd⟩]
    cases h with
    | idle hbatch hdestroyed hhandle hcancel hsound => exact hsound.destroy hbatch
    | batch b hbatch hdestroyed hhandle hsub hsound => cases hidle.symm.trans hbatch
    | destroyed hbatch hdestroyed haccounts => simp [hdestroyed] at hd

theorem step_enabled (h : q.step l = some q') : q.Enabled l := by
  cases l <;> dsimp only [TimerQueue.step] at h
  case add => exact (Option.ite_none_right_eq_some.mp h).1
  case cancel => exact (Option.ite_none_right_eq_some.mp h).1
  case expire => exact (Option.ite_none_right_eq_some.mp h).1
  case destroy => exact (Option.ite_none_right_eq_some.mp h).1
  case next =>
    split at h
    · cases h
    · rename_i b hb
      split at h
      · cases h
      · rename_i e rest hrest
        exact ⟨b, hb, by rw [hrest]; simp⟩
  case finish =>
    split at h
    · cases h
    · rename_i b hb
      exact ⟨b, hb, (Option.ite_none_right_eq_some.mp h).1⟩

theorem Good.of_step (h : q.Good) (hstep : q.step l = some q') : q'.Good := by
  obtain ⟨q₂, hq₂, hgood⟩ := h.step (step_enabled hstep)
  cases hstep.symm.trans hq₂
  exact hgood

end Steps

section Log

variable {q q' : TimerQueue} {l : TimerStep}

/-- What is added to the log, with no callback started. -/
def Quiet (q q' : TimerQueue) : Prop :=
  ∃ log, q'.events = q.events ++ log ∧ ∀ id, .started id ∉ log

theorem Quiet.trans {q₁ q₂ q₃ : TimerQueue} (h : Quiet q₁ q₂) (h' : Quiet q₂ q₃) : Quiet q₁ q₃ := by
  obtain ⟨log, hlog, hquiet⟩ := h
  obtain ⟨log', hlog', hquiet'⟩ := h'
  refine ⟨log ++ log', by rw [hlog', hlog, List.append_assoc], fun id hid => ?_⟩
  exact (List.mem_append.mp hid).elim (hquiet id) (hquiet' id)

theorem Quiet.of_eq (h : q'.events = q.events) : Quiet q q' :=
  ⟨[], by rw [h, List.append_nil], fun _ => List.not_mem_nil⟩

theorem delete_quiet {timer : Nat} (h : q.delete timer = some q') : Quiet q q' := by
  obtain ⟨t, -, hq⟩ := Option.bind_eq_some_iff.mp h
  cases hq
  exact ⟨_, rfl, by simp⟩

theorem cancelInLoop_quiet {id : TimerId} (h : q.cancelInLoop id = some q') : Quiet q q' := by
  have hcancel : Quiet q { q with events := q.events ++ [.cancelled id] } := ⟨_, rfl, by simp⟩
  unfold TimerQueue.cancelInLoop at h
  dsimp only at h
  split at h
  · obtain ⟨t, -, hdelete⟩ := Option.bind_eq_some_iff.mp h
    obtain ⟨log, hlog, hquiet⟩ := delete_quiet hdelete
    exact hcancel.trans ⟨log, hlog, hquiet⟩
  · split at h <;> cases h <;> exact hcancel

theorem resetOne_quiet {now : Int} {e : Entry} (h : q.resetOne now e = some q') : Quiet q q' := by
  obtain ⟨t, -, h⟩ := Option.bind_eq_some_iff.mp h
  split at h
  · exact delete_quiet h
  · split at h
    · exact delete_quiet h
    · split at h
      · cases h
        exact .of_eq rfl
      · exact delete_quiet h

theorem reset_quiet {now : Int} {es : List Entry} (h : reset now es q = some q') : Quiet q q' := by
  induction es generalizing q with
  | nil =>
    cases h
    exact .of_eq rfl
  | cons e es ih =>
    obtain ⟨mid, hmid, hrest⟩ := Option.bind_eq_some_iff.mp h
    exact (resetOne_quiet hmid).trans (ih hrest)

theorem deleteAll_quiet {es : List Entry} (h : deleteAll es q = some q') : Quiet q q' := by
  induction es generalizing q with
  | nil =>
    cases h
    exact .of_eq rfl
  | cons e es ih =>
    obtain ⟨mid, hmid, hrest⟩ := Option.bind_eq_some_iff.mp h
    exact (delete_quiet hmid).trans (ih hrest)

/-- Only the loop over a batch starts callbacks. -/
theorem step_quiet (hl : l ≠ .next) (h : q.step l = some q') : Quiet q q' := by
  cases l <;> dsimp only [TimerQueue.step] at h
  case next => exact absurd rfl hl
  case add =>
    cases (Option.ite_none_right_eq_some.mp h).2
    exact ⟨_, rfl, by simp⟩
  case cancel => exact cancelInLoop_quiet (Option.ite_none_right_eq_some.mp h).2
  case expire =>
    obtain ⟨active, -, hq⟩ := Option.bind_eq_some_iff.mp (Option.ite_none_right_eq_some.mp h).2
    cases hq
    exact .of_eq rfl
  case destroy =>
    obtain ⟨mid, hmid, hq⟩ := Option.bind_eq_some_iff.mp (Option.ite_none_right_eq_some.mp h).2
    cases hq
    exact (deleteAll_quiet hmid).trans (.of_eq rfl)
  case finish =>
    split at h
    · cases h
    · obtain ⟨mid, hmid, hq⟩ := Option.bind_eq_some_iff.mp (Option.ite_none_right_eq_some.mp h).2
      cases hq
      exact (Quiet.of_eq rfl).trans ((reset_quiet hmid).trans (.of_eq rfl))

end Log

section Claim

variable {q q' : TimerQueue} {l : TimerStep}

/-- No callback is started after its timer was cancelled. -/
def NeverLate (events : List Event) : Prop :=
  events.Pairwise fun event event' => ∀ id, event = .cancelled id → event' ≠ .started id

/-- What is promised of the timers. Outside a batch a timer is scheduled exactly as long as it was
not cancelled and has not run, or repeats. -/
structure Kept (q : TimerQueue) : Prop where
  neverLate : NeverLate q.events
  releasedOnce : (releases q.events).Nodup
  released : ∀ id, id ∈ releases q.events ↔ q.Issued id ∧ ¬Lives q.heap id
  scheduled : q.batch = none → q.destroyed = false → ∀ id repeats,
    .created id repeats ∈ q.events →
      ((Lives q.heap id ∧ ∃ e ∈ q.timers, e.timer = id.timer) ↔
        .cancelled id ∉ q.events ∧ (repeats = true ∨ .started id ∉ q.events))
  allReleased : q.destroyed = true → ∀ id, q.Issued id → id ∈ releases q.events
  runs : ∀ l, q.Enabled l → ∃ q', q.step l = some q'

/-- The callback that the batch comes to is not of a timer that was cancelled by another one. -/
def InTime (q : TimerQueue) : TimerStep → Prop
  | .next => ∀ b e rest t, q.batch = some b → b.rest = e :: rest → q.heap e.timer = some t →
    (⟨e.timer, t.sequence⟩ : TimerId) ∉ q.cancelligTimer
  | _ => True

theorem Good.accounts (h : q.Good) :
    ∃ held, Accounts q.heap q.numCreated q.events held := by
  cases h with
  | idle hbatch hdestroyed hhandle hcancel hsound => exact ⟨_, hsound.accounts⟩
  | batch b hbatch hdestroyed hhandle hsub hsound => exact ⟨_, hsound.accounts⟩
  | destroyed hbatch hdestroyed haccounts => exact ⟨_, haccounts⟩

theorem Good.scheduled (h : q.Good) (hidle : q.batch = none) (hd : q.destroyed = false)
    {id : TimerId} {repeats : Bool} (hcreated : .created id repeats ∈ q.events) :
    (Lives q.heap id ∧ ∃ e ∈ q.timers, e.timer = id.timer) ↔
      .cancelled id ∉ q.events ∧ (repeats = true ∨ .started id ∉ q.events) := by
  cases h with
  | batch b hbatch hdestroyed hhandle hsub hsound => cases hidle.symm.trans hbatch
  | destroyed hbatch hdestroyed haccounts => cases hd.symm.trans hdestroyed
  | idle hbatch hdestroyed hhandle hcancel hsound =>
    constructor
    · rintro ⟨hl, -⟩
      refine ⟨fun hc => ?_, ?_⟩
      · obtain ⟨-, e, he, -⟩ := hsound.cancelled id hc hl
        exact List.not_mem_nil he
      · by_cases hs : .started id ∈ q.events
        · obtain ⟨t, ht, hseq⟩ := hl
          have hobject := (hsound.accounts.object _ t ht).2
          have hrepeats := (hsound.accounts.once _ _ _ _ hobject hcreated hseq).2
          rcases hsound.started id t hs ht hseq with hr | ⟨e, he, -⟩
          · exact .inl (hrepeats ▸ hr)
          · exact absurd he List.not_mem_nil
        · exact .inr hs
    · rintro ⟨hc, hr⟩
      have hl : Lives q.heap id := by
        by_contra hl
        rcases hsound.ended id repeats hcreated hl with hc' | ⟨hr', hs⟩
        · exact hc hc'
        · rcases hr with hr | hr
          · exact absurd (hr.symm.trans hr') (by decide)
          · exact hr hs
      have ⟨t, ht, _⟩ := hl
      obtain ⟨e, he, hid⟩ := hsound.accounts.holder _ t ht
      rw [List.append_nil] at he
      exact ⟨hl, e, he, hid⟩

/-- Everything but the order of cancellations and callbacks is kept by every step. -/
theorem Good.kept (h : q.Good) (hlate : NeverLate q.events) : q.Kept := by
  obtain ⟨held, haccounts⟩ := h.accounts
  refine ⟨hlate, haccounts.releasedOnce, haccounts.released,
    fun hidle hd id repeats hcreated => h.scheduled hidle hd hcreated, fun hd id hid => ?_,
    fun l hl => ?_⟩
  · cases h with
    | idle hbatch hdestroyed hhandle hcancel hsound => cases hdestroyed.symm.trans hd
    | batch b hbatch hdestroyed hhandle hsub hsound => cases hdestroyed.symm.trans hd
    | destroyed hbatch hdestroyed haccounts' =>
      refine (haccounts'.released id).mpr ⟨hid, fun ⟨t, ht, _⟩ => ?_⟩
      obtain ⟨e, he, -⟩ := haccounts'.holder _ t ht
      exact List.not_mem_nil he
  · obtain ⟨q', hq', -⟩ := h.step hl
    exact ⟨q', hq'⟩

/-- A step starts no callback late exactly when it is in time. -/
theorem neverLate_step (h : q.Good) (hlate : NeverLate q.events) (hstep : q.step l = some q') :
    NeverLate q'.events ↔ q.InTime l := by
  by_cases hl : l = .next
  · subst hl
    obtain ⟨b, hb, hrest⟩ := step_enabled hstep
    cases h with
    | idle hbatch hdestroyed hhandle hcancel hsound => cases hbatch.symm.trans hb
    | destroyed hbatch hdestroyed haccounts => cases hbatch.symm.trans hb
    | batch c hbatch hdestroyed hhandle hsub hsound =>
      cases hbatch.symm.trans hb
      obtain ⟨e, rest, he⟩ := List.exists_cons_of_ne_nil hrest
      obtain ⟨t, ht, hnext, -⟩ := hsound.next he hsub
      dsimp only [TimerQueue.step] at hstep
      rw [hbatch] at hstep
      dsimp only at hstep
      rw [he] at hstep
      cases hnext.symm.trans hstep
      have hmem : .cancelled ⟨e.timer, t.sequence⟩ ∈ q.events ↔
          (⟨e.timer, t.sequence⟩ : TimerId) ∈ q.cancelligTimer :=
        ⟨fun hc => (hsound.cancelled _ hc ⟨t, ht, rfl⟩).1, hsound.cancelling _⟩
      unfold NeverLate
      rw [List.pairwise_append]
      constructor
      · rintro ⟨-, -, hnot⟩ b' e' rest' t' hb' he' ht' hin
        cases hbatch.symm.trans hb'
        cases he.symm.trans he'
        cases ht.symm.trans ht'
        exact hnot _ (hmem.mpr hin) _ (List.mem_singleton_self _) _ rfl rfl
      · intro hin
        refine ⟨hlate, List.pairwise_singleton _ _, fun event hevent event' hevent' id hid => ?_⟩
        rw [List.mem_singleton.mp hevent']
        rintro heq
        cases heq
        exact hin b e rest t hbatch he ht (hmem.mp (hid ▸ hevent))
  · obtain ⟨log, hlog, hquiet⟩ := step_quiet hl hstep
    refine iff_of_true ?_ (by cases l <;> trivial)
    unfold NeverLate
    rw [hlog, List.pairwise_append]
    have hno : ∀ event ∈ log, ∀ id, event ≠ .started id := fun event hevent id heq =>
      hquiet id (heq ▸ hevent)
    exact ⟨hlate, List.pairwise_of_forall_mem_list fun event _ event' hevent' id _ => hno event' hevent' id,
      fun event _ event' hevent' id _ => hno event' hevent' id⟩

/-- Wherever the loop comes the promises on timers are kept if and only if no batch comes to the
callback of a timer that an earlier callback of it has cancelled. -/
theorem timers_kept_iff (ls : List TimerStep) :
    (∀ ms q, ms <+: ls → Run.exec step {} ms = some q → q.Kept) ↔ Run.Along step InTime {} ls := by
  have hvisited := @Run.visited_iff_along _ _ step InTime Good
    (fun q => NeverLate q.events) (fun q l hnone => ?_) (fun q l q' hgood hlate hstep =>
      ⟨hgood.of_step hstep, neverLate_step hgood hlate hstep⟩) _ ls good_init .nil
  · rw [← hvisited]
    refine ⟨fun h ms q hms hq => (h ms q hms hq).neverLate, fun h ms q hms hq => ?_⟩
    exact (Run.exec_invariant Good (fun q l q' hgood hstep => hgood.of_step hstep) good_init
      hq).kept (h ms q hms hq)
  · cases l with
    | next =>
      intro b e rest t hb he ht
      dsimp only [TimerQueue.step] at hnone
      rw [hb] at hnone
      dsimp only at hnone
      rw [he] at hnone
      dsimp only [TimerQueue.next] at hnone
      rw [ht, Option.bind_eq_bind, Option.bind_some] at hnone
      split at hnone <;> cases hnone
    | add timer when micro repeats => trivial
    | cancel id => trivial
    | expire now => trivial
    | finish => trivial
    | destroy => trivial

/-- Two timers come due at once, and the callback of the first one cancels the second one: its
callback is run all the same. -/
theorem cancelled_timer_runs :
    ¬∀ ms q, ms <+: [.add 1 10 0 false, .add 2 10 0 false, .expire 20, .next, .cancel ⟨2, 1⟩,
        .next] → Run.exec step {} ms = some q → q.Kept := by
  intro h
  have hlate := (h _ _ (List.prefix_refl _) rfl).neverLate
  rw [NeverLate, List.pairwise_iff_getElem] at hlate
  exact hlate 3 4 (by decide) (by decide) (by decide) ⟨2, 1⟩ rfl rfl

end Claim

end TimerQueue

end Loop
