import GameServer.Aoi.Link

/-!
# What an owner publishes

A call of a worker on its own entities either leaves the replica alone or applies
and publishes one event, under the next number. Publishing is retried until every
other worker's queue has taken the event.
-/

namespace Aoi

open AoiReplica

variable {sc : Scene} {wId o : WorkerId} {targets : List WorkerId} {s s' : AoiService}

/-- What the owner's own replica says about its entities. -/
structure History (wId : WorkerId) (s : AoiService) : Prop where
  ents : ∀ id e, ownerOf id = wId → s.replica.ents.lookup id = some e →
    e.kind = .player ∧ e.ownerSeq ≤ s.ownerSeq
  tombs : ∀ id t, ownerOf id = wId → s.replica.tombstones.lookup id = some t →
    t.ownerSeq ≤ s.ownerSeq

theorem history_init : History wId {} where
  ents := by simp
  tombs := by simp

/-- The parts of the service that concern other owners only. -/
structure OthersKept (s s' : AoiService) : Prop where
  ids : IdsKept s s'
  moves : s'.pendingRemoteMoves = s.pendingRemoteMoves
  need : s'.ownersNeedingSnapshot = s.ownersNeedingSnapshot
  queue : s'.workerQueue = s.workerQueue

/-- The outcome of an own call: nothing, or one new event. -/
inductive Issued (sc : Scene) (wId : WorkerId) (targets : List WorkerId) (s s' : AoiService) :
    Prop where
  | nothing (hrep : s'.replica = s.replica) (hseq : s'.ownerSeq = s.ownerSeq)
      (hpub : s'.pendingPublishes = s.pendingPublishes)
  | event (ev : AoiEvent) (dirty : Observers)
      (happly : s.replica.apply sc wId ev .kLocal s.dirtyObservers =
        some (.applied, s'.replica, dirty))
      (hseq : s'.ownerSeq = s.ownerSeq + 1) (hnumber : ev.ownerSeq = s.ownerSeq + 1)
      (hpub : s'.pendingPublishes = s.pendingPublishes ++ [{ event := ev, remaining := targets }])
      (howner : ev.ownerThreadId = wId) (hplayer : ev.entityKind = .player)
      (havatar : Avatar s' ev.eId ev.businessId)

section Calls

theorem Issued.of_applyLocal (htargets : targets ≠ []) {event : AoiEvent} {res : ApplyResult}
    (howner : event.ownerThreadId = wId) (hplayer : event.entityKind = .player)
    (havatar : Avatar s event.eId event.businessId)
    (hrun : s.applyLocal sc wId targets event = some (res, s')) :
    Issued sc wId targets s s' ∧ OthersKept s s' := by
  rcases applyLocal_spec hrun with ⟨_, rfl⟩ | ⟨rfl, rep, dirty, happly, rfl⟩
  · exact ⟨.nothing rfl rfl rfl, ⟨.refl _, rfl, rfl, rfl⟩⟩
  · refine ⟨.event { event with ownerSeq := s.ownerSeq + 1 } dirty happly rfl rfl ?_ howner hplayer
      havatar, ⟨.of_eq rfl, rfl, rfl, rfl⟩⟩
    simp [htargets]

/-- Neither the identity given out before an event nor what follows it matters to other workers. -/
theorem Issued.around {t u : AoiService} (h : Issued sc wId targets t u)
    (hrep : t.replica = s.replica) (hdirty : t.dirtyObservers = s.dirtyObservers)
    (hseq : t.ownerSeq = s.ownerSeq) (hpub : t.pendingPublishes = s.pendingPublishes)
    (hrep' : s'.replica = u.replica) (hseq' : s'.ownerSeq = u.ownerSeq)
    (hpub' : s'.pendingPublishes = u.pendingPublishes) (hids : IdsKept u s') :
    Issued sc wId targets s s' := by
  cases h with
  | nothing h1 h2 h3 =>
    exact .nothing (by rw [hrep', h1, hrep]) (by rw [hseq', h2, hseq]) (by rw [hpub', h3, hpub])
  | event ev dirty happly h2 hnumber h3 howner hplayer havatar =>
    rw [hrep, hdirty, ← hrep'] at happly
    exact .event ev dirty happly (by rw [hseq', h2, hseq]) (by rw [hnumber, hseq])
      (by rw [hpub', h3, hpub]) howner hplayer (havatar.mono hids)

theorem IdsKept.insert_same {pid : Nat} {i j : LocalIdentity} (hi : s.identities.lookup pid = some i)
    (hid : j.id = i.id) (hs' : s'.identities = s.identities.insert pid j) : IdsKept s s' := by
  intro q k hk
  by_cases hq : q = pid
  · subst hq
    cases hi.symm.trans hk
    exact ⟨j, by rw [hs']; exact Table.lookup_insert_same _ _ _, hid⟩
  · exact ⟨k, by rw [hs', Table.lookup_insert, if_neg hq]; exact hk, rfl⟩

theorem identify_spec {pid : Nat} {i : LocalIdentity} {t : AoiService}
    (h : Based sc wId s) (hrun : s.identify wId pid = some (i, t)) :
    t.identities.lookup pid = some i ∧ t.replica = s.replica ∧
      t.dirtyObservers = s.dirtyObservers ∧ t.ownerSeq = s.ownerSeq ∧
      t.pendingPublishes = s.pendingPublishes ∧ OthersKept s t := by
  obtain ⟨_, _, _, hrep, hdirty, hi, hkept⟩ := h.identify hrun
  refine ⟨hi, hrep, hdirty, ?_⟩
  unfold AoiService.identify at hrun
  split at hrun
  · cases hrun
    exact ⟨rfl, rfl, hkept, rfl, rfl, rfl⟩
  split at hrun
  · cases hrun
  · cases hrun
    exact ⟨rfl, rfl, hkept, rfl, rfl, rfl⟩

theorem OthersKept.refl (s : AoiService) : OthersKept s s := ⟨.refl s, rfl, rfl, rfl⟩

theorem OthersKept.trans {t : AoiService} (hst : OthersKept s t) (htu : OthersKept t s') :
    OthersKept s s' :=
  ⟨hst.ids.trans htu.ids, htu.moves.trans hst.moves, htu.need.trans hst.need,
    htu.queue.trans hst.queue⟩

theorem enter_issued (h : Based sc wId s) (htargets : targets ≠ []) {p : PlayerPose}
    {reenter : Bool} {res : ApplyResult}
    (hrun : s.enter sc wId targets p reenter = some (res, s')) :
    Issued sc wId targets s s' ∧ OthersKept s s' := by
  have hsame : Issued sc wId targets s s ∧ OthersKept s s :=
    ⟨.nothing rfl rfl rfl, .refl s⟩
  unfold AoiService.enter at hrun
  split at hrun
  · cases hrun
    exact hsame
  split at hrun
  · cases hrun
    exact hsame
  cases hident : s.identify wId p.id with
  | none =>
    simp only [hident] at hrun
    cases hrun
    exact hsame
  | some out =>
    obtain ⟨i, t⟩ := out
    obtain ⟨hi, hrep, hdirty, hseq, hpub, hkept⟩ := identify_spec h hident
    have hgiven : Issued sc wId targets s t ∧ OthersKept s t := ⟨.nothing hrep hseq hpub, hkept⟩
    simp only [hident] at hrun
    split at hrun
    · cases hrun
      exact hgiven
    split at hrun
    · cases hrun
      exact hgiven
    simp only [Option.bind_eq_bind, Option.bind_eq_some_iff] at hrun
    obtain ⟨⟨result, u⟩, happly, hrun⟩ := hrun
    obtain ⟨hissued, hothers⟩ :=
      Issued.of_applyLocal htargets rfl rfl ⟨i, hi, rfl⟩ happly
    split at hrun
    · cases hrun
      obtain ⟨i', hi', hid⟩ := hothers.ids _ i hi
      refine ⟨hissued.around hrep hdirty hseq hpub rfl rfl rfl ?_,
        hkept.trans (hothers.trans ⟨?_, rfl, rfl, rfl⟩)⟩
      · refine .insert_same hi' ?_ rfl
        exact hid.symm
      · refine .insert_same hi' ?_ rfl
        exact hid.symm
    · cases hrun
      exact ⟨hissued.around hrep hdirty hseq hpub rfl rfl rfl (.refl _), hkept.trans hothers⟩

/-- The player behind a local entity of the owner. -/
theorem Based.avatar (h : Based sc wId s) {id : EntityId} {e : AoiEntity}
    (he : s.replica.ents.lookup id = some e) (hown : e.ownerWorker = wId) :
    Avatar s e.entityId e.businessId := by
  rw [h.owned.agree.key id e he]
  exact h.business id e he hown

theorem leave_issued (h : Based sc wId s) (hh : History wId s) (htargets : targets ≠ [])
    {id : EntityId} {res : ApplyResult}
    (hrun : s.onEntityLeave sc wId targets id = some (res, s')) :
    Issued sc wId targets s s' ∧ OthersKept s s' := by
  have hsame : Issued sc wId targets s s ∧ OthersKept s s := ⟨.nothing rfl rfl rfl, .refl s⟩
  unfold AoiService.onEntityLeave at hrun
  cases hent : s.replica.findById id with
  | none =>
    simp only [hent] at hrun
    cases hrun
    exact hsame
  | some ent =>
    simp only [hent] at hrun
    split at hrun
    · cases hrun
      exact hsame
    rename_i hown
    have hown := not_not.mp hown
    split at hrun
    · cases hrun
      exact hsame
    simp only [Option.bind_eq_bind, Option.bind_eq_some_iff] at hrun
    obtain ⟨⟨result, u⟩, happly, hrun⟩ := hrun
    have hkind := (hh.ents id ent ((h.owned.owner id ent hent).symm.trans hown) hent).1
    obtain ⟨hissued, hothers⟩ :=
      Issued.of_applyLocal htargets hown hkind (h.avatar hent hown) happly
    split at hrun
    · cases hrun
      exact ⟨hissued.around rfl rfl rfl rfl rfl rfl rfl (.of_eq rfl),
        hothers.trans ⟨.of_eq rfl, rfl, rfl, rfl⟩⟩
    · cases hrun
      exact ⟨hissued, hothers⟩

theorem moved_issued (h : Based sc wId s) (hh : History wId s) (htargets : targets ≠ [])
    {p : PlayerPose} {res : ApplyResult}
    (hrun : s.onLocalEntityMoved sc wId targets p = some (res, s')) :
    Issued sc wId targets s s' ∧ OthersKept s s' := by
  have hsame : Issued sc wId targets s s ∧ OthersKept s s := ⟨.nothing rfl rfl rfl, .refl s⟩
  unfold AoiService.onLocalEntityMoved at hrun
  cases hent : (s.entityOf p.id).bind s.replica.findById with
  | none =>
    simp only [hent] at hrun
    cases hrun
    exact hsame
  | some ent =>
    simp only [hent] at hrun
    obtain ⟨id, hid, hlook⟩ := Option.bind_eq_some_iff.mp hent
    obtain ⟨i, hi, rfl⟩ := Option.map_eq_some_iff.mp hid
    have howner : ownerOf i.id = wId := h.identity_owner hi
    have hown : ent.ownerWorker = wId := (h.owned.owner _ _ hlook).trans howner
    split at hrun
    · cases hrun
      exact hsame
    split at hrun
    · cases hrun
      exact hsame
    split at hrun
    · cases hrun
      exact hsame
    exact Issued.of_applyLocal htargets hown (hh.ents _ ent howner hlook).1 (h.avatar hlook hown) hrun

/-- Only the observers' views, and which of them are dirty, have changed. -/
structure ViewOnly (s s' : AoiService) : Prop where
  same : s' = { s with
    viewSet := s'.viewSet, clientQueue := s'.clientQueue, dirtyObservers := s'.dirtyObservers }

theorem ViewOnly.refl (s : AoiService) : ViewOnly s s := ⟨rfl⟩

theorem ViewOnly.trans {t : AoiService} (hst : ViewOnly s t) (htu : ViewOnly t s') :
    ViewOnly s s' :=
  ⟨by rw [htu.same, hst.same]⟩

theorem ViewOnly.issued (h : ViewOnly s s') : Issued sc wId targets s s' ∧ OthersKept s s' := by
  have hsame := h.same
  refine ⟨.nothing ?_ ?_ ?_, .of_eq ?_, ?_, ?_, ?_⟩ <;> rw [hsame]

/-- Every own call issues at most one event. -/
theorem call_issued (h : Based sc wId s) (hh : History wId s) (htargets : targets ≠ []) {op : Op}
    (hop : op.Own) (hrun : s.call sc wId targets op = some s') :
    Issued sc wId targets s s' ∧ OthersKept s s' := by
  cases op with
  | enter p =>
    obtain ⟨⟨res, t⟩, ht, rfl⟩ := Option.map_eq_some_iff.mp hrun
    exact enter_issued h htargets ht
  | reenter p =>
    obtain ⟨⟨res, t⟩, ht, rfl⟩ := Option.map_eq_some_iff.mp hrun
    exact enter_issued h htargets ht
  | leave id =>
    obtain ⟨⟨res, t⟩, ht, rfl⟩ := Option.map_eq_some_iff.mp hrun
    exact leave_issued h hh htargets ht
  | moved p =>
    obtain ⟨⟨res, t⟩, ht, rfl⟩ := Option.map_eq_some_iff.mp hrun
    exact moved_issued h hh htargets ht
  | remote sender ev => exact hop.elim
  | ownerSnapshot sender snap => exact hop.elim
  | online pid epoch =>
    cases Option.some.inj hrun
    exact ViewOnly.issued (by
      unfold AoiService.onPlayerOnline
      split
      · exact .refl s
      split
      · exact .refl s
      split
      · exact .refl s
      · exact ⟨rfl⟩)
  | rebind pid oldEpoch epoch =>
    cases Option.some.inj hrun
    exact ViewOnly.issued (by
      unfold AoiService.onPlayerRebind
      split
      · exact .refl s
      split
      · exact .refl s
      · exact ⟨rfl⟩)
  | offline pid epoch =>
    cases Option.some.inj hrun
    exact ViewOnly.issued (by
      unfold AoiService.onPlayerOffline
      split
      · exact .refl s
      split
      · exact .refl s
      · exact ⟨rfl⟩)
  | resync pid epoch =>
    cases Option.some.inj hrun
    exact ViewOnly.issued (by
      unfold AoiService.onViewResyncReq AoiService.onClientSendFailed
      split
      · exact .refl s
      split
      · exact .refl s
      · exact ⟨rfl⟩)

end Calls

section Effects

variable {ev : AoiEvent} {src : Source} {rep' : AoiReplica} {dirty : Observers}

/-- An applied event is the last one of its entity. -/
theorem latest_of_effect {rep : AoiReplica} {cellIdx : Nat} {dirty' : Observers}
    (heff : Effect sc wId rep rep' ev cellIdx dirty dirty') : (rep'.latest ev.eId).Is ev := by
  have hent : rep'.ents.lookup ev.eId = after ev cellIdx :=
    (heff.updated.ents ev.eId).trans (if_pos rfl)
  unfold AoiReplica.latest
  by_cases hk : ev.msgKind = .leave
  · have htomb : rep'.tombstones.lookup ev.eId = some (initTombstone ev) := by
      rw [heff.tombs, if_pos hk]
      exact Table.lookup_insert_same _ _ _
    rw [hent, after_leave hk, htomb]
    exact ⟨hk, rfl⟩
  · rw [hent, after_stay hk]
    exact ⟨hk, rfl⟩

/-- An applied event touches no entity but its own. -/
theorem effect_other {rep : AoiReplica} {cellIdx : Nat} {dirty' : Observers}
    (heff : Effect sc wId rep rep' ev cellIdx dirty dirty') {id : EntityId} (hid : id ≠ ev.eId) :
    rep'.ents.lookup id = rep.ents.lookup id ∧
      rep'.tombstones.lookup id = rep.tombstones.lookup id := by
  refine ⟨(heff.updated.ents id).trans (if_neg hid), ?_⟩
  rw [heff.tombs]
  split
  · rw [Table.lookup_insert, if_neg hid]
  · rfl

/-- An event of one owner does not concern the entities of another. -/
theorem apply_sameFor (hagree : Agree sc.grid wId s.replica.ents s.replica.cells)
    {res : ApplyResult} {dirty' : Observers} (hid : ownerOf ev.eId ≠ o)
    (hrun : s.replica.apply sc wId ev src dirty = some (res, rep', dirty')) :
    SameFor o s.replica rep' := by
  by_cases hres : res = .applied
  · subst hres
    obtain ⟨cellIdx, _, heff⟩ := apply_applied hagree hrun
    have hne : ∀ id, ownerOf id = o → id ≠ ev.eId := by
      rintro id hown rfl
      exact hid hown
    exact ⟨fun id hown => (effect_other heff (hne id hown)).1,
      fun id hown => (effect_other heff (hne id hown)).2, by rw [heff.water]⟩
  · obtain ⟨rfl, _⟩ := apply_unchanged hrun hres
    exact SameFor.refl o _

/-- The marks of the owner's entities do not run ahead of its numbering. -/
theorem History.mark_le (h : History wId s) {id : EntityId} (hid : ownerOf id = wId) :
    (s.replica.latest id).mark.seq ≤ s.ownerSeq := by
  cases hl : s.replica.latest id with
  | never => exact Nat.zero_le _
  | live e =>
    unfold AoiReplica.latest at hl
    split at hl
    · rename_i he
      cases hl
      exact (h.ents id _ hid he).2
    · cases hl
    · cases hl
  | dead t =>
    unfold AoiReplica.latest at hl
    split at hl
    · cases hl
    · rename_i ht
      cases hl
      exact h.tombs id _ hid ht
    · cases hl

/-- A new event of the owner is later than everything its entity went through. -/
theorem later_than_latest (h : History wId s) (hid : ownerOf ev.eId = wId) {cellIdx : Nat}
    (hacc : Accepted sc wId s.replica ev src cellIdx) (hnumber : ev.ownerSeq = s.ownerSeq + 1) :
    (s.replica.latest ev.eId = .never ∨ (s.replica.latest ev.eId).mark.Before ev.mark) ∧
      ∀ t, s.replica.latest ev.eId = .dead t → t.generation < ev.entityGeneration := by
  have hle := h.mark_le hid
  cases hl : s.replica.latest ev.eId with
  | never => exact ⟨.inl rfl, by simp⟩
  | live e =>
    unfold AoiReplica.latest at hl
    split at hl
    · rename_i he
      cases hl
      have hnewer := hacc.newer _ he
      have hseq := (h.ents _ _ hid he).2
      refine ⟨.inr ⟨?_, ?_⟩, by simp⟩
      · simp only [Latest.mark, AoiEntity.mark, AoiEvent.mark]
        omega
      · simp only [Latest.mark, AoiEntity.mark, AoiEvent.mark]
        omega
    · cases hl
    · cases hl
  | dead t =>
    unfold AoiReplica.latest at hl
    split at hl
    · cases hl
    · rename_i ht
      cases hl
      have holder := hacc.tombOlder _ ht
      have hseq := h.tombs _ _ hid ht
      refine ⟨.inr ⟨?_, .inl holder⟩, fun t' ht' => by cases ht'; exact holder⟩
      simp only [Latest.mark, Tombstone.mark, AoiEvent.mark]
      omega
    · cases hl

/-- What one own call means to the other workers. -/
theorem Issued.spec (h : Issued sc wId targets s s') (hb : Based sc wId s)
    (hb' : Based sc wId s') (hh : History wId s) (hkept : OthersKept s s') :
    Grown wId s s' ∧ History wId s' ∧ (∀ o, o ≠ wId → SameFor o s.replica s'.replica) ∧
      ((s'.pendingPublishes = s.pendingPublishes ∧
          ∀ id, ownerOf id = wId → s'.replica.latest id = s.replica.latest id) ∨
        ∃ ev, s'.pendingPublishes =
            s.pendingPublishes ++ [{ event := ev, remaining := targets }] ∧
          Genuine sc wId s' ev ∧ (s'.replica.latest ev.eId).Is ev ∧
          ∀ id, id ≠ ev.eId → s'.replica.latest id = s.replica.latest id) := by
  cases h with
  | nothing hrep hseq hpub =>
    refine ⟨⟨hkept.ids, Nat.le_of_eq hseq.symm, fun id _ => .inl (by rw [hrep])⟩,
      ⟨by rw [hrep, hseq]; exact hh.ents, by rw [hrep, hseq]; exact hh.tombs⟩,
      fun o _ => by rw [hrep]; exact SameFor.refl o _, .inl ⟨hpub, fun id _ => by rw [hrep]⟩⟩
  | event ev dirty happly hseq hnumber hpub howner hplayer havatar =>
    obtain ⟨i, hi, hie⟩ := havatar
    have hid : ownerOf ev.eId = wId := hie ▸ hb'.identity_owner hi
    obtain ⟨cellIdx, hcheck, heff⟩ := apply_applied hb.owned.agree happly
    have hacc := check_ok hcheck
    have his := latest_of_effect heff
    have hother : ∀ id, id ≠ ev.eId → s'.replica.latest id = s.replica.latest id := by
      intro id hne
      obtain ⟨hent, htomb⟩ := effect_other heff hne
      unfold AoiReplica.latest
      rw [hent, htomb]
    obtain ⟨hlater, hended⟩ := later_than_latest hh hid hacc hnumber
    refine ⟨⟨hkept.ids, by omega, fun id hown => ?_⟩, ⟨fun id e hown he => ?_, fun id t hown ht => ?_⟩,
      fun o ho => apply_sameFor hb.owned.agree (by rw [hid]; exact ho.symm) happly,
      .inr ⟨ev, hpub, ?_, his, hother⟩⟩
    · by_cases hne : id = ev.eId
      · subst hne
        right
        rw [← his.mark_eq]
        refine ⟨?_, hlater, hended⟩
        simp only [AoiEvent.mark]
        omega
      · exact .inl (hother id hne)
    · by_cases hne : id = ev.eId
      · subst hne
        have hent : s'.replica.ents.lookup ev.eId = after ev cellIdx :=
          (heff.updated.ents ev.eId).trans (if_pos rfl)
        rw [hent] at he
        unfold after at he
        split at he
        · cases he
        · cases he
          exact ⟨hplayer, by rw [hseq, ← hnumber]; exact Nat.le_refl _⟩
      · rw [(effect_other heff hne).1] at he
        obtain ⟨hkind, hle⟩ := hh.ents id e hown he
        exact ⟨hkind, by omega⟩
    · by_cases hne : id = ev.eId
      · subst hne
        rw [heff.tombs] at ht
        split at ht
        · rw [Table.lookup_insert_same] at ht
          cases ht
          rw [hseq, ← hnumber]
          exact Nat.le_refl _
        · have hle := hh.tombs _ t hown ht
          omega
      · rw [(effect_other heff hne).2] at ht
        have hle := hh.tombs id t hown ht
        omega
    · exact
        { owner := howner
          id := hid
          id_ne := hacc.eId_ne
          kind := hacc.kind
          player := hplayer
          avatar := ⟨i, hi, hie⟩
          bounds := hacc.bounds
          cell := fun hk => ⟨cellIdx, hacc.cell hk⟩ }

end Effects

section Retry

variable {sink : Sink}

/-- The queue entries and the tasks left over of one retry. -/
theorem retryPublishes_spec (sink : Sink) (s : AoiService) :
    ∃ sent, (s.retryPublishes sink).workerQueue = s.workerQueue ++ sent ∧
      (∀ out ∈ sent, ∃ task ∈ s.pendingPublishes, out.1 ∈ task.remaining ∧ out.2 = task.event) ∧
      (∀ task' ∈ (s.retryPublishes sink).pendingPublishes, ∃ task ∈ s.pendingPublishes,
        task'.event = task.event ∧ ∀ target ∈ task'.remaining, target ∈ task.remaining) ∧
      ∀ task ∈ s.pendingPublishes, ∀ target ∈ task.remaining, (target, task.event) ∈ sent ∨
        ∃ task' ∈ (s.retryPublishes sink).pendingPublishes,
          task'.event = task.event ∧ target ∈ task'.remaining := by
  refine ⟨(s.pendingPublishes.map (AoiService.retryOne sink)).flatMap (·.1), rfl, ?_, ?_, ?_⟩
  · intro out hout
    simp only [List.mem_flatMap, List.mem_map] at hout
    obtain ⟨_, ⟨task, htask, rfl⟩, hout⟩ := hout
    unfold AoiService.retryOne at hout
    split at hout
    · cases hout
    · obtain ⟨target, htarget, rfl⟩ := List.mem_map.mp hout
      exact ⟨task, htask, (List.mem_filter.mp htarget).1, rfl⟩
  · intro task' htask'
    simp only [AoiService.retryPublishes, List.mem_filter, List.mem_map] at htask'
    obtain ⟨⟨_, ⟨task, htask, rfl⟩, rfl⟩, _⟩ := htask'
    refine ⟨task, htask, ?_⟩
    unfold AoiService.retryOne
    split
    · exact ⟨rfl, fun _ h => h⟩
    · exact ⟨rfl, fun target h => (List.mem_filter.mp h).1⟩
  · intro task htask target htarget
    by_cases hvalid : AoiService.validEvent task.event = true
    · have hround : AoiService.retryOne sink task =
          ((task.remaining.filter fun target => sink.publishToWorkers task.event target).map
              fun target => (target, task.event),
            { task with remaining := task.remaining.filter fun target =>
                !sink.publishToWorkers task.event target }) := by
        simp [AoiService.retryOne, hvalid]
      by_cases hacc : sink.publishToWorkers task.event target = true
      · left
        simp only [List.mem_flatMap, List.mem_map]
        refine ⟨_, ⟨task, htask, rfl⟩, ?_⟩
        rw [hround]
        exact List.mem_map.mpr ⟨target, List.mem_filter.mpr ⟨htarget, hacc⟩, rfl⟩
      · right
        have hleft : target ∈ (AoiService.retryOne sink task).2.remaining := by
          rw [hround]
          exact List.mem_filter.mpr ⟨htarget, by simpa using hacc⟩
        refine ⟨(AoiService.retryOne sink task).2, ?_, by rw [hround], hleft⟩
        simp only [AoiService.retryPublishes, List.mem_filter, List.mem_map]
        refine ⟨⟨_, ⟨task, htask, rfl⟩, rfl⟩, ?_⟩
        have hne : (AoiService.retryOne sink task).2.remaining ≠ [] := List.ne_nil_of_mem hleft
        simp [hne]
    · right
      have hround : AoiService.retryOne sink task = ([], task) := by
        simp [AoiService.retryOne, hvalid]
      refine ⟨task, ?_, rfl, htarget⟩
      simp only [AoiService.retryPublishes, List.mem_filter, List.mem_map]
      exact ⟨⟨_, ⟨task, htask, rfl⟩, by rw [hround]⟩, by simp [hvalid]⟩

end Retry

section Flush

/-- The channel while the flush of a worker with service `t` still has these rows to take. -/
def flushChannel (o : WorkerId) (t : AoiService) (rows : List (Σ _ : EntityId, AoiEvent))
    (flies : AoiEvent → Prop) (sent : AoiOwnerSnapshot → Prop) (missed : AoiEvent → Prop) :
    Channel where
  rep := t.replica
  moves := fun id => rows.dlookup id
  need := o ∈ t.ownersNeedingSnapshot
  flies := flies
  sent := sent
  missed := missed

theorem dlookup_tail {row : Σ _ : EntityId, AoiEvent} {rows : List (Σ _ : EntityId, AoiEvent)}
    (hnd : (row :: rows).NodupKeys) (id : EntityId) :
    rows.dlookup id = if id = row.1 then none else (row :: rows).dlookup id := by
  obtain ⟨hrow, _⟩ := List.nodupKeys_cons.mp hnd
  split
  · rename_i hid
    subst hid
    exact List.dlookup_eq_none.mpr hrow
  · rename_i hid
    rw [List.dlookup_cons_ne _ _ hid]

/-- A flush, row by row. -/
theorem Link.flush_rows {t t' : AoiService} {rows : List (Σ _ : EntityId, AoiEvent)}
    {flies : AoiEvent → Prop} {sent : AoiOwnerSnapshot → Prop} {missed : AoiEvent → Prop}
    (hne : o ≠ wId) (hb : Based sc o s) (hbt : Based sc wId t) (hnd : rows.NodupKeys)
    (hrows : ∀ row ∈ rows, row.2.eId = row.1 ∧ ownerOf row.2.eId = row.2.ownerThreadId ∧
      row.2.ownerThreadId ≠ wId)
    (h : Link sc o s (flushChannel o t rows flies sent missed))
    (hrun : rows.foldlM (AoiService.flushOne sc wId) t = some t') :
    Link sc o s (flushChannel o t' [] flies sent fun ev =>
      missed ev ∨ ev ∈ missedMoves sc wId rows t) := by
  induction rows generalizing t missed with
  | nil =>
    cases hrun
    refine h.frame ⟨.refl s, le_rfl, fun _ _ => .inl rfl⟩ (.refl o _) (fun _ _ => rfl) id
      (fun _ hx => hx) (fun _ hx => .inl hx) (fun _ _ => .inl rfl) (fun _ hx => .inl hx) ?_
    exact fun ev _ => or_iff_left List.not_mem_nil
  | cons row rows ih =>
    rw [List.foldlM_cons] at hrun
    obtain ⟨u, hu, hrest⟩ := Option.bind_eq_some_iff.mp hrun
    have hone := hu
    simp only [AoiService.flushOne, Option.bind_eq_bind, Option.bind_eq_some_iff] at hone
    obtain ⟨⟨res, rep, dirty⟩, happly, hone⟩ := hone
    have hmissed : missedMoves sc wId (row :: rows) t =
        (if res = .needSnapshot then [row.2] else []) ++ missedMoves sc wId rows u := by
      simp only [missedMoves, happly, hu]
    cases hone
    obtain ⟨hkey, hev, hother⟩ := hrows row List.mem_cons_self
    have hbu := (hbt.withReplica t.pendingRemoteMoves
      (if res = .needSnapshot then insert row.2.ownerThreadId t.ownersNeedingSnapshot
        else t.ownersNeedingSnapshot) hev hother hbt.moves happly).1
    -- the link after this row
    have hlink : Link sc o s (flushChannel o { t with
        replica := rep
        dirtyObservers := dirty
        ownersNeedingSnapshot :=
          if res = .needSnapshot then insert row.2.ownerThreadId t.ownersNeedingSnapshot
          else t.ownersNeedingSnapshot } rows flies sent
        fun ev => missed ev ∨ (res = .needSnapshot ∧ ev = row.2)) := by
      by_cases hid : ownerOf row.1 = o
      · have hqueued : (flushChannel o t (row :: rows) flies sent missed).moves row.1 =
            some row.2 := List.dlookup_cons_eq _ _ _
        have howner : row.2.ownerThreadId = o := by rw [← hev, hkey, hid]
        refine h.flushed hb hbt.owned hne hid hqueued happly (fun i => dlookup_tail hnd i) ?_
          (fun x => Iff.rfl) (fun _ hx => hx) fun x => Iff.rfl
        rintro (hn | hn)
        · show o ∈ (if res = .needSnapshot then _ else _)
          split
          · exact Finset.mem_insert_of_mem hn
          · exact hn
        · show o ∈ (if res = .needSnapshot then _ else _)
          rw [if_pos hn, ← howner]
          exact Finset.mem_insert_self _ _
      · refine h.frame ⟨.refl s, le_rfl, fun _ _ => .inl rfl⟩ ?_ (fun i hi => ?_) (fun hn => ?_)
          (fun _ hx => hx) (fun _ hx => .inl hx) (fun _ _ => .inl rfl) (fun _ hx => .inl hx)
          fun ev howner => or_iff_left ?_
        · exact apply_sameFor hbt.owned.agree (by rw [hkey]; exact hid) happly
        · refine (dlookup_tail hnd i).trans (if_neg ?_)
          rintro rfl
          exact hid hi
        · show o ∈ (if res = .needSnapshot then _ else _)
          split
          · exact Finset.mem_insert_of_mem hn
          · exact hn
        · rintro ⟨_, rfl⟩
          exact hid ((congrArg ownerOf hkey).symm.trans (hev.trans howner))
    have hfinal := ih hbu (List.nodupKeys_cons.mp hnd).2
      (fun r hr => hrows r (List.mem_cons_of_mem _ hr)) hlink hrest
    refine hfinal.frame ⟨.refl s, le_rfl, fun _ _ => .inl rfl⟩ (.refl o _) (fun _ _ => rfl) id
      (fun _ hx => hx) (fun _ hx => .inl hx) (fun _ _ => .inl rfl) (fun _ hx => .inl hx) ?_
    intro ev _
    have hhead : ev ∈ (if res = .needSnapshot then [row.2] else []) ↔
        res = .needSnapshot ∧ ev = row.2 := by
      split <;> simp_all
    show missed ev ∨ _ ↔ (missed ev ∨ _) ∨ _
    rw [hmissed, List.mem_append, hhead, or_assoc]

/-- A flush leaves the owner's own entities alone. -/
theorem flush_sameFor {t t' : AoiService} {rows : List (Σ _ : EntityId, AoiEvent)}
    (hbt : Based sc wId t)
    (hrows : ∀ row ∈ rows, ownerOf row.2.eId = row.2.ownerThreadId ∧ row.2.ownerThreadId ≠ wId)
    (hrun : rows.foldlM (AoiService.flushOne sc wId) t = some t') :
    SameFor wId t.replica t'.replica ∧ t'.ownerSeq = t.ownerSeq ∧
      t'.pendingPublishes = t.pendingPublishes ∧ t'.workerQueue = t.workerQueue ∧
      t'.pendingRemoteMoves = t.pendingRemoteMoves ∧ t'.identities = t.identities := by
  induction rows generalizing t with
  | nil =>
    cases hrun
    exact ⟨.refl _ _, rfl, rfl, rfl, rfl, rfl⟩
  | cons row rows ih =>
    rw [List.foldlM_cons] at hrun
    obtain ⟨u, hu, hrest⟩ := Option.bind_eq_some_iff.mp hrun
    simp only [AoiService.flushOne, Option.bind_eq_bind, Option.bind_eq_some_iff] at hu
    obtain ⟨⟨res, rep, dirty⟩, happly, hone⟩ := hu
    cases hone
    obtain ⟨hev, hother⟩ := hrows row List.mem_cons_self
    have hbu := (hbt.withReplica t.pendingRemoteMoves
      (if res = .needSnapshot then insert row.2.ownerThreadId t.ownersNeedingSnapshot
        else t.ownersNeedingSnapshot) hev hother hbt.moves happly).1
    obtain ⟨hsame, hseq, hpub, hqueue, hmoves, hids⟩ :=
      ih hbu (fun r hr => hrows r (List.mem_cons_of_mem _ hr)) hrest
    have hrow : SameFor wId t.replica rep :=
      apply_sameFor hbt.owned.agree (by rw [hev]; exact hother) happly
    exact ⟨hrow.trans hsame, hseq, hpub, hqueue, hmoves, hids⟩

end Flush

section Tick

theorem missedMoves_congr {rows : List (Σ _ : EntityId, AoiEvent)} {t u : AoiService}
    (hrep : t.replica = u.replica) (hdirty : t.dirtyObservers = u.dirtyObservers) :
    missedMoves sc wId rows t = missedMoves sc wId rows u := by
  induction rows generalizing t u with
  | nil => rfl
  | cons row rows ih =>
    simp only [missedMoves, AoiService.flushOne, hrep, hdirty]
    cases u.replica.apply sc wId row.2 .kRemote u.dirtyObservers with
    | none => rfl
    | some out =>
      simp only [Option.bind_eq_bind, Option.bind_some]
      exact congrArg _ (ih rfl rfl)

theorem processObservers_viewOnly {sink : Sink} {os : List EntityId}
    (hrun : os.foldlM (AoiService.processOne (ClientView.processAoiClientObserver sc sink)) s =
      some s') : ViewOnly s s' := by
  rw [← Run.exec_eq_foldlM] at hrun
  refine Run.exec_invariant (ViewOnly s) (fun t o u ht hu => ht.trans ?_) (.refl s) hrun
  unfold AoiService.processOne at hu
  split at hu
  case isFalse =>
    cases hu
    exact .refl t
  simp only [Option.bind_eq_bind, Option.bind_eq_some_iff] at hu
  obtain ⟨⟨done, v⟩, hhook, hu⟩ := hu
  have hv : ViewOnly t v := by
    rcases ClientView.process_pass hhook with ⟨_, rfl⟩ | ⟨_, _, hpass⟩
    · exact .refl v
    · exact ⟨(pass_frame hpass).same⟩
  split at hu
  · cases hu
    exact hv.trans ⟨rfl⟩
  · cases hu
    exact hv

/-- The tasks left after a retry, and what the queues have taken, in terms of the tasks before. -/
structure Retried (before after : List PublishTask) (sent : List (WorkerId × AoiEvent)) : Prop where
  sent_from : ∀ out ∈ sent, ∃ task ∈ before, out.1 ∈ task.remaining ∧ out.2 = task.event
  left_from : ∀ task' ∈ after, ∃ task ∈ before,
    task'.event = task.event ∧ ∀ target ∈ task'.remaining, target ∈ task.remaining
  covers : ∀ task ∈ before, ∀ target ∈ task.remaining, (target, task.event) ∈ sent ∨
    ∃ task' ∈ after, task'.event = task.event ∧ target ∈ task'.remaining

/-- A tick that is due: `start` is flushed to `t`, and `sent` is published. -/
structure Ticked (sc : Scene) (wId : WorkerId) (s s' start t : AoiService)
    (sent : List (WorkerId × AoiEvent)) : Prop where
  start_replica : start.replica = s.replica
  start_dirty : start.dirtyObservers = s.dirtyObservers
  start_need : start.ownersNeedingSnapshot = s.ownersNeedingSnapshot
  start_based : Based sc wId start
  flush : s.pendingRemoteMoves.entries.foldlM (AoiService.flushOne sc wId) start = some t
  replica : s'.replica = t.replica
  moves : s'.pendingRemoteMoves = ∅
  need : s'.ownersNeedingSnapshot = t.ownersNeedingSnapshot
  own : SameFor wId s.replica s'.replica
  seq : s'.ownerSeq = s.ownerSeq
  ids : s'.identities = s.identities
  queue : s'.workerQueue = s.workerQueue ++ sent
  retried : Retried s.pendingPublishes s'.pendingPublishes sent

/-- A tick that is due flushes, publishes again, and processes the observers. -/
theorem tick_spec (hb : Based sc wId s) {now : Int} {sink : Sink}
    (hrun : s.work sc wId targets (.tick now sink) = some s') :
    ((now < 0 ∨ now < s.nextTickTime) ∧ s' = s) ∨
      ¬ (now < 0 ∨ now < s.nextTickTime) ∧ ∃ start t sent, Ticked sc wId s s' start t sent := by
  simp only [AoiService.work, AoiService.onTick] at hrun
  split at hrun
  · rename_i hnot
    cases hrun
    exact .inl ⟨hnot, rfl⟩
  rename_i hdue
  simp only [Option.bind_eq_bind, Option.bind_eq_some_iff] at hrun
  obtain ⟨t, hflush, hpasses⟩ := hrun
  have hsame := (processObservers_viewOnly hpasses).same
  generalize (if now > int64Max - sc.cfg.tickMs then int64Max else now + sc.cfg.tickMs) = due
    at hflush
  have hstart : Based sc wId { s with nextTickTime := due, pendingRemoteMoves := ∅ } :=
    { hb with moves := by simp }
  obtain ⟨hown, hseq, hpub, hqueue, hmoves, hids⟩ := flush_sameFor hstart
    (fun row hr => (hb.moves _ _ (Table.lookup_of_mem hr)).2) hflush
  obtain ⟨sent, hsent, hfrom, hleft, hcovers⟩ := retryPublishes_spec sink t
  rw [hpub] at hfrom hleft hcovers
  refine .inr ⟨hdue, { s with nextTickTime := due, pendingRemoteMoves := ∅ }, t, sent, ?_⟩
  exact
    { start_replica := rfl
      start_dirty := rfl
      start_need := rfl
      start_based := hstart
      flush := hflush
      replica := by rw [hsame]; rfl
      moves := by rw [hsame]; exact hmoves
      need := by rw [hsame]; rfl
      own := by rw [hsame]; exact hown
      seq := by rw [hsame]; exact hseq
      ids := by rw [hsame]; exact hids
      queue := by rw [hsame]; exact hsent.trans (by rw [hqueue])
      retried := by rw [hsame]; exact ⟨hfrom, hleft, hcovers⟩ }

theorem Based.processOne (hb : Based sc wId s) {sink : Sink} {o : EntityId}
    (hrun : AoiService.processOne (ClientView.processAoiClientObserver sc sink) s o = some s') :
    Based sc wId s' := by
  unfold AoiService.processOne at hrun
  split at hrun
  case isFalse =>
    cases hrun
    exact hb
  simp only [Option.bind_eq_bind, Option.bind_eq_some_iff] at hrun
  obtain ⟨⟨done, t⟩, hhook, hrun⟩ := hrun
  have ht := hb.process hhook
  split at hrun
  · cases hrun
    exact { ht with }
  · cases hrun
    exact ht

theorem Based.tick (hb : Based sc wId s) {now : Int} {sink : Sink}
    (hrun : s.work sc wId targets (.tick now sink) = some s') : Based sc wId s' := by
  simp only [AoiService.work, AoiService.onTick] at hrun
  split at hrun
  · cases hrun
    exact hb
  simp only [Option.bind_eq_bind, Option.bind_eq_some_iff] at hrun
  obtain ⟨t, hflush, hpasses⟩ := hrun
  rw [AoiService.processObservers, ← Run.exec_eq_foldlM] at hpasses
  exact Run.exec_invariant (Based sc wId) (fun _ _ _ h hst => h.processOne hst)
    ((hb.flush hflush).based.retry sink).based hpasses

end Tick

end Aoi
