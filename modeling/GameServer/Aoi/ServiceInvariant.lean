import GameServer.Aoi.ClientViewSpec

/-!
# What a call of the service changes

The base invariant ties the ids to their owners: an id carries its owner in the
high half, a local entity belongs to the player whose identity it is. Under it
every call is one of five changes as far as the observers are concerned.
-/

namespace Aoi

open AoiReplica

/-- The owner that an id names. -/
def ownerOf (id : EntityId) : WorkerId := id / 4294967296

theorem ownerOf_makeEntityId {wId : WorkerId} {counter : Nat} (h : counter ≤ uint32Max) :
    ownerOf (AoiService.makeEntityId wId counter) = wId := by
  unfold uint32Max at h
  rw [ownerOf, AoiService.makeEntityId, Nat.mul_comm, Nat.mul_add_div (by decide),
    Nat.div_eq_of_lt (by omega), Nat.add_zero]

/-- A remote event or snapshot as owners produce them: about entities of its own. -/
def Op.Produced : Op → Prop
  | .remote _ ev => ownerOf ev.eId = ev.ownerThreadId
  | .ownerSnapshot _ snap => ∀ ent ∈ snap.ents, ownerOf ent.entityId = snap.ownerWorkerId
  | _ => True

instance : DecidablePred Op.Produced := fun op => by
  cases op <;> unfold Op.Produced <;> infer_instance

section Replica

variable {sc : Scene} {wId : WorkerId} {rep rep' : AoiReplica} {dirty dirty' : Observers}

/-- The grid agrees with the table, ids name their owners, and no local square overflows. -/
structure Owned (sc : Scene) (wId : WorkerId) (rep : AoiReplica) : Prop where
  agree : Agree sc.grid wId rep.ents rep.cells
  owner : ∀ id e, rep.ents.lookup id = some e → e.ownerWorker = ownerOf id
  fits : ∀ id e, rep.ents.lookup id = some e → e.ownerWorker = wId → sc.grid.Fits e.cellIdx
  valid : ∀ id e, rep.ents.lookup id = some e → id ≠ 0 ∧ validEntityKind e.kind = true

theorem fits_of_getWatchCellIdx {g : AoiGrid} {x y cell : Nat} {watch : List Nat}
    (hcell : g.tryCellOf x y = some cell) (h : g.getWatchCellIdx x y = some watch) :
    g.Fits cell := by
  by_contra hfit
  rw [AoiGrid.getWatchCellIdx_of_not_fits hcell hfit] at h
  cases h

/-- A local ENTRY or MOVE that ran has computed its square without overflow. -/
theorem processLocal_fits {ev : AoiEvent} {cellIdx : Nat}
    (hacc : Accepted sc wId rep ev .kLocal cellIdx)
    (hold : ∀ e, rep.ents.lookup ev.eId = some e → sc.grid.Fits e.cellIdx)
    (hne : ev.msgKind ≠ .leave)
    (h : processLocalAoiMsg sc.grid rep ev cellIdx dirty = some (rep', dirty')) :
    sc.grid.Fits cellIdx := by
  have hcell := hacc.cell hne
  unfold processLocalAoiMsg at h
  cases hk : ev.msgKind with
  | entry =>
    cases hlook : rep.ents.lookup ev.eId with
    | none =>
      simp only [hk, onLocalEntry, hlook, Option.bind_eq_bind, Option.bind_some,
        Option.bind_eq_some_iff] at h
      obtain ⟨watch, hwatch, _⟩ := h
      exact fits_of_getWatchCellIdx hcell hwatch
    | some ent =>
      simp only [hk, onLocalEntry, hlook, Option.bind_eq_bind, Option.bind_eq_some_iff] at h
      obtain ⟨_, _, _, _, watch, hwatch, _⟩ := h
      exact fits_of_getWatchCellIdx hcell hwatch
  | move =>
    obtain ⟨e, he, _⟩ := hacc.move hk
    simp only [hk, onLocalMove, he] at h
    split at h
    · simp only [Option.bind_eq_bind, Option.bind_eq_some_iff] at h
      obtain ⟨_, _, watch, hwatch, _⟩ := h
      exact fits_of_getWatchCellIdx hcell hwatch
    · rename_i hsame
      rw [not_not.mp hsame]
      exact hold e he
  | leave => exact absurd hk hne
  | invalid => exact absurd hk hacc.kind

/-- `Apply` keeps the replica owned and marks whoever sees a difference. -/
theorem Owned.apply (h : Owned sc wId rep) {ev : AoiEvent} {src : Source} {res : ApplyResult}
    (hev : ownerOf ev.eId = ev.ownerThreadId)
    (hrun : AoiReplica.apply sc wId rep ev src dirty = some (res, rep', dirty')) :
    Owned sc wId rep' ∧ Marks sc.grid wId (rep.next dirty) (rep'.next dirty') := by
  by_cases hres : res = .applied
  · subst hres
    obtain ⟨cellIdx, hcheck, heff⟩ := apply_applied h.agree hrun
    have hacc := check_ok hcheck
    have hnew : ∀ e, after ev cellIdx = some e → e.ownerWorker = ev.ownerThreadId := by
      intro e he
      unfold after at he
      split at he
      · cases he
      · cases he
        rfl
    have hents : ∀ id, rep'.ents.lookup id =
        if id = ev.eId then after ev cellIdx else rep.ents.lookup id := heff.updated.ents
    refine ⟨⟨heff.updated.agree h.agree, ?_, ?_, ?_⟩, heff.updated.marks h.agree⟩
    · intro id e he
      rw [hents] at he
      split at he
      · rename_i hid
        rw [hnew e he, hid, hev]
      · exact h.owner id e he
    · intro id e he hown
      rw [hents] at he
      split at he
      · have hlocal : src = .kLocal := hacc.source.mpr ((hnew e he).symm.trans hown)
        subst hlocal
        have hne : ev.msgKind ≠ .leave := by
          intro hk
          rw [after_leave hk] at he
          cases he
        rw [after_stay hne] at he
        cases he
        simp only [AoiReplica.apply, hcheck] at hrun
        obtain ⟨out, hout, hpair⟩ := Option.map_eq_some_iff.mp hrun
        cases hpair
        refine processLocal_fits hacc (fun e' he' => h.fits _ e' he' ?_) hne hout
        exact (hacc.owner e' he').trans (hacc.source.mp rfl)
      · exact h.fits id e he hown
    · intro id e he
      rw [hents] at he
      split at he
      · rename_i hid
        unfold after at he
        split at he
        · cases he
        · cases he
          exact ⟨hid ▸ hacc.eId_ne, hacc.entityKind⟩
      · exact h.valid id e he
  · obtain ⟨rfl, rfl⟩ := apply_unchanged hrun hres
    exact ⟨h, Marks.refl _⟩

theorem Owned.applyOwnerSnapshot (h : Owned sc wId rep) {snap : AoiOwnerSnapshot}
    {res : ApplyResult} (hsnap : ∀ ent ∈ snap.ents, ownerOf ent.entityId = snap.ownerWorkerId)
    (hrun : AoiReplica.applyOwnerSnapshot sc wId rep snap dirty = (res, rep', dirty')) :
    Owned sc wId rep' ∧ Marks sc.grid wId (rep.next dirty) (rep'.next dirty') := by
  by_cases hres : res = .applied
  · subst hres
    obtain ⟨incoming, heff⟩ := applyOwnerSnapshot_applied h.agree hrun
    have hincoming : ∀ id e, incoming.lookup id = some e →
        e.ownerWorker = snap.ownerWorkerId ∧ ownerOf id = snap.ownerWorkerId := by
      intro id e he
      refine ⟨(collect_row heff.collected he).2.2, ?_⟩
      rw [(collect_ok heff.collected).2 id, Option.map_eq_some_iff] at he
      obtain ⟨ent, hfind, _⟩ := he
      have hid : ent.entityId = id := by simpa using List.find?_some hfind
      rw [← hid]
      exact hsnap ent (List.mem_of_find?_eq_some hfind)
    refine ⟨⟨heff.agree, ?_, ?_, ?_⟩, heff.marks⟩
    · intro id e he
      rcases heff.entry he with he | he
      · exact h.owner id e he
      · obtain ⟨h1, h2⟩ := hincoming id e he
        rw [h1, h2]
    · intro id e he hown
      rcases heff.entry he with he | he
      · exact h.fits id e he hown
      · exact absurd ((hincoming id e he).1.symm.trans hown) heff.owner_ne
    · intro id e he
      rcases heff.entry he with he | he
      · exact h.valid id e he
      · exact collect_valid heff.collected he
  · obtain ⟨rfl, rfl⟩ := applyOwnerSnapshot_unchanged hrun hres
    exact ⟨h, Marks.refl _⟩

end Replica

section Service

variable {sc : Scene} {wId : WorkerId} {targets : List WorkerId} {s s' : AoiService}

/-- The base invariant of the service. -/
structure Based (sc : Scene) (wId : WorkerId) (s : AoiService) : Prop where
  owned : Owned sc wId s.replica
  counter : s.nextEntityCounter ≤ uint32Max
  identity : ∀ pid i, s.identities.lookup pid = some i →
    ∃ c, c < s.nextEntityCounter ∧ i.id = AoiService.makeEntityId wId c
  injective : ∀ p q i j, s.identities.lookup p = some i → s.identities.lookup q = some j →
    i.id = j.id → p = q
  business : ∀ id e, s.replica.ents.lookup id = some e → e.ownerWorker = wId →
    ∃ i, s.identities.lookup e.businessId = some i ∧ i.id = id
  moves : ∀ id ev, s.pendingRemoteMoves.lookup id = some ev →
    ev.eId = id ∧ ownerOf ev.eId = ev.ownerThreadId ∧ ev.ownerThreadId ≠ wId
  observers : ∀ o v, s.viewSet.views.lookup o = some v →
    ∃ pid i, s.identities.lookup pid = some i ∧ i.id = o

theorem Based.identity_owner (h : Based sc wId s) {pid : Nat} {i : LocalIdentity}
    (hi : s.identities.lookup pid = some i) : ownerOf i.id = wId := by
  obtain ⟨c, hc, hid⟩ := h.identity pid i hi
  rw [hid]
  exact ownerOf_makeEntityId (Nat.le_of_lt (Nat.lt_of_lt_of_le hc h.counter))

theorem Based.observer_owner (h : Based sc wId s) {o : EntityId} {v : ObserverSnapshot}
    (hv : s.viewSet.views.lookup o = some v) : ownerOf o = wId := by
  obtain ⟨pid, i, hi, rfl⟩ := h.observers o v hv
  exact h.identity_owner hi

theorem based_init : Based sc wId {} where
  owned := ⟨agree_empty, by simp, by simp, by simp⟩
  counter := by decide
  identity := by simp
  injective := by simp
  business := by simp
  moves := by simp
  observers := by simp

/-- The entity behind a registered observer, while it is active, is a local one. -/
theorem Based.observer_local (h : Based sc wId s) {o : EntityId} {v : ObserverSnapshot}
    (hv : s.viewSet.views.lookup o = some v) {ob : AoiEntity}
    (hob : s.replica.ents.lookup o = some ob) : ob.ownerWorker = wId :=
  (h.owned.owner o ob hob).trans (h.observer_owner hv)

/-- The view that a call opens: the player, its observer and the new epoch. -/
def opens (s : AoiService) : Op → Option (Nat × EntityId × Nat)
  | .online pid epoch =>
    match s.entityOf pid with
    | none => none
    | some id =>
      if s.isEntityActive id ∧ !(s.viewSet.views.lookup id).any (·.clientViewEpoch ≥ epoch) then
        some (pid, id, epoch)
      else none
  | .rebind pid oldEpoch epoch =>
    match s.entityOf pid with
    | none => none
    | some id =>
      if (s.viewSet.views.lookup id).any (fun v => v.clientViewEpoch = oldEpoch ∧ oldEpoch < epoch) then
        some (pid, id, epoch)
      else none
  | _ => none

/-- Players keep the ids they were given. -/
def IdsKept (s s' : AoiService) : Prop :=
  ∀ pid i, s.identities.lookup pid = some i →
    ∃ i', s'.identities.lookup pid = some i' ∧ i'.id = i.id

theorem IdsKept.refl (s : AoiService) : IdsKept s s := fun _ i hi => ⟨i, hi, rfl⟩

theorem IdsKept.trans {t : AoiService} (hst : IdsKept s t) (htu : IdsKept t s') : IdsKept s s' := by
  intro pid i hi
  obtain ⟨j, hj, hid⟩ := hst pid i hi
  obtain ⟨k, hk, hid'⟩ := htu pid j hj
  exact ⟨k, hk, hid'.trans hid⟩

theorem IdsKept.of_eq (h : s'.identities = s.identities) : IdsKept s s' :=
  fun _ i hi => ⟨i, by rw [h]; exact hi, rfl⟩

/-- What a call can do to the observers, `opening` being the view that it may open. -/
inductive ViewChange (sc : Scene) (wId : WorkerId) (opening : Option (Nat × EntityId × Nat))
    (s s' : AoiService) : Prop where
  | replica (hviews : s'.viewSet = s.viewSet) (hqueue : s'.clientQueue = s.clientQueue)
      (hmarks : Marks sc.grid wId (s.replica.next s.dirtyObservers)
        (s'.replica.next s'.dirtyObservers))
  | left (o : EntityId) (hviews : ∀ o', s'.viewSet.views.lookup o' =
        if o' = o then none else s.viewSet.views.lookup o')
      (hnext : s'.viewSet.nextSnapshotId = s.viewSet.nextSnapshotId)
      (hqueue : s'.clientQueue = s.clientQueue)
      (hmarks : Marks sc.grid wId (s.replica.next s.dirtyObservers)
        (s'.replica.next (insert o s'.dirtyObservers)))
  | opened (pid : Nat) (o : EntityId) (epoch : Nat) (hopen : opening = some (pid, o, epoch))
      (hviews : ∀ o', s'.viewSet.views.lookup o' =
        if o' = o then some { clientViewEpoch := epoch, needResync := true }
        else s.viewSet.views.lookup o')
      (hnext : s'.viewSet.nextSnapshotId = s.viewSet.nextSnapshotId)
      (hqueue : s'.clientQueue = s.clientQueue) (hreplica : s'.replica = s.replica)
      (hdirty : s'.dirtyObservers = insert o s.dirtyObservers)
  | resynced (o : EntityId) (v : ObserverSnapshot) (hv : s.viewSet.views.lookup o = some v)
      (hviews : ∀ o', s'.viewSet.views.lookup o' =
        if o' = o then
          some { v with needResync := true, resyncRevision := v.resyncRevision + 1 }
        else s.viewSet.views.lookup o')
      (hnext : s'.viewSet.nextSnapshotId = s.viewSet.nextSnapshotId)
      (hqueue : s'.clientQueue = s.clientQueue) (hreplica : s'.replica = s.replica)
      (hdirty : s'.dirtyObservers = insert o s.dirtyObservers)

theorem ViewChange.refl {opening : Option (Nat × EntityId × Nat)} (s : AoiService) :
    ViewChange sc wId opening s s :=
  .replica rfl rfl (Marks.refl _)

/-- The outcome of a call: the base invariant still holds, and what changed is known. -/
structure Stepped (sc : Scene) (wId : WorkerId) (opening : Option (Nat × EntityId × Nat))
    (s s' : AoiService) : Prop where
  based : Based sc wId s'
  change : ViewChange sc wId opening s s'
  ids : IdsKept s s'

theorem Stepped.refl {opening : Option (Nat × EntityId × Nat)} (h : Based sc wId s) :
    Stepped sc wId opening s s := ⟨h, .refl s, .refl s⟩

theorem applyLocal_spec {event : AoiEvent} {res : ApplyResult}
    (hrun : s.applyLocal sc wId targets event = some (res, s')) :
    (res ≠ .applied ∧ s' = s) ∨
      res = .applied ∧ ∃ rep dirty,
        s.replica.apply sc wId { event with ownerSeq := s.ownerSeq + 1 } .kLocal
          s.dirtyObservers = some (.applied, rep, dirty) ∧
        s' = { s with
          replica := rep
          dirtyObservers := dirty
          ownerSeq := s.ownerSeq + 1
          pendingPublishes :=
            if targets = [] then s.pendingPublishes
            else s.pendingPublishes ++
              [{ event := { event with ownerSeq := s.ownerSeq + 1 }, remaining := targets }] } := by
  unfold AoiService.applyLocal at hrun
  split at hrun
  · cases hrun
    exact .inl ⟨by simp, rfl⟩
  simp only [Option.bind_eq_bind, Option.bind_eq_some_iff] at hrun
  obtain ⟨⟨result, rep, dirty⟩, happly, hrun⟩ := hrun
  by_cases hres : result = .applied
  · subst hres
    simp only [ne_eq, not_true_eq_false, if_false, Option.some.injEq, Prod.mk.injEq] at hrun
    obtain ⟨rfl, rfl⟩ := hrun
    exact .inr ⟨rfl, rep, dirty, happly, rfl⟩
  · simp only [ne_eq, hres, not_false_eq_true, if_true, Option.some.injEq, Prod.mk.injEq] at hrun
    obtain ⟨rfl, rfl⟩ := hrun
    obtain ⟨rfl, rfl⟩ := apply_unchanged happly hres
    exact .inl ⟨hres, rfl⟩

/-- Every entry of the table after `Apply` is an old one or that of the event. -/
theorem apply_entry {rep rep' : AoiReplica} {ev : AoiEvent} {src : Source} {res : ApplyResult}
    {dirty dirty' : Observers} (h : Agree sc.grid wId rep.ents rep.cells)
    (hrun : AoiReplica.apply sc wId rep ev src dirty = some (res, rep', dirty'))
    {id : EntityId} {e : AoiEntity} (he : rep'.ents.lookup id = some e) :
    rep.ents.lookup id = some e ∨
      id = ev.eId ∧ e.businessId = ev.businessId ∧ e.ownerWorker = ev.ownerThreadId := by
  by_cases hres : res = .applied
  · subst hres
    obtain ⟨cellIdx, _, heff⟩ := apply_applied h hrun
    have hents : ∀ id, rep'.ents.lookup id =
        if id = ev.eId then after ev cellIdx else rep.ents.lookup id := heff.updated.ents
    rw [hents] at he
    split at he
    · rename_i hid
      unfold after at he
      split at he
      · cases he
      · cases he
        exact .inr ⟨hid, rfl, rfl⟩
    · exact .inl he
  · obtain ⟨rfl, rfl⟩ := apply_unchanged hrun hres
    exact .inl he

theorem Based.applyLocal (h : Based sc wId s) {event : AoiEvent} {res : ApplyResult}
    (howner : event.ownerThreadId = wId)
    (hid : ∃ i, s.identities.lookup event.businessId = some i ∧ i.id = event.eId)
    (hrun : s.applyLocal sc wId targets event = some (res, s')) :
    Based sc wId s' ∧ s'.viewSet = s.viewSet ∧ s'.clientQueue = s.clientQueue ∧
      s'.identities = s.identities ∧
      Marks sc.grid wId (s.replica.next s.dirtyObservers) (s'.replica.next s'.dirtyObservers) := by
  rcases applyLocal_spec hrun with ⟨_, rfl⟩ | ⟨_, rep, dirty, happly, rfl⟩
  · exact ⟨h, rfl, rfl, rfl, Marks.refl _⟩
  · obtain ⟨i, hi, hie⟩ := hid
    have hev : ownerOf { event with ownerSeq := s.ownerSeq + 1 }.eId =
        { event with ownerSeq := s.ownerSeq + 1 }.ownerThreadId := by
      rw [howner, ← hie]
      exact h.identity_owner hi
    obtain ⟨howned, hmarks⟩ := h.owned.apply hev happly
    refine ⟨?_, rfl, rfl, rfl, hmarks⟩
    exact
      { owned := howned
        counter := h.counter
        identity := h.identity
        injective := h.injective
        business := fun id e he hown => by
          rcases apply_entry h.owned.agree happly he with he | ⟨rfl, hb, _⟩
          · exact h.business id e he hown
          · rw [hb]
            exact ⟨i, hi, hie⟩
        moves := h.moves
        observers := h.observers }

theorem Based.identify (h : Based sc wId s) {pid : Nat} {i : LocalIdentity}
    (hrun : s.identify wId pid = some (i, s')) :
    Based sc wId s' ∧ s'.viewSet = s.viewSet ∧ s'.clientQueue = s.clientQueue ∧
      s'.replica = s.replica ∧ s'.dirtyObservers = s.dirtyObservers ∧
      s'.identities.lookup pid = some i ∧ IdsKept s s' := by
  unfold AoiService.identify at hrun
  split at hrun
  · rename_i hi
    cases hrun
    exact ⟨h, rfl, rfl, rfl, rfl, hi, .refl s⟩
  rename_i hnone
  split at hrun
  · cases hrun
  rename_i hmax
  cases hrun
  have hlt : s.nextEntityCounter < uint32Max := Nat.lt_of_le_of_ne h.counter hmax
  have hfresh : ∀ q j, s.identities.lookup q = some j →
      j.id ≠ AoiService.makeEntityId wId s.nextEntityCounter := by
    intro q j hj heq
    obtain ⟨c, hc, hid⟩ := h.identity q j hj
    rw [hid] at heq
    exact absurd (Nat.add_left_cancel heq) (Nat.ne_of_lt hc)
  have hkept : IdsKept s
      { s with
        identities := s.identities.insert pid
          ({ id := AoiService.makeEntityId wId s.nextEntityCounter })
        nextEntityCounter := s.nextEntityCounter + 1 } := by
    intro q j hj
    refine ⟨j, ?_, rfl⟩
    rw [Table.lookup_insert, if_neg]
    · exact hj
    · rintro rfl
      cases hnone.symm.trans hj
  refine ⟨?_, rfl, rfl, rfl, rfl, Table.lookup_insert_same _ _ _, hkept⟩
  exact
    { owned := h.owned
      counter := hlt
      identity := fun q j hj => by
        rw [Table.lookup_insert] at hj
        split at hj
        · cases hj
          exact ⟨s.nextEntityCounter, Nat.lt_succ_self _, rfl⟩
        · obtain ⟨c, hc, hid⟩ := h.identity q j hj
          exact ⟨c, Nat.lt_succ_of_lt hc, hid⟩
      injective := fun p q i j hi hj heq => by
        rw [Table.lookup_insert] at hi hj
        split at hi <;> split at hj
        · rename_i hp hq
          rw [hp, hq]
        · cases hi
          exact absurd heq.symm (hfresh q j hj)
        · cases hj
          exact absurd heq (hfresh p i hi)
        · exact h.injective p q i j hi hj heq
      business := fun id e he hown => by
        obtain ⟨j, hj, hid⟩ := h.business id e he hown
        obtain ⟨j', hj', hid'⟩ := hkept _ j hj
        exact ⟨j', hj', hid'.trans hid⟩
      moves := h.moves
      observers := fun o v hv => by
        obtain ⟨q, j, hj, hid⟩ := h.observers o v hv
        obtain ⟨j', hj', hid'⟩ := hkept q j hj
        exact ⟨q, j', hj', hid'.trans hid⟩ }

theorem Based.enter (h : Based sc wId s) {p : PlayerPose} {reenter : Bool} {res : ApplyResult}
    (hrun : s.enter sc wId targets p reenter = some (res, s')) :
    Stepped sc wId none s s' := by
  unfold AoiService.enter at hrun
  split at hrun
  · cases hrun
    exact .refl h
  split at hrun
  · cases hrun
    exact .refl h
  cases hident : s.identify wId p.id with
  | none =>
    simp only [hident] at hrun
    cases hrun
    exact .refl h
  | some out =>
    obtain ⟨i, t⟩ := out
    obtain ⟨ht, hviews, hqueue, hreplica, hdirty, hi, hkeep⟩ := h.identify hident
    have hchange : ViewChange sc wId none s t :=
      .replica hviews hqueue (by rw [hreplica, hdirty]; exact Marks.refl _)
    simp only [hident] at hrun
    split at hrun
    · cases hrun
      exact ⟨ht, hchange, hkeep⟩
    split at hrun
    · cases hrun
      exact ⟨ht, hchange, hkeep⟩
    simp only [Option.bind_eq_bind, Option.bind_eq_some_iff] at hrun
    obtain ⟨⟨result, u⟩, happly, hrun⟩ := hrun
    obtain ⟨hu, hv, hq, hids, hmarks⟩ := ht.applyLocal rfl ⟨i, hi, rfl⟩ happly
    rw [hreplica, hdirty] at hmarks
    split at hrun
    · cases hrun
      -- only the generation of the identity changed
      have hlook : ∀ q j, (u.identities.insert p.id
          { i with generation := i.generation + 1 }).lookup q = some j →
          ∃ j', u.identities.lookup q = some j' ∧ j'.id = j.id := by
        intro q j hj
        rw [Table.lookup_insert] at hj
        split at hj
        · rename_i hq
          cases hj
          exact ⟨i, by rw [hids, hq]; exact hi, rfl⟩
        · exact ⟨j, hj, rfl⟩
      have hkept : IdsKept u
          { u with
            identities := u.identities.insert p.id ({ i with generation := i.generation + 1 }) } := by
        intro q j hj
        by_cases hq : q = p.id
        · refine ⟨_, by rw [hq]; exact Table.lookup_insert_same _ _ _, ?_⟩
          rw [hids, hq, hi] at hj
          cases hj
          rfl
        · exact ⟨j, by rw [Table.lookup_insert, if_neg hq]; exact hj, rfl⟩
      refine ⟨?_, .replica (hv.trans hviews) (hq.trans hqueue) hmarks,
        hkeep.trans ((IdsKept.of_eq hids).trans hkept)⟩
      exact
        { owned := hu.owned
          counter := hu.counter
          identity := fun q j hj => by
            obtain ⟨j', hj', hid⟩ := hlook q j hj
            rw [← hid]
            exact hu.identity q j' hj'
          injective := fun p' q i' j hi' hj heq => by
            obtain ⟨i1, hi1, hid1⟩ := hlook p' i' hi'
            obtain ⟨j1, hj1, hid2⟩ := hlook q j hj
            exact hu.injective p' q i1 j1 hi1 hj1 (by rw [hid1, hid2, heq])
          business := fun id e he hown => by
            obtain ⟨j, hj, hid⟩ := hu.business id e he hown
            by_cases hb : e.businessId = p.id
            · refine ⟨_, by rw [hb]; exact Table.lookup_insert_same _ _ _, ?_⟩
              rw [hb, hids, hi] at hj
              cases hj
              exact hid
            · exact ⟨j, by rw [Table.lookup_insert, if_neg hb]; exact hj, hid⟩
          moves := hu.moves
          observers := fun o v hv => by
            obtain ⟨q, j, hj, hid⟩ := hu.observers o v hv
            obtain ⟨j', hj', hid'⟩ := hkept q j hj
            exact ⟨q, j', hj', hid'.trans hid⟩ }
    · cases hrun
      exact ⟨hu, .replica (hv.trans hviews) (hq.trans hqueue) hmarks,
        hkeep.trans (.of_eq hids)⟩

/-- The base invariant with another view set, provided its observers are local. -/
theorem Based.withViews (h : Based sc wId s) {vs : AoiViewSet} {dirty : Observers}
    (hobs : ∀ o v, vs.views.lookup o = some v →
      ∃ pid i, s.identities.lookup pid = some i ∧ i.id = o) :
    Based sc wId { s with viewSet := vs, dirtyObservers := dirty } :=
  { h with observers := hobs }

theorem Based.leave (h : Based sc wId s) {id : EntityId} {res : ApplyResult}
    (hrun : s.onEntityLeave sc wId targets id = some (res, s')) :
    Stepped sc wId none s s' := by
  unfold AoiService.onEntityLeave at hrun
  cases hent : s.replica.findById id with
  | none =>
    simp only [hent] at hrun
    cases hrun
    exact .refl h
  | some ent =>
    simp only [hent] at hrun
    split at hrun
    · cases hrun
      exact .refl h
    rename_i hown
    split at hrun
    · cases hrun
      exact .refl h
    simp only [Option.bind_eq_bind, Option.bind_eq_some_iff] at hrun
    obtain ⟨⟨result, u⟩, happly, hrun⟩ := hrun
    have hkey : ent.entityId = id := h.owned.agree.key id ent hent
    have hlocal : ent.ownerWorker = wId := not_not.mp hown
    obtain ⟨i, hi, hid⟩ := h.business id ent hent hlocal
    obtain ⟨hu, hv, hq, hids, hmarks⟩ :=
      h.applyLocal hlocal ⟨i, hi, hid.trans hkey.symm⟩ happly
    split at hrun
    · cases hrun
      have hsub : u.dirtyObservers ⊆ insert id (u.dirtyObservers.erase id) := by
        intro o ho
        by_cases heq : o = id <;> simp [heq, ho]
      cases hobs : u.viewSet.findObserver id with
      | none =>
        refine ⟨hu.withViews hu.observers,
          .left id (fun o' => ?_) (by rw [hv]) hq (hmarks.weaken hsub), .of_eq hids⟩
        simp only [hv]
        split
        · rename_i heq
          rw [heq, ← hv]
          exact hobs
        · rfl
      | some v =>
        have hself := AoiViewSet.removeObserver_self hobs
        simp only [hself]
        refine ⟨hu.withViews fun o w hw => ?_, .left id (fun o' => ?_) (by simp only [hv]) hq
          (hmarks.weaken hsub), .of_eq hids⟩
        · rw [Table.lookup_erase] at hw
          split at hw
          · cases hw
          · exact hu.observers o w hw
        · rw [← hv]
          exact Table.lookup_erase _ _ _
    · cases hrun
      exact ⟨hu, .replica hv hq hmarks, .of_eq hids⟩

theorem Based.moved (h : Based sc wId s) {p : PlayerPose} {res : ApplyResult}
    (hrun : s.onLocalEntityMoved sc wId targets p = some (res, s')) :
    Stepped sc wId none s s' := by
  unfold AoiService.onLocalEntityMoved at hrun
  cases hent : (s.entityOf p.id).bind s.replica.findById with
  | none =>
    simp only [hent] at hrun
    cases hrun
    exact .refl h
  | some ent =>
    simp only [hent] at hrun
    obtain ⟨id, hid, hlook⟩ := Option.bind_eq_some_iff.mp hent
    obtain ⟨i, hi, rfl⟩ := Option.map_eq_some_iff.mp hid
    have hlocal : ent.ownerWorker = wId :=
      (h.owned.owner _ _ hlook).trans (h.identity_owner hi)
    obtain ⟨j, hj, hjid⟩ := h.business _ ent hlook hlocal
    have hkey : ent.entityId = i.id := h.owned.agree.key _ ent hlook
    split at hrun
    · cases hrun
      exact .refl h
    split at hrun
    · cases hrun
      exact .refl h
    split at hrun
    · cases hrun
      exact .refl h
    obtain ⟨hu, hv, hq, hids, hmarks⟩ := h.applyLocal hlocal ⟨j, hj, hjid.trans hkey.symm⟩ hrun
    exact ⟨hu, .replica hv hq hmarks, .of_eq hids⟩

/-- The replica, the dirty set and the queue of moves change; the observers do not. -/
theorem Based.withReplica (h : Based sc wId s) {ev : AoiEvent} {res : ApplyResult}
    {rep : AoiReplica} {dirty : Observers} (moves : Table EntityId AoiEvent)
    (owners : Finset WorkerId) (hev : ownerOf ev.eId = ev.ownerThreadId)
    (hne : ev.ownerThreadId ≠ wId)
    (hmoves : ∀ id ev, moves.lookup id = some ev →
      ev.eId = id ∧ ownerOf ev.eId = ev.ownerThreadId ∧ ev.ownerThreadId ≠ wId)
    (hrun : s.replica.apply sc wId ev .kRemote s.dirtyObservers = some (res, rep, dirty)) :
    Based sc wId { s with
        replica := rep
        dirtyObservers := dirty
        pendingRemoteMoves := moves
        ownersNeedingSnapshot := owners } ∧
      Marks sc.grid wId (s.replica.next s.dirtyObservers) (rep.next dirty) := by
  obtain ⟨howned, hmarks⟩ := h.owned.apply hev hrun
  refine ⟨?_, hmarks⟩
  exact
    { h with
      owned := howned
      moves := hmoves
      business := fun id e he hown => by
        rcases apply_entry h.owned.agree hrun he with he | ⟨_, _, how⟩
        · exact h.business id e he hown
        · exact absurd (how.symm.trans hown) hne }

theorem Based.remote (h : Based sc wId s) {sender : WorkerId} {ev : AoiEvent}
    {res : RemoteResult} (hev : ownerOf ev.eId = ev.ownerThreadId)
    (hrun : s.onRemoteEntityEvent sc wId sender ev = some (res, s')) :
    Stepped sc wId none s s' := by
  unfold AoiService.onRemoteEntityEvent at hrun
  split at hrun
  · cases hrun
    exact .refl h
  rename_i hsender
  push Not at hsender
  have hne : ev.ownerThreadId ≠ wId := hsender.2 ▸ hsender.1
  split at hrun
  · -- a MOVE is only queued
    have hqueued : Based sc wId
        { s with pendingRemoteMoves := s.pendingRemoteMoves.insert ev.eId ev } :=
      { h with
        moves := fun id ev' hev' => by
          rw [Table.lookup_insert] at hev'
          split at hev'
          · rename_i hid
            cases hev'
            exact ⟨hid.symm, hev, hne⟩
          · exact h.moves id ev' hev' }
    unfold AoiService.queueRemoteMove at hrun
    split at hrun
    · cases hrun
      exact .refl h
    split at hrun
    · cases hrun
      exact ⟨hqueued, .replica rfl rfl (Marks.refl _), .refl s⟩
    split at hrun
    · cases hrun
      exact .refl h
    split at hrun
    · cases hrun
      exact .refl h
    · cases hrun
      exact ⟨hqueued, .replica rfl rfl (Marks.refl _), .refl s⟩
  · simp only [Option.bind_eq_bind, Option.bind_eq_some_iff] at hrun
    obtain ⟨⟨result, rep, dirty⟩, happly, hrun⟩ := hrun
    split at hrun
    · cases hrun
      have hmoves : ∀ id move,
          (if (s.pendingRemoteMoves.lookup ev.eId).any (AoiService.supersedes sender ev) then
            s.pendingRemoteMoves.erase ev.eId else s.pendingRemoteMoves).lookup id = some move →
          move.eId = id ∧ ownerOf move.eId = move.ownerThreadId ∧ move.ownerThreadId ≠ wId := by
        intro id move hmove
        split at hmove
        · rw [Table.lookup_erase] at hmove
          split at hmove
          · cases hmove
          · exact h.moves id move hmove
        · exact h.moves id move hmove
      obtain ⟨hb, hmarks⟩ := h.withReplica _ s.ownersNeedingSnapshot hev hne hmoves happly
      exact ⟨hb, .replica rfl rfl hmarks, .refl s⟩
    · cases hrun
      obtain ⟨hb, hmarks⟩ := h.withReplica _ s.ownersNeedingSnapshot hev hne h.moves happly
      exact ⟨hb, .replica rfl rfl hmarks, .refl s⟩

theorem Based.ownerSnapshot (h : Based sc wId s) {sender : WorkerId} {snap : AoiOwnerSnapshot}
    {res : ApplyResult} (hsnap : ∀ ent ∈ snap.ents, ownerOf ent.entityId = snap.ownerWorkerId)
    (hrun : s.applyOwnerSnapshot sc wId sender snap = (res, s')) :
    Stepped sc wId none s s' := by
  unfold AoiService.applyOwnerSnapshot at hrun
  split at hrun
  · cases hrun
    exact .refl h
  cases happly : s.replica.applyOwnerSnapshot sc wId snap s.dirtyObservers with
  | mk result out =>
    obtain ⟨rep, dirty⟩ := out
    obtain ⟨howned, hmarks⟩ := h.owned.applyOwnerSnapshot hsnap happly
    have hbusiness : ∀ id e, rep.ents.lookup id = some e → e.ownerWorker = wId →
        ∃ i, s.identities.lookup e.businessId = some i ∧ i.id = id := by
      intro id e he hown
      by_cases hres : result = .applied
      · subst hres
        obtain ⟨incoming, heff⟩ := applyOwnerSnapshot_applied h.owned.agree happly
        refine h.business id e ?_ hown
        rcases heff.entry he with he | he
        · exact he
        · exact absurd ((collect_row heff.collected he).2.2.symm.trans hown) heff.owner_ne
      · obtain ⟨rfl, rfl⟩ := applyOwnerSnapshot_unchanged happly hres
        exact h.business id e he hown
    simp only [happly] at hrun
    split at hrun
    · cases hrun
      refine ⟨?_, .replica rfl rfl hmarks, .refl s⟩
      exact
        { h with
          owned := howned
          business := hbusiness
          moves := fun id move hmove => by
            rw [Table.lookup_keep, Option.filter_eq_some_iff] at hmove
            exact h.moves id move hmove.1 }
    · cases hrun
      exact ⟨{ h with owned := howned, business := hbusiness }, .replica rfl rfl hmarks,
        .refl s⟩

/-- An observer of this worker gets a new, empty view. -/
theorem Based.opened (h : Based sc wId s) (pid : Nat) {o : EntityId} {epoch : Nat}
    (ho : ∃ pid i, s.identities.lookup pid = some i ∧ i.id = o) {opening : Option (Nat × EntityId × Nat)}
    (hopen : opening = some (pid, o, epoch)) :
    let vs : AoiViewSet := { s.viewSet with
      views := s.viewSet.views.insert o { clientViewEpoch := epoch, needResync := true }
      snapshotTasks := s.viewSet.snapshotTasks.erase o }
    Stepped sc wId opening s
      { s with viewSet := vs, dirtyObservers := insert o s.dirtyObservers } := by
  refine ⟨h.withViews fun o' v hv => ?_,
    .opened pid o epoch hopen (fun o' => Table.lookup_insert _ _ _ _) rfl rfl rfl rfl, .refl s⟩
  rw [Table.lookup_insert] at hv
  split at hv
  · rename_i heq
    rw [heq]
    exact ho
  · exact h.observers o' v hv

theorem Based.online (h : Based sc wId s) {pid epoch : Nat} {res : Bool}
    (hrun : s.onPlayerOnline pid epoch = (res, s')) :
    Stepped sc wId (opens s (.online pid epoch)) s s' := by
  unfold AoiService.onPlayerOnline at hrun
  cases hid : s.entityOf pid with
  | none =>
    simp only [hid] at hrun
    cases hrun
    exact .refl h
  | some id =>
    obtain ⟨i, hi, rfl⟩ := Option.map_eq_some_iff.mp hid
    simp only [hid] at hrun
    split at hrun
    · cases hrun
      exact .refl h
    rename_i hactive
    cases hreg : s.viewSet.registryObserver i.id epoch with
    | mk ok vs =>
      cases ok with
      | false =>
        simp only [hreg] at hrun
        cases hrun
        exact .refl h
      | true =>
        simp only [hreg] at hrun
        cases hrun
        obtain ⟨hold, rfl⟩ := AoiViewSet.registryObserver_true hreg
        refine h.opened pid ⟨pid, i, hi, rfl⟩ ?_
        have hnone : (s.viewSet.views.lookup i.id).any (·.clientViewEpoch ≥ epoch) = false := by
          rw [Bool.eq_false_iff]
          intro hany
          obtain ⟨v, hv, hle⟩ := (Option.any_eq_true _ _).mp hany
          exact absurd (hold v hv) (by simpa using hle)
        simp only [opens, hid, hnone]
        rw [if_pos ⟨by simpa using hactive, rfl⟩]

theorem Based.rebind (h : Based sc wId s) {pid oldEpoch newEpoch : Nat} {res : Bool}
    (hrun : s.onPlayerRebind pid oldEpoch newEpoch = (res, s')) :
    Stepped sc wId (opens s (.rebind pid oldEpoch newEpoch)) s s' := by
  unfold AoiService.onPlayerRebind at hrun
  cases hid : s.entityOf pid with
  | none =>
    simp only [hid] at hrun
    cases hrun
    exact .refl h
  | some id =>
    obtain ⟨i, hi, rfl⟩ := Option.map_eq_some_iff.mp hid
    simp only [hid] at hrun
    cases hreset : s.viewSet.resetObserver i.id oldEpoch newEpoch with
    | mk ok vs =>
      cases ok with
      | false =>
        simp only [hreset] at hrun
        cases hrun
        exact .refl h
      | true =>
        simp only [hreset] at hrun
        cases hrun
        obtain ⟨⟨v, hv, hve, hlt⟩, rfl⟩ := AoiViewSet.resetObserver_true hreset
        refine h.opened pid ⟨pid, i, hi, rfl⟩ ?_
        simp only [opens, hid, hv, Option.any_some]
        rw [if_pos (by simpa using ⟨hve, hlt⟩)]

theorem Based.offline (h : Based sc wId s) {pid epoch : Nat} {res : Bool}
    (hrun : s.onPlayerOffline pid epoch = (res, s')) :
    Stepped sc wId none s s' := by
  unfold AoiService.onPlayerOffline at hrun
  cases hid : s.entityOf pid with
  | none =>
    simp only [hid] at hrun
    cases hrun
    exact .refl h
  | some id =>
    simp only [hid] at hrun
    cases hrem : s.viewSet.removeObserver id epoch with
    | mk ok vs =>
      cases ok with
      | false =>
        simp only [hrem] at hrun
        cases hrun
        exact .refl h
      | true =>
        simp only [hrem] at hrun
        cases hrun
        obtain ⟨_, rfl⟩ := AoiViewSet.removeObserver_true hrem
        refine ⟨h.withViews fun o' v hv => ?_,
          .left id (fun o' => Table.lookup_erase _ _ _) rfl rfl ?_, .refl s⟩
        · rw [Table.lookup_erase] at hv
          split at hv
          · cases hv
          · exact h.observers o' v hv
        · refine (Marks.refl (s.replica.next s.dirtyObservers)).weaken fun o ho => ?_
          have ho : o ∈ s.dirtyObservers := ho
          by_cases heq : o = id <;> simp [heq, ho]

theorem Based.sendFailed (h : Based sc wId s) {o : EntityId} {epoch : Nat} {res : Bool}
    (hrun : s.onClientSendFailed o epoch = (res, s')) :
    Stepped sc wId none s s' := by
  unfold AoiService.onClientSendFailed at hrun
  cases hmark : s.viewSet.markNeedResync o epoch with
  | mk ok vs =>
    cases ok with
    | false =>
      simp only [hmark] at hrun
      cases hrun
      exact .refl h
    | true =>
      simp only [hmark] at hrun
      cases hrun
      obtain ⟨v, hv, _, rfl⟩ := AoiViewSet.markNeedResync_true hmark
      refine ⟨h.withViews fun o' w hw => ?_,
        .resynced o v hv (fun o' => Table.lookup_insert _ _ _ _) rfl rfl rfl rfl, .refl s⟩
      rw [Table.lookup_insert] at hw
      split at hw
      · rename_i heq
        rw [heq]
        exact h.observers o v hv
      · exact h.observers o' w hw

/-- Every call keeps the base invariant and is one of the changes. -/
theorem Based.call (h : Based sc wId s) {op : Op} (hop : op.Produced)
    (hrun : s.call sc wId targets op = some s') :
    Stepped sc wId (opens s op) s s' := by
  cases op with
  | enter p =>
    obtain ⟨⟨res, t⟩, ht, rfl⟩ := Option.map_eq_some_iff.mp hrun
    exact h.enter ht
  | reenter p =>
    obtain ⟨⟨res, t⟩, ht, rfl⟩ := Option.map_eq_some_iff.mp hrun
    exact h.enter ht
  | leave id =>
    obtain ⟨⟨res, t⟩, ht, rfl⟩ := Option.map_eq_some_iff.mp hrun
    exact h.leave ht
  | moved p =>
    obtain ⟨⟨res, t⟩, ht, rfl⟩ := Option.map_eq_some_iff.mp hrun
    exact h.moved ht
  | remote sender ev =>
    obtain ⟨⟨res, t⟩, ht, rfl⟩ := Option.map_eq_some_iff.mp hrun
    exact h.remote hop ht
  | ownerSnapshot sender snap =>
    cases Option.some.inj hrun
    exact h.ownerSnapshot hop rfl
  | online pid epoch =>
    cases Option.some.inj hrun
    exact h.online rfl
  | rebind pid oldEpoch newEpoch =>
    cases Option.some.inj hrun
    exact h.rebind rfl
  | offline pid epoch =>
    cases Option.some.inj hrun
    exact h.offline rfl
  | resync pid epoch =>
    cases Option.some.inj hrun
    unfold AoiService.onViewResyncReq
    cases hid : s.entityOf pid with
    | none => exact .refl h
    | some id => exact h.sendFailed rfl

/-- A flush applies the queued moves one by one. -/
theorem Based.flush_rows {rows : List (Σ _ : EntityId, AoiEvent)}
    (hrows : ∀ row ∈ rows, ownerOf row.2.eId = row.2.ownerThreadId ∧ row.2.ownerThreadId ≠ wId)
    (h : Based sc wId s) (hrun : rows.foldlM (AoiService.flushOne sc wId) s = some s') :
    Based sc wId s' ∧ s'.viewSet = s.viewSet ∧ s'.clientQueue = s.clientQueue ∧
      s'.identities = s.identities ∧
      Marks sc.grid wId (s.replica.next s.dirtyObservers) (s'.replica.next s'.dirtyObservers) := by
  induction rows generalizing s with
  | nil =>
    cases hrun
    exact ⟨h, rfl, rfl, rfl, Marks.refl _⟩
  | cons row rows ih =>
    rw [List.foldlM_cons] at hrun
    obtain ⟨t, ht, hrest⟩ := Option.bind_eq_some_iff.mp hrun
    simp only [AoiService.flushOne, Option.bind_eq_bind, Option.bind_eq_some_iff] at ht
    obtain ⟨⟨result, rep, dirty⟩, happly, ht⟩ := ht
    cases ht
    obtain ⟨hev, hne⟩ := hrows row List.mem_cons_self
    obtain ⟨hb, hmarks⟩ := h.withReplica s.pendingRemoteMoves
      (if result = .needSnapshot then insert row.2.ownerThreadId s.ownersNeedingSnapshot
        else s.ownersNeedingSnapshot) hev hne h.moves happly
    obtain ⟨hb', hv, hq, hids, hmarks'⟩ := ih (fun r hr => hrows r (List.mem_cons_of_mem _ hr)) hb hrest
    exact ⟨hb', hv, hq, hids, hmarks.trans hmarks'⟩

theorem Based.flush (h : Based sc wId s) {nextTickTime : Int}
    (hrun : AoiService.flushRemoteMoves sc wId { s with nextTickTime := nextTickTime } = some s') :
    Stepped sc wId none s s' := by
  have hempty : Based sc wId
      { s with nextTickTime := nextTickTime, pendingRemoteMoves := ∅ } :=
    { h with moves := by simp }
  obtain ⟨hb, hv, hq, hids, hmarks⟩ :=
    hempty.flush_rows (fun row hr => (h.moves _ _ (Table.lookup_of_mem hr)).2) hrun
  exact ⟨hb, .replica hv hq hmarks, .of_eq hids⟩

theorem Based.retry (h : Based sc wId s) (sink : Sink) :
    Stepped sc wId none s (s.retryPublishes sink) :=
  ⟨{ h with }, .replica rfl rfl (Marks.refl _), .of_eq rfl⟩

/-- The pass of an observer touches its view, the client queue and the dirty set only. -/
theorem Based.frame (h : Based sc wId s) {o : EntityId} {v : ObserverSnapshot}
    (hv : s.viewSet.views.lookup o = some v) (hframe : ClientView.Frame o s s') :
    Based sc wId s' := by
  have hobs : ∀ o' w, s'.viewSet.views.lookup o' = some w →
      ∃ pid i, s.identities.lookup pid = some i ∧ i.id = o' := by
    intro o' w hw
    by_cases heq : o' = o
    · rw [heq]
      exact h.observers o v hv
    · rw [hframe.views o' heq] at hw
      exact h.observers o' w hw
  rw [hframe.same]
  exact { h with observers := hobs }

end Service

end Aoi
