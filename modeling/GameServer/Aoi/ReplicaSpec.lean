import GameServer.Aoi.ReplicaInvariant

/-!
# What an accepted call does

`Apply` and `ApplyOwnerSnapshot` described without the grid: which calls pass the
checks, and what the table, the tombstones and the water marks are afterwards.
-/

namespace Aoi

namespace AoiReplica

variable {sc : Scene} {wId : WorkerId}

/-- Everything `Apply` has checked when it reaches the handlers. -/
structure Accepted (sc : Scene) (wId : WorkerId) (rep : AoiReplica) (ev : AoiEvent) (src : Source)
    (cellIdx : Nat) : Prop where
  source : src = .kLocal ↔ ev.ownerThreadId = wId
  kind : ev.msgKind ≠ .invalid
  eId_ne : ev.eId ≠ 0
  entityKind : validEntityKind ev.entityKind = true
  water : src = .kRemote → ∀ w, rep.ownerSnapshotSeq.lookup ev.ownerThreadId = some w →
    w < ev.ownerSeq
  owner : ∀ e, rep.ents.lookup ev.eId = some e → e.ownerWorker = ev.ownerThreadId
  tombOwner : ∀ t, rep.tombstones.lookup ev.eId = some t → t.ownerWorker = ev.ownerThreadId
  tombOlder : ∀ t, rep.tombstones.lookup ev.eId = some t → t.generation < ev.entityGeneration
  newer : ∀ e, rep.ents.lookup ev.eId = some e →
    e.entityGeneration < ev.entityGeneration ∨
      (e.entityGeneration = ev.entityGeneration ∧ e.spatialVersion < ev.spatialVersion ∧
        e.kind = ev.entityKind ∧ e.businessId = ev.businessId)
  bounds : ev.msgKind ≠ .leave → ev.target_x < sc.map.length ∧ ev.target_y < sc.map.width
  cell : ev.msgKind ≠ .leave → sc.grid.tryCellOf ev.target_x ev.target_y = some cellIdx
  move : ev.msgKind = .move →
    ∃ e, rep.ents.lookup ev.eId = some e ∧ e.entityGeneration = ev.entityGeneration

theorem check_cases {rep : AoiReplica} {ev : AoiEvent} {src : Source} {cellIdx : Nat} :
    check sc wId rep ev src = .ok cellIdx ↔
      checkSource wId rep ev src = .ok () ∧
        checkLife (rep.ents.lookup ev.eId) (rep.tombstones.lookup ev.eId) ev = .ok () ∧
        checkTarget sc (rep.ents.lookup ev.eId) ev = .ok cellIdx := by
  unfold check
  cases checkSource wId rep ev src with
  | error r => simp [bind, Except.bind]
  | ok u =>
    cases checkLife (rep.ents.lookup ev.eId) (rep.tombstones.lookup ev.eId) ev with
    | error r => simp [bind, Except.bind]
    | ok u => simp [bind, Except.bind]

theorem checkSource_ok {rep : AoiReplica} {ev : AoiEvent} {src : Source}
    (h : checkSource wId rep ev src = .ok ()) :
    (src = .kLocal ↔ ev.ownerThreadId = wId) ∧ ev.msgKind ≠ .invalid ∧ ev.eId ≠ 0 ∧
      validEntityKind ev.entityKind = true ∧
      (src = .kRemote → ∀ w, rep.ownerSnapshotSeq.lookup ev.ownerThreadId = some w →
        w < ev.ownerSeq) := by
  unfold checkSource at h
  split at h
  · cases h
  rename_i hsrc
  split at h
  · cases h
  rename_i hkind
  split at h
  · cases h
  rename_i hwater
  push Not at hkind hwater
  exact ⟨by simpa using hsrc, hkind.1, hkind.2.1, by simpa using hkind.2.2,
    fun hs w hw => by simpa [hw] using hwater hs⟩

theorem checkLife_ok {old : Option AoiEntity} {tomb : Option Tombstone} {ev : AoiEvent}
    (h : checkLife old tomb ev = .ok ()) :
    (∀ e, old = some e → e.ownerWorker = ev.ownerThreadId ∧
      (e.entityGeneration < ev.entityGeneration ∨
        (e.entityGeneration = ev.entityGeneration ∧ e.spatialVersion < ev.spatialVersion ∧
          e.kind = ev.entityKind ∧ e.businessId = ev.businessId))) ∧
      ∀ t, tomb = some t →
        t.ownerWorker = ev.ownerThreadId ∧ t.generation < ev.entityGeneration := by
  unfold checkLife at h
  split at h
  · cases h
  rename_i howner
  split at h
  · cases h
  rename_i htomb
  split at h
  · cases h
  rename_i hnewer
  split at h
  · cases h
  rename_i hident
  push Not at howner
  constructor
  · rintro e rfl
    simp only [Option.any_some, decide_eq_true_eq] at hnewer hident
    push Not at hnewer hident
    refine ⟨by simpa using howner.1, ?_⟩
    rcases Nat.lt_or_eq_of_le hnewer.1 with hlt | heq
    · exact .inl hlt
    · exact .inr ⟨heq, hnewer.2 heq.symm, (hident heq.symm).1.symm, (hident heq.symm).2.symm⟩
  · rintro t rfl
    exact ⟨by simpa using howner.2, by simpa using htomb⟩

theorem checkTarget_ok {old : Option AoiEntity} {ev : AoiEvent} {cellIdx : Nat}
    (h : checkTarget sc old ev = .ok cellIdx) :
    (ev.msgKind ≠ .leave → ev.target_x < sc.map.length ∧ ev.target_y < sc.map.width) ∧
      (ev.msgKind ≠ .leave → sc.grid.tryCellOf ev.target_x ev.target_y = some cellIdx) ∧
      (ev.msgKind = .move → ∃ e, old = some e ∧ e.entityGeneration = ev.entityGeneration) := by
  unfold checkTarget at h
  split at h
  · rename_i hleave
    simp [hleave]
  split at h
  · cases h
  rename_i hbounds
  split at h
  · cases h
  rename_i c hc
  split at h
  · cases h
  rename_i hmove
  cases h
  push Not at hbounds
  refine ⟨fun _ => hbounds, fun _ => hc, fun hm => ?_⟩
  cases old with
  | none => simp [hm] at hmove
  | some e =>
    simp only [hm, Option.all_some, true_and, decide_eq_true_eq, not_not] at hmove
    exact ⟨e, rfl, hmove.symm⟩

theorem check_ok {rep : AoiReplica} {ev : AoiEvent} {src : Source} {cellIdx : Nat}
    (h : check sc wId rep ev src = .ok cellIdx) : Accepted sc wId rep ev src cellIdx := by
  obtain ⟨hsource, hlife, htarget⟩ := check_cases.mp h
  obtain ⟨hsrc, hkind, hid, hentity, hwater⟩ := checkSource_ok hsource
  obtain ⟨hold, htomb⟩ := checkLife_ok hlife
  obtain ⟨hbounds, hcell, hmove⟩ := checkTarget_ok htarget
  exact
    { source := hsrc
      kind := hkind
      eId_ne := hid
      entityKind := hentity
      water := hwater
      owner := fun e he => (hold e he).1
      tombOwner := fun t ht => (htomb t ht).1
      tombOlder := fun t ht => (htomb t ht).2
      newer := fun e he => (hold e he).2
      bounds := hbounds
      cell := hcell
      move := hmove }

theorem checkSource_ne_applied {rep : AoiReplica} {ev : AoiEvent} {src : Source} :
    checkSource wId rep ev src ≠ .error .applied := by
  unfold checkSource
  split
  · simp
  split
  · simp
  split <;> simp

theorem checkLife_ne_applied {old : Option AoiEntity} {tomb : Option Tombstone} {ev : AoiEvent} :
    checkLife old tomb ev ≠ .error .applied := by
  unfold checkLife
  split
  · simp
  split
  · simp
  split
  · simp
  split <;> simp

theorem checkTarget_ne_applied {old : Option AoiEntity} {ev : AoiEvent} :
    checkTarget sc old ev ≠ .error .applied := by
  unfold checkTarget
  split
  · simp
  split
  · simp
  split
  · simp
  split <;> simp

/-- No check stops with `applied`. -/
theorem check_ne_applied {rep : AoiReplica} {ev : AoiEvent} {src : Source} :
    check sc wId rep ev src ≠ .error .applied := by
  intro h
  unfold check at h
  cases h1 : checkSource wId rep ev src with
  | error r =>
    simp only [h1, bind, Except.bind, Except.error.injEq] at h
    exact checkSource_ne_applied (h ▸ h1)
  | ok u =>
    cases h2 : checkLife (rep.ents.lookup ev.eId) (rep.tombstones.lookup ev.eId) ev with
    | error r =>
      simp only [h1, h2, bind, Except.bind, Except.error.injEq] at h
      exact checkLife_ne_applied (h ▸ h2)
    | ok u =>
      simp only [h1, h2, bind, Except.bind] at h
      exact checkTarget_ne_applied h

/-- The entry of an event's entity after the event. -/
def after (ev : AoiEvent) (cellIdx : Nat) : Option AoiEntity :=
  if ev.msgKind = .leave then none else some (updateEntity ev cellIdx)

theorem after_leave {ev : AoiEvent} (h : ev.msgKind = .leave) (cellIdx : Nat) :
    after ev cellIdx = none := if_pos h

theorem after_stay {ev : AoiEvent} (h : ev.msgKind ≠ .leave) (cellIdx : Nat) :
    after ev cellIdx = some (updateEntity ev cellIdx) := if_neg h

theorem apply_unchanged {rep rep' : AoiReplica} {ev : AoiEvent} {src : Source}
    {dirty dirty' : Observers} {res : ApplyResult}
    (h : apply sc wId rep ev src dirty = some (res, rep', dirty')) (hres : res ≠ .applied) :
    rep' = rep ∧ dirty' = dirty := by
  unfold apply at h
  split at h
  · cases h
    exact ⟨rfl, rfl⟩
  · split at h
    · obtain ⟨out, _, hout⟩ := Option.map_eq_some_iff.mp h
      cases hout
      exact absurd rfl hres
    · simp only [Option.some.injEq, Prod.mk.injEq] at h
      exact absurd h.1.symm hres

/-- An applied event is one update of its entity; a LEAVE also leaves a tombstone. -/
structure Effect (sc : Scene) (wId : WorkerId) (rep rep' : AoiReplica) (ev : AoiEvent)
    (cellIdx : Nat) (dirty dirty' : Observers) : Prop where
  updated : Updated sc.grid wId (rep.next dirty) (rep'.next dirty') ev.eId (after ev cellIdx)
  tombs : rep'.tombstones =
    if ev.msgKind = .leave then rep.tombstones.insert ev.eId (initTombstone ev)
    else rep.tombstones
  water : rep'.ownerSnapshotSeq = rep.ownerSnapshotSeq

theorem Effect.of_stay {rep rep' : AoiReplica} {ev : AoiEvent} {cellIdx : Nat}
    {dirty dirty' : Observers} (hk : ev.msgKind ≠ .leave)
    (h : Updated sc.grid wId (rep.next dirty) (rep'.next dirty') ev.eId
        (some (updateEntity ev cellIdx)) ∧
      rep'.tombstones = rep.tombstones ∧ rep'.ownerSnapshotSeq = rep.ownerSnapshotSeq) :
    Effect sc wId rep rep' ev cellIdx dirty dirty' where
  updated := by rw [after_stay hk]; exact h.1
  tombs := by rw [if_neg hk]; exact h.2.1
  water := h.2.2

theorem Effect.of_leave {rep rep' : AoiReplica} {ev : AoiEvent} {cellIdx : Nat}
    {dirty dirty' : Observers} (hk : ev.msgKind = .leave)
    (h : Updated sc.grid wId (rep.next dirty) (rep'.next dirty') ev.eId none ∧
      rep'.tombstones = rep.tombstones.insert ev.eId (initTombstone ev) ∧
      rep'.ownerSnapshotSeq = rep.ownerSnapshotSeq) :
    Effect sc wId rep rep' ev cellIdx dirty dirty' where
  updated := by rw [after_leave hk]; exact h.1
  tombs := by rw [if_pos hk]; exact h.2.1
  water := h.2.2

theorem processLocal_effect {rep rep' : AoiReplica} {ev : AoiEvent} {cellIdx : Nat}
    {dirty dirty' : Observers} (hagree : Agree sc.grid wId rep.ents rep.cells)
    (hacc : Accepted sc wId rep ev .kLocal cellIdx)
    (h : processLocalAoiMsg sc.grid rep ev cellIdx dirty = some (rep', dirty')) :
    Effect sc wId rep rep' ev cellIdx dirty dirty' := by
  have hown := hacc.source.mp rfl
  have hold : ∀ e, rep.ents.lookup ev.eId = some e → e.ownerWorker = wId :=
    fun e he => (hacc.owner e he).trans hown
  unfold processLocalAoiMsg at h
  cases hk : ev.msgKind with
  | entry =>
    have hne : ev.msgKind ≠ .leave := by simp [hk]
    rw [hk] at h
    exact Effect.of_stay hne (onLocalEntry_updated hagree hown hold (hacc.cell hne) h)
  | move =>
    have hne : ev.msgKind ≠ .leave := by simp [hk]
    obtain ⟨e, he, _⟩ := hacc.move hk
    rw [hk] at h
    exact Effect.of_stay hne
      (onLocalMove_updated hagree hown he (hold e he) (hacc.cell hne) h)
  | leave =>
    rw [hk] at h
    exact Effect.of_leave hk (onLocalLeave_updated hagree hold h)
  | invalid => exact absurd hk hacc.kind

theorem processRemote_effect {rep rep' : AoiReplica} {ev : AoiEvent} {cellIdx : Nat}
    {dirty dirty' : Observers} (hagree : Agree sc.grid wId rep.ents rep.cells)
    (hacc : Accepted sc wId rep ev .kRemote cellIdx)
    (h : processRemoteAoiMsg sc.grid rep ev cellIdx dirty = (rep', dirty')) :
    Effect sc wId rep rep' ev cellIdx dirty dirty' := by
  have hown : ev.ownerThreadId ≠ wId := fun hw => by
    cases hacc.source.mpr hw
  have hold : ∀ e, rep.ents.lookup ev.eId = some e → e.ownerWorker ≠ wId :=
    fun e he => (hacc.owner e he).symm ▸ hown
  unfold processRemoteAoiMsg at h
  cases hk : ev.msgKind with
  | entry =>
    have hne : ev.msgKind ≠ .leave := by simp [hk]
    rw [hk] at h
    exact Effect.of_stay hne (onRemoteEntry_updated hagree hown hold (hacc.cell hne) h)
  | move =>
    have hne : ev.msgKind ≠ .leave := by simp [hk]
    obtain ⟨e, he, _⟩ := hacc.move hk
    rw [hk] at h
    exact Effect.of_stay hne
      (onRemoteMove_updated hagree hown he (hold e he) (hacc.owner e he) (hacc.cell hne) h)
  | leave =>
    rw [hk] at h
    exact Effect.of_leave hk (onRemoteLeave_updated hagree hold h)
  | invalid => exact absurd hk hacc.kind

theorem apply_applied {rep rep' : AoiReplica} {ev : AoiEvent} {src : Source}
    {dirty dirty' : Observers} (hagree : Agree sc.grid wId rep.ents rep.cells)
    (h : apply sc wId rep ev src dirty = some (.applied, rep', dirty')) :
    ∃ cellIdx, check sc wId rep ev src = .ok cellIdx ∧
      Effect sc wId rep rep' ev cellIdx dirty dirty' := by
  unfold apply at h
  cases hc : check sc wId rep ev src with
  | error res =>
    simp only [hc, Option.some.injEq, Prod.mk.injEq] at h
    exact absurd (h.1 ▸ hc) check_ne_applied
  | ok cellIdx =>
    simp only [hc] at h
    refine ⟨cellIdx, rfl, ?_⟩
    cases src with
    | kLocal =>
      obtain ⟨out, hout, hpair⟩ := Option.map_eq_some_iff.mp h
      cases hpair
      exact processLocal_effect hagree (check_ok hc) hout
    | kRemote =>
      simp only [Option.some.injEq, Prod.mk.injEq, true_and] at h
      exact processRemote_effect hagree (check_ok hc) h

end AoiReplica

end Aoi
