import GameServer.Lib.History
import GameServer.Lib.Run
import GameServer.Aoi.Freshness
import GameServer.Aoi.ShownEvents

/-!
# Coalesced remote moves

The service lets the MOVEs of the other workers wait for the flush and keeps only
the newest of each entity. A replica that applies everything at once is the
measure: whatever arrives, after a flush the two show the same.
-/

namespace Aoi

open AoiReplica

/-- What reaches a worker from the others, and the flush of the tick. -/
inductive Arrival where
  | event (ev : AoiEvent)
  | snapshot (snap : AoiOwnerSnapshot)
  | flush
  deriving DecidableEq, Repr

section Machines

variable (sc : Scene) (wId : WorkerId)

def AoiService.receive (s : AoiService) : Arrival → Option AoiService
  | .event ev => (s.onRemoteEntityEvent sc wId ev.ownerThreadId ev).map (·.2)
  | .snapshot snap => some (s.applyOwnerSnapshot sc wId snap.ownerWorkerId snap).2
  | .flush => s.flushRemoteMoves sc wId

/-- Every event and every snapshot is applied as it arrives. -/
def AoiReplica.receive (r : AoiReplica × Observers) : Arrival → Option (AoiReplica × Observers)
  | .event ev => (r.1.apply sc wId ev .kRemote r.2).map (·.2)
  | .snapshot snap => some (r.1.applyOwnerSnapshot sc wId snap r.2).2
  | .flush => some r

end Machines

section Law

variable {sc : Scene} (W : Streams sc) (wId : WorkerId) (past : List Arrival)

/-- What the worker has been told, by the event or by a snapshot. -/
def Streams.Told (ev : AoiEvent) : Prop :=
  W.Publishes wId ev ∧ (.event ev ∈ past ∨ ∃ snap, .snapshot snap ∈ past ∧
    snap.ownerWorkerId = ev.ownerThreadId ∧ ev.ownerSeq ≤ snap.seq)

/-- What may arrive next: the events of an owner in the order of `ownerSeq`, a MOVE in a life
whose ENTRY the worker has been told of, and snapshots of the owner at any time. -/
def Streams.InOrder : Arrival → Prop
  | .event ev => W.Publishes wId ev ∧
      (∀ x, .event x ∈ past → x.ownerThreadId = ev.ownerThreadId → x.ownerSeq < ev.ownerSeq) ∧
      (ev.msgKind = .move → ∃ entry, W.Told wId past entry ∧ entry.msgKind = .entry ∧
        entry.eId = ev.eId ∧ entry.entityGeneration = ev.entityGeneration)
  | .snapshot snap => snap.ownerWorkerId ≠ wId ∧ (W.of snap.ownerWorkerId).Snapshot snap
  | .flush => True

end Law

variable {sc : Scene} {W : Streams sc} {wId : WorkerId} {base rep : AoiReplica}
  {past : List Arrival} {s : AoiService} {shown : AoiEvent → Prop} {ev : AoiEvent}
  {dirty : Observers}

theorem told_event {x : AoiEvent} (hev : W.Publishes wId ev) :
    W.Told wId (past ++ [.event ev]) x ↔ W.Told wId past x ∨ x = ev := by
  simp only [Streams.Told, List.mem_append, List.mem_singleton, Arrival.event.injEq, reduceCtorEq,
    or_false]
  constructor
  · rintro ⟨hpub, (hold | hthis) | hsnap⟩
    · exact .inl ⟨hpub, .inl hold⟩
    · exact .inr hthis
    · exact .inl ⟨hpub, .inr hsnap⟩
  · rintro (⟨hpub, hold⟩ | rfl)
    · exact ⟨hpub, hold.imp_left .inl⟩
    · exact ⟨hev, .inl (.inr rfl)⟩

theorem told_snapshot {x : AoiEvent} {snap : AoiOwnerSnapshot} (hne : snap.ownerWorkerId ≠ wId) :
    W.Told wId (past ++ [.snapshot snap]) x ↔ W.Told wId past x ∨ ShowsLast.Covers W snap x := by
  simp only [Streams.Told, List.mem_append, List.mem_singleton, Arrival.snapshot.injEq,
    reduceCtorEq, or_false, ShowsLast.Covers]
  constructor
  · rintro ⟨hpub, hold | ⟨old, hin | rfl, howner, hle⟩⟩
    · exact .inl ⟨hpub, .inl hold⟩
    · exact .inl ⟨hpub, .inr ⟨old, hin, howner, hle⟩⟩
    · exact .inr ⟨howner ▸ hpub.2, hle⟩
  · rintro (⟨hpub, hold | ⟨old, hin, hrest⟩⟩ | ⟨hmem, hle⟩)
    · exact ⟨hpub, .inl hold⟩
    · exact ⟨hpub, .inr ⟨old, .inl hin, hrest⟩⟩
    · exact ⟨W.publishes_of_mem hne hmem,
        .inr ⟨snap, .inr rfl, ((W.of _).owner x hmem).symm, hle⟩⟩

theorem told_flush {x : AoiEvent} : W.Told wId (past ++ [.flush]) x ↔ W.Told wId past x := by
  simp [Streams.Told]

/-- The replica of the service lags behind only by the MOVEs that wait: `shown` is what it shows,
and each event it has not taken up is followed by one it shows or by the MOVE that waits. -/
structure Coalesced (W : Streams sc) (wId : WorkerId) (base : AoiReplica) (past : List Arrival)
    (rep : AoiReplica) (s : AoiService) (shown : AoiEvent → Prop) : Prop where
  now : ShowsLast W wId base (W.Told wId past) rep
  shows : ShowsLast W wId base shown s.replica
  told : ∀ ev, shown ev → W.Told wId past ev
  water : s.replica.ownerSnapshotSeq = rep.ownerSnapshotSeq
  heard : ∀ snap, .snapshot snap ∈ past →
    ∃ w, rep.ownerSnapshotSeq.lookup snap.ownerWorkerId = some w ∧ snap.seq ≤ w
  waiting : ∀ id m, s.pendingRemoteMoves.lookup id = some m → m.eId = id ∧ m.msgKind = .move ∧
    (W.Publishes wId m ∧ .event m ∈ past) ∧ (Passed s.replica m ∨ Ready shown m)
  covered : ∀ ev, W.Told wId past ev →
    (∃ x, shown x ∧ x.eId = ev.eId ∧ ev.ownerSeq ≤ x.ownerSeq) ∨
      ∃ m, s.pendingRemoteMoves.lookup ev.eId = some m ∧ ev.ownerSeq ≤ m.ownerSeq

theorem passed_iff {a b : AoiReplica} (h : a.ownerSnapshotSeq = b.ownerSnapshotSeq) :
    Passed a ev ↔ Passed b ev := by
  unfold Passed
  rw [h]

namespace Coalesced

theorem start (hb : Unheard W wId s.replica) (hnone : s.pendingRemoteMoves = ∅) :
    Coalesced W wId s.replica [] s.replica s (fun _ => False) where
  now := hb.shows.congr fun x => by simp [Streams.Told]
  shows := hb.shows
  told := fun _ hf => hf.elim
  water := rfl
  heard := fun _ hin => by simp at hin
  waiting := fun id m hm => by
    rw [hnone] at hm
    simp at hm
  covered := fun x hx => by simp [Streams.Told] at hx

/-- Nothing the worker has been told of the entity is as new as what arrives. -/
theorem newest (h : Coalesced W wId base past rep s shown) (hev : W.InOrder wId past (.event ev))
    (hp : ¬ Passed rep ev) {x : AoiEvent} (hx : W.Told wId past x) (hid : x.eId = ev.eId) :
    x.ownerSeq < ev.ownerSeq := by
  have howner := hx.1.same_owner hev.1 hid
  rcases hx.2 with hin | ⟨snap, hin, hsnap, hle⟩
  · exact hev.2.1 x hin howner
  · obtain ⟨w, hw, hwle⟩ := h.heard snap hin
    rw [hsnap, howner] at hw
    refine Nat.lt_of_not_le fun hge => hp ⟨w, hw, ?_⟩
    omega

theorem ready_now (h : Coalesced W wId base past rep s shown)
    (hev : W.InOrder wId past (.event ev)) :
    Passed rep ev ∨ Ready (W.Told wId past) ev := by
  refine Classical.or_iff_not_imp_left.mpr fun hp => ⟨fun x hx hid => h.newest hev hp hx hid, ?_⟩
  intro hmove
  obtain ⟨entry, htold, _, hid, hgen⟩ := hev.2.2 hmove
  exact ⟨entry, htold, hid, hgen⟩

/-- The life of a MOVE that has been told is shown, though not every event of it. -/
theorem ready_shown (h : Coalesced W wId base past rep s shown)
    (hev : W.InOrder wId past (.event ev)) : Passed s.replica ev ∨ Ready shown ev := by
  rw [passed_iff h.water]
  refine Classical.or_iff_not_imp_left.mpr fun hp =>
    ⟨fun x hx hid => h.newest hev hp (h.told x hx) hid, fun hmove => ?_⟩
  obtain ⟨entry, htold, _, hid, hgen⟩ := hev.2.2 hmove
  -- an event between the ENTRY and the MOVE belongs to their generation
  have hbetween : ∀ x, W.Told wId past x → x.eId = ev.eId → entry.ownerSeq ≤ x.ownerSeq →
      x.entityGeneration = ev.entityGeneration := by
    intro x hx hxid hle
    have hlo := htold.1.generation_le hx.1 (hid.trans hxid.symm) hle
    have hhi := hx.1.generation_le hev.1 hxid (Nat.le_of_lt (h.newest hev hp hx hxid))
    omega
  rcases h.covered entry htold with ⟨x, hx, hxid, hle⟩ | ⟨m, hm, hle⟩
  · exact ⟨x, hx, hxid.trans hid, hbetween x (h.told x hx) (hxid.trans hid) hle⟩
  obtain ⟨hmid, hmk, ⟨hmpub, hmin⟩, hwait⟩ := h.waiting _ m hm
  have hmgen := hbetween m ⟨hmpub, .inl hmin⟩ (hmid.trans hid) hle
  rcases hwait with hpassed | hready
  · exact ⟨m, h.shows.known_of_passed hmpub hpassed, hmid.trans hid, hmgen⟩
  · obtain ⟨x, hx, hxid, hxgen⟩ := hready.2 hmk
    exact ⟨x, hx, hxid.trans (hmid.trans hid), hxgen.trans hmgen⟩

/-- What waits for an entity is older than what arrives. -/
theorem older (h : Coalesced W wId base past rep s shown) (hev : W.InOrder wId past (.event ev))
    {m : AoiEvent} (hm : s.pendingRemoteMoves.lookup ev.eId = some m) :
    m.ownerThreadId = ev.ownerThreadId ∧ m.ownerSeq < ev.ownerSeq ∧ m.Precedes ev := by
  obtain ⟨hmid, _, ⟨hmpub, hmin⟩, _⟩ := h.waiting _ m hm
  have howner := hmpub.same_owner hev.1 hmid
  have hseq := hev.2.1 m hmin howner
  exact ⟨howner, hseq, hmpub.precedes hev.1 hmid hseq⟩

/-- A MOVE that arrives takes the place of the one that waits. -/
theorem receive_move (h : Coalesced W wId base past rep s shown)
    (hev : W.InOrder wId past (.event ev)) (hk : ev.msgKind = .move) :
    s.receive sc wId (.event ev) =
      some { s with pendingRemoteMoves := s.pendingRemoteMoves.insert ev.eId ev } := by
  have hwell := hev.1.wellFormed
  obtain ⟨hx, hy⟩ := hwell.target (by rw [hk]; decide)
  have hsender : ¬ (ev.ownerThreadId = wId ∨ ev.ownerThreadId ≠ ev.ownerThreadId) := by
    simp [hev.1.1]
  have hbad : ¬ (ev.eId = 0 ∨ sc.map.length ≤ ev.target_x ∨ sc.map.width ≤ ev.target_y ∨
      (!validEntityKind ev.entityKind) = true) := by
    simp only [hwell.eId_ne, hwell.entityKind]
    simp
    omega
  simp only [AoiService.receive, AoiService.onRemoteEntityEvent]
  rw [if_neg hsender, if_pos hk]
  unfold AoiService.queueRemoteMove
  rw [if_neg hbad]
  cases hold : s.pendingRemoteMoves.lookup ev.eId with
  | none => rfl
  | some m =>
    obtain ⟨howner, _, hprec⟩ := h.older hev hold
    have hnewer : ¬ (ev.entityGeneration < m.entityGeneration ∨
        (ev.entityGeneration = m.entityGeneration ∧ ev.spatialVersion ≤ m.spatialVersion)) := by
      rcases hprec with hlt | ⟨heq, hver, _⟩ <;> omega
    simp only
    rw [if_neg (not_not.mpr howner), if_neg hnewer]
    rfl

theorem move (h : Coalesced W wId base past rep s shown) (hb : Unheard W wId base)
    (hev : W.InOrder wId past (.event ev)) (hk : ev.msgKind = .move) :
    ∃ s' r', s.receive sc wId (.event ev) = some s' ∧
      AoiReplica.receive sc wId (rep, dirty) (.event ev) = some r' ∧
      Coalesced W wId base (past ++ [.event ev]) r'.1 s' shown := by
  obtain ⟨res, rep', dirty', hrun, hnow, hwater, _⟩ := h.now.apply hb hev.1 (h.ready_now hev) dirty
  refine ⟨_, (rep', dirty'), h.receive_move hev hk, by simp [AoiReplica.receive, hrun], ?_⟩
  exact
    { now := hnow.congr fun x => told_event hev.1
      shows := h.shows
      told := fun x hx => (told_event hev.1).mpr (.inl (h.told x hx))
      water := h.water.trans hwater.symm
      heard := fun snap hin => by
        rw [hwater]
        exact h.heard snap (by simpa using hin)
      waiting := fun id m hm => by
        rw [Table.lookup_insert] at hm
        split at hm
        · rename_i hid
          cases hm
          exact ⟨hid.symm, hk, ⟨hev.1, by simp⟩, h.ready_shown hev⟩
        · obtain ⟨hid, hmk, ⟨hpub, hin⟩, hwait⟩ := h.waiting id m hm
          exact ⟨hid, hmk, ⟨hpub, List.mem_append_left _ hin⟩, hwait⟩
      covered := fun x hx => by
        rcases (told_event hev.1).mp hx with hold | rfl
        · refine (h.covered x hold).imp_right fun ⟨m, hm, hle⟩ => ?_
          by_cases hid : x.eId = ev.eId
          · rw [hid] at hm ⊢
            obtain ⟨_, hlt, _⟩ := h.older hev hm
            exact ⟨ev, Table.lookup_insert_same _ _ _, by omega⟩
          · exact ⟨m, by rw [Table.lookup_insert, if_neg hid]; exact hm, hle⟩
        · exact .inr ⟨x, Table.lookup_insert_same _ _ _, Nat.le_refl _⟩ }

theorem receive_life {rep' : AoiReplica} {dirty' : Observers} {res : ApplyResult}
    (hne : ev.ownerThreadId ≠ wId) (hk : ev.msgKind ≠ .move)
    (hrun : s.replica.apply sc wId ev .kRemote s.dirtyObservers = some (res, rep', dirty')) :
    ∃ s', s.receive sc wId (.event ev) = some s' ∧ s'.replica = rep' ∧
      s'.pendingRemoteMoves =
        if res = .applied ∧ (s.pendingRemoteMoves.lookup ev.eId).any
            (AoiService.supersedes ev.ownerThreadId ev) then
          s.pendingRemoteMoves.erase ev.eId
        else s.pendingRemoteMoves := by
  have hsender : ¬ (ev.ownerThreadId = wId ∨ ev.ownerThreadId ≠ ev.ownerThreadId) := by
    simp [hne]
  simp only [AoiService.receive, AoiService.onRemoteEntityEvent]
  rw [if_neg hsender, if_neg hk, hrun]
  by_cases hres : res = .applied
  · simp [hres]
  · simp [hres]

/-- An ENTRY or a LEAVE is taken up at once, and what waited for its entity is given up. -/
theorem life (h : Coalesced W wId base past rep s shown) (hb : Unheard W wId base)
    (hev : W.InOrder wId past (.event ev)) (hk : ev.msgKind ≠ .move) :
    ∃ s' r', s.receive sc wId (.event ev) = some s' ∧
      AoiReplica.receive sc wId (rep, dirty) (.event ev) = some r' ∧
      Coalesced W wId base (past ++ [.event ev]) r'.1 s' (fun x => shown x ∨ x = ev) := by
  obtain ⟨res, rep', dirty', hrun, hnow, hwater, _⟩ := h.now.apply hb hev.1 (h.ready_now hev) dirty
  obtain ⟨res₂, rep₂, dirty₂, hrun₂, hshows, hwater₂, happlied⟩ :=
    h.shows.apply hb hev.1 (h.ready_shown hev) s.dirtyObservers
  obtain ⟨s', hreceive, hrep, hpending⟩ := receive_life hev.1.1 hk hrun₂
  have hsup : ∀ m, s.pendingRemoteMoves.lookup ev.eId = some m →
      AoiService.supersedes ev.ownerThreadId ev m = true := by
    intro m hm
    obtain ⟨howner, _, hprec⟩ := h.older hev hm
    rw [AoiService.supersedes, decide_eq_true_eq]
    refine ⟨howner, hprec.imp_right fun ⟨heq, hver, _⟩ => ⟨heq, .inr (Nat.le_of_lt hver)⟩⟩
  -- what still waits waited before; for the entity itself only what a snapshot covers
  have hkeep : ∀ id m, s'.pendingRemoteMoves.lookup id = some m →
      s.pendingRemoteMoves.lookup id = some m ∧ (id = ev.eId → Passed s.replica ev) := by
    intro id m hm
    rw [hpending] at hm
    split at hm
    · rw [Table.lookup_erase] at hm
      split at hm
      · cases hm
      · rename_i hid
        exact ⟨hm, fun heq => absurd heq hid⟩
    · rename_i hnot
      refine ⟨hm, fun hid => by_contra fun hp => hnot ⟨happlied hp, ?_⟩⟩
      subst hid
      rw [hm]
      exact hsup m hm
  refine ⟨s', (rep', dirty'), hreceive, by simp [AoiReplica.receive, hrun], ?_⟩
  exact
    { now := hnow.congr fun x => told_event hev.1
      shows := hrep ▸ hshows
      told := fun x hx => (told_event hev.1).mpr (hx.imp_left (h.told x))
      water := by rw [hrep, hwater₂, hwater, h.water]
      heard := fun snap hin => by
        rw [hwater]
        exact h.heard snap (by simpa using hin)
      waiting := fun id m hm => by
        obtain ⟨hold, hpassed⟩ := hkeep id m hm
        obtain ⟨hid, hmk, ⟨hpub, hin⟩, hwait⟩ := h.waiting id m hold
        refine ⟨hid, hmk, ⟨hpub, List.mem_append_left _ hin⟩, ?_⟩
        rw [hrep, passed_iff hwater₂]
        by_cases heq : id = ev.eId
        · subst heq
          obtain ⟨w, hw, hle⟩ := hpassed rfl
          obtain ⟨howner, hlt, _⟩ := h.older hev hold
          exact .inl ⟨w, howner ▸ hw, by omega⟩
        · refine hwait.imp_right fun hready => ⟨?_, fun hmove => ?_⟩
          · rintro x (hx | rfl) hxid
            · exact hready.1 x hx hxid
            · exact absurd (hid.symm.trans hxid.symm) heq
          · obtain ⟨x, hx, hrest⟩ := hready.2 hmove
            exact ⟨x, .inl hx, hrest⟩
      covered := fun x hx => by
        rcases (told_event hev.1).mp hx with hold | rfl
        · rcases h.covered x hold with ⟨y, hy, hrest⟩ | ⟨m, hm, hle⟩
          · exact .inl ⟨y, .inl hy, hrest⟩
          by_cases hid : x.eId = ev.eId
          · rw [hid] at hm
            obtain ⟨_, hlt, _⟩ := h.older hev hm
            exact .inl ⟨ev, .inr rfl, hid.symm, by omega⟩
          · refine .inr ⟨m, ?_, hle⟩
            rw [hpending]
            split
            · rw [Table.lookup_erase, if_neg hid]
              exact hm
            · exact hm
        · exact .inl ⟨x, .inr rfl, rfl, Nat.le_refl _⟩ }

section Snapshot

variable {snap : AoiOwnerSnapshot}

theorem receive_snapshot {rep' : AoiReplica} {dirty' : Observers} {res : ApplyResult}
    (hne : snap.ownerWorkerId ≠ wId)
    (hrun : s.replica.applyOwnerSnapshot sc wId snap s.dirtyObservers = (res, rep', dirty')) :
    ∃ s', s.receive sc wId (.snapshot snap) = some s' ∧ s'.replica = rep' ∧
      s'.pendingRemoteMoves =
        if res = .applied then
          s.pendingRemoteMoves.keep fun _ move =>
            !(move.ownerThreadId = snap.ownerWorkerId ∧ move.ownerSeq ≤ snap.seq)
        else s.pendingRemoteMoves := by
  have hsender : ¬ (snap.ownerWorkerId = wId ∨ snap.ownerWorkerId ≠ snap.ownerWorkerId) := by
    simp [hne]
  simp only [AoiService.receive, AoiService.applyOwnerSnapshot]
  rw [if_neg hsender, hrun]
  by_cases hres : res = .applied
  · simp [hres]
  · simp [hres]

/-- A snapshot is taken up at once, and what it covers no longer waits. -/
theorem snapshot (h : Coalesced W wId base past rep s shown) (hb : Unheard W wId base)
    (hne : snap.ownerWorkerId ≠ wId) (hsnap : (W.of snap.ownerWorkerId).Snapshot snap) :
    ∃ s' r', s.receive sc wId (.snapshot snap) = some s' ∧
      AoiReplica.receive sc wId (rep, dirty) (.snapshot snap) = some r' ∧
      Coalesced W wId base (past ++ [.snapshot snap]) r'.1 s'
        (fun x => shown x ∨ ShowsLast.Covers W snap x) := by
  obtain ⟨⟨res, rep', dirty'⟩, hrun⟩ : ∃ out, rep.applyOwnerSnapshot sc wId snap dirty = out :=
    ⟨_, rfl⟩
  obtain ⟨⟨res₂, rep₂, dirty₂⟩, hrun₂⟩ :
      ∃ out, s.replica.applyOwnerSnapshot sc wId snap s.dirtyObservers = out := ⟨_, rfl⟩
  obtain ⟨hnow, hresult⟩ := h.now.snapshot hb hne hsnap hrun
  obtain ⟨hshows, hresult₂⟩ := h.shows.snapshot hb hne hsnap hrun₂
  obtain ⟨s', hreceive, hrep, hpending⟩ := receive_snapshot hne hrun₂
  rw [h.water] at hresult₂
  -- the replicas agree on the water mark, before and after
  have hwater : rep₂.ownerSnapshotSeq = rep'.ownerSnapshotSeq := by
    rcases hresult with ⟨_, hins, hfresh⟩ | ⟨_, rfl, w, hw, hle⟩
    · rcases hresult₂ with ⟨_, hins₂, _⟩ | ⟨_, _, w, hw, hle⟩
      · rw [hins, hins₂]
      · have := hfresh w hw
        omega
    · rcases hresult₂ with ⟨_, _, hfresh₂⟩ | ⟨_, rfl, _⟩
      · have := hfresh₂ w hw
        omega
      · exact h.water
  -- marks only grow, and this snapshot is below the new one
  have hgrown : ∀ p w, rep.ownerSnapshotSeq.lookup p = some w →
      ∃ w', rep'.ownerSnapshotSeq.lookup p = some w' ∧ w ≤ w' := by
    intro p w hw
    rcases hresult with ⟨_, hins, hfresh⟩ | ⟨_, rfl, _⟩
    · rw [hins, Table.lookup_insert]
      split
      · rename_i hp
        subst hp
        exact ⟨_, rfl, Nat.le_of_lt (hfresh w hw)⟩
      · exact ⟨w, hw, Nat.le_refl w⟩
    · exact ⟨w, hw, Nat.le_refl w⟩
  have hmark : ∃ w, rep'.ownerSnapshotSeq.lookup snap.ownerWorkerId = some w ∧ snap.seq ≤ w := by
    rcases hresult with ⟨_, hins, _⟩ | ⟨_, rfl, hold⟩
    · rw [hins]
      exact ⟨_, Table.lookup_insert_same _ _ _, Nat.le_refl _⟩
    · exact hold
  -- what waits on waited before and is not covered, unless the mark already was
  have hkeep : ∀ id m, s'.pendingRemoteMoves.lookup id = some m →
      s.pendingRemoteMoves.lookup id = some m := by
    intro id m hm
    rw [hpending] at hm
    split at hm
    · rw [Table.lookup_keep, Option.filter_eq_some_iff] at hm
      exact hm.1
    · exact hm
  have hstay : ∀ id m, s.pendingRemoteMoves.lookup id = some m →
      ¬ (m.ownerThreadId = snap.ownerWorkerId ∧ m.ownerSeq ≤ snap.seq) →
      s'.pendingRemoteMoves.lookup id = some m := by
    intro id m hm hnot
    rw [hpending]
    split
    · rw [Table.lookup_keep, hm]
      simp only [Option.filter, decide_eq_false hnot, Bool.not_false, if_true]
    · exact hm
  refine ⟨s', (rep', dirty'), hreceive, by simp [AoiReplica.receive, hrun], ?_⟩
  exact
    { now := hnow.congr fun x => told_snapshot hne
      shows := hrep ▸ hshows
      told := fun x hx => (told_snapshot hne).mpr (hx.imp_left (h.told x))
      water := by rw [hrep, hwater]
      heard := fun old hin => by
        rcases List.mem_append.mp hin with hin | hin
        · obtain ⟨w, hw, hle⟩ := h.heard old hin
          obtain ⟨w', hw', hle'⟩ := hgrown _ w hw
          exact ⟨w', hw', Nat.le_trans hle hle'⟩
        · cases List.mem_singleton.mp hin
          exact hmark
      waiting := fun id m hm => by
        have hold := hkeep id m hm
        obtain ⟨hid, hmk, ⟨hpub, hin⟩, hwait⟩ := h.waiting id m hold
        refine ⟨hid, hmk, ⟨hpub, List.mem_append_left _ hin⟩, ?_⟩
        rw [hrep, passed_iff hwater]
        rw [passed_iff h.water] at hwait
        rcases hwait with ⟨w, hw, hle⟩ | hready
        · obtain ⟨w', hw', hle'⟩ := hgrown _ w hw
          exact .inl ⟨w', hw', Nat.le_trans hle hle'⟩
        by_cases hcov : m.ownerThreadId = snap.ownerWorkerId ∧ m.ownerSeq ≤ snap.seq
        · obtain ⟨w, hw, hle⟩ := hmark
          exact .inl ⟨w, hcov.1 ▸ hw, Nat.le_trans hcov.2 hle⟩
        refine .inr ⟨?_, fun hmove => ?_⟩
        · rintro x (hx | hx) hxid
          · exact hready.1 x hx hxid
          · have howner := W.apart _ _ m x hpub.2 hx.1 hxid.symm
            have hle := hx.2
            have hnle : ¬ m.ownerSeq ≤ snap.seq := fun hm => hcov ⟨howner, hm⟩
            omega
        · obtain ⟨x, hx, hrest⟩ := hready.2 hmove
          exact ⟨x, .inl hx, hrest⟩
      covered := fun x hx => by
        rcases (told_snapshot hne).mp hx with hold | hcov
        · rcases h.covered x hold with ⟨y, hy, hrest⟩ | ⟨m, hm, hle⟩
          · exact .inl ⟨y, .inl hy, hrest⟩
          by_cases hgone : m.ownerThreadId = snap.ownerWorkerId ∧ m.ownerSeq ≤ snap.seq
          · obtain ⟨hid, _, ⟨hpub, _⟩, _⟩ := h.waiting _ m hm
            have howner := (hold.1.same_owner hpub hid.symm).trans hgone.1
            refine .inl ⟨x, .inr ⟨howner ▸ hold.1.2, Nat.le_trans hle hgone.2⟩, rfl, ?_⟩
            exact Nat.le_refl _
          · exact .inr ⟨m, hstay _ m hm hgone, hle⟩
        · exact .inl ⟨x, .inr hcov, rfl, Nat.le_refl _⟩ }

end Snapshot

section Flush

/-- The flush takes up one MOVE after the other, each of another entity. -/
theorem flush_rows (hb : Unheard W wId base) {rows : List (Σ _ : EntityId, AoiEvent)}
    (hnodup : rows.NodupKeys) (hshows : ShowsLast W wId base shown s.replica)
    (hrows : ∀ row ∈ rows, row.2.eId = row.1 ∧ W.Publishes wId row.2 ∧
      (Passed s.replica row.2 ∨ Ready shown row.2)) :
    ∃ s', rows.foldlM (AoiService.flushOne sc wId) s = some s' ∧
      ShowsLast W wId base (fun x => shown x ∨ ∃ row ∈ rows, row.2 = x) s'.replica ∧
      s'.replica.ownerSnapshotSeq = s.replica.ownerSnapshotSeq ∧
      s'.pendingRemoteMoves = s.pendingRemoteMoves := by
  induction rows generalizing s shown with
  | nil => exact ⟨s, rfl, hshows.congr fun x => by simp, rfl, rfl⟩
  | cons row rows ih =>
    obtain ⟨hid, hpub, hwait⟩ := hrows row List.mem_cons_self
    rw [List.nodupKeys_cons] at hnodup
    obtain ⟨res, rep', dirty', hrun, hafter, hwater, _⟩ :=
      hshows.apply hb hpub hwait s.dirtyObservers
    obtain ⟨t, ht, htrep, htpending⟩ : ∃ t, AoiService.flushOne sc wId s row = some t ∧
        t.replica = rep' ∧ t.pendingRemoteMoves = s.pendingRemoteMoves := by
      simp [AoiService.flushOne, hrun]
    subst htrep
    obtain ⟨s', hrest, hlast, hwater', hpending'⟩ := ih hnodup.2 hafter fun r hr => by
      obtain ⟨hrid, hrpub, hrwait⟩ := hrows r (List.mem_cons_of_mem _ hr)
      have hne : row.1 ≠ r.1 := fun heq => hnodup.1 (heq ▸ List.mem_map.mpr ⟨r, hr, rfl⟩)
      refine ⟨hrid, hrpub, ?_⟩
      rw [passed_iff hwater]
      refine hrwait.imp_right fun hready => ⟨?_, fun hmove => ?_⟩
      · rintro x (hx | rfl) hxid
        · exact hready.1 x hx hxid
        · exact absurd (hid.symm.trans (hxid.trans hrid)) hne
      · obtain ⟨x, hx, hxrest⟩ := hready.2 hmove
        exact ⟨x, .inl hx, hxrest⟩
    refine ⟨s', ?_, hlast.congr fun x => ?_, hwater'.trans hwater, hpending'.trans htpending⟩
    · rw [List.foldlM_cons, ht]
      exact hrest
    · simp only [List.mem_cons, exists_eq_or_imp]
      rw [or_assoc, eq_comm]

/-- After a flush nothing waits. -/
theorem flush (h : Coalesced W wId base past rep s shown) (hb : Unheard W wId base) :
    ∃ s' shown', s.receive sc wId .flush = some s' ∧ s'.pendingRemoteMoves = ∅ ∧
      Coalesced W wId base (past ++ [.flush]) rep s' shown' := by
  have hwait : ∀ row ∈ s.pendingRemoteMoves.entries, _ := fun row hrow =>
    h.waiting row.1 row.2 (Table.lookup_of_mem hrow)
  have hrows : ∀ row ∈ s.pendingRemoteMoves.entries, row.2.eId = row.1 ∧
      W.Publishes wId row.2 ∧ (Passed s.replica row.2 ∨ Ready shown row.2) := by
    intro row hrow
    obtain ⟨hid, _, ⟨hpub, _⟩, hready⟩ := hwait row hrow
    exact ⟨hid, hpub, hready⟩
  obtain ⟨s', hrun, hshows, hwater, hpending⟩ := flush_rows (s := { s with pendingRemoteMoves := ∅ })
    hb s.pendingRemoteMoves.nodupKeys h.shows hrows
  have htold : ∀ x, (shown x ∨ ∃ row ∈ s.pendingRemoteMoves.entries, row.2 = x) →
      W.Told wId past x := by
    rintro x (hx | ⟨row, hrow, rfl⟩)
    · exact h.told x hx
    · obtain ⟨_, _, ⟨hpub, hin⟩, _⟩ := hwait row hrow
      exact ⟨hpub, .inl hin⟩
  refine ⟨s', fun x => shown x ∨ ∃ row ∈ s.pendingRemoteMoves.entries, row.2 = x, hrun, hpending,
    ?_⟩
  exact
    { now := h.now.congr fun x => told_flush
      shows := hshows
      told := fun x hx => told_flush.mpr (htold x hx)
      water := hwater.trans h.water
      heard := fun snap hin => h.heard snap (by simpa using hin)
      waiting := fun id m hm => by
        rw [hpending] at hm
        simp at hm
      covered := fun x hx => by
        rcases h.covered x (told_flush.mp hx) with ⟨y, hy, hrest⟩ | ⟨m, hm, hle⟩
        · exact .inl ⟨y, .inl hy, hrest⟩
        · have hrow := Table.mem_entries.mpr hm
          exact .inl ⟨m, .inr ⟨_, hrow, rfl⟩, (hwait _ hrow).1, hle⟩ }

end Flush

/-- When nothing waits, the service shows what the other replica shows. -/
theorem agree (h : Coalesced W wId base past rep s shown) (hnone : s.pendingRemoteMoves = ∅)
    (id : EntityId) : s.replica.findById id = rep.findById id := by
  have hcovered : ∀ x, W.Told wId past x →
      ∃ y, shown y ∧ y.eId = x.eId ∧ x.ownerSeq ≤ y.ownerSeq := by
    intro x hx
    refine (h.covered x hx).resolve_right ?_
    rintro ⟨m, hm, _⟩
    rw [hnone] at hm
    simp at hm
  unfold AoiReplica.findById
  by_cases hany : ∃ x, W.Told wId past x ∧ x.eId = id
  · obtain ⟨x, hx, rfl⟩ := hany
    obtain ⟨l, hl, hlid⟩ := h.now.exists_last hx
    obtain ⟨y, hy, hyid, hle⟩ := hcovered l hl.1
    -- the last event told is itself shown
    have heq : y = l := by
      have hle' := hl.2 y (h.told y hy) hyid
      exact (h.told y hy).1.unique hl.1.1 hyid (Nat.le_antisymm hle' hle)
    subst heq
    rw [← hlid, h.now.last y hl]
    exact h.shows.last y ⟨hy, fun z hz hzid => hl.2 z (h.told z hz) hzid⟩
  · rw [h.now.unknown id fun x hx hid => hany ⟨x, hx, hid⟩]
    exact h.shows.unknown id fun x hx hid => hany ⟨x, h.told x hx, hid⟩

end Coalesced

/-- One arrival, whatever it is. -/
theorem coalesced_step (hb : Unheard W wId base) (h : Coalesced W wId base past rep s shown)
    {a : Arrival} (ha : W.InOrder wId past a) :
    ∃ s' r' shown', s.receive sc wId a = some s' ∧
      AoiReplica.receive sc wId (rep, dirty) a = some r' ∧
      Coalesced W wId base (past ++ [a]) r'.1 s' shown' := by
  cases a with
  | event ev =>
    by_cases hk : ev.msgKind = .move
    · obtain ⟨s', r', hs, hr, hnext⟩ := h.move hb ha hk
      exact ⟨s', r', _, hs, hr, hnext⟩
    · obtain ⟨s', r', hs, hr, hnext⟩ := h.life hb ha hk
      exact ⟨s', r', _, hs, hr, hnext⟩
  | snapshot snap =>
    obtain ⟨s', r', hs, hr, hnext⟩ := h.snapshot hb ha.1 ha.2
    exact ⟨s', r', _, hs, hr, hnext⟩
  | flush =>
    obtain ⟨s', shown', hs, _, hnext⟩ := h.flush hb
    exact ⟨s', (rep, dirty), shown', hs, rfl, hnext⟩

theorem coalesced_run {s₀ : AoiService} (hb : Unheard W wId s₀.replica)
    (hnone : s₀.pendingRemoteMoves = ∅) {arrivals : List Arrival}
    (h : History.Lawful (W.InOrder wId) arrivals) :
    ∃ s r shown, Run.exec (AoiService.receive sc wId) s₀ arrivals = some s ∧
      Run.exec (AoiReplica.receive sc wId) (s₀.replica, s₀.dirtyObservers) arrivals = some r ∧
      Coalesced W wId s₀.replica arrivals r.1 s shown := by
  refine h.induction (fun past => ∃ s r shown,
    Run.exec (AoiService.receive sc wId) s₀ past = some s ∧
      Run.exec (AoiReplica.receive sc wId) (s₀.replica, s₀.dirtyObservers) past = some r ∧
      Coalesced W wId s₀.replica past r.1 s shown) ?_ ?_
  · exact ⟨s₀, _, _, rfl, rfl, .start hb hnone⟩
  · rintro past a _ ha ⟨s, ⟨rep, dirty⟩, shown, hs, hr, hco⟩
    obtain ⟨s', r', shown', hs', hr', hnext⟩ := coalesced_step hb hco ha
    exact ⟨s', r', shown', Run.exec_snoc hs hs', Run.exec_snoc hr hr', hnext⟩

/-- After each flush the service has the entity table of a replica that has applied every event
and every snapshot as it arrived. -/
theorem flush_agrees {s₀ : AoiService} (hb : Unheard W wId s₀.replica)
    (hnone : s₀.pendingRemoteMoves = ∅) {arrivals : List Arrival}
    (h : History.Lawful (W.InOrder wId) arrivals) (pre post : List Arrival)
    (hflush : arrivals = pre ++ .flush :: post) :
    ∃ s r, Run.exec (AoiService.receive sc wId) s₀ (pre ++ [.flush]) = some s ∧
      Run.exec (AoiReplica.receive sc wId) (s₀.replica, s₀.dirtyObservers) (pre ++ [.flush]) =
        some r ∧
      ∀ id, s.replica.findById id = r.1.findById id := by
  have hpre : History.Lawful (W.InOrder wId) pre := by
    rw [hflush] at h
    exact h.of_append
  obtain ⟨s, r, shown, hs, hr, hco⟩ := coalesced_run hb hnone hpre
  obtain ⟨s', shown', hs', hempty, hnext⟩ := hco.flush hb
  exact ⟨s', r, Run.exec_snoc hs hs', Run.exec_snoc hr rfl, hnext.agree hempty⟩

/-- The `seq`-th event of a player of worker 1 who walks along. -/
def walkEvent (kind : AoiMsgKind) (seq : Nat) : AoiEvent where
  msgKind := kind
  entityKind := .player
  eId := 4294967297
  businessId := 7
  target_x := 5 * seq
  target_y := 5
  target_dir := 0
  entityGeneration := 1
  actorEpoch := 1
  spatialVersion := seq
  ownerThreadId := 1
  ownerSeq := seq

/-- The player enters and makes two moves. -/
def walk : Streams smallScene :=
  .ofEvents [walkEvent .entry 1, walkEvent .move 2, walkEvent .move 3]
    (by
      intro ev hev
      simp only [List.mem_cons, List.not_mem_nil, or_false] at hev
      rcases hev with rfl | rfl | rfl
      all_goals exact ⟨by decide, by decide, by decide, fun _ => by decide⟩)
    (by
      simp only [AoiEvent.Precedes]
      decide)

/-- The state after the first event, as worker 1 tells it. -/
def walkSnapshot : AoiOwnerSnapshot where
  seq := 1
  ownerWorkerId := 1
  ents := [updateEntity (walkEvent .entry 1) 0]

/-- Between the two moves comes a snapshot that is older than both. -/
def walkArrivals : List Arrival :=
  [.event (walkEvent .entry 1), .event (walkEvent .move 2), .snapshot walkSnapshot,
    .event (walkEvent .move 3)]

theorem walkSnapshot_of_walk : (walk.of 1).Snapshot walkSnapshot where
  owner := rfl
  nodup := by decide
  ents := fun id e => by
    have hstate : (walk.of 1).stateAt 1 4294967297 = some (updateEntity (walkEvent .entry 1) 0) := by
      decide
    by_cases hid : id = 4294967297
    · subst hid
      constructor
      · intro h
        cases hstate.symm.trans h
        exact ⟨_, List.mem_cons_self, rfl, by decide⟩
      · rintro ⟨ent, hent, _, rfl⟩
        cases List.mem_singleton.mp hent
        exact hstate
    · constructor
      · intro h
        obtain ⟨ev, hev, hevid, _⟩ := OwnerStream.stateAt_some h
        have heq : ev.eId = 4294967297 := by
          have hall : ∀ x ∈ (walk.of 1).events, x.eId = 4294967297 := by decide
          exact hall ev hev
        exact absurd (hevid.symm.trans heq) hid
      · rintro ⟨ent, hent, hentid, _⟩
        cases List.mem_singleton.mp hent
        exact absurd hentid.symm hid

theorem walkArrivals_inOrder : History.Lawful (walk.InOrder 0) (walkArrivals ++ [.flush]) := by
  have hentry : walk.Publishes 0 (walkEvent .entry 1) := ⟨by decide, by decide⟩
  refine ((((History.lawful_nil.append ?_).append ?_).append ?_).append ?_).append trivial
  · exact ⟨hentry, fun x hx => by simp at hx, fun hk => by cases hk⟩
  · refine ⟨⟨by decide, by decide⟩, fun x hx _ => ?_, fun _ =>
      ⟨walkEvent .entry 1, ⟨hentry, .inl (by simp)⟩, rfl, rfl, rfl⟩⟩
    simp only [List.nil_append, List.mem_singleton, Arrival.event.injEq] at hx
    subst hx
    decide
  · exact ⟨by decide, walkSnapshot_of_walk⟩
  · refine ⟨⟨by decide, by decide⟩, fun x hx _ => ?_, fun _ =>
      ⟨walkEvent .entry 1, ⟨hentry, .inl (by simp)⟩, rfl, rfl, rfl⟩⟩
    simp only [List.nil_append, List.cons_append, List.mem_cons, Arrival.event.injEq, reduceCtorEq,
      List.not_mem_nil, or_false] at hx
    rcases hx with rfl | rfl | hx
    · decide
    · decide

/-- The flush after a snapshot older than the waiting MOVE shows the last position. -/
theorem flush_agrees_walk :
    ∃ s r, Run.exec (AoiService.receive smallScene 0) {} (walkArrivals ++ [.flush]) = some s ∧
      Run.exec (AoiReplica.receive smallScene 0) ({}, ∅) (walkArrivals ++ [.flush]) = some r ∧
      (s.replica.findById 4294967297 = r.1.findById 4294967297 ∧
        (r.1.findById 4294967297).map (·.x) = some 15) := by
  have hunheard : Unheard walk 0 ({} : AoiService).replica :=
    { agree := agree_empty
      owner := fun id e he => by simp at he
      ents := fun ev _ => by simp
      tombs := fun ev _ => by simp
      water := fun o _ => by simp }
  obtain ⟨s, r, hs, hr, hsame⟩ := flush_agrees hunheard rfl walkArrivals_inOrder walkArrivals [] rfl
  refine ⟨s, r, hs, hr, hsame _, ?_⟩
  have hx : ((Run.exec (AoiReplica.receive smallScene 0) ({}, ∅) (walkArrivals ++ [.flush])).bind
      fun r => (r.1.findById 4294967297).map (·.x)) = some 15 := by
    decide +kernel
  rw [hr] at hx
  exact hx

end Aoi
