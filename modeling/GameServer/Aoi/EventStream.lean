import GameServer.Aoi.SnapshotSpec

/-!
# Streams of remote events

All that an owner ever publishes, in the order of its numbers, and the states
between two events that its snapshots describe. A replica knows some of the
events, directly or through a snapshot, and shows of every entity the last event
it knows.
-/

namespace Aoi

open AoiReplica

/-- The order of two events of one entity: a generation never comes back, within one the version
grows and the identity stays, and a LEAVE is its end. -/
def AoiEvent.Precedes (a b : AoiEvent) : Prop :=
  a.entityGeneration < b.entityGeneration ∨
    (a.entityGeneration = b.entityGeneration ∧ a.spatialVersion < b.spatialVersion ∧
      a.msgKind ≠ .leave ∧ a.entityKind = b.entityKind ∧ a.businessId = b.businessId)

/-- The event on its own is in order. -/
structure AoiEvent.WellFormed (sc : Scene) (ev : AoiEvent) : Prop where
  kind : ev.msgKind ≠ .invalid
  eId_ne : ev.eId ≠ 0
  entityKind : validEntityKind ev.entityKind = true
  target : ev.msgKind ≠ .leave → ev.target_x < sc.map.length ∧ ev.target_y < sc.map.width

/-- All that one owner publishes, in the order of `ownerSeq`. -/
structure OwnerStream (sc : Scene) (o : WorkerId) where
  events : List AoiEvent
  owner : ∀ ev ∈ events, ev.ownerThreadId = o
  wellFormed : ∀ ev ∈ events, ev.WellFormed sc
  ordered : events.Pairwise fun a b => a.ownerSeq < b.ownerSeq ∧ (a.eId = b.eId → a.Precedes b)

/-- The streams of all owners. An entity never changes its owner. -/
structure Streams (sc : Scene) where
  of : ∀ o, OwnerStream sc o
  apart : ∀ o p a b, a ∈ (of o).events → b ∈ (of p).events → a.eId = b.eId → o = p

/-- The streams in one list of events, whoever has published them. -/
def Streams.ofEvents {sc : Scene} (events : List AoiEvent)
    (wellFormed : ∀ ev ∈ events, ev.WellFormed sc)
    (ordered : events.Pairwise fun a b => (a.eId = b.eId → a.ownerThreadId = b.ownerThreadId) ∧
      (a.ownerThreadId = b.ownerThreadId →
        a.ownerSeq < b.ownerSeq ∧ (a.eId = b.eId → a.Precedes b))) : Streams sc where
  of o :=
    { events := events.filter (·.ownerThreadId = o)
      owner := fun ev hev => by simpa using (List.mem_filter.mp hev).2
      wellFormed := fun ev hev => wellFormed ev (List.mem_filter.mp hev).1
      ordered := by
        refine (List.pairwise_filter.mpr (ordered.imp ?_))
        rintro a b ⟨_, hboth⟩ ha hb
        simp only [decide_eq_true_eq] at ha hb
        exact hboth (ha.trans hb.symm) }
  apart o p a b ha hb hid := by
    obtain ⟨ha', hao⟩ := List.mem_filter.mp ha
    obtain ⟨hb', hbp⟩ := List.mem_filter.mp hb
    have hsame : a.ownerThreadId = b.ownerThreadId := by
      obtain ⟨i, hi, rfl⟩ := List.getElem_of_mem ha'
      obtain ⟨j, hj, rfl⟩ := List.getElem_of_mem hb'
      have hpair := List.pairwise_iff_getElem.mp ordered
      rcases Nat.lt_trichotomy i j with hlt | rfl | hgt
      · exact (hpair i j hi hj hlt).1 hid
      · rfl
      · exact ((hpair j i hj hi hgt).1 hid.symm).symm
    exact (of_decide_eq_true hao).symm.trans (hsame.trans (of_decide_eq_true hbp))

/-- The entry of an event's entity after the event. -/
def entityAfter (sc : Scene) (ev : AoiEvent) : Option AoiEntity :=
  after ev ((sc.grid.tryCellOf ev.target_x ev.target_y).getD 0)

variable {sc : Scene} {wId o : WorkerId}

/-- Every point of the map has a cell. -/
theorem Scene.tryCellOf_some (sc : Scene) {x y : Nat} (hx : x < sc.map.length)
    (hy : y < sc.map.width) : ∃ c, sc.grid.tryCellOf x y = some c := by
  have hcols := lt_cellsAcross_mul sc.map.cellSize_pos hx
  have hrows := lt_cellsAcross_mul sc.map.cellSize_pos hy
  have hgrid := sc.grid.cellSize_pos
  have hgcols := sc.grid.cols_pos
  have hgrows := sc.grid.rows_pos
  unfold AoiGrid.tryCellOf
  rw [if_neg (by omega), if_neg ?_]
  · exact ⟨_, rfl⟩
  · simp only [Scene.grid, Map.getMinX, Map.getMinY, Map.getCols, Map.getRows, not_or, Nat.not_lt,
      Nat.not_le]
    omega

theorem AoiEvent.WellFormed.cell {ev : AoiEvent} (h : ev.WellFormed sc) (hk : ev.msgKind ≠ .leave) :
    ∃ c, sc.grid.tryCellOf ev.target_x ev.target_y = some c :=
  sc.tryCellOf_some (h.target hk).1 (h.target hk).2

theorem entityAfter_some {ev : AoiEvent} {e : AoiEntity} (h : entityAfter sc ev = some e) :
    ev.msgKind ≠ .leave ∧
      e = updateEntity ev ((sc.grid.tryCellOf ev.target_x ev.target_y).getD 0) := by
  unfold entityAfter after at h
  split at h
  · cases h
  · rename_i hk
    cases h
    exact ⟨hk, rfl⟩

theorem entityAfter_leave {ev : AoiEvent} (h : ev.msgKind = .leave) : entityAfter sc ev = none :=
  if_pos h

section Streams

variable (W : Streams sc) (wId)

/-- An event of another worker. -/
def Streams.Publishes (ev : AoiEvent) : Prop :=
  ev.ownerThreadId ≠ wId ∧ ev ∈ (W.of ev.ownerThreadId).events

variable {W wId}

theorem Streams.Publishes.wellFormed {ev : AoiEvent} (h : W.Publishes wId ev) :
    ev.WellFormed sc := (W.of _).wellFormed ev h.2

theorem Streams.publishes_of_mem (hne : o ≠ wId) {ev : AoiEvent} (h : ev ∈ (W.of o).events) :
    W.Publishes wId ev := by
  have howner := (W.of o).owner ev h
  exact ⟨howner ▸ hne, howner.symm ▸ h⟩

theorem Streams.Publishes.same_owner {a b : AoiEvent} (ha : W.Publishes wId a)
    (hb : W.Publishes wId b) (hid : a.eId = b.eId) : a.ownerThreadId = b.ownerThreadId :=
  W.apart _ _ a b ha.2 hb.2 hid

/-- Two events of one stream are one event, or one comes before the other. -/
theorem OwnerStream.order (st : OwnerStream sc o) {a b : AoiEvent} (ha : a ∈ st.events)
    (hb : b ∈ st.events) (hid : a.eId = b.eId) :
    a = b ∨ (a.ownerSeq < b.ownerSeq ∧ a.Precedes b) ∨
      (b.ownerSeq < a.ownerSeq ∧ b.Precedes a) := by
  obtain ⟨i, hi, rfl⟩ := List.getElem_of_mem ha
  obtain ⟨j, hj, rfl⟩ := List.getElem_of_mem hb
  have hpair := List.pairwise_iff_getElem.mp st.ordered
  rcases Nat.lt_trichotomy i j with hlt | rfl | hgt
  · obtain ⟨hseq, hprec⟩ := hpair i j hi hj hlt
    exact .inr (.inl ⟨hseq, hprec hid⟩)
  · exact .inl rfl
  · obtain ⟨hseq, hprec⟩ := hpair j i hj hi hgt
    exact .inr (.inr ⟨hseq, hprec hid.symm⟩)

theorem Streams.Publishes.precedes {a b : AoiEvent} (ha : W.Publishes wId a)
    (hb : W.Publishes wId b) (hid : a.eId = b.eId) (hseq : a.ownerSeq < b.ownerSeq) :
    a.Precedes b := by
  have hb' : b ∈ (W.of a.ownerThreadId).events := by
    rw [ha.same_owner hb hid]
    exact hb.2
  rcases (W.of _).order ha.2 hb' hid with rfl | ⟨_, hprec⟩ | ⟨hgt, _⟩
  · exact absurd hseq (Nat.lt_irrefl _)
  · exact hprec
  · omega

theorem Streams.Publishes.unique {a b : AoiEvent} (ha : W.Publishes wId a)
    (hb : W.Publishes wId b) (hid : a.eId = b.eId) (hseq : a.ownerSeq = b.ownerSeq) : a = b := by
  have hb' : b ∈ (W.of a.ownerThreadId).events := by
    rw [ha.same_owner hb hid]
    exact hb.2
  rcases (W.of _).order ha.2 hb' hid with heq | ⟨hlt, _⟩ | ⟨hgt, _⟩
  · exact heq
  · omega
  · omega

theorem AoiEvent.Precedes.generation_le {a b : AoiEvent} (h : a.Precedes b) :
    a.entityGeneration ≤ b.entityGeneration := by
  rcases h with hlt | ⟨heq, _⟩
  · exact Nat.le_of_lt hlt
  · exact Nat.le_of_eq heq

theorem Streams.Publishes.generation_le {a b : AoiEvent} (ha : W.Publishes wId a)
    (hb : W.Publishes wId b) (hid : a.eId = b.eId) (hseq : a.ownerSeq ≤ b.ownerSeq) :
    a.entityGeneration ≤ b.entityGeneration := by
  rcases Nat.lt_or_eq_of_le hseq with hlt | heq
  · exact (ha.precedes hb hid hlt).generation_le
  · rw [ha.unique hb hid heq]

end Streams

namespace OwnerStream

variable (st : OwnerStream sc o)

/-- The owner's entry for an entity after all events up to `seq`. -/
def stateAt (seq : Nat) (id : EntityId) : Option AoiEntity :=
  (st.events.reverse.find? fun ev => ev.eId = id ∧ ev.ownerSeq ≤ seq).bind (entityAfter sc)

/-- A snapshot lists the state after all events up to its number, each entity once. -/
structure Snapshot (snap : AoiOwnerSnapshot) : Prop where
  owner : snap.ownerWorkerId = o
  nodup : (snap.ents.map (·.entityId)).Nodup
  ents : ∀ id e, st.stateAt snap.seq id = some e ↔
    ∃ ent ∈ snap.ents, ent.entityId = id ∧ normalized sc.grid ent = e

variable {st}

theorem find_last {seq : Nat} {id : EntityId} {ev : AoiEvent}
    (h : (st.events.reverse.find? fun ev => ev.eId = id ∧ ev.ownerSeq ≤ seq) = some ev) :
    ev ∈ st.events ∧ ev.eId = id ∧ ev.ownerSeq ≤ seq ∧
      ∀ x ∈ st.events, x.eId = id → x.ownerSeq ≤ seq → x.ownerSeq ≤ ev.ownerSeq := by
  obtain ⟨hev, newer, older, hsplit, hnewer⟩ := List.find?_eq_some_iff_append.mp h
  simp only [Bool.decide_and, Bool.and_eq_true, decide_eq_true_eq] at hev
  have hmem : ∀ x, x ∈ st.events ↔ x ∈ newer ++ ev :: older := fun x => by
    rw [← hsplit, List.mem_reverse]
  have hpair := List.pairwise_reverse.mpr st.ordered
  rw [hsplit, List.pairwise_append, List.pairwise_cons] at hpair
  refine ⟨(hmem ev).mpr (by simp), hev.1, hev.2, fun x hx hid hseq => ?_⟩
  rcases List.mem_append.mp ((hmem x).mp hx) with hin | hin
  · have hnot := hnewer x hin
    simp [hid, hseq] at hnot
  · rcases List.mem_cons.mp hin with rfl | hold
    · exact Nat.le_refl _
    · exact Nat.le_of_lt (hpair.2.1.1 x hold).1

theorem stateAt_some {seq : Nat} {id : EntityId} {e : AoiEntity}
    (h : st.stateAt seq id = some e) :
    ∃ ev ∈ st.events, ev.eId = id ∧ ev.ownerSeq ≤ seq ∧ entityAfter sc ev = some e ∧
      ∀ x ∈ st.events, x.eId = id → x.ownerSeq ≤ seq → x.ownerSeq ≤ ev.ownerSeq := by
  obtain ⟨ev, hfind, hafter⟩ := Option.bind_eq_some_iff.mp h
  obtain ⟨hmem, hid, hle, hlast⟩ := find_last hfind
  exact ⟨ev, hmem, hid, hle, hafter, hlast⟩

theorem stateAt_none {seq : Nat} {id : EntityId}
    (h : ∀ x ∈ st.events, x.ownerSeq ≤ seq → x.eId ≠ id) : st.stateAt seq id = none := by
  cases hs : st.stateAt seq id with
  | none => rfl
  | some e =>
    obtain ⟨ev, hmem, hid, hle, _⟩ := stateAt_some hs
    exact absurd hid (h ev hmem hle)

theorem stateAt_last {seq : Nat} {ev : AoiEvent} (hmem : ev ∈ st.events) (hle : ev.ownerSeq ≤ seq)
    (hlast : ∀ x ∈ st.events, x.eId = ev.eId → x.ownerSeq ≤ seq → x.ownerSeq ≤ ev.ownerSeq) :
    st.stateAt seq ev.eId = entityAfter sc ev := by
  unfold stateAt
  cases hfind : st.events.reverse.find? fun x => x.eId = ev.eId ∧ x.ownerSeq ≤ seq with
  | none =>
    rw [List.find?_eq_none] at hfind
    have hnot := hfind ev (List.mem_reverse.mpr hmem)
    simp [hle] at hnot
  | some x =>
    obtain ⟨hx, hid, hxle, hxlast⟩ := find_last hfind
    rcases st.order hx hmem hid with rfl | ⟨hlt, _⟩ | ⟨hgt, _⟩
    · rfl
    · have := hxlast ev hmem rfl hle
      omega
    · have := hlast x hx hid hxle
      omega

theorem Snapshot.find {snap : AoiOwnerSnapshot} (h : st.Snapshot snap) (id : EntityId) :
    (snap.ents.find? (·.entityId = id)).map (normalized sc.grid) = st.stateAt snap.seq id := by
  cases hfind : snap.ents.find? (·.entityId = id) with
  | some ent =>
    have hid : ent.entityId = id := by simpa using List.find?_some hfind
    exact ((h.ents id _).mpr ⟨ent, List.mem_of_find?_eq_some hfind, hid, rfl⟩).symm
  | none =>
    cases hs : st.stateAt snap.seq id with
    | none => rfl
    | some e =>
      obtain ⟨ent, hent, hid, _⟩ := (h.ents id e).mp hs
      rw [List.find?_eq_none] at hfind
      exact absurd hid (by simpa using hfind ent hent)

end OwnerStream

end Aoi
