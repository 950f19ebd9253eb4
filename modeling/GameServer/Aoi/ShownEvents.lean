import Mathlib.Data.Finset.Max
import GameServer.Aoi.EventStream

/-!
# What a replica shows of the streams

A replica that has taken up some events of the streams, each directly or with a
snapshot, shows of every entity the last of them. A later event and a snapshot of
the owner are both accepted and keep this.
-/

namespace Aoi

open AoiReplica

/-- The last of the known events of its entity. -/
def IsLast (known : AoiEvent → Prop) (ev : AoiEvent) : Prop :=
  known ev ∧ ∀ x, known x → x.eId = ev.eId → x.ownerSeq ≤ ev.ownerSeq

variable {sc : Scene} {W : Streams sc} {wId : WorkerId} {base rep rep' : AoiReplica}
  {known : AoiEvent → Prop} {ev : AoiEvent} {dirty dirty' : Observers}

/-- A replica that has entities of its own worker and has not heard of any other. -/
structure Unheard (W : Streams sc) (wId : WorkerId) (base : AoiReplica) : Prop where
  agree : Agree sc.grid wId base.ents base.cells
  owner : ∀ id e, base.ents.lookup id = some e → e.ownerWorker = wId
  ents : ∀ ev, W.Publishes wId ev → base.ents.lookup ev.eId = none
  tombs : ∀ ev, W.Publishes wId ev → base.tombstones.lookup ev.eId = none
  water : ∀ o, o ≠ wId → base.ownerSnapshotSeq.lookup o = none

/-- The replica shows of every entity the last known event, and of all others what it had at
first. -/
structure ShowsLast (W : Streams sc) (wId : WorkerId) (base : AoiReplica) (known : AoiEvent → Prop)
    (rep : AoiReplica) : Prop where
  agree : Agree sc.grid wId rep.ents rep.cells
  published : ∀ ev, known ev → W.Publishes wId ev
  last : ∀ ev, IsLast known ev → rep.ents.lookup ev.eId = entityAfter sc ev
  unknown : ∀ id, (∀ ev, known ev → ev.eId ≠ id) → rep.ents.lookup id = base.ents.lookup id
  tomb : ∀ id t, rep.tombstones.lookup id = some t → base.tombstones.lookup id = some t ∨
    ∃ ev, known ev ∧ ev.eId = id ∧ ev.msgKind = .leave ∧ initTombstone ev = t
  buried : ∀ ev, IsLast known ev → ev.msgKind = .leave →
    rep.tombstones.lookup ev.eId = some (initTombstone ev) ∨
      ∃ w, rep.ownerSnapshotSeq.lookup ev.ownerThreadId = some w ∧ ev.ownerSeq ≤ w
  water : ∀ o w, o ≠ wId → rep.ownerSnapshotSeq.lookup o = some w →
    ∀ ev ∈ (W.of o).events, ev.ownerSeq ≤ w → known ev

/-- A snapshot that the replica has applied covers the event. -/
def Passed (rep : AoiReplica) (ev : AoiEvent) : Prop :=
  ∃ w, rep.ownerSnapshotSeq.lookup ev.ownerThreadId = some w ∧ ev.ownerSeq ≤ w

/-- The event is later than all known ones of its entity; the life a MOVE goes on with is known. -/
def Ready (known : AoiEvent → Prop) (ev : AoiEvent) : Prop :=
  (∀ x, known x → x.eId = ev.eId → x.ownerSeq < ev.ownerSeq) ∧
    (ev.msgKind = .move →
      ∃ x, known x ∧ x.eId = ev.eId ∧ x.entityGeneration = ev.entityGeneration)

theorem Unheard.shows (h : Unheard W wId base) : ShowsLast W wId base (fun _ => False) base where
  agree := h.agree
  published := fun _ hf => hf.elim
  last := fun _ hlast => hlast.1.elim
  unknown := fun _ _ => rfl
  tomb := fun _ _ ht => .inl ht
  buried := fun _ hlast _ => hlast.1.elim
  water := fun o w hne hw => by
    rw [h.water o hne] at hw
    cases hw

namespace ShowsLast

/-- Only what is known matters, not how it is described. -/
theorem congr (h : ShowsLast W wId base known rep) {known' : AoiEvent → Prop}
    (hknown : ∀ x, known' x ↔ known x) : ShowsLast W wId base known' rep := by
  have heq : known' = known := funext fun x => propext (hknown x)
  rw [heq]
  exact h

/-- Of an entity of which something is known there is a last known event. -/
theorem exists_last (h : ShowsLast W wId base known rep) {x : AoiEvent} (hx : known x) :
    ∃ ev, IsLast known ev ∧ ev.eId = x.eId := by
  classical
  let rows := (W.of x.ownerThreadId).events.toFinset.filter fun y => known y ∧ y.eId = x.eId
  have hrows : ∀ y, known y → y.eId = x.eId → y ∈ rows := by
    intro y hy hid
    have hpub := h.published y hy
    have howner := hpub.same_owner (h.published x hx) hid
    simp only [rows, Finset.mem_filter, List.mem_toFinset]
    exact ⟨howner ▸ hpub.2, hy, hid⟩
  obtain ⟨ev, hev, hmax⟩ := rows.exists_max_image (·.ownerSeq) ⟨x, hrows x hx rfl⟩
  obtain ⟨_, hknown, hid⟩ := Finset.mem_filter.mp hev
  exact ⟨ev, ⟨hknown, fun y hy hyid => hmax y (hrows y hy (hyid.trans hid))⟩, hid⟩

/-- An entry of a published entity is what the last known event made. -/
theorem entry (h : ShowsLast W wId base known rep) (hb : Unheard W wId base)
    (hev : W.Publishes wId ev) {e : AoiEntity} (he : rep.ents.lookup ev.eId = some e) :
    ∃ x, IsLast known x ∧ x.eId = ev.eId ∧ entityAfter sc x = some e := by
  by_cases hany : ∃ x, known x ∧ x.eId = ev.eId
  · obtain ⟨x, hx, hid⟩ := hany
    obtain ⟨l, hl, hlid⟩ := h.exists_last hx
    refine ⟨l, hl, hlid.trans hid, ?_⟩
    rw [← h.last l hl, hlid, hid]
    exact he
  · have hnone := h.unknown ev.eId fun x hx hid => hany ⟨x, hx, hid⟩
    rw [hb.ents ev hev, he] at hnone
    cases hnone

theorem grave (h : ShowsLast W wId base known rep) (hb : Unheard W wId base)
    (hev : W.Publishes wId ev) {t : Tombstone} (ht : rep.tombstones.lookup ev.eId = some t) :
    ∃ x, known x ∧ x.eId = ev.eId ∧ x.msgKind = .leave ∧ initTombstone x = t := by
  rcases h.tomb _ t ht with hbase | hx
  · rw [hb.tombs ev hev] at hbase
    cases hbase
  · exact hx

theorem known_of_passed (h : ShowsLast W wId base known rep) (hev : W.Publishes wId ev)
    (hp : Passed rep ev) : known ev := by
  obtain ⟨w, hw, hle⟩ := hp
  exact h.water _ w hev.1 hw ev hev.2 hle

section Apply

/-- What a snapshot covers is ignored. -/
theorem apply_passed (hev : W.Publishes wId ev) (hp : Passed rep ev) :
    apply sc wId rep ev .kRemote dirty = some (.ignored, rep, dirty) := by
  obtain ⟨w, hw, hle⟩ := hp
  have hwell := hev.wellFormed
  have hsource : checkSource wId rep ev .kRemote = .error .ignored := by
    unfold checkSource
    simp [hev.1, hwell.kind, hwell.eId_ne, hwell.entityKind, hw, hle]
  unfold AoiReplica.apply check
  rw [hsource]
  rfl

theorem checkLife_ready (h : ShowsLast W wId base known rep) (hb : Unheard W wId base)
    (hev : W.Publishes wId ev) (hready : Ready known ev) :
    checkLife (rep.ents.lookup ev.eId) (rep.tombstones.lookup ev.eId) ev = .ok () := by
  have hold : ∀ e, rep.ents.lookup ev.eId = some e → e.ownerWorker = ev.ownerThreadId ∧
      ¬ (ev.entityGeneration < e.entityGeneration ∨
        (ev.entityGeneration = e.entityGeneration ∧ ev.spatialVersion ≤ e.spatialVersion)) ∧
      ¬ (ev.entityGeneration = e.entityGeneration ∧
        (ev.entityKind ≠ e.kind ∨ ev.businessId ≠ e.businessId)) := by
    intro e he
    obtain ⟨x, hx, hid, hafter⟩ := h.entry hb hev he
    have hpub := h.published x hx.1
    have hprec := hpub.precedes hev hid (hready.1 x hx.1 hid)
    obtain ⟨_, rfl⟩ := entityAfter_some hafter
    refine ⟨hpub.same_owner hev hid, ?_⟩
    rcases hprec with hlt | ⟨heq, hversion, _, hkind, hbusiness⟩
    · simp only [updateEntity]
      omega
    · simp only [updateEntity]
      refine ⟨by omega, fun hbad => ?_⟩
      rcases hbad.2 with hne | hne
      · exact hne hkind.symm
      · exact hne hbusiness.symm
  have htomb : ∀ t, rep.tombstones.lookup ev.eId = some t →
      t.ownerWorker = ev.ownerThreadId ∧ t.generation < ev.entityGeneration := by
    intro t ht
    obtain ⟨x, hx, hid, hleave, rfl⟩ := h.grave hb hev ht
    have hpub := h.published x hx
    refine ⟨hpub.same_owner hev hid, ?_⟩
    rcases hpub.precedes hev hid (hready.1 x hx hid) with hlt | ⟨_, _, hstay, _⟩
    · exact hlt
    · exact absurd hleave hstay
  unfold checkLife
  rw [if_neg, if_neg, if_neg, if_neg]
  · simp only [Option.any_eq_true, decide_eq_true_eq]
    rintro ⟨e, he, hbad⟩
    exact (hold e he).2.2 hbad
  · simp only [Option.any_eq_true, decide_eq_true_eq]
    rintro ⟨e, he, hbad⟩
    exact (hold e he).2.1 hbad
  · simp only [Option.any_eq_true, decide_eq_true_eq]
    rintro ⟨t, ht, hle⟩
    exact Nat.not_le_of_lt (htomb t ht).2 hle
  · simp only [Option.any_eq_true, decide_eq_true_eq]
    rintro (⟨e, he, hne⟩ | ⟨t, ht, hne⟩)
    · exact hne (hold e he).1
    · exact hne (htomb t ht).1

/-- The target cell is the one `entityAfter` speaks of. -/
theorem checkTarget_ready (h : ShowsLast W wId base known rep) (hev : W.Publishes wId ev)
    (hready : Ready known ev) :
    ∃ c, checkTarget sc (rep.ents.lookup ev.eId) ev = .ok c ∧ after ev c = entityAfter sc ev := by
  have hwell := hev.wellFormed
  unfold checkTarget
  by_cases hleave : ev.msgKind = .leave
  · rw [if_pos hleave]
    exact ⟨0, rfl, (after_leave hleave 0).trans (entityAfter_leave hleave).symm⟩
  rw [if_neg hleave]
  obtain ⟨hx, hy⟩ := hwell.target hleave
  obtain ⟨c, hc⟩ := hwell.cell hleave
  rw [if_neg (by omega)]
  simp only [hc]
  refine ⟨c, if_neg ?_, by simp [entityAfter, hc]⟩
  rintro ⟨hmove, hall⟩
  -- the last known event lies between the one that began the life and the MOVE
  obtain ⟨x, hx, hid, hgen⟩ := hready.2 hmove
  obtain ⟨l, hl, hlid⟩ := h.exists_last hx
  have hlpub := h.published l hl.1
  have hlid' : l.eId = ev.eId := hlid.trans hid
  have hseq := hready.1 l hl.1 hlid'
  have hge := (h.published x hx).generation_le hlpub hlid.symm (hl.2 x hx hlid.symm)
  have hprec := hlpub.precedes hev hlid' hseq
  have hle := hprec.generation_le
  have hstay : l.msgKind ≠ .leave := by
    rcases hprec with hlt | ⟨_, _, hstay, _⟩
    · omega
    · exact hstay
  have hlook := h.last l hl
  rw [hlid', entityAfter, after_stay hstay] at hlook
  rw [hlook] at hall
  simp only [Option.all_some, decide_eq_true_eq, updateEntity] at hall
  omega

/-- A later event is applied. -/
theorem check_ready (h : ShowsLast W wId base known rep) (hb : Unheard W wId base)
    (hev : W.Publishes wId ev) (hready : Ready known ev) (hp : ¬ Passed rep ev) :
    ∃ c, check sc wId rep ev .kRemote = .ok c ∧ after ev c = entityAfter sc ev := by
  have hwell := hev.wellFormed
  have hwater : ¬ (rep.ownerSnapshotSeq.lookup ev.ownerThreadId).any
      (fun water => ev.ownerSeq ≤ water) = true := by
    simp only [Option.any_eq_true, decide_eq_true_eq]
    exact hp
  have hsource : checkSource wId rep ev .kRemote = .ok () := by
    unfold checkSource
    simp [hev.1, hwell.kind, hwell.eId_ne, hwell.entityKind, hwater]
  obtain ⟨c, htarget, hafter⟩ := h.checkTarget_ready hev hready
  exact ⟨c, check_cases.mpr ⟨hsource, h.checkLife_ready hb hev hready, htarget⟩, hafter⟩

theorem isLast_or {x : AoiEvent} (hlast : IsLast (fun y => known y ∨ y = ev) x)
    (hready : Ready known ev) : x = ev ∨ (x.eId ≠ ev.eId ∧ IsLast known x) := by
  obtain ⟨hx | rfl, hmax⟩ := hlast
  · right
    refine ⟨fun hid => ?_, hx, fun y hy hyid => hmax y (.inl hy) hyid⟩
    have hle := hmax ev (.inr rfl) hid.symm
    have hlt := hready.1 x hx hid
    omega
  · exact .inl rfl

/-- The event that has been applied is known from then on. -/
theorem of_effect (h : ShowsLast W wId base known rep) (hev : W.Publishes wId ev)
    (hready : Ready known ev) {c : Nat} (hafter : after ev c = entityAfter sc ev)
    (heff : Effect sc wId rep rep' ev c dirty dirty') :
    ShowsLast W wId base (fun x => known x ∨ x = ev) rep' where
  agree := heff.updated.agree h.agree
  published := by
    rintro x (hx | rfl)
    · exact h.published x hx
    · exact hev
  last := fun x hlast => by
    refine (heff.updated.ents x.eId).trans ?_
    rcases isLast_or hlast hready with rfl | ⟨hid, hl⟩
    · rw [if_pos rfl, hafter]
    · rw [if_neg hid]
      exact h.last x hl
  unknown := fun id hnone => by
    refine (heff.updated.ents id).trans ?_
    rw [if_neg fun hid => hnone ev (.inr rfl) hid.symm]
    exact h.unknown id fun x hx => hnone x (.inl hx)
  tomb := fun id t ht => by
    have hold : rep.tombstones.lookup id = some t → base.tombstones.lookup id = some t ∨
        ∃ x, (known x ∨ x = ev) ∧ x.eId = id ∧ x.msgKind = .leave ∧ initTombstone x = t :=
      fun ht => (h.tomb id t ht).imp_right fun ⟨x, hx, hrest⟩ => ⟨x, .inl hx, hrest⟩
    rw [heff.tombs] at ht
    split at ht
    · rename_i hleave
      rw [Table.lookup_insert] at ht
      split at ht
      · rename_i hid
        cases ht
        exact .inr ⟨ev, .inr rfl, hid.symm, hleave, rfl⟩
      · exact hold ht
    · exact hold ht
  buried := fun x hlast hleave => by
    rw [heff.water, heff.tombs]
    rcases isLast_or hlast hready with rfl | ⟨hid, hl⟩
    · rw [if_pos hleave]
      exact .inl (Table.lookup_insert_same _ _ _)
    · refine (h.buried x hl hleave).imp_left fun ht => ?_
      split
      · rw [Table.lookup_insert, if_neg hid]
        exact ht
      · exact ht
  water := fun o w hne hw x hx hle => by
    rw [heff.water] at hw
    exact .inl (h.water o w hne hw x hx hle)

/-- One event at the replica: applied, or ignored because a snapshot covers it. -/
theorem apply (h : ShowsLast W wId base known rep) (hb : Unheard W wId base)
    (hev : W.Publishes wId ev) (hready : Passed rep ev ∨ Ready known ev) (dirty : Observers) :
    ∃ res rep' dirty', AoiReplica.apply sc wId rep ev .kRemote dirty = some (res, rep', dirty') ∧
      ShowsLast W wId base (fun x => known x ∨ x = ev) rep' ∧
      rep'.ownerSnapshotSeq = rep.ownerSnapshotSeq ∧ (¬ Passed rep ev → res = .applied) := by
  by_cases hp : Passed rep ev
  · refine ⟨_, _, _, apply_passed hev hp, h.congr fun x => ?_, rfl, fun hnp => absurd hp hnp⟩
    refine ⟨?_, .inl⟩
    rintro (hx | rfl)
    · exact hx
    · exact h.known_of_passed hev hp
  have hready := hready.resolve_left hp
  obtain ⟨c, hcheck, hafter⟩ := h.check_ready hb hev hready hp
  have hrun : AoiReplica.apply sc wId rep ev .kRemote dirty =
      some (.applied, processRemoteAoiMsg sc.grid rep ev c dirty) := by
    unfold AoiReplica.apply
    rw [hcheck]
  have heff := processRemote_effect h.agree (check_ok hcheck)
    (show processRemoteAoiMsg sc.grid rep ev c dirty = (_, _) from rfl)
  exact ⟨_, _, _, hrun, h.of_effect hev hready hafter heff, heff.water, fun _ => rfl⟩

end Apply

section Snapshot

variable {o : WorkerId} {snap : AoiOwnerSnapshot} {incoming : Table EntityId AoiEntity}

/-- What a snapshot covers. -/
def Covers (W : Streams sc) (snap : AoiOwnerSnapshot) (ev : AoiEvent) : Prop :=
  ev ∈ (W.of snap.ownerWorkerId).events ∧ ev.ownerSeq ≤ snap.seq

/-- Every entity of a snapshot passes the checks. -/
theorem listed (h : ShowsLast W wId base known rep) (hb : Unheard W wId base)
    (hne : snap.ownerWorkerId ≠ wId) (hsnap : (W.of snap.ownerWorkerId).Snapshot snap)
    {ent : AoiEntity} (hent : ent ∈ snap.ents) :
    Listed sc rep snap ent ∧ ent.x < sc.map.length ∧ ent.y < sc.map.width := by
  obtain ⟨ev, hmem, hid, hle, hafter, hlast⟩ :=
    OwnerStream.stateAt_some ((hsnap.ents _ _).mpr ⟨ent, hent, rfl, rfl⟩)
  obtain ⟨hstay, heq⟩ := entityAfter_some hafter
  have hev := W.publishes_of_mem hne hmem
  have hwell := hev.wellFormed
  have howner := (W.of _).owner ev hmem
  obtain ⟨hx, hy⟩ := hwell.target hstay
  simp only [normalized, updateEntity, AoiEntity.mk.injEq] at heq
  obtain ⟨hentId, hkind, hbusiness, hentX, hentY, _, _, hgen, _, hversion, hentOwner, hseq⟩ := heq
  -- another known event of the entity that the snapshot covers is not later
  have hbefore : ∀ x, known x → x.eId = ent.entityId → x.ownerSeq ≤ snap.seq →
      x = ev ∨ x.Precedes ev := by
    intro x hx hxid hxle
    have hpub := h.published x hx
    have hxo : x.ownerThreadId = snap.ownerWorkerId :=
      (hpub.same_owner hev (hxid.trans hid.symm)).trans howner
    have hxle' := hlast x (hxo ▸ hpub.2) hxid hxle
    rcases Nat.lt_or_eq_of_le hxle' with hlt | heq
    · exact .inr (hpub.precedes hev (hxid.trans hid.symm) hlt)
    · exact .inl (hpub.unique hev (hxid.trans hid.symm) heq)
  refine ⟨?_, hentX ▸ hx, hentY ▸ hy⟩
  exact
    { id_ne := hid ▸ hwell.eId_ne
      kind := hkind ▸ hwell.entityKind
      owner := hentOwner.trans howner
      seq := hseq ▸ hle
      cell := by
        rw [hentX, hentY]
        exact hwell.cell hstay
      oldOwner := fun e he => by
        obtain ⟨x, hx, hxid, hxafter⟩ := h.entry hb hev (hid.symm ▸ he)
        obtain ⟨_, rfl⟩ := entityAfter_some hxafter
        exact ((h.published x hx.1).same_owner hev hxid).trans howner
      tombOwner := fun t ht => by
        obtain ⟨x, hx, hxid, _, rfl⟩ := h.grave hb hev (hid.symm ▸ ht)
        exact ((h.published x hx).same_owner hev hxid).trans howner
      newer := fun e he hle => by
        obtain ⟨x, hx, hxid, hxafter⟩ := h.entry hb hev (hid.symm ▸ he)
        obtain ⟨_, rfl⟩ := entityAfter_some hxafter
        rw [hgen, hversion, hkind, hbusiness]
        rcases hbefore x hx.1 (hxid.trans hid) hle with rfl | hlt | ⟨heq, hver, _, hk, hbus⟩
        · exact .inr ⟨rfl, Nat.le_refl _, rfl, rfl⟩
        · exact .inl hlt
        · exact .inr ⟨heq, Nat.le_of_lt hver, hk, hbus⟩
      tombOlder := fun t ht hle => by
        obtain ⟨x, hx, hxid, hleave, rfl⟩ := h.grave hb hev (hid.symm ▸ ht)
        rw [hgen]
        rcases hbefore x hx (hxid.trans hid) hle with rfl | hlt | ⟨_, _, hxstay, _⟩
        · exact absurd hleave hstay
        · exact hlt
        · exact absurd hleave hxstay }

theorem incoming_stateAt (hsnap : (W.of snap.ownerWorkerId).Snapshot snap)
    (hcol : collect sc rep snap = .ok incoming) (id : EntityId) :
    incoming.lookup id = (W.of snap.ownerWorkerId).stateAt snap.seq id :=
  ((collect_ok hcol).2 id).trans (hsnap.find id)

/-- An entry goes only when the snapshot covers it. -/
theorem kept_some {e : AoiEntity} (hseq : snap.seq < e.ownerSeq) :
    kept snap incoming (some e) = some e := by
  have hle : ¬ e.ownerSeq ≤ snap.seq := Nat.not_le_of_lt hseq
  simp [kept, dropped, hle, Option.filter]

theorem kept_other {old : Option AoiEntity}
    (hother : ∀ e, old = some e → e.ownerWorker ≠ snap.ownerWorkerId) :
    kept snap incoming old = old := by
  cases old with
  | none => rfl
  | some e => simp [kept, dropped, hother e rfl, Option.filter]

/-- An entity of which the snapshot knows the last event. -/
theorem last_covered (h : ShowsLast W wId base known rep) (hb : Unheard W wId base)
    (hsnap : (W.of snap.ownerWorkerId).Snapshot snap)
    (heff : SnapshotEffect sc wId rep rep' snap incoming dirty dirty')
    (hlast : IsLast (fun x => known x ∨ Covers W snap x) ev) (hcov : Covers W snap ev) :
    rep'.ents.lookup ev.eId = entityAfter sc ev := by
  have hev := W.publishes_of_mem heff.owner_ne hcov.1
  have hin : incoming.lookup ev.eId = entityAfter sc ev := by
    rw [incoming_stateAt hsnap heff.collected]
    exact OwnerStream.stateAt_last hcov.1 hcov.2 fun x hx hid hle => hlast.2 x (.inr ⟨hx, hle⟩) hid
  have hold : ∀ e, rep.ents.lookup ev.eId = some e →
      e.ownerWorker = snap.ownerWorkerId ∧ e.entityId = ev.eId ∧ e.ownerSeq ≤ snap.seq := by
    intro e he
    obtain ⟨x, hx, hid, hafter⟩ := h.entry hb hev he
    obtain ⟨_, rfl⟩ := entityAfter_some hafter
    refine ⟨?_, hid, Nat.le_trans (hlast.2 x (.inl hx.1) hid) hcov.2⟩
    exact ((h.published x hx.1).same_owner hev hid).trans ((W.of _).owner ev hcov.1)
  have hgrave : ∀ t, rep.tombstones.lookup ev.eId = some t → t.ownerSeq ≤ snap.seq := by
    intro t ht
    obtain ⟨x, hx, hid, _, rfl⟩ := h.grave hb hev ht
    exact Nat.le_trans (hlast.2 x (.inl hx) hid) hcov.2
  rw [heff.ents, hin]
  cases hafter : entityAfter sc ev with
  | none =>
    cases he : rep.ents.lookup ev.eId with
    | none => rfl
    | some e =>
      obtain ⟨hown, hkey, hle⟩ := hold e he
      have hgone : e.entityId ∉ incoming := by
        rw [hkey, ← AList.lookup_eq_none]
        exact hin.trans hafter
      simp [kept, dropped, hown, hle, hgone, Option.filter]
  | some new =>
    have hnewer : newerThan snap.seq (kept snap incoming (rep.ents.lookup ev.eId))
        (rep.tombstones.lookup ev.eId) = false := by
      simp only [newerThan, Bool.or_eq_false_iff, Option.any_eq_false, decide_eq_false_iff_not,
        Nat.not_lt]
      exact ⟨fun e he => (hold e (Option.filter_eq_some_iff.mp he).1).2.2, hgrave⟩
    simp [hnewer]

/-- An entity of which the replica knows more than the snapshot. -/
theorem last_kept (h : ShowsLast W wId base known rep)
    (hsnap : (W.of snap.ownerWorkerId).Snapshot snap)
    (heff : SnapshotEffect sc wId rep rep' snap incoming dirty dirty') (hlast : IsLast known ev)
    (hnew : ev.ownerThreadId ≠ snap.ownerWorkerId ∨ snap.seq < ev.ownerSeq) :
    rep'.ents.lookup ev.eId = entityAfter sc ev := by
  have hev := h.published ev hlast.1
  rw [heff.ents, h.last ev hlast]
  cases hin : incoming.lookup ev.eId with
  | none =>
    cases hafter : entityAfter sc ev with
    | none => rfl
    | some e =>
      obtain ⟨_, rfl⟩ := entityAfter_some hafter
      rcases hnew with hother | hseq
      · exact kept_other fun e he => by
          cases he
          exact hother
      · exact kept_some hseq
  | some new =>
    rw [incoming_stateAt hsnap heff.collected] at hin
    obtain ⟨x, hx, hid, _⟩ := OwnerStream.stateAt_some hin
    have howner : ev.ownerThreadId = snap.ownerWorkerId := W.apart _ _ ev x hev.2 hx hid.symm
    have hseq := hnew.resolve_left fun hother => hother howner
    cases hafter : entityAfter sc ev with
    | some e =>
      have heseq : snap.seq < e.ownerSeq := by
        obtain ⟨_, rfl⟩ := entityAfter_some hafter
        exact hseq
      have hkept : kept snap incoming (some e) = some e := kept_some heseq
      simp [hkept, newerThan, heseq]
    | none =>
      -- the grave is younger than the snapshot
      have hleave : ev.msgKind = .leave := by
        by_contra hstay
        rw [entityAfter, after_stay hstay] at hafter
        cases hafter
      have htomb : rep.tombstones.lookup ev.eId = some (initTombstone ev) := by
        rcases h.buried ev hlast hleave with htomb | ⟨w, hw, hle⟩
        · exact htomb
        · have hfresh := heff.fresh w (howner ▸ hw)
          omega
      simp [htomb, newerThan, initTombstone, hseq, kept]

/-- What the snapshot covers is known from then on. -/
theorem of_snapshotEffect (h : ShowsLast W wId base known rep) (hb : Unheard W wId base)
    (hsnap : (W.of snap.ownerWorkerId).Snapshot snap)
    (heff : SnapshotEffect sc wId rep rep' snap incoming dirty dirty') :
    ShowsLast W wId base (fun x => known x ∨ Covers W snap x) rep' where
  agree := heff.agree
  published := by
    rintro x (hx | hx)
    · exact h.published x hx
    · exact W.publishes_of_mem heff.owner_ne hx.1
  last := fun x hlast => by
    by_cases hcov : Covers W snap x
    · exact h.last_covered hb hsnap heff hlast hcov
    · have hx := hlast.1.resolve_right hcov
      refine h.last_kept hsnap heff ⟨hx, fun y hy hid => hlast.2 y (.inl hy) hid⟩ ?_
      by_cases howner : x.ownerThreadId = snap.ownerWorkerId
      · refine .inr (Nat.lt_of_not_le fun hle => hcov ⟨?_, hle⟩)
        exact howner ▸ (h.published x hx).2
      · exact .inl howner
  unknown := fun id hnone => by
    have hin : incoming.lookup id = none := by
      rw [incoming_stateAt hsnap heff.collected]
      exact OwnerStream.stateAt_none fun x hx hle => hnone x (.inr ⟨hx, hle⟩)
    rw [heff.ents, hin, h.unknown id fun x hx => hnone x (.inl hx)]
    exact kept_other fun e he => by
      rw [hb.owner id e he]
      exact Ne.symm heff.owner_ne
  tomb := fun id t ht => by
    rw [heff.tombs] at ht
    exact (h.tomb id t ht).imp_right fun ⟨x, hx, hrest⟩ => ⟨x, .inl hx, hrest⟩
  buried := fun x hlast hleave => by
    rw [heff.tombs, heff.water]
    by_cases hcov : Covers W snap x
    · refine .inr ⟨snap.seq, ?_, hcov.2⟩
      rw [(W.of _).owner x hcov.1]
      exact Table.lookup_insert_same _ _ _
    · have hx := hlast.1.resolve_right hcov
      have hl : IsLast known x := ⟨hx, fun y hy hid => hlast.2 y (.inl hy) hid⟩
      refine (h.buried x hl hleave).imp_right fun ⟨w, hw, hle⟩ => ?_
      by_cases howner : x.ownerThreadId = snap.ownerWorkerId
      · have hfresh := heff.fresh w (howner ▸ hw)
        refine ⟨snap.seq, ?_, by omega⟩
        rw [howner]
        exact Table.lookup_insert_same _ _ _
      · exact ⟨w, by rw [Table.lookup_insert, if_neg howner]; exact hw, hle⟩
  water := fun o w hne hw x hx hle => by
    rw [heff.water, Table.lookup_insert] at hw
    split at hw
    · rename_i ho
      subst ho
      cases hw
      exact .inr ⟨hx, hle⟩
    · exact .inl (h.water o w hne hw x hx hle)

/-- A snapshot at the replica: applied, or ignored because a later one has been applied. -/
theorem snapshot (h : ShowsLast W wId base known rep) (hb : Unheard W wId base)
    (hne : snap.ownerWorkerId ≠ wId) (hsnap : (W.of snap.ownerWorkerId).Snapshot snap)
    {res : ApplyResult}
    (hrun : applyOwnerSnapshot sc wId rep snap dirty = (res, rep', dirty')) :
    ShowsLast W wId base (fun x => known x ∨ Covers W snap x) rep' ∧
      ((res = .applied ∧
          rep'.ownerSnapshotSeq = rep.ownerSnapshotSeq.insert snap.ownerWorkerId snap.seq ∧
          ∀ w, rep.ownerSnapshotSeq.lookup snap.ownerWorkerId = some w → w < snap.seq) ∨
        (res = .ignored ∧ rep' = rep ∧
          ∃ w, rep.ownerSnapshotSeq.lookup snap.ownerWorkerId = some w ∧ snap.seq ≤ w)) := by
  by_cases hres : res = .applied
  · subst hres
    obtain ⟨incoming, heff⟩ := applyOwnerSnapshot_applied h.agree hrun
    exact ⟨h.of_snapshotEffect hb hsnap heff, .inl ⟨rfl, heff.water, heff.fresh⟩⟩
  obtain ⟨incoming, hcol⟩ := collect_listed (fun ent hent => h.listed hb hne hsnap hent) hsnap.nodup
  unfold applyOwnerSnapshot at hrun
  rw [if_neg hne] at hrun
  split at hrun
  · rename_i hwater
    cases hrun
    obtain ⟨w, hw, hle⟩ := (Option.any_eq_true _ _).mp hwater
    have hle := of_decide_eq_true hle
    refine ⟨h.congr fun x => ⟨?_, .inl⟩, .inr ⟨rfl, rfl, w, hw, hle⟩⟩
    rintro (hx | hx)
    · exact hx
    · exact h.water _ w hne hw x hx.1 (Nat.le_trans hx.2 hle)
  · simp only [hcol, Prod.mk.injEq] at hrun
    exact absurd hrun.1.symm hres

end Snapshot

end ShowsLast

end Aoi
