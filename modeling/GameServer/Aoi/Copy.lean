import GameServer.Aoi.Cluster

/-!
# A copy of an owner's entities

The history of one entity is a chain: each event is later than all before it in
the owner's numbering and in generation and version. A copy on another worker may
lag behind the owner, but everything it holds is a state of that chain, and it
never goes back.
-/

namespace Aoi

open AoiReplica

/-- The place of a state in the history of its entity. -/
structure Mark where
  generation : Nat
  version : Nat
  seq : Nat

def Mark.Before (a b : Mark) : Prop :=
  a.seq < b.seq ∧
    (a.generation < b.generation ∨ (a.generation = b.generation ∧ a.version < b.version))

theorem Mark.Before.trans {a b c : Mark} (hab : a.Before b) (hbc : b.Before c) : a.Before c := by
  unfold Mark.Before at *
  omega

def AoiEvent.mark (ev : AoiEvent) : Mark := ⟨ev.entityGeneration, ev.spatialVersion, ev.ownerSeq⟩

def AoiEntity.mark (e : AoiEntity) : Mark := ⟨e.entityGeneration, e.spatialVersion, e.ownerSeq⟩

def Tombstone.mark (t : Tombstone) : Mark := ⟨t.generation, t.version, t.ownerSeq⟩

/-- The last that happened to an entity, as its owner knows it. -/
inductive Latest where
  | never
  | live (e : AoiEntity)
  | dead (t : Tombstone)

def AoiReplica.latest (rep : AoiReplica) (id : EntityId) : Latest :=
  match rep.ents.lookup id, rep.tombstones.lookup id with
  | some e, _ => .live e
  | none, some t => .dead t
  | none, none => .never

namespace Latest

/-- Nothing is before `never`. -/
def mark : Latest → Mark
  | never => ⟨0, 0, 0⟩
  | live e => e.mark
  | dead t => t.mark

/-- The event is the last one. -/
def Is (l : Latest) (ev : AoiEvent) : Prop :=
  match l with
  | never => False
  | live e => ev.msgKind ≠ .leave ∧ updateEntity ev e.cellIdx = e
  | dead t => ev.msgKind = .leave ∧ initTombstone ev = t

/-- The event is the last one or an earlier one; a LEAVE ends its generation. -/
def Seen (l : Latest) (ev : AoiEvent) : Prop :=
  l.Is ev ∨ (ev.mark.Before l.mark ∧
    (ev.msgKind = .leave → ev.entityGeneration < l.mark.generation))

/-- The copy shows what the owner has. -/
def Reflected (l : Latest) (rep : AoiReplica) (o : WorkerId) (id : EntityId) : Prop :=
  match l with
  | never => rep.ents.lookup id = none
  | live e => rep.ents.lookup id = some e
  | dead t => rep.ents.lookup id = none ∧ (rep.tombstones.lookup id = some t ∨
      ∃ water, rep.ownerSnapshotSeq.lookup o = some water ∧ t.ownerSeq ≤ water)

theorem Is.mark_eq {l : Latest} {ev : AoiEvent} (h : l.Is ev) : ev.mark = l.mark := by
  cases l with
  | never => cases h
  | live e =>
    rw [mark, ← h.2]
    rfl
  | dead t =>
    rw [mark, ← h.2]
    rfl

theorem Seen.le {l : Latest} {ev : AoiEvent} (h : l.Seen ev) :
    ev.ownerSeq ≤ l.mark.seq ∧
      (ev.entityGeneration < l.mark.generation ∨
        (ev.entityGeneration = l.mark.generation ∧ ev.spatialVersion ≤ l.mark.version)) := by
  rcases h with h | ⟨⟨hseq, hstamp⟩, _⟩
  · rw [← h.mark_eq]
    exact ⟨Nat.le_refl _, .inr ⟨rfl, Nat.le_refl _⟩⟩
  · simp only [AoiEvent.mark] at hseq hstamp
    omega

end Latest

/-- The player whose entity it is. -/
def Avatar (s : AoiService) (id : EntityId) (pid : Nat) : Prop :=
  ∃ i, s.identities.lookup pid = some i ∧ i.id = id

theorem Avatar.mono {s s' : AoiService} (hids : IdsKept s s') {id : EntityId} {pid : Nat}
    (h : Avatar s id pid) : Avatar s' id pid := by
  obtain ⟨i, hi, rfl⟩ := h
  obtain ⟨i', hi', hid⟩ := hids pid i hi
  exact ⟨i', hi', hid⟩

/-- An event as the owner `o` with state `s` has produced it. -/
structure Genuine (sc : Scene) (o : WorkerId) (s : AoiService) (ev : AoiEvent) : Prop where
  owner : ev.ownerThreadId = o
  id : ownerOf ev.eId = o
  id_ne : ev.eId ≠ 0
  kind : ev.msgKind ≠ .invalid
  player : ev.entityKind = .player
  avatar : Avatar s ev.eId ev.businessId
  bounds : ev.msgKind ≠ .leave → ev.target_x < sc.map.length ∧ ev.target_y < sc.map.width
  cell : ev.msgKind ≠ .leave → ∃ c, sc.grid.tryCellOf ev.target_x ev.target_y = some c

theorem Genuine.mono {sc : Scene} {o : WorkerId} {s s' : AoiService} (hids : IdsKept s s')
    {ev : AoiEvent} (h : Genuine sc o s ev) : Genuine sc o s' ev :=
  { h with avatar := h.avatar.mono hids }

variable {sc : Scene} {o r : WorkerId} {s : AoiService} {rep rep' : AoiReplica}
  {dirty dirty' : Observers}

/-- The copy `rep` of the entities of `o` lags behind the owner, but is never wrong. -/
structure Copy (sc : Scene) (o : WorkerId) (s : AoiService) (rep : AoiReplica) : Prop where
  ents : ∀ id e, ownerOf id = o → rep.ents.lookup id = some e →
    e.kind = .player ∧ Avatar s id e.businessId ∧
      (s.replica.latest id = .live e ∨ e.mark.Before (s.replica.latest id).mark)
  tombs : ∀ id t, ownerOf id = o → rep.tombstones.lookup id = some t →
    t.ownerWorker = o ∧ (s.replica.latest id = .dead t ∨
      (t.mark.Before (s.replica.latest id).mark ∧
        t.generation < (s.replica.latest id).mark.generation))
  buried : ∀ id e t, ownerOf id = o → rep.ents.lookup id = some e →
    rep.tombstones.lookup id = some t → t.generation < e.entityGeneration
  water : ∀ water, rep.ownerSnapshotSeq.lookup o = some water → water ≤ s.ownerSeq ∧
    ∀ id, ownerOf id = o → (s.replica.latest id).mark.seq ≤ water →
      (s.replica.latest id).Reflected rep o id

/-- A live entity of the owner is in its cell. -/
theorem latest_live_cell (hb : Based sc o s) {id : EntityId} {e : AoiEntity}
    (h : s.replica.latest id = .live e) : sc.grid.tryCellOf e.x e.y = some e.cellIdx := by
  unfold AoiReplica.latest at h
  split at h
  · rename_i e' he
    cases h
    exact hb.owned.agree.cell id _ he
  · cases h
  · cases h

/-- A reflected entity refuses every event of its history. -/
theorem Latest.Seen.not_reflected {l : Latest} {ev : AoiEvent} {cellIdx : Nat}
    (hseen : l.Seen ev) (hacc : Accepted sc r rep ev .kRemote cellIdx)
    (howner : ev.ownerThreadId = o) : ¬ l.Reflected rep o ev.eId := by
  intro hrefl
  obtain ⟨hseq, hstamp⟩ := hseen.le
  cases l with
  | never =>
    rcases hseen with hseen | ⟨⟨hlt, _⟩, _⟩
    · exact hseen
    · exact Nat.not_lt_zero _ hlt
  | live e =>
    have hnewer := hacc.newer e hrefl
    simp only [mark, AoiEntity.mark] at hstamp
    omega
  | dead t =>
    simp only [mark, Tombstone.mark] at hseq hstamp
    rcases hrefl.2 with htomb | ⟨water, hwater, hle⟩
    · have holder := hacc.tombOlder t htomb
      omega
    · have hlt := hacc.water rfl water (howner ▸ hwater)
      omega

/-- The entity that a live owner has is the one its last event describes. -/
theorem Latest.Is.entity (hb : Based sc o s) {id : EntityId} {ev : AoiEvent} {e : AoiEntity}
    (hlive : s.replica.latest id = .live e) (his : (Latest.live e).Is ev) {cellIdx : Nat}
    (hcell : sc.grid.tryCellOf ev.target_x ev.target_y = some cellIdx) :
    updateEntity ev cellIdx = e := by
  have hown := latest_live_cell hb hlive
  have hx : e.x = ev.target_x := by rw [← his.2]; rfl
  have hy : e.y = ev.target_y := by rw [← his.2]; rfl
  rw [hx, hy, hcell] at hown
  rw [Option.some.inj hown]
  exact his.2

/-- An applied event, the last one or not, leaves a copy, and what was reflected stays so. -/
theorem Copy.applied (h : Copy sc o s rep) (hb : Based sc o s)
    (hagree : Agree sc.grid r rep.ents rep.cells) {ev : AoiEvent} (hev : Genuine sc o s ev)
    (hseen : (s.replica.latest ev.eId).Seen ev)
    (hrun : AoiReplica.apply sc r rep ev .kRemote dirty = some (.applied, rep', dirty')) :
    Copy sc o s rep' ∧
      (∀ id, ownerOf id = o → (s.replica.latest id).Reflected rep o id →
        (s.replica.latest id).Reflected rep' o id) ∧
      ((s.replica.latest ev.eId).Is ev → (s.replica.latest ev.eId).Reflected rep' o ev.eId) := by
  obtain ⟨cellIdx, hcheck, heff⟩ := apply_applied hagree hrun
  have hacc := check_ok hcheck
  have hents : ∀ id, rep'.ents.lookup id =
      if id = ev.eId then after ev cellIdx else rep.ents.lookup id := heff.updated.ents
  have htombs : ∀ id, rep'.tombstones.lookup id =
      if ev.msgKind = .leave ∧ id = ev.eId then some (initTombstone ev)
      else rep.tombstones.lookup id := by
    intro id
    rw [heff.tombs]
    by_cases hk : ev.msgKind = .leave <;> simp [hk]
  have hkeep : ∀ id, ownerOf id = o → (s.replica.latest id).Reflected rep o id →
      (s.replica.latest id).Reflected rep' o id := by
    intro id _ hrefl
    have hid : id ≠ ev.eId := by
      rintro rfl
      exact hseen.not_reflected hacc hev.owner hrefl
    have hsameEnt := (hents id).trans (if_neg hid)
    have hsameTomb := (htombs id).trans (if_neg fun hk => hid hk.2)
    cases hl : s.replica.latest id with
    | never =>
      rw [hl] at hrefl
      exact hsameEnt.trans hrefl
    | live e =>
      rw [hl] at hrefl
      exact hsameEnt.trans hrefl
    | dead t =>
      rw [hl] at hrefl
      refine ⟨hsameEnt.trans hrefl.1, ?_⟩
      rw [hsameTomb, heff.water]
      exact hrefl.2
  refine ⟨?_, hkeep, ?_⟩
  · exact
      { ents := fun id e hid he => by
          rw [hents] at he
          split at he
          · rename_i heq
            subst heq
            unfold after at he
            split at he
            · cases he
            rename_i hk
            cases he
            refine ⟨hev.player, hev.avatar, ?_⟩
            rcases hseen with his | ⟨hbefore, _⟩
            · cases hl : s.replica.latest ev.eId with
              | never => rw [hl] at his; exact his.elim
              | live e =>
                rw [hl] at his
                rw [Latest.Is.entity hb hl his (hacc.cell hk)]
                exact .inl rfl
              | dead t => rw [hl] at his; exact absurd his.1 hk
            · exact .inr hbefore
          · exact h.ents id e hid he
        tombs := fun id t hid ht => by
          rw [htombs] at ht
          split at ht
          · rename_i hk
            obtain ⟨hk, rfl⟩ := hk
            cases ht
            refine ⟨hev.owner, ?_⟩
            rcases hseen with his | ⟨hbefore, hgen⟩
            · cases hl : s.replica.latest ev.eId with
              | never => rw [hl] at his; exact his.elim
              | live e => rw [hl] at his; exact absurd hk his.1
              | dead t =>
                rw [hl] at his
                exact .inl (congrArg _ his.2.symm)
            · exact .inr ⟨hbefore, hgen hk⟩
          · exact h.tombs id t hid ht
        buried := fun id e t hid he ht => by
          rw [hents] at he
          rw [htombs] at ht
          by_cases heq : id = ev.eId
          · subst heq
            rw [if_pos rfl] at he
            unfold after at he
            split at he
            · cases he
            rename_i hk
            rw [if_neg fun hc => hk hc.1] at ht
            cases he
            exact hacc.tombOlder t ht
          · rw [if_neg heq] at he
            rw [if_neg fun hc => heq hc.2] at ht
            exact h.buried id e t hid he ht
        water := fun water hwater => by
          rw [heff.water] at hwater
          obtain ⟨hle, hall⟩ := h.water water hwater
          exact ⟨hle, fun id hid hseq => hkeep id hid (hall id hid hseq)⟩ }
  · intro his
    cases hl : s.replica.latest ev.eId with
    | never => rw [hl] at his; exact his.elim
    | live e =>
      rw [hl] at his
      refine (hents _).trans ?_
      rw [if_pos rfl, after_stay his.1, Latest.Is.entity hb hl his (hacc.cell his.1)]
    | dead t =>
      rw [hl] at his
      refine ⟨(hents _).trans ?_, .inl ((htombs _).trans ?_)⟩
      · rw [if_pos rfl, after_leave his.1]
      · rw [if_pos ⟨his.1, rfl⟩, his.2]

/-- An entity has one player. -/
theorem Avatar.unique (hb : Based sc o s) {id : EntityId} {p q : Nat} (hp : Avatar s id p)
    (hq : Avatar s id q) : p = q := by
  obtain ⟨i, hi, rfl⟩ := hp
  obtain ⟨j, hj, hji⟩ := hq
  exact hb.injective p q i j hi hj hji.symm

/-- A grave of the last generation is only dug over an empty place. -/
theorem Copy.empty_of_grave (h : Copy sc o s rep) {id : EntityId} (hid : ownerOf id = o)
    {t : Tombstone} (hl : s.replica.latest id = .dead t)
    (ht : rep.tombstones.lookup id = some t) : rep.ents.lookup id = none := by
  cases he : rep.ents.lookup id with
  | none => rfl
  | some e =>
    have hgen := h.buried id e t hid he ht
    rcases (h.ents id e hid he).2.2 with hlive | ⟨_, hstamp⟩
    · cases hl.symm.trans hlive
    · rw [hl] at hstamp
      simp only [Latest.mark, AoiEntity.mark, Tombstone.mark] at hstamp
      omega

theorem Copy.checkLife_ok (h : Copy sc o s rep) (hb : Based sc o s) (hr : Owned sc r rep)
    {ev : AoiEvent} (hev : Genuine sc o s ev) (his : (s.replica.latest ev.eId).Is ev)
    (hnot : ¬ (s.replica.latest ev.eId).Reflected rep o ev.eId) :
    checkLife (rep.ents.lookup ev.eId) (rep.tombstones.lookup ev.eId) ev = .ok () := by
  have hmark := his.mark_eq
  have hownEnt : ∀ e, rep.ents.lookup ev.eId = some e → e.ownerWorker = ev.ownerThreadId :=
    fun e he => (hr.owner _ e he).trans (hev.id.trans hev.owner.symm)
  have hownTomb : ∀ t, rep.tombstones.lookup ev.eId = some t → t.ownerWorker = ev.ownerThreadId :=
    fun t ht => (h.tombs _ t hev.id ht).1.trans hev.owner.symm
  have htomb : ∀ t, rep.tombstones.lookup ev.eId = some t → t.generation < ev.entityGeneration := by
    intro t ht
    rcases (h.tombs _ t hev.id ht).2 with hdead | ⟨_, hgen⟩
    · refine absurd ?_ hnot
      rw [hdead]
      exact ⟨h.empty_of_grave hev.id hdead ht, .inl ht⟩
    · rw [← hmark] at hgen
      exact hgen
  have hent : ∀ e, rep.ents.lookup ev.eId = some e →
      e.entityGeneration < ev.entityGeneration ∨
        (e.entityGeneration = ev.entityGeneration ∧ e.spatialVersion < ev.spatialVersion) := by
    intro e he
    rcases (h.ents _ e hev.id he).2.2 with hlive | ⟨_, hstamp⟩
    · refine absurd ?_ hnot
      rw [hlive]
      exact he
    · rw [← hmark] at hstamp
      exact hstamp
  have hident : ∀ e, rep.ents.lookup ev.eId = some e →
      ev.entityKind = e.kind ∧ ev.businessId = e.businessId := by
    intro e he
    obtain ⟨hkind, havatar, _⟩ := h.ents _ e hev.id he
    exact ⟨hev.player.trans hkind.symm, hev.avatar.unique hb havatar⟩
  unfold checkLife
  cases he : rep.ents.lookup ev.eId with
  | none =>
    cases ht : rep.tombstones.lookup ev.eId with
    | none => simp
    | some t =>
      have h1 := hownTomb t ht
      have h2 := htomb t ht
      simp [h1, h2]
  | some e =>
    have h1 := hownEnt e he
    have h2 := hent e he
    obtain ⟨h3, h4⟩ := hident e he
    have hnewer : ¬ (ev.entityGeneration < e.entityGeneration ∨
        (ev.entityGeneration = e.entityGeneration ∧ ev.spatialVersion ≤ e.spatialVersion)) := by
      omega
    cases ht : rep.tombstones.lookup ev.eId with
    | none => simp [h1, h3, h4, hnewer]
    | some t =>
      have h5 := hownTomb t ht
      have h6 := htomb t ht
      simp [h1, h3, h4, h5, h6, hnewer]

/-- The last event is refused only by a copy that reflects it, or for want of its entity. -/
theorem Copy.refused (h : Copy sc o s rep) (hb : Based sc o s) (hr : Owned sc r rep)
    (hne : o ≠ r) {ev : AoiEvent} (hev : Genuine sc o s ev)
    (his : (s.replica.latest ev.eId).Is ev) {res : ApplyResult}
    (hcheck : check sc r rep ev .kRemote = .error res) :
    (s.replica.latest ev.eId).Reflected rep o ev.eId ∨
      (res = .needSnapshot ∧ ev.msgKind = .move) := by
  by_cases hrefl : (s.replica.latest ev.eId).Reflected rep o ev.eId
  · exact .inl hrefl
  right
  have hmark := his.mark_eq
  have hsource : checkSource r rep ev .kRemote = .ok () := by
    unfold checkSource
    have howner : ev.ownerThreadId ≠ r := by rw [hev.owner]; exact hne
    have hvalid : validEntityKind ev.entityKind = true := by rw [hev.player]; rfl
    have hwater : ¬ (rep.ownerSnapshotSeq.lookup ev.ownerThreadId).any
        (fun water => ev.ownerSeq ≤ water) = true := by
      intro hany
      obtain ⟨water, hw, hle⟩ := (Option.any_eq_true _ _).mp hany
      rw [hev.owner] at hw
      refine hrefl ((h.water water hw).2 _ hev.id ?_)
      rw [← hmark]
      exact of_decide_eq_true hle
    simp [howner, hev.kind, hev.id_ne, hvalid, hwater]
  have hlife := h.checkLife_ok hb hr hev his hrefl
  unfold check at hcheck
  rw [hsource, hlife] at hcheck
  have htarget : checkTarget sc (rep.ents.lookup ev.eId) ev = .error res := hcheck
  unfold checkTarget at htarget
  split at htarget
  · cases htarget
  rename_i hk
  obtain ⟨hx, hy⟩ := hev.bounds hk
  rw [if_neg (by omega)] at htarget
  obtain ⟨c, hc⟩ := hev.cell hk
  simp only [hc] at htarget
  split at htarget
  · rename_i hmove
    cases htarget
    exact ⟨rfl, hmove.1⟩
  · cases htarget

/-- One event of the owner at the copy. -/
theorem Copy.apply (h : Copy sc o s rep) (hb : Based sc o s) (hr : Owned sc r rep)
    (hne : o ≠ r) {ev : AoiEvent} (hev : Genuine sc o s ev)
    (hseen : (s.replica.latest ev.eId).Seen ev) {res : ApplyResult}
    (hrun : AoiReplica.apply sc r rep ev .kRemote dirty = some (res, rep', dirty')) :
    Copy sc o s rep' ∧
      (∀ id, ownerOf id = o → (s.replica.latest id).Reflected rep o id →
        (s.replica.latest id).Reflected rep' o id) ∧
      ((s.replica.latest ev.eId).Is ev →
        (s.replica.latest ev.eId).Reflected rep' o ev.eId ∨
          (res = .needSnapshot ∧ ev.msgKind = .move)) := by
  by_cases hres : res = .applied
  · subst hres
    obtain ⟨hcopy, hkeep, hlast⟩ := h.applied hb hr.agree hev hseen hrun
    exact ⟨hcopy, hkeep, fun his => .inl (hlast his)⟩
  · obtain ⟨hsame, _⟩ := apply_unchanged hrun hres
    rw [hsame]
    refine ⟨h, fun _ _ hrefl => hrefl, fun his => ?_⟩
    unfold AoiReplica.apply at hrun
    cases hcheck : check sc r rep ev .kRemote with
    | error res' =>
      simp only [hcheck, Option.some.injEq, Prod.mk.injEq] at hrun
      exact h.refused hb hr hne hev his (hrun.1 ▸ hcheck)
    | ok cellIdx =>
      simp only [hcheck, Option.some.injEq, Prod.mk.injEq] at hrun
      exact absurd hrun.1.symm hres

/-- A snapshot that `o` has built, now or earlier. -/
structure SnapshotOf (sc : Scene) (o : WorkerId) (s : AoiService) (snap : AoiOwnerSnapshot) :
    Prop where
  owner : snap.ownerWorkerId = o
  seq : snap.seq ≤ s.ownerSeq
  ents : ∀ ent ∈ snap.ents, ownerOf ent.entityId = o ∧ ent.kind = .player ∧
    Avatar s ent.entityId ent.businessId ∧
    (s.replica.latest ent.entityId = .live (normalized sc.grid ent) ∨
      ent.mark.Before (s.replica.latest ent.entityId).mark)
  exact : ∀ ent ∈ snap.ents, (s.replica.latest ent.entityId).mark.seq ≤ snap.seq →
    s.replica.latest ent.entityId = .live (normalized sc.grid ent)
  complete : ∀ id e, ownerOf id = o → s.replica.latest id = .live e → e.ownerSeq ≤ snap.seq →
    ∃ ent ∈ snap.ents, ent.entityId = id

section Snapshot

variable {snap : AoiOwnerSnapshot} {incoming : Table EntityId AoiEntity}

theorem incoming_row (hcol : collect sc rep snap = .ok incoming) {id : EntityId} {e : AoiEntity}
    (he : incoming.lookup id = some e) :
    ∃ ent ∈ snap.ents, ent.entityId = id ∧ e = normalized sc.grid ent := by
  rw [(collect_ok hcol).2 id, Option.map_eq_some_iff] at he
  obtain ⟨ent, hfind, rfl⟩ := he
  exact ⟨ent, List.mem_of_find?_eq_some hfind, by simpa using List.find?_some hfind, rfl⟩

theorem incoming_of_mem (hcol : collect sc rep snap = .ok incoming) {ent : AoiEntity}
    (hent : ent ∈ snap.ents) : ∃ e, incoming.lookup ent.entityId = some e := by
  rw [(collect_ok hcol).2]
  cases hfind : snap.ents.find? (·.entityId = ent.entityId) with
  | none =>
    rw [List.find?_eq_none] at hfind
    simpa using hfind ent hent
  | some e => exact ⟨_, rfl⟩

/-- An up-to-date snapshot reflects everything it could know. -/
theorem Copy.reflected_of_snapshot (h : Copy sc o s rep) (hr : Owned sc r rep)
    (hsnap : SnapshotOf sc o s snap)
    (heff : SnapshotEffect sc r rep rep' snap incoming dirty dirty') {id : EntityId}
    (hid : ownerOf id = o) (hseq : (s.replica.latest id).mark.seq ≤ snap.seq) :
    (s.replica.latest id).Reflected rep' o id := by
  have hin : ∀ e, incoming.lookup id = some e → s.replica.latest id = .live e := by
    intro e he
    obtain ⟨ent, hent, rfl, rfl⟩ := incoming_row heff.collected he
    exact hsnap.exact ent hent hseq
  cases hl : s.replica.latest id with
  | never =>
    have hnone : incoming.lookup id = none := by
      cases he : incoming.lookup id with
      | none => rfl
      | some e => cases hl.symm.trans (hin e he)
    have hold : rep.ents.lookup id = none := by
      cases he : rep.ents.lookup id with
      | none => rfl
      | some e =>
        rcases (h.ents id e hid he).2.2 with hlive | ⟨hlt, _⟩
        · cases hl.symm.trans hlive
        · rw [hl] at hlt
          exact absurd hlt (Nat.not_lt_zero _)
    refine (heff.ents id).trans ?_
    simp [hnone, hold, kept]
  | live e =>
    rw [hl] at hseq
    obtain ⟨ent, hent, rfl⟩ := hsnap.complete id e hid hl hseq
    obtain ⟨e', he'⟩ := incoming_of_mem heff.collected hent
    cases hl.symm.trans (hin e' he')
    have hent : ∀ old, kept snap incoming (rep.ents.lookup ent.entityId) = some old →
        old.ownerSeq ≤ snap.seq := by
      intro old hkept
      have hold := (Option.filter_eq_some_iff.mp hkept).1
      rcases (h.ents _ old hid hold).2.2 with hlive | ⟨hlt, _⟩
      · cases hl.symm.trans hlive
        exact hseq
      · rw [hl] at hlt
        exact Nat.le_trans (Nat.le_of_lt hlt) hseq
    have htomb : ∀ t, rep.tombstones.lookup ent.entityId = some t → t.ownerSeq ≤ snap.seq := by
      intro t ht
      rcases (h.tombs _ t hid ht).2 with hdead | ⟨⟨hlt, _⟩, _⟩
      · cases hl.symm.trans hdead
      · rw [hl] at hlt
        exact Nat.le_trans (Nat.le_of_lt hlt) hseq
    have hnewer : newerThan snap.seq (kept snap incoming (rep.ents.lookup ent.entityId))
        (rep.tombstones.lookup ent.entityId) = false := by
      simp only [newerThan, Bool.or_eq_false_iff, Option.any_eq_false, decide_eq_false_iff_not,
        Nat.not_lt]
      exact ⟨hent, htomb⟩
    refine (heff.ents ent.entityId).trans ?_
    simp [he', hnewer]
  | dead t =>
    have hnone : incoming.lookup id = none := by
      cases he : incoming.lookup id with
      | none => rfl
      | some e => cases hl.symm.trans (hin e he)
    rw [hl] at hseq
    refine ⟨(heff.ents id).trans ?_, .inr ⟨snap.seq, ?_, hseq⟩⟩
    · simp only [hnone]
      cases he : rep.ents.lookup id with
      | none => rfl
      | some e =>
        have hlt : e.ownerSeq ≤ snap.seq := by
          rcases (h.ents id e hid he).2.2 with hlive | ⟨hlt, _⟩
          · cases hl.symm.trans hlive
          · rw [hl] at hlt
            exact Nat.le_trans (Nat.le_of_lt hlt) hseq
        have hkey : e.entityId = id := hr.agree.key id e he
        have hown : e.ownerWorker = snap.ownerWorkerId :=
          (hr.owner id e he).trans (hid.trans hsnap.owner.symm)
        have hgone : e.entityId ∉ incoming := by
          rw [hkey, ← AList.lookup_eq_none]
          exact hnone
        simp [kept, dropped, hown, hlt, hgone, Option.filter]
    · rw [heff.water, ← hsnap.owner]
      exact Table.lookup_insert_same _ _ _

/-- A snapshot never takes back what the copy already reflects. -/
theorem Copy.snapshot_keeps (h : Copy sc o s rep) (hr : Owned sc r rep)
    (hsnap : SnapshotOf sc o s snap)
    (heff : SnapshotEffect sc r rep rep' snap incoming dirty dirty') {id : EntityId}
    (hid : ownerOf id = o) (hrefl : (s.replica.latest id).Reflected rep o id) :
    (s.replica.latest id).Reflected rep' o id := by
  by_cases hseq : (s.replica.latest id).mark.seq ≤ snap.seq
  · exact h.reflected_of_snapshot hr hsnap heff hid hseq
  have hents := heff.ents id
  cases hl : s.replica.latest id with
  | never =>
    rw [hl] at hseq
    exact absurd (Nat.zero_le _) hseq
  | live e =>
    rw [hl] at hseq hrefl
    have he : rep.ents.lookup id = some e := hrefl
    have hnew : snap.seq < e.ownerSeq := Nat.lt_of_not_le hseq
    have hkept : kept snap incoming (rep.ents.lookup id) = some e := by
      have hle : ¬ e.ownerSeq ≤ snap.seq := hseq
      simp [he, kept, dropped, hle, Option.filter]
    rw [hkept] at hents
    refine hents.trans ?_
    cases incoming.lookup id with
    | none => rfl
    | some e' => simp [newerThan, hnew]
  | dead t =>
    rw [hl] at hseq hrefl
    obtain ⟨hnone, hgone⟩ := hrefl
    have hnew : snap.seq < t.ownerSeq := Nat.lt_of_not_le hseq
    have htomb : rep.tombstones.lookup id = some t := by
      rcases hgone with htomb | ⟨water, hwater, hle⟩
      · exact htomb
      · have hfresh := heff.fresh water (hsnap.owner.symm ▸ hwater)
        omega
    refine ⟨hents.trans ?_, .inl (by rw [heff.tombs]; exact htomb)⟩
    rw [hnone, htomb]
    cases incoming.lookup id with
    | none => rfl
    | some e' => simp [newerThan, hnew, kept]

/-- A snapshot leaves a copy. -/
theorem Copy.snapshot (h : Copy sc o s rep) (hr : Owned sc r rep)
    (hsnap : SnapshotOf sc o s snap)
    (heff : SnapshotEffect sc r rep rep' snap incoming dirty dirty') : Copy sc o s rep' where
  ents := fun id e hid he => by
    rcases heff.entry he with hold | hin
    · exact h.ents id e hid hold
    · obtain ⟨ent, hent, rfl, rfl⟩ := incoming_row heff.collected hin
      obtain ⟨_, hkind, havatar, hstate⟩ := hsnap.ents ent hent
      exact ⟨hkind, havatar, hstate⟩
  tombs := fun id t hid ht => by
    rw [heff.tombs] at ht
    exact h.tombs id t hid ht
  buried := fun id e t hid he ht => by
    rw [heff.tombs] at ht
    have hkept : ∀ old, kept snap incoming (rep.ents.lookup id) = some old →
        t.generation < old.entityGeneration := fun old hold =>
      h.buried id old t hid (Option.filter_eq_some_iff.mp hold).1 ht
    rw [heff.ents] at he
    split at he
    · exact hkept e he
    · rename_i new hin
      split at he
      · exact hkept e he
      · rename_i hnewer
        cases he
        obtain ⟨ent, hent, rfl, rfl⟩ := incoming_row heff.collected hin
        refine ((collect_ok heff.collected).1 ent hent).tombOlder t ht ?_
        simp only [newerThan, ht, Option.any_some, Bool.or_eq_true, decide_eq_true_eq,
          not_or, Nat.not_lt] at hnewer
        exact hnewer.2
  water := fun water hwater => by
    rw [heff.water, ← hsnap.owner, Table.lookup_insert_same] at hwater
    cases hwater
    exact ⟨hsnap.seq, fun id hid hseq => h.reflected_of_snapshot hr hsnap heff hid hseq⟩

end Snapshot

end Aoi
