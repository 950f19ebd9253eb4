import GameServer.Aoi.Copy

/-!
# From an owner to one other worker

Between an owner and a worker that copies it, the last event of every entity is
somewhere: the copy reflects it, or it is still on the way, or it is a MOVE that
waits for the flush, or the flush has dropped it and a snapshot is asked for.
-/

namespace Aoi

open AoiReplica

/-- What lies between an owner and the copy another worker keeps of it. -/
structure Channel where
  rep : AoiReplica
  moves : EntityId → Option AoiEvent
  need : Prop
  flies : AoiEvent → Prop
  sent : AoiOwnerSnapshot → Prop
  missed : AoiEvent → Prop

/-- Where the last event of an entity is. -/
inductive Status (o : WorkerId) (l : Latest) (ch : Channel) (id : EntityId) : Prop where
  | reflected (h : l.Reflected ch.rep o id)
  | flying (ev : AoiEvent) (h : ch.flies ev) (hid : ev.eId = id) (his : l.Is ev)
  | queued (ev : AoiEvent) (h : ch.moves id = some ev) (his : l.Is ev)
  | missed (hneed : ch.need) (ev : AoiEvent) (h : ch.missed ev) (howner : ev.ownerThreadId = o)
      (hseq : ev.ownerSeq = l.mark.seq)

structure Link (sc : Scene) (o : WorkerId) (s : AoiService) (ch : Channel) : Prop where
  copy : Copy sc o s ch.rep
  events : ∀ ev, ch.flies ev → Genuine sc o s ev ∧ (s.replica.latest ev.eId).Seen ev
  moves : ∀ id ev, ownerOf id = o → ch.moves id = some ev → ev.eId = id ∧ ev.msgKind = .move ∧
    Genuine sc o s ev ∧ (s.replica.latest ev.eId).Seen ev
  snaps : ∀ snap, ch.sent snap → SnapshotOf sc o s snap
  status : ∀ id, ownerOf id = o → Status o (s.replica.latest id) ch id
  caught : ∀ ev, ch.missed ev → ev.ownerThreadId = o → ch.need ∨
    ∃ water, ch.rep.ownerSnapshotSeq.lookup o = some water ∧ ev.ownerSeq ≤ water

variable {sc : Scene} {o r : WorkerId} {s s' : AoiService} {ch ch' : Channel}

/-- The owner went on: an entity whose last event changed got a later one. -/
structure Grown (o : WorkerId) (s s' : AoiService) : Prop where
  ids : IdsKept s s'
  seq : s.ownerSeq ≤ s'.ownerSeq
  latest : ∀ id, ownerOf id = o → s'.replica.latest id = s.replica.latest id ∨
    (s.ownerSeq < (s'.replica.latest id).mark.seq ∧
      (s.replica.latest id = .never ∨
        (s.replica.latest id).mark.Before (s'.replica.latest id).mark) ∧
      ∀ t, s.replica.latest id = .dead t → t.generation < (s'.replica.latest id).mark.generation)

section Grow

theorem Grown.before (h : Grown o s s') {id : EntityId} (hid : ownerOf id = o) {m : Mark}
    (hm : m.Before (s.replica.latest id).mark) : m.Before (s'.replica.latest id).mark := by
  rcases h.latest id hid with heq | ⟨_, hnever | hlater, _⟩
  · rw [heq]
    exact hm
  · rw [hnever] at hm
    exact absurd hm.1 (Nat.not_lt_zero _)
  · exact hm.trans hlater

/-- A generation that was over, or behind, stays so. -/
theorem Grown.generation_lt (h : Grown o s s') {id : EntityId} (hid : ownerOf id = o) {g : Nat}
    (hg : g < (s.replica.latest id).mark.generation) :
    g < (s'.replica.latest id).mark.generation := by
  rcases h.latest id hid with heq | ⟨_, hnever | ⟨_, hlater⟩, _⟩
  · rw [heq]
    exact hg
  · rw [hnever] at hg
    exact absurd hg (Nat.not_lt_zero _)
  · omega

theorem Grown.seen (h : Grown o s s') {ev : AoiEvent} (hid : ownerOf ev.eId = o)
    (hseen : (s.replica.latest ev.eId).Seen ev) : (s'.replica.latest ev.eId).Seen ev := by
  rcases hseen with his | ⟨hbefore, hgen⟩
  · rcases h.latest _ hid with heq | ⟨_, hnever | hlater, hdead⟩
    · rw [heq]
      exact .inl his
    · rw [hnever] at his
      exact his.elim
    · refine .inr ⟨his.mark_eq ▸ hlater, fun hk => ?_⟩
      cases hl : s.replica.latest ev.eId with
      | never => rw [hl] at his; exact his.elim
      | live e => rw [hl] at his; exact absurd hk his.1
      | dead t =>
        rw [hl] at his
        have hgen := hdead t hl
        rw [← his.2] at hgen
        exact hgen
  · exact .inr ⟨h.before hid hbefore, fun hk => h.generation_lt hid (hgen hk)⟩

theorem Grown.copy (h : Grown o s s') {rep : AoiReplica} (hc : Copy sc o s rep) :
    Copy sc o s' rep where
  ents := fun id e hid he => by
    obtain ⟨hkind, havatar, hstate⟩ := hc.ents id e hid he
    refine ⟨hkind, havatar.mono h.ids, ?_⟩
    rcases hstate with hlive | hbefore
    · rcases h.latest id hid with heq | ⟨_, hnever | hlater, _⟩
      · exact .inl (heq.trans hlive)
      · cases hnever.symm.trans hlive
      · rw [hlive] at hlater
        exact .inr hlater
    · exact .inr (h.before hid hbefore)
  tombs := fun id t hid ht => by
    obtain ⟨howner, hstate⟩ := hc.tombs id t hid ht
    refine ⟨howner, ?_⟩
    rcases hstate with hdead | ⟨hbefore, hgen⟩
    · rcases h.latest id hid with heq | ⟨_, hnever | hlater, hover⟩
      · exact .inl (heq.trans hdead)
      · cases hnever.symm.trans hdead
      · rw [hdead] at hlater
        exact .inr ⟨hlater, hover t hdead⟩
    · exact .inr ⟨h.before hid hbefore, h.generation_lt hid hgen⟩
  buried := hc.buried
  water := fun water hwater => by
    obtain ⟨hle, hall⟩ := hc.water water hwater
    refine ⟨Nat.le_trans hle h.seq, fun id hid hseq => ?_⟩
    rcases h.latest id hid with heq | ⟨hnew, _⟩
    · rw [heq] at hseq ⊢
      exact hall id hid hseq
    · omega

theorem Grown.snapshotOf (h : Grown o s s') {snap : AoiOwnerSnapshot}
    (hs : SnapshotOf sc o s snap) : SnapshotOf sc o s' snap where
  owner := hs.owner
  seq := Nat.le_trans hs.seq h.seq
  ents := fun ent hent => by
    obtain ⟨hid, hkind, havatar, hstate⟩ := hs.ents ent hent
    refine ⟨hid, hkind, havatar.mono h.ids, ?_⟩
    rcases hstate with hlive | hbefore
    · rcases h.latest _ hid with heq | ⟨_, hnever | hlater, _⟩
      · exact .inl (heq.trans hlive)
      · cases hnever.symm.trans hlive
      · rw [hlive] at hlater
        exact .inr hlater
    · exact .inr (h.before hid hbefore)
  exact := fun ent hent hseq => by
    have hle := hs.seq
    rcases h.latest _ (hs.ents ent hent).1 with heq | ⟨hnew, _⟩
    · rw [heq] at hseq ⊢
      exact hs.exact ent hent hseq
    · omega
  complete := fun id e hid hlive hseq => by
    have hle := hs.seq
    rcases h.latest id hid with heq | ⟨hnew, _⟩
    · exact hs.complete id e hid (heq.symm.trans hlive) hseq
    · rw [hlive] at hnew
      simp only [Latest.mark, AoiEntity.mark] at hnew
      omega

end Grow

/-- Two replicas that hold the same of the entities of `o`. -/
structure SameFor (o : WorkerId) (rep rep' : AoiReplica) : Prop where
  ents : ∀ id, ownerOf id = o → rep'.ents.lookup id = rep.ents.lookup id
  tombs : ∀ id, ownerOf id = o → rep'.tombstones.lookup id = rep.tombstones.lookup id
  water : rep'.ownerSnapshotSeq.lookup o = rep.ownerSnapshotSeq.lookup o

theorem SameFor.refl (o : WorkerId) (rep : AoiReplica) : SameFor o rep rep :=
  ⟨fun _ _ => rfl, fun _ _ => rfl, rfl⟩

theorem SameFor.trans {rep rep' rep'' : AoiReplica} (h : SameFor o rep rep')
    (h' : SameFor o rep' rep'') : SameFor o rep rep'' :=
  ⟨fun id hid => (h'.ents id hid).trans (h.ents id hid),
    fun id hid => (h'.tombs id hid).trans (h.tombs id hid), h'.water.trans h.water⟩

theorem SameFor.latest {rep rep' : AoiReplica} (h : SameFor o rep rep') {id : EntityId}
    (hid : ownerOf id = o) : rep'.latest id = rep.latest id := by
  unfold AoiReplica.latest
  rw [h.ents id hid, h.tombs id hid]

theorem SameFor.reflected {rep rep' : AoiReplica} (h : SameFor o rep rep') {id : EntityId}
    (hid : ownerOf id = o) {l : Latest} (hl : l.Reflected rep o id) : l.Reflected rep' o id := by
  cases l with
  | never => exact (h.ents id hid).trans hl
  | live e => exact (h.ents id hid).trans hl
  | dead t =>
    refine ⟨(h.ents id hid).trans hl.1, ?_⟩
    rw [h.tombs id hid, h.water]
    exact hl.2

theorem SameFor.copy {rep rep' : AoiReplica} (h : SameFor o rep rep') (hc : Copy sc o s rep) :
    Copy sc o s rep' where
  ents := fun id e hid he => hc.ents id e hid (h.ents id hid ▸ he)
  tombs := fun id t hid ht => hc.tombs id t hid (h.tombs id hid ▸ ht)
  buried := fun id e t hid he ht => hc.buried id e t hid (h.ents id hid ▸ he) (h.tombs id hid ▸ ht)
  water := fun water hwater => by
    rw [h.water] at hwater
    obtain ⟨hle, hall⟩ := hc.water water hwater
    exact ⟨hle, fun id hid hseq => h.reflected hid (hall id hid hseq)⟩

/-- A step that does not change the copy: the owner may go on, provided what is new flies. -/
theorem Link.frame (h : Link sc o s ch) (hgrown : Grown o s s') (hrep : SameFor o ch.rep ch'.rep)
    (hmoves : ∀ id, ownerOf id = o → ch'.moves id = ch.moves id) (hneed : ch.need → ch'.need)
    (hflies : ∀ ev, ch.flies ev → ch'.flies ev)
    (hevents : ∀ ev, ch'.flies ev → ch.flies ev ∨
      (Genuine sc o s' ev ∧ (s'.replica.latest ev.eId).Seen ev))
    (hnew : ∀ id, ownerOf id = o → s'.replica.latest id = s.replica.latest id ∨
      ∃ ev, ch'.flies ev ∧ ev.eId = id ∧ (s'.replica.latest id).Is ev)
    (hsent : ∀ snap, ch'.sent snap → ch.sent snap ∨ SnapshotOf sc o s' snap)
    (hmissed : ∀ ev, ev.ownerThreadId = o → (ch'.missed ev ↔ ch.missed ev)) :
    Link sc o s' ch' where
  copy := hrep.copy (hgrown.copy h.copy)
  events := fun ev hev => by
    rcases hevents ev hev with hold | hboth
    · obtain ⟨hgenuine, hseen⟩ := h.events ev hold
      exact ⟨hgenuine.mono hgrown.ids, hgrown.seen hgenuine.id hseen⟩
    · exact hboth
  moves := fun id ev hid hev => by
    rw [hmoves id hid] at hev
    obtain ⟨hkey, hk, hgenuine, hseen⟩ := h.moves id ev hid hev
    exact ⟨hkey, hk, hgenuine.mono hgrown.ids, hgrown.seen hgenuine.id hseen⟩
  snaps := fun snap hs => by
    rcases hsent snap hs with hold | hof
    · exact hgrown.snapshotOf (h.snaps snap hold)
    · exact hof
  status := fun id hid => by
    rcases hnew id hid with heq | ⟨ev, hfly, hkey, his⟩
    · rw [heq]
      cases h.status id hid with
      | reflected hr => exact .reflected (hrep.reflected hid hr)
      | flying ev hfly hkey his => exact .flying ev (hflies ev hfly) hkey his
      | queued ev hq his => exact .queued ev ((hmoves id hid).trans hq) his
      | missed hn ev hm howner hseq =>
        exact .missed (hneed hn) ev ((hmissed ev howner).mpr hm) howner hseq
    · exact .flying ev hfly hkey his
  caught := fun ev hm howner => by
    rw [hrep.water]
    exact (h.caught ev ((hmissed ev howner).mp hm) howner).imp_left hneed

section Arrive

/-- An event is no snapshot. -/
theorem apply_water {rep rep' : AoiReplica} {dirty dirty' : Observers} {ev : AoiEvent}
    {src : Source} {res : ApplyResult} (hagree : Agree sc.grid r rep.ents rep.cells)
    (hrun : AoiReplica.apply sc r rep ev src dirty = some (res, rep', dirty')) :
    rep'.ownerSnapshotSeq = rep.ownerSnapshotSeq := by
  by_cases hres : res = .applied
  · subst hres
    obtain ⟨_, _, heff⟩ := apply_applied hagree hrun
    exact heff.water
  · obtain ⟨rfl, _⟩ := apply_unchanged hrun hres
    rfl

variable {ev : AoiEvent} {res : ApplyResult} {dirty dirty' : Observers}

/-- An ENTRY or LEAVE arrives: it is applied at once, and may make a waiting MOVE pointless. -/
theorem Link.arrived (h : Link sc o s ch) (hb : Based sc o s) (hr : Owned sc r ch.rep)
    (hne : o ≠ r) (hk : ev.msgKind ≠ .move) (hfly : ch.flies ev)
    (hrun : AoiReplica.apply sc r ch.rep ev .kRemote dirty = some (res, ch'.rep, dirty'))
    (hmoves : ∀ id, ch'.moves id =
      if id = ev.eId ∧ res = .applied ∧ (ch.moves id).any (AoiService.supersedes o ev) then none
      else ch.moves id)
    (hneed : ch.need → ch'.need) (hflies : ∀ x, ch.flies x → ch'.flies x ∨ x = ev)
    (hflies' : ∀ x, ch'.flies x → ch.flies x) (hsent : ∀ snap, ch'.sent snap → ch.sent snap)
    (hmissed : ∀ x, ch'.missed x ↔ ch.missed x) : Link sc o s ch' := by
  obtain ⟨hgenuine, hseen⟩ := h.events ev hfly
  obtain ⟨hcopy, hkeep, hlast⟩ := h.copy.apply hb hr hne hgenuine hseen hrun
  have hlast : (s.replica.latest ev.eId).Is ev →
      (s.replica.latest ev.eId).Reflected ch'.rep o ev.eId := fun his =>
    (hlast his).resolve_right fun hmove => hk hmove.2
  exact
    { copy := hcopy
      events := fun x hx => h.events x (hflies' x hx)
      moves := fun id x hid hx => by
        rw [hmoves] at hx
        split at hx
        · cases hx
        · exact h.moves id x hid hx
      snaps := fun snap hs => h.snaps snap (hsent snap hs)
      status := fun id hid => by
        cases h.status id hid with
        | reflected hrefl => exact .reflected (hkeep id hid hrefl)
        | flying x hx hkey his =>
          rcases hflies x hx with hx | rfl
          · exact .flying x hx hkey his
          · subst hkey
            exact .reflected (hlast his)
        | queued x hx his =>
          by_cases hdrop : id = ev.eId ∧ res = .applied ∧
              (ch.moves id).any (AoiService.supersedes o ev)
          · obtain ⟨rfl, _, hsup⟩ := hdrop
            rcases hseen with hev | ⟨⟨_, hbefore⟩, hleave⟩
            · exact .reflected (hlast hev)
            · -- an earlier event does not supersede the last MOVE
              rw [hx, Option.any_some, AoiService.supersedes, decide_eq_true_eq] at hsup
              rw [← his.mark_eq] at hbefore hleave
              simp only [AoiEvent.mark] at hbefore hleave
              rcases hsup.2 with hlt | ⟨heq, hl | hle⟩
              · omega
              · have := hleave hl
                omega
              · omega
          · exact .queued x (by rw [hmoves, if_neg hdrop]; exact hx) his
        | missed hn x hx howner hseq =>
          exact .missed (hneed hn) x ((hmissed x).mpr hx) howner hseq
      caught := fun x hx howner => by
        rw [apply_water hr.agree hrun]
        exact (h.caught x ((hmissed x).mp hx) howner).imp_left hneed }

/-- A queued MOVE is the newest that has arrived for its entity. -/
theorem queueRemoteMove_cases {t t' : AoiService} {rr : RemoteResult}
    (hrun : t.queueRemoteMove sc o ev = (rr, t')) :
    (t' = { t with pendingRemoteMoves := t.pendingRemoteMoves.insert ev.eId ev } ∧
        ∀ old, t.pendingRemoteMoves.lookup ev.eId = some old →
          old.entityGeneration < ev.entityGeneration ∨
            (old.entityGeneration = ev.entityGeneration ∧
              old.spatialVersion < ev.spatialVersion)) ∨
      (t' = t ∧ ((ev.eId = 0 ∨ sc.map.length ≤ ev.target_x ∨ sc.map.width ≤ ev.target_y ∨
          (!validEntityKind ev.entityKind) = true) ∨
        ∃ old, t.pendingRemoteMoves.lookup ev.eId = some old ∧ (old.ownerThreadId ≠ o ∨
          ev.entityGeneration < old.entityGeneration ∨
            (ev.entityGeneration = old.entityGeneration ∧
              ev.spatialVersion ≤ old.spatialVersion)))) := by
  unfold AoiService.queueRemoteMove at hrun
  split at hrun
  · rename_i hbad
    cases hrun
    exact .inr ⟨rfl, .inl hbad⟩
  cases hold : t.pendingRemoteMoves.lookup ev.eId with
  | none =>
    simp only [hold] at hrun
    cases hrun
    exact .inl ⟨rfl, by simp⟩
  | some old =>
    simp only [hold] at hrun
    split at hrun
    · rename_i howner
      cases hrun
      exact .inr ⟨rfl, .inr ⟨old, rfl, .inl howner⟩⟩
    split at hrun
    · rename_i holder
      cases hrun
      exact .inr ⟨rfl, .inr ⟨old, rfl, .inr holder⟩⟩
    · rename_i hnewer
      cases hrun
      refine .inl ⟨rfl, fun old' hold' => ?_⟩
      cases hold'
      omega

/-- A MOVE arrives: it waits, unless one at least as new already does. -/
theorem Link.queue (h : Link sc o s ch) (hk : ev.msgKind = .move) (hfly : ch.flies ev)
    {t t' : AoiService} {rr : RemoteResult} (hrun : t.queueRemoteMove sc o ev = (rr, t'))
    (hmoves : ∀ id, ch.moves id = t.pendingRemoteMoves.lookup id)
    (hmoves' : ∀ id, ch'.moves id = t'.pendingRemoteMoves.lookup id) (hrep : ch'.rep = ch.rep)
    (hneed : ch.need → ch'.need) (hflies : ∀ x, ch.flies x → ch'.flies x ∨ x = ev)
    (hflies' : ∀ x, ch'.flies x → ch.flies x) (hsent : ∀ snap, ch'.sent snap → ch.sent snap)
    (hmissed : ∀ x, ch'.missed x ↔ ch.missed x) : Link sc o s ch' := by
  obtain ⟨hgenuine, hseen⟩ := h.events ev hfly
  have hstay : ev.msgKind ≠ .leave := by rw [hk]; decide
  -- what is queued afterwards is what was queued, or the event
  have hafter : ∀ id, ch'.moves id = ch.moves id ∨ (id = ev.eId ∧ ch'.moves id = some ev) := by
    intro id
    rcases queueRemoteMove_cases hrun with ⟨rfl, _⟩ | ⟨rfl, _⟩
    · rw [hmoves', hmoves, Table.lookup_insert]
      split
      · rename_i hid
        exact .inr ⟨hid, rfl⟩
      · exact .inl rfl
    · exact .inl ((hmoves' id).trans (hmoves id).symm)
  -- the last MOVE is not displaced
  have hlast : ∀ x, ch.moves ev.eId = some x → (s.replica.latest ev.eId).Is x →
      ∃ y, ch'.moves ev.eId = some y ∧ (s.replica.latest ev.eId).Is y := by
    intro x hx his
    rcases queueRemoteMove_cases hrun with ⟨_, hnewer⟩ | ⟨rfl, _⟩
    · have hle := hseen.le
      have hlt := hnewer x ((hmoves _).symm.trans hx)
      rw [← his.mark_eq] at hle
      simp only [AoiEvent.mark] at hle
      omega
    · exact ⟨x, (hmoves' _).trans ((hmoves _).symm.trans hx), his⟩
  -- the last event, if it is this one, waits now
  have hnow : (s.replica.latest ev.eId).Is ev →
      ∃ y, ch'.moves ev.eId = some y ∧ (s.replica.latest ev.eId).Is y := by
    intro his
    rcases queueRemoteMove_cases hrun with ⟨rfl, _⟩ | ⟨rfl, hbad | ⟨old, hold, holder⟩⟩
    · exact ⟨ev, by rw [hmoves']; exact Table.lookup_insert_same _ _ _, his⟩
    · have hbounds := hgenuine.bounds hstay
      rcases hbad with hid | hx | hy | hkind
      · exact absurd hid hgenuine.id_ne
      · omega
      · omega
      · rw [hgenuine.player] at hkind
        cases hkind
    · have hqueued := (hmoves ev.eId).trans hold
      obtain ⟨_, _, holdGenuine, holdSeen⟩ := h.moves _ old hgenuine.id hqueued
      rcases holder with howner | holder
      · exact absurd holdGenuine.owner howner
      · refine ⟨old, (hmoves' _).trans hold, ?_⟩
        rcases holdSeen with holdIs | ⟨⟨_, hbefore⟩, _⟩
        · have hkey : old.eId = ev.eId := (h.moves _ old hgenuine.id hqueued).1
          exact hkey ▸ holdIs
        · have hkey : old.eId = ev.eId := (h.moves _ old hgenuine.id hqueued).1
          rw [hkey, ← his.mark_eq] at hbefore
          simp only [AoiEvent.mark] at hbefore
          omega
  exact
    { copy := hrep ▸ h.copy
      events := fun x hx => h.events x (hflies' x hx)
      moves := fun id x hid hx => by
        rcases hafter id with hsame | ⟨rfl, hthis⟩
        · exact h.moves id x hid (hsame ▸ hx)
        · cases hthis.symm.trans hx
          exact ⟨rfl, hk, hgenuine, hseen⟩
      snaps := fun snap hs => h.snaps snap (hsent snap hs)
      status := fun id hid => by
        cases h.status id hid with
        | reflected hrefl => exact .reflected (hrep ▸ hrefl)
        | flying x hx hkey his =>
          rcases hflies x hx with hx | rfl
          · exact .flying x hx hkey his
          · subst hkey
            obtain ⟨y, hy, hyIs⟩ := hnow his
            exact .queued y hy hyIs
        | queued x hx his =>
          by_cases hid' : id = ev.eId
          · subst hid'
            obtain ⟨y, hy, hyIs⟩ := hlast x hx his
            exact .queued y hy hyIs
          · rcases hafter id with hsame | ⟨heq, _⟩
            · exact .queued x (hsame.trans hx) his
            · exact absurd heq hid'
        | missed hn x hx howner hseq =>
          exact .missed (hneed hn) x ((hmissed x).mpr hx) howner hseq
      caught := fun x hx howner => by
        rw [hrep]
        exact (h.caught x ((hmissed x).mp hx) howner).imp_left hneed }

/-- The flush takes a MOVE: the copy reflects it, or the owner's snapshot is needed. -/
theorem Link.flushed (h : Link sc o s ch) (hb : Based sc o s) (hr : Owned sc r ch.rep)
    (hne : o ≠ r) {id : EntityId} (hid : ownerOf id = o) (hqueued : ch.moves id = some ev)
    (hrun : AoiReplica.apply sc r ch.rep ev .kRemote dirty = some (res, ch'.rep, dirty'))
    (hmoves : ∀ i, ch'.moves i = if i = id then none else ch.moves i)
    (hneed : ch.need ∨ res = .needSnapshot → ch'.need)
    (hflies : ∀ x, ch'.flies x ↔ ch.flies x) (hsent : ∀ snap, ch'.sent snap → ch.sent snap)
    (hmissed : ∀ x, ch'.missed x ↔ ch.missed x ∨ (res = .needSnapshot ∧ x = ev)) :
    Link sc o s ch' := by
  obtain ⟨rfl, hk, hgenuine, hseen⟩ := h.moves id ev hid hqueued
  obtain ⟨hcopy, hkeep, hlast⟩ := h.copy.apply hb hr hne hgenuine hseen hrun
  exact
    { copy := hcopy
      events := fun x hx => h.events x ((hflies x).mp hx)
      moves := fun i x hi hx => by
        rw [hmoves] at hx
        split at hx
        · cases hx
        · exact h.moves i x hi hx
      snaps := fun snap hs => h.snaps snap (hsent snap hs)
      status := fun i hi => by
        cases h.status i hi with
        | reflected hrefl => exact .reflected (hkeep i hi hrefl)
        | flying x hx hkey his => exact .flying x ((hflies x).mpr hx) hkey his
        | queued x hx his =>
          by_cases heq : i = ev.eId
          · subst heq
            cases hqueued.symm.trans hx
            rcases hlast his with hrefl | ⟨hneeds, _⟩
            · exact .reflected hrefl
            · exact .missed (hneed (.inr hneeds)) ev ((hmissed ev).mpr (.inr ⟨hneeds, rfl⟩))
                hgenuine.owner (congrArg Mark.seq his.mark_eq)
          · exact .queued x (by rw [hmoves, if_neg heq]; exact hx) his
        | missed hn x hx howner hseq =>
          exact .missed (hneed (.inl hn)) x ((hmissed x).mpr (.inl hx)) howner hseq
      caught := fun x hx howner => by
        rw [apply_water hr.agree hrun]
        rcases (hmissed x).mp hx with hx | ⟨hneeds, _⟩
        · exact (h.caught x hx howner).imp_left fun hn => hneed (.inl hn)
        · exact .inl (hneed (.inr hneeds)) }

/-- A snapshot that is as new as every dropped MOVE answers the need for it. -/
theorem Link.recovered (h : Link sc o s ch) (hr : Owned sc r ch.rep) {snap : AoiOwnerSnapshot}
    (hsnap : ch.sent snap) {incoming : Table EntityId AoiEntity}
    (heff : SnapshotEffect sc r ch.rep ch'.rep snap incoming dirty dirty')
    (hcaught : ∀ x, ch.missed x → x.ownerThreadId = o → x.ownerSeq ≤ snap.seq)
    (hmoves : ∀ id, ownerOf id = o → ch'.moves id =
      (ch.moves id).filter fun move => !(move.ownerThreadId = o ∧ move.ownerSeq ≤ snap.seq))
    (hflies : ∀ x, ch'.flies x ↔ ch.flies x) (hsent : ∀ x, ch'.sent x → ch.sent x)
    (hmissed : ∀ x, ch'.missed x → ch.missed x) : Link sc o s ch' := by
  have hof := h.snaps snap hsnap
  exact
    { copy := h.copy.snapshot hr hof heff
      events := fun x hx => h.events x ((hflies x).mp hx)
      moves := fun id x hid hx => by
        rw [hmoves id hid, Option.filter_eq_some_iff] at hx
        exact h.moves id x hid hx.1
      snaps := fun x hx => h.snaps x (hsent x hx)
      status := fun id hid => by
        have hreflect := fun hseq => h.copy.reflected_of_snapshot hr hof heff hid hseq
        cases h.status id hid with
        | reflected hrefl => exact .reflected (h.copy.snapshot_keeps hr hof heff hid hrefl)
        | flying x hx hkey his => exact .flying x ((hflies x).mpr hx) hkey his
        | queued x hx his =>
          by_cases hle : x.ownerSeq ≤ snap.seq
          · refine .reflected (hreflect ?_)
            rw [← his.mark_eq]
            exact hle
          · refine .queued x ?_ his
            rw [hmoves id hid, hx]
            simp [Option.filter, hle]
        | missed hn x hx howner hseq =>
          refine .reflected (hreflect ?_)
          rw [← hseq]
          exact hcaught x hx howner
      caught := fun x hx howner => by
        refine .inr ⟨snap.seq, ?_, hcaught x (hmissed x hx) howner⟩
        rw [heff.water, ← hof.owner]
        exact Table.lookup_insert_same _ _ _ }

end Arrive

end Aoi
