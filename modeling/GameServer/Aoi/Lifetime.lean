import Mathlib.Data.Prod.Lex
import GameServer.Aoi.Visible

/-!
# Lifetimes in the replica

An entity id lives through generations, and inside one through spatial versions.
An applied call places the id, records its LEAVE or, for a snapshot that does not
list it, drops it without a tombstone. What these four changes allow is carried
along a run: nothing that has left comes back under an old generation.
-/

namespace Aoi

/-- Generations first, spatial versions inside one generation. -/
def AoiEntity.age (e : AoiEntity) : ℕ ×ₗ ℕ := toLex (e.entityGeneration, e.spatialVersion)

theorem AoiEntity.age_le {a b : AoiEntity}
    (h : a.entityGeneration < b.entityGeneration ∨
      a.entityGeneration = b.entityGeneration ∧ a.spatialVersion ≤ b.spatialVersion) :
    a.age ≤ b.age :=
  Prod.Lex.toLex_le_toLex.mpr h

namespace AoiReplica

/-- The replica knows the id as one of this worker's: live, or by the LEAVE on record. -/
def Remembers (rep : AoiReplica) (id : EntityId) (owner : WorkerId) : Prop :=
  (∃ e, rep.ents.lookup id = some e ∧ e.ownerWorker = owner) ∨
    ∃ b, rep.tombstones.lookup id = some b ∧ b.ownerWorker = owner

def Live (rep : AoiReplica) (id : EntityId) : Prop := ∃ e, rep.ents.lookup id = some e

def Known (rep : AoiReplica) (id : EntityId) : Prop := ∃ owner, rep.Remembers id owner

/-- A live entity and the tombstone of its id agree on the owner, and the tombstone is older. -/
structure Sane (g : AoiGrid) (wId : WorkerId) (rep : AoiReplica) : Prop where
  agree : Agree g wId rep.ents rep.cells
  owner : ∀ id e b, rep.ents.lookup id = some e → rep.tombstones.lookup id = some b →
    e.ownerWorker = b.ownerWorker
  older : ∀ id e b, rep.ents.lookup id = some e → rep.tombstones.lookup id = some b →
    b.generation < e.entityGeneration

/-- What a call may do to the entity and the tombstone of one id. -/
inductive Change (c : Call) (id : EntityId) (old : Option AoiEntity) (tomb : Option Tombstone) :
    Option AoiEntity → Option Tombstone → Prop
  | same : Change c id old tomb old tomb
  | placed (e : AoiEntity) (hold : ∀ o, old = some o → o.ownerWorker = e.ownerWorker ∧ o.age ≤ e.age)
      (htomb : ∀ b, tomb = some b →
        b.ownerWorker = e.ownerWorker ∧ b.generation < e.entityGeneration) :
      Change c id old tomb (some e) tomb
  | left (b : Tombstone) (hold : ∀ o, old = some o → o.ownerWorker = b.ownerWorker)
      (htomb : ∀ b', tomb = some b' →
        b'.ownerWorker = b.ownerWorker ∧ b'.generation ≤ b.generation) :
      Change c id old tomb none (some b)
  | dropped (o : AoiEntity) (snap : AoiOwnerSnapshot) (hold : old = some o)
      (hcall : c = .applyOwnerSnapshot snap) (hown : o.ownerWorker = snap.ownerWorkerId)
      (hlist : ∀ e ∈ snap.ents, e.entityId ≠ id) : Change c id old tomb none tomb

variable {sc : Scene} {wId : WorkerId}

theorem Accepted.change {rep rep' : AoiReplica} {ev : AoiEvent} {src : Source} {cellIdx : Nat}
    {dirty dirty' : Observers} (hacc : Accepted sc wId rep ev src cellIdx)
    (heff : Effect sc wId rep rep' ev cellIdx dirty dirty') (id : EntityId) :
    Change (.apply ev src) id (rep.ents.lookup id) (rep.tombstones.lookup id)
      (rep'.ents.lookup id) (rep'.tombstones.lookup id) := by
  have hents : rep'.ents.lookup id = if id = ev.eId then after ev cellIdx else rep.ents.lookup id :=
    heff.updated.ents id
  rw [hents, heff.tombs]
  by_cases hid : id = ev.eId
  · subst hid
    by_cases hk : ev.msgKind = .leave
    · rw [if_pos rfl, if_pos hk, after_leave hk, Table.lookup_insert, if_pos rfl]
      exact .left (initTombstone ev) hacc.owner fun b hb =>
        ⟨hacc.tombOwner b hb, Nat.le_of_lt (hacc.tombOlder b hb)⟩
    · rw [if_pos rfl, if_neg hk, after_stay hk]
      refine .placed (updateEntity ev cellIdx) (fun o ho => ⟨hacc.owner o ho, ?_⟩) fun b hb =>
        ⟨hacc.tombOwner b hb, hacc.tombOlder b hb⟩
      rcases hacc.newer o ho with hlt | ⟨heq, hlt, -⟩
      · exact AoiEntity.age_le (.inl hlt)
      · exact AoiEntity.age_le (.inr ⟨heq, Nat.le_of_lt hlt⟩)
  · have htomb : (if ev.msgKind = .leave then rep.tombstones.insert ev.eId (initTombstone ev)
        else rep.tombstones).lookup id = rep.tombstones.lookup id := by
      split <;> simp [hid]
    rw [if_neg hid, htomb]
    exact .same

theorem SnapshotEffect.change {rep rep' : AoiReplica} {snap : AoiOwnerSnapshot}
    {incoming : Table EntityId AoiEntity} {dirty dirty' : Observers}
    (hkey : ∀ id e, rep.ents.lookup id = some e → e.entityId = id)
    (h : SnapshotEffect sc wId rep rep' snap incoming dirty dirty') (id : EntityId) :
    Change (.applyOwnerSnapshot snap) id (rep.ents.lookup id) (rep.tombstones.lookup id)
      (rep'.ents.lookup id) (rep'.tombstones.lookup id) := by
  obtain ⟨hlisted, hlook⟩ := collect_ok h.collected
  rw [h.tombs, h.ents]
  cases hinc : incoming.lookup id with
  | none =>
    simp only
    cases hold : rep.ents.lookup id with
    | none => exact .same
    | some o =>
      by_cases hd : dropped snap incoming o
      · have hnone : kept snap incoming (some o) = none := by simp [kept, hd, Option.filter]
        simp only [dropped, decide_eq_true_eq] at hd
        rw [hnone]
        refine .dropped o snap rfl rfl hd.1 fun e he hid => ?_
        have hfind := hlook id
        rw [hinc, eq_comm, Option.map_eq_none_iff, List.find?_eq_none] at hfind
        exact hfind e he (by simpa using hid)
      · have hsome : kept snap incoming (some o) = some o := by simp [kept, hd, Option.filter]
        rw [hsome]
        exact .same
  | some e =>
    -- a listed id is never dropped
    have hkept : kept snap incoming (rep.ents.lookup id) = rep.ents.lookup id := by
      cases hold : rep.ents.lookup id with
      | none => rfl
      | some o =>
        have hmem : o.entityId ∈ incoming := by
          rw [hkey id o hold]
          exact Table.mem_iff_lookup.mpr ⟨e, hinc⟩
        simp [kept, dropped, hmem, Option.filter]
    simp only [hkept]
    split
    · exact .same
    · rename_i hnewer
      simp only [newerThan, Bool.or_eq_true, Option.any_eq_true, decide_eq_true_eq, not_or,
        not_exists, not_and, not_lt] at hnewer
      obtain ⟨ent, hfind, rfl⟩ := Option.map_eq_some_iff.mp ((hlook id).symm.trans hinc)
      have hent := hlisted ent (List.mem_of_find?_eq_some hfind)
      obtain rfl : ent.entityId = id := by simpa using List.find?_some hfind
      refine .placed (normalized sc.grid ent) (fun o ho => ?_) fun b hb => ?_
      · refine ⟨(hent.oldOwner o ho).trans hent.owner.symm, ?_⟩
        rcases hent.newer o ho (hnewer.1 o ho) with hlt | ⟨heq, hle, -⟩
        · exact AoiEntity.age_le (.inl hlt)
        · exact AoiEntity.age_le (.inr ⟨heq, hle⟩)
      · exact ⟨(hent.tombOwner b hb).trans hent.owner.symm, hent.tombOlder b hb (hnewer.2 b hb)⟩

/-- Every call, applied or not, is one of the four changes at every id. -/
theorem step_change {s t : AoiReplica × Observers} {c : Call}
    (hs : Agree sc.grid wId s.1.ents s.1.cells) (h : step sc wId s c = some t) (id : EntityId) :
    Change c id (s.1.ents.lookup id) (s.1.tombstones.lookup id)
      (t.1.ents.lookup id) (t.1.tombstones.lookup id) := by
  obtain ⟨⟨res, u⟩, hcall, rfl⟩ := Option.map_eq_some_iff.mp h
  by_cases hres : res = .applied
  · subst hres
    cases c with
    | apply ev src =>
      obtain ⟨cellIdx, hcheck, heff⟩ := apply_applied hs hcall
      exact (check_ok hcheck).change heff id
    | applyOwnerSnapshot snap =>
      obtain ⟨incoming, heff⟩ := applyOwnerSnapshot_applied hs (Option.some.inj hcall)
      exact heff.change hs.key id
  · rw [call_unchanged hcall hres]
    exact .same

namespace Change

variable {c : Call} {id : EntityId} {old new : Option AoiEntity} {tomb tomb' : Option Tombstone}

theorem tombstone (h : Change c id old tomb new tomb') {b : Tombstone} (hb : tomb = some b) :
    ∃ b', tomb' = some b' ∧ b.generation ≤ b'.generation ∧ b.ownerWorker = b'.ownerWorker := by
  cases h with
  | same => exact ⟨b, hb, le_rfl, rfl⟩
  | placed => exact ⟨b, hb, le_rfl, rfl⟩
  | left b' _ htomb => exact ⟨b', rfl, (htomb b hb).2, (htomb b hb).1⟩
  | dropped => exact ⟨b, hb, le_rfl, rfl⟩

theorem live (h : Change c id old tomb new tomb') {o e : AoiEntity} (ho : old = some o)
    (he : new = some e) : o.ownerWorker = e.ownerWorker ∧ o.age ≤ e.age := by
  cases h with
  | same =>
    cases ho.symm.trans he
    exact ⟨rfl, le_rfl⟩
  | placed e' hold _ =>
    cases he
    exact hold o ho
  | left => cases he
  | dropped => cases he

theorem sane (h : Change c id old tomb new tomb')
    (hs : ∀ e b, old = some e → tomb = some b →
      e.ownerWorker = b.ownerWorker ∧ b.generation < e.entityGeneration)
    {e : AoiEntity} {b : Tombstone} (he : new = some e) (hb : tomb' = some b) :
    e.ownerWorker = b.ownerWorker ∧ b.generation < e.entityGeneration := by
  cases h with
  | same => exact hs e b he hb
  | placed e' _ htomb =>
    cases he
    exact ⟨(htomb b hb).1.symm, (htomb b hb).2⟩
  | left => cases he
  | dropped => cases he

end Change

theorem sane_step {s t : AoiReplica × Observers} {c : Call} (hs : Sane sc.grid wId s.1)
    (h : step sc wId s c = some t) : Sane sc.grid wId t.1 := by
  have hboth : ∀ id e b, t.1.ents.lookup id = some e → t.1.tombstones.lookup id = some b →
      e.ownerWorker = b.ownerWorker ∧ b.generation < e.entityGeneration := fun id e b he hb =>
    (step_change hs.agree h id).sane
      (fun o d ho hd => ⟨hs.owner id o d ho hd, hs.older id o d ho hd⟩) he hb
  exact
    { agree := step_agree hs.agree h
      owner := fun id e b he hb => (hboth id e b he hb).1
      older := fun id e b he hb => (hboth id e b he hb).2 }

theorem sane_empty : Sane sc.grid wId {} where
  agree := agree_empty
  owner := nofun
  older := nofun

theorem Sane.reached {s : AoiReplica × Observers} {dirty : Observers} {calls : List Call}
    (h : Run.exec (step sc wId) ({}, dirty) calls = some s) : Sane sc.grid wId s.1 :=
  Run.exec_invariant (fun s => Sane sc.grid wId s.1) (fun _ _ _ hs hst => sane_step hs hst)
    sane_empty h

/-- A sane replica remembers an id as one worker's only. -/
theorem Sane.remembers_unique {rep : AoiReplica} (hs : Sane sc.grid wId rep) {id : EntityId}
    {w w' : WorkerId} (h : rep.Remembers id w) (h' : rep.Remembers id w') : w' = w := by
  rcases h with ⟨e, he, rfl⟩ | ⟨b, hb, rfl⟩ <;> rcases h' with ⟨e', he', rfl⟩ | ⟨b', hb', rfl⟩
  · cases he.symm.trans he'
    rfl
  · exact (hs.owner id e b' he hb').symm
  · exact hs.owner id e' b he' hb
  · cases hb.symm.trans hb'
    rfl

/-- A step either keeps an id with its owner, or is the owner's snapshot that does not list it. -/
theorem Sane.remembers_step {s t : AoiReplica × Observers} {c : Call} (hs : Sane sc.grid wId s.1)
    (h : step sc wId s c = some t) {id : EntityId} {w : WorkerId} (hw : s.1.Remembers id w) :
    t.1.Remembers id w ∨
      ¬ t.1.Known id ∧ s.1.tombstones.lookup id = none ∧
        ∃ snap, c = .applyOwnerSnapshot snap ∧ snap.ownerWorkerId = w ∧
          ∀ e ∈ snap.ents, e.entityId ≠ id := by
  have hchange := step_change hs.agree h id
  rcases hw with ⟨o, ho, rfl⟩ | ⟨b, hb, rfl⟩
  · cases htomb : t.1.tombstones.lookup id with
    | some b =>
      rw [htomb] at hchange
      refine .inl (.inr ⟨b, htomb, ?_⟩)
      generalize hnew : t.1.ents.lookup id = new at hchange
      generalize hold : s.1.tombstones.lookup id = tomb at hchange
      cases hchange with
      | same => exact (hs.owner id o b ho hold).symm
      | placed => exact (hs.owner id o b ho hold).symm
      | left _ hleft _ => exact (hleft o ho).symm
      | dropped => exact (hs.owner id o b ho hold).symm
    | none =>
      rw [htomb] at hchange
      generalize hnew : t.1.ents.lookup id = new at hchange
      generalize hold : s.1.tombstones.lookup id = tomb at hchange
      cases hchange with
      | same => exact .inl (.inl ⟨o, hnew.trans ho, rfl⟩)
      | placed e hlive _ => exact .inl (.inl ⟨e, hnew, (hlive o ho).1.symm⟩)
      | dropped o' snap ho' hcall hown hlist =>
        cases ho.symm.trans ho'
        refine .inr ⟨?_, rfl, snap, hcall, hown.symm, hlist⟩
        rintro ⟨w, ⟨e, he, -⟩ | ⟨b, hb, -⟩⟩
        · exact absurd (he.symm.trans hnew) nofun
        · exact absurd (hb.symm.trans htomb) nofun
  · obtain ⟨b', hb', -, hown⟩ := hchange.tombstone hb
    exact .inl (.inr ⟨b', hb', hown.symm⟩)

variable (sc wId) in
/-- The property holds wherever a run comes, its two ends included. -/
def Throughout (P : AoiReplica → Prop) (s : AoiReplica × Observers) (calls : List Call) : Prop :=
  ∀ ms u, ms <+: calls → Run.exec (step sc wId) s ms = some u → P u.1

theorem Throughout.tail {P : AoiReplica → Prop} {s u : AoiReplica × Observers} {c : Call}
    {calls : List Call} (h : Throughout sc wId P s (c :: calls)) (hu : step sc wId s c = some u) :
    Throughout sc wId P u calls := by
  intro ms v hms hv
  refine h (c :: ms) v (List.cons_prefix_cons.mpr ⟨rfl, hms⟩) ?_
  rw [Run.exec_cons, hu]
  exact hv

theorem Throughout.head {P : AoiReplica → Prop} {s : AoiReplica × Observers} {calls : List Call}
    (h : Throughout sc wId P s calls) : P s.1 :=
  h [] s List.nil_prefix rfl

theorem tombstone_run {s t : AoiReplica × Observers} {calls : List Call}
    (hs : Sane sc.grid wId s.1) (h : Run.exec (step sc wId) s calls = some t) {id : EntityId}
    {b : Tombstone} (hb : s.1.tombstones.lookup id = some b) :
    ∃ b', t.1.tombstones.lookup id = some b' ∧ b.generation ≤ b'.generation ∧
      b.ownerWorker = b'.ownerWorker := by
  induction calls generalizing s b with
  | nil =>
    cases h
    exact ⟨b, hb, le_rfl, rfl⟩
  | cons c calls ih =>
    obtain ⟨u, hu, hrest⟩ := Run.exec_cons_some h
    obtain ⟨d, hd, hle, hown⟩ := (step_change hs.agree hu id).tombstone hb
    obtain ⟨b', hb', hle', hown'⟩ := ih (sane_step hs hu) hrest hd
    exact ⟨b', hb', hle.trans hle', hown.trans hown'⟩

theorem remembers_run {s t : AoiReplica × Observers} {calls : List Call}
    (hs : Sane sc.grid wId s.1) (h : Run.exec (step sc wId) s calls = some t) {id : EntityId}
    {w : WorkerId} (hw : s.1.Remembers id w)
    (hknown : Throughout sc wId (Known · id) s calls) : t.1.Remembers id w := by
  induction calls generalizing s with
  | nil =>
    cases h
    exact hw
  | cons c calls ih =>
    obtain ⟨u, hu, hrest⟩ := Run.exec_cons_some h
    have htail := hknown.tail hu
    rcases hs.remembers_step hu hw with hkept | ⟨hgone, -⟩
    · exact ih (sane_step hs hu) hrest hkept htail
    · exact absurd htail.head hgone

theorem age_run {s t : AoiReplica × Observers} {calls : List Call}
    (hs : Sane sc.grid wId s.1) (h : Run.exec (step sc wId) s calls = some t) {id : EntityId}
    {o e : AoiEntity} (ho : s.1.ents.lookup id = some o) (he : t.1.ents.lookup id = some e)
    (hlive : Throughout sc wId (Live · id) s calls) : o.age ≤ e.age := by
  induction calls generalizing s o with
  | nil =>
    cases h
    cases ho.symm.trans he
    exact le_rfl
  | cons c calls ih =>
    obtain ⟨u, hu, hrest⟩ := Run.exec_cons_some h
    obtain ⟨m, hm⟩ := (hlive.tail hu).head
    have hstep := ((step_change hs.agree hu id).live ho hm).2
    exact hstep.trans (ih (sane_step hs hu) hrest hm (hlive.tail hu))

/-- A LEAVE that was applied is on record. -/
theorem leave_recorded {s s' : AoiReplica × Observers} {ev : AoiEvent} {src : Source}
    (hs : Sane sc.grid wId s.1) (hleave : ev.msgKind = .leave)
    (h : call sc wId s (.apply ev src) = some (.applied, s')) :
    s'.1.tombstones.lookup ev.eId = some (initTombstone ev) := by
  obtain ⟨cellIdx, -, heff⟩ := apply_applied hs.agree h
  rw [heff.tombs, if_pos hleave, Table.lookup_insert, if_pos rfl]

/-- The laws of a stretch of calls, from any state a run comes to. -/
structure NoResurrection (sc : Scene) (wId : WorkerId) (s t : AoiReplica × Observers)
    (calls : List Call) : Prop where
  left : ∀ ev src s' rest, calls = .apply ev src :: rest → ev.msgKind = .leave →
    call sc wId s (.apply ev src) = some (.applied, s') →
    ∀ e, t.1.ents.lookup ev.eId = some e → ev.entityGeneration < e.entityGeneration
  tombstone : ∀ id b, s.1.tombstones.lookup id = some b →
    ∃ b', t.1.tombstones.lookup id = some b' ∧ b.generation ≤ b'.generation
  owner : ∀ id w w', s.1.Remembers id w → t.1.Remembers id w' →
    Throughout sc wId (Known · id) s calls → w' = w
  buried : ∀ id b w, s.1.tombstones.lookup id = some b → t.1.Remembers id w → w = b.ownerWorker
  forgotten : ∀ id w c, calls = [c] → s.1.Remembers id w → ¬ t.1.Known id →
    s.1.tombstones.lookup id = none ∧ ∃ snap, c = .applyOwnerSnapshot snap ∧
      snap.ownerWorkerId = w ∧ ∀ e ∈ snap.ents, e.entityId ≠ id
  age : ∀ id o e, s.1.ents.lookup id = some o → t.1.ents.lookup id = some e →
    Throughout sc wId (Live · id) s calls → o.age ≤ e.age

theorem no_resurrection {s t : AoiReplica × Observers} {dirty : Observers} {before calls : List Call}
    (hs : Run.exec (step sc wId) ({}, dirty) before = some s)
    (ht : Run.exec (step sc wId) s calls = some t) : NoResurrection sc wId s t calls := by
  have hsane := Sane.reached hs
  have hlast := Run.exec_invariant (fun s => Sane sc.grid wId s.1)
    (fun _ _ _ hi hst => sane_step hi hst) hsane ht
  refine
    { left := fun ev src s' rest hcalls hleave hcall e he => ?_
      tombstone := fun id b hb => ?_
      owner := fun id w w' hw hw' hknown =>
        hlast.remembers_unique (remembers_run hsane ht hw hknown) hw'
      buried := fun id b w hb hw => ?_
      forgotten := fun id w c hcalls hw hgone => ?_
      age := fun id o e ho he hlive => age_run hsane ht ho he hlive }
  · subst hcalls
    obtain ⟨u, hu, hrest⟩ := Run.exec_cons_some ht
    have hstep : step sc wId s (.apply ev src) = some s' := by
      unfold step
      rw [hcall]
      rfl
    cases hu.symm.trans hstep
    obtain ⟨b, hb, hle, -⟩ := tombstone_run (sane_step hsane hu) hrest
      (leave_recorded hsane hleave hcall)
    exact Nat.lt_of_le_of_lt hle (hlast.older _ e b he hb)
  · obtain ⟨b', hb', hle, -⟩ := tombstone_run hsane ht hb
    exact ⟨b', hb', hle⟩
  · obtain ⟨b', hb', -, hown⟩ := tombstone_run hsane ht hb
    exact (hlast.remembers_unique (.inr ⟨b', hb', rfl⟩) hw).trans hown.symm
  · subst hcalls
    obtain ⟨u, hu, hnil⟩ := Run.exec_cons_some ht
    cases hnil
    rcases hsane.remembers_step hu hw with hkept | ⟨-, hdropped⟩
    · exact absurd ⟨w, hkept⟩ hgone
    · exact hdropped

section Examples

/-- An ENTRY of entity 1 at the origin. -/
def entryOf (owner : WorkerId) (ownerSeq generation : Nat) : AoiEvent where
  msgKind := .entry
  entityKind := .player
  eId := 1
  businessId := 1
  target_x := 0
  target_y := 0
  target_dir := 0
  entityGeneration := generation
  actorEpoch := 1
  spatialVersion := 1
  ownerThreadId := owner
  ownerSeq := ownerSeq

def leaveOf (owner : WorkerId) (ownerSeq generation : Nat) : AoiEvent :=
  { entryOf owner ownerSeq generation with msgKind := .leave, spatialVersion := 2 }

theorem no_resurrection_after_leave :
    ∃ s t, Run.exec (step wideScene 0) ({}, ∅) [.apply (entryOf 1 1 1) .kRemote] = some s ∧
      Run.exec (step wideScene 0) s
        [.apply (leaveOf 1 2 1) .kRemote, .apply (entryOf 1 3 2) .kRemote] = some t ∧
      NoResurrection wideScene 0 s t
        [.apply (leaveOf 1 2 1) .kRemote, .apply (entryOf 1 3 2) .kRemote] := by
  have hrun : ((Run.exec (step wideScene 0) ({}, ∅) [.apply (entryOf 1 1 1) .kRemote]).bind fun s =>
      Run.exec (step wideScene 0) s
        [.apply (leaveOf 1 2 1) .kRemote, .apply (entryOf 1 3 2) .kRemote]).isSome := by decide
  obtain ⟨t, hrun⟩ := Option.isSome_iff_exists.mp hrun
  obtain ⟨s, hs, ht⟩ := Option.bind_eq_some_iff.mp hrun
  exact ⟨s, t, hs, ht, no_resurrection hs ht⟩

/-- Worker 1's entity enters, worker 1's snapshot no longer lists it, worker 2's entity enters. -/
def handedOver : List Call :=
  [.apply (entryOf 1 1 1) .kRemote, .applyOwnerSnapshot { seq := 2, ownerWorkerId := 1, ents := [] },
    .apply (entryOf 2 1 1) .kRemote]

/-- An id dropped by a snapshot comes back under another owner. -/
theorem owner_changes_after_drop :
    ¬ ∀ (before calls : List Call) (s t : AoiReplica × Observers) (id : EntityId) (o e : AoiEntity),
      Run.exec (step wideScene 0) ({}, ∅) before = some s →
      Run.exec (step wideScene 0) s calls = some t →
      s.1.ents.lookup id = some o → t.1.ents.lookup id = some e →
      o.ownerWorker = e.ownerWorker := by
  intro h
  have hrun : ((Run.exec (step wideScene 0) ({}, ∅) (handedOver.take 1)).bind fun s =>
      (Run.exec (step wideScene 0) s (handedOver.drop 1)).bind fun t =>
        (s.1.ents.lookup 1).bind fun o => (t.1.ents.lookup 1).map fun e =>
          (o.ownerWorker, e.ownerWorker)) = some (1, 2) := by decide
  obtain ⟨s, hs, hrun⟩ := Option.bind_eq_some_iff.mp hrun
  obtain ⟨t, ht, hrun⟩ := Option.bind_eq_some_iff.mp hrun
  obtain ⟨o, ho, hrun⟩ := Option.bind_eq_some_iff.mp hrun
  obtain ⟨e, he, hrun⟩ := Option.map_eq_some_iff.mp hrun
  have hsame := h _ _ s t 1 o e hs ht ho he
  obtain ⟨h1, h2⟩ := Prod.mk.inj hrun
  exact absurd (h1.symm.trans (hsame.trans h2)) (by decide)

end Examples

end AoiReplica

end Aoi
