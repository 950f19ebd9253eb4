import GameServer.Scene.LifeSane
import GameServer.Scene.SaveHistory

/-!
# No save is lost

What the record of a player says of its saves agrees with the history of the player.
So versions grow, one save is in flight at a time, and the state that a player is
removed with is stored or kept by a record that blocks the next login.
-/

namespace Scene

open Db (DbResult DbTask)
open PlayerPersistence (Record)
open PlayerSnapshotDao (buildSave)
open SaveHistory

namespace PlayerPersistence.Record

variable {log : List ThreadEvent} {r r' : Record} {p q : Player} {sent : List SaveTask}

/-- The record agrees with the history. -/
structure Sound (log : List ThreadEvent) (r : Record) : Prop where
  idle : r.state = .idle → r.active = none
  flying : ∀ a, r.active = some a → ∃ task, inFlight log = some task ∧ task.taskId = r.taskId ∧
    buildSave a = .ok task.body
  landed : r.active = none → inFlight log = none
  next : Below log (r.nextVersion + 1)
  queued : ∀ q, r.queued = some q → Below log q.saveVersion ∧ q.saveVersion ≤ r.nextVersion
  confirmed : ∃ s, lastStored log = some s ∧ s.saveVersion = r.confirmedVersion

/-- The snapshots of the record were taken of the player. -/
structure Mirrors (log : List ThreadEvent) (r : Record) (p : Player) : Prop where
  stored : ∃ s, lastStored log = some s ∧ p.Reflects r.confirmedRevision s
  active : ∀ a, r.active = some a → p.Reflects a.capturedRevision a
  queued : ∀ q, r.queued = some q → p.Reflects q.capturedRevision q

/-- The record has a snapshot of the player as it is. -/
def Retains (r : Record) (p : Player) : Prop :=
  (∃ a, r.active = some a ∧ a.Shows p) ∨ ∃ q, r.queued = some q ∧ q.Shows p

/-- The events of what was handed over. -/
abbrev submissions (sent : List SaveTask) : List ThreadEvent := sent.map .saveSubmitted

/-- A record has nothing to do with an event that is not about saves and stores nothing. -/
theorem Sound.calm {e : ThreadEvent} (hs : r.Sound log) (hcalm : e.calm = true)
    (hstores : e.stores = none) : r.Sound (log ++ [e]) := by
  have hflight := inFlight_calm log hcalm
  have hnot : ∀ task, e ≠ .saveSubmitted task := by
    rintro task rfl
    cases hcalm
  refine ⟨hs.idle, hflight ▸ hs.flying, hflight ▸ hs.landed, hs.next.append hnot, ?_, ?_⟩
  · intro q hq
    obtain ⟨hbelow, hle⟩ := hs.queued q hq
    exact ⟨hbelow.append hnot, hle⟩
  · simpa [hstores] using hs.confirmed

theorem buildSave_saveVersion {snapshot : PlayerSaveSnapshot} {body : DbTask}
    (h : buildSave snapshot = .ok body) : body.saveVersion = snapshot.saveVersion := by
  unfold PlayerSnapshotDao.buildSave at h
  split at h
  · cases h
  split at h
  · cases h
  · cases h
    rfl

theorem Sound.dispatched (hs : r.Sound log) (h : r.Dispatched r' sent)
    (hlaw : History.Lawful law log) :
    History.Lawful law (log ++ submissions sent) ∧ r'.Sound (log ++ submissions sent) ∧
      lastStored (log ++ submissions sent) = lastStored log := by
  cases h with
  | nothing =>
    rw [submissions, List.map_nil, List.append_nil]
    exact ⟨hlaw, hs, rfl⟩
  | refused snapshot error hqueued hstate herror =>
    rw [submissions, List.map_nil, List.append_nil]
    exact ⟨hlaw, ⟨nofun, hs.flying, hs.landed, hs.next, hs.queued, hs.confirmed⟩, rfl⟩
  | sent snapshot body taskId hqueued hstate hbody =>
    obtain ⟨hbelow, hle⟩ := hs.queued snapshot hqueued
    have hversion := buildSave_saveVersion hbody
    refine ⟨hlaw.append ⟨hs.landed (hs.idle hstate), hversion ▸ hbelow⟩, ?_, by
      simp [ThreadEvent.stores]⟩
    exact {
      idle := nofun
      flying := by
        intro a ha
        cases ha
        exact ⟨_, inFlight_submitted log _, rfl, hbody⟩
      landed := nofun
      next := hs.next.submitted (by simpa [hversion] using Nat.lt_succ_of_le hle)
      queued := nofun
      confirmed := by simpa [ThreadEvent.stores] using hs.confirmed }
  | waits snapshot taskId hqueued hstate =>
    have hnone := hs.idle hstate
    rw [submissions, List.map_nil, List.append_nil]
    refine ⟨hlaw, ⟨hs.idle, fun a ha => ?_, hs.landed, hs.next, hs.queued, hs.confirmed⟩, rfl⟩
    cases hnone.symm.trans ha

theorem Mirrors.dispatched (hm : r.Mirrors log p) (h : r.Dispatched r' sent) :
    r'.Mirrors log p := by
  cases h with
  | nothing => exact hm
  | refused => exact ⟨hm.stored, hm.active, hm.queued⟩
  | sent snapshot body taskId hqueued =>
    refine ⟨hm.stored, fun a ha => ?_, nofun⟩
    cases ha
    exact hm.queued snapshot hqueued
  | waits => exact ⟨hm.stored, hm.active, hm.queued⟩

theorem Retains.dispatched (hr : r.Retains p) (hidle : r.state = .idle → r.active = none)
    (h : r.Dispatched r' sent) : r'.Retains p := by
  cases h with
  | nothing => exact hr
  | refused => exact hr
  | sent snapshot body taskId hqueued hstate =>
    rcases hr with ⟨a, ha, -⟩ | ⟨q, hq, hshows⟩
    · cases (hidle hstate).symm.trans ha
    · cases hqueued.symm.trans hq
      exact .inl ⟨snapshot, rfl, hshows⟩
  | waits => exact hr

theorem Dispatched.blocked (h : r.Dispatched r' sent) (hstate : r.state = .blocked) :
    r'.state = .blocked := by
  cases h with
  | nothing => exact hstate
  | refused => rfl
  | sent _ _ _ _ hidle => cases hstate.symm.trans hidle
  | waits _ _ _ hidle => cases hstate.symm.trans hidle

section Asked

variable {offline ok : Bool} {record : Option Record}

theorem Sound.taken (hs : r.Sound log) (p : Player) (offline : Bool) :
    (r.taken p offline).Sound log :=
  ⟨hs.idle, hs.flying, hs.landed, hs.next, hs.queued, hs.confirmed⟩

theorem Mirrors.taken (hm : r.Mirrors log p) (q : Player) (offline : Bool) :
    (r.taken q offline).Mirrors log p :=
  ⟨hm.stored, hm.active, hm.queued⟩

theorem Sound.enqueue (hs : r.Sound log) {snapshot : PlayerSaveSnapshot}
    (hversion : snapshot.saveVersion = r.nextVersion + 1) : (r.enqueue snapshot).Sound log where
  idle := hs.idle
  flying := by
    intro a ha
    obtain ⟨task, hflying, htask, hbody⟩ := hs.flying a ha
    have hbusy : r.state ≠ .idle := by
      intro hidle
      cases (hs.idle hidle).symm.trans ha
    refine ⟨task, hflying, ?_, hbody⟩
    simpa [Record.enqueue, hbusy] using htask
  landed := hs.landed
  next := hs.next.mono (by simp [Record.enqueue])
  queued := by
    intro q hq
    cases hq
    rw [hversion]
    exact ⟨hs.next, le_refl _⟩
  confirmed := hs.confirmed

/-- A request keeps the record in agreement with the history. -/
theorem Sound.asked (hs : r.Sound log) (hlaw : History.Lawful law log)
    (h : r.Asked p offline ok record sent) :
    History.Lawful law (log ++ submissions sent) ∧
      lastStored (log ++ submissions sent) = lastStored log ∧
      (∀ r', record = some r' → r'.Sound (log ++ submissions sent)) ∧
      (record = none → inFlight (log ++ submissions sent) = none) := by
  cases h with
  | frozen snapshot body hnext hfrozen hbody h =>
    have hversion := (Player.shows_frozen hfrozen).2.1
    obtain ⟨hlaw', hs', hstored⟩ :=
      (Sound.enqueue (hs.taken p offline) hversion).dispatched h hlaw
    exact ⟨hlaw', hstored, fun r' hr' => by cases hr'; exact hs', nofun⟩
  | clean hdirty hrevision hactive =>
    rw [submissions, List.map_nil, List.append_nil]
    refine ⟨hlaw, rfl, fun r' hr' => ?_, fun _ => hs.landed hactive⟩
    split at hr'
    · cases hr'
    · cases hr'
      exact hs.taken p offline
  | foreign =>
    rw [submissions, List.map_nil, List.append_nil]
    exact ⟨hlaw, rfl, fun r' hr' => by cases hr'; exact hs, nofun⟩
  | held =>
    rw [submissions, List.map_nil, List.append_nil]
    exact ⟨hlaw, rfl, fun r' hr' => by cases hr'; exact hs.taken p offline, nofun⟩
  | exhausted =>
    rw [submissions, List.map_nil, List.append_nil]
    refine ⟨hlaw, rfl, fun r' hr' => ?_, nofun⟩
    cases hr'
    exact ⟨nofun, hs.flying, hs.landed, hs.next, hs.queued, hs.confirmed⟩
  | refused =>
    rw [submissions, List.map_nil, List.append_nil]
    refine ⟨hlaw, rfl, fun r' hr' => ?_, nofun⟩
    cases hr'
    exact ⟨hs.idle, hs.flying, hs.landed, hs.next, hs.queued, hs.confirmed⟩

/-- The snapshot that a request takes is one of the player. -/
theorem Mirrors.enqueue (hm : r.Mirrors log p) {snapshot : PlayerSaveSnapshot} {version token : Nat}
    (hfrozen : p.freezeSaveSnapshot version token = .ok snapshot) :
    (r.enqueue snapshot).Mirrors log p := by
  obtain ⟨hshows, -, hrevision⟩ := Player.shows_frozen hfrozen
  refine ⟨hm.stored, hm.active, fun q hq => ?_⟩
  cases hq
  exact ⟨le_of_eq hrevision, fun _ => hshows⟩

theorem Mirrors.asked (hm : r.Mirrors log p) (h : r.Asked p offline ok record sent) :
    ∀ r', record = some r' → r'.Mirrors log p := by
  intro r' hr'
  cases h with
  | foreign =>
    cases hr'
    exact hm
  | held =>
    cases hr'
    exact hm.taken p offline
  | clean =>
    split at hr'
    · cases hr'
    · cases hr'
      exact hm.taken p offline
  | exhausted =>
    cases hr'
    exact ⟨hm.stored, hm.active, hm.queued⟩
  | refused =>
    cases hr'
    exact ⟨hm.stored, hm.active, hm.queued⟩
  | frozen snapshot body hnext hfrozen hbody h =>
    cases hr'
    exact ((hm.taken p offline).enqueue hfrozen).dispatched h

/-- A request that leaves the player in the game leaves the record of a player in the game, or one
that is blocked for good. -/
theorem Asked.stays (h : r.Asked p offline ok record sent) (hid : p.playerId ≠ 0)
    (hmax : p.playerId < 2 ^ 63) (hstays : ok = false ∨ offline = false)
    (hr : r.offline = true → r.state = .blocked) :
    ∀ r', record = some r' → r'.offline = true → r'.state = .blocked := by
  intro r' hr' hoffline
  have htaken : ok = true → (r.taken p offline).offline = true → r.state = .blocked := by
    intro hok htrue
    rcases hstays with hfalse | rfl
    · cases hok.symm.trans hfalse
    · exact hr (by simpa [Record.taken] using htrue)
  cases h with
  | foreign hepoch hforeign =>
    cases hr'
    exact hr hforeign
  | held =>
    cases hr'
    exact htaken rfl hoffline
  | clean =>
    split at hr'
    · cases hr'
    · cases hr'
      exact htaken rfl hoffline
  | exhausted =>
    cases hr'
    rfl
  | refused snapshot error hfrozen herror =>
    exact absurd (buildSave_frozen hid hmax (Nat.succ_ne_zero _) hfrozen) (herror _)
  | frozen snapshot body hnext hfrozen hbody h =>
    cases hr'
    refine h.blocked (htaken rfl ?_)
    rw [← hoffline, h.offline]
    rfl

/-- A record is given up for a player that leaves. -/
theorem Asked.erased (h : r.Asked p offline ok none sent) : ok = true ∧ offline = true := by
  generalize hnone : (none : Option Record) = record at h
  cases h with
  | clean =>
    split at hnone
    · rename_i hoffline
      exact ⟨rfl, hoffline⟩
    · cases hnone
  | _ => cases hnone

/-- A final request that is granted leaves the player stored, or in its record. -/
theorem Asked.released (h : r.Asked p true true record sent) (hs : r.Sound log)
    (hm : r.Mirrors log p) :
    (∀ r', record = some r' → r'.Retains p) ∧
      (record = none → ∃ s, lastStored log = some s ∧ s.Shows p) := by
  cases h with
  | held h =>
    refine ⟨fun r' hr' => ?_, nofun⟩
    cases hr'
    rcases h with ⟨hactive, -⟩ | hqueued
    · obtain ⟨a, ha, hrevision⟩ := (Option.any_eq_true _ _).mp hactive
      exact .inl ⟨a, ha, (hm.active a ha).2 (of_decide_eq_true hrevision)⟩
    · obtain ⟨q, hq, hrevision⟩ := (Option.any_eq_true _ _).mp hqueued
      exact .inr ⟨q, hq, (hm.queued q hq).2 (of_decide_eq_true hrevision)⟩
  | clean hdirty hrevision hactive =>
    refine ⟨nofun, fun _ => ?_⟩
    obtain ⟨s, hs, hreflects⟩ := hm.stored
    exact ⟨s, hs, hreflects.2 hrevision.symm⟩
  | frozen snapshot body hnext hfrozen hbody h =>
    obtain ⟨hshows, hversion, -⟩ := Player.shows_frozen hfrozen
    refine ⟨fun r' hr' => ?_, nofun⟩
    cases hr'
    refine Retains.dispatched (.inr ⟨snapshot, rfl, hshows⟩) ?_ h
    exact (Sound.enqueue (hs.taken p true) hversion).idle

end Asked

end PlayerPersistence.Record

theorem Player.Reflects.told {p : Player} {revision : Nat} {s : PlayerSaveSnapshot} {r : Record}
    {result : DbResult} {snapshot : PlayerSaveSnapshot} (h : p.Reflects revision s) :
    (r.confirmActor result snapshot p).Reflects revision s := by
  unfold Record.confirmActor
  split
  · exact h.confirmed _ _
  · exact h

namespace Life

open PlayerPersistence.Record (Sound Mirrors submissions)

variable {id : Nat} {l l' : Life}

/-- The player is the one that was loaded, or a later one of it. -/
structure Fresh (log : List ThreadEvent) (p : Player) : Prop where
  stored : ∃ s, lastStored log = some s ∧ s.saveVersion = p.persistedVersion ∧
    p.Reflects p.persistedRevision s
  next : Below log (p.persistedVersion + 1)

/-- No save of the player is lost. -/
structure Kept (l : Life) : Prop where
  lawful : History.Lawful law l.log
  sound : ∀ r, l.record = some r → r.Sound l.log
  settled : l.record = none → inFlight l.log = none
  mirrors : ∀ p r, l.actor = some p → l.load = none → l.record = some r →
    r.Mirrors l.log p ∧ (r.offline = true → r.state = .blocked)
  fresh : ∀ p, l.actor = some p → l.load = none → l.record = none → Fresh l.log p
  gone : ∀ before p after, l.log = before ++ .removed p :: after →
    Saved before after p ∨
      l.actor = none ∧ ∃ r, l.record = some r ∧ r.offline = true ∧ r.Retains p

theorem kept_empty : Kept {} where
  lawful := History.lawful_nil
  sound := nofun
  settled _ := rfl
  mirrors := fun _ _ => nofun
  fresh := fun _ => nofun
  gone := by simp

/-- A player with nothing of what is saved changed. -/
structure Alike (p q : Player) : Prop where
  reflects : ∀ revision s, p.Reflects revision s → q.Reflects revision s
  persistedVersion : q.persistedVersion = p.persistedVersion
  persistedRevision : q.persistedRevision = p.persistedRevision

theorem Alike.refl (p : Player) : Alike p p := ⟨fun _ _ h => h, rfl, rfl⟩

theorem Alike.played {p q r : Player} (h : Alike p q) (hplayed : Player.Played q r) : Alike p r :=
  ⟨fun revision s hr => (h.reflects revision s hr).played hplayed,
    hplayed.persistedVersion.trans h.persistedVersion,
    hplayed.persistedRevision.trans h.persistedRevision⟩

theorem Alike.run (p : Player) (ops : List GameOp) : Alike p (p.run (ops.map (·.1))) :=
  p.run_induction (P := Alike p) (fun _ op h => h.played (Player.played_apply op)) (.refl p) ops

theorem Alike.mirrors {p q : Player} {log : List ThreadEvent} {r : Record} (h : Alike p q)
    (hm : r.Mirrors log p) : r.Mirrors log q := by
  obtain ⟨s, hs, hreflects⟩ := hm.stored
  exact ⟨⟨s, hs, h.reflects _ _ hreflects⟩, fun a ha => h.reflects _ _ (hm.active a ha),
    fun x hx => h.reflects _ _ (hm.queued x hx)⟩

theorem Alike.fresh {p q : Player} {log : List ThreadEvent} (h : Alike p q) (hf : Fresh log p) :
    Fresh log q := by
  obtain ⟨⟨s, hs, hversion, hreflects⟩, hnext⟩ := hf
  refine ⟨⟨s, hs, hversion.trans h.persistedVersion.symm, ?_⟩, ?_⟩
  · rw [h.persistedRevision]
    exact h.reflects _ _ hreflects
  · rw [h.persistedVersion]
    exact hnext

/-- A move that is not about saves. -/
theorem Kept.of_alike (hk : l.Kept) (hlog : l'.log = l.log) (hrecord : l'.record = l.record)
    (hactor : ∀ q, l'.actor = some q → l'.load = none →
      ∃ p, l.actor = some p ∧ l.load = none ∧ Alike p q)
    (hgone : l.actor = none → l.blocked = true → l'.actor = none) : l'.Kept where
  lawful := hlog ▸ hk.lawful
  sound := by
    rw [hlog, hrecord]
    exact hk.sound
  settled := by
    rw [hlog, hrecord]
    exact hk.settled
  mirrors := by
    rw [hlog, hrecord]
    intro q r hq hload hr
    obtain ⟨p, hp, hnone, halike⟩ := hactor q hq hload
    obtain ⟨hmirrors, hstays⟩ := hk.mirrors p r hp hnone hr
    exact ⟨halike.mirrors hmirrors, hstays⟩
  fresh := by
    rw [hlog, hrecord]
    intro q hq hload hr
    obtain ⟨p, hp, hnone, halike⟩ := hactor q hq hload
    exact halike.fresh (hk.fresh p hp hnone hr)
  gone := by
    rw [hlog, hrecord]
    intro before p after hsplit
    rcases hk.gone before p after hsplit with hsaved | ⟨hnone, r, hr, hoffline, hretains⟩
    · exact .inl hsaved
    · refine .inr ⟨hgone hnone ?_, r, hr, hoffline, hretains⟩
      rw [blocked, hr]
      exact hoffline

/-- A load is asked for when the player has nothing that is not stored. -/
theorem Kept.all_saved (hk : l.Kept) (hblocked : l.blocked = false) :
    ∀ before p after, l.log = before ++ .removed p :: after → Saved before after p := by
  intro before p after hsplit
  rcases hk.gone before p after hsplit with hsaved | ⟨-, r, hr, hoffline, -⟩
  · exact hsaved
  · rw [blocked, hr] at hblocked
    exact absurd (hblocked.symm.trans hoffline) Bool.false_ne_true

theorem Advanced.kept (h : Advanced id l l') (hk : l.Kept)
    (hnone : ∀ state, l.load = some state → l.blocked = false → l.record = none) : l'.Kept := by
  cases h with
  | idle => exact hk
  | failed state hload hid =>
    exact hk.of_alike rfl rfl (fun _ _ => nofun) fun h _ => h
  | created state epoch hload hfailed htask hblocked hid hmax =>
    refine hk.of_alike rfl rfl (fun q _ hnoLoad => ?_) fun _ h => ?_
    · cases hload.symm.trans hnoLoad
    · cases hblocked.symm.trans h
  | submitted state epoch taskId body hload hfailed htask hblocked hid hmax =>
    have hrecord := hnone state hload hblocked
    have hsettled := hk.settled hrecord
    exact {
      lawful := hk.lawful.append ⟨hsettled, hk.all_saved hblocked⟩
      sound := by
        intro r hr
        cases hrecord.symm.trans hr
      settled := fun _ => (inFlight_calm _ rfl).trans hsettled
      mirrors := fun _ _ _ => nofun
      fresh := fun _ _ => nofun
      gone := by
        intro before p after hsplit
        obtain ⟨after', rfl, hlog⟩ := split_before hsplit (by simp)
        exact .inl ((hk.all_saved hblocked before p after' hlog).append _) }

section Requests

variable {p q : Player} {offline ok : Bool} {record : Option Record} {sent : List SaveTask}

/-- The record that a request begins with. -/
theorem Kept.opened (hk : l.Kept) (hp : l.actor = some p) (hload : l.load = none)
    (halike : Alike p q) {r : Record} {token : Nat}
    (hr : l.record = some r ∨ l.record = none ∧ r = newRecord q token) :
    r.Sound l.log ∧ r.Mirrors l.log q ∧ (r.offline = true → r.state = .blocked) := by
  rcases hr with hr | ⟨hnone, rfl⟩
  · obtain ⟨hmirrors, hstays⟩ := hk.mirrors p r hp hload hr
    exact ⟨hk.sound r hr, halike.mirrors hmirrors, hstays⟩
  · obtain ⟨⟨s, hs, hversion, hreflects⟩, hnext⟩ := halike.fresh (hk.fresh p hp hload hnone)
    refine ⟨⟨fun _ => rfl, nofun, fun _ => hk.settled hnone, hnext, nofun, s, hs, hversion⟩,
      ⟨⟨s, hs, hreflects⟩, nofun, nofun⟩, nofun⟩

theorem no_removal {p : Player} : ThreadEvent.removed p ∉ submissions sent := by
  simp [submissions]

/-- A request for a save, unless the player leaves with it. -/
theorem Kept.requested (hk : l.Kept) (hp : l.actor = some p) (hload : l.load = none)
    (halike : Alike p q) (hid : q.playerId ≠ 0) (hmax : q.playerId < 2 ^ 63)
    (h : Requested q offline l.record ok record sent) (hstays : ok = false ∨ offline = false) :
    ({ l with actor := some q, record }.note (submissions sent)).Kept := by
  cases h with
  | full hnone =>
    refine hk.of_alike (by simp [note, submissions]) hnone.symm (fun q' hq' _ => ?_) ?_
    · cases hq'
      exact ⟨p, hp, hload, halike⟩
    · intro hgone
      cases hp.symm.trans hgone
  | asked r token hr h =>
    obtain ⟨hs, hm, hblocked⟩ := hk.opened hp hload halike hr
    obtain ⟨hlaw, hstored, hsound, -⟩ := hs.asked hk.lawful h
    have hkept : record ≠ none := by
      rintro rfl
      obtain ⟨rfl, rfl⟩ := h.erased
      rcases hstays with hfalse | hfalse <;> cases hfalse
    refine ⟨hlaw, hsound, fun hnone => absurd hnone hkept, ?_, fun _ _ _ hnone => absurd hnone hkept,
      ?_⟩
    · intro q' r' hq' _ hr'
      cases hq'
      refine ⟨?_, h.stays hid hmax hstays hblocked r' hr'⟩
      obtain ⟨⟨s, hlast, hreflects⟩, hactive, hqueued⟩ := hm.asked h r' hr'
      exact ⟨⟨s, hstored.trans hlast, hreflects⟩, hactive, hqueued⟩
    · intro before x after hsplit
      obtain ⟨after', rfl, hlog⟩ := split_before hsplit no_removal
      rcases hk.gone before x after' hlog with hsaved | ⟨hgone, -⟩
      · exact .inl (hsaved.append _)
      · cases hp.symm.trans hgone

/-- The player leaves with its last save granted. -/
theorem Kept.released (hk : l.Kept) (hp : l.actor = some p) (hload : l.load = none)
    (halike : Alike p q) (h : Requested q true l.record true record sent) :
    ({ l with actor := none, load := none, record }.note
      (submissions sent ++ [ThreadEvent.removed q])).Kept := by
  cases h with
  | asked r token hr h =>
    obtain ⟨hs, hm, -⟩ := hk.opened hp hload halike hr
    obtain ⟨hlaw, hstored, hsound, hsettled⟩ := hs.asked hk.lawful h
    obtain ⟨hretains, hlast⟩ := h.released hs hm
    have hlog : l.log ++ (submissions sent ++ [ThreadEvent.removed q]) =
        (l.log ++ submissions sent) ++ [.removed q] := by simp
    unfold note
    rw [hlog]
    refine ⟨hlaw.append trivial, fun r' hr' => (hsound r' hr').calm rfl rfl,
      fun hnone => (inFlight_calm _ rfl).trans (hsettled hnone), fun _ _ => nofun, fun _ => nofun, ?_⟩
    intro before x after hsplit
    rcases split_last hsplit with ⟨rfl, rfl, hx⟩ | ⟨after', rfl, hbefore⟩
    · cases hx
      cases hr' : record with
      | none =>
        obtain ⟨s, hs, hshows⟩ := hlast hr'
        exact .inl (.inl ⟨s, hstored.trans hs, hshows⟩)
      | some r' =>
        exact .inr ⟨rfl, r', rfl, h.offline r' hr', hretains r' hr'⟩
    · obtain ⟨after'', rfl, hlog'⟩ := split_before hbefore no_removal
      rcases hk.gone before x after'' hlog' with hsaved | ⟨hgone, -⟩
      · exact .inl ((hsaved.append _).append _)
      · cases hp.symm.trans hgone

end Requests

section Moves

variable {draining : Bool}

/-- A record that changes without the player. -/
theorem Kept.dispatched (hk : l.Kept) {r r' : Record} {sent : List SaveTask}
    (hr : l.record = some r) (h : r.Dispatched r' sent) :
    ({ l with record := some r' }.note (submissions sent)).Kept := by
  obtain ⟨hlaw, hsound, hstored⟩ := (hk.sound r hr).dispatched h hk.lawful
  refine ⟨hlaw, fun _ h => by cases h; exact hsound, nofun, ?_, fun _ _ _ => nofun, ?_⟩
  · intro p r'' hp hload hr''
    cases hr''
    obtain ⟨hmirrors, hstays⟩ := hk.mirrors p r hp hload hr
    obtain ⟨⟨s, hlast, hreflects⟩, hactive, hqueued⟩ := hmirrors.dispatched h
    refine ⟨⟨⟨s, hstored.trans hlast, hreflects⟩, hactive, hqueued⟩, fun hoffline => ?_⟩
    exact h.blocked (hstays (h.offline.symm.trans hoffline))
  · intro before x after hsplit
    obtain ⟨after', rfl, hlog⟩ := split_before hsplit no_removal
    rcases hk.gone before x after' hlog with hsaved | ⟨hgone, r₀, hr₀, hoffline, hretains⟩
    · exact .inl (hsaved.append _)
    · cases hr.symm.trans hr₀
      exact .inr ⟨hgone, r', rfl, h.offline.trans hoffline,
        hretains.dispatched (hk.sound r hr).idle h⟩

theorem Kept.saveFailed (hk : l.Kept) {r : Record} (hr : l.record = some r)
    (error : Gateway.Bytes) : Kept { l with record := some (r.block error) } := by
  have hs := hk.sound r hr
  refine ⟨hk.lawful, fun r' hr' => ?_, nofun, fun p r' hp hload hr' => ?_, fun _ _ _ => nofun,
    fun before p after hsplit => ?_⟩
  · cases hr'
    exact ⟨nofun, hs.flying, hs.landed, hs.next, hs.queued, hs.confirmed⟩
  · cases hr'
    obtain ⟨hm, -⟩ := hk.mirrors p r hp hload hr
    exact ⟨⟨hm.stored, hm.active, hm.queued⟩, fun _ => rfl⟩
  · rcases hk.gone before p after hsplit with hsaved | ⟨hgone, r₀, hr₀, hoffline, hretains⟩
    · exact .inl hsaved
    · cases hr.symm.trans hr₀
      exact .inr ⟨hgone, _, rfl, hoffline, hretains⟩

/-- A save is confirmed, and its player hears of it or does not. -/
theorem Kept.saved (hk : l.Kept) {r : Record} {snapshot : PlayerSaveSnapshot} {result : DbResult}
    {actor : Option Player} (hr : l.record = some r) (hactive : r.active = some snapshot)
    (hstate : r.state = .awaitResult) (herrcode : result.errcode = 0)
    (hsuccess : result.classification = .success)
    (hanswers : PlayerPersistence.answers result snapshot r.token = true)
    (hloading : ∀ p, l.actor = some p → l.load = none)
    (hactor : ∀ q, actor = some q → ∃ p, l.actor = some p ∧
      ∀ revision s, p.Reflects revision s → q.Reflects revision s)
    (hgone : l.actor = none → actor = none) :
    ({ l with
      record := if r.offline ∧ r.queued.isNone then none else some (r.confirm snapshot)
      actor }.note [.saveConfirmed r.taskId result snapshot]).Kept := by
  have hs := hk.sound r hr
  obtain ⟨task, hflying, htask, hbody⟩ := hs.flying snapshot hactive
  have hversion : result.saveVersion = snapshot.saveVersion := by
    simp only [PlayerPersistence.answers, Bool.decide_and, Bool.and_eq_true,
      decide_eq_true_eq] at hanswers
    exact hanswers.2.1
  -- a player in the game has a record that is kept
  have honline : ∀ q, actor = some q → r.offline = false := by
    intro q hq
    obtain ⟨p, hp, -⟩ := hactor q hq
    obtain ⟨-, hstays⟩ := hk.mirrors p r hp (hloading p hp) hr
    by_contra hoffline
    cases hstate.symm.trans (hstays (by simpa using hoffline))
  refine ⟨hk.lawful.append ⟨herrcode, hsuccess, hversion, task, hflying, htask, hbody⟩,
    fun r' hr' => ?_, fun _ => inFlight_confirmed .., fun q r' hq hload hr' => ?_,
    fun q hq hload hnone => ?_, fun before x after hsplit => ?_⟩
  · change (if _ then none else some (r.confirm snapshot)) = some r' at hr'
    split at hr'
    · cases hr'
    cases hr'
    refine ⟨fun _ => rfl, (fun _ h => by cases h), fun _ => inFlight_confirmed .., hs.next.append (by simp), ?_, ?_⟩
    · intro q hq
      obtain ⟨hbelow, hle⟩ := hs.queued q hq
      exact ⟨hbelow.append (by simp), hle⟩
    · exact ⟨snapshot, by simp [note, ThreadEvent.stores], rfl⟩
  · change actor = some q at hq
    change (if _ then none else some (r.confirm snapshot)) = some r' at hr'
    have hoffline := honline q hq
    rw [hoffline, if_neg (by simp)] at hr'
    cases hr'
    obtain ⟨p, hp, hreflects⟩ := hactor q hq
    obtain ⟨hm, -⟩ := hk.mirrors p r hp (hloading p hp) hr
    refine ⟨⟨⟨snapshot, by simp [note, ThreadEvent.stores], ?_⟩, (fun _ h => by cases h), ?_⟩, ?_⟩
    · exact hreflects _ _ (hm.active snapshot hactive)
    · exact fun x hx => hreflects _ _ (hm.queued x hx)
    · intro htrue
      cases hoffline.symm.trans htrue
  · change actor = some q at hq
    change (if _ then none else some (r.confirm snapshot)) = none at hnone
    rw [honline q hq, if_neg (by simp)] at hnone
    cases hnone
  · obtain ⟨after', rfl, hlog⟩ := split_before hsplit (by simp)
    rcases hk.gone before x after' hlog with hsaved | ⟨hleft, r₀, hr₀, hoffline, hretains⟩
    · exact .inl (hsaved.append _)
    cases hr.symm.trans hr₀
    rcases hretains with ⟨a, ha, hshows⟩ | ⟨q, hq, hshows⟩
    · cases hactive.symm.trans ha
      exact .inl (.inr ⟨r.taskId, result, snapshot, by simp, hshows⟩)
    · refine .inr ⟨hgone hleft, r.confirm snapshot, ?_, hoffline, .inr ⟨q, hq, hshows⟩⟩
      exact if_neg (by simp [hq])

/-- A player that may load has no record. -/
theorem Sane.no_record {enabled : Bool} (hs : l.Sane enabled id) {state : LoadState}
    (hload : l.load = some state) (hblocked : l.blocked = false) : l.record = none := by
  cases hp : l.actor with
  | some p => exact (hs.loading state p hload hp).2.2
  | none =>
    cases hr : l.record with
    | none => rfl
    | some r =>
      rw [blocked, hr] at hblocked
      exact absurd (hblocked.symm.trans (hs.absent hp r hr)) Bool.false_ne_true

theorem Round.kept (h : Round true id l l') (hs : l.Sane true id) (hkeyed : l.Keyed id)
    (hk : l.Kept) : l'.Kept := by
  have hnone : ∀ state p, l.load = some state → l.actor = some p → l.record = none :=
    fun state p hload hp => (hs.loading state p hload hp).2.2
  cases h with
  | advanced h => exact h.kept hk fun state hload hblocked => hs.no_record hload hblocked
  | flushed p henabled hactor hload hdirty h =>
    have hid := hkeyed.actor p hactor
    have hmax := hs.actorId henabled (by rw [hactor]; rfl)
    have hkept := hk.requested hactor hload (.refl p) (hid.1 ▸ hid.2) (hid.1 ▸ hmax) h (.inr rfl)
    rw [← hactor] at hkept
    exact hkept
  | dispatched r hrecord h => exact hk.dispatched hrecord h
  | loadFailed state hload =>
    exact hk.of_alike rfl rfl (fun _ _ => nofun) fun hgone _ => hgone
  | loaded state p p' snapshot hload hactor hepoch hbinding h =>
    have hrecord := hnone state p hload hactor
    have hsettled := hk.settled hrecord
    obtain ⟨hshows, hrevision, hversion, hpersisted⟩ := Player.shows_restored h
    refine ⟨hk.lawful.append hsettled, ?_, fun _ => (inFlight_calm _ rfl).trans hsettled, ?_,
      fun q hq _ _ => ?_, fun before x after hsplit => ?_⟩
    · intro r hr
      cases hrecord.symm.trans hr
    · intro q r _ _ hr
      cases hrecord.symm.trans hr
    · cases hq
      refine ⟨⟨snapshot, by simp [note, ThreadEvent.stores], hversion.symm, ?_⟩, ?_⟩
      · rw [hpersisted]
        exact ⟨Nat.zero_le _, fun _ => hshows⟩
      · rw [hversion]
        exact below_loaded _ _
    · obtain ⟨after', rfl, hlog⟩ := split_before hsplit (by simp)
      rcases hk.gone before x after' hlog with hsaved | ⟨hgone, -⟩
      · exact .inl (hsaved.append _)
      · cases hactor.symm.trans hgone
  | saveFailed r error hrecord => exact hk.saveFailed hrecord error
  | saved r snapshot taskId result heard hrecord hactive hstate htask herrcode hsuccess hanswers =>
    subst htask
    refine hk.saved hrecord hactive hstate herrcode hsuccess hanswers (fun p hp => ?_)
      (fun q hq => ?_) fun hgone => ?_
    · cases hload : l.load with
      | none => rfl
      | some state => cases hrecord.symm.trans (hnone state p hload hp)
    · split at hq
      · obtain ⟨p, hp, rfl⟩ := Option.map_eq_some_iff.mp hq
        exact ⟨p, hp, fun revision s h => h.told⟩
      · exact ⟨q, hq, fun _ _ h => h⟩
    · rw [hgone]
      simp
  | mutated p op hactor =>
    refine hk.of_alike rfl rfl (fun q hq hload => ?_) fun hgone _ => ?_
    · cases hq
      exact ⟨p, hactor, hload, (Alike.refl p).played (Player.played_apply op)⟩
    · cases hactor.symm.trans hgone

theorem LoggedOut.kept {p q : Player} (h : LoggedOut true q l l') (hk : l.Kept)
    (hactor : l.actor = some p) (hload : l.load = none) (halike : Alike p q)
    (hid : q.playerId ≠ 0) (hmax : q.playerId < 2 ^ 63) : l'.Kept := by
  cases h with
  | stayed =>
    refine hk.of_alike rfl rfl (fun q' hq' _ => ?_) fun hgone _ => ?_
    · cases hq'
      exact ⟨p, hactor, hload, halike⟩
    · cases hactor.symm.trans hgone
  | refused _ h => exact hk.requested hactor hload halike hid hmax h (.inl rfl)
  | saved _ h => exact hk.released hactor hload halike h
  | unsaved hdisabled => cases hdisabled

theorem Move.kept (h : Move true draining id l l') (hs : l.Sane true id) (hkeyed : l.Keyed id)
    (hk : l.Kept) : l'.Kept := by
  cases h with
  | round h => exact h.kept hs hkeyed hk
  | opened d session epoch henabled hdraining hid hlatest hwhen h =>
    refine h.kept (hk.of_alike rfl rfl (fun _ _ => by simp) fun hgone _ => ?_)
      fun state _ hblocked => ?_
    · exact Option.map_eq_none_iff.mpr hgone
    · change l.record = none
      rcases hwhen with ⟨old, hold, -⟩ | ⟨-, hgone⟩
      · exact hs.no_record hold hblocked
      · cases hr : l.record with
        | none => rfl
        | some r =>
          change l.record.any (·.offline) = false at hblocked
          rw [hr] at hblocked
          exact absurd (hblocked.symm.trans (hs.absent hgone r hr)) Bool.false_ne_true
  | bound d session epoch hdraining hid hlatest hwhen =>
    obtain ⟨hload, hsome⟩ := hwhen.resolve_left (by simp)
    obtain ⟨p, hp⟩ := Option.isSome_iff_exists.mp hsome
    refine hk.of_alike rfl rfl (fun q hq _ => ⟨p, hp, hload, ?_⟩) fun hgone _ => ?_
    · cases hq
      simp only [actorFor, hp, Option.getD_some]
      exact ⟨fun _ _ h => h.of_same rfl rfl, rfl, rfl⟩
    · cases hp.symm.trans hgone
  | cancelled state hload =>
    have hnone : l.actor.filter (fun p => p.clientBinding ≠ state.clientBinding) = none := by
      refine Option.filter_eq_none_iff.mpr fun p hp => ?_
      simp [(hs.loading state p hload hp).2.1]
    refine hk.of_alike rfl rfl (fun q hq _ => ?_) fun _ _ => hnone
    cases hnone.symm.trans hq
  | loggedOut p ops latest hactor hload h =>
    have hnoLoad : l.load = none := by
      cases hstate : l.load with
      | none => rfl
      | some state =>
        obtain ⟨hsession, hbinding, -⟩ := hs.loading state p hstate hactor
        exact absurd ⟨hbinding.symm, hsession.symm⟩ (hload state hstate)
    have hlatest : Kept { l with latest } :=
      hk.of_alike rfl rfl (fun q hq hnone => ⟨q, hq, hnone, .refl q⟩) fun hgone _ => hgone
    obtain ⟨hid, hne⟩ := hkeyed.actor p hactor
    have hrun : (p.run (ops.map (·.1))).playerId = id := (p.run_playerId ops).trans hid
    refine h.kept hlatest hactor hnoLoad (.run p ops) (hrun ▸ hne) ?_
    rw [hrun]
    exact hs.actorId rfl (by rw [hactor]; rfl)
  | drained state hload =>
    exact hk.of_alike rfl rfl (fun _ => by simp) fun _ _ => rfl

end Moves

end Life

namespace LogicThread

variable {s t : LogicThread}

theorem kept_step (hs : Sane true s) {l : Env × Label} (h : s.step l = some t)
    (hk : ∀ id, (s.life id).Kept) (id : Nat) : (t.life id).Kept := by
  obtain ⟨-, -, hmoves⟩ := step_moves h hs.orderly
  have hmove := hmoves id
  rw [hs.same] at hmove
  generalize t.life id = l' at hmove ⊢
  suffices h : l'.Kept ∧ l'.Sane true id ∧ l'.Keyed id from h.1
  induction hmove with
  | refl => exact ⟨hk id, hs.life id, hs.orderly.keyed id⟩
  | tail _ hmove ih =>
    obtain ⟨hkept, hsane, hkeyed⟩ := ih
    exact ⟨hmove.kept hsane hkeyed hkept, hmove.sane hsane, hmove.keyed hkeyed⟩

/-- No save is lost in any run of a thread that saves. -/
theorem kept_exec {ls : List (Env × Label)} (h : Run.exec step (started true) ls = some s)
    (id : Nat) : (s.life id).Kept := by
  have hboth := Run.exec_invariant (fun s => Sane true s ∧ ∀ id, (s.life id).Kept)
    (fun _ _ _ hs h => ⟨sane_step hs.1 h, kept_step hs.1 h hs.2⟩)
    ⟨sane_started true, fun _ => Life.kept_empty⟩ h
  exact hboth.2 id

/-- A player that is blocked is not loaded. -/
theorem advance_blocked {env : Env} {id : Nat} (hblocked : s.persistence.blocksLogin id = true)
    (h : s.advancePlayerLoads env = some t) : (t.life id).log = (s.life id).log := by
  have hlife : (s.life id).blocked = true := hblocked
  obtain ⟨-, -, hadvanced⟩ := advanced_once h
  have hmove := hadvanced id
  generalize s.life id = l at hlife hmove ⊢
  generalize t.life id = l' at hmove ⊢
  cases hmove with
  | idle => rfl
  | failed => rfl
  | created _ _ _ _ _ hfree => cases hlife.symm.trans hfree
  | submitted _ _ _ _ _ _ _ hfree => cases hlife.symm.trans hfree

/-- In every run of a thread that saves, the history of a player is lawful: one save is in flight
at a time, versions grow, and only the result of the save in flight confirms one. The state that
the player was removed with is stored, or in a record that blocks its next load. -/
theorem saves_kept {ls : List (Env × Label)} (h : Run.exec step (started true) ls = some s)
    (id : Nat) :
    History.Lawful law (s.life id).log ∧
      (∀ r, s.persistence.records.lookup id = some r →
        ∃ stored, lastStored (s.life id).log = some stored ∧
          stored.saveVersion = r.confirmedVersion) ∧
      ∀ before p after, (s.life id).log = before ++ .removed p :: after →
        Saved before after p ∨
          (∃ r, s.persistence.records.lookup id = some r ∧ r.Retains p) ∧
            s.persistence.blocksLogin id = true ∧
            ∀ env t, s.advancePlayerLoads env = some t → (t.life id).log = (s.life id).log := by
  have hk := kept_exec h id
  refine ⟨hk.lawful, fun r hr => (hk.sound r hr).confirmed, fun before p after hsplit => ?_⟩
  rcases hk.gone before p after hsplit with hsaved | ⟨-, r, hr, hoffline, hretains⟩
  · exact .inl hsaved
  · have hblocked : s.persistence.blocksLogin id = true := by
      unfold PlayerPersistence.blocksLogin
      rw [show s.persistence.records.lookup id = some r from hr]
      exact hoffline
    exact .inr ⟨⟨r, hr, hretains⟩, hblocked, fun env t ht => advance_blocked hblocked ht⟩

section Samples

def accepting : Env where
  saves _ := { submit := fun _ => true, newTaskId := 1 }
  submitLoad _ := true
  newTaskId _ := 1
  leaveScene _ := true
  onPlayerLogout _ := []

def bindingOf (clientEpoch : Nat) : Gateway.ClientData :=
  { playerId := 7, clientSession := 5, clientEpoch, gatewayId := 1, sceneId := 1 }

/-- The database answers with the row of player 7 at a version. -/
def loadOf (version : Nat) : DbResult where
  data := .arr [.arr [.arr ([100, 50, 0, 0, 0, 0, 1, version].map .int)],
    .arr [.arr ([64, 0, version].map .int)], .arr []]
  playerId := 7

/-- Player 7 is loaded at a version and loses some health. -/
def session (clientEpoch version : Nat) : List Label :=
  [ .binding
      { method := Gateway.GatewayPlayer.kOnline
        session := 3
        playerId := 7
        clientBinding := bindingOf clientEpoch },
    .dbResult 7 1 (loadOf version),
    .mutate 7 ⟨.set_hp 90, rfl⟩ ]

def logout (clientEpoch : Nat) : Label := .logoutReq 7 3 (some (bindingOf clientEpoch))

def run (labels : List Label) : List (Env × Label) := labels.map (accepting, ·)

/-- Player 7 logs out with a save that is not confirmed. -/
theorem saves_kept_logout :
    ∃ s, Run.exec step (started true) (run (session 1 5 ++ [logout 1])) = some s ∧
      History.Lawful law (s.life 7).log := by
  have hrun : (Run.exec step (started true) (run (session 1 5 ++ [logout 1]))).isSome = true := by
    decide +kernel
  obtain ⟨s, hs⟩ := Option.isSome_iff_exists.mp hrun
  exact ⟨s, hs, (saves_kept hs 7).1⟩

/-- The result of the first save. -/
def savedOf : DbResult where
  playerId := 7
  saveVersion := 6
  capturedRevision := 1
  saveLifecycleToken := 1

/-- All that happened to a player is that it was removed. -/
def onlyRemoved : List ThreadEvent → Bool
  | [.removed _] => true
  | _ => false

/-- Two saves are submitted, and the later one has no greater version. -/
def savesAgain : List ThreadEvent → Bool
  | [_, _, .saveSubmitted task, _, _, _, _, .saveSubmitted later] =>
    later.body.saveVersion ≤ task.body.saveVersion
  | _ => false

/-- A thread that does not save removes players that are stored nowhere, and a database that
answers with an older row makes a version come again. -/
theorem saves_not_always_kept :
    (¬ ∀ enabled ls s id, Run.exec step (started enabled) ls = some s →
      ∀ before p after, (s.life id).log = before ++ .removed p :: after →
        Saved before after p ∨ ∃ r, s.persistence.records.lookup id = some r ∧ r.Retains p) ∧
    ¬ ∀ ls s id, Run.exec step (started true) ls = some s →
      ∀ before task between later after,
        (s.life id).log =
          before ++ .saveSubmitted task :: between ++ .saveSubmitted later :: after →
        task.body.saveVersion < later.body.saveVersion := by
  constructor
  · intro hclaim
    have hrun : (Run.exec step (started false) (run (session 1 5 ++ [logout 1]))).any (fun s =>
        (s.persistence.records.lookup 7).isNone && onlyRemoved (s.life 7).log) = true := by
      decide +kernel
    obtain ⟨s, hs, hlost⟩ := (Option.any_eq_true _ _).mp hrun
    obtain ⟨hnone, hlog⟩ := Bool.and_eq_true_iff.mp hlost
    unfold onlyRemoved at hlog
    split at hlog
    · rename_i p heq
      rcases hclaim false _ s 7 hs [] p [] heq with ⟨hsaved | hsaved⟩ | ⟨r, hr, -⟩
      · obtain ⟨stored, hstored, -⟩ := hsaved
        cases hstored
      · obtain ⟨_, _, _, hmem, -⟩ := hsaved
        cases hmem
      · rw [hr] at hnone
        cases hnone
    · cases hlog
  · intro hclaim
    have hrun : (Run.exec step (started true)
        (run (session 1 5 ++ [logout 1, .dbResult 7 1 savedOf] ++ session 2 5 ++ [.flush]))).any
        (fun s => savesAgain (s.life 7).log) = true := by
      decide +kernel
    obtain ⟨s, hs, hagain⟩ := (Option.any_eq_true _ _).mp hrun
    unfold savesAgain at hagain
    split at hagain
    · rename_i e₁ e₂ task e₃ e₄ e₅ e₆ later heq
      have hlt := hclaim _ s 7 hs [e₁, e₂] task [e₃, e₄, e₅, e₆] later [] heq
      exact absurd hlt (Nat.not_lt.mpr (of_decide_eq_true hagain))
    · cases hagain

end Samples

end LogicThread

end Scene
