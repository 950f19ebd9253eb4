import GameServer.Scene.PlayerPersistence

/-!
# What a record does in one call

The ways a call can end, each with its guard and what it leaves of the record.
-/

namespace Scene

open Db (DbResult DbTask)

namespace PlayerPersistence

namespace Record

/-- What `dispatch` can leave and hand over. -/
inductive Dispatched (r : Record) : Record → List SaveTask → Prop
  | nothing (h : r.state ≠ .idle ∨ r.queued = none) : Dispatched r r []
  | refused (snapshot : PlayerSaveSnapshot) (error : Gateway.Bytes) (hqueued : r.queued = some snapshot)
      (hstate : r.state = .idle) (herror : ∀ body, PlayerSnapshotDao.buildSave snapshot ≠ .ok body) :
      Dispatched r { r with state := .blocked, error } []
  | sent (snapshot : PlayerSaveSnapshot) (body : DbTask) (taskId : Nat)
      (hqueued : r.queued = some snapshot) (hstate : r.state = .idle)
      (hbody : PlayerSnapshotDao.buildSave snapshot = .ok body) :
      Dispatched r
        { r with taskId, active := some snapshot, queued := none, state := .awaitResult }
        [{ playerId := body.playerId, epoch := r.actorEpoch, taskId, body }]
  | waits (snapshot : PlayerSaveSnapshot) (taskId : Nat) (hqueued : r.queued = some snapshot)
      (hstate : r.state = .idle) : Dispatched r { r with taskId } []

theorem dispatched (r : Record) (d : SaveDelivery) :
    Dispatched r (r.dispatch d).1 (r.dispatch d).2 := by
  unfold dispatch
  split
  · rename_i snapshot hstate hqueued
    split
    · rename_i error herror
      refine .refused snapshot _ hqueued hstate fun body hbody => ?_
      cases herror.symm.trans hbody
    · rename_i body hbody
      generalize (if r.taskId = 0 then d.newTaskId else r.taskId) = taskId
      dsimp only
      split
      · exact .sent snapshot body _ hqueued hstate hbody
      · exact .waits snapshot _ hqueued hstate
  · rename_i hnot
    refine .nothing ?_
    cases hstate : r.state with
    | idle =>
      cases hqueued : r.queued with
      | none => exact .inr rfl
      | some snapshot => exact absurd hqueued (hnot snapshot hstate)
    | awaitResult => exact .inl nofun
    | blocked => exact .inl nofun

/-- The record as `request` takes it over for the player. -/
def taken (r : Record) (p : Player) (offline : Bool) : Record :=
  { r with actorEpoch := p.epoch, offline := r.offline || offline }

/-- How `request` can end. -/
inductive Asked (r : Record) (p : Player) (offline : Bool) :
    Bool → Option Record → List SaveTask → Prop
  | foreign (hepoch : r.actorEpoch ≠ p.epoch) (hoffline : r.offline = true) :
      Asked r p offline false (some r) []
  | held (h : r.active.any (·.capturedRevision = p.mutationRevision) = true ∧ r.queued = none ∨
      r.queued.any (·.capturedRevision = p.mutationRevision) = true) :
      Asked r p offline true (some (r.taken p offline)) []
  | clean (hdirty : p.dirty = false) (hrevision : p.mutationRevision = r.confirmedRevision)
      (hactive : r.active = none) :
      Asked r p offline true (if offline then none else some (r.taken p offline)) []
  | exhausted (error : Gateway.Bytes) (h : maxVersion ≤ r.nextVersion) :
      Asked r p offline false (some { r.taken p offline with state := .blocked, error }) []
  | refused (snapshot : PlayerSaveSnapshot) (error : Gateway.Bytes)
      (hfrozen : p.freezeSaveSnapshot (r.nextVersion + 1) r.token = .ok snapshot)
      (herror : ∀ body, PlayerSnapshotDao.buildSave snapshot ≠ .ok body) :
      Asked r p offline false (some { r.taken p offline with error }) []
  | frozen (snapshot : PlayerSaveSnapshot) (body : DbTask) {r' : Record} {sent : List SaveTask}
      (hnext : r.nextVersion < maxVersion)
      (hfrozen : p.freezeSaveSnapshot (r.nextVersion + 1) r.token = .ok snapshot)
      (hbody : PlayerSnapshotDao.buildSave snapshot = .ok body)
      (h : Dispatched ((r.taken p offline).enqueue snapshot) r' sent) :
      Asked r p offline true (some r') sent

/-- A request is never an exception. -/
theorem asked (r : Record) (p : Player) (offline : Bool) (d : SaveDelivery) :
    ∃ ok record sent, r.request p offline d = some (ok, record, sent) ∧
      Asked r p offline ok record sent := by
  unfold request
  split
  · rename_i h
    exact ⟨_, _, _, rfl, .foreign h.1 h.2⟩
  · dsimp only
    split
    · rename_i h
      exact ⟨_, _, _, rfl, .held (.inl ⟨h.1, Option.isNone_iff_eq_none.mp h.2⟩)⟩
    · split
      · rename_i h
        exact ⟨_, _, _, rfl, .held (.inr h)⟩
      · split
        · rename_i h
          obtain ⟨hdirty, hrevision, hactive⟩ := h
          exact ⟨_, _, _, rfl, .clean (by simpa using hdirty) hrevision
            (Option.isNone_iff_eq_none.mp hactive)⟩
        · split
          · rename_i h
            exact ⟨_, _, _, rfl, .exhausted _ h⟩
          · rename_i hnext
            have hlt : r.nextVersion < maxVersion := Nat.lt_of_not_le hnext
            have hfrozen : ∃ snapshot,
                p.freezeSaveSnapshot (r.nextVersion + 1) r.token = .ok snapshot := by
              have hmax : maxVersion + 1 = 2 ^ 63 := rfl
              unfold Player.freezeSaveSnapshot
              rw [if_neg (by omega)]
              exact ⟨_, rfl⟩
            obtain ⟨snapshot, hfrozen⟩ := hfrozen
            rw [hfrozen]
            dsimp only
            split
            · rename_i error herror
              refine ⟨_, _, _, rfl, .refused snapshot _ hfrozen fun body hbody => ?_⟩
              cases herror.symm.trans hbody
            · rename_i body hbody
              exact ⟨_, _, _, rfl, .frozen snapshot body hlt hfrozen hbody (dispatched _ d)⟩

/-- The player after the result of its save. -/
def confirmActor (r : Record) (result : DbResult) (snapshot : PlayerSaveSnapshot) (p : Player) :
    Player :=
  if p.playerId = result.playerId ∧ p.epoch = r.actorEpoch ∧ !r.offline then
    p.confirmSave snapshot.saveVersion snapshot.capturedRevision
  else p

theorem confirmActor_binding (r : Record) (result : DbResult) (snapshot : PlayerSaveSnapshot)
    (p : Player) : (r.confirmActor result snapshot p).session = p.session ∧
      (r.confirmActor result snapshot p).clientBinding = p.clientBinding := by
  unfold confirmActor Player.confirmSave
  split
  · split <;> exact ⟨rfl, rfl⟩
  · exact ⟨rfl, rfl⟩

section Owner

variable {r r' : Record} {sent : List SaveTask} {id : Nat}

/-- The snapshots of a record are of this player. -/
def Of (id : Nat) (r : Record) : Prop :=
  ∀ snapshot, r.active = some snapshot ∨ r.queued = some snapshot → snapshot.playerId = id

theorem buildSave_playerId {snapshot : PlayerSaveSnapshot} {body : DbTask}
    (h : PlayerSnapshotDao.buildSave snapshot = .ok body) : body.playerId = snapshot.playerId := by
  unfold PlayerSnapshotDao.buildSave at h
  split at h
  · cases h
  · split at h
    · cases h
    · cases h
      rfl

theorem Dispatched.of (h : Dispatched r r' sent) (hr : r.Of id) :
    r'.Of id ∧ ∀ task ∈ sent, task.playerId = id := by
  cases h with
  | nothing => exact ⟨hr, nofun⟩
  | refused => exact ⟨hr, nofun⟩
  | sent snapshot body taskId hqueued hstate hbody =>
    have hid := hr snapshot (.inr hqueued)
    refine ⟨fun snapshot' h => ?_, fun task htask => ?_⟩
    · rcases h with h | h
      · cases h
        exact hid
      · cases h
    · cases List.mem_singleton.mp htask
      exact (buildSave_playerId hbody).trans hid
  | waits => exact ⟨hr, nofun⟩

theorem Asked.of {p : Player} {offline ok : Bool} {record : Option Record}
    (h : Asked r p offline ok record sent) (hp : p.playerId = id) (hr : r.Of id) :
    (∀ r', record = some r' → r'.Of id) ∧ ∀ task ∈ sent, task.playerId = id := by
  cases h with
  | foreign => exact ⟨fun r' h => by cases h; exact hr, nofun⟩
  | held => exact ⟨fun r' h => by cases h; exact hr, nofun⟩
  | clean =>
    refine ⟨fun r' h => ?_, nofun⟩
    split at h
    · cases h
    · cases h
      exact hr
  | exhausted => exact ⟨fun r' h => by cases h; exact hr, nofun⟩
  | refused => exact ⟨fun r' h => by cases h; exact hr, nofun⟩
  | frozen snapshot body hnext hfrozen hbody h =>
    have hsnapshot : snapshot.playerId = p.playerId := by
      unfold Player.freezeSaveSnapshot at hfrozen
      split at hfrozen
      · cases hfrozen
      · cases hfrozen
        rfl
    have hof : ((r.taken p offline).enqueue snapshot).Of id := by
      intro snapshot' h
      rcases h with h | h
      · exact hr snapshot' (.inl h)
      · cases h
        exact hsnapshot.trans hp
    obtain ⟨hr', hsent⟩ := h.of hof
    exact ⟨fun r'' h => by cases h; exact hr', hsent⟩

end Owner

end Record

/-- How `complete` can end. -/
inductive Ended (s : PlayerPersistence) (taskId : Nat) (result : DbResult) (live : Option Player)
    (done : Completed) : Prop
  | ignored (hpersistence : done.persistence = s) (hlive : done.live = live)
      (hconfirmed : done.confirmed = none)
  | blocked (k : Nat) (r : Record) (error : Gateway.Bytes) (hrecord : s.records.lookup k = some r)
      (hactive : r.active.isSome = true) (hstate : r.state = .awaitResult)
      (hpersistence : done.persistence = s.put k (some (r.block error))) (hlive : done.live = live)
      (hconfirmed : done.confirmed = none)
  | confirmed (k : Nat) (r : Record) (snapshot : PlayerSaveSnapshot)
      (hrecord : s.records.lookup k = some r) (htask : r.taskId = taskId)
      (hactive : r.active = some snapshot) (hstate : r.state = .awaitResult)
      (herrcode : result.errcode = 0) (hsuccess : result.classification = .success)
      (hanswers : answers result snapshot r.token = true)
      (hpersistence : done.persistence =
        s.put k (if r.offline ∧ r.queued.isNone then none else some (r.confirm snapshot)))
      (hlive : done.live = live.map (r.confirmActor result snapshot))
      (hconfirmed : done.confirmed = some snapshot)

theorem complete_ended (s : PlayerPersistence) (taskId : Nat) (result : DbResult)
    (live : Option Player) : Ended s taskId result live (s.complete taskId result live) := by
  unfold complete
  split
  · exact .ignored rfl rfl rfl
  · rename_i row hrow
    have hrecord := Table.lookup_of_mem (List.mem_of_find?_eq_some hrow)
    have htask : row.2.taskId = taskId := by simpa using List.find?_some hrow
    unfold finish
    split
    · exact .ignored rfl rfl rfl
    · rename_i snapshot hactive
      split
      · exact .ignored rfl rfl rfl
      · rename_i hstate
        have hstate := not_not.mp hstate
        have hsome : row.2.active.isSome = true := by rw [hactive]; rfl
        split
        · exact .blocked row.1 row.2 _ hrecord hsome hstate rfl rfl rfl
        · rename_i hresult
          obtain ⟨herrcode, hsuccess⟩ := not_or.mp hresult
          split
          · exact .blocked row.1 row.2 _ hrecord hsome hstate rfl rfl rfl
          · rename_i hanswers
            exact .confirmed row.1 row.2 snapshot hrecord htask hactive hstate
              (not_not.mp herrcode) (not_not.mp hsuccess) (by simpa using hanswers) rfl rfl rfl

end PlayerPersistence

end Scene
