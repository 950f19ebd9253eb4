import GameServer.Aoi.Freshness

/-!
# No event is lost or sent twice

A local event waits, for each of the other workers, until the sink has taken it for
that worker. The calls of a worker about its own players either apply one event, which
gets the next number and begins to wait, or leave everything that is published alone.
-/

namespace Aoi

open AoiReplica

/-- A call about a player of the worker. -/
inductive LocalCall where
  | enter (p : PlayerPose)
  | reenter (p : PlayerPose)
  | moved (p : PlayerPose)
  | leave (id : EntityId)

/-- The targets that a task waits for, each with its event. -/
def PublishTask.waits (task : PublishTask) : List (WorkerId × AoiEvent) :=
  task.remaining.map fun target => (target, task.event)

namespace AoiService

variable (sc : Scene) (wId : WorkerId) (targets : List WorkerId) (s : AoiService)

def localCall : LocalCall → Option (ApplyResult × AoiService)
  | .enter p => s.onEntityEnter sc wId targets p
  | .reenter p => s.onEntityReenter sc wId targets p
  | .moved p => s.onLocalEntityMoved sc wId targets p
  | .leave id => s.onEntityLeave sc wId targets id

/-- What still waits to be published, by target. -/
def outstanding : List (WorkerId × AoiEvent) := s.pendingPublishes.flatMap PublishTask.waits

end AoiService

/-- The event that a call makes and numbers. -/
def LocalCall.event (wId : WorkerId) (s : AoiService) : LocalCall → Option AoiEvent
  | .enter p | .reenter p =>
    (s.identify wId p.id).map fun out =>
      { AoiService.enterEvent wId p out.1 with ownerSeq := s.ownerSeq + 1 }
  | .moved p =>
    ((s.entityOf p.id).bind s.replica.findById).map fun ent =>
      { fromEntity ent .move with
        target_x := p.x.toNat
        target_y := p.y.toNat
        target_dir := p.dir
        actorEpoch := p.epoch
        spatialVersion := ent.spatialVersion + 1
        ownerSeq := s.ownerSeq + 1 }
  | .leave id =>
    (s.replica.findById id).map fun ent =>
      { fromEntity ent .leave with
        spatialVersion := ent.spatialVersion + 1
        ownerSeq := s.ownerSeq + 1 }

/-- A call has left alone what is published. A player that comes for the first time keeps the
identity it was given, and its generation is that of a player without one. -/
structure Untouched (s t : AoiService) : Prop where
  replica : t.replica = s.replica
  ownerSeq : t.ownerSeq = s.ownerSeq
  pendingPublishes : t.pendingPublishes = s.pendingPublishes
  workerQueue : t.workerQueue = s.workerQueue
  identities : ∀ pid i, t.identities.lookup pid = some i →
    s.identities.lookup pid = some i ∨ s.identities.lookup pid = none ∧ i.generation = 0
  kept : ∀ pid i, s.identities.lookup pid = some i → t.identities.lookup pid = some i

variable {sc : Scene} {wId : WorkerId} {targets : List WorkerId} {s t : AoiService}

theorem Untouched.refl (s : AoiService) : Untouched s s :=
  ⟨rfl, rfl, rfl, rfl, fun _ _ h => .inl h, fun _ _ h => h⟩

/-- How a call can end. -/
inductive Ended (sc : Scene) (wId : WorkerId) (targets : List WorkerId) (s : AoiService)
    (c : LocalCall) : ApplyResult → AoiService → Prop
  | failed {res : ApplyResult} {t : AoiService} (hres : res ≠ .applied) (h : Untouched s t) :
      Ended sc wId targets s c res t
  | applied {t : AoiService} (ev : AoiEvent) (dirty : Observers) (hevent : c.event wId s = some ev)
      (happly : s.replica.apply sc wId ev .kLocal s.dirtyObservers =
        some (.applied, t.replica, dirty))
      (hnumber : ev.ownerSeq = s.ownerSeq + 1) (hseq : t.ownerSeq = s.ownerSeq + 1)
      (hpending : t.pendingPublishes =
        if targets = [] then s.pendingPublishes
        else s.pendingPublishes ++ [{ event := ev, remaining := targets }])
      (hqueue : t.workerQueue = s.workerQueue) : Ended sc wId targets s c .applied t

section Calls

theorem identify_untouched {pid : Nat} {i : LocalIdentity}
    (h : s.identify wId pid = some (i, t)) :
    Untouched s t ∧ t.dirtyObservers = s.dirtyObservers := by
  unfold AoiService.identify at h
  split at h
  · cases h
    exact ⟨.refl s, rfl⟩
  rename_i hnone
  split at h
  · cases h
  · cases h
    refine ⟨⟨rfl, rfl, rfl, rfl, fun q j hj => ?_, fun q j hj => ?_⟩, rfl⟩
    · rw [Table.lookup_insert] at hj
      split at hj
      · rename_i hq
        cases hj
        exact .inr ⟨hq ▸ hnone, rfl⟩
      · exact .inl hj
    · rw [Table.lookup_insert, if_neg]
      · exact hj
      · rintro rfl
        cases hnone.symm.trans hj

/-- A call ends as its event does. -/
theorem Ended.of_applyLocal {c : LocalCall} {event : AoiEvent} {res : ApplyResult}
    (hevent : c.event wId s = some { event with ownerSeq := s.ownerSeq + 1 })
    (hrun : s.applyLocal sc wId targets event = some (res, t)) : Ended sc wId targets s c res t := by
  rcases applyLocal_spec hrun with ⟨hres, rfl⟩ | ⟨rfl, rep, dirty, happly, rfl⟩
  · exact .failed hres (.refl _)
  · exact .applied _ dirty hevent happly rfl rfl rfl rfl

theorem enter_ended {p : PlayerPose} {reenter : Bool} {c : LocalCall} {res : ApplyResult}
    (hc : c.event wId s = (s.identify wId p.id).map fun out =>
      { AoiService.enterEvent wId p out.1 with ownerSeq := s.ownerSeq + 1 })
    (hrun : s.enter sc wId targets p reenter = some (res, t)) :
    Ended sc wId targets s c res t := by
  unfold AoiService.enter at hrun
  split at hrun
  · cases hrun
    exact .failed nofun (.refl s)
  split at hrun
  · cases hrun
    exact .failed nofun (.refl s)
  cases hident : s.identify wId p.id with
  | none =>
    simp only [hident] at hrun
    cases hrun
    exact .failed nofun (.refl s)
  | some out =>
    obtain ⟨i, u⟩ := out
    obtain ⟨huntouched, hdirty⟩ := identify_untouched hident
    simp only [hident] at hrun
    split at hrun
    · cases hrun
      exact .failed nofun huntouched
    split at hrun
    · cases hrun
      exact .failed nofun huntouched
    simp only [Option.bind_eq_bind, Option.bind_eq_some_iff] at hrun
    obtain ⟨⟨result, v⟩, happly, hrun⟩ := hrun
    rcases applyLocal_spec happly with ⟨hres, rfl⟩ | ⟨rfl, rep, dirty, hrep, rfl⟩
    · rw [if_neg hres] at hrun
      cases hrun
      exact .failed hres huntouched
    · rw [if_pos rfl] at hrun
      cases hrun
      rw [huntouched.replica, hdirty] at hrep
      refine .applied _ dirty ?_ hrep ?_ ?_ ?_ huntouched.workerQueue
      · rw [hc, hident, huntouched.ownerSeq]
        rfl
      · exact congrArg (· + 1) huntouched.ownerSeq
      · exact congrArg (· + 1) huntouched.ownerSeq
      · exact congrArg (fun pending => if targets = [] then pending else pending ++ _)
          huntouched.pendingPublishes

theorem moved_ended {p : PlayerPose} {res : ApplyResult}
    (hrun : s.onLocalEntityMoved sc wId targets p = some (res, t)) :
    Ended sc wId targets s (.moved p) res t := by
  unfold AoiService.onLocalEntityMoved at hrun
  cases hent : (s.entityOf p.id).bind s.replica.findById with
  | none =>
    simp only [hent] at hrun
    cases hrun
    exact .failed nofun (.refl s)
  | some ent =>
    simp only [hent] at hrun
    split at hrun
    · cases hrun
      exact .failed nofun (.refl s)
    split at hrun
    · cases hrun
      exact .failed nofun (.refl s)
    split at hrun
    · cases hrun
      exact .failed nofun (.refl s)
    refine .of_applyLocal ?_ hrun
    simp only [LocalCall.event, hent, Option.map_some]

theorem leave_ended {id : EntityId} {res : ApplyResult}
    (hrun : s.onEntityLeave sc wId targets id = some (res, t)) :
    Ended sc wId targets s (.leave id) res t := by
  unfold AoiService.onEntityLeave at hrun
  cases hent : s.replica.findById id with
  | none =>
    simp only [hent] at hrun
    cases hrun
    exact .failed nofun (.refl s)
  | some ent =>
    simp only [hent] at hrun
    split at hrun
    · cases hrun
      exact .failed nofun (.refl s)
    split at hrun
    · cases hrun
      exact .failed nofun (.refl s)
    simp only [Option.bind_eq_bind, Option.bind_eq_some_iff] at hrun
    obtain ⟨⟨result, u⟩, happly, hrun⟩ := hrun
    have hended : Ended sc wId targets s (.leave id) result u := by
      refine .of_applyLocal ?_ happly
      simp only [LocalCall.event, hent, Option.map_some]
    split at hrun
    · cases hrun
      cases hended with
      | failed hres => contradiction
      | applied ev dirty hevent happly hnumber hseq hpending hqueue =>
        exact .applied ev dirty hevent happly hnumber hseq hpending hqueue
    · cases hrun
      exact hended

theorem localCall_ended {c : LocalCall} {res : ApplyResult}
    (hrun : s.localCall sc wId targets c = some (res, t)) : Ended sc wId targets s c res t := by
  cases c with
  | enter p => exact enter_ended rfl hrun
  | reenter p => exact enter_ended rfl hrun
  | moved p => exact moved_ended hrun
  | leave id => exact leave_ended hrun

end Calls

section Rounds

variable (sink : Sink)

/-- A round moves what the sink takes, and nothing else, out of what waits. -/
theorem retryOne_perm (task : PublishTask) :
    ((AoiService.retryOne sink task).1 ++ (AoiService.retryOne sink task).2.waits).Perm
      task.waits := by
  unfold AoiService.retryOne
  split
  · exact .refl _
  · unfold PublishTask.waits
    rw [← List.map_append]
    exact (List.filter_append_perm _ _).map _

theorem retryAll_perm (tasks : List PublishTask) :
    ((tasks.map (AoiService.retryOne sink)).flatMap (·.1) ++
        ((tasks.map (AoiService.retryOne sink)).map (·.2)).flatMap PublishTask.waits).Perm
      (tasks.flatMap PublishTask.waits) := by
  induction tasks with
  | nil => exact .refl _
  | cons task tasks ih =>
    have hone := retryOne_perm sink task
    simp only [List.map_cons, List.flatMap_cons]
    refine List.Perm.trans ?_ (hone.append ih)
    rw [List.append_assoc, List.append_assoc]
    exact (List.perm_append_comm_assoc _ _ _).append_left _

/-- A task that is taken off the queue has no target left. -/
theorem waits_kept (tasks : List PublishTask) :
    (tasks.filter fun task => !AoiService.validEvent task.event || task.remaining ≠ []).flatMap
      PublishTask.waits = tasks.flatMap PublishTask.waits := by
  induction tasks with
  | nil => rfl
  | cons task tasks ih =>
    rw [List.filter_cons]
    split
    · rw [List.flatMap_cons, List.flatMap_cons, ih]
    · rename_i hdropped
      have hnone : task.remaining = [] := by
        by_contra hsome
        exact hdropped (by simp [hsome])
      rw [List.flatMap_cons, ih, PublishTask.waits, hnone]
      rfl

theorem retryPublishes_perm (s : AoiService) :
    ((s.retryPublishes sink).workerQueue ++ (s.retryPublishes sink).outstanding).Perm
      (s.workerQueue ++ s.outstanding) := by
  unfold AoiService.outstanding AoiService.retryPublishes
  dsimp only
  rw [waits_kept, List.append_assoc]
  exact (retryAll_perm sink s.pendingPublishes).append_left _

end Rounds

/-- A service with the events that its calls have applied, oldest first. -/
structure Publisher where
  service : AoiService := {}
  issued : List AoiEvent := []

inductive Publisher.Label where
  | call (c : LocalCall)
  | retry (sink : Sink)

namespace Publisher

/-- `none` is a signed overflow in `getWatchCellIdx`. -/
def step (sc : Scene) (wId : WorkerId) (targets : List WorkerId) (p : Publisher) :
    Label → Option Publisher
  | .call c =>
    (p.service.localCall sc wId targets c).map fun (res, service) =>
      { service
        issued := if res = .applied then p.issued ++ (c.event wId p.service).toList else p.issued }
  | .retry sink => some { p with service := p.service.retryPublishes sink }

/-- Every event has its number, and each target has taken it or is waited for. -/
structure Conserved (targets : List WorkerId) (p : Publisher) : Prop where
  numbers : p.issued.map (·.ownerSeq) = List.range' 1 p.service.ownerSeq
  shared : (p.service.workerQueue ++ p.service.outstanding).Perm
    (p.issued.flatMap fun ev => targets.map fun target => (target, ev))

theorem conserved_init (targets : List WorkerId) : Conserved targets {} where
  numbers := rfl
  shared := .refl _

variable {p q : Publisher}

theorem Conserved.call (h : Conserved targets p) {c : LocalCall} {res : ApplyResult}
    (hended : Ended sc wId targets p.service c res t) :
    Conserved targets
      { service := t
        issued := if res = .applied then p.issued ++ (c.event wId p.service).toList
          else p.issued } := by
  cases hended with
  | failed hres huntouched =>
    rw [if_neg hres]
    refine ⟨by rw [huntouched.ownerSeq]; exact h.numbers, ?_⟩
    have hshared := h.shared
    unfold AoiService.outstanding at hshared ⊢
    rw [huntouched.workerQueue, huntouched.pendingPublishes]
    exact hshared
  | applied ev dirty hevent happly hnumber hseq hpending hqueue =>
    rw [if_pos rfl, hevent]
    constructor
    · simp only [Option.toList_some, List.map_append, List.map_cons, List.map_nil, hseq, hnumber,
        List.range'_concat, h.numbers, Nat.one_mul, Nat.add_comm 1]
    · have houtstanding : t.outstanding =
          p.service.outstanding ++ targets.map fun target => (target, ev) := by
        unfold AoiService.outstanding
        rw [hpending]
        split
        · rename_i hnone
          rw [hnone, List.map_nil, List.append_nil]
        · rw [List.flatMap_append, List.flatMap_singleton]
          rfl
      change (t.workerQueue ++ t.outstanding).Perm _
      rw [houtstanding, hqueue, ← List.append_assoc, Option.toList_some, List.flatMap_append,
        List.flatMap_singleton]
      exact h.shared.append_right _

theorem Conserved.step (h : Conserved targets p) {l : Label}
    (hrun : p.step sc wId targets l = some q) : Conserved targets q := by
  cases l with
  | call c =>
    obtain ⟨⟨res, t⟩, hcall, rfl⟩ := Option.map_eq_some_iff.mp hrun
    exact h.call (localCall_ended hcall)
  | retry sink =>
    cases Option.some.inj hrun
    exact ⟨h.numbers, (retryPublishes_perm sink p.service).trans h.shared⟩

theorem Conserved.exec (h : Conserved targets p) {ls : List Label}
    (hrun : Run.exec (Publisher.step sc wId targets) p ls = some q) : Conserved targets q :=
  Run.exec_invariant (Conserved targets) (fun _ _ _ hp hstep => hp.step hstep) h hrun

/-- So often has a target taken an event or is waited for. -/
theorem Conserved.count (h : Conserved targets p) (hnodup : targets.Nodup) (target : WorkerId)
    (ev : AoiEvent) :
    p.service.workerQueue.count (target, ev) + p.service.outstanding.count (target, ev) =
      if target ∈ targets ∧ ev ∈ p.issued then 1 else 0 := by
  have hissued : p.issued.Nodup := by
    refine List.Nodup.of_map (·.ownerSeq) ?_
    rw [h.numbers]
    exact List.nodup_range'
  have hpairs : (p.issued.flatMap fun ev => targets.map fun target => (target, ev)).Nodup := by
    refine List.nodup_flatMap.mpr ⟨fun ev _ => ?_, hissued.imp fun {a b} hne => ?_⟩
    · exact hnodup.map fun x y hxy => (Prod.mk.inj hxy).1
    · intro pair ha hb
      obtain ⟨x, -, rfl⟩ := List.mem_map.mp ha
      obtain ⟨y, -, hy⟩ := List.mem_map.mp hb
      exact hne (Prod.mk.inj hy).2.symm
  have hmem : (target, ev) ∈ (p.issued.flatMap fun ev => targets.map fun target => (target, ev)) ↔
      target ∈ targets ∧ ev ∈ p.issued := by
    rw [List.mem_flatMap]
    constructor
    · rintro ⟨a, ha, hpair⟩
      obtain ⟨x, hx, heq⟩ := List.mem_map.mp hpair
      cases heq
      exact ⟨hx, ha⟩
    · rintro ⟨htarget, hev⟩
      exact ⟨ev, hev, List.mem_map_of_mem htarget⟩
  rw [← List.count_append, h.shared.count_eq, hpairs.count]
  exact if_congr hmem rfl rfl

theorem nodup_publishTargets (wId : WorkerId) (hooks : List WorkerId) :
    (publishTargets wId hooks).Nodup :=
  (List.nodup_dedup _).filter _

/-- The numbers of the applied events are consecutive, each target has taken each of them once or
is still waited for, and a call that fails leaves all that alone. -/
theorem publishes_once (sc : Scene) (wId : WorkerId) (hooks : List WorkerId) {ls : List Label}
    (h : Run.exec (Publisher.step sc wId (publishTargets wId hooks)) {} ls = some p) :
    p.issued.map (·.ownerSeq) = List.range' 1 p.service.ownerSeq ∧
    (∀ target ev,
      p.service.workerQueue.count (target, ev) + p.service.outstanding.count (target, ev) =
        if target ∈ publishTargets wId hooks ∧ ev ∈ p.issued then 1 else 0) ∧
    ∀ c res t, p.service.localCall sc wId (publishTargets wId hooks) c = some (res, t) →
      (res = .applied → ∃ ev dirty, c.event wId p.service = some ev ∧
        ev.ownerSeq = p.service.ownerSeq + 1 ∧ t.ownerSeq = p.service.ownerSeq + 1 ∧
        p.service.replica.apply sc wId ev .kLocal p.service.dirtyObservers =
          some (.applied, t.replica, dirty)) ∧
      (res ≠ .applied → Untouched p.service t) := by
  have hconserved := (conserved_init (publishTargets wId hooks)).exec h
  refine ⟨hconserved.numbers, hconserved.count (nodup_publishTargets wId hooks), ?_⟩
  intro c res t hcall
  cases localCall_ended hcall with
  | failed hres huntouched => exact ⟨fun h => absurd h hres, fun _ => huntouched⟩
  | applied ev dirty hevent happly hnumber hseq =>
    exact ⟨fun _ => ⟨ev, dirty, hevent, hnumber, hseq, happly⟩, fun h => absurd rfl h⟩

/-- A player enters, one of two workers takes the event, and the player moves. -/
def partlyTaken : List Label :=
  [.call (.enter ⟨7, 1, 1, 0, 1⟩), .retry ⟨fun _ => .accepted, fun _ target => target = 1⟩,
    .call (.moved ⟨7, 2, 1, 0, 1⟩)]

theorem publishes_once_partlyTaken :
    ∃ p, Run.exec (Publisher.step smallScene 0 (publishTargets 0 [2, 1, 0, 2])) {} partlyTaken =
        some p ∧
      p.service.ownerSeq = 2 ∧ p.service.outstanding.length = 3 ∧
      p.issued.map (·.ownerSeq) = List.range' 1 p.service.ownerSeq := by
  have hsome : ∃ p, Run.exec (Publisher.step smallScene 0 (publishTargets 0 [2, 1, 0, 2])) {}
      partlyTaken = some p ∧ p.service.ownerSeq = 2 ∧ p.service.outstanding.length = 3 := by
    decide +kernel
  obtain ⟨p, hp, hseq, hlength⟩ := hsome
  exact ⟨p, hp, hseq, hlength, (publishes_once smallScene 0 [2, 1, 0, 2] hp).1⟩

end Publisher

end Aoi
