import GameServer.Lib.Run
import GameServer.Scene.LifeSteps

/-!
# What holds of each player at any time

A player that is loading is loading for the binding of its actor and has no record, a
record without an actor blocks the next login, and with persistence only identities
that the database can hold get so far.
-/

namespace Scene

open PlayerPersistence (Record)

namespace PlayerPersistence.Record

variable {r r' : Record} {sent : List SaveTask}

theorem Dispatched.offline (h : Dispatched r r' sent) : r'.offline = r.offline := by
  cases h <;> rfl

/-- A record that a granted request for a final save leaves blocks the next login. -/
theorem Asked.offline {p : Player} {record : Option Record} (h : r.Asked p true true record sent) :
    ∀ r', record = some r' → r'.offline = true := by
  intro r' hr'
  have htaken : (r.taken p true).offline = true := Bool.or_true _
  cases h with
  | held =>
    cases hr'
    exact htaken
  | clean => cases hr'
  | frozen snapshot body _ _ _ h =>
    cases hr'
    exact h.offline.trans htaken

end PlayerPersistence.Record

namespace Life

structure Sane (enabled : Bool) (id : Nat) (l : Life) : Prop where
  actorId : enabled = true → l.actor.isSome = true → id < 2 ^ 63
  recordId : l.record.isSome = true → enabled = true ∧ id < 2 ^ 63
  loadId : l.load.isSome = true → enabled = true ∧ id ≠ 0 ∧ id < 2 ^ 63
  loading : ∀ state p, l.load = some state → l.actor = some p →
    p.session = state.session ∧ p.clientBinding = state.clientBinding ∧ l.record = none
  absent : l.actor = none → ∀ r, l.record = some r → r.offline = true

variable {enabled draining : Bool} {id : Nat} {l l' : Life}

theorem sane_empty (enabled : Bool) (id : Nat) : Sane enabled id {} where
  actorId := nofun
  recordId := nofun
  loadId := nofun
  loading := nofun
  absent := nofun

/-- A load that is advanced, whether it is new or not. -/
theorem Advanced.sane (h : Advanced id l l') (henabled : l.load.isSome = true → enabled = true ∧ id ≠ 0)
    (hactor : enabled = true → l.actor.isSome = true → id < 2 ^ 63)
    (hrecord : l.record.isSome = true → enabled = true ∧ id < 2 ^ 63)
    (hload : ∀ state, l.load = some state → state.failed = true ∨ state.taskId ≠ 0 → id < 2 ^ 63)
    (hloading : ∀ state p, l.load = some state → l.actor = some p → l.record = none ∧
      (state.failed = true ∨ state.taskId ≠ 0 →
        p.session = state.session ∧ p.clientBinding = state.clientBinding))
    (habsent : l.actor = none → ∀ r, l.record = some r → r.offline = true) :
    Sane enabled id l' := by
  have hnone : ∀ state, l.load = some state → l.blocked = false → l.record = none := by
    intro state hstate hblocked
    cases hp : l.actor with
    | some p => exact (hloading state p hstate hp).1
    | none =>
      cases hr : l.record with
      | none => rfl
      | some r =>
        have hoffline := habsent hp r hr
        rw [blocked, hr] at hblocked
        exact absurd (hblocked.symm.trans hoffline) Bool.false_ne_true
  cases h with
  | idle hidle =>
    refine ⟨hactor, hrecord, fun hsome => ?_, fun state p hstate hp => ?_, habsent⟩
    · obtain ⟨state, hstate⟩ := Option.isSome_iff_exists.mp hsome
      obtain ⟨hen, hne⟩ := henabled hsome
      refine ⟨hen, hne, ?_⟩
      rcases hidle state hstate with hfailed | htask | hblocked
      · exact hload state hstate (.inl hfailed)
      · exact hload state hstate (.inr htask)
      · rw [blocked] at hblocked
        cases hr : l.record with
        | none =>
          rw [hr] at hblocked
          cases hblocked
        | some r => exact (hrecord (by rw [hr]; rfl)).2
    · obtain ⟨hr, hsame⟩ := hloading state p hstate hp
      have hbusy : state.failed = true ∨ state.taskId ≠ 0 := by
        rcases hidle state hstate with hfailed | htask | hblocked
        · exact .inl hfailed
        · exact .inr htask
        · rw [blocked, hr] at hblocked
          cases hblocked
      exact ⟨(hsame hbusy).1, (hsame hbusy).2, hr⟩
  | failed state hstate hid => exact absurd hid (henabled (by rw [hstate]; rfl)).2
  | created state epoch hstate hfailed htask hblocked hid hmax =>
    have hsome : l.load.isSome = true := by rw [hstate]; rfl
    refine ⟨fun _ _ => hmax, hrecord, fun _ => ⟨(henabled hsome).1, hid, hmax⟩, ?_, nofun⟩
    intro state' p hstate' hp
    cases hstate.symm.trans hstate'
    cases hp
    exact ⟨rfl, rfl, hnone state hstate hblocked⟩
  | submitted state epoch taskId body hstate hfailed htask hblocked hid hmax =>
    have hsome : l.load.isSome = true := by rw [hstate]; rfl
    refine ⟨fun _ _ => hmax, hrecord, fun _ => ⟨(henabled hsome).1, hid, hmax⟩, ?_, nofun⟩
    intro state' p hstate' hp
    cases hstate'
    cases hp
    exact ⟨rfl, rfl, hnone state hstate hblocked⟩

theorem Round.sane (h : Round enabled id l l') (hs : l.Sane enabled id) : l'.Sane enabled id := by
  cases h with
  | advanced h =>
    refine h.sane (fun hsome => ?_) hs.actorId hs.recordId (fun state hstate _ => ?_)
      (fun state p hstate hp => ?_) hs.absent
    · exact ⟨(hs.loadId hsome).1, (hs.loadId hsome).2.1⟩
    · exact (hs.loadId (by rw [hstate]; rfl)).2.2
    · obtain ⟨hsession, hbinding, hnone⟩ := hs.loading state p hstate hp
      exact ⟨hnone, fun _ => ⟨hsession, hbinding⟩⟩
  | flushed p henabled hactor hload hdirty h =>
    have hsome : l.actor.isSome = true := by rw [hactor]; rfl
    refine ⟨hs.actorId, fun _ => ⟨henabled, hs.actorId henabled hsome⟩, hs.loadId, ?_, ?_⟩
    · intro state p hstate
      cases hload.symm.trans hstate
    · intro hnone
      cases hactor.symm.trans hnone
  | dispatched r hrecord h =>
    have hsome : l.record.isSome = true := by rw [hrecord]; rfl
    refine ⟨hs.actorId, fun _ => hs.recordId hsome, hs.loadId, ?_, ?_⟩
    · intro state p hstate hp
      cases hrecord.symm.trans (hs.loading state p hstate hp).2.2
    · intro hnone r' hr'
      cases hr'
      exact h.offline.trans (hs.absent hnone r hrecord)
  | loadFailed state hload =>
    have hsome : l.load.isSome = true := by rw [hload]; rfl
    refine ⟨hs.actorId, hs.recordId, fun _ => hs.loadId hsome, ?_, hs.absent⟩
    intro state' p hstate hp
    cases hstate
    exact hs.loading state p hload hp
  | loaded state p p' snapshot hload hactor =>
    have hsome : l.actor.isSome = true := by rw [hactor]; rfl
    exact ⟨fun henabled _ => hs.actorId henabled hsome, hs.recordId, nofun, nofun, nofun⟩
  | saveFailed r error hrecord =>
    have hsome : l.record.isSome = true := by rw [hrecord]; rfl
    refine ⟨hs.actorId, fun _ => hs.recordId hsome, hs.loadId, ?_, ?_⟩
    · intro state p hstate hp
      cases hrecord.symm.trans (hs.loading state p hstate hp).2.2
    · intro hnone r' hr'
      cases hr'
      exact hs.absent hnone r hrecord
  | saved r snapshot taskId result heard hrecord =>
    have hsome : l.record.isSome = true := by rw [hrecord]; rfl
    have hback : ∀ {p}, (if heard then l.actor.map (r.confirmActor result snapshot) else l.actor) =
        some p → ∃ p', l.actor = some p' := by
      intro p hp
      split at hp
      · obtain ⟨p', hp', -⟩ := Option.map_eq_some_iff.mp hp
        exact ⟨p', hp'⟩
      · exact ⟨p, hp⟩
    refine ⟨fun henabled hactor => ?_, fun _ => hs.recordId hsome, hs.loadId, ?_, ?_⟩
    · obtain ⟨p, hp⟩ := Option.isSome_iff_exists.mp hactor
      obtain ⟨p', hp'⟩ := hback hp
      exact hs.actorId henabled (by rw [hp']; rfl)
    · intro state p hstate hp
      obtain ⟨p', hp'⟩ := hback hp
      cases hrecord.symm.trans (hs.loading state p' hstate hp').2.2
    · intro hnone r' hr'
      have hactor : l.actor = none := by
        change (if heard then _ else _) = none at hnone
        split at hnone
        · exact Option.map_eq_none_iff.mp hnone
        · exact hnone
      change (if _ then none else some (r.confirm snapshot)) = some r' at hr'
      split at hr'
      · cases hr'
      · cases hr'
        exact hs.absent hactor r hrecord
  | mutated p op hactor =>
    have hsome : l.actor.isSome = true := by rw [hactor]; rfl
    refine ⟨fun henabled _ => hs.actorId henabled hsome, hs.recordId, hs.loadId, ?_, nofun⟩
    intro state p' hstate hp'
    cases hp'
    obtain ⟨hsession, hbinding, hnone⟩ := hs.loading state p hstate hactor
    have hplayed := Player.played_apply (p := p) op
    exact ⟨hplayed.session.trans hsession, hplayed.clientBinding.trans hbinding, hnone⟩

theorem LoggedOut.sane {p : Player} (h : LoggedOut enabled p l l') (hs : l.Sane enabled id)
    (hactor : l.actor.isSome = true) (hload : l.load = none) : l'.Sane enabled id := by
  have hid : enabled = true → id < 2 ^ 63 := fun henabled => hs.actorId henabled hactor
  have hnoLoad : l.load.isSome = true → enabled = true ∧ id ≠ 0 ∧ id < 2 ^ 63 := by
    intro hsome
    rw [hload] at hsome
    cases hsome
  have hnever : ∀ state, l.load ≠ some state := by
    intro state hstate
    cases hload.symm.trans hstate
  cases h with
  | stayed =>
    exact ⟨fun henabled _ => hid henabled, hs.recordId, hnoLoad,
      fun state _ hstate _ => absurd hstate (hnever state), nofun⟩
  | refused henabled h =>
    exact ⟨fun henabled _ => hid henabled, fun _ => ⟨henabled, hid henabled⟩, hnoLoad,
      fun state _ hstate _ => absurd hstate (hnever state), nofun⟩
  | saved henabled h =>
    refine ⟨nofun, fun _ => ⟨henabled, hid henabled⟩, nofun, nofun, fun _ r hr => ?_⟩
    cases h with
    | asked r' token _ h => exact h.offline r hr
  | unsaved henabled =>
    refine ⟨nofun, hs.recordId, nofun, nofun, fun _ r hr => ?_⟩
    have hsome : l.record.isSome = true := by
      change l.record = some r at hr
      rw [hr]
      rfl
    exact absurd (henabled.symm.trans (hs.recordId hsome).1) Bool.false_ne_true

theorem Move.sane (h : Move enabled draining id l l') (hs : l.Sane enabled id) :
    l'.Sane enabled id := by
  cases h with
  | round h => exact h.sane hs
  | opened d session epoch henabled hdraining hid hlatest hwhen h =>
    have hactor : ∀ {f : Player → Player}, (l.actor.map f).isSome = true → l.actor.isSome = true := by
      intro f hsome
      simpa using hsome
    refine h.sane (fun _ => ⟨henabled, hid⟩) (fun henabled hsome => hs.actorId henabled (hactor hsome))
      hs.recordId (fun state hstate hbusy => ?_) (fun state p hstate hp => ?_) (fun hnone => ?_)
    · cases hstate
      simp at hbusy
    · cases hstate
      obtain ⟨p', hp', rfl⟩ := Option.map_eq_some_iff.mp hp
      refine ⟨?_, fun hbusy => by simp at hbusy⟩
      rcases hwhen with ⟨state, hload, -, -⟩ | ⟨-, hnone⟩
      · exact (hs.loading state p' hload hp').2.2
      · cases hnone.symm.trans hp'
    · exact hs.absent (Option.map_eq_none_iff.mp hnone)
  | bound d session epoch hdraining hid hlatest hwhen =>
    refine ⟨fun henabled _ => ?_, hs.recordId, hs.loadId, fun state p hstate _ => ?_, nofun⟩
    · rcases hwhen with hdisabled | ⟨-, hsome⟩
      · exact absurd (hdisabled.symm.trans henabled) Bool.false_ne_true
      · exact hs.actorId henabled hsome
    · rcases hwhen with hdisabled | ⟨hnone, -⟩
      · have hsome : l.load.isSome = true := by
          change l.load = some state at hstate
          rw [hstate]
          rfl
        exact absurd (hdisabled.symm.trans (hs.loadId hsome).1) Bool.false_ne_true
      · cases hnone.symm.trans hstate
  | cancelled state hload =>
    refine ⟨fun henabled hsome => ?_, hs.recordId, nofun, nofun, fun hnone r hr => ?_⟩
    · obtain ⟨p, hp⟩ := Option.isSome_iff_exists.mp hsome
      exact hs.actorId henabled (by rw [(Option.filter_eq_some_iff.mp hp).1]; rfl)
    · cases hp : l.actor with
      | none => exact hs.absent hp r hr
      | some p => cases (hs.loading state p hload hp).2.2.symm.trans hr
  | loggedOut p ops latest hactor hload h =>
    have hnone : l.load = none := by
      cases hstate : l.load with
      | none => rfl
      | some state =>
        obtain ⟨hsession, hbinding, -⟩ := hs.loading state p hstate hactor
        exact absurd ⟨hbinding.symm, hsession.symm⟩ (hload state hstate)
    have hs' : Sane enabled id { l with latest } :=
      ⟨hs.actorId, hs.recordId, hs.loadId, hs.loading, hs.absent⟩
    refine h.sane hs' ?_ hnone
    change l.actor.isSome = true
    rw [hactor]
    rfl
  | drained state hload =>
    refine ⟨nofun, hs.recordId, nofun, nofun, fun _ r hr => ?_⟩
    cases hp : l.actor with
    | none => exact hs.absent hp r hr
    | some p => cases (hs.loading state p hload hp).2.2.symm.trans hr

end Life

namespace LogicThread

/-- A thread that has just started. -/
def started (enabled : Bool) : LogicThread := { persistenceEnabled := enabled }

/-- What holds of a thread after any run. -/
structure Sane (enabled : Bool) (s : LogicThread) : Prop where
  orderly : s.Orderly
  same : s.persistenceEnabled = enabled
  life : ∀ id, (s.life id).Sane enabled id

variable {enabled : Bool} {s t : LogicThread}

theorem sane_started (enabled : Bool) : Sane enabled (started enabled) where
  orderly := ⟨fun _ => ⟨nofun, nofun⟩, nofun⟩
  same := rfl
  life := Life.sane_empty enabled

theorem sane_step (hs : Sane enabled s) {l : Env × Label} (h : s.step l = some t) :
    Sane enabled t := by
  obtain ⟨horderly, henabled, hmoves⟩ := step_moves h hs.orderly
  refine ⟨horderly, henabled.trans hs.same, fun id => ?_⟩
  have hmove := hmoves id
  rw [hs.same] at hmove
  generalize t.life id = l at hmove ⊢
  induction hmove with
  | refl => exact hs.life id
  | tail _ hmove ih => exact hmove.sane ih

theorem sane_exec {ls : List (Env × Label)} (hs : Sane enabled s)
    (h : Run.exec step s ls = some t) : Sane enabled t :=
  Run.exec_invariant (Sane enabled) (fun _ _ _ hs h => sane_step hs h) hs h

end LogicThread

end Scene
