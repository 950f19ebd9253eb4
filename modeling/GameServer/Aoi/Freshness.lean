import GameServer.Aoi.ServiceInvariant

/-!
# No observer is silently stale

An observer that is neither dirty nor waiting for a resync holds exactly what it
sees now. Changes of the replica keep this because they mark every observer
whose view changed; passes keep it because they clear the mark only after a
commit.
-/

namespace Aoi

open AoiReplica ClientView

variable {sc : Scene} {wId : WorkerId} {targets : List WorkerId} {s s' : AoiService}

/-- The committed view has the ids, generations and versions of what the observer sees. -/
def Fresh (g : AoiGrid) (ents : Table EntityId AoiEntity) (o : EntityId)
    (committed : ViewBaseline) : Prop :=
  ∀ id, (committed.lookup id).map (fun st => (st.entityGeneration, st.spatialVersion)) =
    (if id = o then none else sees g ents o id).map
      fun e => (e.entityGeneration, e.spatialVersion)

/-- Every active observer that nothing marks is fresh. -/
def AllFresh (sc : Scene) (s : AoiService) : Prop :=
  ∀ o v, s.viewSet.views.lookup o = some v → v.needResync = false → o ∉ s.dirtyObservers →
    ∀ ob, s.replica.ents.lookup o = some ob →
      Fresh sc.grid s.replica.ents o v.committedState

theorem Fresh.congr {g : AoiGrid} {ents ents' : Table EntityId AoiEntity} {o : EntityId}
    {committed : ViewBaseline} (h : Fresh g ents o committed)
    (hsees : ∀ id, sees g ents' o id = sees g ents o id) : Fresh g ents' o committed := by
  intro id
  rw [hsees]
  exact h id

/-- A change of the replica marks whoever would become stale. -/
theorem AllFresh.marks (h : AllFresh sc s) (hb' : Based sc wId s')
    (hviews : ∀ o v, s'.viewSet.views.lookup o = some v → v.needResync = false →
      o ∉ s'.dirtyObservers → s.viewSet.views.lookup o = some v)
    {dirty : Observers} (hdirty : ∀ o v, s'.viewSet.views.lookup o = some v →
      o ∈ dirty → o ∈ s'.dirtyObservers)
    (hmarks : Marks sc.grid wId (s.replica.next s.dirtyObservers) (s'.replica.next dirty)) :
    AllFresh sc s' := by
  intro o v hv hr ho ob hob
  have ho' : o ∉ dirty := fun hmem => ho (hdirty o v hv hmem)
  obtain ⟨hold, hsees⟩ := hmarks.same o ho' ob hob (hb'.observer_local hv hob)
  refine Fresh.congr (h o v (hviews o v hv hr ho) hr (fun hmem => ?_) ob hold) hsees
  exact ho' (hmarks.mono hmem)

theorem AllFresh.change (h : AllFresh sc s) (hb' : Based sc wId s')
    {opening : Option (Nat × EntityId × Nat)} (hchange : ViewChange sc wId opening s s') : AllFresh sc s' := by
  cases hchange with
  | replica hviews hqueue hmarks =>
    exact h.marks hb' (fun o v hv _ _ => hviews ▸ hv) (fun _ _ _ hmem => hmem) hmarks
  | left o hviews hnext hqueue hmarks =>
    have hne : ∀ o' v, s'.viewSet.views.lookup o' = some v → o' ≠ o := by
      rintro o' v hv rfl
      rw [hviews, if_pos rfl] at hv
      cases hv
    refine h.marks hb' (fun o' v hv _ _ => ?_) (fun o' v hv hmem => ?_) hmarks
    · have hne' := hne o' v hv
      rwa [hviews, if_neg hne'] at hv
    · exact (Finset.mem_insert.mp hmem).resolve_left (hne o' v hv)
  | opened pid o epoch hopen hviews hnext hqueue hreplica hdirty =>
    refine h.marks hb' (fun o' v hv hr hclean => ?_) (fun _ _ _ hmem => hmem)
      (by rw [hreplica, hdirty]; exact (Marks.refl _).weaken (Finset.subset_insert _ _))
    have hne : o' ≠ o := by
      rintro rfl
      exact hclean (hdirty ▸ Finset.mem_insert_self _ _)
    rwa [hviews, if_neg hne] at hv
  | resynced o w hw hviews hnext hqueue hreplica hdirty =>
    refine h.marks hb' (fun o' v hv hr hclean => ?_) (fun _ _ _ hmem => hmem)
      (by rw [hreplica, hdirty]; exact (Marks.refl _).weaken (Finset.subset_insert _ _))
    have hne : o' ≠ o := by
      rintro rfl
      exact hclean (hdirty ▸ Finset.mem_insert_self _ _)
    rwa [hviews, if_neg hne] at hv

/-- Committed after a delta, every id has the stamp it has in the current view. -/
theorem stamp_committedAfter (baseline : ViewBaseline) (current : List AoiEntity)
    (id : EntityId) :
    (committedAfter baseline current id).map (fun st => (st.entityGeneration, st.spatialVersion)) =
      (current.find? (·.entityId = id)).map fun e => (e.entityGeneration, e.spatialVersion) := by
  unfold committedAfter
  cases hfind : current.find? (·.entityId = id) with
  | none => rfl
  | some e =>
    obtain rfl : e.entityId = id := by simpa using List.find?_some hfind
    simp only [Option.bind_some, Option.map_some]
    cases hk : deltaKind baseline e with
    | some kind => rfl
    | none =>
      unfold deltaKind at hk
      cases hold : baseline.lookup e.entityId with
      | none => simp [hold] at hk
      | some old =>
        simp only [hold] at hk
        split at hk
        · cases hk
        rename_i hgen
        split at hk
        · cases hk
        rename_i hver
        simp [not_not.mp hgen, not_not.mp hver]

/-- A pass that reports success leaves its observer fresh. -/
theorem pass_fresh (h : Agree sc.grid wId s.replica.ents s.replica.cells) {o : EntityId}
    {ob : AoiEntity} (hob : s.replica.ents.lookup o = some ob) {current : List AoiEntity}
    (hcur : currentView sc s o = some current) (hpass : Pass sink o s current true s')
    {v' : ObserverSnapshot} (hv' : s'.viewSet.views.lookup o = some v') :
    Fresh sc.grid s.replica.ents o v'.committedState := by
  have hsorted := (currentView_active h hob hcur).1
  have hfind := currentView_find h hob hcur
  intro id
  rw [← hfind]
  cases hpass with
  | upToDate hv hr hnil =>
    cases hv.symm.trans hv'
    have hnothing : (acceptedPushes current v'.committedState).foldlM AoiViewSet.commitOne v' =
        some v' := by
      rw [hnil]
      rfl
    rw [delta_committed hsorted rfl hnothing, stamp_committedAfter]
  | delta hv hr hpid htoken hsend hne hmax hcommit =>
    cases (Table.lookup_insert_same _ _ _).symm.trans hv'
    rw [delta_committed hsorted rfl hcommit, stamp_committedAfter]
  | snapshot hv hr hepoch hseq hcount hid hnext hframe hqueue hview =>
    cases hview.symm.trans hv'
    simp only [lookup_toBaseline, Option.map_map]
    rfl

/-- An observer pass keeps every other observer as it was. -/
theorem pass_frame {o : EntityId} {current : List AoiEntity} {ok : Bool}
    (hpass : Pass sink o s current ok s') : Frame o s s' := by
  cases hpass with
  | idle => exact Frame.refl o s
  | upToDate => exact Frame.refl o s
  | delta => exact ⟨rfl, subset_rfl, fun o' ho' => by simp [ho']⟩
  | uncommitted => exact ⟨rfl, subset_rfl, fun _ _ => rfl⟩
  | snapshot _ _ _ _ _ _ _ hframe => exact hframe
  | aborted _ _ _ _ _ _ _ _ hframe => exact hframe

/-- A pass without success leaves the mark, or the resync request, of its observer. -/
theorem pass_failed {o : EntityId} {current : List AoiEntity}
    (hpass : Pass sink o s current false s') :
    (s'.viewSet.views.lookup o = s.viewSet.views.lookup o ∧
        s'.dirtyObservers = s.dirtyObservers) ∨
      ∃ v', s'.viewSet.views.lookup o = some v' ∧ v'.needResync = true := by
  cases hpass with
  | idle => exact .inl ⟨rfl, rfl⟩
  | uncommitted => exact .inl ⟨rfl, rfl⟩
  | aborted _ _ _ _ _ _ _ _ _ _ hview _ _ _ hr => exact .inr ⟨_, hview, hr⟩

theorem Based.process (h : Based sc wId s) {sink : Sink} {o : EntityId} {done : Bool}
    (hhook : processAoiClientObserver sc sink s o = some (done, s')) : Based sc wId s' := by
  rcases process_pass hhook with ⟨_, rfl⟩ | ⟨current, hcur, hpass⟩
  · exact h
  -- the observer is registered whenever the pass changed anything
  cases hv : s.viewSet.views.lookup o with
  | some v => exact h.frame hv (pass_frame hpass)
  | none =>
    cases hpass with
    | idle => exact h
    | upToDate hv' | delta hv' | uncommitted hv' | snapshot hv' | aborted hv' =>
      cases hv.symm.trans hv'

/-- The two invariants of a run. -/
structure Healthy (sc : Scene) (wId : WorkerId) (s : AoiService) : Prop where
  based : Based sc wId s
  fresh : AllFresh sc s

theorem healthy_init : Healthy sc wId {} where
  based := based_init
  fresh := by
    intro o v hv
    simp at hv

theorem Healthy.process (h : Healthy sc wId s) {sink : Sink} {o : EntityId}
    (hrun : AoiService.processOne (processAoiClientObserver sc sink) s o = some s') :
    Healthy sc wId s' := by
  unfold AoiService.processOne at hrun
  split at hrun
  case isFalse =>
    cases hrun
    exact h
  simp only [Option.bind_eq_bind, Option.bind_eq_some_iff] at hrun
  obtain ⟨⟨done, t⟩, hhook, hrun⟩ := hrun
  rcases process_pass hhook with ⟨rfl, rfl⟩ | ⟨current, hcur, hpass⟩
  · cases hrun
    exact h
  have hframe := pass_frame hpass
  have hreplica := hframe.replica
  have hbased := h.based.process hhook
  have hother : ∀ o' v, o' ≠ o → t.viewSet.views.lookup o' = some v → v.needResync = false →
      o' ∉ t.dirtyObservers → ∀ ob, t.replica.ents.lookup o' = some ob →
      Fresh sc.grid t.replica.ents o' v.committedState := by
    intro o' v hne hv hr hclean ob hob
    rw [hframe.views o' hne] at hv
    rw [hreplica] at hob ⊢
    exact h.fresh o' v hv hr (fun hmem => hclean (hframe.dirty hmem)) ob hob
  cases done with
  | true =>
    cases hrun
    refine ⟨{ hbased with }, fun o' v hv hr hclean ob hob => ?_⟩
    by_cases heq : o' = o
    · subst heq
      rw [hreplica] at hob ⊢
      exact pass_fresh h.based.owned.agree hob hcur hpass hv
    · refine hother o' v heq hv hr (fun hmem => hclean ?_) ob hob
      exact Finset.mem_erase.mpr ⟨heq, hmem⟩
  | false =>
    cases hrun
    refine ⟨hbased, fun o' v hv hr hclean ob hob => ?_⟩
    by_cases heq : o' = o
    · subst heq
      rcases pass_failed hpass with ⟨hsame, hdirty⟩ | ⟨v', hv', hr'⟩
      · rw [hsame] at hv
        rw [hdirty] at hclean
        rw [hreplica] at hob ⊢
        exact h.fresh o' v hv hr hclean ob hob
      · cases hv.symm.trans hv'
        rw [hr] at hr'
        cases hr'
    · exact hother o' v heq hv hr hclean ob hob

/-- The calls in a run are as owners produce them. -/
def Work.Produced : Work → Prop
  | .call op => op.Produced
  | .tick _ _ => True

instance : DecidablePred Work.Produced := fun w => by
  cases w <;> unfold Work.Produced <;> infer_instance

theorem Healthy.work (h : Healthy sc wId s) {w : Work} (hw : w.Produced)
    (hrun : s.work sc wId targets w = some s') : Healthy sc wId s' := by
  cases w with
  | call op =>
    obtain ⟨hb, hchange, _⟩ := h.based.call hw hrun
    exact ⟨hb, h.fresh.change hb hchange⟩
  | tick now sink =>
    simp only [AoiService.work, AoiService.onTick] at hrun
    split at hrun
    · cases hrun
      exact h
    simp only [Option.bind_eq_bind, Option.bind_eq_some_iff] at hrun
    obtain ⟨t, ht, hpasses⟩ := hrun
    obtain ⟨hbt, hct, _⟩ := h.based.flush ht
    have hflushed : Healthy sc wId t := ⟨hbt, h.fresh.change hbt hct⟩
    obtain ⟨hbr, hcr, _⟩ := hflushed.based.retry sink
    have hretried : Healthy sc wId (t.retryPublishes sink) :=
      ⟨hbr, hflushed.fresh.change hbr hcr⟩
    rw [AoiService.processObservers, ← Run.exec_eq_foldlM] at hpasses
    exact Run.exec_invariant (Healthy sc wId) (fun _ _ _ hi hst => hi.process hst) hretried hpasses

theorem healthy_run {works : List Work} (hworks : ∀ w ∈ works, w.Produced)
    (h : Healthy sc wId s) (hrun : Run.exec (AoiService.work sc wId targets) s works = some s') :
    Healthy sc wId s' :=
  Run.along_invariant (Healthy sc wId) (fun _ _ _ h hw hst => h.work hw.1 hst) h
    (Run.along_and hworks (Run.along_true s works)) hrun

/-- In every reachable state an active observer that is neither dirty nor due for a resync
has committed exactly what it sees, at the replica's generation and version. -/
theorem observer_not_stale {works : List Work} (hworks : ∀ w ∈ works, w.Produced)
    (hrun : Run.exec (AoiService.work sc wId targets) {} works = some s) {o : EntityId}
    {v : ObserverSnapshot} (hv : s.viewSet.findObserver o = some v)
    (hactive : s.isEntityActive o = true) (hclean : o ∉ s.dirtyObservers)
    (hr : v.needResync = false) :
    ∃ out, s.viewOf sc o = some (true, out) ∧
      (∀ id, id ∈ v.committedState ↔ ∃ e ∈ out, e.entityId = id) ∧
      ∀ e ∈ out, ∃ st, v.committedState.lookup e.entityId = some st ∧
        st.entityGeneration = e.entityGeneration ∧ st.spatialVersion = e.spatialVersion := by
  have hhealthy := healthy_run hworks healthy_init hrun
  have hagree := hhealthy.based.owned.agree
  obtain ⟨ob, hob⟩ := Option.isSome_iff_exists.mp hactive
  have hlocal := hhealthy.based.observer_local hv hob
  have hfresh := hhealthy.fresh o v hv hr hclean ob hob
  obtain ⟨⟨ok, out⟩, hview⟩ := getVisibleEntity_of_fits false hagree hob
    (hhealthy.based.owned.fits o ob hob hlocal)
  obtain ⟨rfl, _, hmem⟩ := getVisibleEntity_some hagree hob hview
  -- an entity is in `out` just when the observer sees it
  have hsees : ∀ e, e ∈ out ↔ e.entityId ≠ o ∧
      sees sc.grid s.replica.ents o e.entityId = some e := by
    intro e
    rw [hmem]
    have hob' : s.replica.ents.lookup o = some ob := hob
    simp only [Bool.false_eq_true, false_or, sees, hob', Option.bind_some,
      Option.filter_eq_some_iff, decide_eq_true_eq]
    tauto
  have hkey : ∀ id e, sees sc.grid s.replica.ents o id = some e → e.entityId = id := by
    intro id e he
    obtain ⟨_, _, he⟩ := Option.bind_eq_some_iff.mp he
    exact hagree.key id e (Option.filter_eq_some_iff.mp he).1
  refine ⟨out, hview, fun id => ?_, fun e he => ?_⟩
  · have hid := hfresh id
    rw [Table.mem_iff_lookup]
    constructor
    · rintro ⟨st, hst⟩
      rw [hst, Option.map_some] at hid
      obtain ⟨e, he, _⟩ := Option.map_eq_some_iff.mp hid.symm
      split at he
      · cases he
      · rename_i hne
        obtain rfl := hkey id e he
        exact ⟨e, (hsees e).mpr ⟨hne, he⟩, rfl⟩
    · rintro ⟨e, he, rfl⟩
      obtain ⟨hne, he⟩ := (hsees e).mp he
      rw [if_neg hne, he, Option.map_some] at hid
      obtain ⟨st, hst, _⟩ := Option.map_eq_some_iff.mp hid
      exact ⟨st, hst⟩
  · obtain ⟨hne, hsee⟩ := (hsees e).mp he
    have hid := hfresh e.entityId
    rw [if_neg hne, hsee, Option.map_some] at hid
    obtain ⟨st, hst, hstamp⟩ := Option.map_eq_some_iff.mp hid
    simp only [Prod.mk.injEq] at hstamp
    exact ⟨st, hst, hstamp.1, hstamp.2⟩

/-- A scene of three by three cells. -/
def smallScene : Scene where
  cfg := { cellSize := 10, viewRange := 10 }
  map :=
    { length := 30
      width := 30
      cellSize := 10
      cellSize_pos := by decide
      cellSize_le := by decide
      length_pos := by decide
      width_pos := by decide
      length_le := by decide
      width_le := by decide
      cells_le := by decide }
  valid := rfl
  sameCell := rfl

def acceptAll : Sink where
  sendToClient := fun _ => .accepted
  publishToWorkers := fun _ _ => true

/-- Two players enter, the first one comes online, and a tick sends it its view. -/
def twoPlayers : List Work :=
  [.call (.enter { id := 7, x := 5, y := 5, dir := 0, epoch := 1 }),
   .call (.enter { id := 8, x := 15, y := 5, dir := 0, epoch := 1 }),
   .call (.online 7 1),
   .tick 0 acceptAll]

/-- Of two neighbouring players the first has committed, and still sees, the second. -/
theorem observer_not_stale_twoPlayers :
    ∃ s v out, Run.exec (AoiService.work smallScene 1 []) {} twoPlayers = some s ∧
      s.viewSet.findObserver 4294967297 = some v ∧
      s.viewOf smallScene 4294967297 = some (true, out) ∧ 4294967298 ∈ v.committedState ∧
      ∃ e ∈ out, e.entityId = 4294967298 := by
  have hrun : (Run.exec (AoiService.work smallScene 1 []) {} twoPlayers).isSome := by
    decide +kernel
  obtain ⟨s, hs⟩ := Option.isSome_iff_exists.mp hrun
  have hfind : (((Run.exec (AoiService.work smallScene 1 []) {} twoPlayers).bind
      (·.viewSet.findObserver 4294967297)).any fun v =>
        !v.needResync && decide (4294967298 ∈ v.committedState)) = true := by
    decide +kernel
  have hactive : ((Run.exec (AoiService.work smallScene 1 []) {} twoPlayers).any fun s =>
      s.isEntityActive 4294967297 && decide (4294967297 ∉ s.dirtyObservers)) = true := by
    decide +kernel
  rw [hs] at hfind hactive
  simp only [Option.bind_some, Option.any_some, Bool.and_eq_true, decide_eq_true_eq] at hfind hactive
  obtain ⟨v, hv, hr⟩ := (Option.any_eq_true _ _).mp hfind
  rw [Bool.and_eq_true, decide_eq_true_eq] at hr
  obtain ⟨out, hview, hids, _⟩ := observer_not_stale (by decide) hs hv hactive.1
    hactive.2 (by simpa using hr.1)
  exact ⟨s, v, out, hs, hv, hview, hr.2, (hids _).mp hr.2⟩

end Aoi
