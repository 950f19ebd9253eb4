import GameServer.Aoi.ViewSet

/-!
# What the commit paths of the view set do

A delta frame is committed item by item; with distinct targets every item meets
the state its target had before the frame. A snapshot is committed by the token
it began with, once all its parts were accepted.
-/

namespace Aoi

namespace AoiViewSet

/-- The new committed state of an item's target, or `none` when the item is not admissible. -/
def commitTo (push : AcceptedPush) (old : Option SentEntityState) :
    Option (Option SentEntityState) :=
  if push.targetId = 0 ∨ !validEntityKind push.state.kind then none
  else match push.kind with
    | .entry =>
      if old.any (fun old => push.state.kind ≠ old.kind ∨ push.state.businessId ≠ old.businessId ∨
          push.state.entityGeneration < old.entityGeneration ∨
          (push.state.entityGeneration = old.entityGeneration ∧
            push.state.spatialVersion < old.spatialVersion)) then none
      else some (some push.state)
    | .move =>
      if old.all (fun old => push.state.kind ≠ old.kind ∨ push.state.businessId ≠ old.businessId ∨
          push.state.entityGeneration ≠ old.entityGeneration ∨
          push.state.spatialVersion < old.spatialVersion) then none
      else some (some push.state)
    | .leave =>
      if old.any (fun old => push.state.entityGeneration < old.entityGeneration) then some old
      else if old.any (fun old => push.state.entityGeneration ≠ old.entityGeneration ∨
          push.state.kind ≠ old.kind ∨ push.state.businessId ≠ old.businessId) then none
      else some none
    | .invalid => none

/-- An item changes the state of its own target only. -/
theorem commitOne_some {obss obss' : ObserverSnapshot} {push : AcceptedPush}
    (h : commitOne obss push = some obss') :
    commitTo push (obss.committedState.lookup push.targetId) =
        some (obss'.committedState.lookup push.targetId) ∧
      ∀ id, id ≠ push.targetId →
        obss'.committedState.lookup id = obss.committedState.lookup id := by
  unfold commitOne at h
  split at h
  · cases h
  rename_i hvalid
  obtain ⟨mid, hmid, rfl⟩ := Option.map_eq_some_iff.mp h
  unfold commitTo
  rw [if_neg hvalid]
  cases hk : push.kind with
  | entry =>
    simp only [processPush, hk, processEntry] at hmid ⊢
    cases hold : obss.committedState.lookup push.targetId with
    | none =>
      simp only [hold, Option.some.injEq] at hmid
      subst hmid
      exact ⟨by simp, fun id hid => by simp [hid]⟩
    | some old =>
      simp only [hold] at hmid
      split at hmid
      · cases hmid
      rename_i hadm
      cases hmid
      exact ⟨by simp [hadm], fun id hid => by simp [hid]⟩
  | move =>
    simp only [processPush, hk, processMove] at hmid ⊢
    cases hold : obss.committedState.lookup push.targetId with
    | none => simp [hold] at hmid
    | some old =>
      simp only [hold] at hmid
      split at hmid
      · cases hmid
      rename_i hadm
      cases hmid
      exact ⟨by simp [hadm], fun id hid => by simp [hid]⟩
  | leave =>
    simp only [processPush, hk, processLeave] at hmid ⊢
    cases hold : obss.committedState.lookup push.targetId with
    | none =>
      simp only [hold, Option.some.injEq] at hmid
      subst hmid
      exact ⟨by simp [hold], fun id _ => rfl⟩
    | some old =>
      simp only [hold] at hmid
      split at hmid
      · rename_i holder
        cases hmid
        exact ⟨by simp [holder, hold], fun id _ => rfl⟩
      split at hmid
      · cases hmid
      rename_i holder hadm
      cases hmid
      exact ⟨by simp [holder, hadm], fun id hid => by simp [hid]⟩
  | invalid => simp [processPush, hk] at hmid

theorem commitOne_of_commitTo {obss : ObserverSnapshot} {push : AcceptedPush}
    {new : Option SentEntityState}
    (h : commitTo push (obss.committedState.lookup push.targetId) = some new) :
    ∃ obss', commitOne obss push = some obss' := by
  unfold commitTo at h
  split at h
  · cases h
  rename_i hvalid
  unfold commitOne processPush
  rw [if_neg hvalid]
  cases hk : push.kind with
  | entry =>
    simp only [hk] at h
    cases hold : obss.committedState.lookup push.targetId with
    | none => simp [processEntry, hold]
    | some old =>
      simp only [hold, Option.any_some, decide_eq_true_eq] at h
      split at h
      · cases h
      rename_i hadm
      simp [processEntry, hold, hadm]
  | move =>
    simp only [hk] at h
    cases hold : obss.committedState.lookup push.targetId with
    | none => simp [hold] at h
    | some old =>
      simp only [hold, Option.all_some, decide_eq_true_eq] at h
      split at h
      · cases h
      rename_i hadm
      simp [processMove, hold, hadm]
  | leave =>
    simp only [hk] at h
    cases hold : obss.committedState.lookup push.targetId with
    | none => simp [processLeave, hold]
    | some old =>
      simp only [hold, Option.any_some, decide_eq_true_eq] at h
      split at h
      · rename_i holder
        simp [processLeave, hold, holder]
      split at h
      · cases h
      rename_i holder hadm
      simp [processLeave, hold, holder, hadm]
  | invalid => simp [hk] at h

/-- A frame with distinct targets: every item meets the state before the frame. -/
theorem commit_items {items : List AcceptedPush} (hnd : (items.map (·.targetId)).Nodup)
    {v v' : ObserverSnapshot} (h : items.foldlM commitOne v = some v') :
    (∀ push ∈ items, commitTo push (v.committedState.lookup push.targetId) =
        some (v'.committedState.lookup push.targetId)) ∧
      ∀ id, id ∉ items.map (·.targetId) →
        v'.committedState.lookup id = v.committedState.lookup id := by
  induction items generalizing v with
  | nil =>
    cases h
    simp
  | cons push items ih =>
    rw [List.foldlM_cons] at h
    obtain ⟨mid, hmid, hrest⟩ := Option.bind_eq_some_iff.mp h
    obtain ⟨hown, hother⟩ := commitOne_some hmid
    obtain ⟨hnot, hnd'⟩ := List.nodup_cons.mp hnd
    obtain ⟨hitems, hkeep⟩ := ih hnd' hrest
    constructor
    · intro p hp
      rcases List.mem_cons.mp hp with rfl | hp
      · rw [hkeep _ hnot]
        exact hown
      · have hne : p.targetId ≠ push.targetId := fun heq =>
          hnot (List.mem_map.mpr ⟨p, hp, heq⟩)
        rw [← hother _ hne]
        exact hitems p hp
    · intro id hid
      rw [List.map_cons, List.mem_cons, not_or] at hid
      rw [hkeep id hid.2, hother id hid.1]

theorem commit_items_succeeds {items : List AcceptedPush}
    (hnd : (items.map (·.targetId)).Nodup) {v : ObserverSnapshot}
    (h : ∀ push ∈ items, (commitTo push (v.committedState.lookup push.targetId)).isSome) :
    ∃ v', items.foldlM commitOne v = some v' := by
  induction items generalizing v with
  | nil => exact ⟨v, rfl⟩
  | cons push items ih =>
    obtain ⟨new, hnew⟩ := Option.isSome_iff_exists.mp (h push List.mem_cons_self)
    obtain ⟨mid, hmid⟩ := commitOne_of_commitTo hnew
    obtain ⟨hnot, hnd'⟩ := List.nodup_cons.mp hnd
    obtain ⟨v', hv'⟩ := ih hnd' (v := mid) fun p hp => by
      have hne : p.targetId ≠ push.targetId := fun heq => hnot (List.mem_map.mpr ⟨p, hp, heq⟩)
      rw [(commitOne_some hmid).2 _ hne]
      exact h p (List.mem_cons_of_mem _ hp)
    exact ⟨v', by rw [List.foldlM_cons, hmid]; exact hv'⟩

section Calls

variable {vs vs' : AoiViewSet} {o : EntityId}

theorem commitAccepted_false {token : ViewSendToken} {items : List AcceptedPush}
    (h : vs.commitAccepted o token items = (false, vs')) : vs' = vs := by
  unfold commitAccepted at h
  split at h
  · cases h; rfl
  split at h
  · cases h; rfl
  split at h
  · cases h; rfl
  split at h
  · cases h
  split at h
  · cases h; rfl
  split at h
  · cases h; rfl
  · cases h

/-- A committed frame: the observer's view is replaced by the folded one, under the next number. -/
theorem commitAccepted_true {token : ViewSendToken} {items : List AcceptedPush} (hne : items ≠ [])
    (h : vs.commitAccepted o token items = (true, vs')) :
    ∃ v next, vs.views.lookup o = some v ∧ v.nextViewSeq ≠ uint64Max ∧
      items.foldlM commitOne v = some next ∧
      vs' = { vs with
        views := vs.views.insert o
          { v with
            committedState := next.committedState
            pendings := next.pendings
            nextViewSeq := v.nextViewSeq + 1 } } := by
  unfold commitAccepted at h
  by_cases htask : o ∈ vs.snapshotTasks
  · simp [htask] at h
  rw [if_neg htask] at h
  cases hv : vs.views.lookup o with
  | none => simp [hv] at h
  | some v =>
    simp only [hv, if_neg hne] at h
    by_cases htoken : token.observerId ≠ o ∨ token.clientViewEpoch ≠ v.clientViewEpoch ∨
        token.nextViewSeq ≠ v.nextViewSeq
    · simp [htoken] at h
    rw [if_neg htoken] at h
    by_cases hmax : v.nextViewSeq = uint64Max
    · simp [hmax] at h
    rw [if_neg hmax] at h
    cases hnext : items.foldlM commitOne v with
    | none => simp [hnext] at h
    | some next =>
      simp only [hnext, Prod.mk.injEq, true_and] at h
      exact ⟨v, next, rfl, hmax, hnext, h.symm⟩

theorem prepareSend_some {token : ViewSendToken} (h : vs.prepareSend o = some token) :
    ∃ v, vs.views.lookup o = some v ∧ o ∉ vs.snapshotTasks ∧ token.observerId = o ∧
      token.clientViewEpoch = v.clientViewEpoch ∧ token.nextViewSeq = v.nextViewSeq := by
  unfold prepareSend at h
  split at h
  · cases h
  rename_i v hv
  split at h
  · cases h
  rename_i htask
  cases h
  exact ⟨v, hv, htask, rfl, rfl, rfl⟩

/-- A prepared frame is committed as soon as its items are admissible. -/
theorem commitAccepted_prepared {token : ViewSendToken} {items : List AcceptedPush}
    (hprep : vs.prepareSend o = some token) {v : ObserverSnapshot}
    (hv : vs.views.lookup o = some v) (hmax : v.nextViewSeq ≠ uint64Max)
    (hnd : (items.map (·.targetId)).Nodup)
    (hadm : ∀ push ∈ items, (commitTo push (v.committedState.lookup push.targetId)).isSome) :
    (vs.commitAccepted o token items).1 = true := by
  obtain ⟨v', hv', htask, hid, hepoch, hseq⟩ := prepareSend_some hprep
  cases hv.symm.trans hv'
  obtain ⟨next, hnext⟩ := commit_items_succeeds hnd hadm
  unfold commitAccepted
  rw [if_neg htask]
  simp only [hv, hid, hepoch, hseq, hnext, ne_eq, not_true_eq_false, or_self, if_false,
    if_neg hmax]
  split <;> rfl

theorem registryObserver_true {epoch : Nat} (h : vs.registryObserver o epoch = (true, vs')) :
    (∀ v, vs.views.lookup o = some v → v.clientViewEpoch < epoch) ∧
      vs' = { vs with
        views := vs.views.insert o { clientViewEpoch := epoch, needResync := true }
        snapshotTasks := vs.snapshotTasks.erase o } := by
  unfold registryObserver at h
  split at h
  · cases h
  rename_i hold
  simp only [Prod.mk.injEq, true_and] at h
  exact ⟨fun v hv => by simpa [hv] using hold, h.symm⟩

theorem resetObserver_true {oldEpoch epoch : Nat}
    (h : vs.resetObserver o oldEpoch epoch = (true, vs')) :
    (∃ v, vs.views.lookup o = some v ∧ v.clientViewEpoch = oldEpoch ∧ oldEpoch < epoch) ∧
      vs' = { vs with
        views := vs.views.insert o { clientViewEpoch := epoch, needResync := true }
        snapshotTasks := vs.snapshotTasks.erase o } := by
  unfold resetObserver at h
  cases hv : vs.views.lookup o with
  | none => simp [hv] at h
  | some v =>
    simp only [hv] at h
    split at h
    · cases h
    rename_i hepoch
    push Not at hepoch
    simp only [Prod.mk.injEq, true_and] at h
    exact ⟨⟨v, rfl, hepoch.1, hepoch.1 ▸ hepoch.2⟩, h.symm⟩

theorem removeObserver_true {epoch : Nat} (h : vs.removeObserver o epoch = (true, vs')) :
    (∃ v, vs.views.lookup o = some v ∧ v.clientViewEpoch = epoch) ∧
      vs' = { vs with
        views := vs.views.erase o
        snapshotTasks := vs.snapshotTasks.erase o } := by
  unfold removeObserver at h
  cases hv : vs.views.lookup o with
  | none => simp [hv] at h
  | some v =>
    simp only [hv] at h
    split at h
    · cases h
    rename_i hepoch
    simp only [Prod.mk.injEq, true_and] at h
    exact ⟨⟨v, rfl, not_not.mp hepoch⟩, h.symm⟩

theorem removeObserver_self {v : ObserverSnapshot} (hv : vs.views.lookup o = some v) :
    (vs.removeObserver o v.clientViewEpoch).2 =
      { vs with
        views := vs.views.erase o
        snapshotTasks := vs.snapshotTasks.erase o } := by
  simp [removeObserver, hv]

theorem markNeedResync_true {epoch : Nat} (h : vs.markNeedResync o epoch = (true, vs')) :
    ∃ v, vs.views.lookup o = some v ∧ v.clientViewEpoch = epoch ∧
      vs' = { vs with
        views := vs.views.insert o
          { v with needResync := true, resyncRevision := v.resyncRevision + 1 }
        snapshotTasks := vs.snapshotTasks.erase o } := by
  unfold markNeedResync at h
  cases hv : vs.views.lookup o with
  | none => simp [hv] at h
  | some v =>
    simp only [hv] at h
    split at h
    · cases h
    rename_i hepoch
    split at h
    · cases h
    simp only [Prod.mk.injEq, true_and] at h
    exact ⟨v, rfl, (not_not.mp hepoch).symm, h.symm⟩

theorem markNeedResync_false {epoch : Nat} (h : vs.markNeedResync o epoch = (false, vs')) :
    vs' = vs := by
  unfold markNeedResync at h
  cases hv : vs.views.lookup o with
  | none =>
    simp only [hv] at h
    cases h
    rfl
  | some v =>
    simp only [hv] at h
    split at h
    · cases h; rfl
    split at h
    · cases h; rfl
    · cases h

end Calls

/-- The observer's snapshot task with its first `k` parts accepted, still current. -/
structure Sending (vs : AoiViewSet) (o : EntityId) (v : ObserverSnapshot)
    (token : ViewSnapshotToken) (frozen : ViewBaseline) (k : Nat) : Prop where
  view : vs.views.lookup o = some v
  resync : v.needResync = true
  observer : token.observerId = o
  epoch : token.clientViewEpoch = v.clientViewEpoch
  seq : token.viewSeq = v.nextViewSeq
  revision : token.resyncRevision = v.resyncRevision
  task : vs.snapshotTasks.lookup o = some
    { token := token
      baseline := frozen
      acceptedParts := List.replicate k true ++ List.replicate (token.partCount - k) false
      acceptedCount := k }
  le : k ≤ token.partCount

namespace Sending

variable {vs vs' : AoiViewSet} {o : EntityId} {v : ObserverSnapshot} {token : ViewSnapshotToken}
  {frozen : ViewBaseline} {k : Nat}

theorem find (h : Sending vs o v token frozen k) :
    vs.findSnapshotTask token = some
      { token := token
        baseline := frozen
        acceptedParts := List.replicate k true ++ List.replicate (token.partCount - k) false
        acceptedCount := k } := by
  unfold findSnapshotTask
  rw [h.observer, h.view, h.task]
  simp [h.resync, h.epoch, h.seq, h.revision]

/-- Accepting the next part. -/
theorem mark (h : Sending vs o v token frozen k) (hlt : k < token.partCount) :
    ∃ vs', vs.markSnapshotPartAccepted token k = (true, vs') ∧
      Sending vs' o v token frozen (k + 1) ∧ vs'.views = vs.views ∧
      vs'.nextSnapshotId = vs.nextSnapshotId := by
  have hget : (List.replicate k true ++ List.replicate (token.partCount - k) false)[k]? =
      some false := by
    rw [List.getElem?_append_right (by simp)]
    simp [hlt]
  have hset : (List.replicate k true ++ List.replicate (token.partCount - k) false).set k true =
      List.replicate (k + 1) true ++ List.replicate (token.partCount - (k + 1)) false := by
    obtain ⟨m, hm⟩ : ∃ m, token.partCount - k = m + 1 := ⟨token.partCount - k - 1, by omega⟩
    rw [hm, List.set_append_right _ _ (by simp), show token.partCount - (k + 1) = m by omega,
      List.replicate_succ' (n := k)]
    simp [List.replicate_succ]
  unfold markSnapshotPartAccepted
  rw [h.find]
  simp only [hget, hset, h.observer]
  refine ⟨_, rfl, ?_, rfl, rfl⟩
  exact { h with task := by simp, le := hlt }

theorem commit (h : Sending vs o v token frozen token.partCount) :
    vs.commitSnapshot token = (true,
      { vs with
        views := vs.views.insert o
          { v with
            committedState := frozen
            pendings := ∅
            nextViewSeq := v.nextViewSeq + 1
            needResync := false }
        snapshotTasks := vs.snapshotTasks.erase o }) := by
  unfold commitSnapshot
  rw [h.find, h.observer, h.view]
  simp

theorem abort (h : Sending vs o v token frozen k) :
    vs.abortSnapshot token = (true, { vs with snapshotTasks := vs.snapshotTasks.erase o }) := by
  unfold abortSnapshot
  rw [h.find, h.observer]

end Sending

theorem beginSnapshot_some {vs vs' : AoiViewSet} {o : EntityId} {token : ViewSnapshotToken}
    {frozen : ViewBaseline} {n : Nat} (h : vs.beginSnapshot o frozen n = (some token, vs')) :
    ∃ v, Sending vs' o v token frozen 0 ∧ token.partCount = n ∧ vs'.views = vs.views ∧
      token.snapshotId = vs.nextSnapshotId ∧ vs'.nextSnapshotId = vs.nextSnapshotId + 1 ∧
      ∀ kv ∈ frozen.entries, kv.1 ≠ 0 ∧ validEntityKind kv.2.kind = true := by
  unfold beginSnapshot at h
  cases hv : vs.views.lookup o with
  | none => simp [hv] at h
  | some v =>
    simp only [hv] at h
    split at h
    · cases h
    rename_i hok
    split at h
    · cases h
    rename_i hkinds
    cases h
    push Not at hok
    refine ⟨v, ?_, rfl, rfl, rfl, rfl, fun kv hkv => ?_⟩
    rotate_left
    · simp only [List.any_eq_true, not_exists, not_and] at hkinds
      simpa using hkinds kv hkv
    exact
      { view := hv
        resync := by simpa using hok.1
        observer := rfl
        epoch := rfl
        seq := rfl
        revision := rfl
        task := by simp
        le := Nat.zero_le _ }

end AoiViewSet

end Aoi
