import GameServer.Aoi.Visible
import GameServer.Aoi.ClientView
import GameServer.Aoi.ViewSetSpec

/-!
# What one observer pass does

A delta moves the committed view to the current one, except that the state of a
sent entity is committed without its position. A snapshot replaces the committed
view by the frozen one if every part is accepted, and otherwise leaves it alone.
-/

namespace Aoi

namespace ClientView

open AoiViewSet

/-- A view sorted by id without repetition. -/
def Sorted (current : List AoiEntity) : Prop :=
  current.Pairwise fun a b => a.entityId < b.entityId

theorem Sorted.nodup {current : List AoiEntity} (h : Sorted current) :
    (current.map (·.entityId)).Nodup := by
  rw [List.Nodup, List.pairwise_map]
  exact h.imp fun hlt => Nat.ne_of_lt hlt

/-- The binary search of `SendDelta` misses exactly the ids that are not in the view. -/
theorem gone_iff {current : List AoiEntity} (h : Sorted current) {id : EntityId} :
    gone current id = true ↔ ∀ e ∈ current, e.entityId ≠ id := by
  unfold gone
  cases hfind : current.find? fun e => id ≤ e.entityId with
  | none =>
    rw [List.find?_eq_none] at hfind
    simp only [true_iff]
    intro e he heq
    exact hfind e he (by simp [heq])
  | some e =>
    obtain ⟨hle, before, rest, rfl, hbefore⟩ := List.find?_eq_some_iff_append.mp hfind
    simp only [decide_eq_true_eq] at hle ⊢
    have hrest := (List.pairwise_append.mp h).2.1
    rw [List.pairwise_cons] at hrest
    constructor
    · intro hne e' he' heq
      rcases List.mem_append.mp he' with hin | hin
      · have := hbefore e' hin
        simp [heq] at this
      · rcases List.mem_cons.mp hin with rfl | hin
        · exact hne heq
        · exact Nat.lt_irrefl _ (Nat.lt_of_lt_of_le (heq ▸ hrest.1 e' hin) hle)
    · intro hall
      exact hall e (by simp)

theorem find_of_mem {current : List AoiEntity} (h : Sorted current) {e : AoiEntity}
    (he : e ∈ current) : current.find? (·.entityId = e.entityId) = some e := by
  cases hfind : current.find? (·.entityId = e.entityId) with
  | none =>
    rw [List.find?_eq_none] at hfind
    simpa using hfind e he
  | some e' =>
    have hid : e'.entityId = e.entityId := by simpa using List.find?_some hfind
    exact congrArg some (List.inj_on_of_nodup_map h.nodup (List.mem_of_find?_eq_some hfind) he hid)

theorem lookup_toBaseline (current : List AoiEntity) (id : EntityId) :
    (toBaseline current).lookup id = (current.find? (·.entityId = id)).map toState := by
  have hfold : ∀ (l : List AoiEntity) (t : ViewBaseline),
      (l.foldl (fun result entity =>
        if entity.entityId ∈ result then result
        else result.insert entity.entityId (toState entity)) t).lookup id =
      (t.lookup id).or ((l.find? (·.entityId = id)).map toState) := by
    intro l
    induction l with
    | nil => intro t; simp
    | cons e l ih =>
      intro t
      rw [List.foldl_cons, ih]
      by_cases hmem : e.entityId ∈ t
      · rw [if_pos hmem]
        by_cases hid : e.entityId = id
        · obtain ⟨v, hv⟩ := Table.mem_iff_lookup.mp (hid ▸ hmem)
          simp [hv]
        · rw [List.find?_cons_of_neg (by simpa using hid)]
      · rw [if_neg hmem]
        by_cases hid : e.entityId = id
        · have hnone : t.lookup id = none := by
            rw [AList.lookup_eq_none, ← hid]
            exact hmem
          rw [List.find?_cons_of_pos (by simpa using hid), hnone]
          simp [hid]
        · rw [List.find?_cons_of_neg (by simpa using hid), Table.lookup_insert,
            if_neg (Ne.symm hid)]
  rw [toBaseline, hfold]
  simp

section Delta

variable {baseline : ViewBaseline} {current : List AoiEntity}

/-- What the server commits for an id when a delta from `baseline` to `current` is accepted. -/
def committedAfter (baseline : ViewBaseline) (current : List AoiEntity) (id : EntityId) :
    Option SentEntityState :=
  (current.find? (·.entityId = id)).bind fun e =>
    match deltaKind baseline e with
    | none => baseline.lookup id
    | some kind => some (pushOf kind e).state

theorem targets_acceptedPushes :
    (acceptedPushes current baseline).map (·.targetId) =
      (current.filter fun e => (deltaKind baseline e).isSome).map (·.entityId) ++
        (leftRows current baseline).map (·.1) := by
  have hcur : ∀ l : List AoiEntity,
      (l.filterMap fun e => (deltaKind baseline e).map fun kind => pushOf kind e).map
        (·.targetId) = (l.filter fun e => (deltaKind baseline e).isSome).map (·.entityId) := by
    intro l
    induction l with
    | nil => rfl
    | cons e l ih =>
      cases hk : deltaKind baseline e with
      | none => simpa [hk] using ih
      | some kind => simpa [hk, pushOf] using ih
  rw [acceptedPushes, List.map_append, hcur, List.map_map]
  rfl

theorem mem_leftRows (h : Sorted current) {row : Σ _ : EntityId, SentEntityState} :
    row ∈ leftRows current baseline ↔
      baseline.lookup row.1 = some row.2 ∧ ∀ e ∈ current, e.entityId ≠ row.1 := by
  rw [leftRows, List.mem_filter, gone_iff h, ← Table.mem_entries]

theorem nodup_targets (h : Sorted current) :
    ((acceptedPushes current baseline).map (·.targetId)).Nodup := by
  rw [targets_acceptedPushes, List.nodup_append]
  refine ⟨h.nodup.sublist (List.filter_sublist.map _), ?_, ?_⟩
  · have hkeys : baseline.entries.keys.Nodup := baseline.nodupKeys
    exact hkeys.sublist ((List.filter_sublist).map _)
  · rintro i hi j hj rfl
    obtain ⟨e, he, rfl⟩ := List.mem_map.mp hi
    obtain ⟨row, hrow, heq⟩ := List.mem_map.mp hj
    exact ((mem_leftRows h).mp hrow).2 e (List.mem_filter.mp he).1 heq.symm

theorem deltaKind_cases {e : AoiEntity} {kind : AoiMsgKind} (h : deltaKind baseline e = some kind) :
    kind = .entry ∨ kind = .move := by
  unfold deltaKind at h
  split at h
  · cases h; exact .inl rfl
  split at h
  · cases h; exact .inl rfl
  split at h
  · cases h; exact .inr rfl
  · cases h

theorem commitTo_sent {push : AcceptedPush} (hk : push.kind = .entry ∨ push.kind = .move)
    {old new : Option SentEntityState} (h : commitTo push old = some new) :
    new = some push.state := by
  unfold commitTo at h
  split at h
  · cases h
  rcases hk with hk | hk <;> simp only [hk] at h <;> split at h <;> simp_all

theorem commitTo_left {push : AcceptedPush} (hk : push.kind = .leave)
    {new : Option SentEntityState} (h : commitTo push (some push.state) = some new) :
    new = none := by
  unfold commitTo at h
  split at h
  · cases h
  simp [hk] at h
  exact h.symm

/-- The committed view after an accepted delta. -/
theorem delta_committed (hsorted : Sorted current) {v next : ObserverSnapshot}
    (hbase : v.committedState = baseline)
    (h : (acceptedPushes current baseline).foldlM commitOne v = some next) (id : EntityId) :
    next.committedState.lookup id = committedAfter baseline current id := by
  subst hbase
  obtain ⟨hitems, hkeep⟩ := commit_items (nodup_targets hsorted) h
  unfold committedAfter
  cases hfind : current.find? (·.entityId = id) with
  | none =>
    have hnot : ∀ e ∈ current, e.entityId ≠ id := by simpa using hfind
    simp only [Option.bind_none]
    cases hold : v.committedState.lookup id with
    | none =>
      rw [hkeep, hold]
      rw [targets_acceptedPushes, List.mem_append, not_or]
      constructor
      · intro hmem
        obtain ⟨e, he, heq⟩ := List.mem_map.mp hmem
        exact hnot e (List.mem_filter.mp he).1 heq
      · intro hmem
        obtain ⟨row, hrow, rfl⟩ := List.mem_map.mp hmem
        cases hold.symm.trans ((mem_leftRows hsorted).mp hrow).1
    | some old =>
      have hmem : ({ kind := .leave, targetId := id, state := old } : AcceptedPush) ∈
          acceptedPushes current v.committedState := by
        refine List.mem_append_right _ (List.mem_map.mpr ⟨⟨id, old⟩, ?_, rfl⟩)
        exact (mem_leftRows hsorted).mpr ⟨hold, hnot⟩
      have hcommit := hitems _ hmem
      simp only [hold] at hcommit
      exact commitTo_left rfl hcommit
  | some e =>
    have he := List.mem_of_find?_eq_some hfind
    obtain rfl : e.entityId = id := by simpa using List.find?_some hfind
    simp only [Option.bind_some]
    cases hk : deltaKind v.committedState e with
    | none =>
      refine hkeep _ fun hmem => ?_
      rw [targets_acceptedPushes, List.mem_append] at hmem
      rcases hmem with hmem | hmem
      · obtain ⟨e', he', heq⟩ := List.mem_map.mp hmem
        obtain ⟨hin, hsome⟩ := List.mem_filter.mp he'
        cases List.inj_on_of_nodup_map hsorted.nodup hin he heq
        simp [hk] at hsome
      · obtain ⟨row, hrow, heq⟩ := List.mem_map.mp hmem
        exact ((mem_leftRows hsorted).mp hrow).2 e he heq.symm
    | some kind =>
      have hmem : pushOf kind e ∈ acceptedPushes current v.committedState :=
        List.mem_append_left _ (List.mem_filterMap.mpr ⟨e, he, by simp [hk]⟩)
      exact commitTo_sent (deltaKind_cases hk) (hitems _ hmem)

end Delta

section Current

variable {sc : Scene} {wId : WorkerId}

theorem currentView_active {s : AoiService} {o : EntityId} {ob : AoiEntity}
    {current : List AoiEntity} (h : AoiReplica.Agree sc.grid wId s.replica.ents s.replica.cells)
    (hob : s.replica.ents.lookup o = some ob) (hcur : currentView sc s o = some current) :
    Sorted current ∧ ∀ e, e ∈ current ↔ s.replica.ents.lookup e.entityId = some e ∧
      e.entityId ≠ o ∧ e.cellIdx ∈ sc.grid.watchSquare ob.cellIdx := by
  simp only [currentView, Option.bind_eq_bind, Option.bind_eq_some_iff] at hcur
  obtain ⟨⟨ok, out⟩, hview, hsort⟩ := hcur
  cases hsort
  obtain ⟨_, hnd, hmem⟩ := AoiReplica.getVisibleEntity_some h hob hview
  have hperm := List.perm_insertionSort (fun a b : AoiEntity => a.entityId ≤ b.entityId) out
  constructor
  · have hle := List.pairwise_insertionSort (fun a b : AoiEntity => a.entityId ≤ b.entityId) out
    have hne : (out.insertionSort fun a b => a.entityId ≤ b.entityId).Pairwise
        fun a b => a.entityId ≠ b.entityId :=
      List.pairwise_map.mp ((hperm.map _).nodup_iff.mpr hnd)
    exact (hle.and hne).imp fun ⟨hab, hne⟩ => Nat.lt_of_le_of_ne hab hne
  · intro e
    rw [hperm.mem_iff, hmem]
    simp

/-- The current view of an active observer, by id. -/
theorem currentView_find {s : AoiService} {o : EntityId} {ob : AoiEntity}
    {current : List AoiEntity} (h : AoiReplica.Agree sc.grid wId s.replica.ents s.replica.cells)
    (hob : s.replica.ents.lookup o = some ob) (hcur : currentView sc s o = some current)
    (id : EntityId) :
    current.find? (·.entityId = id) =
      if id = o then none else AoiReplica.sees sc.grid s.replica.ents o id := by
  obtain ⟨hsorted, hmem⟩ := currentView_active h hob hcur
  refine Option.ext fun e => ?_
  have hfind : current.find? (·.entityId = id) = some e ↔ e ∈ current ∧ e.entityId = id := by
    constructor
    · intro hf
      exact ⟨List.mem_of_find?_eq_some hf, by simpa using List.find?_some hf⟩
    · rintro ⟨he, rfl⟩
      exact find_of_mem hsorted he
  rw [hfind, hmem]
  split
  · rename_i hid
    constructor
    · rintro ⟨⟨_, hne, _⟩, heq⟩
      exact absurd (heq.trans hid) hne
    · intro hnone
      cases hnone
  · rename_i hid
    simp only [AoiReplica.sees, hob, Option.bind_some, Option.filter_eq_some_iff, decide_eq_true_eq]
    constructor
    · rintro ⟨⟨he, _, hsq⟩, rfl⟩
      exact ⟨he, hsq⟩
    · rintro ⟨he, hsq⟩
      have hkey := h.key _ _ he
      exact ⟨⟨hkey.symm ▸ he, hkey.symm ▸ hid, hsq⟩, hkey⟩

end Current

section Pass

/-- What the pass of one observer leaves alone. -/
structure Frame (o : EntityId) (s s' : AoiService) : Prop where
  same : s' = { s with
    viewSet := s'.viewSet, clientQueue := s'.clientQueue, dirtyObservers := s'.dirtyObservers }
  dirty : s.dirtyObservers ⊆ s'.dirtyObservers
  views : ∀ o', o' ≠ o → s'.viewSet.views.lookup o' = s.viewSet.views.lookup o'

theorem Frame.refl (o : EntityId) (s : AoiService) : Frame o s s :=
  ⟨rfl, subset_rfl, fun _ _ => rfl⟩

theorem Frame.trans {o : EntityId} {s t u : AoiService} (hst : Frame o s t) (htu : Frame o t u) :
    Frame o s u where
  same := by rw [htu.same, hst.same]
  dirty := hst.dirty.trans htu.dirty
  views := fun o' ho' => (htu.views o' ho').trans (hst.views o' ho')

theorem Frame.replica {o : EntityId} {s s' : AoiService} (h : Frame o s s') :
    s'.replica = s.replica := by rw [h.same]

def deltaRequest (pid : Nat) (v : ObserverSnapshot) (current : List AoiEntity) :
    AoiClientPushRequest where
  observerPlayerId := pid
  clientViewEpoch := v.clientViewEpoch
  body := .viewDelta (delta v.nextViewSeq current v.committedState)

def partRequest (pid : Nat) (token : ViewSnapshotToken) (frozen : ViewBaseline) (part : Nat) :
    AoiClientPushRequest where
  observerPlayerId := pid
  clientViewEpoch := token.clientViewEpoch
  body := .viewSnapshot (snapshotPart token frozen part)

/-- The queue grew by the parts of a snapshot from `k` up to `n`. -/
def Queued (o : EntityId) (token : ViewSnapshotToken) (frozen : ViewBaseline) (k n : Nat)
    (s s' : AoiService) : Prop :=
  (k = n ∧ s'.clientQueue = s.clientQueue) ∨
    ∃ pid, s.businessIdOf o = some pid ∧
      s'.clientQueue = s.clientQueue ++ (List.range' k (n - k)).map (partRequest pid token frozen)

/-- The ways the pass of an observer can end. -/
inductive Pass (sink : Sink) (o : EntityId) (s : AoiService) (current : List AoiEntity) :
    Bool → AoiService → Prop where
  | idle : Pass sink o s current false s
  | upToDate {v : ObserverSnapshot} (hv : s.viewSet.views.lookup o = some v)
      (hr : v.needResync = false) (hnil : acceptedPushes current v.committedState = []) :
      Pass sink o s current true s
  | delta {v next : ObserverSnapshot} {token : ViewSendToken} {pid : Nat}
      (hv : s.viewSet.views.lookup o = some v) (hr : v.needResync = false)
      (hpid : s.businessIdOf o = some pid) (htoken : s.viewSet.prepareSend o = some token)
      (hsend : sink.sendToClient (deltaRequest pid v current) = .accepted)
      (hne : acceptedPushes current v.committedState ≠ []) (hmax : v.nextViewSeq ≠ uint64Max)
      (hcommit : (acceptedPushes current v.committedState).foldlM commitOne v = some next) :
      Pass sink o s current true
        { s with
          clientQueue := s.clientQueue ++ [deltaRequest pid v current]
          viewSet :=
            { s.viewSet with
              views := s.viewSet.views.insert o
                { v with
                  committedState := next.committedState
                  pendings := next.pendings
                  nextViewSeq := v.nextViewSeq + 1 } } }
  | uncommitted {v : ObserverSnapshot} {token : ViewSendToken} {pid : Nat}
      (hv : s.viewSet.views.lookup o = some v) (hr : v.needResync = false)
      (hpid : s.businessIdOf o = some pid) (htoken : s.viewSet.prepareSend o = some token)
      (hsend : sink.sendToClient (deltaRequest pid v current) = .accepted)
      (hne : acceptedPushes current v.committedState ≠ [])
      (hfail : (s.viewSet.commitAccepted o token (acceptedPushes current v.committedState)).1 =
        false) :
      Pass sink o s current false
        { s with clientQueue := s.clientQueue ++ [deltaRequest pid v current] }
  | snapshot {v : ObserverSnapshot} {token : ViewSnapshotToken} {s' : AoiService}
      (hv : s.viewSet.views.lookup o = some v) (hr : v.needResync = true)
      (hepoch : token.clientViewEpoch = v.clientViewEpoch)
      (hseq : token.viewSeq = v.nextViewSeq) (hcount : token.partCount = partCount (toBaseline current))
      (hid : token.snapshotId = s.viewSet.nextSnapshotId)
      (hnext : s'.viewSet.nextSnapshotId = s.viewSet.nextSnapshotId + 1)
      (hframe : Frame o s s')
      (hqueue : Queued o token (toBaseline current) 0 token.partCount s s')
      (hview : s'.viewSet.views.lookup o = some
        { v with
          committedState := toBaseline current
          pendings := ∅
          nextViewSeq := v.nextViewSeq + 1
          needResync := false }) :
      Pass sink o s current true s'
  | aborted {v v' : ObserverSnapshot} {token : ViewSnapshotToken} {n : Nat} {s' : AoiService}
      (hv : s.viewSet.views.lookup o = some v) (hr : v.needResync = true)
      (hepoch : token.clientViewEpoch = v.clientViewEpoch)
      (hseq : token.viewSeq = v.nextViewSeq) (hcount : token.partCount = partCount (toBaseline current))
      (hid : token.snapshotId = s.viewSet.nextSnapshotId)
      (hnext : s'.viewSet.nextSnapshotId = s.viewSet.nextSnapshotId + 1)
      (hn : n < token.partCount) (hframe : Frame o s s')
      (hqueue : Queued o token (toBaseline current) 0 n s s')
      (hview : s'.viewSet.views.lookup o = some v') (hcommitted : v'.committedState = v.committedState)
      (hepoch' : v'.clientViewEpoch = v.clientViewEpoch) (hseq' : v'.nextViewSeq = v.nextViewSeq)
      (hr' : v'.needResync = true) :
      Pass sink o s current false s'

/-- Giving up a snapshot keeps the committed view and the resync mark. -/
theorem abandon_spec {o : EntityId} {v : ObserverSnapshot} {token : ViewSnapshotToken}
    {frozen : ViewBaseline} {k : Nat} {s : AoiService}
    (h : Sending s.viewSet o v token frozen k) :
    Frame o s (abandon s o token) ∧ (abandon s o token).clientQueue = s.clientQueue ∧
      (abandon s o token).viewSet.nextSnapshotId = s.viewSet.nextSnapshotId ∧
      ∃ v', (abandon s o token).viewSet.views.lookup o = some v' ∧
        v'.committedState = v.committedState ∧ v'.clientViewEpoch = v.clientViewEpoch ∧
        v'.nextViewSeq = v.nextViewSeq ∧ v'.needResync = true := by
  simp only [abandon, h.abort, AoiService.onClientSendFailed]
  split
  · rename_i vs' hmark
    exact ⟨⟨rfl, subset_rfl, fun _ _ => rfl⟩, rfl, rfl, v, h.view, rfl, rfl, rfl, h.resync⟩
  · rename_i vs' hmark
    obtain ⟨u, hu, _, rfl⟩ := markNeedResync_true hmark
    cases hu.symm.trans h.view
    refine ⟨⟨rfl, Finset.subset_insert _ _, fun o' ho' => by simp [ho']⟩, rfl, rfl, ?_⟩
    exact ⟨_, Table.lookup_insert_same _ _ _, rfl, rfl, rfl, rfl⟩

theorem sendParts_spec {sink : Sink} {o : EntityId} {v : ObserverSnapshot}
    {token : ViewSnapshotToken} {frozen : ViewBaseline} {k m : Nat} {s : AoiService}
    (hm : k + m = token.partCount) (h : Sending s.viewSet o v token frozen k)
    {ok : Bool} {s' : AoiService}
    (hrun : sendParts sink o token frozen (List.range' k m) s = (ok, s')) :
    Frame o s s' ∧ s'.viewSet.nextSnapshotId = s.viewSet.nextSnapshotId ∧
      ((ok = true ∧ Queued o token frozen k token.partCount s s' ∧
          s'.viewSet.views.lookup o = some
            { v with
              committedState := frozen
              pendings := ∅
              nextViewSeq := v.nextViewSeq + 1
              needResync := false }) ∨
        (ok = false ∧ ∃ n v', k ≤ n ∧ n < token.partCount ∧ Queued o token frozen k n s s' ∧
          s'.viewSet.views.lookup o = some v' ∧ v'.committedState = v.committedState ∧
          v'.clientViewEpoch = v.clientViewEpoch ∧ v'.nextViewSeq = v.nextViewSeq ∧
          v'.needResync = true)) := by
  induction m generalizing k s with
  | zero =>
    obtain rfl : k = token.partCount := by omega
    simp only [List.range'_zero, sendParts, h.commit] at hrun
    cases hrun
    refine ⟨⟨rfl, subset_rfl, fun o' ho' => by simp [ho']⟩, rfl, .inl ⟨rfl, .inl ⟨rfl, rfl⟩, ?_⟩⟩
    exact Table.lookup_insert_same _ _ _
  | succ m ih =>
    have habandon := abandon_spec h
    rw [List.range'_succ, sendParts] at hrun
    cases hpid : s.businessIdOf o with
    | none =>
      simp only [hpid] at hrun
      cases hrun
      obtain ⟨hframe, hqueue, hnext, v', hv', hrest⟩ := habandon
      exact ⟨hframe, hnext, .inr ⟨rfl, k, v', le_rfl, by omega, .inl ⟨rfl, hqueue⟩, hv', hrest⟩⟩
    | some pid =>
      simp only [hpid, AoiService.pushToClient] at hrun
      cases hsend : sink.sendToClient
          { observerPlayerId := pid
            clientViewEpoch := token.clientViewEpoch
            body := .viewSnapshot (snapshotPart token frozen k) } with
      | accepted =>
        simp only [hsend] at hrun
        obtain ⟨vs', hmark, hsending, hviews, hid⟩ := h.mark (by omega)
        rw [hmark] at hrun
        obtain ⟨hframe, hnext, hend⟩ := ih (by omega) (s := { s with
          clientQueue := s.clientQueue ++ [partRequest pid token frozen k], viewSet := vs' })
          hsending hrun
        have hstep : Frame o s { s with
            clientQueue := s.clientQueue ++ [partRequest pid token frozen k], viewSet := vs' } :=
          ⟨rfl, subset_rfl, fun o' _ => by rw [hviews]⟩
        have hq : ∀ n, k + 1 ≤ n → Queued o token frozen (k + 1) n { s with
            clientQueue := s.clientQueue ++ [partRequest pid token frozen k], viewSet := vs' } s' →
            Queued o token frozen k n s s' := by
          intro n hn hqueue
          refine .inr ⟨pid, hpid, ?_⟩
          obtain ⟨j, hj⟩ : ∃ j, n - k = j + 1 := ⟨n - k - 1, by omega⟩
          have hj' : n - (k + 1) = j := by omega
          rw [hj, List.range'_succ, List.map_cons]
          rcases hqueue with ⟨rfl, hqueue⟩ | ⟨pid', hpid', hqueue⟩
          · obtain rfl : j = 0 := by omega
            simpa using hqueue
          · cases hpid.symm.trans hpid'
            rw [hqueue, hj', List.append_assoc]
            rfl
        refine ⟨hstep.trans hframe, hnext.trans hid, ?_⟩
        rcases hend with ⟨hok, hqueue, hview⟩ | ⟨hok, n, v', hle, hlt, hqueue, hview⟩
        · exact .inl ⟨hok, hq _ (by omega) hqueue, hview⟩
        · exact .inr ⟨hok, n, v', by omega, hlt, hq _ hle hqueue, hview⟩
      | _ =>
        simp only [hsend] at hrun
        cases hrun
        obtain ⟨hframe, hqueue, hnext, v', hv', hrest⟩ := habandon
        exact ⟨hframe, hnext, .inr ⟨rfl, k, v', le_rfl, by omega, .inl ⟨rfl, hqueue⟩, hv', hrest⟩⟩

theorem sendDelta_pass {sink : Sink} {s s' : AoiService} {o : EntityId} {token : ViewSendToken}
    {current : List AoiEntity} {v : ObserverSnapshot} {ok : Bool}
    (hv : s.viewSet.views.lookup o = some v) (hr : v.needResync = false)
    (htoken : s.viewSet.prepareSend o = some token)
    (hrun : sendDelta sink s o token current v.committedState = (ok, s')) :
    Pass sink o s current ok s' := by
  obtain ⟨v', hv', _, _, hepoch, hseq⟩ := prepareSend_some htoken
  cases hv.symm.trans hv'
  simp only [sendDelta] at hrun
  by_cases hnil : acceptedPushes current v.committedState = []
  · rw [if_pos hnil] at hrun
    cases hrun
    exact .upToDate hv hr hnil
  rw [if_neg hnil] at hrun
  cases hpid : s.businessIdOf o with
  | none =>
    simp only [hpid] at hrun
    cases hrun
    exact .idle
  | some pid =>
    have hfound : (s.viewSet.findObserver o).isNone = false := by simp [findObserver, hv]
    simp only [hpid, hfound, Bool.false_eq_true, if_false, AoiService.pushToClient, hepoch,
      hseq] at hrun
    cases hsend : sink.sendToClient
        { observerPlayerId := pid
          clientViewEpoch := v.clientViewEpoch
          body := .viewDelta (delta v.nextViewSeq current v.committedState) } with
    | accepted =>
      simp only [hsend] at hrun
      cases hcommit : s.viewSet.commitAccepted o token (acceptedPushes current v.committedState) with
      | mk done vs' =>
        simp only [hcommit] at hrun
        cases hrun
        cases ok with
        | false =>
          rw [commitAccepted_false hcommit]
          exact .uncommitted hv hr hpid htoken hsend hnil (by rw [hcommit])
        | true =>
          obtain ⟨u, next, hu, hmax, hnext, rfl⟩ := commitAccepted_true hnil hcommit
          cases hv.symm.trans hu
          exact .delta hv hr hpid htoken hsend hnil hmax hnext
    | _ =>
      simp only [hsend] at hrun
      cases hrun
      exact .idle

theorem sendSnapshot_pass {sink : Sink} {s s' : AoiService} {o : EntityId}
    {current : List AoiEntity} {v : ObserverSnapshot} {ok : Bool}
    (hv : s.viewSet.views.lookup o = some v) (hr : v.needResync = true)
    (hrun : sendSnapshot sink s o current = (ok, s')) : Pass sink o s current ok s' := by
  simp only [sendSnapshot] at hrun
  cases hbegin : s.viewSet.beginSnapshot o (toBaseline current) (partCount (toBaseline current)) with
  | mk token? vs' =>
    cases token? with
    | none =>
      simp only [hbegin] at hrun
      cases hrun
      exact .idle
    | some token =>
      simp only [hbegin] at hrun
      obtain ⟨u, hsending, hcount, hviews, hid, hnext, _⟩ := beginSnapshot_some hbegin
      have hu : s.viewSet.views.lookup o = some u := by
        rw [← hviews]
        exact hsending.view
      cases hv.symm.trans hu
      rw [List.range_eq_range', ← hcount] at hrun
      obtain ⟨hframe, hnext', hend⟩ := sendParts_spec (s := { s with viewSet := vs' })
        (Nat.zero_add _) hsending hrun
      have hstep : Frame o s { s with viewSet := vs' } :=
        ⟨rfl, subset_rfl, fun o' _ => by rw [hviews]⟩
      rcases hend with ⟨rfl, hqueue, hview⟩ |
        ⟨rfl, n, v', _, hlt, hqueue, hview, hcom, hep, hseq, hres⟩
      · exact .snapshot hv hr hsending.epoch hsending.seq hcount hid (hnext'.trans hnext)
          (hstep.trans hframe) hqueue hview
      · exact .aborted hv hr hsending.epoch hsending.seq hcount hid (hnext'.trans hnext) hlt
          (hstep.trans hframe) hqueue hview hcom hep hseq hres

/-- Every run of the observer hook is one of the passes. -/
theorem process_pass {sc : Scene} {sink : Sink} {s s' : AoiService} {o : EntityId} {ok : Bool}
    (hrun : processAoiClientObserver sc sink s o = some (ok, s')) :
    (ok = false ∧ s' = s) ∨ ∃ current, currentView sc s o = some current ∧ Pass sink o s current ok s' := by
  unfold processAoiClientObserver at hrun
  cases htoken : s.viewSet.prepareSend o with
  | none =>
    simp only [htoken] at hrun
    cases hrun
    exact .inl ⟨rfl, rfl⟩
  | some token =>
    simp only [htoken, Option.bind_eq_bind, Option.bind_eq_some_iff] at hrun
    obtain ⟨current, hcur, hrun⟩ := hrun
    obtain ⟨v, hv, _⟩ := prepareSend_some htoken
    simp only [borrowCommittedBaseline, needResync, hv, Option.map_some, Option.any_some] at hrun
    refine .inr ⟨current, hcur, ?_⟩
    split at hrun
    · rename_i hr
      exact sendSnapshot_pass hv hr (Option.some.inj hrun)
    · rename_i hr
      exact sendDelta_pass hv (by simpa using hr) htoken (Option.some.inj hrun)

end Pass

end ClientView

end Aoi
