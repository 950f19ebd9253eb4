import GameServer.Aoi.Mirror

/-!
# When the client's copy is the committed view

A delta is faithful when every entity it enters or moves stands at the origin
with direction zero, since the server commits these fields as zero, and when the
commit that follows it cannot fail. In runs of faithful deltas that open no view
under an epoch already in use, every client holds its observer's committed view.
-/

namespace Aoi

open AoiReplica ClientView AoiViewSet

/-- What a delta sends about the entity, if anything, is what the server will commit. -/
def sendable (baseline : ViewBaseline) (e : AoiEntity) : Bool :=
  (deltaKind baseline e).isNone ||
    (e.x = 0 ∧ e.y = 0 ∧ e.dir = 0 ∧ (baseline.lookup e.entityId).all fun old =>
      old.kind = e.kind ∧ old.businessId = e.businessId ∧
        (old.entityGeneration < e.entityGeneration ∨
          (old.entityGeneration = e.entityGeneration ∧ old.spatialVersion ≤ e.spatialVersion)))

/-- The pass of an observer sends no delta, or one that the server commits as sent. -/
def deltaFaithful (sc : Scene) (s : AoiService) (sink : Sink) (o : EntityId) : Bool :=
  match s.viewSet.prepareSend o, s.viewSet.findObserver o, currentView sc s o,
    s.businessIdOf o with
  | some _, some v, some current, some pid =>
    v.needResync || acceptedPushes current v.committedState = [] ||
      sink.sendToClient (deltaRequest pid v current) ≠ .accepted ||
      (v.nextViewSeq ≠ uint64Max && current.all (sendable v.committedState))
  | _, _, _, _ => true

/-- The call opens no view under an epoch in which its player has already been sent a frame. -/
def opensUnused (s : AoiService) (op : Op) : Bool :=
  (opens s op).all fun view => s.clientQueue.all fun r => !decide (r.For view.1 view.2.2)

/-- The step keeps the client's copy. -/
def Act.Faithful (sc : Scene) (s : AoiService) : Act → Prop
  | .call op => opensUnused s op = true
  | .process o sink =>
    o ∈ s.dirtyObservers ∨ s.viewSet.hasPending o ∨ s.viewSet.needResync o →
      deltaFaithful sc s sink o = true
  | _ => True

instance (sc : Scene) (s : AoiService) (a : Act) : Decidable (a.Faithful sc s) := by
  cases a <;> unfold Act.Faithful <;> infer_instance

/-- The calls in a run are as owners produce them. -/
def Act.Produced : Act → Prop
  | .call op => op.Produced
  | _ => True

instance : DecidablePred Act.Produced := fun a => by
  cases a <;> unfold Act.Produced <;> infer_instance

/-- Every client holds its observer's committed view, and numbers its frames 1, 2, 3, … -/
structure MirrorHolds (s : AoiService) : Prop where
  held : ∀ pid i v, s.identities.lookup pid = some i → s.viewSet.findObserver i.id = some v →
    ∀ id, (mirror s.clientQueue pid v.clientViewEpoch).entities.lookup id =
      v.committedState.lookup id
  seqs : ∀ pid epoch, ∃ n, (mirror s.clientQueue pid epoch).seqs = List.range' 1 n

variable {sc : Scene} {wId : WorkerId} {targets : List WorkerId} {s s' : AoiService}

/-- The invariant behind `MirrorHolds`. -/
structure Mirrored (s : AoiService) : Prop where
  held : ∀ pid i v, s.identities.lookup pid = some i → s.viewSet.views.lookup i.id = some v →
    (∀ id, (mirror s.clientQueue pid v.clientViewEpoch).entities.lookup id =
      v.committedState.lookup id) ∧
    (mirror s.clientQueue pid v.clientViewEpoch).seqs = List.range' 1 (v.nextViewSeq - 1) ∧
    1 ≤ v.nextViewSeq
  seqs : ∀ pid epoch, ∃ n, (mirror s.clientQueue pid epoch).seqs = List.range' 1 n
  ids : ∀ pid epoch, (mirror s.clientQueue pid epoch).snapshotId < s.viewSet.nextSnapshotId
  valid : ∀ o v id st, s.viewSet.views.lookup o = some v → v.committedState.lookup id = some st →
    id ≠ 0 ∧ validEntityKind st.kind = true

theorem mirrored_init : Mirrored {} where
  held := by simp
  seqs := fun _ _ => ⟨0, rfl⟩
  ids := fun _ _ => Nat.zero_lt_one
  valid := by simp

/-- A registered observer keeps the player it had before the step. -/
theorem observer_player {o : EntityId} (hb' : Based sc wId s') (hb : Based sc wId s)
    (hids : IdsKept s s') {v : ObserverSnapshot} (hv : s.viewSet.views.lookup o = some v)
    {pid : Nat} {i : LocalIdentity} (hi : s'.identities.lookup pid = some i) (hio : i.id = o) :
    ∃ j, s.identities.lookup pid = some j ∧ j.id = o := by
  obtain ⟨q, j, hj, hjo⟩ := hb.observers o v hv
  obtain ⟨j', hj', hid⟩ := hids q j hj
  have hq : q = pid := hb'.injective q pid j' i hj' hi (by rw [hid, hjo, hio])
  exact ⟨j, hq ▸ hj, hjo⟩

/-- Nothing that the mirror talks about changed. -/
theorem Mirrored.views (h : Mirrored s) (hb : Based sc wId s) (hb' : Based sc wId s')
    (hids : IdsKept s s') (hqueue : s'.clientQueue = s.clientQueue)
    (hnext : s'.viewSet.nextSnapshotId = s.viewSet.nextSnapshotId)
    (hviews : ∀ o v', s'.viewSet.views.lookup o = some v' →
      ∃ v, s.viewSet.views.lookup o = some v ∧ v'.committedState = v.committedState ∧
        v'.clientViewEpoch = v.clientViewEpoch ∧ v'.nextViewSeq = v.nextViewSeq) :
    Mirrored s' where
  held := fun pid i v' hi hv' => by
    obtain ⟨v, hv, hcom, hepoch, hseq⟩ := hviews _ _ hv'
    obtain ⟨j, hj, hji⟩ := observer_player hb' hb hids hv hi rfl
    rw [hqueue, hcom, hepoch, hseq]
    exact h.held pid j v hj (hji.symm ▸ hv)
  seqs := by rw [hqueue]; exact h.seqs
  ids := by rw [hqueue, hnext]; exact h.ids
  valid := fun o v' id st hv' hst => by
    obtain ⟨v, hv, hcom, _⟩ := hviews _ _ hv'
    exact h.valid o v id st hv (hcom ▸ hst)

theorem Mirrored.change (h : Mirrored s) (hb : Based sc wId s)
    {opening : Option (Nat × EntityId × Nat)} (hstep : Stepped sc wId opening s s')
    (hopen : ∀ pid o epoch, opening = some (pid, o, epoch) →
      (∃ i, s.identities.lookup pid = some i ∧ i.id = o) ∧
        ∀ r ∈ s.clientQueue, ¬ r.For pid epoch) : Mirrored s' := by
  obtain ⟨hb', hchange, hids⟩ := hstep
  cases hchange with
  | replica hviews hqueue hmarks =>
    exact h.views hb hb' hids hqueue (by rw [hviews])
      fun o v' hv' => ⟨v', hviews ▸ hv', rfl, rfl, rfl⟩
  | left o hviews hnext hqueue hmarks =>
    refine h.views hb hb' hids hqueue hnext fun o' v' hv' => ?_
    rw [hviews] at hv'
    split at hv'
    · cases hv'
    · exact ⟨v', hv', rfl, rfl, rfl⟩
  | resynced o v hv hviews hnext hqueue hreplica hdirty =>
    refine h.views hb hb' hids hqueue hnext fun o' v' hv' => ?_
    rw [hviews] at hv'
    split at hv'
    · rename_i heq
      cases hv'
      exact ⟨v, heq ▸ hv, rfl, rfl, rfl⟩
    · exact ⟨v', hv', rfl, rfl, rfl⟩
  | opened pid o epoch heq hviews hnext hqueue hreplica hdirty =>
    obtain ⟨⟨i, hi, hio⟩, hunused⟩ := hopen pid o epoch heq
    obtain ⟨i', hi', hid⟩ := hids pid i hi
    exact
      { held := fun q j v' hj hv' => by
          rw [hviews] at hv'
          rw [hqueue]
          split at hv'
          · rename_i hjo
            cases hv'
            have hq : q = pid := hb'.injective q pid j i' hj hi' (by rw [hjo, hid, hio])
            rw [hq, mirror_unused hunused]
            exact ⟨fun _ => rfl, rfl, le_rfl⟩
          · obtain ⟨j', hj', hji⟩ := observer_player hb' hb hids hv' hj rfl
            exact h.held q j' v' hj' (hji.symm ▸ hv')
        seqs := by rw [hqueue]; exact h.seqs
        ids := by rw [hqueue, hnext]; exact h.ids
        valid := fun o' v' id st hv' hst => by
          rw [hviews] at hv'
          split at hv'
          · cases hv'
            simp at hst
          · exact h.valid o' v' id st hv' hst }

/-- Every item of a faithful delta is admissible. -/
theorem commitTo_sendable {v : ObserverSnapshot} {current : List AoiEntity}
    (hsorted : Sorted current)
    (hcur : ∀ e ∈ current, e.entityId ≠ 0 ∧ validEntityKind e.kind = true)
    (hbase : ∀ id st, v.committedState.lookup id = some st →
      id ≠ 0 ∧ validEntityKind st.kind = true)
    (hsend : ∀ e ∈ current, sendable v.committedState e = true) :
    ∀ push ∈ acceptedPushes current v.committedState,
      (commitTo push (v.committedState.lookup push.targetId)).isSome := by
  intro push hpush
  rcases List.mem_append.mp hpush with hmem | hmem
  · obtain ⟨e, he, hk⟩ := List.mem_filterMap.mp hmem
    obtain ⟨kind, hkind, rfl⟩ := Option.map_eq_some_iff.mp hk
    obtain ⟨hid, hvalid⟩ := hcur e he
    have hs := hsend e he
    simp only [sendable, hkind, Option.isNone_some, Bool.false_or, decide_eq_true_eq] at hs
    obtain ⟨_, _, _, hs⟩ := hs
    unfold commitTo
    rw [if_neg (by simp [pushOf, hid, hvalid])]
    unfold deltaKind at hkind
    have htarget : (pushOf kind e).targetId = e.entityId := rfl
    rw [htarget]
    cases hold : v.committedState.lookup e.entityId with
    | none =>
      simp only [hold] at hkind
      cases hkind
      simp [pushOf]
    | some old =>
      simp only [hold, Option.all_some, decide_eq_true_eq] at hs
      simp only [hold] at hkind
      obtain ⟨hk1, hk2, hgen⟩ := hs
      split at hkind
      · rename_i hne
        cases hkind
        have hlt : old.entityGeneration < e.entityGeneration :=
          hgen.resolve_right fun h => hne h.1
        have h1 : ¬ e.entityGeneration < old.entityGeneration := by omega
        have h2 : e.entityGeneration ≠ old.entityGeneration := by omega
        simp [pushOf, hk1, hk2, h1, h2]
      split at hkind
      · rename_i hsame _
        cases hkind
        have hsame : old.entityGeneration = e.entityGeneration := not_not.mp hsame
        have hle : old.spatialVersion ≤ e.spatialVersion := by
          rcases hgen with hlt | ⟨_, hle⟩
          · omega
          · exact hle
        have h1 : ¬ e.spatialVersion < old.spatialVersion := by omega
        simp [pushOf, hk1, hk2, hsame, h1]
      · cases hkind
  · obtain ⟨row, hrow, rfl⟩ := List.mem_map.mp hmem
    obtain ⟨hlook, _⟩ := (mem_leftRows hsorted).mp hrow
    obtain ⟨hid, hvalid⟩ := hbase _ _ hlook
    unfold commitTo
    rw [if_neg (by simp [hid, hvalid])]
    simp [hlook]

/-- Under a faithful delta the server commits what the client puts. -/
theorem committedAfter_sendable (baseline : ViewBaseline) {current : List AoiEntity}
    (hsend : ∀ e ∈ current, sendable baseline e = true) (id : EntityId) :
    committedAfter baseline current id =
      (current.find? (·.entityId = id)).bind fun e =>
        match deltaKind baseline e with
        | none => baseline.lookup id
        | some _ => some (toState e) := by
  unfold committedAfter
  cases hfind : current.find? (·.entityId = id) with
  | none => rfl
  | some e =>
    simp only [Option.bind_some]
    cases hk : deltaKind baseline e with
    | none => rfl
    | some kind =>
      have hs := hsend e (List.mem_of_find?_eq_some hfind)
      simp only [sendable, hk, Option.isNone_some, Bool.false_or, decide_eq_true_eq] at hs
      obtain ⟨hx, hy, hdir, _⟩ := hs
      simp [pushOf, toState, hx, hy, hdir]

/-- Frames for the observer's player leave every other observer's client alone. -/
theorem mirror_other {queue rs : List AoiClientPushRequest} {pid q epoch e : Nat}
    (hrs : ∀ r ∈ rs, r.For pid epoch) (hne : ¬ (q = pid ∧ e = epoch)) :
    mirror (queue ++ rs) q e = mirror queue q e :=
  mirror_append_other fun r hr h => by
    obtain ⟨h1, h2⟩ := hrs r hr
    exact hne ⟨h.1.symm.trans h1, h.2.symm.trans h2⟩

/-- One observer's view and its player's client move together; all else stays. -/
theorem Mirrored.pass (h : Mirrored s) (hb : Based sc wId s) {o : EntityId} {pid : Nat}
    {i : LocalIdentity} {v v' : ObserverSnapshot} {rs : List AoiClientPushRequest}
    (hi : s.identities.lookup pid = some i) (hio : i.id = o) (hrs : ∀ r ∈ rs, r.For pid v.clientViewEpoch)
    (hids : s'.identities = s.identities) (hqueue : s'.clientQueue = s.clientQueue ++ rs)
    (hviews : ∀ o', o' ≠ o → s'.viewSet.views.lookup o' = s.viewSet.views.lookup o')
    (hview : s'.viewSet.views.lookup o = some v')
    (hepoch : v'.clientViewEpoch = v.clientViewEpoch)
    (hheld : ∀ id, (rs.foldl ClientMirror.receive
        (mirror s.clientQueue pid v.clientViewEpoch)).entities.lookup id =
      v'.committedState.lookup id)
    (hseqs : (rs.foldl ClientMirror.receive (mirror s.clientQueue pid v.clientViewEpoch)).seqs =
      List.range' 1 (v'.nextViewSeq - 1)) (hpos : 1 ≤ v'.nextViewSeq)
    (hsnap : (rs.foldl ClientMirror.receive
        (mirror s.clientQueue pid v.clientViewEpoch)).snapshotId < s'.viewSet.nextSnapshotId)
    (hmono : s.viewSet.nextSnapshotId ≤ s'.viewSet.nextSnapshotId)
    (hvalid : ∀ id st, v'.committedState.lookup id = some st →
      id ≠ 0 ∧ validEntityKind st.kind = true) : Mirrored s' := by
  have hown := mirror_append_for s.clientQueue hrs
  exact
    { held := fun q j w hj hw => by
        rw [hids] at hj
        by_cases hjo : j.id = o
        · have hq : q = pid := hb.injective q pid j i hj hi (hjo.trans hio.symm)
          rw [hjo, hview] at hw
          cases hw
          rw [hq, hqueue, hepoch, hown]
          exact ⟨hheld, hseqs, hpos⟩
        · have hq : q ≠ pid := by
            rintro rfl
            cases hj.symm.trans hi
            exact hjo hio
          rw [hviews _ hjo] at hw
          rw [hqueue, mirror_other hrs fun h => hq h.1]
          exact h.held q j w hj hw
      seqs := fun q e => by
        rw [hqueue]
        by_cases hqe : q = pid ∧ e = v.clientViewEpoch
        · rw [hqe.1, hqe.2, hown]
          exact ⟨_, hseqs⟩
        · rw [mirror_other hrs hqe]
          exact h.seqs q e
      ids := fun q e => by
        rw [hqueue]
        by_cases hqe : q = pid ∧ e = v.clientViewEpoch
        · rw [hqe.1, hqe.2, hown]
          exact hsnap
        · rw [mirror_other hrs hqe]
          exact Nat.lt_of_lt_of_le (h.ids q e) hmono
      valid := fun o' w id st hw hst => by
        by_cases ho : o' = o
        · rw [ho, hview] at hw
          cases hw
          exact hvalid id st hst
        · rw [hviews o' ho] at hw
          exact h.valid o' w id st hw hst }

theorem receive_parts {m : ClientMirror} (pid : Nat) {token : ViewSnapshotToken}
    {frozen : ViewBaseline} (n : Nat) :
    ((List.range' 0 n).map (partRequest pid token frozen)).foldl ClientMirror.receive m =
      (List.range n).foldl (fun m k => m.snapshot (snapshotPart token frozen k)) m := by
  rw [List.foldl_map, List.range_eq_range']
  rfl

theorem range'_snoc (n : Nat) (h : 1 ≤ n) : List.range' 1 (n - 1) ++ [n] = List.range' 1 n := by
  obtain ⟨k, rfl⟩ : ∃ k, n = k + 1 := ⟨n - 1, by omega⟩
  rw [Nat.add_sub_cancel, List.range'_concat]
  simp [Nat.add_comm]

/-- The frames of an observer go to the player whose identity it is. -/
theorem Based.player (hb : Based sc wId s) {o : EntityId} {v : ObserverSnapshot} {pid : Nat}
    (hv : s.viewSet.views.lookup o = some v) (hpid : s.businessIdOf o = some pid) :
    ∃ i, s.identities.lookup pid = some i ∧ i.id = o := by
  unfold AoiService.businessIdOf at hpid
  cases he : s.replica.findById o with
  | none => simp [he] at hpid
  | some e =>
    simp only [he] at hpid
    split at hpid
    · cases hpid
    · cases hpid
      exact hb.business o e he (hb.observer_local hv he)

/-- A faithful delta that the sink takes is committed. -/
theorem deltaFaithful_sendable {sink : Sink} {o : EntityId} {current : List AoiEntity}
    {v : ObserverSnapshot} {token : ViewSendToken} {pid : Nat}
    (hok : deltaFaithful sc s sink o = true) (hcur : currentView sc s o = some current)
    (hv : s.viewSet.views.lookup o = some v) (hr : v.needResync = false)
    (hpid : s.businessIdOf o = some pid) (htoken : s.viewSet.prepareSend o = some token)
    (hsend : sink.sendToClient (deltaRequest pid v current) = .accepted)
    (hne : acceptedPushes current v.committedState ≠ []) :
    v.nextViewSeq ≠ uint64Max ∧ ∀ e ∈ current, sendable v.committedState e = true := by
  have hfound : s.viewSet.findObserver o = some v := hv
  simpa [deltaFaithful, htoken, hfound, hcur, hpid, hr, hne, hsend] using hok

/-- What an observer that is somebody's avatar sees: entities in the order of their ids. -/
theorem currentView_valid (hb : Based sc wId s) {o : EntityId} {pid : Nat}
    {current : List AoiEntity} (hpid : s.businessIdOf o = some pid)
    (hcur : currentView sc s o = some current) :
    Sorted current ∧ ∀ e ∈ current, e.entityId ≠ 0 ∧ validEntityKind e.kind = true := by
  unfold AoiService.businessIdOf at hpid
  cases hob : s.replica.findById o with
  | none => simp [hob] at hpid
  | some ob =>
    obtain ⟨hsorted, hmem⟩ := currentView_active hb.owned.agree hob hcur
    exact ⟨hsorted, fun e he => hb.owned.valid _ e ((hmem e).mp he).1⟩

theorem toBaseline_valid {current : List AoiEntity}
    (hvalid : ∀ e ∈ current, e.entityId ≠ 0 ∧ validEntityKind e.kind = true) (id : EntityId)
    (st : SentEntityState) (hst : (toBaseline current).lookup id = some st) :
    id ≠ 0 ∧ validEntityKind st.kind = true := by
  rw [lookup_toBaseline, Option.map_eq_some_iff] at hst
  obtain ⟨e, hfind, rfl⟩ := hst
  have hid : e.entityId = id := by simpa using List.find?_some hfind
  rw [← hid]
  exact hvalid e (List.mem_of_find?_eq_some hfind)

/-- Whether or not a part was accepted, the queue grew by frames for the observer's player. -/
theorem ClientView.Queued.frames {o : EntityId} {token : ViewSnapshotToken} {frozen : ViewBaseline} {n : Nat}
    (hqueue : Queued o token frozen 0 n s s') (hb : Based sc wId s) {v : ObserverSnapshot}
    (hv : s.viewSet.views.lookup o = some v) :
    ∃ pid i, s.identities.lookup pid = some i ∧ i.id = o ∧
      s'.clientQueue = s.clientQueue ++ (List.range' 0 n).map (partRequest pid token frozen) := by
  rcases hqueue with ⟨rfl, hqueue⟩ | ⟨pid, hpid, hqueue⟩
  · obtain ⟨pid, i, hi, hio⟩ := hb.observers o v hv
    exact ⟨pid, i, hi, hio, by simpa using hqueue⟩
  · obtain ⟨i, hi, hio⟩ := hb.player hv hpid
    exact ⟨pid, i, hi, hio, by rw [hqueue, Nat.sub_zero]⟩

theorem Mirrored.process (h : Mirrored s) (hb : Based sc wId s) {sink : Sink} {o : EntityId}
    (hok : deltaFaithful sc s sink o = true) {done : Bool}
    (hhook : processAoiClientObserver sc sink s o = some (done, s')) : Mirrored s' := by
  rcases process_pass hhook with ⟨_, rfl⟩ | ⟨current, hcur, hpass⟩
  · exact h
  cases hpass with
  | idle => exact h
  | upToDate => exact h
  | @uncommitted v token pid hv hr hpid htoken hsend hne hfail =>
    obtain ⟨hmax, hsendable⟩ := deltaFaithful_sendable hok hcur hv hr hpid htoken hsend hne
    obtain ⟨hsorted, hvalid⟩ := currentView_valid hb hpid hcur
    have hadm := commitTo_sendable hsorted hvalid (fun id st => h.valid o v id st hv) hsendable
    rw [commitAccepted_prepared htoken hv hmax (nodup_targets hsorted) hadm] at hfail
    cases hfail
  | @delta v next token pid hv hr hpid htoken hsend hne hmax hcommit =>
    obtain ⟨_, hsendable⟩ := deltaFaithful_sendable hok hcur hv hr hpid htoken hsend hne
    obtain ⟨hsorted, hvalid⟩ := currentView_valid hb hpid hcur
    obtain ⟨i, hi, rfl⟩ := hb.player hv hpid
    obtain ⟨hheld, hseqs, hpos⟩ := h.held pid i v hi hv
    have hafter := committedAfter_sendable v.committedState hsendable
    have hfor : ∀ r ∈ [deltaRequest pid v current], r.For pid v.clientViewEpoch := by
      simp [deltaRequest, AoiClientPushRequest.For]
    refine h.pass hb hi rfl hfor rfl rfl (fun o' ho' => by simp [ho'])
      (Table.lookup_insert_same _ _ _) rfl (fun id => ?_) ?_ (Nat.le_add_left _ _) (h.ids _ _) le_rfl fun id st hst => ?_
    · rw [delta_committed hsorted rfl hcommit, hafter]
      exact ClientMirror.delta_entities hsorted hheld _ id
    · have hlast : (deltaRequest pid v current).body =
          .viewDelta (delta v.nextViewSeq current v.committedState) := rfl
      simp only [List.foldl_cons, List.foldl_nil, ClientMirror.receive, hlast,
        ClientMirror.delta, delta, hseqs]
      exact range'_snoc _ hpos
    · have hst : next.committedState.lookup id = some st := hst
      rw [delta_committed hsorted rfl hcommit, committedAfter, Option.bind_eq_some_iff] at hst
      obtain ⟨e, hfind, hst⟩ := hst
      have hid : e.entityId = id := by simpa using List.find?_some hfind
      split at hst
      · exact h.valid _ v id st hv hst
      · cases hst
        exact hid ▸ hvalid e (List.mem_of_find?_eq_some hfind)
  | @snapshot v token _ hv hr hepoch hseq hcount hid hnext hframe hqueue hview =>
    have hparts : 0 < token.partCount := by
      rw [hcount]
      exact Nat.lt_of_lt_of_le Nat.zero_lt_one (Nat.le_max_left _ _)
    obtain ⟨hzero, _⟩ | ⟨pid, hpid, hqueue⟩ := hqueue
    · exact absurd hzero (Nat.ne_of_lt hparts)
    obtain ⟨_, hvalid⟩ := currentView_valid hb hpid hcur
    obtain ⟨i, hi, rfl⟩ := hb.player hv hpid
    obtain ⟨hheld, hseqs, hpos⟩ := h.held pid i v hi hv
    have hnew : (mirror s.clientQueue pid v.clientViewEpoch).snapshotId ≠ token.snapshotId := by
      rw [hid]
      exact Nat.ne_of_lt (h.ids _ _)
    have hall := (receive_parts pid token.partCount).trans
      (ClientMirror.parts_all (toBaseline current) hnew hparts)
    rw [Nat.sub_zero] at hqueue
    refine h.pass hb hi rfl (fun r hr => ?_) (by rw [hframe.same]) hqueue hframe.views hview rfl
      (fun id => ?_) ?_ (Nat.le_add_left _ _) ?_ (by rw [hnext]; exact Nat.le_succ _)
      (toBaseline_valid hvalid)
    · obtain ⟨k, _, rfl⟩ := List.mem_map.mp hr
      exact ⟨rfl, hepoch⟩
    · rw [hall]
      exact ClientMirror.lookup_parts hcount id
    · rw [hall, hseqs, hseq]
      exact range'_snoc _ hpos
    · rw [hall, hnext, hid]
      exact Nat.lt_succ_self _
  | @aborted v v' token n _ hv hr hepoch hseq hcount hid hnext hn hframe hqueue hview hcom hepoch'
      hseq' hr' =>
    obtain ⟨pid, i, hi, rfl, hgrew⟩ := hqueue.frames hb hv
    obtain ⟨hheld, hseqs, hpos⟩ := h.held pid i v hi hv
    have hnew : (mirror s.clientQueue pid v.clientViewEpoch).snapshotId ≠ token.snapshotId := by
      rw [hid]
      exact Nat.ne_of_lt (h.ids _ _)
    have hsome := ClientMirror.parts_some (toBaseline current) hnew hn
    rw [← receive_parts pid] at hsome
    obtain ⟨hents, hnums, hsnap⟩ := hsome
    refine h.pass hb hi rfl (fun r hr => ?_) (by rw [hframe.same]) hgrew hframe.views hview hepoch'
      (fun id => ?_) ?_ (by rw [hseq']; exact hpos) ?_ (by rw [hnext]; exact Nat.le_succ _) ?_
    · obtain ⟨k, _, rfl⟩ := List.mem_map.mp hr
      exact ⟨rfl, hepoch⟩
    · rw [hents, hcom]
      exact hheld id
    · rw [hnums, hseq']
      exact hseqs
    · have hlt := h.ids pid v.clientViewEpoch
      rw [hnext]
      rcases hsnap with hsnap | hsnap
      · rw [hsnap]
        exact Nat.lt_succ_of_lt hlt
      · rw [hsnap, hid]
        exact Nat.lt_succ_self _
    · rw [hcom]
      exact fun id st => h.valid _ v id st hv

/-- What the steps of a run preserve. -/
structure Followed (sc : Scene) (wId : WorkerId) (s : AoiService) : Prop where
  based : Based sc wId s
  mirrored : Mirrored s

theorem Followed.holds (h : Followed sc wId s) : MirrorHolds s where
  held := fun pid i v hi hv => (h.mirrored.held pid i v hi hv).1
  seqs := h.mirrored.seqs

theorem opens_player {op : Op} {pid : Nat} {o : EntityId} {epoch : Nat}
    (h : opens s op = some (pid, o, epoch)) :
    ∃ i, s.identities.lookup pid = some i ∧ i.id = o := by
  unfold opens at h
  split at h
  · split at h
    · cases h
    rename_i hid
    split at h
    · cases h
      exact Option.map_eq_some_iff.mp hid
    · cases h
  · split at h
    · cases h
    rename_i hid
    split at h
    · cases h
      exact Option.map_eq_some_iff.mp hid
    · cases h
  · cases h

theorem Followed.act (h : Followed sc wId s) {a : Act} (ha : a.Produced)
    (hok : a.Faithful sc s) (hrun : s.act sc wId targets a = some s') : Followed sc wId s' := by
  obtain ⟨hb, hm⟩ := h
  cases a with
  | call op =>
    have hstep := hb.call ha hrun
    refine ⟨hstep.based, hm.change hb hstep fun pid o epoch hopen => ⟨opens_player hopen, ?_⟩⟩
    simpa [Act.Faithful, opensUnused, hopen] using hok
  | flush nextTickTime =>
    have hstep := hb.flush hrun
    exact ⟨hstep.based, hm.change hb hstep (by simp)⟩
  | retry sink =>
    cases Option.some.inj hrun
    have hstep := hb.retry sink
    exact ⟨hstep.based, hm.change hb hstep (by simp)⟩
  | process o sink =>
    simp only [AoiService.act, AoiService.processOne] at hrun
    split at hrun
    case isFalse =>
      cases hrun
      exact ⟨hb, hm⟩
    rename_i hdue
    simp only [Option.bind_eq_bind, Option.bind_eq_some_iff] at hrun
    obtain ⟨⟨done, t⟩, hhook, hrun⟩ := hrun
    have hmt := hm.process hb (hok hdue) hhook
    have hbt := hb.process hhook
    cases done with
    | true =>
      cases hrun
      exact ⟨{ hbt with }, { hmt with }⟩
    | false =>
      cases hrun
      exact ⟨hbt, hmt⟩

/-- A tick is a run of its pieces. -/
theorem tick_acts {now : Int} {sink : Sink}
    (h : s.work sc wId targets (.tick now sink) = some s') :
    ∃ acts : List Act, (∀ a ∈ acts, a.Produced) ∧
      Run.exec (AoiService.act sc wId targets) s acts = some s' := by
  simp only [AoiService.work, AoiService.onTick] at h
  split at h
  · cases h
    exact ⟨[], by simp, rfl⟩
  simp only [Option.bind_eq_bind, Option.bind_eq_some_iff] at h
  obtain ⟨t, ht, hpasses⟩ := h
  have hpass : ∀ (os : List EntityId) (u : AoiService),
      os.foldlM (AoiService.processOne (processAoiClientObserver sc sink)) u = some s' →
      Run.exec (AoiService.act sc wId targets) u (os.map (Act.process · sink)) = some s' := by
    intro os
    induction os with
    | nil => exact fun u hu => hu
    | cons o os ih =>
      intro u hu
      rw [List.foldlM_cons] at hu
      obtain ⟨w, hw, hrest⟩ := Option.bind_eq_some_iff.mp hu
      exact Option.bind_eq_some_iff.mpr ⟨w, hw, ih w hrest⟩
  refine ⟨.flush _ :: .retry sink :: _, ?_, Option.bind_eq_some_iff.mpr ⟨t, ht, hpass _ _ hpasses⟩⟩
  simp [Act.Produced]

theorem followed_init : Followed sc wId {} := ⟨based_init, mirrored_init⟩

/-- Along faithful steps every client holds its observer's committed view, and the numbers of
its frames are consecutive. -/
theorem clients_mirror {acts : List Act} (hprod : ∀ a ∈ acts, a.Produced)
    (hok : Run.Along (AoiService.act sc wId targets) (Act.Faithful sc) {} acts)
    (hrun : Run.exec (AoiService.act sc wId targets) {} acts = some s) : MirrorHolds s :=
  (Run.along_invariant (Followed sc wId) (fun _ _ _ h ha hst => h.act ha.1 ha.2 hst)
    followed_init (Run.along_and hprod hok) hrun).holds

/-- The first player gets an empty snapshot, then the second one enters at `(x, y)` and is sent
to the first in a delta. -/
def entersLater (x y : Int) : List Act :=
  [.call (.enter { id := 7, x := x, y := y, dir := 0, epoch := 1 }),
   .call (.online 7 1),
   .process 4294967297 acceptAll,
   .call (.enter { id := 8, x := x, y := y, dir := 0, epoch := 1 }),
   .process 4294967297 acceptAll]

/-- Two frames later the client of a player at the origin holds the committed view. -/
theorem clients_mirror_origin :
    ∃ s, Run.exec (AoiService.act smallScene 1 []) {} (entersLater 0 0) = some s ∧
      (mirror s.clientQueue 7 1).seqs = [1, 2] ∧ MirrorHolds s := by
  have hseqs : ((Run.exec (AoiService.act smallScene 1 []) {} (entersLater 0 0)).any fun s =>
      (mirror s.clientQueue 7 1).seqs = [1, 2]) = true := by
    decide +kernel
  obtain ⟨s, hs, hseqs⟩ := (Option.any_eq_true _ _).mp hseqs
  exact ⟨s, hs, by simpa using hseqs,
    clients_mirror (by decide) (by decide +kernel) hs⟩

/-- A client is told that the second player is at `(15, 5)`; the server commits `(0, 0)`. -/
theorem delta_position_lost :
    ¬ ∀ acts s, (∀ a ∈ acts, a.Produced) →
      Run.exec (AoiService.act smallScene 1 []) {} acts = some s → MirrorHolds s := by
  intro hclaim
  have hlost : ((Run.exec (AoiService.act smallScene 1 []) {} (entersLater 15 5)).any fun s =>
      (s.identities.lookup 7).any fun i =>
        (s.viewSet.findObserver i.id).any fun v =>
          ((mirror s.clientQueue 7 v.clientViewEpoch).entities.lookup 4294967298).map (·.x) =
              some 15 &&
            (v.committedState.lookup 4294967298).map (·.x) = some 0) = true := by
    decide +kernel
  obtain ⟨s, hs, hlost⟩ := (Option.any_eq_true _ _).mp hlost
  obtain ⟨i, hi, hlost⟩ := (Option.any_eq_true _ _).mp hlost
  obtain ⟨v, hv, hlost⟩ := (Option.any_eq_true _ _).mp hlost
  have hheld := (hclaim (entersLater 15 5) s (by decide) hs).held 7 i v hi hv 4294967298
  rw [hheld, Bool.and_eq_true, decide_eq_true_eq, decide_eq_true_eq] at hlost
  cases hlost.1.symm.trans hlost.2

end Aoi
