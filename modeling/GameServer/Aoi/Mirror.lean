import GameServer.Aoi.Freshness

/-!
# The client's copy of the view

A client puts the entered and moved entities of a delta, removes the left ones,
and replaces everything when the last part of a snapshot arrives. As long as a
delta carries no position the server forgets, this copy is the committed view.
-/

namespace Aoi

open AoiReplica ClientView AoiViewSet

/-- What a client builds from the frames of one view epoch. -/
structure ClientMirror where
  entities : ViewBaseline := ∅
  snapshotId : Nat := 0
  parts : List Nat := []
  pending : ViewBaseline := ∅
  seqs : List Nat := []

namespace ClientMirror

/-- The fields of a wire entity that a committed state has as well. -/
def hold (e : ViewEntity) : SentEntityState where
  kind := e.entity_kind
  businessId := e.business_id
  entityGeneration := e.entity_generation
  spatialVersion := e.spatial_version
  x := e.x
  y := e.y
  dir := e.dir

def putAll (t : ViewBaseline) (es : List ViewEntity) : ViewBaseline :=
  es.foldl (fun t e => t.insert e.entity_id (hold e)) t

def dropAll (t : ViewBaseline) (es : List ViewEntity) : ViewBaseline :=
  es.foldl (fun t e => t.erase e.entity_id) t

def delta (m : ClientMirror) (d : SCPushViewDelta) : ClientMirror :=
  { m with
    entities := dropAll (putAll (putAll m.entities d.entered) d.moved) d.left
    seqs := m.seqs ++ [d.view_seq] }

/-- The first part of a new snapshot drops what was pending. -/
def begin (m : ClientMirror) (snapshotId : Nat) : ClientMirror :=
  if snapshotId = m.snapshotId then m
  else { m with snapshotId := snapshotId, parts := [], pending := ∅ }

def snapshot (m : ClientMirror) (p : SCPushViewSnapshotPart) : ClientMirror :=
  let m := m.begin p.snapshot_id
  let m := { m with parts := m.parts ++ [p.part_index], pending := putAll m.pending p.entities }
  if (List.range p.part_count).all (· ∈ m.parts) then
    { m with
      entities := m.pending
      parts := []
      pending := ∅
      seqs := m.seqs ++ [p.view_seq] }
  else m

def receive (m : ClientMirror) (r : AoiClientPushRequest) : ClientMirror :=
  match r.body with
  | .viewDelta d => m.delta d
  | .viewSnapshot p => m.snapshot p

end ClientMirror

/-- The frame is for this player in this view epoch. -/
def AoiClientPushRequest.For (r : AoiClientPushRequest) (pid epoch : Nat) : Prop :=
  r.observerPlayerId = pid ∧ r.clientViewEpoch = epoch

instance (r : AoiClientPushRequest) (pid epoch : Nat) : Decidable (r.For pid epoch) :=
  inferInstanceAs (Decidable (_ ∧ _))

/-- The client of a player in a view epoch, after the frames that the sink accepted for it. -/
def mirror (queue : List AoiClientPushRequest) (pid epoch : Nat) : ClientMirror :=
  (queue.filter fun r => r.For pid epoch).foldl ClientMirror.receive {}

section Client

variable {queue rs : List AoiClientPushRequest} {pid epoch : Nat}

variable (queue) in
theorem mirror_append_for (h : ∀ r ∈ rs, r.For pid epoch) :
    mirror (queue ++ rs) pid epoch = rs.foldl ClientMirror.receive (mirror queue pid epoch) := by
  have hall : rs.filter (fun r => r.For pid epoch) = rs :=
    List.filter_eq_self.mpr fun r hr => by simpa using h r hr
  rw [mirror, List.filter_append, List.foldl_append, hall]
  rfl

theorem mirror_append_other (h : ∀ r ∈ rs, ¬ r.For pid epoch) :
    mirror (queue ++ rs) pid epoch = mirror queue pid epoch := by
  have hnone : rs.filter (fun r => r.For pid epoch) = [] :=
    List.filter_eq_nil_iff.mpr fun r hr => by simpa using h r hr
  rw [mirror, List.filter_append, hnone, List.append_nil]
  rfl

theorem mirror_unused (h : ∀ r ∈ queue, ¬ r.For pid epoch) : mirror queue pid epoch = {} := by
  have hnone : queue.filter (fun r => r.For pid epoch) = [] :=
    List.filter_eq_nil_iff.mpr fun r hr => by simpa using h r hr
  rw [mirror, hnone]
  rfl

end Client

namespace ClientMirror

theorem lookup_putAll {es : List ViewEntity} (hnd : (es.map (·.entity_id)).Nodup)
    (t : ViewBaseline) (id : EntityId) :
    (putAll t es).lookup id =
      ((es.find? (·.entity_id = id)).map hold).or (t.lookup id) := by
  induction es generalizing t with
  | nil => rfl
  | cons e es ih =>
    obtain ⟨hnot, hnd'⟩ := List.nodup_cons.mp hnd
    rw [putAll, List.foldl_cons]
    refine (ih hnd' _).trans ?_
    by_cases hid : e.entity_id = id
    · have hnone : es.find? (·.entity_id = id) = none := by
        rw [List.find?_eq_none]
        intro e' he' heq
        have heq : e'.entity_id = id := by simpa using heq
        exact hnot (List.mem_map.mpr ⟨e', he', heq.trans hid.symm⟩)
      rw [hnone, List.find?_cons_of_pos (by simpa using hid)]
      simp [hid]
    · rw [List.find?_cons_of_neg (by simpa using hid), Table.lookup_insert, if_neg (Ne.symm hid)]

theorem lookup_dropAll (es : List ViewEntity) (t : ViewBaseline) (id : EntityId) :
    (dropAll t es).lookup id = if id ∈ es.map (·.entity_id) then none else t.lookup id := by
  induction es generalizing t with
  | nil => rfl
  | cons e es ih =>
    rw [dropAll, List.foldl_cons]
    refine (ih _).trans ?_
    rw [Table.lookup_erase]
    by_cases hid : id = e.entity_id <;> by_cases hmem : id ∈ es.map (·.entity_id) <;>
      simp [hid, hmem]

theorem hold_ofState (id : EntityId) (st : SentEntityState) : hold (ofState id st) = st := rfl

theorem putAll_append (t : ViewBaseline) (as bs : List ViewEntity) :
    putAll t (as ++ bs) = putAll (putAll t as) bs := List.foldl_append

section Delta

variable {m : ClientMirror} {baseline : ViewBaseline} {current : List AoiEntity}

theorem find_map_toProto (l : List AoiEntity) (id : EntityId) :
    ((l.map toProto).find? (·.entity_id = id)).map hold =
      (l.find? (·.entityId = id)).map toState := by
  induction l with
  | nil => rfl
  | cons e l ih =>
    by_cases hid : e.entityId = id
    · rw [List.map_cons, List.find?_cons_of_pos (by simp [toProto, hid]),
        List.find?_cons_of_pos (by simpa using hid)]
      rfl
    · rw [List.map_cons, List.find?_cons_of_neg (by simp [toProto, hid]),
        List.find?_cons_of_neg (by simpa using hid)]
      exact ih

theorem find_filter (h : Sorted current) (p : AoiEntity → Bool) (id : EntityId) :
    (current.filter p).find? (·.entityId = id) =
      (current.find? (·.entityId = id)).filter p := by
  refine Option.ext fun e => ?_
  have hsub : Sorted (current.filter p) := h.sublist List.filter_sublist
  have hmem : ∀ l, Sorted l → (l.find? (·.entityId = id) = some e ↔ e ∈ l ∧ e.entityId = id) := by
    intro l hl
    constructor
    · intro hf
      exact ⟨List.mem_of_find?_eq_some hf, by simpa using List.find?_some hf⟩
    · rintro ⟨he, rfl⟩
      exact find_of_mem hl he
  rw [hmem _ hsub, Option.filter_eq_some_iff, hmem _ h, List.mem_filter]
  tauto

/-- The client after a delta from a baseline it holds. -/
theorem delta_entities (hsorted : Sorted current)
    (hbase : ∀ id, m.entities.lookup id = baseline.lookup id) (seq : Nat) (id : EntityId) :
    (m.delta (ClientView.delta seq current baseline)).entities.lookup id =
      (current.find? (·.entityId = id)).bind fun e =>
        match deltaKind baseline e with
        | none => baseline.lookup id
        | some _ => some (toState e) := by
  have hnd : ∀ kind, (((current.filter fun e => deltaKind baseline e = some kind).map toProto).map
      (·.entity_id)).Nodup := by
    intro kind
    rw [List.map_map]
    exact hsorted.nodup.sublist (List.filter_sublist.map _)
  have hleft : id ∈ ((leftRows current baseline).map fun row => ofState row.1 row.2).map
      (·.entity_id) ↔ (∃ st, baseline.lookup id = some st) ∧ ∀ e ∈ current, e.entityId ≠ id := by
    simp only [List.map_map, List.mem_map, Function.comp_apply, ofState]
    constructor
    · rintro ⟨row, hrow, rfl⟩
      obtain ⟨hlook, hall⟩ := (mem_leftRows hsorted).mp hrow
      exact ⟨⟨_, hlook⟩, hall⟩
    · rintro ⟨⟨st, hst⟩, hall⟩
      exact ⟨⟨id, st⟩, (mem_leftRows hsorted).mpr ⟨hst, hall⟩, rfl⟩
  simp only [delta, ClientView.delta]
  rw [lookup_dropAll, lookup_putAll (hnd _), lookup_putAll (hnd _), hbase, find_map_toProto,
    find_map_toProto, find_filter hsorted, find_filter hsorted]
  cases hfind : current.find? (·.entityId = id) with
  | none =>
    have hall : ∀ e ∈ current, e.entityId ≠ id := by simpa using hfind
    cases hold : baseline.lookup id with
    | none => simp
    | some st =>
      rw [if_pos (hleft.mpr ⟨⟨st, hold⟩, hall⟩)]
      rfl
  | some e =>
    have hnot : ¬ ∀ e ∈ current, e.entityId ≠ id := fun hall =>
      hall e (List.mem_of_find?_eq_some hfind) (by simpa using List.find?_some hfind)
    rw [if_neg (by rw [hleft]; exact fun h => hnot h.2)]
    cases hk : deltaKind baseline e with
    | none => simp [Option.filter, hk]
    | some kind => rcases deltaKind_cases hk with rfl | rfl <;> simp [Option.filter, hk]

end Delta

section Parts

/-- Consecutive chunks of a list, put together. -/
theorem flatMap_chunks {α : Type} (l : List α) (p k : Nat) :
    ((List.range k).flatMap fun i => (l.drop (i * p)).take p) = l.take (k * p) := by
  induction k with
  | zero => simp
  | succ k ih =>
    rw [List.range_succ, List.flatMap_append, ih, Nat.succ_mul, List.take_add]
    simp

variable {m : ClientMirror} {token : ViewSnapshotToken} {frozen : ViewBaseline}

/-- The entities of the first `k` parts. -/
def partEntities (token : ViewSnapshotToken) (frozen : ViewBaseline) (k : Nat) : List ViewEntity :=
  (List.range k).flatMap fun i => (snapshotPart token frozen i).entities

variable (frozen) in
/-- The client after the first `k` parts of a new snapshot, before the last one. -/
theorem parts_begin (hnew : m.snapshotId ≠ token.snapshotId) {k : Nat}
    (hk : k < token.partCount) :
    (((List.range k).foldl (fun m i => m.snapshot (snapshotPart token frozen i)) m).begin
        token.snapshotId) =
      { m with
        snapshotId := token.snapshotId
        parts := List.range k
        pending := putAll ∅ (partEntities token frozen k) } := by
  induction k with
  | zero => simp [begin, Ne.symm hnew, partEntities, putAll]
  | succ k ih =>
    rw [List.range_succ, List.foldl_append]
    have hprev := ih (by omega)
    simp only [List.foldl_cons, List.foldl_nil]
    rw [snapshot]
    have hid : (snapshotPart token frozen k).snapshot_id = token.snapshotId := rfl
    have hcount : (snapshotPart token frozen k).part_count = token.partCount := rfl
    have hindex : (snapshotPart token frozen k).part_index = k := rfl
    rw [hid, hprev, hcount, hindex]
    have hmore : ¬ ((List.range token.partCount).all (· ∈ List.range k ++ [k])) = true := by
      simp only [List.all_eq_true, List.mem_range, decide_eq_true_eq, List.mem_append,
        List.mem_singleton, not_forall]
      exact ⟨k + 1, hk, by omega⟩
    simp only [hmore]
    simp [begin, partEntities, List.range_succ, putAll_append]

variable (frozen) in
/-- The last part replaces what the client holds by the frozen view. -/
theorem parts_all (hnew : m.snapshotId ≠ token.snapshotId) (hpos : 0 < token.partCount) :
    (List.range token.partCount).foldl (fun m i => m.snapshot (snapshotPart token frozen i)) m =
      { entities := putAll ∅ (partEntities token frozen token.partCount)
        snapshotId := token.snapshotId
        parts := []
        pending := ∅
        seqs := m.seqs ++ [token.viewSeq] } := by
  obtain ⟨k, hk⟩ : ∃ k, token.partCount = k + 1 := ⟨token.partCount - 1, by omega⟩
  have hprev := parts_begin frozen hnew (k := k) (by omega)
  rw [hk, List.range_succ, List.foldl_append]
  simp only [List.foldl_cons, List.foldl_nil]
  rw [snapshot]
  have hid : (snapshotPart token frozen k).snapshot_id = token.snapshotId := rfl
  have hcount : (snapshotPart token frozen k).part_count = k + 1 := hk
  have hindex : (snapshotPart token frozen k).part_index = k := rfl
  have hseq : (snapshotPart token frozen k).view_seq = token.viewSeq := rfl
  rw [hid, hprev, hcount, hindex, hseq]
  have hall : ((List.range (k + 1)).all (· ∈ List.range k ++ [k])) = true := by
    simp only [List.all_eq_true, List.mem_range, decide_eq_true_eq, List.mem_append,
      List.mem_singleton]
    omega
  simp only [hall, if_true]
  simp [partEntities, List.range_succ, putAll_append]

variable (frozen) in
/-- Fewer than all parts change neither the copy nor the numbers. -/
theorem parts_some (hnew : m.snapshotId ≠ token.snapshotId) {k : Nat}
    (hk : k < token.partCount) :
    let m' := (List.range k).foldl (fun m i => m.snapshot (snapshotPart token frozen i)) m
    m'.entities = m.entities ∧ m'.seqs = m.seqs ∧
      (m'.snapshotId = m.snapshotId ∨ m'.snapshotId = token.snapshotId) := by
  have h := parts_begin frozen hnew hk
  cases k with
  | zero => exact ⟨rfl, rfl, .inl rfl⟩
  | succ k =>
    simp only at h ⊢
    generalize (List.range (k + 1)).foldl
      (fun m i => m.snapshot (snapshotPart token frozen i)) m = m' at h
    unfold begin at h
    split at h
    · rw [h]
      exact ⟨rfl, rfl, .inr rfl⟩
    · have hparts : [] = List.range (k + 1) := congrArg ClientMirror.parts h
      simp [List.range_succ] at hparts

theorem ordered_perm (frozen : ViewBaseline) : (ordered frozen).Perm frozen.entries :=
  List.perm_insertionSort _ _

/-- The parts carry exactly the frozen view. -/
theorem lookup_parts (hcount : token.partCount = partCount frozen) (id : EntityId) :
    (putAll ∅ (partEntities token frozen token.partCount)).lookup id = frozen.lookup id := by
  have hlen : (ordered frozen).length ≤ token.partCount * partSize := by
    rw [(ordered_perm frozen).length_eq, hcount, partCount, partSize]
    have : frozen.entries.length = frozen.size := rfl
    omega
  have hent : partEntities token frozen token.partCount =
      (ordered frozen).map fun row => ofState row.1 row.2 := by
    have hchunks := flatMap_chunks (ordered frozen) partSize token.partCount
    rw [List.take_of_length_le hlen] at hchunks
    rw [← hchunks, List.map_flatMap]
    rfl
  have hnd : ((ordered frozen).map (·.1)).Nodup :=
    ((ordered_perm frozen).map _).nodup_iff.mpr frozen.nodupKeys
  rw [hent, lookup_putAll (by rw [List.map_map]; exact hnd)]
  simp only [AList.lookup_empty, Option.or_none]
  refine Option.ext fun st => ?_
  rw [← Table.mem_entries, ← (ordered_perm frozen).mem_iff]
  generalize ordered frozen = rows at hnd
  induction rows with
  | nil => simp
  | cons row rows ih =>
    obtain ⟨hnot, hnd'⟩ := List.nodup_cons.mp hnd
    by_cases hid : row.1 = id
    · subst hid
      rw [List.map_cons, List.find?_cons_of_pos (by simp [ofState])]
      simp only [Option.map_some, hold_ofState, Option.some.injEq, List.mem_cons]
      constructor
      · rintro rfl
        exact .inl rfl
      · rintro (h | h)
        · exact (congrArg (fun r : (Σ _ : EntityId, SentEntityState) => r.2) h).symm
        · exact absurd (List.mem_map.mpr ⟨_, h, rfl⟩) hnot
    · rw [List.map_cons, List.find?_cons_of_neg (by simp [ofState, hid]), ih hnd',
        List.mem_cons]
      refine ⟨.inr, fun h => h.resolve_left fun heq => hid (by rw [← heq])⟩

end Parts

end ClientMirror

end Aoi
