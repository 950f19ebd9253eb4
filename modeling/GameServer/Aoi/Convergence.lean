import GameServer.Aoi.Sound

/-!
# The replicas converge

Once everything an owner has published has arrived, is flushed, and no snapshot
is missing, the replica of another worker shows the owner's entities exactly. A
snapshot must not be older than a MOVE that was dropped before it arrives: such a
snapshot ends the search for the lost MOVE without bringing it.
-/

namespace Aoi

open AoiReplica

variable {sc : Scene} {n : Nat} {o r w x : WorkerId}

section Snapshot

variable {s s' : AoiService} {snap : AoiOwnerSnapshot}

/-- A snapshot of one owner leaves the entities of the others alone. -/
theorem snapshot_sameFor {rep rep' : AoiReplica} {incoming : Table EntityId AoiEntity}
    {dirty dirty' : Observers} (hr : Owned sc r rep)
    (hents : ∀ ent ∈ snap.ents, ownerOf ent.entityId = snap.ownerWorkerId)
    (heff : SnapshotEffect sc r rep rep' snap incoming dirty dirty')
    (ho : o ≠ snap.ownerWorkerId) : SameFor o rep rep' where
  ents := fun id hid => by
    have hnone : incoming.lookup id = none := by
      cases he : incoming.lookup id with
      | none => rfl
      | some e =>
        obtain ⟨ent, hent, rfl, _⟩ := incoming_row heff.collected he
        exact absurd (hid.symm.trans (hents ent hent)) ho
    rw [heff.ents, hnone]
    cases he : rep.ents.lookup id with
    | none => rfl
    | some e =>
      have hne : e.ownerWorker ≠ snap.ownerWorkerId := by
        rw [hr.owner id e he, hid]
        exact ho
      simp [kept, dropped, hne, Option.filter]
  tombs := fun id _ => by rw [heff.tombs]
  water := by rw [heff.water, Table.lookup_insert, if_neg ho]

/-- A snapshot is applied as a whole, or changes nothing. -/
theorem snapshot_cases (hb : Based sc w s) {res : ApplyResult}
    (hrun : s.applyOwnerSnapshot sc w x snap = (res, s')) :
    s' = s ∨ (x = snap.ownerWorkerId ∧ ∃ incoming rep dirty,
      SnapshotEffect sc w s.replica rep snap incoming s.dirtyObservers dirty ∧
      s' = { s with
        replica := rep
        dirtyObservers := dirty
        pendingRemoteMoves := s.pendingRemoteMoves.keep fun _ move =>
          !(move.ownerThreadId = x ∧ move.ownerSeq ≤ snap.seq)
        ownersNeedingSnapshot := s.ownersNeedingSnapshot.erase x }) := by
  unfold AoiService.applyOwnerSnapshot at hrun
  split at hrun
  · cases hrun
    exact .inl rfl
  rename_i hsender
  cases happly : s.replica.applyOwnerSnapshot sc w snap s.dirtyObservers with
  | mk result out =>
    obtain ⟨rep, dirty⟩ := out
    simp only [happly] at hrun
    split at hrun
    · rename_i hres
      subst hres
      obtain ⟨incoming, heff⟩ := applyOwnerSnapshot_applied hb.owned.agree happly
      cases hrun
      exact .inr ⟨by simpa using (not_or.mp hsender).2, incoming, rep, dirty, heff, rfl⟩
    · rename_i hres
      obtain ⟨rfl, rfl⟩ := applyOwnerSnapshot_unchanged happly hres
      cases hrun
      exact .inl rfl

/-- What a worker builds for another is a snapshot of its entities. -/
theorem build_snapshotOf (hb : Based sc w s) (hh : History w s)
    (hsnap : AoiWire.encodeSnapshot (s.buildOwnerSnapshot w) = some snap) :
    SnapshotOf sc w s snap := by
  unfold AoiWire.encodeSnapshot at hsnap
  split at hsnap
  case isFalse => cases hsnap
  cases hsnap
  -- a listed entity is one of the table, but for its cell
  have hrow : ∀ ent ∈ (AoiWire.carried (s.buildOwnerSnapshot w)).ents,
      ∃ e, s.replica.ents.lookup ent.entityId = some e ∧ e.ownerWorker = w ∧
        ent = updateEntity (AoiWire.snapshotEvent e) 0 := by
    intro ent hent
    simp only [AoiWire.carried, AoiService.buildOwnerSnapshot, forEachOwned, List.mem_map,
      List.mem_filter, decide_eq_true_eq] at hent
    obtain ⟨e, ⟨⟨row, hrow, rfl⟩, hown⟩, rfl⟩ := hent
    have hlook := Table.lookup_of_mem hrow
    refine ⟨row.2, ?_, hown, rfl⟩
    show s.replica.ents.lookup row.2.entityId = _
    rw [hb.owned.agree.key _ _ hlook]
    exact hlook
  have hlive : ∀ ent ∈ (AoiWire.carried (s.buildOwnerSnapshot w)).ents,
      s.replica.latest ent.entityId = .live (normalized sc.grid ent) := by
    intro ent hent
    obtain ⟨e, he, _, heq⟩ := hrow ent hent
    have hcell := hb.owned.agree.cell _ e he
    have hnorm : normalized sc.grid ent = e := by
      rw [heq]
      simp only [normalized, updateEntity, AoiWire.snapshotEvent, fromEntity, hcell]
      rfl
    unfold AoiReplica.latest
    rw [he, hnorm]
  exact
    { owner := rfl
      seq := Nat.le_refl _
      ents := fun ent hent => by
        obtain ⟨e, he, hown, heq⟩ := hrow ent hent
        have hid : ownerOf ent.entityId = w := (hb.owned.owner _ e he).symm.trans hown
        refine ⟨hid, ?_, ?_, .inl (hlive ent hent)⟩
        · rw [heq]
          exact (hh.ents _ e hid he).1
        · have havatar := hb.business _ e he hown
          rw [heq] at havatar ⊢
          exact havatar
      exact := fun ent hent _ => hlive ent hent
      complete := fun id e hid hl _ => by
        have he : s.replica.ents.lookup id = some e := by
          unfold AoiReplica.latest at hl
          split at hl
          · rename_i he
            cases hl
            exact he
          · cases hl
          · cases hl
        refine ⟨updateEntity (AoiWire.snapshotEvent e) 0, ?_, hb.owned.agree.key id e he⟩
        simp only [AoiWire.carried, AoiService.buildOwnerSnapshot, forEachOwned, List.mem_map,
          List.mem_filter, decide_eq_true_eq]
        exact ⟨e, ⟨⟨⟨id, e⟩, Table.mem_entries.mpr he, rfl⟩,
          (hb.owned.owner id e he).trans hid⟩, rfl⟩ }

end Snapshot

section Deliver

variable {c c' : Cluster} {msg : ServiceMsg} {rest : List ServiceMsg}

/-- A message that changes nothing in the service is taken from the queue. -/
theorem Sound.taken (h : Sound sc n c) (hw : w < n) (hinbox : c.inbox w = msg :: rest)
    {worker : LogicAoi} (hservice : worker.aoiService = (c.workers w).aoiService)
    (hsnaps : ∀ r snap, worker.pendingAoiSnapshots.lookup r = some snap →
      (c.workers w).pendingAoiSnapshots.lookup r = some snap ∨
        SnapshotOf sc w (c.workers w).aoiService snap)
    (hevent : ∀ ev, msg.body = .event ev → n ≤ msg.sender ∨ msg.sender = w) :
    Sound sc n { c with
      workers := Function.update c.workers w worker
      inbox := Function.update c.inbox w rest } := by
  refine h.receive hw hinbox (hservice ▸ h.based w) (hservice ▸ .refl _ w _) (hservice ▸ hsnaps)
    fun hx hxw => ?_
  have hlink := h.links msg.sender w hx hw hxw
  unfold channelOf
  rw [hservice]
  refine hlink.mail (fun m _ hm => hinbox ▸ List.mem_cons_of_mem _ hm) fun ev hm => ?_
  rw [hinbox, List.mem_cons] at hm
  refine hm.resolve_left fun heq => ?_
  rcases hevent ev (congrArg ServiceMsg.body heq).symm with hge | heq
  · exact absurd hx (Nat.not_lt_of_le hge)
  · exact hxw heq

/-- The message is no snapshot that the worker would accept although it is older than a MOVE of
the same owner which the worker has dropped. -/
def Timely (c : Cluster) (w : WorkerId) (msg : ServiceMsg) : Prop :=
  match msg.body with
  | .ownerSnapshot snap =>
    ((c.workers w).aoiService.replica.ownerSnapshotSeq.lookup msg.sender).any (snap.seq ≤ ·) ∨
      ∀ ev ∈ c.missed w, ev.ownerThreadId = msg.sender → ev.ownerSeq ≤ snap.seq
  | _ => True

instance (c : Cluster) (w : WorkerId) : DecidablePred (Timely c w) := fun msg => by
  unfold Timely
  cases msg.body <;> infer_instance

/-- The step does not deliver a snapshot that would end the search for a MOVE it is older than. -/
def InOrder (c : Cluster) : ClusterStep → Prop
  | .deliver w => ∀ msg ∈ (c.inbox w).head?, Timely c w msg
  | _ => True

instance (c : Cluster) : DecidablePred (InOrder c) := fun label => by
  cases label <;> unfold InOrder <;> infer_instance

theorem Sound.snapshot (h : Sound sc n c) (hw : w < n) {snap : AoiOwnerSnapshot}
    (hinbox : c.inbox w = { sender := x, body := .ownerSnapshot snap } :: rest)
    (hx : x < n) (hxw : x ≠ w) (hok : InOrder c (.deliver w)) {res : ApplyResult}
    {s' : AoiService}
    (hrun : (c.workers w).aoiService.applyOwnerSnapshot sc w x snap = (res, s'))
    {worker : LogicAoi} (hservice : worker.aoiService = s')
    (hwaiting : worker.pendingAoiSnapshots = (c.workers w).pendingAoiSnapshots) :
    Sound sc n { c with
      workers := Function.update c.workers w worker
      inbox := Function.update c.inbox w rest } := by
  have hb := h.based w
  have hsnaps : ∀ r snap, worker.pendingAoiSnapshots.lookup r = some snap →
      (c.workers w).pendingAoiSnapshots.lookup r = some snap := fun _ _ hs => hwaiting ▸ hs
  rcases snapshot_cases hb hrun with rfl | ⟨rfl, incoming, rep, dirty, heff, rfl⟩
  · exact h.taken hw hinbox hservice (fun r snap hs => .inl (hsnaps r snap hs))
      fun _ hbody => by cases hbody
  have hlink := h.links _ w hx hw hxw
  have hsent : (c.channel snap.ownerWorkerId w).sent snap :=
    .inr (by rw [hinbox]; exact List.mem_cons_self)
  have hids : ∀ ent ∈ snap.ents, ownerOf ent.entityId = snap.ownerWorkerId := fun ent hent =>
    ((hlink.snaps snap hsent).ents ent hent).1
  have hbased := (hb.ownerSnapshot hids hrun).based
  have hrest : ∀ m, m ∈ rest → m ∈ c.inbox w := fun m hm => by
    rw [hinbox]
    exact List.mem_cons_of_mem _ hm
  rw [← hservice] at hbased
  refine h.receive hw hinbox hbased ?_ (fun r snap hs => .inl (hsnaps r snap hs)) fun _ _ => ?_
  · rw [hservice]
    refine ⟨rfl, rfl, rfl, snapshot_sameFor hb.owned hids heff (Ne.symm hxw),
      fun o ho => snapshot_sameFor hb.owned hids heff ho, fun id hid => ?_,
      fun o ho hneed => Finset.mem_erase.mpr ⟨ho, hneed⟩⟩
    rw [Table.lookup_keep]
    cases hmove : (c.workers w).aoiService.pendingRemoteMoves.lookup id with
    | none => rfl
    | some move =>
      obtain ⟨hkey, howner, _⟩ := hb.moves id move hmove
      have hne : move.ownerThreadId ≠ snap.ownerWorkerId := by
        rw [← howner, hkey]
        exact hid
      simp [Option.filter, hne]
  · have hcaught : ∀ ev, ev ∈ c.missed w → ev.ownerThreadId = snap.ownerWorkerId →
        ev.ownerSeq ≤ snap.seq := by
      rcases hok _ (by rw [hinbox]; rfl) with hseen | hall
      · obtain ⟨water, hwater, hle⟩ := (Option.any_eq_true _ _).mp hseen
        have hfresh := heff.fresh water hwater
        exact absurd (of_decide_eq_true hle) (Nat.not_le_of_lt hfresh)
      · exact hall
    unfold channelOf
    rw [hservice]
    refine hlink.recovered hb.owned hsent heff hcaught (fun id _ => Table.lookup_keep _ _ _)
      (fun ev => ?_) (fun snap hs => hs.imp_right (hrest _)) fun _ hm => hm
    refine or_congr_right ⟨hrest _, fun hm => ?_⟩
    rw [hinbox, List.mem_cons] at hm
    exact hm.resolve_left fun heq => nomatch congrArg ServiceMsg.body heq

/-- The events of another worker on their way here are well formed. -/
theorem Genuine.validEvent {s : AoiService} {ev : AoiEvent} (h : Genuine sc o s ev) :
    AoiService.validEvent ev = true := by
  simp [AoiService.validEvent, h.id_ne, h.kind, h.player, validEntityKind]

theorem Sound.deliver (h : Sound sc n c) (hok : InOrder c (.deliver w))
    (hrun : c.step sc n (.deliver w) = some c') : Sound sc n c' := by
  simp only [Cluster.step] at hrun
  cases hinbox : c.inbox w with
  | nil =>
    simp only [hinbox] at hrun
    cases hrun
  | cons msg rest =>
    simp only [hinbox] at hrun
    split at hrun
    case isFalse => cases hrun
    rename_i hw
    obtain ⟨worker, hworker, rfl⟩ := Option.map_eq_some_iff.mp hrun
    obtain ⟨x, body⟩ := msg
    have hkept : ∀ r snap, (c.workers w).pendingAoiSnapshots.lookup r = some snap →
        (c.workers w).pendingAoiSnapshots.lookup r = some snap ∨
          SnapshotOf sc w (c.workers w).aoiService snap := fun _ _ => .inl
    by_cases hbad : n ≤ x ∨ x = w
    · have hsame : worker = c.workers w := by
        simp only [LogicAoi.onService, AoiServiceRouter.dispatch, if_pos hbad,
          Option.bind_eq_bind, Option.bind_some] at hworker
        exact (Option.some.inj hworker).symm
      subst hsame
      exact h.taken hw hinbox rfl hkept fun _ _ => hbad
    obtain ⟨hx, hxw⟩ := not_or.mp hbad
    have hx : x < n := Nat.lt_of_not_le hx
    have hlink := h.links x w hx hw hxw
    cases body with
    | event ev =>
      have hgenuine := (hlink.events ev (.inr (by rw [hinbox]; exact List.mem_cons_self))).1
      have hpass : ¬ ((!AoiService.validEvent ev) = true ∨ ev.ownerThreadId ≠ x) := by
        simp [hgenuine.validEvent, hgenuine.owner]
      simp only [LogicAoi.onService, AoiServiceRouter.dispatch, if_neg hbad, if_neg hpass,
        Option.bind_eq_bind, Option.bind_eq_some_iff, Option.map_eq_some_iff] at hworker
      obtain ⟨out, ⟨⟨rr, s'⟩, hevent, rfl⟩, hworker⟩ := hworker
      have hsame : worker = { c.workers w with aoiService := s' } := by
        by_cases hrr : rr = .rejected <;> simp only [hrr, if_true, if_false] at hworker <;>
          exact (Option.some.inj hworker).symm
      subst hsame
      exact h.event hw hinbox hx hxw hevent
    | ownerSnapshot snap =>
      by_cases hpass : (!AoiWire.validSnapshot snap) = true ∨ snap.ownerWorkerId ≠ x
      · have hsame : worker = c.workers w := by
          simp only [LogicAoi.onService, AoiServiceRouter.dispatch, if_neg hbad, if_pos hpass,
            Option.bind_eq_bind, Option.bind_some] at hworker
          exact (Option.some.inj hworker).symm
        subst hsame
        exact h.taken hw hinbox rfl hkept fun _ hbody => by cases hbody
      cases happly : (c.workers w).aoiService.applyOwnerSnapshot sc w x snap with
      | mk res s' =>
        simp only [LogicAoi.onService, AoiServiceRouter.dispatch, if_neg hbad, if_neg hpass,
          happly, Option.bind_eq_bind, Option.bind_some] at hworker
        by_cases hres : res = .applied ∨ res = .ignored
        · simp only [if_pos hres, Option.some.injEq] at hworker
          exact h.snapshot hw hinbox hx hxw hok happly (hworker ▸ rfl) (hworker ▸ rfl)
        · simp only [if_neg hres, Option.some.injEq] at hworker
          exact h.snapshot hw hinbox hx hxw hok happly (hworker ▸ rfl) (hworker ▸ rfl)
    | ownerSnapshotReq =>
      simp only [LogicAoi.onService, AoiServiceRouter.dispatch, if_neg hbad,
        Option.bind_eq_bind, Option.bind_some] at hworker
      cases hsnap : AoiWire.encodeSnapshot ((c.workers w).aoiService.buildOwnerSnapshot w) with
      | none =>
        simp only [hsnap, Option.some.injEq] at hworker
        exact h.taken hw hinbox (hworker ▸ rfl) (hworker ▸ hkept) fun _ hbody => by cases hbody
      | some snap =>
        simp only [hsnap, Option.some.injEq] at hworker
        refine h.taken hw hinbox (hworker ▸ rfl) (fun r snap' hs => ?_) fun _ hbody => by cases hbody
        rw [← hworker, Table.lookup_insert] at hs
        split at hs
        · cases hs
          exact .inr (build_snapshotOf (h.based w) (h.history w) hsnap)
        · exact .inl hs

theorem Sound.step (h : Sound sc n c) (hn : 2 ≤ n) {label : ClusterStep}
    (hok : InOrder c label) (hrun : c.step sc n label = some c') : Sound sc n c' := by
  cases label with
  | call w op => exact h.call hn hrun
  | tick w now sink => exact h.tick hrun
  | recover w now accepts => exact h.recover hrun
  | deliver w => exact h.deliver hok hrun

end Deliver

/-- Nothing of `o` is on its way to `r`, waits there, or is asked for. -/
structure Settled (c : Cluster) (o r : WorkerId) : Prop where
  published : ∀ task ∈ (c.workers o).aoiService.pendingPublishes, r ∉ task.remaining
  sent : (c.workers o).pendingAoiSnapshots.lookup r = none
  arrived : ∀ msg ∈ c.inbox r, msg.sender = o → msg.body = .ownerSnapshotReq
  flushed : ∀ row ∈ (c.workers r).aoiService.pendingRemoteMoves.entries, row.2.ownerThreadId ≠ o
  recovered : o ∉ (c.workers r).aoiService.ownersNeedingSnapshot

instance (c : Cluster) (o r : WorkerId) : Decidable (Settled c o r) :=
  decidable_of_iff
    ((∀ task ∈ (c.workers o).aoiService.pendingPublishes, r ∉ task.remaining) ∧
      (c.workers o).pendingAoiSnapshots.lookup r = none ∧
      (∀ msg ∈ c.inbox r, msg.sender = o → msg.body = .ownerSnapshotReq) ∧
      (∀ row ∈ (c.workers r).aoiService.pendingRemoteMoves.entries, row.2.ownerThreadId ≠ o) ∧
      o ∉ (c.workers r).aoiService.ownersNeedingSnapshot)
    ⟨fun ⟨h1, h2, h3, h4, h5⟩ => ⟨h1, h2, h3, h4, h5⟩,
      fun ⟨h1, h2, h3, h4, h5⟩ => ⟨h1, h2, h3, h4, h5⟩⟩

/-- The copy has exactly the entities of `o` that the owner has, in the same state. -/
def Shows (o : WorkerId) (copy owner : AoiReplica) : Prop :=
  ∀ id e, e.ownerWorker = o → (copy.findById id = some e ↔ owner.findById id = some e)

/-- Every MOVE of `o` that `r` has dropped is still searched for, or a snapshot covers it. -/
def Caught (c : Cluster) (o r : WorkerId) : Prop :=
  ∀ ev ∈ c.missed r, ev.ownerThreadId = o →
    o ∈ (c.workers r).aoiService.ownersNeedingSnapshot ∨
      ∃ water, (c.workers r).aoiService.replica.ownerSnapshotSeq.lookup o = some water ∧
        ev.ownerSeq ≤ water

theorem Sound.shows {c : Cluster} (h : Sound sc n c) (ho : o < n) (hr : r < n) (hne : o ≠ r)
    (hset : Settled c o r) :
    Shows o (c.workers r).aoiService.replica (c.workers o).aoiService.replica := by
  have hlink := h.links o r ho hr hne
  have hreflected : ∀ id, ownerOf id = o →
      ((c.workers o).aoiService.replica.latest id).Reflected
        (c.workers r).aoiService.replica o id := by
    intro id hid
    cases hlink.status id hid with
    | reflected hrefl => exact hrefl
    | flying ev hfly hkey his =>
      rcases hfly with ⟨task, htask, _, hmem⟩ | hmail
      · exact absurd hmem (hset.published task htask)
      · exact nomatch hset.arrived _ hmail rfl
    | queued ev hq his =>
      have hgenuine := (hlink.moves id ev hid hq).2.2.1
      exact absurd hgenuine.owner (hset.flushed _ (Table.mem_entries.mpr hq))
    | missed hneed => exact absurd hneed hset.recovered
  intro id e howner
  constructor
  · intro he
    have hid : ownerOf id = o := ((h.based r).owned.owner id e he).symm.trans howner
    have hrefl := hreflected id hid
    unfold AoiReplica.latest at hrefl
    split at hrefl
    · rename_i e' he'
      cases hrefl.symm.trans he
      exact he'
    · cases hrefl.1.symm.trans he
    · cases hrefl.symm.trans he
  · intro he
    have hid : ownerOf id = o := ((h.based o).owned.owner id e he).symm.trans howner
    have hlive : (c.workers o).aoiService.replica.latest id = .live e := by
      have he : (c.workers o).aoiService.replica.ents.lookup id = some e := he
      simp only [AoiReplica.latest, he]
    have hrefl := hreflected id hid
    rw [hlive] at hrefl
    exact hrefl

/-- As long as snapshots are in order, no dropped MOVE is forgotten, and once all is settled the
replicas agree. -/
theorem replicas_converge {c : Cluster} {labels : List ClusterStep} (ho : o < n) (hr : r < n)
    (hne : o ≠ r) (hok : Run.Along (Cluster.step sc n) InOrder {} labels)
    (hrun : Run.exec (Cluster.step sc n) {} labels = some c) :
    Caught c o r ∧ (Settled c o r →
      Shows o (c.workers r).aoiService.replica (c.workers o).aoiService.replica) := by
  have hn : 2 ≤ n := by
    rcases Nat.lt_or_gt_of_ne hne with hlt | hlt
    · exact Nat.lt_of_le_of_lt (Nat.succ_le_of_lt (Nat.zero_lt_of_lt hlt)) hr
    · exact Nat.lt_of_le_of_lt (Nat.succ_le_of_lt (Nat.zero_lt_of_lt hlt)) ho
  have h : Sound sc n c := Run.along_invariant (Sound sc n)
    (fun _ _ _ h hok hst => h.step hn hok hst) sound_init hok hrun
  exact ⟨fun ev hm howner => (h.links o r ho hr hne).caught ev hm howner,
    h.shows ho hr hne⟩

/-- The workers accept some of the events only. -/
def acceptOnly (p : AoiEvent → Bool) : Sink where
  sendToClient := fun _ => .accepted
  publishToWorkers := fun ev _ => p ev

/-- The MOVE of player 7 overtakes its ENTRY; worker 1 drops it and asks worker 0 for a
snapshot, which is on its way when the run ends. -/
def moveOvertakes : List ClusterStep :=
  [.call 0 (.enter { id := 7, x := 5, y := 5, dir := 0, epoch := 1 }),
   .tick 0 0 (acceptOnly fun _ => false),
   .call 0 (.moved { id := 7, x := 6, y := 5, dir := 0, epoch := 1 }),
   .tick 0 50 (acceptOnly (·.ownerSeq = 2)),
   .deliver 1,
   .tick 1 0 acceptAll,
   .recover 1 0 fun _ _ => true,
   .deliver 0]

/-- The snapshot arrives, then the late ENTRY, and nothing is missing. -/
theorem replicas_converge_moveOvertakes :
    ∃ c, Run.exec (Cluster.step smallScene 2) {}
        (moveOvertakes ++ [.recover 0 0 fun _ _ => true, .deliver 1, .tick 0 100 acceptAll,
          .deliver 1]) = some c ∧ Settled c 0 1 ∧ c.missed 1 ≠ [] ∧
      ((c.workers 1).aoiService.replica.findById 1).map (·.x) = some 6 ∧
      Shows 0 (c.workers 1).aoiService.replica (c.workers 0).aoiService.replica := by
  have hstate : ((Run.exec (Cluster.step smallScene 2) {}
      (moveOvertakes ++ [.recover 0 0 fun _ _ => true, .deliver 1, .tick 0 100 acceptAll,
        .deliver 1])).any fun c => Settled c 0 1 ∧ c.missed 1 ≠ [] ∧
          ((c.workers 1).aoiService.replica.findById 1).map (·.x) = some 6) = true := by
    decide +kernel
  obtain ⟨c, hc, hstate⟩ := (Option.any_eq_true _ _).mp hstate
  obtain ⟨hset, hmissed, hx⟩ := of_decide_eq_true hstate
  exact ⟨c, hc, hset, hmissed, hx,
    (replicas_converge (by decide) (by decide) (by decide) (by decide +kernel) hc).2 hset⟩

/-- Before that snapshot is sent, the MOVE of player 8 is dropped for want of its ENTRY. The
snapshot knows nothing of player 8 and yet ends the search: the copy keeps player 8 at its
place of entry. -/
theorem snapshot_forgets_move :
    ¬ ∀ labels c, Run.exec (Cluster.step smallScene 2) {} labels = some c → Settled c 0 1 →
      Shows 0 (c.workers 1).aoiService.replica (c.workers 0).aoiService.replica := by
  intro hclaim
  have hstate : ((Run.exec (Cluster.step smallScene 2) {}
      (moveOvertakes ++
        [.call 0 (.enter { id := 8, x := 15, y := 5, dir := 0, epoch := 1 }),
         .call 0 (.moved { id := 8, x := 16, y := 5, dir := 0, epoch := 1 }),
         .tick 0 100 (acceptOnly (·.ownerSeq = 4)),
         .deliver 1,
         .tick 1 50 acceptAll,
         .recover 0 0 fun _ _ => true,
         .deliver 1,
         .tick 0 150 acceptAll,
         .deliver 1,
         .deliver 1,
         .tick 1 100 acceptAll])).any fun c => Settled c 0 1 ∧
          ((c.workers 1).aoiService.replica.findById 2).map (·.x) = some 15 ∧
          ((c.workers 0).aoiService.replica.findById 2).map (fun e => (e.x, e.ownerWorker)) =
            some (16, 0)) = true := by
    decide +kernel
  obtain ⟨c, hc, hstate⟩ := (Option.any_eq_true _ _).mp hstate
  obtain ⟨hset, hcopy, howner⟩ := of_decide_eq_true hstate
  obtain ⟨e, he, hx⟩ := Option.map_eq_some_iff.mp howner
  obtain ⟨hx, hown⟩ := Prod.mk.inj hx
  have hshown := (hclaim _ c hc hset 2 e hown).mpr he
  rw [hshown, Option.map_some, hx] at hcopy
  cases hcopy

end Aoi
