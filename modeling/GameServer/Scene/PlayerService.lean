import GameServer.Aoi.Conservation
import GameServer.Scene.LogicThread

/-!
# Positions of players and of their entities

A player is put where it wants to go before the AOI service is asked, and put back
when the service refuses. What the service does not refuse it has shown at the same
place.
-/

namespace Scene

open Aoi (AoiEntity AoiEvent AoiService EntityId LocalCall PlayerPose WorkerId)

/-- The part of a logic thread that scripts move players with. -/
structure PlayerService where
  players : PlayerManager := {}
  aoi : AoiService := {}

namespace PlayerService

inductive Result where
  | ok
  | notFound
  | notInScene
  | alreadyInScene
  | outOfBounds
  | aoiRejected
  deriving DecidableEq, Repr

/-- What the AOI service reads of a player. -/
def pose (p : Player) : PlayerPose where
  id := p.playerId
  x := p.x.toInt
  y := p.y.toInt
  dir := p.dir.toInt
  epoch := p.epoch

def moveTo (p : Player) (x y dir : Int32) : Player := { p with x, y, dir }

def changes (p : Player) (x y dir : Int32) : Bool := p.x ≠ x ∨ p.y ≠ y ∨ p.dir ≠ dir

/-- `recordMutation` for a player that is elsewhere than before. -/
def recorded (p : Player) (x y dir : Int32) : Player :=
  if changes p x y dir then (moveTo p x y dir).recordMutation else moveTo p x y dir

variable (sc : Aoi.Scene) (wId : WorkerId) (targets : List WorkerId) (s : PlayerService)

/-- An error is an exception, and `none` a signed overflow in `getWatchCellIdx`. -/
def enterScene (pid : Nat) (x y dir : Int32) : Option (Except Thrown Result × PlayerService) :=
  match s.players.get pid with
  | none => some (.ok .notFound, s)
  | some p =>
    if !sc.map.contains x.toInt y.toInt then some (.ok .outOfBounds, s)
    else if (s.aoi.entityOf pid).any s.aoi.isEntityActive then some (.ok .alreadyInScene, s)
    else
      if changes p x y dir ∧ p.mutationRevision = Player.maxRevision then
        some (.error .overflowError, s)
      else do
        let moved := moveTo p x y dir
        let (result, aoi) ← s.aoi.onEntityEnter sc wId targets (pose moved)
        if result ≠ .applied then
          some (.ok .aoiRejected, { players := s.players.put pid (moveTo moved p.x p.y p.dir), aoi })
        else
          let d := p.clientBinding
          some (.ok .ok,
            { players := s.players.put pid (recorded p x y dir)
              aoi :=
                if Gateway.GatewayPlayer.valid d then (aoi.onPlayerOnline pid d.clientEpoch).2
                else aoi })

def move (pid : Nat) (x y dir : Int32) : Option (Except Thrown Result × PlayerService) :=
  match s.players.get pid with
  | none => some (.ok .notFound, s)
  | some p =>
    if !sc.map.contains x.toInt y.toInt then some (.ok .outOfBounds, s)
    else
      if changes p x y dir ∧ p.mutationRevision = Player.maxRevision then
        some (.error .overflowError, s)
      else do
        let moved := moveTo p x y dir
        let (result, aoi) ← s.aoi.onLocalEntityMoved sc wId targets (pose moved)
        if result = .applied ∨ result = .ignored then
          some (.ok .ok,
            { players := s.players.put pid (recorded p x y dir), aoi })
        else
          some (.ok (if result = .needSnapshot then .notInScene else .aoiRejected),
            { players := s.players.put pid (moveTo moved p.x p.y p.dir), aoi })

def leaveScene (pid : Nat) : Option (Except Thrown Result × PlayerService) :=
  match s.players.get pid with
  | none => some (.ok .notFound, s)
  | some _ =>
    match s.aoi.entityOf pid with
    | none => some (.ok .ok, s)
    | some id => do
      let (result, aoi) ← s.aoi.onEntityLeave sc wId targets id
      some (.ok (if result = .applied ∨ result = .ignored then .ok else .aoiRejected),
        { s with aoi })

inductive Call where
  | enterScene (pid : Nat) (x y dir : Int32)
  | move (pid : Nat) (x y dir : Int32)
  | leaveScene (pid : Nat)

def Call.pid : Call → Nat
  | .enterScene pid _ _ _ => pid
  | .move pid _ _ _ => pid
  | .leaveScene pid => pid

def call : Call → Option (Except Thrown Result × PlayerService)
  | .enterScene pid x y dir => s.enterScene sc wId targets pid x y dir
  | .move pid x y dir => s.move sc wId targets pid x y dir
  | .leaveScene pid => s.leaveScene sc wId targets pid

def step (c : Call) : Option PlayerService := (s.call sc wId targets c).map (·.2)

/-- Players that are online, and no entity yet. -/
def online (players : List Player) : PlayerService where
  players := players.foldl (fun m p => m.put p.playerId p) {}

variable {sc : Aoi.Scene} {wId : WorkerId} {targets : List WorkerId} {s t : PlayerService}

/-- The entity stands where the player does. -/
structure At (e : AoiEntity) (p : Player) : Prop where
  x : (e.x : Int) = p.x.toInt
  y : (e.y : Int) = p.y.toInt
  dir : e.dir = p.dir.toInt

/-- The players and the replica agree. -/
structure InStep (sc : Aoi.Scene) (wId : WorkerId) (s : PlayerService) : Prop where
  based : Aoi.Based sc wId s.aoi
  keyed : ∀ pid p, s.players.get pid = some p → p.playerId = pid
  older : ∀ id e t, s.aoi.replica.ents.lookup id = some e →
    s.aoi.replica.tombstones.lookup id = some t → t.generation < e.entityGeneration
  agree : ∀ id e, s.aoi.replica.ents.lookup id = some e → e.ownerWorker = wId →
    ∃ p, s.players.get e.businessId = some p ∧ At e p

theorem get_put (m : PlayerManager) (pid q : Nat) (p : Player) :
    (m.put pid p).get q = if q = pid then some p else m.get q :=
  Table.lookup_insert _ _ _ _

theorem inStep_online (players : List Player) : InStep sc wId (online players) where
  based := Aoi.based_init
  keyed := by
    unfold online
    refine List.foldlRecOn (motive := fun m : PlayerManager =>
      ∀ pid p, m.get pid = some p → p.playerId = pid) _ _ nofun ?_
    intro m hm p _ pid q hq
    rw [get_put] at hq
    split at hq
    · rename_i hpid
      cases hq
      exact hpid.symm
    · exact hm pid q hq
  older := fun _ _ _ he => nomatch he
  agree := fun _ _ he => nomatch he

theorem moveTo_of_not_changes {p : Player} {x y dir : Int32} (h : changes p x y dir = false) :
    moveTo p x y dir = p := by
  simp only [changes, decide_eq_false_iff_not] at h
  push Not at h
  obtain ⟨rfl, rfl, rfl⟩ := h
  rfl

/-- A player after its change is as it was, or has a new revision. -/
theorem recorded_cases (p : Player) (x y dir : Int32) :
    recorded p x y dir = p ∨
      (recorded p x y dir).mutationRevision = p.mutationRevision + 1 ∧
        (recorded p x y dir).dirty = true := by
  unfold recorded
  split
  · exact .inr ⟨rfl, rfl⟩
  · rename_i hsame
    exact .inl (moveTo_of_not_changes (by simpa using hsame))

theorem recorded_same (p : Player) (x y dir : Int32) :
    (recorded p x y dir).playerId = p.playerId ∧ (recorded p x y dir).x = x ∧
      (recorded p x y dir).y = y ∧ (recorded p x y dir).dir = dir := by
  unfold recorded
  split <;> exact ⟨rfl, rfl, rfl, rfl⟩

/-- Inside the map an entity can stand where a player does. -/
theorem pose_at {p : Player} {x y dir : Int32} (h : sc.map.contains x.toInt y.toInt = true) :
    ((pose (moveTo p x y dir)).x.toNat : Int) = (recorded p x y dir).x.toInt ∧
      ((pose (moveTo p x y dir)).y.toNat : Int) = (recorded p x y dir).y.toInt ∧
      (pose (moveTo p x y dir)).dir = (recorded p x y dir).dir.toInt := by
  simp only [Aoi.Map.contains, decide_eq_true_eq] at h
  obtain ⟨-, hx, hy, hdir⟩ := recorded_same p x y dir
  rw [hx, hy, hdir]
  exact ⟨Int.toNat_of_nonneg h.1, Int.toNat_of_nonneg h.2.1, rfl⟩

/-- The player behind an entity that its identity leads to. -/
theorem InStep.businessId (hs : InStep sc wId s) {pid : Nat} {id : EntityId} {e : AoiEntity}
    (hid : s.aoi.entityOf pid = some id) (he : s.aoi.replica.findById id = some e) :
    e.businessId = pid ∧ e.ownerWorker = wId := by
  obtain ⟨i, hi, rfl⟩ := Option.map_eq_some_iff.mp hid
  have howner : e.ownerWorker = wId :=
    (hs.based.owned.owner i.id e he).trans (hs.based.identity_owner hi)
  obtain ⟨j, hj, hsame⟩ := hs.based.business i.id e he howner
  exact ⟨hs.based.injective _ _ _ _ hj hi hsame, howner⟩

section Keeps

/-- What leaves the replica and the players alone keeps them in step. -/
theorem InStep.untouched (hs : InStep sc wId s) (hbased : Aoi.Based sc wId t.aoi)
    (hreplica : t.aoi.replica = s.aoi.replica)
    (hplayers : ∀ q, t.players.get q = s.players.get q) : InStep sc wId t where
  based := hbased
  keyed := fun pid p hp => hs.keyed pid p ((hplayers pid).symm.trans hp)
  older := by
    rw [hreplica]
    exact hs.older
  agree := by
    rw [hreplica]
    intro id e he howner
    rw [hplayers]
    exact hs.agree id e he howner

/-- An event that is applied keeps them in step if its player stands where it says. -/
theorem InStep.applied (hs : InStep sc wId s) (hbased : Aoi.Based sc wId t.aoi) {ev : AoiEvent}
    {dirty : Aoi.Observers}
    (happly : s.aoi.replica.apply sc wId ev .kLocal s.aoi.dirtyObservers =
      some (.applied, t.aoi.replica, dirty))
    (hkeyed : ∀ pid p, t.players.get pid = some p → p.playerId = pid)
    (hplayers : ∀ q, ev.msgKind = .leave ∨ q ≠ ev.businessId → t.players.get q = s.players.get q)
    (hat : ev.msgKind ≠ .leave → ∃ p, t.players.get ev.businessId = some p ∧
      (ev.target_x : Int) = p.x.toInt ∧ (ev.target_y : Int) = p.y.toInt ∧
      ev.target_dir = p.dir.toInt) : InStep sc wId t := by
  obtain ⟨cell, hcheck, heffect⟩ := Aoi.AoiReplica.apply_applied hs.based.owned.agree happly
  have haccepted := Aoi.AoiReplica.check_ok hcheck
  have hents : ∀ id, t.aoi.replica.ents.lookup id =
      if id = ev.eId then Aoi.AoiReplica.after ev cell else s.aoi.replica.ents.lookup id :=
    heffect.updated.ents
  refine ⟨hbased, hkeyed, fun id e tomb he htomb => ?_, fun id e he howner => ?_⟩
  · rw [heffect.tombs] at htomb
    rw [hents] at he
    by_cases hleave : ev.msgKind = .leave
    · rw [if_pos hleave, Table.lookup_insert] at htomb
      rw [Aoi.AoiReplica.after_leave hleave] at he
      split at he
      · cases he
      · rename_i hne
        rw [if_neg hne] at htomb
        exact hs.older id e tomb he htomb
    · rw [if_neg hleave] at htomb
      rw [Aoi.AoiReplica.after_stay hleave] at he
      split at he
      · rename_i heq
        cases he
        exact haccepted.tombOlder tomb (heq ▸ htomb)
      · exact hs.older id e tomb he htomb
  · by_cases heq : id = ev.eId
    · by_cases hleave : ev.msgKind = .leave
      · rw [hents, if_pos heq, Aoi.AoiReplica.after_leave hleave] at he
        cases he
      · rw [hents, if_pos heq, Aoi.AoiReplica.after_stay hleave] at he
        cases he
        obtain ⟨p, hp, hx, hy, hdir⟩ := hat hleave
        exact ⟨p, hp, hx, hy, hdir⟩
    · have hold := he
      rw [hents, if_neg heq] at hold
      obtain ⟨p, hp, hat'⟩ := hs.agree id e hold howner
      refine ⟨p, (hplayers _ ?_).trans hp, hat'⟩
      by_cases hleave : ev.msgKind = .leave
      · exact .inl hleave
      · -- one player has one entity
        right
        intro hbusiness
        have hnew : t.aoi.replica.ents.lookup ev.eId = some (Aoi.updateEntity ev cell) := by
          rw [hents, if_pos rfl, Aoi.AoiReplica.after_stay hleave]
        obtain ⟨i, hi, hid⟩ := hbased.business id e he howner
        obtain ⟨j, hj, hid'⟩ := hbased.business ev.eId _ hnew (haccepted.source.mp rfl)
        rw [hbusiness] at hi
        cases hi.symm.trans hj
        exact heq (hid.symm.trans hid')

theorem keyed_put (hs : InStep sc wId s) {pid : Nat} {p p' : Player}
    (hp : s.players.get pid = some p) (hid : p'.playerId = p.playerId) :
    ∀ q r, (s.players.put pid p').get q = some r → r.playerId = q := by
  intro q r hr
  rw [get_put] at hr
  split at hr
  · rename_i hq
    cases hr
    exact hid.trans (hq ▸ hs.keyed pid p hp)
  · exact hs.keyed q r hr

end Keeps

section Moved

theorem checkSource_ne_ignored {rep : Aoi.AoiReplica} {ev : AoiEvent} :
    Aoi.AoiReplica.checkSource wId rep ev .kLocal ≠ .error .ignored := by
  unfold Aoi.AoiReplica.checkSource
  split
  · nofun
  split
  · nofun
  split
  · rename_i hremote
    cases hremote.1
  · nofun

theorem checkTarget_ne_ignored {old : Option AoiEntity} {ev : AoiEvent} :
    Aoi.AoiReplica.checkTarget sc old ev ≠ .error .ignored := by
  unfold Aoi.AoiReplica.checkTarget
  split
  · nofun
  split
  · nofun
  split
  · nofun
  split <;> nofun

/-- A newer event about an entity that is there is never out of date. -/
theorem check_ne_ignored {rep : Aoi.AoiReplica} {ev : AoiEvent} {e : AoiEntity}
    (he : rep.ents.lookup ev.eId = some e) (hgeneration : ev.entityGeneration = e.entityGeneration)
    (hversion : e.spatialVersion < ev.spatialVersion)
    (htomb : ∀ t, rep.tombstones.lookup ev.eId = some t → t.generation < e.entityGeneration) :
    Aoi.AoiReplica.check sc wId rep ev .kLocal ≠ .error .ignored := by
  have hlife : Aoi.AoiReplica.checkLife (rep.ents.lookup ev.eId) (rep.tombstones.lookup ev.eId) ev ≠
      .error .ignored := by
    unfold Aoi.AoiReplica.checkLife
    rw [he]
    split
    · nofun
    split
    · rename_i hdead
      obtain ⟨t, ht, hle⟩ := (Option.any_eq_true _ _).mp hdead
      have hlt := htomb t ht
      simp only [decide_eq_true_eq] at hle
      omega
    split
    · rename_i hold
      simp only [Option.any_some, decide_eq_true_eq] at hold
      omega
    split <;> nofun
  intro h
  unfold Aoi.AoiReplica.check at h
  cases hsource : Aoi.AoiReplica.checkSource wId rep ev .kLocal with
  | error r =>
    simp only [hsource, bind, Except.bind, Except.error.injEq] at h
    exact checkSource_ne_ignored (h ▸ hsource)
  | ok u =>
    cases hlife' : Aoi.AoiReplica.checkLife (rep.ents.lookup ev.eId)
        (rep.tombstones.lookup ev.eId) ev with
    | error r =>
      simp only [hsource, hlife', bind, Except.bind, Except.error.injEq] at h
      exact hlife (h ▸ hlife')
    | ok u =>
      simp only [hsource, hlife', bind, Except.bind] at h
      exact checkTarget_ne_ignored h

/-- The service ignores a move only if the entity already stands where the player does. -/
theorem moved_ignored (hs : InStep sc wId s) {p : Player} {aoi : AoiService} {e : AoiEntity}
    {id : EntityId} (hid : s.aoi.entityOf p.playerId = some id)
    (he : s.aoi.replica.findById id = some e)
    (h : s.aoi.onLocalEntityMoved sc wId targets (pose p) = some (.ignored, aoi)) :
    e.x = p.x.toInt.toNat ∧ e.y = p.y.toInt.toNat ∧ e.dir = p.dir.toInt := by
  have hfound : (s.aoi.entityOf (pose p).id).bind s.aoi.replica.findById = some e := by
    change (s.aoi.entityOf p.playerId).bind _ = _
    rw [hid]
    exact he
  have hkey : e.entityId = id := (hs.based.owned.agree.key id e he)
  unfold AoiService.onLocalEntityMoved at h
  rw [hfound] at h
  dsimp only at h
  split at h
  · cases h
  split at h
  · rename_i hsame
    exact hsame
  split at h
  · cases h
  exfalso
  unfold AoiService.applyLocal at h
  split at h
  · cases h
  simp only [Option.bind_eq_bind, Option.bind_eq_some_iff] at h
  obtain ⟨⟨result, rep, dirty⟩, happly, h⟩ := h
  have hresult : result = .ignored := by
    split at h <;> exact (Prod.mk.inj (Option.some.inj h)).1
  subst hresult
  unfold Aoi.AoiReplica.apply at happly
  split at happly
  · rename_i res hcheck
    cases happly
    refine check_ne_ignored ?_ rfl (Nat.lt_succ_self _) ?_ hcheck
    · change s.aoi.replica.ents.lookup e.entityId = some e
      rw [hkey]
      exact he
    · intro t ht
      change s.aoi.replica.tombstones.lookup e.entityId = some t at ht
      rw [hkey] at ht
      exact hs.older id e t he ht
  · obtain ⟨out, -, hout⟩ := Option.map_eq_some_iff.mp happly
    cases hout

end Moved

/-- What a call can do. -/
inductive Outcome (s : PlayerService) (pid : Nat) : Except Thrown Result → PlayerService → Prop
  | failed {r : Except Thrown Result} {t : PlayerService} (hr : r ≠ .ok .ok)
      (hplayers : ∀ q, t.players.get q = s.players.get q)
      (hreplica : t.aoi.replica = s.aoi.replica) : Outcome s pid r t
  | done {t : PlayerService} (hothers : ∀ q, q ≠ pid → t.players.get q = s.players.get q)
      (hplayer : ∀ p, s.players.get pid = some p → ∃ p', t.players.get pid = some p' ∧
        (p' = p ∨ p'.mutationRevision = p.mutationRevision + 1 ∧ p'.dirty = true)) :
      Outcome s pid (.ok .ok) t

section Calls

theorem get_put_same {m : PlayerManager} {pid : Nat} {p : Player} (hp : m.get pid = some p)
    (q : Nat) : (m.put pid p).get q = m.get q := by
  rw [get_put]
  split
  · rename_i hq
    rw [hq, hp]
  · rfl

/-- The player after a call that was not refused. -/
theorem outcome_of_moved {aoi : AoiService} {pid : Nat} {p : Player} {x y dir : Int32}
    (hp : s.players.get pid = some p) :
    Outcome s pid (.ok .ok) { players := s.players.put pid (recorded p x y dir), aoi } := by
  refine .done (fun q hq => ?_) fun p' hp' => ⟨recorded p x y dir, ?_, ?_⟩
  · rw [get_put, if_neg hq]
  · rw [get_put, if_pos rfl]
  · cases hp.symm.trans hp'
    exact recorded_cases p x y dir

theorem onPlayerOnline_replica (aoi : AoiService) (pid epoch : Nat) :
    (aoi.onPlayerOnline pid epoch).2.replica = aoi.replica := by
  unfold AoiService.onPlayerOnline
  split
  · rfl
  split
  · rfl
  split <;> rfl

theorem enterScene_spec (hs : InStep sc wId s) {pid : Nat} {x y dir : Int32}
    {r : Except Thrown Result} (h : s.enterScene sc wId targets pid x y dir = some (r, t)) :
    InStep sc wId t ∧ Outcome s pid r t := by
  unfold enterScene at h
  cases hp : s.players.get pid with
  | none =>
    rw [hp] at h
    cases h
    exact ⟨hs, .failed nofun (fun _ => rfl) rfl⟩
  | some p =>
    rw [hp] at h
    dsimp only at h
    split at h
    · cases h
      exact ⟨hs, .failed nofun (fun _ => rfl) rfl⟩
    rename_i hin
    split at h
    · cases h
      exact ⟨hs, .failed nofun (fun _ => rfl) rfl⟩
    split at h
    · cases h
      exact ⟨hs, .failed nofun (fun _ => rfl) rfl⟩
    simp only [Option.bind_eq_bind, Option.bind_eq_some_iff] at h
    obtain ⟨⟨result, aoi⟩, hcall, h⟩ := h
    have hbased : Aoi.Based sc wId aoi := (hs.based.enter hcall).based
    have hended : Aoi.Ended sc wId targets s.aoi (.enter (pose (moveTo p x y dir))) result aoi :=
      Aoi.localCall_ended hcall
    cases hended with
    | failed hres huntouched =>
      dsimp only at h
      rw [if_pos hres] at h
      cases h
      have hplayers : ∀ q, (s.players.put pid (moveTo (moveTo p x y dir) p.x p.y p.dir)).get q =
          s.players.get q := get_put_same hp
      exact ⟨hs.untouched hbased huntouched.replica hplayers,
        .failed nofun hplayers huntouched.replica⟩
    | applied ev dirty hevent happly =>
      dsimp only at h
      rw [if_neg (by decide)] at h
      cases h
      obtain ⟨out, -, hev⟩ := Option.map_eq_some_iff.mp hevent
      have hbusiness : ev.businessId = pid := by
        rw [← hev]
        exact hs.keyed pid p hp
      have hplace : (ev.target_x : Int) = (recorded p x y dir).x.toInt ∧
          (ev.target_y : Int) = (recorded p x y dir).y.toInt ∧
          ev.target_dir = (recorded p x y dir).dir.toInt := by
        rw [← hev]
        exact pose_at (by simpa using hin)
      have honline : ∀ b : Bool, (if b then (aoi.onPlayerOnline pid p.clientBinding.clientEpoch).2
          else aoi).replica = aoi.replica ∧
          Aoi.Based sc wId (if b then (aoi.onPlayerOnline pid p.clientBinding.clientEpoch).2
            else aoi) := by
        intro b
        cases b with
        | false => exact ⟨rfl, hbased⟩
        | true => exact ⟨onPlayerOnline_replica _ _ _, (hbased.online rfl).based⟩
      obtain ⟨hreplica, hbased'⟩ := honline (Gateway.GatewayPlayer.valid p.clientBinding)
      refine ⟨?_, outcome_of_moved hp⟩
      refine hs.applied hbased' (hreplica.symm ▸ happly) (keyed_put hs hp (recorded_same p x y dir).1)
        (fun q hq => ?_) fun _ => ⟨recorded p x y dir, ?_, hplace⟩
      · rw [get_put, if_neg]
        rw [← hbusiness]
        refine hq.resolve_left ?_
        rw [← hev]
        nofun
      · rw [get_put, if_pos hbusiness]

/-- A move that the service ignores moves nothing. -/
theorem InStep.recorded_of_ignored (hs : InStep sc wId s) {pid : Nat} {x y dir : Int32} {p : Player}
    {aoi : AoiService} (hp : s.players.get pid = some p)
    (hin : sc.map.contains x.toInt y.toInt = true)
    (h : s.aoi.onLocalEntityMoved sc wId targets (pose (moveTo p x y dir)) = some (.ignored, aoi)) :
    recorded p x y dir = p := by
  have hid : p.playerId = pid := hs.keyed pid p hp
  cases hfound : (s.aoi.entityOf p.playerId).bind s.aoi.replica.findById with
  | none =>
    unfold AoiService.onLocalEntityMoved at h
    rw [show (pose (moveTo p x y dir)).id = p.playerId from rfl, hfound] at h
    cases h
  | some e =>
    obtain ⟨id, hentity, he⟩ := Option.bind_eq_some_iff.mp hfound
    obtain ⟨hx, hy, hdir⟩ := moved_ignored (p := moveTo p x y dir) hs hentity he h
    obtain ⟨hbusiness, howner⟩ := hs.businessId hentity he
    obtain ⟨p', hp', hat⟩ := hs.agree id e he howner
    rw [hbusiness, hid] at hp'
    cases hp.symm.trans hp'
    obtain ⟨hx', hy', hdir'⟩ := @pose_at sc p x y dir hin
    have hsame : changes p x y dir = false := by
      have hpx : p.x.toInt = x.toInt := by
        rw [← hat.x, hx]
        exact hx'.trans (congrArg Int32.toInt (recorded_same p x y dir).2.1)
      have hpy : p.y.toInt = y.toInt := by
        rw [← hat.y, hy]
        exact hy'.trans (congrArg Int32.toInt (recorded_same p x y dir).2.2.1)
      have hpdir : p.dir.toInt = dir.toInt := by
        rw [← hat.dir, hdir]
        rfl
      simp [changes, Int32.toInt_inj.mp hpx, Int32.toInt_inj.mp hpy, Int32.toInt_inj.mp hpdir]
    unfold recorded
    rw [if_neg (by simp [hsame])]
    exact moveTo_of_not_changes hsame

theorem move_spec (hs : InStep sc wId s) {pid : Nat} {x y dir : Int32}
    {r : Except Thrown Result} (h : s.move sc wId targets pid x y dir = some (r, t)) :
    InStep sc wId t ∧ Outcome s pid r t := by
  unfold move at h
  cases hp : s.players.get pid with
  | none =>
    rw [hp] at h
    cases h
    exact ⟨hs, .failed nofun (fun _ => rfl) rfl⟩
  | some p =>
    rw [hp] at h
    dsimp only at h
    split at h
    · cases h
      exact ⟨hs, .failed nofun (fun _ => rfl) rfl⟩
    rename_i hin
    split at h
    · cases h
      exact ⟨hs, .failed nofun (fun _ => rfl) rfl⟩
    simp only [Option.bind_eq_bind, Option.bind_eq_some_iff] at h
    obtain ⟨⟨result, aoi⟩, hcall, h⟩ := h
    have hid : p.playerId = pid := hs.keyed pid p hp
    have hbased : Aoi.Based sc wId aoi := (hs.based.moved hcall).based
    have hended : Aoi.Ended sc wId targets s.aoi (.moved (pose (moveTo p x y dir))) result aoi :=
      Aoi.localCall_ended hcall
    have hplace := @pose_at sc p x y dir (by simpa using hin)
    have hkeyed := keyed_put hs hp (recorded_same p x y dir).1
    cases hended with
    | failed hres huntouched =>
      dsimp only at h
      split at h
      · rename_i hok
        have hignored : result = .ignored := hok.resolve_left hres
        cases h
        refine ⟨?_, outcome_of_moved hp⟩
        -- the entity stands there already, and so does the player
        subst hignored
        have hstays := hs.recorded_of_ignored hp (by simpa using hin) hcall
        refine hs.untouched hbased huntouched.replica ?_
        rw [hstays]
        exact get_put_same hp
      · cases h
        have hplayers : ∀ q, (s.players.put pid (moveTo (moveTo p x y dir) p.x p.y p.dir)).get q =
            s.players.get q := get_put_same hp
        refine ⟨hs.untouched hbased huntouched.replica hplayers, .failed ?_ hplayers huntouched.replica⟩
        split <;> nofun
    | applied ev dirty hevent happly =>
      cases h
      obtain ⟨e, he, hev⟩ := Option.map_eq_some_iff.mp hevent
      obtain ⟨id, hentity, he⟩ := Option.bind_eq_some_iff.mp he
      have hbusiness : ev.businessId = pid := by
        rw [← hev, ← hid]
        exact (hs.businessId hentity he).1
      refine ⟨?_, outcome_of_moved hp⟩
      refine hs.applied hbased happly hkeyed (fun q hq => ?_) fun _ =>
        ⟨recorded p x y dir, ?_, ?_⟩
      · rw [get_put, if_neg]
        rw [← hbusiness]
        refine hq.resolve_left ?_
        rw [← hev]
        nofun
      · rw [get_put, if_pos hbusiness]
      · rw [← hev]
        exact hplace

theorem leaveScene_spec (hs : InStep sc wId s) {pid : Nat} {r : Except Thrown Result}
    (h : s.leaveScene sc wId targets pid = some (r, t)) :
    InStep sc wId t ∧ Outcome s pid r t := by
  have hsame : ∀ p, s.players.get pid = some p → ∃ p', s.players.get pid = some p' ∧
      (p' = p ∨ p'.mutationRevision = p.mutationRevision + 1 ∧ p'.dirty = true) :=
    fun p hp => ⟨p, hp, .inl rfl⟩
  unfold leaveScene at h
  split at h
  · cases h
    exact ⟨hs, .failed nofun (fun _ => rfl) rfl⟩
  split at h
  · cases h
    exact ⟨hs, .done (fun _ _ => rfl) hsame⟩
  rename_i id hid
  simp only [Option.bind_eq_bind, Option.bind_eq_some_iff] at h
  obtain ⟨⟨result, aoi⟩, hcall, h⟩ := h
  cases h
  have hbased : Aoi.Based sc wId aoi := (hs.based.leave hcall).based
  have hended : Aoi.Ended sc wId targets s.aoi (.leave id) result aoi := Aoi.localCall_ended hcall
  cases hended with
  | failed hres huntouched =>
    refine ⟨hs.untouched hbased huntouched.replica fun _ => rfl, ?_⟩
    split
    · exact .done (fun _ _ => rfl) hsame
    · exact .failed nofun (fun _ => rfl) huntouched.replica
  | applied ev dirty hevent happly =>
    obtain ⟨e, -, hev⟩ := Option.map_eq_some_iff.mp hevent
    have hleave : ev.msgKind = .leave := by rw [← hev]; rfl
    exact ⟨hs.applied hbased happly hs.keyed (fun _ _ => rfl) fun hne => absurd hleave hne,
      .done (fun _ _ => rfl) hsame⟩

end Calls

theorem call_spec (hs : InStep sc wId s) {c : Call} {r : Except Thrown Result}
    (h : s.call sc wId targets c = some (r, t)) : InStep sc wId t ∧ Outcome s c.pid r t := by
  cases c with
  | enterScene pid x y dir => exact enterScene_spec hs h
  | move pid x y dir => exact move_spec hs h
  | leaveScene pid => exact leaveScene_spec hs h

theorem InStep.step (hs : InStep sc wId s) {c : Call} (h : s.step sc wId targets c = some t) :
    InStep sc wId t := by
  obtain ⟨⟨r, t⟩, hcall, rfl⟩ := Option.map_eq_some_iff.mp h
  exact (call_spec hs hcall).1

theorem InStep.exec (hs : InStep sc wId s) {cs : List Call}
    (h : Run.exec (PlayerService.step sc wId targets) s cs = some t) : InStep sc wId t :=
  Run.exec_invariant (InStep sc wId) (fun _ _ _ hs h => hs.step h) hs h

/-- An active entity stands where its player does, a call that moves a player raises its revision
by one, and a call that fails changes nothing. -/
theorem positions_agree (sc : Aoi.Scene) (wId : WorkerId) (targets : List WorkerId)
    (players : List Player) {cs : List Call}
    (h : Run.exec (PlayerService.step sc wId targets) (online players) cs = some s) :
    (∀ pid id e, s.aoi.entityOf pid = some id → s.aoi.replica.findById id = some e →
      ∃ p, s.players.get pid = some p ∧
        (e.x : Int) = p.x.toInt ∧ (e.y : Int) = p.y.toInt ∧ e.dir = p.dir.toInt) ∧
    ∀ c r t, s.call sc wId targets c = some (r, t) →
      (r = .ok .ok → ∀ p, s.players.get c.pid = some p → ∃ p', t.players.get c.pid = some p' ∧
        ((p'.x, p'.y, p'.dir) ≠ (p.x, p.y, p.dir) →
          p'.mutationRevision = p.mutationRevision + 1 ∧ p'.dirty = true)) ∧
      (r ≠ .ok .ok → (∀ q, t.players.get q = s.players.get q) ∧
        t.aoi.replica = s.aoi.replica) := by
  have hs : InStep sc wId s := (inStep_online players).exec h
  refine ⟨fun pid id e hid he => ?_, fun c r t hcall => ?_⟩
  · obtain ⟨hbusiness, howner⟩ := hs.businessId hid he
    obtain ⟨p, hp, hat⟩ := hs.agree id e he howner
    exact ⟨p, hbusiness ▸ hp, hat.x, hat.y, hat.dir⟩
  · cases (call_spec hs hcall).2 with
    | failed hr hplayers hreplica => exact ⟨fun hok => absurd hok hr, fun _ => ⟨hplayers, hreplica⟩⟩
    | done hothers hplayer =>
      refine ⟨fun _ p hp => ?_, fun hr => absurd rfl hr⟩
      obtain ⟨p', hp', hsame | hchanged⟩ := hplayer p hp
      · exact ⟨p', hp', fun hne => absurd (by rw [hsame]) hne⟩
      · exact ⟨p', hp', fun _ => hchanged⟩

/-- A player enters, moves, and tries to leave the map. -/
def stroll : List Call := [.enterScene 7 5 5 0, .move 7 6 5 1, .move 7 60 5 1]

theorem positions_agree_stroll :
    ∃ s, Run.exec (PlayerService.step Aoi.smallScene 0 [1]) (online [{ playerId := 7 }]) stroll =
        some s ∧
      (s.players.get 7).map (fun p => (p.x, p.mutationRevision, p.dirty)) = some (6, 2, true) ∧
      ∀ pid id e, s.aoi.entityOf pid = some id → s.aoi.replica.findById id = some e →
        ∃ p, s.players.get pid = some p ∧
          (e.x : Int) = p.x.toInt ∧ (e.y : Int) = p.y.toInt ∧ e.dir = p.dir.toInt := by
  have hsome : ∃ s, Run.exec (PlayerService.step Aoi.smallScene 0 [1])
        (online [{ playerId := 7 }]) stroll = some s ∧
      (s.players.get 7).map (fun p => (p.x, p.mutationRevision, p.dirty)) = some (6, 2, true) := by
    decide +kernel
  obtain ⟨s, hs, hplayer⟩ := hsome
  exact ⟨s, hs, hplayer, (positions_agree Aoi.smallScene 0 [1] [{ playerId := 7 }] hs).1⟩

end PlayerService

end Scene
