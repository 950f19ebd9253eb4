import GameServer.Scene.PlayerChange
import GameServer.Scene.PlayerLife

/-!
# Steps of a logic thread are moves of its players

A step of the thread handles one player, or each player of a table in turn. What it
does with a player is a move of that player, and the other players stay as they are.
-/

namespace Scene

open Gateway (ClientData)
open Gateway.GatewayPlayer (kOnline kOffline)
open Db (DbResult DbTask)
open PlayerPersistence (Record)

namespace PlayerManager

variable (m : PlayerManager) (id j : Nat) (p : Player)

@[simp] theorem get_put : (m.put id p).get j = if j = id then some p else m.get j :=
  Table.lookup_insert ..

@[simp] theorem get_advance : m.advance.get j = m.get j := rfl

@[simp] theorem get_remove : (m.remove id).get j = if j = id then none else m.get j :=
  Table.lookup_erase ..

/-- The actor that a session gets is the one that is there, or a new one. -/
theorem getOrCreate_spec (session : Nat) (hid : id ≠ 0) :
    ∃ epoch m', m.getOrCreate id session =
      some ({ (m.get id).getD { playerId := id } with session, epoch }, m') ∧
      m'.get id = some { (m.get id).getD { playerId := id } with session, epoch } ∧
      ∀ j, j ≠ id → m'.get j = m.get j := by
  unfold getOrCreate
  rw [if_neg hid]
  cases hget : m.get id with
  | none => exact ⟨m.nextEpoch, _, rfl, by simp, fun j hj => by simp [hj]⟩
  | some p =>
    by_cases hsession : p.session = session
    · subst hsession
      exact ⟨p.epoch, m, by simp, by simp [hget], fun j _ => rfl⟩
    · refine ⟨m.nextEpoch, _, if_neg hsession, by simp, fun j hj => by simp [hj]⟩

theorem get_renewEpoch : ∃ epoch, (m.renewEpoch id).get id = (m.get id).map ({ · with epoch }) ∧
    ∀ j, j ≠ id → (m.renewEpoch id).get j = m.get j := by
  unfold renewEpoch
  cases hget : m.get id with
  | none => exact ⟨0, by simp [hget], fun j _ => rfl⟩
  | some p => exact ⟨m.nextEpoch, by simp, fun j hj => by simp [hj]⟩

end PlayerManager

/-- The rows of the tables are about the players that they belong to. -/
structure Life.Keyed (id : Nat) (l : Life) : Prop where
  actor : ∀ p, l.actor = some p → p.playerId = id ∧ id ≠ 0
  record : ∀ r, l.record = some r → r.Of id

namespace Life

variable {enabled draining : Bool} {id : Nat} {l l' : Life}

theorem Requested.of {p : Player} {offline ok : Bool} {record record' : Option Record}
    {sent : List SaveTask} (h : Requested p offline record ok record' sent) (hp : p.playerId = id)
    (hrecord : ∀ r, record = some r → r.Of id) :
    (∀ r, record' = some r → r.Of id) ∧ ∀ task ∈ sent, task.playerId = id := by
  cases h with
  | full => exact ⟨nofun, nofun⟩
  | asked r token hr h =>
    refine h.of hp ?_
    rcases hr with hr | ⟨-, rfl⟩
    · exact hrecord r hr
    · exact fun snapshot h => by rcases h with h | h <;> cases h

theorem Advanced.keyed (h : Advanced id l l') (hk : l.Keyed id) : l'.Keyed id := by
  have hactor : ∀ session epoch d, (l.actorFor id session epoch d).playerId = id := by
    intro session epoch d
    cases hp : l.actor with
    | none => simp [actorFor, hp]
    | some p => simpa [actorFor, hp] using (hk.actor p hp).1
  cases h with
  | idle => exact hk
  | failed => exact ⟨hk.actor, hk.record⟩
  | created state epoch _ _ _ _ hid =>
    exact ⟨fun p hp => by cases hp; exact ⟨hactor .., hid⟩, hk.record⟩
  | submitted state epoch taskId body _ _ _ _ hid =>
    exact ⟨fun p hp => by cases hp; exact ⟨hactor .., hid⟩, hk.record⟩

theorem LoggedOut.keyed {p : Player} (h : LoggedOut enabled p l l') (hp : p.playerId = id)
    (hid : id ≠ 0) (hk : l.Keyed id) : l'.Keyed id := by
  have hactor : ∀ p', some p = some p' → p'.playerId = id ∧ id ≠ 0 := by
    intro p' h
    cases h
    exact ⟨hp, hid⟩
  cases h with
  | stayed => exact ⟨hactor, hk.record⟩
  | refused _ h => exact ⟨hactor, (h.of hp hk.record).1⟩
  | saved _ h => exact ⟨nofun, (h.of hp hk.record).1⟩
  | unsaved => exact ⟨nofun, hk.record⟩

theorem Round.keyed (h : Round enabled id l l') (hk : l.Keyed id) : l'.Keyed id := by
  cases h with
  | advanced h => exact h.keyed hk
  | flushed p _ hactor _ _ h => exact ⟨hk.actor, (h.of (hk.actor p hactor).1 hk.record).1⟩
  | dispatched r hrecord h =>
    exact ⟨hk.actor, fun r' hr' => by cases hr'; exact (h.of (hk.record r hrecord)).1⟩
  | loadFailed => exact ⟨hk.actor, hk.record⟩
  | loaded state p p' snapshot _ hactor _ _ h =>
    obtain ⟨hp, hid⟩ := hk.actor p hactor
    refine ⟨fun q hq => ?_, hk.record⟩
    cases hq
    exact ⟨(p.restoreSaveSnapshot_playerId (hp ▸ hid) h).2.trans hp, hid⟩
  | saveFailed r error hrecord => exact ⟨hk.actor, fun r' hr' => by cases hr'; exact hk.record r hrecord⟩
  | saved r snapshot taskId result heard hrecord hactive =>
    refine ⟨fun p hp => ?_, fun r' hr' => ?_⟩
    · change (if heard then l.actor.map _ else l.actor) = some p at hp
      split at hp
      · obtain ⟨p', hp', rfl⟩ := Option.map_eq_some_iff.mp hp
        obtain ⟨hid, hne⟩ := hk.actor p' hp'
        refine ⟨?_, hne⟩
        unfold Record.confirmActor
        split
        · exact (p'.confirmSave_playerId _ _).trans hid
        · exact hid
      · exact hk.actor p hp
    · change (if _ then none else some (r.confirm snapshot)) = some r' at hr'
      split at hr'
      · cases hr'
      · cases hr'
        intro snapshot' h
        rcases h with h | h
        · cases h
        · exact hk.record r hrecord snapshot' (.inr h)
  | mutated p op hactor =>
    obtain ⟨hp, hid⟩ := hk.actor p hactor
    exact ⟨fun q hq => by cases hq; exact ⟨(Player.played_apply op).playerId.trans hp, hid⟩, hk.record⟩

theorem Move.keyed (h : Move enabled draining id l l') (hk : l.Keyed id) : l'.Keyed id := by
  cases h with
  | round h => exact h.keyed hk
  | opened d session epoch _ _ _ _ _ h =>
    refine h.keyed ⟨fun p hp => ?_, hk.record⟩
    obtain ⟨p', hp', rfl⟩ := Option.map_eq_some_iff.mp hp
    exact hk.actor p' hp'
  | bound d session epoch _ hid =>
    refine ⟨fun p hp => ?_, hk.record⟩
    cases hp
    refine ⟨?_, hid⟩
    cases hp : l.actor with
    | none => simp [actorFor, hp]
    | some p => simpa [actorFor, hp] using (hk.actor p hp).1
  | cancelled state =>
    exact ⟨fun p hp => hk.actor p (Option.filter_eq_some_iff.mp hp).1, hk.record⟩
  | loggedOut p ops latest hactor _ h =>
    obtain ⟨hp, hid⟩ := hk.actor p hactor
    exact h.keyed ((p.run_playerId ops).trans hp) hid ⟨hk.actor, hk.record⟩
  | drained => exact ⟨by simp, hk.record⟩

theorem Round.load_none (h : Round enabled id l l') (hl : l.load = none) : l'.load = none := by
  cases h with
  | advanced h =>
    cases h with
    | idle => exact hl
    | failed state hload => cases hl.symm.trans hload
    | created state epoch hload => cases hl.symm.trans hload
    | submitted state epoch taskId body hload => cases hl.symm.trans hload
  | flushed => exact hl
  | dispatched => exact hl
  | loadFailed state hload => cases hl.symm.trans hload
  | loaded => rfl
  | saveFailed => exact hl
  | saved => exact hl
  | mutated => exact hl

/-- No load begins once the thread is told to stop. -/
theorem Move.load_none (h : Move enabled true id l l') (hl : l.load = none) : l'.load = none := by
  cases h with
  | round h => exact h.load_none hl
  | opened _ _ _ _ hdraining => cases hdraining
  | bound _ _ _ hdraining => cases hdraining
  | cancelled => rfl
  | loggedOut p ops latest _ _ h => cases h <;> first | exact hl | rfl
  | drained => rfl

end Life

namespace LogicThread

variable {env : Env} {s t : LogicThread} {id k : Nat}

/-- The rows are where they belong, and no load is under way once the thread is told to stop. -/
structure Orderly (s : LogicThread) : Prop where
  keyed : ∀ id, (s.life id).Keyed id
  drained : s.draining = true → ∀ id, (s.life id).load = none

@[simp] theorem note_nil (s : LogicThread) : s.note [] = s := by simp [note]

theorem life_note_self {events : List ThreadEvent} (h : ∀ e ∈ events, e.player = id) :
    (s.note events).life id = (s.life id).note events := by
  have hall : events.filter (fun e => decide (e.player = id)) = events :=
    List.filter_eq_self.mpr fun e he => decide_eq_true (h e he)
  simp [life, note, Life.note, hall]

theorem life_note_other {events : List ThreadEvent} (h : ∀ e ∈ events, e.player = k)
    (hid : id ≠ k) : (s.note events).life id = s.life id := by
  have hnone : events.filter (fun e => decide (e.player = id)) = [] :=
    List.filter_eq_nil_iff.mpr fun e he => by simpa [h e he] using Ne.symm hid
  simp [life, note, hnone]

/-- A step that handles one player. -/
structure Touches (R : Life → Life → Prop) (k : Nat) (s t : LogicThread) : Prop where
  enabled : t.persistenceEnabled = s.persistenceEnabled
  draining : t.draining = s.draining
  self : R (s.life k) (t.life k)
  others : ∀ id, id ≠ k → t.life id = s.life id

theorem Touches.imp {R R' : Life → Life → Prop} (h : Touches R k s t)
    (himp : R (s.life k) (t.life k) → R' (s.life k) (t.life k)) : Touches R' k s t :=
  { h with self := himp h.self }

/-- A loop that handles each player once. -/
theorem fold_touches {f : LogicThread → Nat → Option LogicThread} {I : LogicThread → Prop}
    {R : Nat → Life → Life → Prop}
    (hstep : ∀ s k t, I s → f s k = some t → I t ∧ Touches (R k) k s t) :
    ∀ (ks : List Nat) {s t : LogicThread}, ks.Nodup → I s → ks.foldlM f s = some t →
      I t ∧ t.persistenceEnabled = s.persistenceEnabled ∧ t.draining = s.draining ∧
      ∀ id, (id ∈ ks → R id (s.life id) (t.life id)) ∧ (id ∉ ks → t.life id = s.life id) := by
  intro ks
  induction ks with
  | nil =>
    intro s t _ hs h
    cases h
    exact ⟨hs, rfl, rfl, fun id => ⟨nofun, fun _ => rfl⟩⟩
  | cons k ks ih =>
    intro s t hnodup hs h
    obtain ⟨hk, hnodup⟩ := List.nodup_cons.mp hnodup
    rw [List.foldlM_cons] at h
    obtain ⟨u, hu, h⟩ := Option.bind_eq_some_iff.mp h
    obtain ⟨hI, htouch⟩ := hstep s k u hs hu
    obtain ⟨hI', henabled, hdraining, hlife⟩ := ih hnodup hI h
    refine ⟨hI', henabled.trans htouch.enabled, hdraining.trans htouch.draining,
      fun id => ⟨fun hid => ?_, fun hid => ?_⟩⟩
    · by_cases heq : id = k
      · subst heq
        rw [(hlife id).2 hk]
        exact htouch.self
      · rw [← htouch.others id heq]
        exact (hlife id).1 ((List.mem_cons.mp hid).resolve_left heq)
    · obtain ⟨hne, hid⟩ := not_or.mp (mt List.mem_cons.mpr hid)
      rw [(hlife id).2 hid, htouch.others id hne]

section Loads

theorem buildLoad_some {body : DbTask} (h : PlayerSnapshotDao.buildLoad id = some body) :
    id ≠ 0 ∧ id < 2 ^ 63 := by
  unfold PlayerSnapshotDao.buildLoad at h
  split at h
  · cases h
  · omega

theorem advanceLoad_touches (h : s.advanceLoad env k = some t) :
    Touches (Life.Advanced k) k s t := by
  unfold advanceLoad at h
  split at h
  · rename_i hload
    cases h
    refine ⟨rfl, rfl, .idle fun state hstate => ?_, fun _ _ => rfl⟩
    cases hload.symm.trans hstate
  · rename_i state hload
    split at h
    · rename_i hskip
      cases h
      refine ⟨rfl, rfl, .idle fun state' hstate => ?_, fun _ _ => rfl⟩
      cases hload.symm.trans hstate
      exact hskip
    · rename_i hskip
      obtain ⟨hfailed, htask, hblocked⟩ := (by simpa [not_or] using hskip :
        state.failed = false ∧ state.taskId = 0 ∧ s.persistence.blocksLogin k = false)
      by_cases hid : k = 0
      · have hnone : s.players.getOrCreate k state.session = none := if_pos hid
        rw [hnone] at h
        cases h
        refine ⟨rfl, rfl, ?_, fun id hne => ?_⟩
        · have hlife : (s.setLoad k { state with failed := true }).life k =
              { s.life k with load := some { state with failed := true } } := by
            simp [life, setLoad]
          rw [hlife]
          exact .failed state hload hid
        · simp [life, setLoad, hne]
      · obtain ⟨epoch, players, hcreate, hself, hothers⟩ :=
          s.players.getOrCreate_spec k state.session hid
        rw [hcreate] at h
        obtain ⟨body, hbody, h⟩ := Option.map_eq_some_iff.mp h
        have hmax := (buildLoad_some hbody).2
        dsimp only at h
        split at h
        · subst h
          refine ⟨rfl, rfl, ?_, fun id hne => ?_⟩
          · rw [life_note_self (by simp [ThreadEvent.player])]
            refine cast ?_ (@Life.Advanced.submitted k (s.life k) state epoch
              (env.newTaskId k) body hload hfailed htask hblocked hid hmax)
            congr 1
            simp [life, setLoad, Life.note, Life.actorFor]
          · rw [life_note_other (k := k) (by simp [ThreadEvent.player]) hne]
            simp [life, setLoad, hne, hothers]
        · subst h
          refine ⟨rfl, rfl, ?_, fun id hne => ?_⟩
          · refine cast ?_ (@Life.Advanced.created k (s.life k) state epoch hload
              hfailed htask hblocked hid hmax)
            congr 1
            simp [life, Life.actorFor]
          · simp [life, hne, hothers]

end Loads

/-- What a step makes of each player is a sequence of such moves. -/
structure Follows (M : Nat → Life → Life → Prop) (s t : LogicThread) : Prop where
  enabled : t.persistenceEnabled = s.persistenceEnabled
  draining : t.draining = s.draining
  moves : ∀ id, Relation.ReflTransGen (M id) (s.life id) (t.life id)

section Follows

variable {M : Nat → Life → Life → Prop}

theorem Follows.refl (s : LogicThread) : Follows M s s := ⟨rfl, rfl, fun _ => .refl⟩

theorem Follows.trans {u : LogicThread} (h : Follows M s t) (h' : Follows M t u) : Follows M s u :=
  ⟨h'.enabled.trans h.enabled, h'.draining.trans h.draining,
    fun id => (h.moves id).trans (h'.moves id)⟩

theorem Follows.mono {N : Nat → Life → Life → Prop} (h : Follows M s t)
    (himp : ∀ id l l', M id l l' → N id l l') : Follows N s t :=
  ⟨h.enabled, h.draining, fun id => Relation.ReflTransGen.mono (himp id) _ _ (h.moves id)⟩

theorem Touches.follows (h : Touches (M k) k s t) : Follows M s t := by
  refine ⟨h.enabled, h.draining, fun id => ?_⟩
  by_cases hid : id = k
  · subst hid
    exact .single h.self
  · rw [h.others id hid]

theorem Follows.orderly (h : Follows (Life.Move s.persistenceEnabled s.draining) s t)
    (hs : s.Orderly) : t.Orderly where
  keyed := fun id => by
    have hmoves := h.moves id
    generalize t.life id = l at hmoves ⊢
    induction hmoves with
    | refl => exact hs.keyed id
    | tail _ hmove ih => exact hmove.keyed ih
  drained := fun hdraining id => by
    have hmoves := h.moves id
    rw [h.draining] at hdraining
    rw [hdraining] at hmoves
    generalize t.life id = l at hmoves ⊢
    induction hmoves with
    | refl => exact hs.drained hdraining id
    | tail _ hmove ih => exact hmove.load_none ih

/-- A loop whose rounds make moves makes moves. -/
theorem fold_follows {f : LogicThread → Nat → Option LogicThread} {enabled draining : Bool}
    (hM : ∀ id l l', M id l l' → Life.Move enabled draining id l l')
    (hstep : ∀ s k t, s.persistenceEnabled = enabled → s.draining = draining → s.Orderly →
      f s k = some t → Follows M s t) :
    ∀ (ks : List Nat) {s t : LogicThread}, s.persistenceEnabled = enabled →
      s.draining = draining → s.Orderly → ks.foldlM f s = some t → Follows M s t := by
  intro ks
  induction ks with
  | nil =>
    intro s t _ _ _ h
    cases h
    exact .refl s
  | cons k ks ih =>
    intro s t henabled hdraining hs h
    rw [List.foldlM_cons] at h
    obtain ⟨u, hu, h⟩ := Option.bind_eq_some_iff.mp h
    have hfollows := hstep s k u henabled hdraining hs hu
    refine hfollows.trans (ih (hfollows.enabled.trans henabled)
      (hfollows.draining.trans hdraining) ?_ h)
    exact (hfollows.mono (by rw [henabled, hdraining]; exact hM)).orderly hs

end Follows

/-- Moves that no message about a binding and no logout makes. -/
abbrev Rounds (s t : LogicThread) : Prop := Follows (Life.Round s.persistenceEnabled) s t

/-- Any moves. -/
abbrev Moves (s t : LogicThread) : Prop := Follows (Life.Move s.persistenceEnabled s.draining) s t

theorem Rounds.moves (h : Rounds s t) : Moves s t := h.mono fun _ _ _ => .round

theorem advancePlayerLoads_follows (h : s.advancePlayerLoads env = some t) (hs : s.Orderly) :
    Rounds s t := by
  refine fold_follows (fun _ _ _ => .round) (fun s k t _ _ _ h => ?_) _ rfl rfl hs h
  exact ((advanceLoad_touches h).imp .advanced).follows

section Saves

theorem life_put_self (s : LogicThread) (k : Nat) (record : Option Record)
    (q : PlayerPersistence) :
    { s with persistence := q.put k record }.life k = { s.life k with record } := by
  cases record <;> simp [life, PlayerPersistence.put]

theorem life_put_other (s : LogicThread) (record : Option Record) {q : PlayerPersistence}
    (hq : q.records = s.persistence.records) (hid : id ≠ k) :
    { s with persistence := q.put k record }.life id = s.life id := by
  cases record <;> simp [life, PlayerPersistence.put, hq, hid]

theorem of_sent {sent : List SaveTask} (h : ∀ task ∈ sent, task.playerId = k) :
    ∀ e ∈ sent.map ThreadEvent.saveSubmitted, e.player = k := by
  intro e he
  obtain ⟨task, htask, rfl⟩ := List.mem_map.mp he
  exact h task htask

/-- What the request of a save leaves. -/
theorem requestSave_spec {p : Player} (hp : p.playerId = k) (hs : s.Orderly) (env : Env)
    (offline : Bool) :
    ∃ ok t, s.requestSave env k p offline = some (ok, t) ∧
      Touches (fun l l' => ∃ record sent, Life.Requested p offline l.record ok record sent ∧
        l' = { l with record }.note (sent.map .saveSubmitted)) k s t := by
  subst hp
  have hfound : ∀ {q : PlayerPersistence} {r : Record} (token : Nat),
      q.records = s.persistence.records →
      ((s.life p.playerId).record = some r ∨
        (s.life p.playerId).record = none ∧ r = Life.newRecord p token) →
      s.persistence.open_ p = some (q, r) →
      ∃ ok t, s.requestSave env p.playerId p offline = some (ok, t) ∧
        Touches (fun l l' => ∃ record sent, Life.Requested p offline l.record ok record sent ∧
          l' = { l with record }.note (sent.map .saveSubmitted)) p.playerId s t := by
    intro q r token hq hr hopen
    obtain ⟨ok, record, sent, hrequest, hasked⟩ := r.asked p offline (env.saves p.playerId)
    have hrequested := Life.Requested.asked r token hr hasked
    have hsent := of_sent (hrequested.of rfl (hs.keyed p.playerId).record).2
    refine ⟨ok, { s with persistence := q.put p.playerId record }.note (sent.map .saveSubmitted),
      ?_, rfl, rfl, ⟨record, sent, hrequested, ?_⟩, fun id hid => ?_⟩
    · simp [requestSave, PlayerPersistence.request, hopen, hrequest]
    · rw [life_note_self hsent, life_put_self s _ record q]
    · rw [life_note_other hsent hid, life_put_other s record hq hid]
  cases hrecord : s.persistence.records.lookup p.playerId with
  | some r =>
    refine hfound 0 rfl (.inl hrecord) ?_
    simp [PlayerPersistence.open_, hrecord]
  | none =>
    by_cases hfull : PlayerPersistence.kMaxPlayers ≤ s.persistence.records.size ∨ p.playerId = 0
    · have hopen : s.persistence.open_ p = none := by
        simp only [PlayerPersistence.open_, hrecord]
        rw [if_pos hfull]
      refine ⟨false, s, ?_, rfl, rfl, ⟨none, [], .full hrecord, ?_⟩, fun _ _ => rfl⟩
      · simp [requestSave, PlayerPersistence.request, hopen]
      · simp [life, Life.note, hrecord]
    · refine hfound (q := { s.persistence with nextToken := s.persistence.nextToken + 1 })
        (s.persistence.nextToken + 1) rfl (.inr ⟨hrecord, rfl⟩) ?_
      simp only [PlayerPersistence.open_, hrecord]
      rw [if_neg hfull]
      rfl

theorem flushPlayer_follows (henabled : s.persistenceEnabled = true)
    (h : s.flushPlayer env k = some t) (hs : s.Orderly) : Rounds s t := by
  unfold flushPlayer at h
  split at h
  · cases h
    exact .refl s
  · rename_i p hactor
    split at h
    · cases h
      exact .refl s
    · rename_i hskip
      obtain ⟨ok, u, hrequest, htouch⟩ :=
        requestSave_spec ((hs.keyed k).actor p hactor).1 hs env false
      rw [hrequest] at h
      cases h
      obtain ⟨hload, -, hdirty⟩ : (k ∉ s.playerLoads) ∧ s.draining = false ∧ p.dirty = true := by
        simpa [not_or] using hskip
      refine (htouch.imp ?_).follows
      rintro ⟨record, sent, hrequested, hlife⟩
      rw [hlife]
      exact .flushed p henabled hactor (AList.lookup_eq_none.mpr hload) hdirty hrequested

theorem tickRecord_follows (s : LogicThread) (env : Env) (k : Nat) (hs : s.Orderly) :
    Rounds s (s.tickRecord env k) := by
  unfold tickRecord PlayerPersistence.dispatch
  cases hrecord : s.persistence.records.lookup k with
  | none =>
    simp only [List.map_nil, note_nil]
    exact .refl s
  | some r =>
    have hdispatched := r.dispatched (env.saves k)
    have hsent := of_sent (hdispatched.of ((hs.keyed k).record r hrecord)).2
    refine Touches.follows (k := k) ⟨rfl, rfl, ?_, fun id hid => ?_⟩
    · rw [life_note_self hsent, life_put_self s k]
      exact .dispatched r hrecord hdispatched
    · rw [life_note_other hsent hid, life_put_other s _ rfl hid]

end Saves

section Logout

theorem life_release_self {p : Player} (hp : p.playerId = k) :
    (s.release k p).life k =
      { s.life k with actor := none, load := none }.note [.removed p] := by
  unfold release
  rw [life_note_self (by simpa [ThreadEvent.player] using hp)]
  simp [life]

theorem life_release_other {p : Player} (hp : p.playerId = k) (hid : id ≠ k) :
    (s.release k p).life id = s.life id := by
  unfold release
  rw [life_note_other (by simpa [ThreadEvent.player] using hp) hid]
  simp [life, hid]

/-- What `logoutPlayer` leaves of a player that is there. -/
theorem logoutPlayer_spec {p : Player} (hactor : s.players.get k = some p) (hs : s.Orderly)
    (env : Env) :
    ∃ (ok : Bool) (t : LogicThread) (ops : List GameOp), s.logoutPlayer env k = some (ok, t) ∧
      Touches (Life.LoggedOut s.persistenceEnabled (p.run (ops.map (·.1)))) k s t := by
  obtain ⟨hp, hid⟩ := (hs.keyed k).actor p hactor
  obtain ⟨ops, hops⟩ : ∃ ops : List GameOp, p.run (ops.map (·.1)) =
      if k ∈ s.logoutPrepared then p else p.run ((env.onPlayerLogout k).map (·.1)) := by
    split
    · exact ⟨[], rfl⟩
    · exact ⟨env.onPlayerLogout k, rfl⟩
  have hqid := (p.run_playerId ops).trans hp
  generalize hq : p.run (ops.map (·.1)) = q at hops hqid
  let u : LogicThread := { s.setPlayer k q with logoutPrepared := insert k s.logoutPrepared }
  have hself : u.life k = { s.life k with actor := some q } := by simp [u, life, setPlayer]
  have hothers : ∀ id, id ≠ k → u.life id = s.life id := by
    intro id hid
    simp [u, life, setPlayer, hid]
  have hu : u.Orderly := by
    refine ⟨fun id => ?_, fun hdraining id => ?_⟩
    · by_cases heq : id = k
      · subst heq
        rw [hself]
        exact ⟨fun p' hp' => by cases hp'; exact ⟨hqid, hid⟩, (hs.keyed id).record⟩
      · rw [hothers id heq]
        exact hs.keyed id
    · exact hs.drained hdraining id
  have hstart : s.logoutPlayer env k =
      if !env.leaveScene k then some (false, u)
      else if s.persistenceEnabled then
        (u.requestSave env k q true).map fun out =>
          if out.1 then (true, out.2.release k q) else (false, out.2)
      else some (true, u.release k q) := by
    unfold logoutPlayer
    rw [hactor]
    dsimp only
    rw [← hops]
    rfl
  rw [hstart]
  split
  · refine ⟨false, u, ops, rfl, rfl, rfl, ?_, hothers⟩
    rw [hself, hq]
    exact .stayed
  · split
    · rename_i henabled
      obtain ⟨ok, t, hrequest, htouch⟩ := requestSave_spec hqid hu env true
      obtain ⟨record, sent, hrequested, hlife⟩ := htouch.self
      rw [hself] at hrequested hlife
      rw [hrequest]
      cases ok with
      | false =>
        refine ⟨false, t, ops, rfl, htouch.enabled, htouch.draining, ?_, fun id hid =>
          (htouch.others id hid).trans (hothers id hid)⟩
        rw [hlife, hq]
        exact .refused henabled hrequested
      | true =>
        refine ⟨true, t.release k q, ops, rfl, htouch.enabled, htouch.draining, ?_,
          fun id hid => ?_⟩
        · rw [life_release_self hqid, hlife, hq]
          refine cast ?_ (Life.LoggedOut.saved (l := s.life k) henabled hrequested)
          simp [Life.note]
        · rw [life_release_other hqid hid, htouch.others id hid, hothers id hid]
    · rename_i henabled
      refine ⟨true, u.release k q, ops, rfl, rfl, rfl, ?_, fun id hid => ?_⟩
      · rw [life_release_self hqid, hself, hq]
        exact .unsaved (by simpa using henabled)
      · rw [life_release_other hqid hid, hothers id hid]

end Logout

section Bindings

variable {m : BindingMsg}

/-- A loop over the loads advances each of them once. -/
theorem advanced_once (h : s.advancePlayerLoads env = some t) :
    t.persistenceEnabled = s.persistenceEnabled ∧ t.draining = s.draining ∧
      ∀ id, Life.Advanced id (s.life id) (t.life id) := by
  obtain ⟨-, henabled, hdraining, hlife⟩ := fold_touches (I := fun _ => True) (R := Life.Advanced)
    (fun s k t _ h => ⟨trivial, advanceLoad_touches h⟩) _ s.playerLoads.keys_nodup trivial h
  refine ⟨henabled, hdraining, fun id => ?_⟩
  by_cases hid : id ∈ s.playerLoads.keys
  · exact (hlife id).1 hid
  · rw [(hlife id).2 hid]
    refine .idle fun state hstate => ?_
    cases (AList.lookup_eq_none.mpr hid).symm.trans hstate

theorem openLoad_follows (h : s.openLoad env m = some t) (henabled : s.persistenceEnabled = true)
    (hdraining : s.draining = false) (hid : m.clientBinding.playerId ≠ 0)
    (hlatest : (s.latestClientBindings.lookup m.clientBinding.playerId).any
      (outdatedBy m.clientBinding) = false)
    (hwhen : (∃ state, s.playerLoads.lookup m.clientBinding.playerId = some state ∧
        ¬ (state.clientBinding = m.clientBinding ∧ state.session = m.session) ∧
        outdatedBy m.clientBinding state.clientBinding = false) ∨
      s.playerLoads.lookup m.clientBinding.playerId = none ∧
        s.players.get m.clientBinding.playerId = none) :
    Moves s t := by
  obtain ⟨henabled', hdraining', hadvanced⟩ := advanced_once h
  obtain ⟨epoch, hself, hothers⟩ := s.players.get_renewEpoch m.clientBinding.playerId
  refine ⟨henabled', hdraining', fun id => ?_⟩
  have hmove := hadvanced id
  by_cases heq : id = m.clientBinding.playerId
  · subst heq
    refine .single (.opened m.clientBinding m.session epoch henabled hdraining hid hlatest hwhen ?_)
    refine cast ?_ hmove
    congr 1
    simp [life, hself]
  · refine .single (.round (.advanced ?_))
    refine cast ?_ hmove
    congr 1
    simp [life, heq, hothers id heq]

theorem bindActor_touches (hid : m.clientBinding.playerId ≠ 0) :
    Touches (fun l l' => ∃ epoch, l' =
      { l with
        actor := some (l.actorFor m.clientBinding.playerId m.session epoch m.clientBinding)
        latest := some m.clientBinding }) m.clientBinding.playerId s (s.bindActor m) := by
  obtain ⟨epoch, players, hcreate, hself, hothers⟩ :=
    s.players.getOrCreate_spec m.clientBinding.playerId m.session hid
  let old := ((s.players.get m.clientBinding.playerId).map (·.clientBinding.clientEpoch)).getD 0
  obtain ⟨epoch', players', hplayers, hself', hothers'⟩ : ∃ epoch' players',
      (if old ≠ 0 ∧ old ≠ m.clientBinding.clientEpoch then
        players.renewEpoch m.clientBinding.playerId else players) = players' ∧
      players'.get m.clientBinding.playerId =
        some { (s.players.get m.clientBinding.playerId).getD
          { playerId := m.clientBinding.playerId } with session := m.session, epoch := epoch' } ∧
      ∀ j, j ≠ m.clientBinding.playerId → players'.get j = s.players.get j := by
    split
    · obtain ⟨epoch', hrenewed, hothers'⟩ := players.get_renewEpoch m.clientBinding.playerId
      refine ⟨epoch', _, rfl, ?_, fun j hj => (hothers' j hj).trans (hothers j hj)⟩
      rw [hrenewed, hself]
      rfl
    · exact ⟨epoch, players, rfl, hself, hothers⟩
  unfold bindActor
  dsimp only
  rw [hcreate]
  dsimp only
  rw [hplayers, hself']
  refine ⟨rfl, rfl, ⟨epoch', ?_⟩, fun id hne => ?_⟩
  · simp [life, Life.actorFor]
  · simp [life, hne, hothers' id hne]

theorem bindActor_follows (hdraining : s.draining = false) (hid : m.clientBinding.playerId ≠ 0)
    (hlatest : (s.latestClientBindings.lookup m.clientBinding.playerId).any
      (outdatedBy m.clientBinding) = false)
    (hwhen : s.persistenceEnabled = false ∨
      s.playerLoads.lookup m.clientBinding.playerId = none ∧
        (s.players.get m.clientBinding.playerId).isSome = true) :
    Moves s (s.bindActor m) := by
  refine ((bindActor_touches hid).imp ?_).follows
  rintro ⟨epoch, hlife⟩
  rw [hlife]
  exact .bound m.clientBinding m.session epoch hdraining hid hlatest hwhen

theorem online_follows (h : s.online env m = some t) (hdraining : s.draining = false)
    (hid : m.clientBinding.playerId ≠ 0) : Moves s t := by
  unfold online at h
  dsimp only at h
  split at h
  · cases h
    exact .refl s
  · rename_i hlatest
    have hlatest := Bool.eq_false_iff.mpr hlatest
    split at h
    · rename_i henabled
      split at h
      · rename_i load hload
        split at h
        · cases h
          exact .refl s
        · rename_i hsame
          split at h
          · cases h
            exact .refl s
          · rename_i hold
            exact openLoad_follows h henabled hdraining hid hlatest
              (.inl ⟨load, hload, hsame, Bool.eq_false_iff.mpr hold⟩)
      · rename_i hload
        split at h
        · rename_i hactor
          cases h
          exact bindActor_follows hdraining hid hlatest (.inr ⟨hload, hactor⟩)
        · rename_i hactor
          split at h
          · cases h
            exact .refl s
          · refine openLoad_follows h henabled hdraining hid hlatest (.inr ⟨hload, ?_⟩)
            simpa using hactor
    · rename_i henabled
      cases h
      exact bindActor_follows hdraining hid hlatest (.inl (by simpa using henabled))

/-- Only the latest binding of the player is noted. -/
abbrev Noted (latest : Option ClientData) (k : Nat) (s noted : LogicThread) : Prop :=
  Touches (fun l l' => l' = { l with latest }) k s noted

theorem Noted.orderly {noted : LogicThread} {latest : Option ClientData}
    (hnoted : Noted latest k s noted) (hs : s.Orderly) : noted.Orderly := by
  refine ⟨fun id => ?_, fun hdraining id => ?_⟩
  · by_cases hid : id = k
    · subst hid
      rw [hnoted.self]
      exact ⟨(hs.keyed id).actor, (hs.keyed id).record⟩
    · rw [hnoted.others id hid]
      exact hs.keyed id
  · have hnone := hs.drained (hnoted.draining ▸ hdraining) id
    by_cases hid : id = k
    · subst hid
      rw [hnoted.self]
      exact hnone
    · rw [hnoted.others id hid]
      exact hnone

theorem noted_insert (s : LogicThread) (k : Nat) (d : ClientData) :
    Noted (some d) k s { s with latestClientBindings := s.latestClientBindings.insert k d } :=
  ⟨rfl, rfl, by simp [life], fun id hid => by simp [life, hid]⟩

theorem noted_refl (s : LogicThread) (k : Nat) : Noted (s.life k).latest k s s :=
  ⟨rfl, rfl, rfl, fun _ _ => rfl⟩

theorem logout_follows {noted : LogicThread} {p : Player} {latest : Option ClientData}
    (hnoted : Noted latest k s noted) (hactor : s.players.get k = some p)
    (hload : ∀ state, s.playerLoads.lookup k = some state →
      ¬ (state.clientBinding = p.clientBinding ∧ state.session = p.session))
    (h : (noted.logoutPlayer env k).map (·.2) = some t) (hs : s.Orderly) : Moves s t := by
  have hactor' : noted.players.get k = some p := (congrArg Life.actor hnoted.self).trans hactor
  obtain ⟨ok, u, ops, hlogout, htouch⟩ := logoutPlayer_spec hactor' (hnoted.orderly hs) env
  rw [hlogout] at h
  cases h
  refine Touches.follows (k := k) ⟨htouch.enabled.trans hnoted.enabled,
    htouch.draining.trans hnoted.draining, ?_, fun id hid => ?_⟩
  · have hself := htouch.self
    rw [hnoted.self, hnoted.enabled] at hself
    exact .loggedOut p ops latest hactor hload hself
  · rw [htouch.others id hid, hnoted.others id hid]

theorem offlineActor_follows
    (hload : ∀ state, s.playerLoads.lookup m.clientBinding.playerId = some state →
      ¬ (state.clientBinding = m.clientBinding ∧ state.session = m.session))
    (h : offline.offlineActor env s m (s.players.get m.clientBinding.playerId)
      { s with latestClientBindings :=
          s.latestClientBindings.insert m.clientBinding.playerId m.clientBinding } = some t)
    (hs : s.Orderly) : Moves s t := by
  unfold offline.offlineActor at h
  cases hactor : s.players.get m.clientBinding.playerId with
  | none =>
    rw [hactor] at h
    cases h
    exact .refl s
  | some p =>
    rw [hactor] at h
    split at h
    · rename_i hmatch
      obtain ⟨hsession, hbinding⟩ : p.session = m.session ∧ p.clientBinding = m.clientBinding := by
        simpa using hmatch
      refine logout_follows (s.noted_insert _ m.clientBinding) hactor ?_ h hs
      rw [hsession, hbinding]
      exact hload
    · cases h
      exact .refl s

theorem offline_follows (h : s.offline env m = some t) (hs : s.Orderly) : Moves s t := by
  unfold offline at h
  dsimp only at h
  split at h
  · rename_i load hload
    split at h
    · rename_i hsame
      cases h
      refine Touches.follows (k := m.clientBinding.playerId) ⟨rfl, rfl, ?_, fun id hid => ?_⟩
      · refine cast ?_ (@Life.Move.cancelled s.persistenceEnabled s.draining
          m.clientBinding.playerId (s.life m.clientBinding.playerId) load hload)
        congr 1
        cases hactor : s.players.get m.clientBinding.playerId with
        | none => simp [life, hactor, hsame.1]
        | some p =>
          by_cases hbinding : p.clientBinding = m.clientBinding
          · simp [life, hactor, hsame.1, hbinding]
          · simp [life, hactor, hsame.1, hbinding]
      · split
        · simp [life, hid]
        · simp [life, hid]
    · rename_i hsame
      refine offlineActor_follows (fun state hstate => ?_) h hs
      cases hload.symm.trans hstate
      exact hsame
  · rename_i hload
    refine offlineActor_follows (fun state hstate => ?_) h hs
    cases hload.symm.trans hstate

end Bindings

section Results

theorem handlePlayerLoadResult_follows (playerId taskId : Nat) (result : DbResult)
    (hs : s.Orderly) : Rounds s (s.handlePlayerLoadResult playerId taskId result).2 := by
  unfold handlePlayerLoadResult
  split
  · exact .refl s
  · rename_i state hload
    have hfailed : Rounds s (s.setLoad playerId { state with failed := true }) := by
      refine Touches.follows (k := playerId) ⟨rfl, rfl, ?_, fun id hid => ?_⟩
      · refine cast ?_ (@Life.Round.loadFailed s.persistenceEnabled playerId
          (s.life playerId) state hload)
        congr 1
        simp [life, setLoad]
      · simp [life, setLoad, hid]
    split
    · exact .refl s
    · split
      · exact .refl s
      · rename_i p hactor
        split
        · exact .refl s
        · rename_i hcurrent
          obtain ⟨hepoch, hbinding⟩ := not_or.mp hcurrent
          dsimp only
          split
          · exact hfailed
          · rename_i snapshot _
            split
            · exact hfailed
            · split
              · exact hfailed
              · rename_i p' hrestored
                obtain ⟨hp, hid⟩ := (hs.keyed playerId).actor p hactor
                have hsnapshot : snapshot.playerId = playerId :=
                  (p.restoreSaveSnapshot_playerId (hp ▸ hid) hrestored).1.trans hp
                have habout : ∀ e ∈ [ThreadEvent.loaded snapshot], e.player = playerId := by
                  simpa [ThreadEvent.player] using hsnapshot
                refine Touches.follows (k := playerId) ⟨rfl, rfl, ?_, fun id hne => ?_⟩
                · rw [life_note_self habout]
                  refine cast ?_ (@Life.Round.loaded s.persistenceEnabled playerId
                    (s.life playerId) state p p' snapshot hload hactor (not_not.mp hepoch)
                    (not_not.mp hbinding) hrestored)
                  congr 1
                  simp [life, setPlayer]
                · rw [life_note_other habout hne]
                  simp [life, setPlayer, hne]

theorem Follows.of_life {M : Nat → Life → Life → Prop}
    (henabled : t.persistenceEnabled = s.persistenceEnabled)
    (hdraining : t.draining = s.draining) (h : ∀ id, t.life id = s.life id) : Follows M s t := by
  refine ⟨henabled, hdraining, fun id => ?_⟩
  rw [h id]

/-- The player of the message is written back. -/
theorem life_told (s : LogicThread) (playerId : Nat) (f : Player → Player) (id : Nat) :
    (match (s.players.get playerId).map f with
      | some p => s.setPlayer playerId p
      | none => s).life id =
    { s.life id with
      actor := if id = playerId then (s.life id).actor.map f else (s.life id).actor } := by
  cases hactor : s.players.get playerId with
  | none =>
    by_cases hid : id = playerId
    · subst hid
      simp [life, hactor]
    · simp [life, hid]
  | some p =>
    by_cases hid : id = playerId
    · subst hid
      simp [life, setPlayer, hactor]
    · simp [life, setPlayer, hid]

theorem life_written_back (s : LogicThread) (playerId : Nat) (id : Nat) :
    (match s.players.get playerId with
      | some p => s.setPlayer playerId p
      | none => s).life id = s.life id := by
  have htold := s.life_told playerId (fun p => p) id
  rw [Option.map_id'] at htold
  rw [htold]
  simp [life]

theorem onDbResult_follows (playerId taskId : Nat) (result : DbResult) (hs : s.Orderly) :
    Rounds s (s.onDbResult playerId taskId result) := by
  unfold onDbResult
  dsimp only
  split
  · exact handlePlayerLoadResult_follows playerId taskId result hs
  · split
    · have hended := s.persistence.complete_ended taskId result (s.players.get playerId)
      generalize s.persistence.complete taskId result (s.players.get playerId) = done at hended ⊢
      cases hended with
      | ignored hpersistence hlive hconfirmed =>
        rw [hpersistence, hlive, hconfirmed]
        simp only [Option.toList_none, List.map_nil, note_nil]
        refine .of_life ?_ ?_ (life_written_back s playerId)
        · split <;> rfl
        · split <;> rfl
      | blocked k r error hrecord hactive hstate hpersistence hlive hconfirmed =>
        rw [hpersistence, hlive, hconfirmed]
        simp only [Option.toList_none, List.map_nil, note_nil]
        let u : LogicThread := { s with persistence := s.persistence.put k (some (r.block error)) }
        refine Touches.follows (k := k) ⟨?_, ?_, ?_, fun id hid => ?_⟩
        · split <;> rfl
        · split <;> rfl
        · refine cast ?_ (@Life.Round.saveFailed s.persistenceEnabled k (s.life k) r error
            hrecord hactive hstate)
          congr 1
          exact ((life_written_back u playerId k).trans (life_put_self s k _ _)).symm
        · exact (life_written_back u playerId id).trans (life_put_other s _ rfl hid)
      | confirmed k r snapshot hrecord htask hactive hstate herrcode hsuccess hanswers
          hpersistence hlive hconfirmed =>
        rw [hpersistence, hlive, hconfirmed]
        generalize hrecord' : (if r.offline ∧ r.queued.isNone then none else some (r.confirm snapshot)) =
          record
        let u : LogicThread := { s with persistence := s.persistence.put k record }
        have hid : snapshot.playerId = k := (hs.keyed k).record r hrecord snapshot (.inl hactive)
        have habout : ∀ e ∈ [ThreadEvent.saveConfirmed taskId result snapshot], e.player = k := by
          simpa [ThreadEvent.player] using hid
        have hheard : ∀ id, id ≠ k → id = playerId →
            (s.life id).actor.map (r.confirmActor result snapshot) = (s.life id).actor := by
          intro id hne _
          cases hactor : (s.life id).actor with
          | none => rfl
          | some p =>
            have hp := ((hs.keyed id).actor p hactor).1
            have hresult : result.playerId = snapshot.playerId := by
              simp only [PlayerPersistence.answers, decide_eq_true_eq] at hanswers
              exact hanswers.1
            refine congrArg some (if_neg fun h => hne ?_)
            rw [← hp, h.1, hresult, hid]
        refine Touches.follows (k := k) ⟨?_, ?_, ?_, fun id hne => ?_⟩
        · split <;> rfl
        · split <;> rfl
        · refine cast ?_ (@Life.Round.saved s.persistenceEnabled k (s.life k) r snapshot
            taskId result (decide (k = playerId)) hrecord hactive hstate htask herrcode hsuccess
            hanswers)
          congr 1
          rw [Option.toList_some, List.map_singleton, life_note_self habout, hrecord']
          refine congrArg (Life.note · _) (.trans ?_ (life_told u playerId _ k).symm)
          rw [life_put_self s k record]
          simp
        · rw [Option.toList_some, List.map_singleton, life_note_other habout hne]
          refine (life_told u playerId _ id).trans ?_
          rw [life_put_other s record rfl hne]
          split
          · rename_i hheard'
            rw [hheard id hne hheard']
          · rfl
    · exact .refl s

end Results

theorem mutate_follows (s : LogicThread) (playerId : Nat) (op : GameOp) :
    Rounds s (s.mutate playerId op) := by
  unfold mutate
  split
  · exact .refl s
  · rename_i p hactor
    refine Touches.follows (k := playerId) ⟨rfl, rfl, ?_, fun id hid => ?_⟩
    · refine cast ?_ (@Life.Round.mutated s.persistenceEnabled playerId
        (s.life playerId) p op hactor)
      congr 1
      simp [life, setPlayer]
    · simp [life, setPlayer, hid]

theorem onPlayerBinding_follows {m : BindingMsg} (h : s.onPlayerBinding env m = some t)
    (hs : s.Orderly) : Moves s t := by
  unfold onPlayerBinding at h
  split at h
  · cases h
    exact .refl s
  · rename_i hvalid
    obtain ⟨hdraining, hvalid⟩ : s.draining = false ∧ m.valid = true := by
      simpa [not_or] using hvalid
    have hid : m.clientBinding.playerId ≠ 0 := by
      simp only [BindingMsg.valid, Gateway.GatewayPlayer.valid, Bool.and_eq_true] at hvalid
      exact (of_decide_eq_true hvalid.1.1.1.2).1
    split at h
    · exact online_follows h hdraining hid
    · split at h
      · exact offline_follows h hs
      · cases h
        exact .refl s

theorem onLogoutReq_follows {playerId session : Nat} {binding : Option ClientData}
    (h : s.onLogoutReq env playerId session binding = some t) (hs : s.Orderly) : Moves s t := by
  unfold onLogoutReq at h
  split at h
  · cases h
    exact .refl s
  · rename_i hloading
    have hload := AList.lookup_eq_none.mpr (not_or.mp hloading).2
    cases hactor : s.players.get playerId with
    | none =>
      rw [hactor] at h
      cases h
      exact .refl s
    | some p =>
      split at h
      · refine logout_follows (s.noted_refl playerId) hactor (fun state hstate => ?_) h hs
        cases hload.symm.trans hstate
      · cases h
        exact .refl s

theorem flushDirtyPlayers_follows (h : s.flushDirtyPlayers env = some t) (hs : s.Orderly) :
    Rounds s t := by
  unfold flushDirtyPlayers at h
  split at h
  · cases h
    exact .refl s
  · rename_i henabled
    have henabled : s.persistenceEnabled = true := by simpa using henabled
    have hround : Follows (Life.Round true) s t := by
      refine fold_follows (fun _ _ _ => .round) (fun u k v hu _ horderly h => ?_) _ henabled rfl hs h
      have hflush := flushPlayer_follows hu h horderly
      rwa [Rounds, hu] at hflush
    rwa [Rounds, henabled]

theorem tick_follows (s : LogicThread) (env : Env) (hs : s.Orderly) : Rounds s (s.tick env) := by
  refine List.foldlRecOn (motive := Rounds s) _ _ (.refl s) fun u hu k _ => ?_
  have hround := tickRecord_follows u env k (hu.moves.orderly hs)
  rw [Rounds, hu.enabled] at hround
  exact hu.trans hround

theorem drainPlayer_follows (hdraining : s.draining = true)
    (h : (s.logoutPlayer env k).map (·.2) = some t) (hs : s.Orderly) : Moves s t := by
  cases hactor : s.players.get k with
  | none =>
    rw [logoutPlayer, hactor] at h
    cases h
    exact .refl s
  | some p =>
    refine logout_follows (s.noted_refl k) hactor (fun state hstate => ?_) h hs
    cases (hs.drained hdraining k).symm.trans hstate

theorem drainRound_follows (hdraining : s.draining = true) (h : s.drainRound env = some t)
    (hs : s.Orderly) : Moves s t := by
  have hmoves : Follows (Life.Move s.persistenceEnabled true) s t := by
    refine fold_follows (fun _ _ _ h => h) (fun u k v henabled hu horderly h => ?_) _ rfl hdraining
      hs h
    have hlogout := drainPlayer_follows hu h horderly
    rwa [Moves, henabled, hu] at hlogout
  rwa [Moves, hdraining]

theorem beginDrain_moves (s : LogicThread) (id : Nat) :
    Relation.ReflTransGen (Life.Move s.persistenceEnabled s.draining id)
      (s.life id) (s.beginDrain.life id) := by
  cases hload : s.playerLoads.lookup id with
  | none =>
    have hlife : s.beginDrain.life id = s.life id := by
      have hid : id ∉ s.playerLoads := AList.lookup_eq_none.mp hload
      simp only [life, beginDrain, PlayerManager.get, Table.lookup_keep, hid, hload]
      cases s.players.actors.lookup id <;> rfl
    rw [hlife]
  | some state =>
    refine .single (cast ?_ (@Life.Move.drained s.persistenceEnabled s.draining id (s.life id)
      state hload))
    congr 1
    have hid : id ∈ s.playerLoads := Table.mem_iff_lookup.mpr ⟨state, hload⟩
    simp [life, beginDrain, PlayerManager.get, hid]

/-- No message about a binding, no logout. -/
def Label.isRound : Label → Bool
  | .advance | .flush | .tick | .dbResult _ _ _ | .mutate _ _ => true
  | _ => false

theorem round_follows {l : Env × Label} (hl : l.2.isRound = true) (h : s.step l = some t)
    (hs : s.Orderly) : Rounds s t := by
  obtain ⟨env, l⟩ := l
  cases l with
  | advance =>
    change (if s.draining then some s else s.advancePlayerLoads env) = some t at h
    split at h
    · cases h
      exact .refl s
    · exact advancePlayerLoads_follows h hs
  | flush =>
    change (if s.draining then some s else s.flushDirtyPlayers env) = some t at h
    split at h
    · cases h
      exact .refl s
    · exact flushDirtyPlayers_follows h hs
  | tick =>
    cases h
    exact tick_follows s env hs
  | dbResult playerId taskId result =>
    cases h
    exact onDbResult_follows playerId taskId result hs
  | mutate playerId op =>
    cases h
    exact mutate_follows s playerId op
  | binding => cases hl
  | logoutReq => cases hl
  | beginDrain => cases hl
  | drain => cases hl

/-- Every step of the thread makes moves with each of its players. -/
theorem step_moves {l : Env × Label} (h : s.step l = some t) (hs : s.Orderly) :
    t.Orderly ∧ t.persistenceEnabled = s.persistenceEnabled ∧
      ∀ id, Relation.ReflTransGen (Life.Move s.persistenceEnabled s.draining id)
        (s.life id) (t.life id) := by
  have hfollows : Moves s t → t.Orderly ∧ t.persistenceEnabled = s.persistenceEnabled ∧
      ∀ id, Relation.ReflTransGen (Life.Move s.persistenceEnabled s.draining id)
        (s.life id) (t.life id) :=
    fun hf => ⟨hf.orderly hs, hf.enabled, hf.moves⟩
  obtain ⟨env, l⟩ := l
  cases l with
  | binding m => exact hfollows (onPlayerBinding_follows h hs)
  | logoutReq playerId session binding => exact hfollows (onLogoutReq_follows h hs)
  | advance => exact hfollows (round_follows (l := (env, .advance)) rfl h hs).moves
  | flush => exact hfollows (round_follows (l := (env, .flush)) rfl h hs).moves
  | tick => exact hfollows (round_follows (l := (env, .tick)) rfl h hs).moves
  | dbResult playerId taskId result =>
    exact hfollows (round_follows (l := (env, .dbResult playerId taskId result)) rfl h hs).moves
  | mutate playerId op =>
    exact hfollows (round_follows (l := (env, .mutate playerId op)) rfl h hs).moves
  | beginDrain =>
    change (if s.draining then some s else some s.beginDrain) = some t at h
    split at h
    · cases h
      exact hfollows (.refl s)
    · cases h
      have hmoves := s.beginDrain_moves
      refine ⟨⟨fun id => ?_, fun _ id => ?_⟩, rfl, hmoves⟩
      · have hmove := hmoves id
        generalize s.beginDrain.life id = l at hmove ⊢
        induction hmove with
        | refl => exact hs.keyed id
        | tail _ hmove ih => exact hmove.keyed ih
      · simp [life, beginDrain]
  | drain =>
    refine hfollows ?_
    change (if s.draining then s.drainRound env else some s) = some t at h
    split at h
    · rename_i hdraining
      exact drainRound_follows hdraining h hs
    · cases h
      exact .refl s

end LogicThread

end Scene
