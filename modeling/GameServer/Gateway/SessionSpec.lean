import GameServer.Gateway.Session

/-!
# What the session table does

Lookup equations of the operations of the session table, and the two facts about
it that every run keeps: sessions stand under their own number, and an epoch is
never ahead of the last one given to its player.
-/

namespace Gateway

namespace ClientSession

@[simp] theorem routed_sessionId (s : ClientSession) (dst : Nat) :
    (s.routed dst).sessionId = s.sessionId := by unfold routed; split <;> rfl

@[simp] theorem routed_conn (s : ClientSession) (dst : Nat) : (s.routed dst).conn = s.conn := by
  unfold routed; split <;> rfl

@[simp] theorem routed_playerId (s : ClientSession) (dst : Nat) :
    (s.routed dst).playerId = s.playerId := by unfold routed; split <;> rfl

@[simp] theorem routed_epoch (s : ClientSession) (dst : Nat) :
    (s.routed dst).epoch = s.epoch := by unfold routed; split <;> rfl

@[simp] theorem routed_authed (s : ClientSession) (dst : Nat) :
    (s.routed dst).authed = s.authed := by unfold routed; split <;> rfl

@[simp] theorem routed_dstService (s : ClientSession) (dst : Nat) :
    (s.routed dst).dstService = dst := by
  unfold routed
  split
  · rfl
  · rename_i h
    exact not_not.mp h

theorem routed_same {s : ClientSession} {dst : Nat} (h : s.dstService = dst) :
    s.routed dst = s := by simp [routed, h]

theorem routed_other {s : ClientSession} {dst : Nat} (h : s.dstService ≠ dst) :
    (s.routed dst).sceneId = 0 ∧ (s.routed dst).sceneConnName = 0 := by simp [routed, h]

end ClientSession

namespace ClientSessionTable

variable {t t' : ClientSessionTable} {sid id p dst kicked : Nat} {s : ClientSession}

theorem get_create (t : ClientSessionTable) (conn : ConnName) (dst id : Nat) :
    (t.create conn dst).2.get id =
      if id = t.nextSessionId then
        some { sessionId := t.nextSessionId, dstService := dst, conn := conn }
      else t.get id := by
  simp [create, get]

theorem get_erase (t : ClientSessionTable) (sid id : Nat) :
    (t.erase sid).get id = if id = sid then none else t.get id := by
  unfold erase
  cases h : t.sessions.lookup sid with
  | none =>
    by_cases hid : id = sid
    · rw [if_pos hid, hid]
      exact h
    · rw [if_neg hid]
  | some s => simp [get]

theorem lastEpoch_erase (t : ClientSessionTable) (sid p : Nat) :
    (t.erase sid).lastEpoch p = t.lastEpoch p := by
  unfold erase
  split <;> rfl

theorem nextSessionId_erase (t : ClientSessionTable) (sid : Nat) :
    (t.erase sid).nextSessionId = t.nextSessionId := by
  unfold erase
  split <;> rfl

/-- The index forgets a player only together with the session it points to. -/
theorem index_erase (t : ClientSessionTable) (sid : Nat) {q id : Nat}
    (h : (t.erase sid).playerIndex.lookup q = some id) :
    t.playerIndex.lookup q = some id ∧
      ∀ s, t.get sid = some s → s.playerId ≠ 0 → q = s.playerId → id ≠ sid := by
  unfold erase at h
  cases hs : t.sessions.lookup sid with
  | none =>
    rw [hs] at h
    exact ⟨h, fun s hget => nomatch hs.symm.trans hget⟩
  | some s =>
    simp only [hs] at h
    split at h
    · rename_i hidx
      rw [Table.lookup_erase] at h
      split at h
      · cases h
      · rename_i hq
        refine ⟨h, fun s' hget _ hq' => absurd ?_ hq⟩
        cases hs.symm.trans hget
        exact hq'
    · rename_i hidx
      refine ⟨h, fun s' hget hne hq heq => hidx ⟨?_, ?_⟩⟩
      · cases hs.symm.trans hget
        exact hne
      · cases hs.symm.trans hget
        rw [← hq, h, heq]

/-- What `Bind` has done when it succeeds. -/
structure Bound (t t' : ClientSessionTable) (sid p dst kicked : Nat) (s : ClientSession) : Prop where
  found : t.get sid = some s
  player : p ≠ 0
  fresh : t.lastEpoch p ≠ uint32Max
  rival : kicked = t.rival sid p
  get : ∀ id, t'.get id =
    if id = sid then some (s.bound p dst (t.lastEpoch p + 1))
    else if kicked ≠ 0 ∧ id = kicked then
      (t.get kicked).map fun old => { old with authed := false, playerId := 0 }
    else t.get id
  index : ∀ q, t'.playerIndex.lookup q = if q = p then some sid else t.playerIndex.lookup q
  lastEpoch : ∀ q, t'.lastEpoch q = if q = p then t.lastEpoch p + 1 else t.lastEpoch q
  next : t'.nextSessionId = t.nextSessionId

theorem bind_spec (h : t.bind sid p dst = some (kicked, t')) : ∃ s, Bound t t' sid p dst kicked s := by
  unfold bind at h
  split at h
  · cases h
  rename_i hp
  cases hs : t.sessions.lookup sid with
  | none => simp [hs] at h
  | some s =>
    simp only [hs] at h
    split at h
    · cases h
    rename_i hfresh
    cases h
    refine ⟨s, hs, hp, hfresh, rfl, fun id => ?_, fun q => ?_, fun q => ?_, rfl⟩
    · simp only [get, Table.lookup_insert]
      by_cases hid : id = sid
      · rw [if_pos hid, if_pos hid]
      rw [if_neg hid, if_neg hid]
      by_cases hk : t.rival sid p = 0
      · simp [hk]
      · simp only [hk, ne_eq, not_false_eq_true, if_true, true_and, degrade]
        cases hold : t.sessions.lookup (t.rival sid p) with
        | none =>
          by_cases heq : id = t.rival sid p
          · rw [heq, hold]
            simp
          · simp [heq]
        | some old =>
          rw [Table.lookup_insert]
          by_cases heq : id = t.rival sid p <;> simp [heq]
    · simp only [Table.lookup_insert]
    · simp only [ClientSessionTable.lastEpoch, Table.lookup_insert]
      split <;> rfl

theorem rival_ne (h : t.rival sid p ≠ 0) : t.rival sid p ≠ sid := by
  unfold rival at h ⊢
  split at h
  · split at h
    · rename_i hne
      simp [hne]
    · exact absurd rfl h
  · exact absurd rfl h

/-- The session that gave way is gone when the login is over. -/
theorem Bound.get_kicked (h : Bound t t' sid p dst kicked s) (id : Nat) :
    (if kicked = 0 then t' else t'.erase kicked).get id =
      if id = sid then some (s.bound p dst (t.lastEpoch p + 1))
      else if kicked ≠ 0 ∧ id = kicked then none
      else t.get id := by
  by_cases hk : kicked = 0
  · rw [if_pos hk, h.get]
    simp [hk]
  · have hne : kicked ≠ sid := by
      rw [h.rival] at hk ⊢
      exact rival_ne hk
    rw [if_neg hk, get_erase, h.get]
    by_cases hid : id = kicked
    · rw [if_pos hid, hid, if_neg hne, if_pos ⟨hk, rfl⟩]
    · simp [hid]

/-- What `SetDstService` has done when it succeeds. -/
structure Switched (t t' : ClientSessionTable) (sid dst : Nat) (s s' : ClientSession) : Prop where
  found : t.get sid = some s
  get : ∀ id, t'.get id = if id = sid then some s' else t.get id
  index : t'.playerIndex = t.playerIndex
  next : t'.nextSessionId = t.nextSessionId
  same : s.dstService = dst → s' = s ∧ t' = t
  changed : s.dstService ≠ dst → s' = { s.routed dst with
    epoch := if s.authed then t.lastEpoch s.playerId + 1 else s.epoch
    sceneOnlineSubmitted := false }
  lastEpoch : ∀ q, t'.lastEpoch q =
    if q = s.playerId ∧ s.authed ∧ s.dstService ≠ dst then t.lastEpoch q + 1 else t.lastEpoch q
  fresh : s.dstService ≠ dst → s.authed = true → t.lastEpoch s.playerId ≠ uint32Max

theorem setDstService_spec (h : t.setDstService sid dst = some t') :
    ∃ s s', Switched t t' sid dst s s' := by
  unfold setDstService at h
  cases hs : t.sessions.lookup sid with
  | none => simp [hs] at h
  | some s =>
    simp only [hs] at h
    split at h
    · rename_i hsame
      cases h
      refine ⟨s, s, hs, fun id => ?_, rfl, rfl, fun _ => ⟨rfl, rfl⟩, fun hne => absurd hsame hne,
        fun q => by simp [hsame], fun hne => absurd hsame hne⟩
      split
      · rename_i hid
        rw [hid]
        exact hs
      · rfl
    rename_i hne
    split at h
    · rename_i hauth
      split at h
      · cases h
      rename_i hfresh
      cases h
      refine ⟨s, _, hs, fun id => Table.lookup_insert _ _ _ _, rfl, rfl,
        fun heq => absurd heq hne, fun _ => by simp [hauth], fun q => ?_, fun _ _ => hfresh⟩
      simp only [ClientSessionTable.lastEpoch, Table.lookup_insert]
      by_cases hq : q = s.playerId
      · rw [if_pos hq, if_pos ⟨hq, hauth, hne⟩, hq]
        rfl
      · simp [hq]
    · rename_i hauth
      cases h
      refine ⟨s, _, hs, fun id => Table.lookup_insert _ _ _ _, rfl, rfl,
        fun heq => absurd heq hne, fun _ => ?_, fun q => ?_, fun _ hyes => absurd hyes hauth⟩
      · simp [hauth]
      · rw [if_neg fun hq => hauth hq.2.1]
        rfl

/-- `SetSceneBinding` gives a scene to a session that has none, or changes nothing. -/
theorem setSceneBinding_cases (t : ClientSessionTable) (sid sceneId channelId incarnation : Nat)
    (connName : ConnName) :
    t.setSceneBinding sid sceneId channelId incarnation connName = t ∨
      (sceneId ≠ 0 ∧ incarnation ≠ 0 ∧ connName ≠ 0 ∧ ∃ s, t.get sid = some s ∧ s.authed = true ∧
        s.dstService = ServerID.kScene ∧ s.sceneId = 0 ∧
        t.setSceneBinding sid sceneId channelId incarnation connName =
          { t with
            sessions := t.sessions.insert sid
              { s with
                sceneId := sceneId
                backendChannelId := channelId
                sceneIncarnation := incarnation
                sceneConnName := connName } }) := by
  unfold setSceneBinding
  split
  · exact .inl rfl
  rename_i hz
  simp only [not_or] at hz
  cases hs : t.sessions.lookup sid with
  | none => exact .inl rfl
  | some s =>
    simp only
    split
    · exact .inl rfl
    rename_i hok
    simp only [not_or, Bool.not_eq_true', Bool.not_eq_false, not_not, ne_eq] at hok
    exact .inr ⟨hz.1, hz.2.1, hz.2.2, s, hs, hok.1, hok.2.1, hok.2.2, rfl⟩

theorem nextSessionId_setSceneBinding (t : ClientSessionTable)
    (sid sceneId channelId incarnation : Nat) (connName : ConnName) :
    (t.setSceneBinding sid sceneId channelId incarnation connName).nextSessionId =
      t.nextSessionId := by
  rcases t.setSceneBinding_cases sid sceneId channelId incarnation connName with
    heq | ⟨_, _, _, _, _, _, _, _, heq⟩ <;> rw [heq]

/-- What `SubmitScene` has done when it succeeds. -/
theorem submitScene_spec {α : Type} {expected : ClientSession} {submit : Bool → Option α} {out : α}
    (h : t.submitScene expected submit = some (out, t')) :
    ∃ s, t.get expected.sessionId = some s ∧ current s expected = true ∧
      submit (!s.sceneOnlineSubmitted) = some out ∧
      t' = { t with
        sessions := t.sessions.insert expected.sessionId
          { s with sceneOnlineSubmitted := true } } := by
  unfold submitScene at h
  cases hs : t.sessions.lookup expected.sessionId with
  | none => simp [hs] at h
  | some s =>
    simp only [hs] at h
    split at h
    · rename_i hcur
      obtain ⟨out', hout, heq⟩ := Option.map_eq_some_iff.mp h
      cases heq
      exact ⟨s, hs, hcur, hout, rfl⟩
    · cases h

/-- The table is well formed. -/
structure Sane (t : ClientSessionTable) : Prop where
  key : ∀ sid s, t.get sid = some s → s.sessionId = sid ∧ 0 < sid ∧ sid < t.nextSessionId
  epoch : ∀ sid s, t.get sid = some s → s.authed = true →
    s.playerId ≠ 0 ∧ 0 < s.epoch ∧ s.epoch ≤ t.lastEpoch s.playerId
  scene : ∀ sid s, t.get sid = some s → s.sceneConnName ≠ 0 ∨ s.sceneId ≠ 0 →
    s.dstService = ServerID.kScene ∧ s.sceneId ≠ 0 ∧ s.sceneConnName ≠ 0 ∧ s.sceneIncarnation ≠ 0
  next : 0 < t.nextSessionId
  index : ∀ p sid, t.playerIndex.lookup p = some sid → 0 < sid

theorem sane_init : Sane {} where
  key := by simp [get]
  epoch := by simp [get]
  scene := by simp [get]
  next := Nat.zero_lt_one
  index := by simp

/-- A session may change its scene or its declaration. -/
theorem Sane.replace (h : Sane t) {s' : ClientSession} (hs : t.get sid = some s)
    (hid : s'.sessionId = s.sessionId) (hauthed : s'.authed = s.authed)
    (hplayer : s'.playerId = s.playerId) (hepoch : s'.epoch = s.epoch)
    (hscene : s'.sceneConnName ≠ 0 ∨ s'.sceneId ≠ 0 → s'.dstService = ServerID.kScene ∧
      s'.sceneId ≠ 0 ∧ s'.sceneConnName ≠ 0 ∧ s'.sceneIncarnation ≠ 0) :
    Sane { t with sessions := t.sessions.insert sid s' } where
  key := fun id x hx => by
    simp only [get, Table.lookup_insert] at hx
    split at hx
    · rename_i heq
      cases hx
      rw [hid, heq]
      exact h.key sid s hs
    · exact h.key id x hx
  epoch := fun id x hx ha => by
    simp only [get, Table.lookup_insert] at hx
    split at hx
    · cases hx
      rw [hplayer, hepoch]
      exact h.epoch sid s hs (hauthed ▸ ha)
    · exact h.epoch id x hx ha
  scene := fun id x hx hne => by
    simp only [get, Table.lookup_insert] at hx
    split at hx
    · cases hx
      exact hscene hne
    · exact h.scene id x hx hne
  next := h.next
  index := h.index

theorem Sane.create (h : Sane t) (conn : ConnName) (dst : Nat) : Sane (t.create conn dst).2 where
  key := fun id s hs => by
    show _ ∧ _ ∧ id < t.nextSessionId + 1
    rw [get_create] at hs
    split at hs
    · rename_i hid
      cases hs
      exact ⟨hid.symm, hid ▸ h.next, hid ▸ Nat.lt_succ_self _⟩
    · obtain ⟨hkey, hpos, hlt⟩ := h.key id s hs
      exact ⟨hkey, hpos, Nat.lt_succ_of_lt hlt⟩
  epoch := fun id s hs ha => by
    rw [get_create] at hs
    split at hs
    · cases hs
      cases ha
    · exact h.epoch id s hs ha
  scene := fun id s hs hne => by
    rw [get_create] at hs
    split at hs
    · cases hs
      simp at hne
    · exact h.scene id s hs hne
  next := Nat.succ_pos _
  index := h.index

theorem Sane.erase (h : Sane t) (sid : Nat) : Sane (t.erase sid) where
  key := fun id s hs => by
    rw [get_erase] at hs
    split at hs
    · cases hs
    · rw [nextSessionId_erase]
      exact h.key id s hs
  epoch := fun id s hs ha => by
    rw [get_erase] at hs
    split at hs
    · cases hs
    · rw [lastEpoch_erase]
      exact h.epoch id s hs ha
  scene := fun id s hs hne => by
    rw [get_erase] at hs
    split at hs
    · cases hs
    · exact h.scene id s hs hne
  next := by
    rw [nextSessionId_erase]
    exact h.next
  index := fun p id hidx => h.index p id (index_erase t sid hidx).1

theorem Bound.sane (h : Bound t t' sid p dst kicked s) (hsane : Sane t) : Sane t' where
  key := fun id s' hs => by
    rw [h.next]
    rw [h.get] at hs
    split at hs
    · rename_i hid
      cases hs
      rw [hid]
      simpa [ClientSession.bound] using hsane.key sid s h.found
    split at hs
    · rename_i hid
      obtain ⟨old, hold, rfl⟩ := Option.map_eq_some_iff.mp hs
      rw [hid.2]
      exact hsane.key kicked old hold
    · exact hsane.key id s' hs
  epoch := fun id s' hs ha => by
    rw [h.get] at hs
    rw [h.lastEpoch]
    split at hs
    · cases hs
      simp [ClientSession.bound, h.player]
    split at hs
    · obtain ⟨old, hold, rfl⟩ := Option.map_eq_some_iff.mp hs
      cases ha
    · obtain ⟨hne, hpos, hle⟩ := hsane.epoch id s' hs ha
      refine ⟨hne, hpos, ?_⟩
      split
      · rename_i hp
        rw [hp] at hle
        exact Nat.le_succ_of_le hle
      · exact hle
  scene := fun id s' hs hne => by
    rw [h.get] at hs
    split at hs
    · cases hs
      by_cases hdst : s.dstService = dst
      · have hs := hsane.scene sid s h.found
        simp only [ClientSession.bound, ClientSession.routed_same hdst] at hne ⊢
        exact hs hne
      · have hnone := ClientSession.routed_other hdst
        simp [ClientSession.bound, hnone] at hne
    split at hs
    · obtain ⟨old, hold, rfl⟩ := Option.map_eq_some_iff.mp hs
      exact hsane.scene kicked old hold hne
    · exact hsane.scene id s' hs hne
  next := h.next ▸ hsane.next
  index := fun q id hidx => by
    rw [h.index] at hidx
    split at hidx
    · cases hidx
      exact (hsane.key _ s h.found).2.1
    · exact hsane.index q id hidx

theorem Switched.sane {s' : ClientSession} (h : Switched t t' sid dst s s') (hsane : Sane t) :
    Sane t' := by
  by_cases hdst : s.dstService = dst
  · rw [(h.same hdst).2]
    exact hsane
  have hs' := h.changed hdst
  exact
    { key := fun id s'' hs => by
        rw [h.next]
        rw [h.get] at hs
        split at hs
        · rename_i hid
          cases hs
          rw [hid, hs']
          simpa using hsane.key sid s h.found
        · exact hsane.key id s'' hs
      epoch := fun id s'' hs ha => by
        rw [h.get] at hs
        rw [h.lastEpoch]
        split at hs
        · cases hs
          rw [hs'] at ha ⊢
          simp only [ClientSession.routed_authed] at ha
          simp [ha, hdst, (hsane.epoch sid s h.found ha).1]
        · obtain ⟨hne, hpos, hle⟩ := hsane.epoch id s'' hs ha
          refine ⟨hne, hpos, ?_⟩
          split
          · exact Nat.le_succ_of_le hle
          · exact hle
      scene := fun id s'' hs hne => by
        rw [h.get] at hs
        split at hs
        · cases hs
          have hnone := ClientSession.routed_other hdst
          simp [hs', hnone] at hne
        · exact hsane.scene id s'' hs hne
      next := h.next ▸ hsane.next
      index := h.index ▸ hsane.index }

theorem Sane.setSceneBinding (h : Sane t) (sid sceneId channelId incarnation : Nat)
    (connName : ConnName) :
    Sane (t.setSceneBinding sid sceneId channelId incarnation connName) := by
  rcases t.setSceneBinding_cases sid sceneId channelId incarnation connName with
    heq | ⟨hscene, hinc, hconn, s, hs, _, hdst, _, heq⟩
  · rw [heq]
    exact h
  · rw [heq]
    exact h.replace hs rfl rfl rfl rfl fun _ => ⟨hdst, hscene, hconn, hinc⟩

end ClientSessionTable

namespace ReturnRouteTable

variable {t : ReturnRouteTable} {sid seq k : Nat} {r : ReturnRoute}

theorem of_eraseBySession (h : (t.eraseBySession sid).lookup seq = some r) :
    t.lookup seq = some r ∧ r.clientSessionId ≠ sid := by
  rw [eraseBySession, Table.lookup_keep, Option.filter_eq_some_iff] at h
  simpa using h

theorem of_erase (h : (t.erase k).lookup seq = some r) : t.lookup seq = some r ∧ seq ≠ k := by
  rw [Table.lookup_erase] at h
  split at h
  · cases h
  · rename_i hne
    exact ⟨h, hne⟩

end ReturnRouteTable

end Gateway
