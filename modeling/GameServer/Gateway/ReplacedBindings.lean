import GameServer.Gateway.BindingEpochs

/-!
# The bindings that were replaced

A player's binding is named by its last epoch. A login gives the session, and a change of
service the player, another one: the bindings that the session and the player had are replaced.
Of the epochs that a player was given, all but the last are replaced; if the last is not, the
player's index entry still points to no session of another player.
-/

namespace Gateway

namespace ClientSessionTable

variable {t t' t'' : ClientSessionTable} {sid p dst kicked : Nat} {s s' : ClientSession}

/-- Sessions open and change, but none gets another player or another epoch. -/
structure Same (t t' : ClientSessionTable) : Prop where
  index : t'.playerIndex = t.playerIndex
  lastEpoch : ∀ p, t'.lastEpoch p = t.lastEpoch p
  next : t.nextSessionId ≤ t'.nextSessionId
  old : ∀ id s, t.get id = some s →
    ∃ s', t'.get id = some s' ∧ s'.playerId = s.playerId ∧ s'.epoch = s.epoch
  new : ∀ id s', t.get id = none → t'.get id = some s' → t.nextSessionId ≤ id ∧ s'.playerId = 0

theorem Same.refl (t : ClientSessionTable) : Same t t where
  index := rfl
  lastEpoch := fun _ => rfl
  next := le_rfl
  old := fun _ s hs => ⟨s, hs, rfl, rfl⟩
  new := fun _ _ hnone hs => nomatch hnone.symm.trans hs

/-- A session that is there had its player and its epoch before, or has no player. -/
theorem Same.session (h : Same t t') {id : Nat} (hs' : t'.get id = some s') :
    (∃ s, t.get id = some s ∧ s'.playerId = s.playerId ∧ s'.epoch = s.epoch) ∨
      t.nextSessionId ≤ id ∧ s'.playerId = 0 := by
  cases hs : t.get id with
  | none => exact .inr (h.new id s' hs hs')
  | some s =>
    obtain ⟨x, hx, hplayer, hepoch⟩ := h.old id s hs
    cases hs'.symm.trans hx
    exact .inl ⟨s, rfl, hplayer, hepoch⟩

theorem Same.trans (h : Same t t') (h' : Same t' t'') : Same t t'' where
  index := h'.index.trans h.index
  lastEpoch := fun p => (h'.lastEpoch p).trans (h.lastEpoch p)
  next := h.next.trans h'.next
  old := fun id s hs => by
    obtain ⟨x, hx, hplayer, hepoch⟩ := h.old id s hs
    obtain ⟨y, hy, hplayer', hepoch'⟩ := h'.old id x hx
    exact ⟨y, hy, hplayer'.trans hplayer, hepoch'.trans hepoch⟩
  new := fun id y hnone hy => by
    rcases h'.session hy with ⟨x, hx, hplayer, -⟩ | ⟨hid, hplayer⟩
    · obtain ⟨hid, hzero⟩ := h.new id x hnone hx
      exact ⟨hid, hplayer.trans hzero⟩
    · exact ⟨h.next.trans hid, hplayer⟩

/-- A session may change everything but its player and its epoch. -/
theorem Same.replace (hs : t.get sid = some s)
    (hget : ∀ id, t'.get id = if id = sid then some s' else t.get id)
    (hindex : t'.playerIndex = t.playerIndex) (hlast : ∀ q, t'.lastEpoch q = t.lastEpoch q)
    (hnext : t'.nextSessionId = t.nextSessionId) (hplayer : s'.playerId = s.playerId)
    (hepoch : s'.epoch = s.epoch) : Same t t' where
  index := hindex
  lastEpoch := hlast
  next := hnext.ge
  old := fun id x hx => by
    rw [hget]
    split
    · rename_i hid
      cases hs.symm.trans (hid ▸ hx)
      exact ⟨s', rfl, hplayer, hepoch⟩
    · exact ⟨x, hx, rfl, rfl⟩
  new := fun id x hnone hx => by
    rw [hget] at hx
    split at hx
    · rename_i hid
      cases hs.symm.trans (hid ▸ hnone)
    · cases hnone.symm.trans hx

/-- `replaced` has the bindings of players that were replaced. -/
structure Succession (replaced : List (Nat × Nat)) (t : ClientSessionTable) : Prop where
  known : ∀ p id, t.playerIndex.lookup p = some id → id < t.nextSessionId
  earlier : ∀ p e, p ≠ 0 → e < t.lastEpoch p → (p, e) ∈ replaced
  seat : ∀ p id s, (p, t.lastEpoch p) ∉ replaced → t.playerIndex.lookup p = some id →
    t.get id = some s → s.playerId = p
  past : ∀ p e, (p, e) ∈ replaced → p ≠ 0 → e ≤ t.lastEpoch p ∧
    ∀ id s, t.get id = some s → s.playerId = p → e < s.epoch

variable {replaced : List (Nat × Nat)}

theorem succession_init : Succession [] {} where
  known := by simp
  earlier := by simp [lastEpoch]
  seat := by simp
  past := nofun

theorem Succession.same (h : Succession replaced t) (hsame : Same t t') : Succession replaced t' where
  known := fun p id hidx => (h.known p id (hsame.index ▸ hidx)).trans_le hsame.next
  earlier := fun p e hp he => h.earlier p e hp (hsame.lastEpoch p ▸ he)
  seat := fun p id s' hnot hidx hs' => by
    rw [hsame.lastEpoch] at hnot
    rw [hsame.index] at hidx
    rcases hsame.session hs' with ⟨s, hs, hplayer, -⟩ | ⟨hid, -⟩
    · exact hplayer.trans (h.seat p id s hnot hidx hs)
    · exact absurd (h.known p id hidx) (Nat.not_lt.mpr hid)
  past := fun p e hmem hp => by
    obtain ⟨hle, hsessions⟩ := h.past p e hmem hp
    refine ⟨hsame.lastEpoch p ▸ hle, fun id s' hs' hplayer => ?_⟩
    rcases hsame.session hs' with ⟨s, hs, hsamePlayer, hepoch⟩ | ⟨-, hzero⟩
    · exact hepoch ▸ hsessions id s hs (hsamePlayer.symm.trans hplayer)
    · exact absurd (hplayer.symm.trans hzero) hp

theorem Succession.erase (h : Succession replaced t) (sid : Nat) :
    Succession replaced (t.erase sid) := by
  have hget : ∀ {id s}, (t.erase sid).get id = some s → id ≠ sid ∧ t.get id = some s := by
    intro id s hs
    rw [get_erase] at hs
    split at hs
    · cases hs
    · rename_i hid
      exact ⟨hid, hs⟩
  refine ⟨fun p id hidx => ?_, fun p e hp he => ?_, fun p id s hnot hidx hs => ?_,
    fun p e hmem hp => ?_⟩
  · rw [nextSessionId_erase]
    exact h.known p id (index_erase t sid hidx).1
  · exact h.earlier p e hp (lastEpoch_erase t sid p ▸ he)
  · rw [lastEpoch_erase] at hnot
    exact h.seat p id s hnot (index_erase t sid hidx).1 (hget hs).2
  · rw [lastEpoch_erase]
    obtain ⟨hle, hsessions⟩ := h.past p e hmem hp
    exact ⟨hle, fun id s hs => hsessions id s (hget hs).2⟩

/-- The bindings of the players, as they are now. -/
def bindingsOf (t : ClientSessionTable) (players : List Nat) : List (Nat × Nat) :=
  players.map fun p => (p, t.lastEpoch p)

theorem mem_bindingsOf {players : List Nat} {q e : Nat} :
    (q, e) ∈ t.bindingsOf players ↔ q ∈ players ∧ e = t.lastEpoch q := by
  simp only [bindingsOf, List.mem_map, Prod.mk.injEq]
  constructor
  · rintro ⟨p, hp, rfl, rfl⟩
    exact ⟨hp, rfl⟩
  · rintro ⟨hq, rfl⟩
    exact ⟨q, hq, rfl, rfl⟩

/-- A session gets a binding of the player `p` under a new epoch. `hothers` is about the other
sessions: they are as they were, and none of them has one of the players. -/
theorem Succession.renewed (h : Succession replaced t) {old new : ClientSession} {sid p : Nat}
    (hold : t.get sid = some old) (hnew : t'.get sid = some new) (hplayer : new.playerId = p)
    (hepoch : new.epoch = t.lastEpoch p + 1)
    (hothers : ∀ id s, t'.get id = some s → id ≠ sid →
      t.get id = some s ∧ (s.playerId ≠ 0 → s.playerId ≠ p ∧ s.playerId ≠ old.playerId))
    (hindex : ∀ q id, t'.playerIndex.lookup q = some id →
      if q = p then id = sid else t.playerIndex.lookup q = some id)
    (hlast : ∀ q, t'.lastEpoch q = if q = p then t.lastEpoch p + 1 else t.lastEpoch q)
    (hnext : t'.nextSessionId = t.nextSessionId) (hsid : sid < t.nextSessionId) :
    Succession (replaced ++ t.bindingsOf [old.playerId, p]) t' := by
  have hgrows : ∀ q, t.lastEpoch q ≤ t'.lastEpoch q := by
    intro q
    rw [hlast]
    split
    · rename_i hq
      rw [hq]
      exact Nat.le_succ _
    · exact le_rfl
  refine ⟨fun q id hidx => ?_, fun q e hq he => ?_, fun q id s hnot hidx hs => ?_,
    fun q e hmem hq => ?_⟩
  · have hwhere := hindex q id hidx
    rw [hnext]
    split at hwhere
    · exact hwhere ▸ hsid
    · exact h.known q id hwhere
  · rw [hlast] at he
    split at he
    · rename_i hqp
      rcases Nat.lt_succ_iff_lt_or_eq.mp he with hlt | heq
      · exact List.mem_append_left _ (h.earlier q e hq (hqp ▸ hlt))
      · exact List.mem_append_right _ (mem_bindingsOf.mpr ⟨by simp [hqp], by rw [heq, hqp]⟩)
    · exact List.mem_append_left _ (h.earlier q e hq he)
  · have hwhere := hindex q id hidx
    split at hwhere
    · rename_i hqp
      cases hnew.symm.trans (hwhere ▸ hs)
      exact hplayer.trans hqp.symm
    · rename_i hqp
      rw [hlast, if_neg hqp, List.mem_append, not_or] at hnot
      by_cases hid : id = sid
      · -- the entry of a player whose session is another player's now
        have hsame := h.seat q sid old hnot.1 (hid ▸ hwhere) hold
        exact absurd (mem_bindingsOf.mpr ⟨by simp [hsame], rfl⟩) hnot.2
      · exact h.seat q id s hnot.1 hwhere (hothers id s hs hid).1
  · rcases List.mem_append.mp hmem with hmem | hmem
    · obtain ⟨hle, hsessions⟩ := h.past q e hmem hq
      refine ⟨hle.trans (hgrows q), fun id s hs hsame => ?_⟩
      by_cases hid : id = sid
      · cases hnew.symm.trans (hid ▸ hs)
        rw [hepoch, ← hplayer, hsame]
        exact Nat.lt_succ_of_le hle
      · exact hsessions id s (hothers id s hs hid).1 hsame
    · obtain ⟨hwho, rfl⟩ := mem_bindingsOf.mp hmem
      refine ⟨hgrows q, fun id s hs hsame => ?_⟩
      by_cases hid : id = sid
      · cases hnew.symm.trans (hid ▸ hs)
        rw [hepoch, ← hplayer, hsame]
        exact Nat.lt_succ_self _
      · obtain ⟨hnotP, hnotOld⟩ := (hothers id s hs hid).2 (hsame ▸ hq)
        rcases List.mem_cons.mp hwho with hwho | hwho
        · exact absurd (hsame.trans hwho) hnotOld
        · exact absurd (hsame.trans (List.mem_singleton.mp hwho)) hnotP

theorem Bound.succession (hb : Bound t t' sid p dst kicked s) (hsane : Sane t) (hseated : Seated t)
    (h : Succession replaced t) :
    Succession (replaced ++ t.bindingsOf [s.playerId, p])
      (if kicked = 0 then t' else t'.erase kicked) := by
  have hget := hb.get_kicked
  have hnew := hget sid
  rw [if_pos rfl] at hnew
  have hindex : ∀ q id, (if kicked = 0 then t' else t'.erase kicked).playerIndex.lookup q = some id →
      t'.playerIndex.lookup q = some id := by
    intro q id hidx
    split at hidx
    · exact hidx
    · exact (index_erase t' kicked hidx).1
  refine h.renewed hb.found hnew rfl rfl (fun id x hx hid => ?_) (fun q id hidx => ?_) (fun q => ?_)
    ?_ (hsane.key sid s hb.found).2.2
  · rw [hget, if_neg hid] at hx
    split at hx
    · cases hx
    rename_i hkicked
    refine ⟨hx, fun hne => ⟨fun hxp => ?_, fun hxs => ?_⟩⟩
    · -- the session that had the player is the one that gives way
      have hrival : kicked = id := by
        rw [hb.rival]
        unfold ClientSessionTable.rival
        have hidx := (hseated id x hx hne).1
        rw [show x.playerId = p from hxp] at hidx
        rw [hidx]
        exact if_pos hid
      have hpos := (hsane.key id x hx).2.1
      exact hkicked ⟨by omega, hrival.symm⟩
    · have hself := (hseated sid s hb.found (hxs ▸ hne)).1
      have hother := (hseated id x hx hne).1
      rw [hxs] at hother
      exact hid (Option.some.inj (hother.symm.trans hself))
  · have hidx := hindex q id hidx
    rw [hb.index] at hidx
    show if q = p then _ else _
    split at hidx
    · rename_i hq
      rw [if_pos hq]
      exact (Option.some.inj hidx).symm
    · rename_i hq
      rw [if_neg hq]
      exact hidx
  · show _ = if q = p then t.lastEpoch p + 1 else t.lastEpoch q
    rw [← hb.lastEpoch]
    split
    · rfl
    · exact lastEpoch_erase _ _ _
  · split
    · exact hb.next
    · exact (nextSessionId_erase _ _).trans hb.next

theorem Switched.succession (hsw : Switched t t' sid dst s s') (hsane : Sane t) (hseated : Seated t)
    (hauthed : s.authed = true) (hne : s.dstService ≠ dst) (h : Succession replaced t) :
    Succession (replaced ++ t.bindingsOf [s.playerId, s'.playerId]) t' := by
  have hs' := hsw.changed hne
  have hplayer : s'.playerId = s.playerId := by simp [hs']
  have hepoch : s'.epoch = t.lastEpoch s.playerId + 1 := by simp [hs', hauthed]
  have hnew := hsw.get sid
  rw [if_pos rfl] at hnew
  have hidx := (hseated sid s hsw.found (hsane.epoch sid s hsw.found hauthed).1).1
  rw [hplayer]
  refine h.renewed hsw.found hnew hplayer hepoch (fun id x hx hid => ?_) (fun q id hq => ?_)
    (fun q => ?_) hsw.next (hsane.key sid s hsw.found).2.2
  · rw [hsw.get, if_neg hid] at hx
    have hother : x.playerId ≠ 0 → x.playerId ≠ s.playerId := by
      intro hzero hxs
      have hwhere := (hseated id x hx hzero).1
      rw [hxs, hidx] at hwhere
      exact hid (Option.some.inj hwhere).symm
    exact ⟨hx, fun hzero => ⟨hother hzero, hother hzero⟩⟩
  · rw [hsw.index] at hq
    split
    · rename_i hqs
      rw [hqs, hidx] at hq
      exact (Option.some.inj hq).symm
    · exact hq
  · rw [hsw.lastEpoch]
    by_cases hq : q = s.playerId
    · rw [if_pos ⟨hq, hauthed, hne⟩, if_pos hq, hq]
    · rw [if_neg fun hall => hq hall.1, if_neg hq]

/-- A player's binding that was not replaced is the player's last, and the session in the player's
place has not been given to another player. -/
theorem Succession.current (h : Succession replaced t) {e : Nat} (hp : p ≠ 0)
    (he : e ≤ t.lastEpoch p) (hnot : (p, e) ∉ replaced) :
    e = t.lastEpoch p ∧ ∀ s, t.findByPlayer p = some s → s.playerId = p := by
  have heq : e = t.lastEpoch p := he.eq_or_lt.resolve_right fun hlt => hnot (h.earlier p e hp hlt)
  refine ⟨heq, fun s hs => ?_⟩
  unfold findByPlayer at hs
  rw [if_neg hp] at hs
  obtain ⟨id, hidx, hget⟩ := Option.bind_eq_some_iff.mp hs
  exact h.seat p id s (heq ▸ hnot) hidx hget

/-- No session has a binding that was replaced. -/
theorem Succession.replaced_ne (h : Succession replaced t) (hp : p ≠ 0) {e id : Nat}
    (hmem : (p, e) ∈ replaced) (hs : t.get id = some s) (hplayer : s.playerId = p) : s.epoch ≠ e :=
  Nat.ne_of_gt ((h.past p e hmem hp).2 id s hs hplayer)

end ClientSessionTable

namespace GatewayDispatcher

open ClientSessionTable (Same Seated Succession)

variable {cfg : DispatcherConfig} {g g' : GatewayDispatcher} {replaced : List (Nat × Nat)}

/-- The bindings that a step replaces: the session that its frame came from has another one now.
They are those that its player had and that its new player had. -/
def replacedBy (g g' : GatewayDispatcher) : Step → List (Nat × Nat)
  | .clientFrame sid _ _ _ =>
    match g.sessions.get sid, g'.sessions.get sid with
    | some old, some new =>
      if new.playerId = old.playerId ∧ new.epoch = old.epoch then []
      else g.sessions.bindingsOf [old.playerId, new.playerId]
    | _, _ => []
  | _ => []

theorem replacedBy_same {l : Step} (h : Same g.sessions g'.sessions) : replacedBy g g' l = [] := by
  cases l with
  | clientFrame sid hd body nowMs =>
    dsimp only [replacedBy]
    split
    · rename_i old new hold hnew
      obtain ⟨x, hx, hplayer, hepoch⟩ := h.old sid old hold
      cases hnew.symm.trans hx
      exact if_pos ⟨hplayer, hepoch⟩
    · rfl
  | _ => rfl

/-- What comes after the large effect of a step replaces nothing more. -/
theorem replacedBy_clientFrame {g₁ : GatewayDispatcher} (h : Same g₁.sessions g'.sessions) {sid : Nat}
    {hd : ClientHeader} {body : Bytes} {nowMs : Int} {old new : ClientSession}
    (hold : g.sessions.get sid = some old) (hnew : g₁.sessions.get sid = some new)
    (hne : ¬ (new.playerId = old.playerId ∧ new.epoch = old.epoch)) :
    replacedBy g g' (.clientFrame sid hd body nowMs) =
      g.sessions.bindingsOf [old.playerId, new.playerId] := by
  obtain ⟨x, hx, hplayer, hepoch⟩ := h.old sid new hnew
  dsimp only [replacedBy]
  rw [hold, hx]
  dsimp only
  rw [hplayer, hepoch, if_neg hne]

theorem Effect.same (heff : Effect cfg g g') (hsane : g.sessions.Sane) :
    Same g.sessions g'.sessions := by
  cases heff with
  | opened =>
    have hfresh : ∀ s, g.sessions.get g.sessions.nextSessionId ≠ some s := fun s hs =>
      Nat.lt_irrefl _ (hsane.key _ s hs).2.2
    refine ⟨rfl, fun _ => rfl, Nat.le_succ _, fun id s hs => ?_, fun id s hnone hs => ?_⟩
    · refine ⟨s, ?_, rfl, rfl⟩
      rw [ClientSessionTable.get_create, if_neg]
      · exact hs
      · rintro rfl
        exact hfresh s hs
    · rw [ClientSessionTable.get_create] at hs
      split at hs
      · rename_i hid
        cases hs
        exact ⟨hid.ge, rfl⟩
      · cases hnone.symm.trans hs
  | assigned sid sceneId channelId incarnation conn =>
    rcases g.sessions.setSceneBinding_cases sid sceneId channelId incarnation conn with
      heq | ⟨_, _, _, s, hs, _, _, _, heq⟩
    · simp only [heq]
      exact .refl _
    · simp only [heq]
      exact .replace hs (fun id => Table.lookup_insert _ _ _ _) rfl (fun _ => rfl) rfl rfl rfl
  | declared conn sub rest s hnext hready honline hs hcur =>
    exact .replace hs (fun id => Table.lookup_insert _ _ _ _) rfl (fun _ => rfl) rfl rfl rfl
  | swept nowMs =>
    rw [sweepRoutes_eq]
    exact .refl _
  | _ => exact .refl _

theorem Effects.same (heff : Effects cfg g g') (hsane : Sane cfg g) :
    Same g.sessions g'.sessions := by
  induction heff with
  | refl => exact .refl _
  | tail hbefore hlast ih => exact ih.trans (hlast.same (Effects.sane hbefore hsane).sessions)

/-- A step notes the bindings that it replaces. -/
theorem succession_step {l : Step} (hsane : Sane cfg g) (hseated : Seated g.sessions)
    (hstep : step cfg g l = some g') (h : Succession replaced g.sessions) :
    Succession (replaced ++ replacedBy g g' l) g'.sessions := by
  rcases step_cases hsane hstep with heff | ⟨g₁, hmaj, heff⟩
  · have hsame := Effects.same heff hsane
    rw [replacedBy_same hsame, List.append_nil]
    exact h.same hsame
  have hsame := Effects.same heff (hmaj.sane hsane)
  refine Succession.same ?_ hsame
  cases hmaj with
  | closed sid hconn =>
    rw [onClientClosed_eq]
    simp only [replacedBy, List.append_nil]
    exact h.erase sid
  | @login sid hd body nowMs s p dst kicked t hp hdst hbound =>
    have hsessions := (relogged_fields cfg g t kicked
      (s.bound p dst (g.sessions.lastEpoch p + 1))).1
    have hnew := hbound.get_kicked sid
    rw [if_pos rfl, ← hsessions] at hnew
    -- the epoch is new to the player
    have hother : ¬ (p = s.playerId ∧ g.sessions.lastEpoch p + 1 = s.epoch) := by
      rintro ⟨rfl, hepoch⟩
      have hlast := (hseated sid s hbound.found hbound.player).2
      omega
    rw [replacedBy_clientFrame hsame hbound.found hnew hother, hsessions]
    exact hbound.succession hsane.sessions hseated h
  | @switched sid hd body nowMs s s' service t hservice hauthed hne hsw =>
    have hnew := hsw.get sid
    rw [if_pos rfl] at hnew
    have hlast := (hseated sid s hsw.found (hsane.sessions.epoch sid s hsw.found hauthed).1).2
    have hother : ¬ (s'.playerId = s.playerId ∧ s'.epoch = s.epoch) := by
      rintro ⟨-, hepoch⟩
      simp only [hsw.changed hne, hauthed, if_true] at hepoch
      omega
    rw [notifySceneBinding_eq] at hsame ⊢
    rw [replacedBy_clientFrame hsame hsw.found hnew hother]
    exact hsw.succession hsane.sessions hseated hauthed hne h

/-- A player's last epoch never falls. -/
theorem lastEpoch_step {l : Step} (hsane : Sane cfg g) (hstep : step cfg g l = some g') (p : Nat) :
    g.sessions.lastEpoch p ≤ g'.sessions.lastEpoch p := by
  refine step_induction (P := fun x => g.sessions.lastEpoch p ≤ x.sessions.lastEpoch p) hsane hstep
    (fun g₁ hmaj hp => hp.trans ?_) (fun x y hx heff hp => ?_) le_rfl
  · cases hmaj with
    | closed sid hconn =>
      rw [onClientClosed_eq]
      exact (ClientSessionTable.lastEpoch_erase _ _ _).ge
    | login s q dst kicked t hp hdst hbound =>
      rw [(relogged_fields cfg g t kicked _).1]
      have hbound : g.sessions.lastEpoch p ≤ t.lastEpoch p := by
        rw [hbound.lastEpoch]
        split
        · rename_i hpq
          rw [hpq]
          exact Nat.le_succ _
        · exact le_rfl
      split
      · exact hbound
      · rwa [ClientSessionTable.lastEpoch_erase]
    | switched s s' service t hservice hauthed hne hsw =>
      rw [notifySceneBinding_eq]
      show _ ≤ t.lastEpoch p
      rw [hsw.lastEpoch]
      split
      · exact Nat.le_succ _
      · exact le_rfl
  · rw [(heff.same hx.sessions).lastEpoch]
    exact hp

end GatewayDispatcher

end Gateway
