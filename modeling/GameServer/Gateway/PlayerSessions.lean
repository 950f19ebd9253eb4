import GameServer.Gateway.Steps

/-!
# The session of a player

A session that has a player is the one that the player's index entry points to, and has the
last epoch that was given to the player. This holds in every run: a login takes the player
from the session that had it, and no other call gives a session a player or an epoch.
-/

namespace Gateway

namespace ClientSessionTable

variable {t t' : ClientSessionTable} {sid p dst kicked : Nat} {s s' : ClientSession}

/-- Sessions that have a player are the players' own. -/
def Seated (t : ClientSessionTable) : Prop :=
  ∀ id s, t.get id = some s → s.playerId ≠ 0 →
    t.playerIndex.lookup s.playerId = some id ∧ s.epoch = t.lastEpoch s.playerId

theorem seated_init : Seated {} := by
  intro id s hs
  simp [get] at hs

theorem Seated.create (h : Seated t) (conn : ConnName) (dst : Nat) :
    Seated (t.create conn dst).2 := by
  intro id s hs hplayer
  rw [get_create] at hs
  split at hs
  · cases hs
    exact absurd rfl hplayer
  · exact h id s hs hplayer

theorem Seated.erase (h : Seated t) (sid : Nat) : Seated (t.erase sid) := by
  intro id s hs hplayer
  rw [get_erase] at hs
  split at hs
  · cases hs
  rename_i hid
  obtain ⟨hidx, hepoch⟩ := h id s hs hplayer
  refine ⟨?_, hepoch.trans (lastEpoch_erase t sid _).symm⟩
  unfold ClientSessionTable.erase
  split
  · exact hidx
  · dsimp only
    split
    · rename_i old _ hpoints
      rw [Table.lookup_erase, if_neg]
      · exact hidx
      · intro heq
        exact hid (Option.some.inj (hidx.symm.trans (heq ▸ hpoints.2)))
    · exact hidx

/-- A session may change everything but its player and its epoch. -/
theorem Seated.replace (h : Seated t) (hs : t.get sid = some s)
    (hget : ∀ id, t'.get id = if id = sid then some s' else t.get id)
    (hindex : t'.playerIndex = t.playerIndex) (hlast : ∀ q, t'.lastEpoch q = t.lastEpoch q)
    (hplayer : s'.playerId = s.playerId) (hepoch : s'.epoch = s.epoch) : Seated t' := by
  intro id x hx hne
  rw [hget] at hx
  rw [hindex, hlast]
  split at hx
  · rename_i hid
    cases hx
    rw [hplayer] at hne ⊢
    rw [hid, hepoch]
    exact h sid s hs hne
  · exact h id x hx hne

theorem Bound.seated (hb : Bound t t' sid p dst kicked s) (hsane : Sane t) (h : Seated t) :
    Seated t' := by
  intro id x hx hne
  rw [hb.get] at hx
  rw [hb.index, hb.lastEpoch]
  split at hx
  · rename_i hid
    cases hx
    exact ⟨by simp [ClientSession.bound, hid], by simp [ClientSession.bound]⟩
  rename_i hid
  split at hx
  · obtain ⟨old, -, rfl⟩ := Option.map_eq_some_iff.mp hx
    exact absurd rfl hne
  · rename_i hkicked
    obtain ⟨hidx, hepoch⟩ := h id x hx hne
    by_cases hp : x.playerId = p
    · -- the session that had the player is the one that gives way
      have hrival : kicked = id := by
        rw [hb.rival]
        unfold ClientSessionTable.rival
        rw [← hp, hidx]
        exact if_pos hid
      have hpos := (hsane.key id x hx).2.1
      exact absurd ⟨by omega, hrival.symm⟩ hkicked
    · rw [if_neg hp, if_neg hp]
      exact ⟨hidx, hepoch⟩

theorem Switched.seated (hsw : Switched t t' sid dst s s') (h : Seated t) : Seated t' := by
  by_cases hdst : s.dstService = dst
  · rw [(hsw.same hdst).2]
    exact h
  have hs' := hsw.changed hdst
  intro id x hx hne
  rw [hsw.get] at hx
  rw [hsw.index, hsw.lastEpoch]
  split at hx
  · rename_i hid
    cases hx
    have hplayer : s'.playerId = s.playerId := by simp [hs']
    rw [hplayer] at hne ⊢
    obtain ⟨hidx, hepoch⟩ := h sid s hsw.found hne
    refine ⟨hid ▸ hidx, ?_⟩
    by_cases hauthed : s.authed = true
    · simp [hs', hauthed, hdst]
    · simp [hs', hauthed, hepoch]
  · rename_i hid
    obtain ⟨hidx, hepoch⟩ := h id x hx hne
    refine ⟨hidx, ?_⟩
    rw [if_neg, hepoch]
    -- one session has the player, so the session that switches has another
    rintro ⟨hsame, -⟩
    obtain ⟨hidx', -⟩ := h sid s hsw.found (hsame ▸ hne)
    rw [← hsame, hidx] at hidx'
    exact hid (Option.some.inj hidx')

end ClientSessionTable

namespace GatewayDispatcher

open ClientSessionTable (Seated)

variable {cfg : DispatcherConfig} {g g' : GatewayDispatcher}

theorem Effect.seated (heff : Effect cfg g g') (h : Seated g.sessions) : Seated g'.sessions := by
  cases heff with
  | opened => exact h.create _ _
  | assigned sid sceneId channelId incarnation conn =>
    rcases g.sessions.setSceneBinding_cases sid sceneId channelId incarnation conn with
      heq | ⟨_, _, _, s, hs, _, _, _, heq⟩
    · simp only [heq]
      exact h
    · simp only [heq]
      exact h.replace hs (fun id => Table.lookup_insert _ _ _ _) rfl (fun _ => rfl) rfl rfl
  | declared conn sub rest s hnext hready honline hs hcur =>
    exact h.replace hs (fun id => Table.lookup_insert _ _ _ _) rfl (fun _ => rfl) rfl rfl
  | swept nowMs =>
    rw [sweepRoutes_eq]
    exact h
  | _ => exact h

theorem Major.seated {l : Step} (hmaj : Major cfg g l g') (hsane : Sane cfg g)
    (h : Seated g.sessions) : Seated g'.sessions := by
  cases hmaj with
  | closed sid hconn =>
    rw [onClientClosed_eq]
    exact h.erase sid
  | login s p dst kicked t hp hdst hbound =>
    rw [(relogged_fields cfg g t kicked _).1]
    have hseated := hbound.seated hsane.sessions h
    split
    · exact hseated
    · exact hseated.erase kicked
  | switched s s' service t hservice hauthed hne hsw =>
    rw [notifySceneBinding_eq]
    exact hsw.seated h

end GatewayDispatcher

end Gateway
