import GameServer.Net.PlayerStreams

/-!
# What the network thread does with a frame

A frame is dropped, or it changes the index as its kind says and is passed on as a message. A
connection that is lost takes the bindings of its players along.
-/

namespace Net

open Gateway (Bytes ClientData)
open Gateway.GatewayPlayer (kModule kOnline kOffline unpack valid)

namespace GatewayClientIndex

variable {i : GatewayClientIndex} {connection : Nat} {d : ClientData}

/-- After a binding was asked for, the player has it or a later one, or it is another gateway's. -/
theorem bind_latest (hconnection : connection ≠ 0) (hvalid : valid d = true) :
    ∃ e, (i.bind connection d).2.latest.lookup d.playerId = some e ∧
      (e.gatewayId ≠ d.gatewayId ∨ e.sceneId ≠ d.sceneId ∨ d.clientEpoch ≤ e.clientEpoch) := by
  unfold bind
  rw [if_neg (by simp [hconnection, hvalid])]
  cases hanswer : i.answerOf connection d with
  | none =>
    refine ⟨d, ?_, .inr (.inr le_rfl)⟩
    cases i.connectionByPlayer.lookup d.playerId <;> simp
  | some ok =>
    unfold answerOf at hanswer
    split at hanswer
    · cases hanswer
    · rename_i old hold
      refine ⟨old, hold, ?_⟩
      by_cases hother : old.gatewayId ≠ d.gatewayId ∨ old.sceneId ≠ d.sceneId
      · exact hother.imp_right .inl
      · refine .inr (.inr ?_)
        rw [if_neg hother] at hanswer
        split at hanswer
        · omega
        · split at hanswer
          · omega
          · cases hanswer

/-- A binding that is there already is refused on another connection only. -/
theorem bind_again (hconnection : connection ≠ 0) (hvalid : valid d = true)
    (hlatest : i.latest.lookup d.playerId = some d) :
    i.bind connection d = (decide (i.connectionByPlayer.lookup d.playerId = some connection), i) := by
  have hanswer : i.answerOf connection d =
      some (decide (i.connectionByPlayer.lookup d.playerId = some connection)) := by
    simp [answerOf, hlatest]
  unfold bind
  rw [if_neg (by simp [hconnection, hvalid]), hanswer]

end GatewayClientIndex

namespace NetServer

variable {c : NetConfig} {s t : NetServer} {session : Nat} {conn : Conn} {head : Gateway.Header}
  {body payload : Bytes} {d : ClientData} {now : Nat} {send : Nat → DispatchResult}

/-- The envelope of the frame is in order. -/
structure Accepted (c : NetConfig) (conn : Conn) (head : Gateway.Header) (body : Bytes)
    (d : ClientData) (payload : Bytes) : Prop where
  player : head.playerId ≠ 0
  unpacked : unpack body = some (d, payload)
  peer : conn.peerServiceID = Gateway.ServerID.kGateway
  source : head.srcServiceID = Gateway.ServerID.kGateway
  same : d.playerId = head.playerId
  scene : d.sceneId = c.sceneId
  gateway : conn.gatewayId = 0 ∨ conn.gatewayId = d.gatewayId

/-- What becomes of the message of an accepted frame. -/
inductive Outcome (s : NetServer) (m : PlayerMsg) (t : NetServer) : Prop
  | dropped
      (why : m.Module = kModule ∧ (m.body ≠ [] ∨ m.Method ≠ kOnline ∧ m.Method ≠ kOffline) ∨
        (m.Module = kModule → m.Method ≠ kOnline) ∧ ¬ s.clients.Matches m.session m.clientBinding)
      (hclients : t.clients = s.clients) (hsubmitted : t.submitted = s.submitted)
  | online (hmodule : m.Module = kModule) (hmethod : m.Method = kOnline)
      (hclients : t.clients = (s.clients.bind m.session m.clientBinding).2)
      (hsubmitted : t.submitted = s.submitted ∨ t.submitted = s.submitted ++ [m])
  | offline (hmodule : m.Module = kModule) (hmethod : m.Method = kOffline)
      (hmatch : s.clients.Matches m.session m.clientBinding)
      (hclients : t.clients = (s.clients.unbind m.session m.clientBinding).2)
      (hsubmitted : t.submitted = s.submitted ++ [m])
  | business (hmodule : m.Module ≠ kModule)
      (hmatch : s.clients.Matches m.session m.clientBinding)
      (hclients : t.clients = s.clients) (hsubmitted : t.submitted = s.submitted ++ [m])

theorem onPlayerFrame_outcome :
    (s.onPlayerFrame c session head d payload now send).conns = s.conns ∧
      (s.onPlayerFrame c session head d payload now send).nextSession = s.nextSession ∧
      Outcome s (frameMsg session head d payload)
        (s.onPlayerFrame c session head d payload now send) := by
  unfold onPlayerFrame
  dsimp only
  split
  · rename_i hbad
    refine ⟨rfl, rfl, .dropped (.inl ⟨hbad.1, ?_⟩) rfl rfl⟩
    refine hbad.2.imp_right fun hno => ⟨fun hm => hno.1 ⟨hbad.1, hm⟩, fun hm => hno.2 ⟨hbad.1, hm⟩⟩
  rename_i hgood
  split
  · rename_i honline
    split
    · exact ⟨rfl, rfl, .online honline.1 honline.2 rfl (.inr rfl)⟩
    · rename_i hrefused
      refine ⟨rfl, rfl, .online honline.1 honline.2 ?_ (.inl rfl)⟩
      have hbound := s.clients.bind_bound session d
      show s.clients = (s.clients.bind session d).2
      generalize s.clients.bind session d = out at hrefused hbound
      cases hbound with
      | refused => rfl
      | same => rfl
      | later => exact absurd rfl hrefused
  rename_i honline
  split
  · rename_i hnot
    exact ⟨rfl, rfl, .dropped (.inr ⟨fun hm hmethod => honline ⟨hm, hmethod⟩, hnot⟩) rfl rfl⟩
  rename_i hmatch
  rw [not_not] at hmatch
  split
  · rename_i hoffline
    exact ⟨rfl, rfl, .offline hoffline.1 hoffline.2 hmatch rfl rfl⟩
  · rename_i hoffline
    exact ⟨rfl, rfl, .business (fun hm => hgood ⟨hm, .inr ⟨honline, hoffline⟩⟩) hmatch rfl rfl⟩

/-- A frame that is no handshake has no effect unless its envelope is in order. -/
theorem onFrame_outcome (hsys : ¬ (head.module = Gateway.kSYS ∧ head.method = Gateway.kHandshake)) :
    s.onFrame c session conn head body now send = s ∧
        (∀ d payload, ¬ Accepted c conn head body d payload) ∨
      ∃ d payload, Accepted c conn head body d payload ∧
        (s.onFrame c session conn head body now send).conns =
          s.conns.insert session { conn with gatewayId := d.gatewayId } ∧
        (s.onFrame c session conn head body now send).nextSession = s.nextSession ∧
        Outcome s (frameMsg session head d payload) (s.onFrame c session conn head body now send) := by
  unfold onFrame
  rw [if_neg hsys]
  split
  · rename_i hplayer
    exact .inl ⟨rfl, fun d payload hacc => hacc.player hplayer⟩
  rename_i hplayer
  split
  · rename_i hnone
    refine .inl ⟨rfl, fun d payload hacc => ?_⟩
    cases hnone.symm.trans hacc.unpacked
  rename_i d payload hunpack
  split
  · rename_i hbad
    refine .inl ⟨rfl, fun d' payload' hacc => ?_⟩
    cases hunpack.symm.trans hacc.unpacked
    rcases hbad with hbad | hbad | hbad | hbad | hbad
    · exact hbad hacc.peer
    · exact hbad hacc.source
    · exact hbad hacc.same
    · exact hbad hacc.scene
    · exact hacc.gateway.elim hbad.1 hbad.2
  · rename_i hok
    simp only [not_or, not_and, ne_eq, not_not] at hok
    obtain ⟨hpeer, hsource, hsame, hscene, hgateway⟩ := hok
    refine .inr ⟨d, payload, ⟨hplayer, hunpack, hpeer, hsource, hsame, hscene, ?_⟩, ?_⟩
    · by_cases hz : conn.gatewayId = 0
      · exact .inl hz
      · exact .inr (hgateway hz)
    · have hout := @onPlayerFrame_outcome c
        { s with conns := s.conns.insert session { conn with gatewayId := d.gatewayId } } session
        head payload d now send
      refine ⟨hout.1, hout.2.1, ?_⟩
      cases hout.2.2 with
      | dropped why hclients hsubmitted => exact .dropped why hclients hsubmitted
      | online hmodule hmethod hclients hsubmitted => exact .online hmodule hmethod hclients hsubmitted
      | offline hmodule hmethod hmatch hclients hsubmitted =>
        exact .offline hmodule hmethod hmatch hclients hsubmitted
      | business hmodule hmatch hclients hsubmitted =>
        exact .business hmodule hmatch hclients hsubmitted

/-- What a close does: the index loses the connection, and the messages that are passed on are
about bindings. -/
structure Closed (s : NetServer) (session : Nat) (t : NetServer) : Prop where
  clients : t.clients = (s.clients.close session).2
  conns : t.conns = s.conns.erase session
  nextSession : t.nextSession = s.nextSession
  submitted : t.submitted.filter (!·.lifecycle) = s.submitted.filter (!·.lifecycle)

theorem handleClose_closed :
    s.conns.lookup session = none ∧ s.handleClose c session now send = s ∨
      Closed s session (s.handleClose c session now send) := by
  unfold handleClose
  split
  · rename_i hnone
    exact .inl ⟨hnone, rfl⟩
  · dsimp only
    refine .inr (List.foldlRecOn (motive := fun t : NetServer => Closed s session t) _ _
      ⟨rfl, rfl, rfl, rfl⟩ fun t ht d _ => ⟨ht.clients, ht.conns, ht.nextSession, ?_⟩)
    change (t.submitted ++ [offlineMsg session d]).filter _ = _
    rw [List.filter_append, ht.submitted]
    simp [offlineMsg]

/-- A handshake is ignored, or ends the connection, or says who the peer is. -/
theorem handleHandshake_cases :
    s.handleHandshake c session conn body now send = s ∨
      Closed s session (s.handleHandshake c session conn body now send) ∨
      conn.outbound = false ∧ ∃ peer, s.handleHandshake c session conn body now send =
        { s with conns := s.conns.insert session { conn with peerServiceID := peer } } := by
  unfold handleHandshake
  split
  · exact .inl rfl
  · split
    · rcases handleClose_closed with hnone | hclosed
      · exact .inl hnone.2
      · exact .inr (.inl hclosed)
    · rename_i hok
      simp only [not_or, Bool.not_eq_true] at hok
      exact .inr (.inr ⟨hok.1, _, rfl⟩)

/-- Players are bound to connections that are there. -/
def Open (s : NetServer) : Prop :=
  ∀ p n, s.clients.connectionByPlayer.lookup p = some n → s.conns.lookup n ≠ none

theorem Open.closed (h : Open s) (hconsistent : s.clients.Consistent) (hclosed : Closed s session t) :
    Open t := by
  intro p n hn
  rw [hclosed.clients, GatewayClientIndex.close_route hconsistent] at hn
  split at hn
  · cases hn
  · rename_i hother
    rw [hclosed.conns, Table.lookup_erase, if_neg]
    · exact h p n hn
    · rintro rfl
      exact hother hn

theorem open_step {l : NetLabel} (h : Open s) (hconsistent : s.clients.Consistent)
    (ht : s.step c l = some t) : Open t := by
  have hinsert : ∀ n k x, s.conns.lookup n ≠ none → (s.conns.insert k x).lookup n ≠ none := by
    intro n k x hn
    rw [Table.lookup_insert]
    split
    · simp
    · exact hn
  cases l with
  | connect conn =>
    cases ht
    exact fun p n hn => hinsert n _ _ (h p n hn)
  | frame session head body now send =>
    obtain ⟨conn, hconn, rfl⟩ := Option.map_eq_some_iff.mp ht
    by_cases hsys : head.module = Gateway.kSYS ∧ head.method = Gateway.kHandshake
    · have hshake : s.onFrame c session conn head body now send =
          s.handleHandshake c session conn body now send := by
        unfold onFrame
        rw [if_pos hsys]
      rw [hshake]
      have hcases := @handleHandshake_cases c s session conn body now send
      generalize s.handleHandshake c session conn body now send = t at hcases ⊢
      rcases hcases with rfl | hclosed | ⟨-, peer, rfl⟩
      · exact h
      · exact h.closed hconsistent hclosed
      · exact fun p n hn => hinsert n _ _ (h p n hn)
    have hcases := @onFrame_outcome c s session conn head body now send hsys
    generalize s.onFrame c session conn head body now send = t at hcases ⊢
    rcases hcases with ⟨rfl, -⟩ | ⟨d, payload, -, hconns, -, hout⟩
    · exact h
    intro p n hn
    rw [hconns]
    cases hout with
    | dropped why hclients hsubmitted => exact hinsert n _ _ (h p n (hclients ▸ hn))
    | online hmodule hmethod hclients hsubmitted =>
      have hbound := s.clients.bind_bound session d
      change t.clients = (s.clients.bind session d).2 at hclients
      generalize s.clients.bind session d = out at hclients hbound
      rw [hclients] at hn
      cases hbound with
      | refused => exact hinsert n _ _ (h p n hn)
      | same => exact hinsert n _ _ (h p n hn)
      | later _ _ _ hroute =>
        rw [hroute] at hn
        split at hn
        · cases hn
          rw [Table.lookup_insert, if_pos rfl]
          simp
        · exact hinsert n _ _ (h p n hn)
    | offline hmodule hmethod hmatch hclients hsubmitted =>
      rw [hclients, GatewayClientIndex.unbind_route hmatch] at hn
      split at hn
      · cases hn
      · exact hinsert n _ _ (h p n hn)
    | business hmodule hmatch hclients hsubmitted => exact hinsert n _ _ (h p n (hclients ▸ hn))
  | close session now send =>
    cases ht
    rcases @handleClose_closed c s session now send with ⟨-, hsame⟩ | hclosed
    · rw [hsame]
      exact h
    · exact h.closed hconsistent hclosed
  | retry now send =>
    cases ht
    exact h

end NetServer

end Net
