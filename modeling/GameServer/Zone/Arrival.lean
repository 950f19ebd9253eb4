import GameServer.Gateway.BindingEpochs
import GameServer.Gateway.SceneTraffic
import GameServer.Net.Envelope
import GameServer.Net.FrameOutcome

/-!
# Frames of a gateway arrive at a scene

What a gateway has written for a binding, the scene takes for that binding. Over the channels of
the gateway the index of the scene follows the declarations and withdrawals: it has the latest
binding that arrived, and has it bound until it is withdrawn or the connection is lost.
-/

namespace Zone

open Gateway (Bytes ClientData ConnName DispatcherConfig GatewayDispatcher SceneFrame)
open Gateway.GatewayDispatcher (Dated FrameTraffic Says clientData bindingFrame)
open Gateway.GatewayPlayer (kModule kOnline kOffline unpack pack valid)
open Net (NetConfig NetServer PlayerMsg)

variable {cfg : DispatcherConfig} {g : GatewayDispatcher} {ls : List GatewayDispatcher.Step}
  {c : NetConfig} {s t : NetServer} {f : SceneFrame}

/-- What the configurations of the two agree on, and the bounds of the fields. -/
structure Sound (cfg : DispatcherConfig) (g : GatewayDispatcher) : Prop where
  service : cfg.selfServiceId = Gateway.ServerID.kGateway
  gateway : cfg.gatewayId ≠ 0 ∧ cfg.gatewayId < 2 ^ 32
  sessions : g.sessions.nextSessionId ≤ 2 ^ 64

section Frames

/-- A frame in its envelope. -/
structure Carries (cfg : DispatcherConfig) (f : SceneFrame) (payload : Bytes) : Prop where
  unpacked : unpack f.frame.body = some (f.client, payload)
  player : f.frame.head.playerId = f.client.playerId ∧ f.client.playerId ≠ 0
  source : f.frame.head.srcServiceID = cfg.selfServiceId
  gateway : f.client.gatewayId = cfg.gatewayId
  plain : f.kind ≠ .business → payload = [] ∧ f.frame.head.module = kModule
  online : f.kind = .online → f.frame.head.method = kOnline
  offline : f.kind = .offline → f.frame.head.method = kOffline
  business : f.kind = .business → f.frame.head.module ≠ kModule ∧
    f.frame.head.module ≠ Gateway.kSYS

/-- Every frame that was written to a scene can be read there. -/
theorem carries (hsound : Sound cfg g) (hdated : Dated cfg g) (hf : f ∈ g.toScenes)
    (htraffic : FrameTraffic cfg ls g f) : ∃ payload, Carries cfg f payload := by
  have hproper := hdated.proper _ _ (.frame hf)
  have hcapped := hdated.capped f.client.playerId
  have hvalid : valid f.client = true := by
    simp [valid, hproper.player.1, hproper.session.1, hproper.epoch.1, hproper.gateway,
      hsound.gateway.1, hproper.scene.2]
  have hscene := htraffic.narrow
  have hfits : Net.Fits f.client := by
    have hsession := hproper.session.2
    have hepoch := hproper.epoch.2
    have hids := hsound.sessions
    unfold Gateway.uint32Max at hcapped
    refine ⟨hproper.player.2, ?_, ?_, ?_, ?_⟩
    · omega
    · omega
    · rw [hproper.gateway]
      exact hsound.gateway.2
    · rw [hproper.scene.1]
      exact hscene
  by_cases hkind : f.kind = .business
  · obtain ⟨x, hclient, hd, body, nowMs, r, -, -, -, -, hsys, hmodule, hframe⟩ :=
      htraffic.business hkind
    have hbody : f.frame.body = pack f.client body := by rw [hframe, hclient]
    have hhead := congrArg Gateway.GateFrame.head hframe
    refine ⟨body, ?_, ⟨?_, hproper.player.1⟩, ?_, hproper.gateway, fun hno => absurd hkind hno,
      fun hno => ?_, fun hno => ?_, fun _ => ?_⟩
    · rw [hbody]
      exact Net.unpack_pack hvalid hfits body
    · rw [hhead, hclient]
      rfl
    · rw [hhead]
      rfl
    · cases hkind.symm.trans hno
    · cases hkind.symm.trans hno
    · rw [hhead]
      exact ⟨hmodule, hsys⟩
  · obtain ⟨x, hx⟩ := htraffic.binding hkind
    have hclient : f.client = clientData cfg x f.endpoint := congrArg SceneFrame.client hx
    have hbody : f.frame.body = pack (clientData cfg x f.endpoint) [] :=
      congrArg (fun f => f.frame.body) hx
    have hhead := congrArg (fun f => f.frame.head) hx
    refine ⟨[], ?_, ⟨?_, hproper.player.1⟩, ?_, hproper.gateway, fun _ => ⟨rfl, ?_⟩, fun hon => ?_,
      fun hoff => ?_, fun hno => absurd hno hkind⟩
    · rw [hbody, ← hclient]
      exact Net.unpack_pack hvalid hfits []
    · rw [hclient]
      exact congrArg Gateway.Header.playerId hhead
    · exact congrArg Gateway.Header.srcServiceID hhead
    · exact congrArg Gateway.Header.module hhead
    · have hmethod := congrArg Gateway.Header.method hhead
      simpa [bindingFrame, Gateway.makeHeader, hon] using hmethod
    · have hmethod := congrArg Gateway.Header.method hhead
      simpa [bindingFrame, Gateway.makeHeader, hoff] using hmethod

/-- A connection of the scene to the gateway. -/
def gatewayConn (cfg : DispatcherConfig) : Net.Conn where
  outbound := true
  peerServiceID := Gateway.ServerID.kGateway
  gatewayId := cfg.gatewayId

/-- What a frame does to the index of the scene. -/
inductive Arrives (c : NetConfig) (s : NetServer) (session : Nat) (f : SceneFrame)
    (t : NetServer) : Prop
  | stray (hscene : f.client.sceneId ≠ c.sceneId) (hclients : t.clients = s.clients)
  | declared (hkind : f.kind = .online) (hscene : f.client.sceneId = c.sceneId)
      (hclients : t.clients = (s.clients.bind session f.client).2)
  | withdrawn (hkind : f.kind = .offline) (hscene : f.client.sceneId = c.sceneId)
      (hmatch : s.clients.Matches session f.client)
      (hclients : t.clients = (s.clients.unbind session f.client).2)
  | idle (hkind : f.kind = .offline ∧ ¬ s.clients.Matches session f.client ∨ f.kind = .business)
      (hclients : t.clients = s.clients)

/-- A frame that arrives on a channel is accepted, unless it is for another scene, and the message
that is passed on is the frame's. -/
theorem arrives {payload : Bytes} (hservice : cfg.selfServiceId = Gateway.ServerID.kGateway)
    (hf : Carries cfg f payload) {session now : Nat} {send : Nat → Net.DispatchResult}
    (hconn : s.conns.lookup session = some (gatewayConn cfg))
    (ht : s.step c (.frame session f.frame.head f.frame.body now send) = some t) :
    (∀ n, t.conns.lookup n = s.conns.lookup n) ∧ t.nextSession = s.nextSession ∧
      Arrives c s session f t ∧ (t.submitted = s.submitted ∨
        t.submitted = s.submitted ++ [NetServer.frameMsg session f.frame.head f.client payload]) := by
  simp only [NetServer.step, hconn, Option.map_some, Option.some.injEq] at ht
  have hsys : ¬ (f.frame.head.module = Gateway.kSYS ∧ f.frame.head.method = Gateway.kHandshake) := by
    rintro ⟨hmodule, -⟩
    by_cases hkind : f.kind = .business
    · exact (hf.business hkind).2 hmodule
    · have hplayer := (hf.plain hkind).2
      rw [hmodule] at hplayer
      cases hplayer
  have hout := @NetServer.onFrame_outcome c s session (gatewayConn cfg) f.frame.head f.frame.body now
    send hsys
  rw [ht] at hout
  rcases hout with ⟨rfl, hno⟩ | ⟨d, payload', hacc, hconns, hnext, hout⟩
  · have hscene : f.client.sceneId ≠ c.sceneId := by
      intro hscene
      exact hno f.client payload ⟨by rw [hf.player.1]; exact hf.player.2, hf.unpacked, rfl,
        hf.source.trans hservice, hf.player.1.symm, hscene, .inr hf.gateway.symm⟩
    exact ⟨fun _ => rfl, rfl, .stray hscene rfl, .inl rfl⟩
  cases hf.unpacked.symm.trans hacc.unpacked
  have hsame : ∀ n, t.conns.lookup n = s.conns.lookup n := by
    intro n
    rw [hconns, Table.lookup_insert]
    split
    · rename_i hn
      rw [hn, hconn, hf.gateway]
      rfl
    · rfl
  refine ⟨hsame, hnext, ?_⟩
  have hkinds : f.kind = .online ∨ f.kind = .offline ∨ f.kind = .business := by
    cases f.kind <;> simp
  cases hout with
  | dropped why hclients hsubmitted =>
    refine ⟨?_, .inl hsubmitted⟩
    rcases hkinds with hkind | hkind | hkind
    · -- a declaration is never dropped
      obtain ⟨hpayload, hmodule⟩ := hf.plain (by rw [hkind]; simp)
      rcases why with ⟨-, hbody | hmethods⟩ | ⟨hmethod, -⟩
      · exact absurd hpayload hbody
      · exact absurd (hf.online hkind) hmethods.1
      · exact absurd (hf.online hkind) (hmethod hmodule)
    · obtain ⟨hpayload, hmodule⟩ := hf.plain (by rw [hkind]; simp)
      rcases why with ⟨-, hbody | hmethods⟩ | ⟨-, hnot⟩
      · exact absurd hpayload hbody
      · exact absurd (hf.offline hkind) hmethods.2
      · exact .idle (.inl ⟨hkind, hnot⟩) hclients
    · exact .idle (.inr hkind) hclients
  | online hmodule hmethod hclients hsubmitted =>
    refine ⟨?_, hsubmitted⟩
    rcases hkinds with hkind | hkind | hkind
    · exact .declared hkind hacc.scene hclients
    · cases hmethod.symm.trans (hf.offline hkind)
    · exact absurd hmodule (hf.business hkind).1
  | offline hmodule hmethod hmatch hclients hsubmitted =>
    refine ⟨?_, .inr hsubmitted⟩
    rcases hkinds with hkind | hkind | hkind
    · cases hmethod.symm.trans (hf.online hkind)
    · exact .withdrawn hkind hacc.scene hmatch hclients
    · exact absurd hmodule (hf.business hkind).1
  | business hmodule hmatch hclients hsubmitted =>
    refine ⟨?_, .inr hsubmitted⟩
    rcases hkinds with hkind | hkind | hkind
    · exact absurd (hf.plain (by rw [hkind]; simp)).2 hmodule
    · exact absurd (hf.plain (by rw [hkind]; simp)).2 hmodule
    · exact .idle (.inr hkind) hclients

end Frames

section Index

/-- What the index of the scene has from the channels of the gateway: the latest declarations, and
those that were not withdrawn are bound. -/
structure Index (cfg : DispatcherConfig) (c : NetConfig) (sessionOf : Table ConnName Nat)
    (arrived : ConnName → List SceneFrame) (s : NetServer) : Prop where
  scenes : ∀ p d, s.clients.latest.lookup p = some d → d.sceneId = c.sceneId
  known : ∀ p d, s.clients.latest.lookup p = some d → d.gatewayId = cfg.gatewayId →
    ∃ conn n f, sessionOf.lookup conn = some n ∧ f ∈ arrived conn ∧ f.kind = .online ∧ f.client = d
  latest : ∀ conn n f, sessionOf.lookup conn = some n → f ∈ arrived conn → f.kind = .online →
    f.client.sceneId = c.sceneId → ∃ e, s.clients.latest.lookup f.client.playerId = some e ∧
      (e.gatewayId ≠ cfg.gatewayId ∨ f.client.clientEpoch ≤ e.clientEpoch)
  route : ∀ conn n f, sessionOf.lookup conn = some n → f ∈ arrived conn → f.kind = .online →
    s.clients.latest.lookup f.client.playerId = some f.client →
    (∀ x ∈ arrived conn, x.kind = .offline → x.client ≠ f.client) → s.conns.lookup n ≠ none →
    s.clients.connectionByPlayer.lookup f.client.playerId = some n
  bound : ∀ n d, s.clients.Matches n d → d.gatewayId = cfg.gatewayId →
    ∃ conn pre f post, sessionOf.lookup conn = some n ∧ arrived conn = pre ++ f :: post ∧
      f.kind = .online ∧ f.client = d ∧ ∀ x ∈ post, x.kind = .offline → x.client ≠ d

variable {sessionOf sessionOf' : Table ConnName Nat} {arrived arrived' : ConnName → List SceneFrame}

theorem index_init : Index cfg c ∅ arrived {} where
  scenes := by simp
  known := by simp
  latest := by simp
  route := by simp
  bound := fun n d h => by
    simp [Net.GatewayClientIndex.Matches, Net.GatewayClientIndex.row, Net.GatewayClientIndex.rowOf] at h

/-- New channels have brought nothing yet. -/
theorem Index.grow (h : Index cfg c sessionOf arrived s) (hclients : t.clients = s.clients)
    (hold : ∀ conn n, sessionOf.lookup conn = some n → sessionOf'.lookup conn = some n ∧
      arrived' conn = arrived conn ∧ t.conns.lookup n = s.conns.lookup n)
    (hnew : ∀ conn n, sessionOf'.lookup conn = some n →
      sessionOf.lookup conn = some n ∨ arrived' conn = []) :
    Index cfg c sessionOf' arrived' t where
  scenes := by rw [hclients]; exact h.scenes
  known := fun p d hd hgateway => by
    rw [hclients] at hd
    obtain ⟨conn, n, f, hn, hf, hkind, hclient⟩ := h.known p d hd hgateway
    obtain ⟨hn', harrived, -⟩ := hold conn n hn
    exact ⟨conn, n, f, hn', harrived ▸ hf, hkind, hclient⟩
  latest := fun conn n f hn hf hkind hscene => by
    rw [hclients]
    rcases hnew conn n hn with hn | hnone
    · exact h.latest conn n f hn ((hold conn n hn).2.1 ▸ hf) hkind hscene
    · rw [hnone] at hf
      cases hf
  route := fun conn n f hn hf hkind hlatest hoff hlive => by
    rw [hclients] at hlatest ⊢
    rcases hnew conn n hn with hn | hnone
    · obtain ⟨-, harrived, hconns⟩ := hold conn n hn
      rw [harrived] at hf hoff
      exact h.route conn n f hn hf hkind hlatest hoff (hconns ▸ hlive)
    · rw [hnone] at hf
      cases hf
  bound := fun n d hd hgateway => by
    unfold Net.GatewayClientIndex.Matches at hd
    rw [hclients] at hd
    obtain ⟨conn, pre, f, post, hn, hsplit, hrest⟩ := h.bound n d hd hgateway
    obtain ⟨hn', harrived, -⟩ := hold conn n hn
    exact ⟨conn, pre, f, post, hn', harrived ▸ hsplit, hrest⟩

/-- A frame has arrived after the others of its channel. -/
structure Next (cfg : DispatcherConfig) (sessionOf : Table ConnName Nat)
    (arrived arrived' : ConnName → List SceneFrame) (conn : ConnName) (session : Nat)
    (f : SceneFrame) : Prop where
  linked : sessionOf.lookup conn = some session
  here : arrived' conn = arrived conn ++ [f]
  others : ∀ conn', conn' ≠ conn → arrived' conn' = arrived conn'
  /-- To a connection belongs one channel, and to a binding. -/
  inj : ∀ conn', sessionOf.lookup conn' = some session → conn' = conn
  one : ∀ conn' f', f' ∈ arrived' conn' → f'.client = f.client → conn' = conn
  gateway : ∀ conn' f', f' ∈ arrived' conn' → f'.client.gatewayId = cfg.gatewayId

theorem Next.mem {conn conn' : ConnName} {session : Nat} {x : SceneFrame}
    (h : Next cfg sessionOf arrived arrived' conn session f) :
    x ∈ arrived' conn' ↔ x ∈ arrived conn' ∨ conn' = conn ∧ x = f := by
  by_cases hconn : conn' = conn
  · subst hconn
    rw [h.here]
    simp
  · rw [h.others conn' hconn]
    simp [hconn]

/-- Nothing is bound anew, and the frame does not withdraw what stays bound. -/
theorem Index.keep (h : Index cfg c sessionOf arrived s) {conn : ConnName} {session : Nat}
    (hnext : Next cfg sessionOf arrived arrived' conn session f)
    (hlatest : t.clients.latest = s.clients.latest)
    (hconns : ∀ n, t.conns.lookup n = s.conns.lookup n)
    (hfirst : f.kind = .online → f.client.sceneId = c.sceneId →
      ∃ e, s.clients.latest.lookup f.client.playerId = some e ∧
        (e.gatewayId ≠ cfg.gatewayId ∨ f.client.clientEpoch ≤ e.clientEpoch))
    (hself : f.kind = .online → s.clients.latest.lookup f.client.playerId = some f.client →
      (∀ x ∈ arrived conn, x.kind = .offline → x.client ≠ f.client) →
      s.conns.lookup session ≠ none →
      t.clients.connectionByPlayer.lookup f.client.playerId = some session)
    (hroute : ∀ p, s.clients.latest.lookup p ≠ some f.client →
      t.clients.connectionByPlayer.lookup p = s.clients.connectionByPlayer.lookup p)
    (hsame : f.kind ≠ .offline →
      t.clients.connectionByPlayer.lookup f.client.playerId =
        s.clients.connectionByPlayer.lookup f.client.playerId)
    (hmatch : ∀ n d, t.clients.Matches n d → s.clients.Matches n d ∧
      (f.kind = .offline → n = session → f.client ≠ d)) :
    Index cfg c sessionOf arrived' t where
  scenes := by rw [hlatest]; exact h.scenes
  known := fun p d hd hgateway => by
    rw [hlatest] at hd
    obtain ⟨conn', n, x, hn, hx, hrest⟩ := h.known p d hd hgateway
    exact ⟨conn', n, x, hn, hnext.mem.mpr (.inl hx), hrest⟩
  latest := fun conn' n x hn hx hkind hscene => by
    rw [hlatest]
    rcases hnext.mem.mp hx with hx | ⟨rfl, rfl⟩
    · exact h.latest conn' n x hn hx hkind hscene
    · exact hfirst hkind hscene
  route := fun conn' n x hn hx hkind hx' hoff hlive => by
    rw [hlatest] at hx'
    rw [hconns] at hlive
    have hoff' : ∀ y ∈ arrived conn', y.kind = .offline → y.client ≠ x.client :=
      fun y hy => hoff y (hnext.mem.mpr (.inl hy))
    rcases hnext.mem.mp hx with hmem | ⟨rfl, rfl⟩
    · have hold := h.route conn' n x hn hmem hkind hx' hoff' hlive
      by_cases hclient : x.client = f.client
      · -- the frame is of the same binding, so it came on the same channel
        have hconn := hnext.one conn' x hx hclient
        have hfkind : f.kind ≠ .offline := fun hfoff =>
          hoff f (hnext.mem.mpr (.inr ⟨hconn, rfl⟩)) hfoff hclient.symm
        rw [hclient] at hold ⊢
        rw [hsame hfkind]
        exact hold
      · rw [hroute _ fun heq => hclient (Option.some.inj (hx'.symm.trans heq))]
        exact hold
    · cases hnext.linked.symm.trans hn
      exact hself hkind hx' hoff' hlive
  bound := fun n d hd hgateway => by
    obtain ⟨hold, hoff⟩ := hmatch n d hd
    obtain ⟨conn', pre, x, post, hn, hsplit, hkind, hclient, hpost⟩ := h.bound n d hold hgateway
    by_cases hconn : conn' = conn
    · subst hconn
      cases hnext.linked.symm.trans hn
      refine ⟨conn', pre, x, post ++ [f], hn, ?_, hkind, hclient, fun y hy hyoff => ?_⟩
      · rw [hnext.here, hsplit, List.append_assoc, List.cons_append]
      · rcases List.mem_append.mp hy with hy | hy
        · exact hpost y hy hyoff
        · cases List.mem_singleton.mp hy
          exact hoff hyoff rfl
    · exact ⟨conn', pre, x, post, hn, (hnext.others conn' hconn).trans hsplit, hkind, hclient, hpost⟩

/-- A later binding of the player is bound. -/
theorem Index.rebound (h : Index cfg c sessionOf arrived s) {conn : ConnName} {session : Nat}
    (hnext : Next cfg sessionOf arrived arrived' conn session f)
    (hconsistent : s.clients.Consistent) (hconns : ∀ n, t.conns.lookup n = s.conns.lookup n)
    (hkind : f.kind = .online) (hscene : f.client.sceneId = c.sceneId)
    (hlater : ∀ old, s.clients.latest.lookup f.client.playerId = some old →
      old.gatewayId = f.client.gatewayId ∧ old.sceneId = f.client.sceneId ∧
        old.clientEpoch < f.client.clientEpoch)
    (hroute : ∀ p, t.clients.connectionByPlayer.lookup p =
      if p = f.client.playerId then some session else s.clients.connectionByPlayer.lookup p)
    (hlatest : ∀ p, t.clients.latest.lookup p =
      if p = f.client.playerId then some f.client else s.clients.latest.lookup p)
    (hrow : ∀ n p, (t.clients.row n).lookup p =
      if p = f.client.playerId then
        if n = session then some f.client
        else if s.clients.connectionByPlayer.lookup f.client.playerId = some n then none
        else (s.clients.row n).lookup p
      else (s.clients.row n).lookup p) : Index cfg c sessionOf arrived' t where
  scenes := fun p d hd => by
    rw [hlatest] at hd
    split at hd
    · cases hd
      exact hscene
    · exact h.scenes p d hd
  known := fun p d hd hgateway => by
    rw [hlatest] at hd
    split at hd
    · cases hd
      exact ⟨conn, session, f, hnext.linked, hnext.mem.mpr (.inr ⟨rfl, rfl⟩), hkind, rfl⟩
    · obtain ⟨conn', n, x, hn, hx, hrest⟩ := h.known p d hd hgateway
      exact ⟨conn', n, x, hn, hnext.mem.mpr (.inl hx), hrest⟩
  latest := fun conn' n x hn hx hxkind hxscene => by
    rw [hlatest]
    split
    · rename_i hp
      refine ⟨f.client, rfl, .inr ?_⟩
      rcases hnext.mem.mp hx with hx | ⟨-, rfl⟩
      · obtain ⟨e, he, hepoch⟩ := h.latest conn' n x hn hx hxkind hxscene
        rw [hp] at he
        obtain ⟨hgateway, -, hlt⟩ := hlater e he
        rcases hepoch with hother | hle
        · exact absurd (hgateway.trans (hnext.gateway conn f (hnext.mem.mpr (.inr ⟨rfl, rfl⟩)))) hother
        · exact Nat.le_of_lt (Nat.lt_of_le_of_lt hle hlt)
      · exact le_rfl
    · rename_i hp
      rcases hnext.mem.mp hx with hx | ⟨-, rfl⟩
      · exact h.latest conn' n x hn hx hxkind hxscene
      · exact absurd rfl hp
  route := fun conn' n x hn hx hxkind hx' hoff hlive => by
    rw [hlatest] at hx'
    rw [hroute]
    rw [hconns] at hlive
    split at hx'
    · rename_i hp
      rw [if_pos hp]
      cases hnext.one conn' x hx (Option.some.inj hx').symm
      exact hnext.linked.symm.trans hn
    · rename_i hp
      rw [if_neg hp]
      rcases hnext.mem.mp hx with hx | ⟨-, rfl⟩
      · exact h.route conn' n x hn hx hxkind hx'
          (fun y hy => hoff y (hnext.mem.mpr (.inl hy))) hlive
      · exact absurd rfl hp
  bound := fun n d hd hgateway => by
    unfold Net.GatewayClientIndex.Matches at hd
    rw [hrow] at hd
    split at hd
    · rename_i hp
      split at hd
      · rename_i hn
        cases hd
        rw [hn]
        exact ⟨conn, arrived conn, f, [], hnext.linked, hnext.here, hkind, rfl, by simp⟩
      · split at hd
        · cases hd
        · -- the player has one connection
          rename_i hother
          rw [hp] at hd
          exact absurd ((hconsistent.row n _ d).mp hd).1 hother
    · rename_i hp
      obtain ⟨conn', pre, x, post, hn, hsplit, hxkind, hclient, hpost⟩ := h.bound n d hd hgateway
      by_cases hconn : conn' = conn
      · subst hconn
        refine ⟨conn', pre, x, post ++ [f], hn, ?_, hxkind, hclient, fun y hy hyoff => ?_⟩
        · rw [hnext.here, hsplit, List.append_assoc, List.cons_append]
        · rcases List.mem_append.mp hy with hy | hy
          · exact hpost y hy hyoff
          · cases List.mem_singleton.mp hy
            cases hkind.symm.trans hyoff
      · exact ⟨conn', pre, x, post, hn, (hnext.others conn' hconn).trans hsplit, hxkind, hclient, hpost⟩

/-- A frame arrives. -/
theorem Index.arrive (h : Index cfg c sessionOf arrived s) {conn : ConnName} {session : Nat}
    (hnext : Next cfg sessionOf arrived arrived' conn session f)
    (hconsistent : s.clients.Consistent) (hconns : ∀ n, t.conns.lookup n = s.conns.lookup n)
    (hsession : session ≠ 0) (hvalid : valid f.client = true) (harrives : Arrives c s session f t) :
    Index cfg c sessionOf arrived' t := by
  cases harrives with
  | stray hscene hclients =>
    have hother : s.clients.latest.lookup f.client.playerId ≠ some f.client :=
      fun hlatest => hscene (h.scenes _ _ hlatest)
    refine h.keep hnext (by rw [hclients]) hconns (fun _ hs => absurd hs hscene)
      (fun _ hlatest => absurd hlatest hother) (fun _ _ => by rw [hclients])
      (fun _ => by rw [hclients]) fun n d hd => ?_
    unfold Net.GatewayClientIndex.Matches at hd
    rw [hclients] at hd
    refine ⟨hd, fun _ _ heq => ?_⟩
    have hlatest := ((hconsistent.row n _ d).mp hd).2
    rw [← heq] at hlatest
    exact hother hlatest
  | declared hkind hscene hclients =>
    have hfirst := Net.GatewayClientIndex.bind_latest (i := s.clients) hsession hvalid
    have hagain := @Net.GatewayClientIndex.bind_again s.clients session f.client hsession hvalid
    have hbound := s.clients.bind_bound session f.client
    have hnothing : t.clients = s.clients → Index cfg c sessionOf arrived' t := by
      intro hsame
      rw [← hclients, hsame] at hfirst
      have hours := hnext.gateway conn f (hnext.mem.mpr (.inr ⟨rfl, rfl⟩))
      refine h.keep hnext (by rw [hsame]) hconns (fun _ _ => ?_) (fun _ hlatest hoff hopen => ?_)
        (fun _ _ => by rw [hsame]) (fun _ => by rw [hsame]) fun n d hd => ?_
      · obtain ⟨e, he, hepoch⟩ := hfirst
        refine ⟨e, he, ?_⟩
        rcases hepoch with hgateway | hother | hle
        · exact .inl (hours ▸ hgateway)
        · exact absurd ((h.scenes _ e he).trans hscene.symm) hother
        · exact .inr hle
      · -- the binding came before, on this channel
        rw [hsame]
        obtain ⟨conn', n, x, hn, hx, hxkind, hxclient⟩ := h.known _ _ hlatest hours
        obtain rfl := hnext.one conn' x (hnext.mem.mpr (.inl hx)) hxclient
        cases hnext.linked.symm.trans hn
        rw [← hxclient] at hlatest hoff ⊢
        exact h.route conn' session x hn hx hxkind hlatest hoff hopen
      · unfold Net.GatewayClientIndex.Matches at hd
        rw [hsame] at hd
        refine ⟨hd, fun hoff => ?_⟩
        cases hkind.symm.trans hoff
    generalize s.clients.bind session f.client = out at hclients hbound
    cases hbound with
    | refused => exact hnothing hclients
    | same => exact hnothing hclients
    | later hconnection _ hlater hroute hlatest hrow =>
      dsimp only at hclients
      subst hclients
      exact h.rebound hnext hconsistent hconns hkind hscene hlater hroute hlatest hrow
  | withdrawn hkind hscene hmatch hclients =>
    obtain ⟨hat, hlatest⟩ := (Net.GatewayClientIndex.matches_iff hconsistent).mp hmatch
    have hrest := hconsistent.unbind hmatch
    rw [← hclients] at hrest
    have hroute : ∀ p, t.clients.connectionByPlayer.lookup p =
        if p = f.client.playerId then none else s.clients.connectionByPlayer.lookup p := by
      rw [hclients]
      exact Net.GatewayClientIndex.unbind_route hmatch
    have hkept : t.clients.latest = s.clients.latest := by
      rw [hclients]
      exact Net.GatewayClientIndex.unbind_latest
    refine h.keep hnext hkept hconns (fun hon => ?_) (fun hon => ?_) (fun p hp => ?_)
      (fun hne => absurd hkind hne) fun n d hd => ?_
    · cases hkind.symm.trans hon
    · cases hkind.symm.trans hon
    · rw [hroute, if_neg]
      rintro rfl
      exact hp hlatest
    · have hd' := (hrest.row n d.playerId d).mp hd
      rw [hroute, hkept] at hd'
      split at hd'
      · cases hd'.1
      · rename_i hp
        exact ⟨(hconsistent.row n d.playerId d).mpr hd', fun _ _ heq => hp (by rw [heq])⟩
  | idle hwhy hclients =>
    refine h.keep hnext (by rw [hclients]) hconns (fun hon => ?_) (fun hon => ?_)
      (fun _ _ => by rw [hclients]) (fun _ => by rw [hclients]) fun n d hd => ?_
    · rcases hwhy with ⟨hkind, -⟩ | hkind <;> cases hkind.symm.trans hon
    · rcases hwhy with ⟨hkind, -⟩ | hkind <;> cases hkind.symm.trans hon
    · unfold Net.GatewayClientIndex.Matches at hd
      rw [hclients] at hd
      refine ⟨hd, fun hoff hn heq => ?_⟩
      rcases hwhy with ⟨-, hnot⟩ | hkind
      · rw [hn, ← heq] at hd
        exact hnot hd
      · cases hkind.symm.trans hoff

/-- What other peers do: they bind players of theirs, and connections go. -/
theorem Index.elsewhere (h : Index cfg c sessionOf arrived s)
    (hscenes : ∀ p d, t.clients.latest.lookup p = some d → s.clients.latest.lookup p = some d ∨
      d.gatewayId ≠ cfg.gatewayId ∧ d.sceneId = c.sceneId)
    (hlatest : ∀ p e, s.clients.latest.lookup p = some e → t.clients.latest.lookup p = some e ∨
      ∃ e', t.clients.latest.lookup p = some e' ∧ e'.gatewayId ≠ cfg.gatewayId)
    (hroute : ∀ p d n, t.clients.latest.lookup p = some d → d.gatewayId = cfg.gatewayId →
      s.clients.connectionByPlayer.lookup p = some n → t.conns.lookup n ≠ none →
      t.clients.connectionByPlayer.lookup p = some n)
    (hlive : ∀ conn n, sessionOf.lookup conn = some n → t.conns.lookup n ≠ none →
      s.conns.lookup n ≠ none)
    (hmatch : ∀ n d, t.clients.Matches n d → d.gatewayId = cfg.gatewayId → s.clients.Matches n d)
    (hours : ∀ conn f, f ∈ arrived conn → f.client.gatewayId = cfg.gatewayId) :
    Index cfg c sessionOf arrived t where
  scenes := fun p d hd => (hscenes p d hd).elim (h.scenes p d) fun hnew => hnew.2
  known := fun p d hd hgateway => by
    rcases hscenes p d hd with hold | ⟨hother, -⟩
    · exact h.known p d hold hgateway
    · exact absurd hgateway hother
  latest := fun conn n f hn hf hkind hscene => by
    obtain ⟨e, he, hepoch⟩ := h.latest conn n f hn hf hkind hscene
    rcases hlatest _ e he with hsame | ⟨e', he', hother⟩
    · exact ⟨e, hsame, hepoch⟩
    · exact ⟨e', he', .inl hother⟩
  route := fun conn n f hn hf hkind hf' hoff hopen => by
    have hgateway := hours conn f hf
    rcases hscenes _ _ hf' with hold | ⟨hother, -⟩
    · exact hroute _ _ n hf' hgateway (h.route conn n f hn hf hkind hold hoff (hlive conn n hn hopen))
        hopen
    · exact absurd hgateway hother
  bound := fun n d hd hgateway => h.bound n d (hmatch n d hd hgateway) hgateway

/-- A player of another gateway comes. -/
theorem Index.elsewhere_bind (h : Index cfg c sessionOf arrived s) {session : Nat} {d : ClientData}
    (hconsistent : s.clients.Consistent) (hother : d.gatewayId ≠ cfg.gatewayId)
    (hscene : d.sceneId = c.sceneId) (hclients : t.clients = (s.clients.bind session d).2)
    (hlive : ∀ conn n, sessionOf.lookup conn = some n → t.conns.lookup n ≠ none →
      s.conns.lookup n ≠ none)
    (hours : ∀ conn f, f ∈ arrived conn → f.client.gatewayId = cfg.gatewayId) :
    Index cfg c sessionOf arrived t := by
  have hnothing : t.clients = s.clients → Index cfg c sessionOf arrived t := by
    intro hsame
    refine h.elsewhere (fun p d hd => .inl (hsame ▸ hd)) (fun p e he => .inl (hsame ▸ he))
      (fun p d n _ _ hn _ => hsame ▸ hn) hlive (fun n d hd _ => ?_) hours
    unfold Net.GatewayClientIndex.Matches at hd
    exact hsame ▸ hd
  have hbound := s.clients.bind_bound session d
  generalize s.clients.bind session d = out at hclients hbound
  cases hbound with
  | refused => exact hnothing hclients
  | same => exact hnothing hclients
  | later _ _ _ hroute hlatest hrow =>
    dsimp only at hclients
    subst hclients
    refine h.elsewhere (fun p e he => ?_) (fun p e he => ?_) (fun p e n he hgateway hn _ => ?_) hlive
      (fun n e he hgateway => ?_) hours
    · rw [hlatest] at he
      split at he
      · cases he
        exact .inr ⟨hother, hscene⟩
      · exact .inl he
    · rw [hlatest]
      split
      · exact .inr ⟨d, rfl, hother⟩
      · exact .inl he
    · rw [hlatest] at he
      rw [hroute]
      split at he
      · cases he
        exact absurd hgateway hother
      · rename_i hp
        rw [if_neg hp]
        exact hn
    · unfold Net.GatewayClientIndex.Matches at he
      rw [hrow] at he
      split at he
      · rename_i hp
        split at he
        · cases he
          exact absurd hgateway hother
        · split at he
          · cases he
          · rename_i hroute'
            rw [hp] at he
            exact absurd ((hconsistent.row n _ e).mp he).1 hroute'
      · exact he

/-- A player of another gateway leaves. -/
theorem Index.elsewhere_unbind (h : Index cfg c sessionOf arrived s) {session : Nat} {d : ClientData}
    (hconsistent : s.clients.Consistent) (hother : d.gatewayId ≠ cfg.gatewayId)
    (hmatch : s.clients.Matches session d)
    (hclients : t.clients = (s.clients.unbind session d).2)
    (hlive : ∀ conn n, sessionOf.lookup conn = some n → t.conns.lookup n ≠ none →
      s.conns.lookup n ≠ none)
    (hours : ∀ conn f, f ∈ arrived conn → f.client.gatewayId = cfg.gatewayId) :
    Index cfg c sessionOf arrived t := by
  obtain ⟨-, hat⟩ := (Net.GatewayClientIndex.matches_iff hconsistent).mp hmatch
  have hrest := hconsistent.unbind hmatch
  have hroute := Net.GatewayClientIndex.unbind_route hmatch
  have hkept : (s.clients.unbind session d).2.latest = s.clients.latest :=
    Net.GatewayClientIndex.unbind_latest
  rw [← hclients] at hrest hroute hkept
  refine h.elsewhere (fun p e he => .inl (hkept ▸ he)) (fun p e he => .inl (hkept ▸ he))
    (fun p e n he hgateway hn _ => ?_) hlive (fun n e he _ => ?_) hours
  · rw [hroute, if_neg]
    · exact hn
    · rintro rfl
      rw [hkept] at he
      cases hat.symm.trans he
      exact hother hgateway
  · have he' := (hrest.row n e.playerId e).mp he
    rw [hroute, hkept] at he'
    split at he'
    · cases he'.1
    · exact (hconsistent.row n e.playerId e).mpr he'

/-- A connection goes. -/
theorem Index.elsewhere_closed (h : Index cfg c sessionOf arrived s) {session : Nat}
    (hconsistent : s.clients.Consistent) (hclosed : NetServer.Closed s session t)
    (hours : ∀ conn f, f ∈ arrived conn → f.client.gatewayId = cfg.gatewayId) :
    Index cfg c sessionOf arrived t := by
  have hlatest : t.clients.latest = s.clients.latest := by
    rw [hclosed.clients]
    exact Net.GatewayClientIndex.close_latest
  have hroute : ∀ p, t.clients.connectionByPlayer.lookup p =
      if s.clients.connectionByPlayer.lookup p = some session then none
      else s.clients.connectionByPlayer.lookup p := by
    rw [hclosed.clients]
    exact Net.GatewayClientIndex.close_route hconsistent
  have hrest : (s.clients.close session).2.Consistent := hconsistent.close
  rw [← hclosed.clients] at hrest
  have hopen : ∀ n, t.conns.lookup n ≠ none → n ≠ session ∧ s.conns.lookup n ≠ none := by
    intro n hn
    rw [hclosed.conns, Table.lookup_erase] at hn
    split at hn
    · exact absurd rfl hn
    · rename_i hne
      exact ⟨hne, hn⟩
  refine h.elsewhere (fun p e he => .inl (hlatest ▸ he)) (fun p e he => .inl (hlatest ▸ he))
    (fun p e n _ _ hn hlive => ?_) (fun _ n _ hn => (hopen n hn).2) (fun n e he _ => ?_) hours
  · rw [hroute, hn, if_neg]
    intro heq
    exact (hopen n hlive).1 (Option.some.inj heq)
  · have he' := (hrest.row n e.playerId e).mp he
    rw [hroute, hlatest] at he'
    split at he'
    · cases he'.1
    · exact (hconsistent.row n e.playerId e).mpr he'

end Index

end Zone
