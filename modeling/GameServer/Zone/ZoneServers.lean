import GameServer.Gateway.RequestNumbers
import GameServer.Zone.Arrival
import GameServer.Zone.SceneBinding

/-!
# A gateway and a scene

The scene opens channels to the gateway, and the gateway writes to them. Frames arrive in the
order in which they were written to their channel, and may stay under way or be lost when a
connection goes; the two processes take their own steps in between. The scene may have other
gateways, which have other numbers.
-/

namespace Zone

open Gateway (ClientData ConnName DispatcherConfig GatewayDispatcher SceneFrame)
open Gateway.GatewayDispatcher (Dated Grows Once Sane Traffic)
open Gateway.GatewayPlayer (unpack valid)
open Net (NetConfig NetServer PlayerMsg)

/-- The two processes, the session that a channel has at the scene, and how many of its frames have
arrived. -/
structure ZoneServers where
  gate : GatewayDispatcher
  scene : SceneServer
  sessionOf : Table ConnName Nat := ∅
  delivered : ConnName → Nat := fun _ => 0

inductive ZoneLabel where
  | gate (l : GatewayDispatcher.Step)
  | dial
  | deliver (conn : ConnName) (now : Nat) (send : Nat → Net.DispatchResult)
  | scene (l : SceneLabel)

namespace ZoneServers

variable (cfg : DispatcherConfig) (c : NetConfig) (z : ZoneServers)

def init (enabled : Bool) : ZoneServers where
  gate := .init cfg
  scene := .init enabled

/-- What was written to a channel. -/
def channel (conn : ConnName) : List SceneFrame :=
  z.gate.toScenes.filter (·.endpoint.connName = conn)

/-- What has arrived. -/
def arrived (conn : ConnName) : List SceneFrame := (z.channel conn).take (z.delivered conn)

/-- Nothing is under way on the channel. -/
def Drained (conn : ConnName) : Prop := z.delivered conn = (z.channel conn).length

instance (conn : ConnName) : Decidable (z.Drained conn) := inferInstanceAs (Decidable (_ = _))

/-- What the scene does by itself, and what it gets from other gateways. -/
def foreign : SceneLabel → Bool
  | .net (.frame session _ body _ _) =>
    z.sessionOf.entries.all (·.2 ≠ session) ∧ (unpack body).all (·.1.gatewayId ≠ cfg.gatewayId)
  | _ => true

def step : ZoneLabel → Option ZoneServers
  | .gate l => (z.gate.step cfg l).map fun gate => { z with gate }
  | .dial => (z.scene.step c (.net (.connect (gatewayConn cfg)))).map fun scene =>
      { gate := z.gate.onBackendConnected
        scene
        sessionOf := z.sessionOf.insert z.gate.nextConnId z.scene.net.nextSession
        delivered := z.delivered }
  | .deliver conn now send =>
    (z.sessionOf.lookup conn).bind fun session =>
      (z.channel conn)[z.delivered conn]?.bind fun f =>
        (z.scene.step c (.net (.frame session f.frame.head f.frame.body now send))).map fun scene =>
          { z with
            scene
            delivered := Function.update z.delivered conn (z.delivered conn + 1) }
  | .scene l => if z.foreign cfg l then (z.scene.step c l).map fun scene => { z with scene } else none

/-- What the gateway has done in a run. -/
def gateSteps (ls : List ZoneLabel) : List GatewayDispatcher.Step :=
  ls.filterMap fun l =>
    match l with
    | .gate l => some l
    | .dial => some .backendConnected
    | _ => none

/-- What a frame brings to the worker of its player. -/
def message (session : Nat) (f : SceneFrame) : PlayerMsg :=
  NetServer.frameMsg session f.frame.head f.client ((unpack f.frame.body).elim [] (·.2))

/-- The requests that came on a connection. -/
def requests (session : Nat) (ms : List PlayerMsg) : List PlayerMsg :=
  (ms.filter (!·.lifecycle)).filter (·.session = session)

/-- The channels are connections of both processes. -/
structure Linked (cfg : DispatcherConfig) (z : ZoneServers) : Prop where
  names : ∀ conn n, z.sessionOf.lookup conn = some n →
    conn < z.gate.nextConnId ∧ 0 < n ∧ n < z.scene.net.nextSession
  inj : ∀ conn conn' n, z.sessionOf.lookup conn = some n → z.sessionOf.lookup conn' = some n →
    conn = conn'
  next : 0 < z.scene.net.nextSession
  conns : ∀ n k, z.scene.net.conns.lookup n = some k → n < z.scene.net.nextSession
  peers : ∀ conn n k, z.sessionOf.lookup conn = some n → z.scene.net.conns.lookup n = some k →
    k = gatewayConn cfg
  bounded : ∀ conn, z.delivered conn ≤ (z.channel conn).length
  sessions : ∀ m ∈ z.scene.net.submitted.filter (!·.lifecycle), m.session < z.scene.net.nextSession
  requests : ∀ conn n, z.sessionOf.lookup conn = some n →
    (requests n z.scene.net.submitted).Sublist ((z.arrived conn).map (message n))

/-- The invariant, with the run so far. -/
structure Joined (cfg : DispatcherConfig) (c : NetConfig) (enabled : Bool) (ls : List ZoneLabel)
    (z : ZoneServers) : Prop where
  sane : Sane cfg z.gate
  dated : Dated cfg z.gate
  traffic : Traffic cfg (gateSteps ls) z.gate
  once : Once z.gate
  scene : SceneServer.InStep c enabled z.scene
  opened : NetServer.Open z.scene.net
  linked : Linked cfg z
  index : Index cfg c z.sessionOf z.arrived z.scene.net

variable {cfg c z} {t : ZoneServers} {enabled : Bool} {ls : List ZoneLabel}

theorem mem_channel {conn : ConnName} {f : SceneFrame} :
    f ∈ z.channel conn ↔ f ∈ z.gate.toScenes ∧ f.endpoint.connName = conn := by
  simp [channel]

theorem mem_arrived {conn : ConnName} {f : SceneFrame} (h : f ∈ z.arrived conn) :
    f ∈ z.gate.toScenes ∧ f.endpoint.connName = conn :=
  mem_channel.mp (List.mem_of_mem_take h)

theorem joined_init : Joined cfg c enabled [] (init cfg enabled) where
  sane := Gateway.GatewayDispatcher.sane_init
  dated := Gateway.GatewayDispatcher.dated_init
  traffic := Gateway.GatewayDispatcher.traffic_init
  once := Gateway.GatewayDispatcher.once_init
  scene := SceneServer.inStep_init c enabled
  opened := by simp [NetServer.Open, init, SceneServer.init]
  linked :=
    { names := by simp [init]
      inj := by simp [init]
      next := Nat.one_pos
      conns := by simp [init, SceneServer.init]
      peers := by simp [init]
      bounded := fun conn => Nat.zero_le _
      sessions := by simp [init, SceneServer.init]
      requests := by simp [init] }
  index := index_init

section Steps

/-- The bindings of two frames are the same only on one channel. -/
theorem Joined.one (h : Joined cfg c enabled ls z) {f f' : SceneFrame} (hf : f ∈ z.gate.toScenes)
    (hf' : f' ∈ z.gate.toScenes) (heq : f'.client = f.client) :
    f'.endpoint.connName = f.endpoint.connName := by
  have hone := h.dated.one _ _ _ _ (.frame hf') (.frame hf) (by rw [heq]) (by rw [heq])
  rw [hone.2]

theorem Joined.gateway (h : Joined cfg c enabled ls z) {conn : ConnName} {f : SceneFrame}
    (hf : f ∈ z.arrived conn) : f.client.gatewayId = cfg.gatewayId :=
  (h.dated.proper _ _ (.frame (mem_arrived hf).1)).gateway

/-- The gateway writes behind what is there. -/
theorem arrived_grow {conn : ConnName} (hgrows : Grows z.gate t.gate)
    (hdelivered : t.delivered conn = z.delivered conn)
    (hbounded : z.delivered conn ≤ (z.channel conn).length) :
    t.arrived conn = z.arrived conn ∧ z.channel conn <+: t.channel conn := by
  have hchannel : z.channel conn <+: t.channel conn := hgrows.toScenes.filter _
  refine ⟨?_, hchannel⟩
  obtain ⟨rest, hrest⟩ := hchannel
  unfold arrived
  rw [hdelivered, ← hrest, List.take_append_of_le_length hbounded]

/-- One more frame of a channel arrives. -/
theorem arrived_next {conn : ConnName} {f : SceneFrame} (hgate : t.gate = z.gate)
    (hdelivered : t.delivered = Function.update z.delivered conn (z.delivered conn + 1))
    (hf : (z.channel conn)[z.delivered conn]? = some f) :
    t.arrived conn = z.arrived conn ++ [f] ∧
      ∀ conn', conn' ≠ conn → t.arrived conn' = z.arrived conn' := by
  have hchannel : ∀ conn, t.channel conn = z.channel conn := by
    intro conn
    unfold channel
    rw [hgate]
  constructor
  · unfold arrived
    rw [hchannel, hdelivered, Function.update_self, List.take_add_one, hf]
    rfl
  · intro conn' hne
    unfold arrived
    rw [hchannel, hdelivered, Function.update_of_ne hne]

/-- The gateway takes a step. -/
theorem Joined.gate (h : Joined cfg c enabled ls z) {l : GatewayDispatcher.Step}
    {g : GatewayDispatcher} (hstep : z.gate.step cfg l = some g) :
    Joined cfg c enabled (ls ++ [.gate l]) { z with gate := g } := by
  have hgrows := Gateway.GatewayDispatcher.grows_step h.sane hstep
  have harrived := fun conn => @arrived_grow z { z with gate := g } conn hgrows rfl
    (h.linked.bounded conn)
  have hsteps : gateSteps (ls ++ [.gate l]) = gateSteps ls ++ [l] := by simp [gateSteps]
  refine
    { sane := Gateway.GatewayDispatcher.sane_step h.sane hstep
      dated := Gateway.GatewayDispatcher.dated_step h.sane hstep h.dated
      traffic := hsteps ▸ Gateway.GatewayDispatcher.traffic_step h.sane h.traffic hstep
      once := Gateway.GatewayDispatcher.once_step h.sane h.once hstep
      scene := h.scene
      opened := h.opened
      linked :=
        { names := fun conn n hn =>
            ⟨Nat.lt_of_lt_of_le (h.linked.names conn n hn).1 hgrows.names, (h.linked.names conn n hn).2⟩
          inj := h.linked.inj
          next := h.linked.next
          conns := h.linked.conns
          peers := h.linked.peers
          bounded := fun conn => Nat.le_trans (h.linked.bounded conn) (harrived conn).2.length_le
          sessions := h.linked.sessions
          requests := fun conn n hn => (harrived conn).1 ▸ h.linked.requests conn n hn }
      index := h.index.grow rfl (fun conn n hn => ⟨hn, (harrived conn).1, rfl⟩) fun _ _ => .inl }

/-- Whatever the scene does, players are bound to connections that are there. -/
theorem Joined.open_scene (h : Joined cfg c enabled ls z) {l : SceneLabel} {scene : SceneServer}
    (hscene : z.scene.step c l = some scene) : NetServer.Open scene.net := by
  cases l with
  | net l =>
    obtain ⟨net, hnet, rfl⟩ := Option.map_eq_some_iff.mp hscene
    exact NetServer.open_step h.opened h.scene.net.index hnet
  | take worker env =>
    obtain ⟨-, ht⟩ := Option.ite_none_right_eq_some.mp hscene
    obtain ⟨m, -, ht⟩ := Option.bind_eq_some_iff.mp ht
    obtain ⟨w, -, rfl⟩ := Option.map_eq_some_iff.mp ht
    exact h.opened
  | work worker l =>
    obtain ⟨-, ht⟩ := Option.ite_none_right_eq_some.mp hscene
    obtain ⟨w, -, rfl⟩ := Option.map_eq_some_iff.mp ht
    exact h.opened

/-- The scene opens a channel. -/
theorem Joined.dial (h : Joined cfg c enabled ls z) {scene : SceneServer}
    (hscene : z.scene.step c (.net (.connect (gatewayConn cfg))) = some scene) :
    Joined cfg c enabled (ls ++ [.dial])
      { gate := z.gate.onBackendConnected
        scene := scene
        sessionOf := z.sessionOf.insert z.gate.nextConnId z.scene.net.nextSession
        delivered := z.delivered } := by
  have hstep : z.gate.step cfg .backendConnected = some z.gate.onBackendConnected := rfl
  have hnet : scene.net = { z.scene.net with
      conns := z.scene.net.conns.insert z.scene.net.nextSession (gatewayConn cfg)
      nextSession := z.scene.net.nextSession + 1 } := by
    have hconnected := hscene
    simp only [SceneServer.step, NetServer.step, Option.map_some, Option.some.injEq] at hconnected
    rw [← hconnected]
  have hsteps : gateSteps (ls ++ [.dial]) = gateSteps ls ++ [.backendConnected] := by
    simp [gateSteps]
  -- the new channel is empty, and no session of the scene has its number
  have hempty : ∀ f ∈ z.gate.toScenes, f.endpoint.connName ≠ z.gate.nextConnId :=
    fun f hf => Nat.ne_of_lt (h.dated.named f hf)
  have hlookup : ∀ conn n,
      (z.sessionOf.insert z.gate.nextConnId z.scene.net.nextSession).lookup conn = some n →
      conn = z.gate.nextConnId ∧ n = z.scene.net.nextSession ∨
        conn ≠ z.gate.nextConnId ∧ z.sessionOf.lookup conn = some n := by
    intro conn n hn
    rw [Table.lookup_insert] at hn
    split at hn
    · rename_i hconn
      cases hn
      exact .inl ⟨hconn, rfl⟩
    · rename_i hconn
      exact .inr ⟨hconn, hn⟩
  have hold : ∀ conn n, z.sessionOf.lookup conn = some n →
      (z.sessionOf.insert z.gate.nextConnId z.scene.net.nextSession).lookup conn = some n := by
    intro conn n hn
    rw [Table.lookup_insert, if_neg (Nat.ne_of_lt (h.linked.names conn n hn).1)]
    exact hn
  have hconns : ∀ n, n < z.scene.net.nextSession →
      scene.net.conns.lookup n = z.scene.net.conns.lookup n := by
    intro n hn
    rw [hnet, Table.lookup_insert, if_neg (Nat.ne_of_lt hn)]
  refine
    { sane := Gateway.GatewayDispatcher.sane_step h.sane hstep
      dated := Gateway.GatewayDispatcher.dated_step h.sane hstep h.dated
      traffic := hsteps ▸ Gateway.GatewayDispatcher.traffic_step h.sane h.traffic hstep
      once := Gateway.GatewayDispatcher.once_step h.sane h.once hstep
      scene := SceneServer.inStep_step h.scene hscene
      opened := h.open_scene hscene
      linked :=
        { names := fun conn n hn => ?_
          inj := fun conn conn' n hn hn' => ?_
          next := by rw [hnet]; exact Nat.succ_pos _
          conns := fun n k hk => ?_
          peers := fun conn n k hn hk => ?_
          bounded := h.linked.bounded
          sessions := fun m hm => ?_
          requests := fun conn n hn => ?_ }
      index := h.index.grow (by rw [hnet])
        (fun conn n hn => ⟨hold conn n hn, rfl, hconns n (h.linked.names conn n hn).2.2⟩)
        fun conn n hn => ?_ }
  · rw [hnet]
    rcases hlookup conn n hn with ⟨rfl, rfl⟩ | ⟨-, hn⟩
    · exact ⟨Nat.lt_succ_self _, h.linked.next, Nat.lt_succ_self _⟩
    · obtain ⟨hconn, hpos, hlt⟩ := h.linked.names conn n hn
      exact ⟨Nat.lt_succ_of_lt hconn, hpos, Nat.lt_succ_of_lt hlt⟩
  · rcases hlookup conn n hn with ⟨rfl, rfl⟩ | ⟨-, hn⟩ <;>
      rcases hlookup conn' _ hn' with ⟨rfl, hsame⟩ | ⟨-, hn'⟩
    · rfl
    · exact absurd (h.linked.names _ _ hn').2.2 (Nat.lt_irrefl _)
    · exact absurd (hsame ▸ (h.linked.names _ _ hn).2.2) (Nat.lt_irrefl _)
    · exact h.linked.inj conn conn' n hn hn'
  · rw [hnet] at hk ⊢
    rw [Table.lookup_insert] at hk
    split at hk
    · rename_i hn
      rw [hn]
      exact Nat.lt_succ_self _
    · exact Nat.lt_succ_of_lt (h.linked.conns n k hk)
  · rcases hlookup conn n hn with ⟨-, rfl⟩ | ⟨-, hn⟩
    · rw [hnet, Table.lookup_insert, if_pos rfl] at hk
      exact (Option.some.inj hk).symm
    · rw [hconns n (h.linked.names conn n hn).2.2] at hk
      exact h.linked.peers conn n k hn hk
  · rw [hnet] at hm ⊢
    exact Nat.lt_succ_of_lt (h.linked.sessions m hm)
  · rw [hnet]
    rcases hlookup conn n hn with ⟨-, rfl⟩ | ⟨-, hn⟩
    · have hnone : requests z.scene.net.nextSession z.scene.net.submitted = [] :=
        List.filter_eq_nil_iff.mpr fun m hm heq =>
          Nat.ne_of_lt (h.linked.sessions m hm) (of_decide_eq_true heq)
      exact hnone ▸ List.nil_sublist _
    · exact h.linked.requests conn n hn
  · rcases hlookup conn n hn with ⟨rfl, -⟩ | ⟨-, hn⟩
    · right
      rw [List.eq_nil_iff_forall_not_mem]
      intro f hf
      obtain ⟨hf, hconn⟩ := mem_arrived hf
      exact hempty f hf hconn
    · exact .inl hn

/-- A frame arrives. -/
theorem Joined.deliver (h : Joined cfg c enabled ls z) (hsound : Sound cfg z.gate) {conn : ConnName}
    {session now : Nat} {send : Nat → Net.DispatchResult} {f : SceneFrame} {scene : SceneServer}
    (hn : z.sessionOf.lookup conn = some session) (hf : (z.channel conn)[z.delivered conn]? = some f)
    (hscene : z.scene.step c (.net (.frame session f.frame.head f.frame.body now send)) =
      some scene) :
    Joined cfg c enabled (ls ++ [.deliver conn now send])
      { z with
        scene := scene
        delivered := Function.update z.delivered conn (z.delivered conn + 1) } := by
  obtain ⟨hlt, hget⟩ := List.getElem?_eq_some_iff.mp hf
  have hmem : f ∈ z.channel conn := List.mem_of_getElem? hf
  obtain ⟨hwritten, hconn⟩ := mem_channel.mp hmem
  obtain ⟨payload, hcarries⟩ := carries hsound h.dated hwritten (h.traffic.frames f hwritten)
  obtain ⟨net, hnet, hscene'⟩ := Option.map_eq_some_iff.mp hscene
  have hopen : z.scene.net.conns.lookup session = some (gatewayConn cfg) := by
    cases hk : z.scene.net.conns.lookup session with
    | none => simp [NetServer.step, hk] at hnet
    | some k => rw [h.linked.peers conn session k hn hk]
  obtain ⟨hconns, hnext, harrives, hsubmitted⟩ := arrives hsound.service hcarries hopen hnet
  have hvalid : valid f.client = true := Net.unpack_valid hcarries.unpacked
  have hself : Next cfg z.sessionOf z.arrived
      { z with
        scene := scene
        delivered := Function.update z.delivered conn (z.delivered conn + 1) }.arrived
      conn session f := by
    obtain ⟨hhere, hothers⟩ := @arrived_next z
      { z with
        scene := scene
        delivered := Function.update z.delivered conn (z.delivered conn + 1) } conn f rfl rfl hf
    refine ⟨hn, hhere, hothers, fun conn' hn' => h.linked.inj conn' conn session hn' hn,
      fun conn' x hx heq => ?_, fun conn' x hx => ?_⟩
    · obtain ⟨hin, hat⟩ := mem_arrived hx
      exact (hat.symm.trans (h.one hwritten hin heq)).trans hconn
    · exact (h.dated.proper _ _ (.frame (mem_arrived hx).1)).gateway
  have hsteps : gateSteps (ls ++ [.deliver conn now send]) = gateSteps ls := by simp [gateSteps]
  subst hscene'
  refine
    { sane := h.sane
      dated := h.dated
      traffic := hsteps ▸ h.traffic
      once := h.once
      scene := SceneServer.inStep_step h.scene hscene
      opened := h.open_scene hscene
      linked :=
        { names := fun conn' n hn' => ?_
          inj := h.linked.inj
          next := hnext ▸ h.linked.next
          conns := fun n k hk => ?_
          peers := fun conn' n k hn' hk => h.linked.peers conn' n k hn' ((hconns n).symm.trans hk)
          bounded := fun conn' => ?_
          sessions := fun m hm => ?_
          requests := fun conn' n hn' => ?_ }
      index := h.index.arrive hself h.scene.net.index hconns
        (Nat.pos_iff_ne_zero.mp (h.linked.names conn session hn).2.1) hvalid harrives }
  · exact hnext ▸ h.linked.names conn' n hn'
  · show n < net.nextSession
    rw [hnext]
    exact h.linked.conns n k ((hconns n).symm.trans hk)
  · by_cases heq : conn' = conn
    · subst heq
      show Function.update z.delivered conn' _ conn' ≤ _
      rw [Function.update_self]
      exact hlt
    · show Function.update z.delivered conn _ conn' ≤ _
      rw [Function.update_of_ne heq]
      exact h.linked.bounded conn'
  · show m.session < net.nextSession
    rw [hnext]
    rcases hsubmitted with hsame | hmore
    · exact h.linked.sessions m (hsame ▸ hm)
    · have hm : m ∈ net.submitted.filter (!·.lifecycle) := hm
      rw [hmore, List.filter_append] at hm
      rcases List.mem_append.mp hm with hm | hm
      · exact h.linked.sessions m hm
      · cases List.mem_singleton.mp (List.mem_of_mem_filter hm)
        exact (h.linked.names conn session hn).2.2
  · show (requests n net.submitted).Sublist _
    have hold := h.linked.requests conn' n hn'
    by_cases heq : conn' = conn
    · subst heq
      cases hn.symm.trans hn'
      rw [hself.here, List.map_append]
      rcases hsubmitted with hsame | hmore
      · rw [hsame]
        exact hold.trans (List.sublist_append_left _ _)
      · have hmessage : NetServer.frameMsg session f.frame.head f.client payload = message session f := by
          unfold message
          rw [hcarries.unpacked]
          rfl
        rw [hmore, hmessage]
        unfold requests
        rw [List.filter_append, List.filter_append]
        exact hold.append (List.filter_sublist.trans List.filter_sublist)
    · rw [hself.others conn' heq]
      rcases hsubmitted with hsame | hmore
      · rw [hsame]
        exact hold
      · have hother : session ≠ n := fun hsame =>
          heq (h.linked.inj conn' conn n hn' (hsame ▸ hn))
        have hnone : requests n [NetServer.frameMsg session f.frame.head f.client payload] = [] :=
          List.filter_eq_nil_iff.mpr fun m hm hat => by
            cases List.mem_singleton.mp (List.mem_of_mem_filter hm)
            exact hother (of_decide_eq_true hat)
        rw [hmore]
        unfold requests at hnone ⊢
        rw [List.filter_append, List.filter_append, hnone, List.append_nil]
        exact hold

/-- The connections of the gateway do not change, and no requests come from them. -/
structure Elsewhere (z : ZoneServers) (net : NetServer) : Prop where
  next : z.scene.net.nextSession ≤ net.nextSession
  conns : ∀ n k, net.conns.lookup n = some k → z.scene.net.conns.lookup n = some k ∨
    (∀ conn, z.sessionOf.lookup conn ≠ some n) ∧ n < net.nextSession
  sessions : ∀ m ∈ net.submitted.filter (!·.lifecycle), m.session < net.nextSession
  requests : ∀ conn n, z.sessionOf.lookup conn = some n →
    requests n net.submitted = requests n z.scene.net.submitted

theorem elsewhere_refl (h : Linked cfg z) : Elsewhere z z.scene.net :=
  ⟨le_rfl, fun _ _ => .inl, h.sessions, fun _ _ _ => rfl⟩

theorem Linked.elsewhere (h : Linked cfg z) {scene : SceneServer} (helse : Elsewhere z scene.net) :
    Linked cfg { z with scene := scene } where
  names := fun conn n hn => by
    obtain ⟨hconn, hpos, hlt⟩ := h.names conn n hn
    exact ⟨hconn, hpos, Nat.lt_of_lt_of_le hlt helse.next⟩
  inj := h.inj
  next := Nat.lt_of_lt_of_le h.next helse.next
  conns := fun n k hk => by
    rcases helse.conns n k hk with hold | ⟨-, hlt⟩
    · exact Nat.lt_of_lt_of_le (h.conns n k hold) helse.next
    · exact hlt
  peers := fun conn n k hn hk => by
    rcases helse.conns n k hk with hold | ⟨hfar, -⟩
    · exact h.peers conn n k hn hold
    · exact absurd hn (hfar conn)
  bounded := h.bounded
  sessions := helse.sessions
  requests := fun conn n hn => helse.requests conn n hn ▸ h.requests conn n hn

theorem elsewhere_closed (h : Linked cfg z) {session : Nat} {net : NetServer}
    (hclosed : NetServer.Closed z.scene.net session net) : Elsewhere z net where
  next := hclosed.nextSession.ge
  conns := fun n k hk => by
    rw [hclosed.conns, Table.lookup_erase] at hk
    split at hk
    · cases hk
    · exact .inl hk
  sessions := by rw [hclosed.submitted, hclosed.nextSession]; exact h.sessions
  requests := fun conn n _ => by unfold requests; rw [hclosed.submitted]

/-- A connection of another peer has changed. -/
theorem elsewhere_conn (h : Linked cfg z) {session : Nat} {k : Net.Conn} {net : NetServer}
    (hfar : ∀ conn, z.sessionOf.lookup conn ≠ some session)
    (hopen : z.scene.net.conns.lookup session ≠ none)
    (hnext : net.nextSession = z.scene.net.nextSession)
    (hconns : net.conns = z.scene.net.conns.insert session k)
    (hmessages : net.submitted = z.scene.net.submitted ∨
      ∃ m, m.session = session ∧ net.submitted = z.scene.net.submitted ++ [m]) :
    Elsewhere z net := by
  have hlt : session < net.nextSession := by
    rw [hnext]
    obtain ⟨old, hold⟩ := Option.ne_none_iff_exists'.mp hopen
    exact h.conns session old hold
  refine ⟨hnext.ge, fun n k' hk => ?_, fun m hm => ?_, fun conn n hn => ?_⟩
  · rw [hconns, Table.lookup_insert] at hk
    split at hk
    · rename_i hn
      rw [hn]
      exact .inr ⟨hfar, hlt⟩
    · exact .inl hk
  · rcases hmessages with heq | ⟨m', hm', heq⟩
    · rw [hnext]
      exact h.sessions m (heq ▸ hm)
    · rw [heq, List.filter_append] at hm
      rcases List.mem_append.mp hm with hm | hm
      · rw [hnext]
        exact h.sessions m hm
      · cases List.mem_singleton.mp (List.mem_of_mem_filter hm)
        rw [hm']
        exact hlt
  · rcases hmessages with heq | ⟨m', hm', heq⟩
    · rw [heq]
    · have hnone : requests n [m'] = [] := List.filter_eq_nil_iff.mpr fun x hx hat => by
        cases List.mem_singleton.mp (List.mem_of_mem_filter hx)
        have hat : m'.session = n := of_decide_eq_true hat
        rw [hm'] at hat
        exact hfar conn (hat ▸ hn)
      rw [heq]
      unfold requests at hnone ⊢
      rw [List.filter_append, List.filter_append, hnone, List.append_nil]

/-- A frame of another gateway arrives. -/
theorem Joined.elsewhere_frame (h : Joined cfg c enabled ls z) {session now : Nat}
    {head : Gateway.Header} {body : Gateway.Bytes} {send : Nat → Net.DispatchResult} {net : NetServer}
    (hfar : ∀ conn, z.sessionOf.lookup conn ≠ some session)
    (hother : ∀ d payload, unpack body = some (d, payload) → d.gatewayId ≠ cfg.gatewayId)
    (hnet : z.scene.net.step c (.frame session head body now send) = some net) :
    Elsewhere z net ∧ Index cfg c z.sessionOf z.arrived net := by
  obtain ⟨k, hk, rfl⟩ := Option.map_eq_some_iff.mp hnet
  have hopen : z.scene.net.conns.lookup session ≠ none := by rw [hk]; simp
  have hours : ∀ conn f, f ∈ z.arrived conn → f.client.gatewayId = cfg.gatewayId :=
    fun conn f hf => h.gateway hf
  have hsame : ∀ {net : NetServer}, Elsewhere z net → ∀ conn n, z.sessionOf.lookup conn = some n →
      net.conns.lookup n ≠ none → z.scene.net.conns.lookup n ≠ none := by
    intro net helse conn n hn hlive
    obtain ⟨k', hk'⟩ := Option.ne_none_iff_exists'.mp hlive
    rcases helse.conns n k' hk' with hold | ⟨hno, -⟩
    · rw [hold]
      simp
    · exact absurd hn (hno conn)
  have hconsistent := h.scene.net.index
  have hnothing := elsewhere_refl h.linked
  by_cases hsys : head.module = Gateway.kSYS ∧ head.method = Gateway.kHandshake
  · have hshake : z.scene.net.onFrame c session k head body now send =
        z.scene.net.handleHandshake c session k body now send := by
      unfold NetServer.onFrame
      rw [if_pos hsys]
    rw [hshake]
    have hcases := @NetServer.handleHandshake_cases c z.scene.net session k body now send
    generalize z.scene.net.handleHandshake c session k body now send = net at hcases ⊢
    rcases hcases with rfl | hclosed | ⟨-, peer, rfl⟩
    · exact ⟨hnothing, h.index⟩
    · exact ⟨elsewhere_closed h.linked hclosed, h.index.elsewhere_closed hconsistent hclosed hours⟩
    · have helse : Elsewhere z { z.scene.net with
          conns := z.scene.net.conns.insert session { k with peerServiceID := peer } } :=
        elsewhere_conn h.linked hfar hopen rfl rfl (.inl rfl)
      refine ⟨helse, h.index.elsewhere (fun p d => .inl) (fun p e => .inl) (fun p d n _ _ hn _ => hn)
        (hsame helse) (fun n d hd _ => hd) hours⟩
  · have hcases := @NetServer.onFrame_outcome c z.scene.net session k head body now send hsys
    generalize z.scene.net.onFrame c session k head body now send = net at hcases ⊢
    rcases hcases with ⟨rfl, -⟩ | ⟨d, payload, hacc, hconns, hnext, hout⟩
    · exact ⟨hnothing, h.index⟩
    have hgateway := hother d payload hacc.unpacked
    have helse : (net.submitted = z.scene.net.submitted ∨
        net.submitted = z.scene.net.submitted ++ [NetServer.frameMsg session head d payload]) →
        Elsewhere z net := fun hmessages =>
      elsewhere_conn h.linked hfar hopen hnext hconns (hmessages.imp_right fun heq => ⟨_, rfl, heq⟩)
    have hkept : Elsewhere z net → net.clients = z.scene.net.clients →
        Index cfg c z.sessionOf z.arrived net := by
      intro helse heq
      refine h.index.elsewhere (fun p d hd => .inl (heq ▸ hd)) (fun p e he => .inl (heq ▸ he))
        (fun p d n _ _ hn _ => heq ▸ hn) (hsame helse) (fun n d hd _ => ?_) hours
      unfold Net.GatewayClientIndex.Matches at hd
      exact heq ▸ hd
    cases hout with
    | dropped why hclients hsubmitted =>
      have he := helse (.inl hsubmitted)
      exact ⟨he, hkept he hclients⟩
    | online hmodule hmethod hclients hsubmitted =>
      have he := helse hsubmitted
      exact ⟨he, h.index.elsewhere_bind hconsistent hgateway hacc.scene hclients (hsame he) hours⟩
    | offline hmodule hmethod hmatch hclients hsubmitted =>
      have he := helse (.inr hsubmitted)
      exact ⟨he, h.index.elsewhere_unbind hconsistent hgateway hmatch hclients (hsame he) hours⟩
    | business hmodule hmatch hclients hsubmitted =>
      have he := helse (.inr hsubmitted)
      exact ⟨he, hkept he hclients⟩

/-- The scene takes a step of its own. -/
theorem Joined.scene_step (h : Joined cfg c enabled ls z) {l : SceneLabel} {scene : SceneServer}
    (hforeign : z.foreign cfg l = true) (hscene : z.scene.step c l = some scene) :
    Joined cfg c enabled (ls ++ [.scene l]) { z with scene := scene } := by
  have hsteps : gateSteps (ls ++ [.scene l]) = gateSteps ls := by simp [gateSteps]
  have hours : ∀ conn f, f ∈ z.arrived conn → f.client.gatewayId = cfg.gatewayId :=
    fun conn f hf => h.gateway hf
  suffices hnet : Elsewhere z scene.net ∧ Index cfg c z.sessionOf z.arrived scene.net from
    { sane := h.sane
      dated := h.dated
      traffic := hsteps ▸ h.traffic
      once := h.once
      scene := SceneServer.inStep_step h.scene hscene
      opened := h.open_scene hscene
      linked := h.linked.elsewhere hnet.1
      index := hnet.2 }
  have hquiet : Elsewhere z z.scene.net ∧ Index cfg c z.sessionOf z.arrived z.scene.net :=
    ⟨elsewhere_refl h.linked, h.index⟩
  cases l with
  | take worker env =>
    obtain ⟨-, ht⟩ := Option.ite_none_right_eq_some.mp hscene
    obtain ⟨m, -, ht⟩ := Option.bind_eq_some_iff.mp ht
    obtain ⟨w, -, rfl⟩ := Option.map_eq_some_iff.mp ht
    exact hquiet
  | work worker l =>
    obtain ⟨-, ht⟩ := Option.ite_none_right_eq_some.mp hscene
    obtain ⟨w, -, rfl⟩ := Option.map_eq_some_iff.mp ht
    exact hquiet
  | net l =>
    obtain ⟨net, hnet, rfl⟩ := Option.map_eq_some_iff.mp hscene
    show Elsewhere z net ∧ Index cfg c z.sessionOf z.arrived net
    cases l with
    | connect k =>
      cases hnet
      have hnew : ∀ conn n, z.sessionOf.lookup conn = some n → n ≠ z.scene.net.nextSession :=
        fun conn n hn => Nat.ne_of_lt (h.linked.names conn n hn).2.2
      have hlookup : ∀ conn n, z.sessionOf.lookup conn = some n →
          (z.scene.net.conns.insert z.scene.net.nextSession k).lookup n =
            z.scene.net.conns.lookup n := by
        intro conn n hn
        rw [Table.lookup_insert, if_neg (hnew conn n hn)]
      refine ⟨⟨Nat.le_succ _, fun n k' hk => ?_, fun m hm => Nat.lt_succ_of_lt (h.linked.sessions m hm),
          fun _ _ _ => rfl⟩,
        h.index.elsewhere (fun p d => .inl) (fun p e => .inl) (fun p d n _ _ hn _ => hn)
          (fun conn n hn hlive => ?_) (fun n d hd _ => hd) hours⟩
      · rw [Table.lookup_insert] at hk
        split at hk
        · rename_i hn
          rw [hn]
          exact .inr ⟨fun conn hn => hnew conn _ hn rfl, Nat.lt_succ_self _⟩
        · exact .inl hk
      · exact (hlookup conn n hn) ▸ hlive
    | frame session head body now send =>
      obtain ⟨hfar, hother⟩ := of_decide_eq_true hforeign
      refine h.elsewhere_frame (fun conn hconn => ?_) (fun d payload hd => ?_) hnet
      · have hrow := List.all_eq_true.mp hfar _ (Table.mem_entries.mpr hconn)
        exact of_decide_eq_true hrow rfl
      · rw [hd] at hother
        exact of_decide_eq_true hother
    | close session now send =>
      cases hnet
      have hcases := @NetServer.handleClose_closed c z.scene.net session now send
      rcases hcases with ⟨-, hsame⟩ | hclosed
      · rw [hsame]
        exact hquiet
      · exact ⟨elsewhere_closed h.linked hclosed, h.index.elsewhere_closed h.scene.net.index hclosed hours⟩
    | retry now send =>
      cases hnet
      exact ⟨⟨le_rfl, fun _ _ => .inl, h.linked.sessions, fun _ _ _ => rfl⟩,
        h.index.elsewhere (fun p d => .inl) (fun p e => .inl) (fun p d n _ _ hn _ => hn)
          (fun _ _ _ hlive => hlive) (fun n d hd _ => hd) hours⟩

theorem joined_step {l : ZoneLabel} (h : Joined cfg c enabled ls z) (hsound : Sound cfg z.gate)
    (hstep : z.step cfg c l = some t) : Joined cfg c enabled (ls ++ [l]) t := by
  cases l with
  | gate l =>
    obtain ⟨g, hg, rfl⟩ := Option.map_eq_some_iff.mp hstep
    exact h.gate hg
  | dial =>
    simp only [step] at hstep
    obtain ⟨scene, hscene, rfl⟩ := Option.map_eq_some_iff.mp hstep
    exact h.dial hscene
  | deliver conn now send =>
    obtain ⟨session, hn, hstep⟩ := Option.bind_eq_some_iff.mp hstep
    obtain ⟨f, hf, hstep⟩ := Option.bind_eq_some_iff.mp hstep
    obtain ⟨scene, hscene, rfl⟩ := Option.map_eq_some_iff.mp hstep
    exact h.deliver hsound hn hf hscene
  | scene l =>
    obtain ⟨hforeign, hstep⟩ := Option.ite_none_right_eq_some.mp hstep
    obtain ⟨scene, hscene, rfl⟩ := Option.map_eq_some_iff.mp hstep
    exact h.scene_step hforeign hscene

end Steps

end ZoneServers

end Zone
