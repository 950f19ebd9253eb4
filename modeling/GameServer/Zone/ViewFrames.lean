import GameServer.Aoi.Service
import GameServer.Gateway.PushAuthority
import GameServer.Gateway.ReplacedBindings
import GameServer.Scene.BindingSource

/-!
# View frames on their way to clients

A worker hands a view frame to the network thread if the client epoch it is for is that of the
player's binding. The frame then names the player and nothing else of the binding: it waits
in the queue of the network thread, crosses the link to the gateway, and goes to the session
that the gateway has for the player when it arrives. So it reaches the session it was made for
unless a rebind has overtaken it: a login, or a change of service, that replaced the binding
before the frame arrived.
-/

namespace Zone

open Aoi (AoiClientPushRequest AoiPushBody AoiPushResult)
open Gateway (Bytes ClientSend ClientSession ClientSessionTable ConnName DispatcherConfig GatewayDispatcher Header
  linkTypeOf makeHeader)
open Scene (Env LogicThread PlayerManager)

/-- A view frame. `clientEpoch` is no part of it: it is the epoch of the binding that the frame
was made for. -/
structure ViewFrame where
  session : Nat
  playerId : Nat
  body : AoiPushBody
  clientEpoch : Nat
  deriving DecidableEq, Repr

/-- `Module::AOI` -/
def kAoi : Nat := 100

/-- `AOI_VIEW_DELTA` or `AOI_VIEW_SNAPSHOT`. -/
def viewMethod : AoiPushBody → Nat
  | .viewDelta _ => 7
  | .viewSnapshot _ => 8

structure ZoneConfig where
  gateway : DispatcherConfig
  workerForPlayerId : Nat → Nat
  encode : AoiPushBody → Bytes

/-- `WorkerPushSink::sendToClient`, with the verdict of the network thread's queue. -/
def sendToClient (players : PlayerManager) (request : AoiClientPushRequest) (queueTakes : Bool)
    : AoiPushResult × Option ViewFrame :=
  match players.get request.observerPlayerId with
  | none => (.observerOffline, none)
  | some p =>
    if !Gateway.GatewayPlayer.valid p.clientBinding then (.observerOffline, none)
    else if request.clientViewEpoch ≠ p.clientBinding.clientEpoch then (.sessionChanged, none)
    else if !queueTakes then (.queueFull, none)
    else
      (.accepted, some
        { session := p.session
          playerId := p.playerId
          body := request.body
          clientEpoch := p.clientBinding.clientEpoch })

/-- A connection of the scene: its name at the gateway, and what has been written to it and has
not arrived. -/
structure Link where
  conn : ConnName
  frames : List ViewFrame := []
  deriving DecidableEq, Repr

/-- A view frame with what the gateway wrote to a client for it. -/
structure Delivery where
  frame : ViewFrame
  send : ClientSend
  deriving DecidableEq, Repr

/-- The gateway and the scene. `delivered`, and `replaced` with the bindings that the gateway has
replaced, are records that neither reads. -/
structure System where
  gateway : GatewayDispatcher
  workers : Nat → LogicThread
  netQueue : List ViewFrame := []
  links : Table Nat Link := ∅
  delivered : List Delivery := []
  replaced : List (Nat × Nat) := []

/-- What happens in a zone. `connect` and `disconnect` are the scene's connections, by session;
`fits` says whether the write buffer of the connection has room. -/
inductive Label where
  | gateway (l : GatewayDispatcher.Step)
  | worker (w : Nat) (env : Env) (l : LogicThread.Label)
  | push (w : Nat) (request : AoiClientPushRequest) (queueTakes : Bool)
  | connect (session : Nat) (conn : ConnName)
  | disconnect (session : Nat)
  | processBusMsg (fits : Bool)
  | arrive (session : Nat)

variable (cfg : ZoneConfig)

/-- A frame of a view. Those of the scene arrive by its links only. -/
def isViewFrame : GatewayDispatcher.Step → Bool
  | .backendFrame _ h _ => h.module = kAoi ∧ (h.method = 7 ∨ h.method = 8)
  | _ => false

namespace System

variable (z : System)

def init (persistenceEnabled : Bool) : System where
  gateway := .init cfg.gateway
  workers _ := { persistenceEnabled }

/-- A binding reaches the worker of its player, after the gateway has sent it. -/
def authentic (w : Nat) : LogicThread.Label → Bool
  | .binding m => cfg.workerForPlayerId m.playerId = w &&
      z.gateway.toScenes.any (·.client = m.clientBinding)
  | _ => true

/-- The header that `sendTo` gives a view frame. -/
def viewHeader (f : ViewFrame) : Header :=
  makeHeader (linkTypeOf Gateway.ServerID.kScene) kAoi (viewMethod f.body) 0 f.playerId Gateway.ServerID.kScene
    Gateway.ServerID.kGateway

/-- The gateway takes a view frame from a connection. -/
def take (conn : ConnName) (f : ViewFrame) : System :=
  let g := z.gateway.handleBackendFrame cfg.gateway conn (viewHeader f)
    (cfg.encode f.body)
  { z with
    gateway := g
    delivered := z.delivered ++
      (g.toClients.drop z.gateway.toClients.length).map fun send => { frame := f, send } }

def step : Label → Option System
  | .gateway l =>
    if isViewFrame l then none
    else (z.gateway.step cfg.gateway l).map fun gateway =>
      { z with gateway, replaced := z.replaced ++ GatewayDispatcher.replacedBy z.gateway gateway l }
  | .worker w env l =>
    if z.authentic cfg w l then
      ((z.workers w).step (env, l)).map fun s => { z with workers := Function.update z.workers w s }
    else none
  | .push w request queueTakes =>
    let frame := (sendToClient (z.workers w).players request queueTakes).2
    some { z with netQueue := z.netQueue ++ frame.toList }
  | .connect session conn =>
    if session ∈ z.links then none
    else some { z with links := z.links.insert session { conn } }
  | .disconnect session => some { z with links := z.links.erase session }
  | .processBusMsg fits =>
    match z.netQueue with
    | [] => none
    | f :: netQueue =>
      let z := { z with netQueue }
      match z.links.lookup f.session with
      | none => some z
      | some link =>
        if fits then
          some { z with links := z.links.insert f.session { link with frames := link.frames ++ [f] } }
        else some z
  | .arrive session =>
    match z.links.lookup session with
    | some ⟨conn, f :: frames⟩ =>
      some ({ z with links := z.links.insert session { conn, frames } }.take cfg conn f)
    | _ => none

end System

/-- The frame went to a session of the binding that it was made for. -/
def Delivery.own (d : Delivery) : Bool :=
  d.send.holder.any fun s => s.playerId = d.frame.playerId ∧ s.epoch = d.frame.clientEpoch

/-- The session that the gateway would write a view frame to. -/
def receiver (g : GatewayDispatcher) (conn : ConnName) (f : ViewFrame) : Option ClientSession :=
  match (g.services.getByName conn).filter (·.serviceId = Gateway.ServerID.kScene) with
  | none => none
  | some origin =>
    if g.superseded origin conn ∨ f.playerId = 0 ∨ cfg.gateway.selfServiceId ≠ Gateway.ServerID.kGateway then
      none
    else (g.sessions.findByPlayer f.playerId).filter (·.conn ∈ g.connected)

/-- A view frame that a rebind has overtaken finds no session. -/
def InTime (z : System) : Label → Prop
  | .arrive session =>
    match z.links.lookup session with
    | some ⟨conn, f :: _⟩ =>
      (f.playerId, f.clientEpoch) ∈ z.replaced → receiver cfg z.gateway conn f = none
    | _ => True
  | _ => True

section Arrivals

variable {cfg} {z z' : System} {g : GatewayDispatcher} {conn : ConnName} {f : ViewFrame}

/-- What the gateway writes for a view frame. -/
def clientSend (cfg : ZoneConfig) (g : GatewayDispatcher) (f : ViewFrame) (s : ClientSession) : ClientSend where
  sessionId := s.sessionId
  holder := g.sessions.get s.sessionId
  frame :=
    { head := { kind := .push, module := kAoi, method := viewMethod f.body, roleName := [] }
      body := cfg.encode f.body }
  cause := .push f.playerId

theorem viewMethod_cases (body : AoiPushBody) : viewMethod body = 7 ∨ viewMethod body = 8 := by
  cases body
  · exact .inl rfl
  · exact .inr rfl

/-- A scene may push view frames. -/
theorem handlePush_viewFrame {origin : Gateway.ServiceEndpoint}
    (hscene : origin.serviceId = Gateway.ServerID.kScene) (hplayer : f.playerId ≠ 0) :
    (g.handlePush origin conn (System.viewHeader f) (cfg.encode f.body)).toClients =
      g.toClients ++ ((g.sessions.findByPlayer f.playerId).filter (·.conn ∈ g.connected)).toList.map
        (clientSend cfg g f) := by
  have hallowed : GatewayDispatcher.isAllowedScenePush (System.viewHeader f) origin.serviceId = true := by
    rcases viewMethod_cases f.body with hm | hm <;>
      simp [GatewayDispatcher.isAllowedScenePush, System.viewHeader, makeHeader, hscene, hplayer, hm, kAoi]
  unfold GatewayDispatcher.handlePush
  simp only [hallowed, if_true]
  have hp : (System.viewHeader f).playerId = f.playerId := rfl
  rw [hp]
  cases hs : g.sessions.findByPlayer f.playerId with
  | none => simp
  | some s =>
    by_cases hconn : s.conn ∈ g.connected
    · simp [GatewayDispatcher.sendToClient, hconn, Option.filter_some, clientSend,
        System.viewHeader, makeHeader]
    · simp [GatewayDispatcher.sendToClient, hconn, Option.filter_some]

theorem viewHeader_not_handshake :
    ¬ ((System.viewHeader f).module = Gateway.kSYS ∧
      (System.viewHeader f).method = Gateway.kHandshake) := by
  rintro ⟨hm, -⟩
  cases hm

/-- A frame that has a receiver comes from a scene, for a player. -/
theorem attributed_of_receiver {s : ClientSession} (h : receiver cfg g conn f = some s) :
    f.playerId ≠ 0 ∧
      ∃ origin, GatewayDispatcher.Attributed cfg.gateway g conn (System.viewHeader f) origin := by
  unfold receiver at h
  split at h
  · cases h
  rename_i origin horigin
  obtain ⟨hget, hscene⟩ := Option.filter_eq_some_iff.mp horigin
  have hscene : origin.serviceId = Gateway.ServerID.kScene := by simpa using hscene
  split at h
  · cases h
  rename_i hdrop
  simp only [not_or, Bool.not_eq_true, ne_eq, not_not] at hdrop
  refine ⟨hdrop.2.1, origin, hget, ?_, hdrop.1, hscene.symm, hdrop.2.2.symm, rfl⟩
  rw [hscene]
  decide

theorem receiver_attributed {origin : Gateway.ServiceEndpoint} (hplayer : f.playerId ≠ 0)
    (ho : GatewayDispatcher.Attributed cfg.gateway g conn (System.viewHeader f) origin) :
    receiver cfg g conn f =
      (g.sessions.findByPlayer f.playerId).filter (·.conn ∈ g.connected) := by
  obtain ⟨hget, -, hsuper, hsrc, hdst, -⟩ := ho
  have hscene : origin.serviceId = Gateway.ServerID.kScene := hsrc.symm
  have hself : cfg.gateway.selfServiceId = Gateway.ServerID.kGateway := hdst.symm
  unfold receiver
  rw [hget, Option.filter_some, if_pos (by simp [hscene])]
  simp [hsuper, hplayer, hself]

/-- A view frame is written to its receiver. -/
theorem toClients_viewFrame :
    (g.handleBackendFrame cfg.gateway conn (System.viewHeader f) (cfg.encode f.body)).toClients =
      g.toClients ++ (receiver cfg g conn f).toList.map (clientSend cfg g f) := by
  by_cases hdropped : f.playerId = 0 ∨
      ¬ ∃ origin, GatewayDispatcher.Attributed cfg.gateway g conn (System.viewHeader f) origin
  · have hnone : receiver cfg g conn f = none := by
      refine Option.eq_none_iff_forall_ne_some.mpr fun s hs => ?_
      obtain ⟨hplayer, ho⟩ := attributed_of_receiver hs
      exact hdropped.elim hplayer fun hno => hno ho
    rw [hnone, Option.toList_none, List.map_nil, List.append_nil]
    rcases @GatewayDispatcher.handleBackendFrame_cases cfg.gateway g conn (System.viewHeader f)
      (cfg.encode f.body) viewHeader_not_handshake with hsame | ⟨origin, ho⟩
    · exact hsame
    -- a scene has no frames for the whole zone
    have hplayer : f.playerId = 0 := hdropped.resolve_right fun hno => hno ⟨origin, ho⟩
    obtain ⟨hget, hne, hsuper, hsrc, hdst, -⟩ := ho
    have hscene : origin.serviceId = Gateway.ServerID.kScene := hsrc.symm
    have hself : cfg.gateway.selfServiceId = Gateway.ServerID.kGateway := hdst.symm
    unfold GatewayDispatcher.handleBackendFrame
    rw [if_neg viewHeader_not_handshake, hget, Option.filter_some, if_pos (by simpa using hne)]
    simp [hsuper, hscene, hself, hplayer, System.viewHeader, makeHeader, Gateway.ServerID.kScene,
      Gateway.ServerID.kChat]
  · simp only [not_or, not_not] at hdropped
    obtain ⟨hplayer, origin, ho⟩ := hdropped
    rw [GatewayDispatcher.handleBackendFrame_attributed rfl hplayer viewHeader_not_handshake ho,
      handlePush_viewFrame ho.2.2.2.1.symm hplayer, receiver_attributed hplayer ho]

/-- The session that a view frame goes to is the one that the player's index entry points to. -/
theorem receiver_found {s : ClientSession} (h : receiver cfg g conn f = some s) :
    f.playerId ≠ 0 ∧ g.sessions.findByPlayer f.playerId = some s := by
  obtain ⟨hplayer, origin, ho⟩ := attributed_of_receiver h
  rw [receiver_attributed hplayer ho] at h
  exact ⟨hplayer, (Option.filter_eq_some_iff.mp h).1⟩

theorem own_iff {s : ClientSession} (hs : g.sessions.get s.sessionId = some s) :
    Delivery.own { frame := f, send := clientSend cfg g f s } = true ↔
      s.playerId = f.playerId ∧ s.epoch = f.clientEpoch := by
  simp [Delivery.own, clientSend, hs]

end Arrivals

namespace System

variable {cfg} {z z' : System} {g : GatewayDispatcher} {f : ViewFrame}

/-- The frame is in the queue of the network thread or on a link. -/
def UnderWay (z : System) (f : ViewFrame) : Prop :=
  f ∈ z.netQueue ∨ ∃ session link, z.links.lookup session = some link ∧ f ∈ link.frames

/-- What holds of a zone after any run: the epochs of the bindings that the workers have, and of
the frames that are under way, are epochs that the gateway gave to the players. -/
structure Sane (cfg : ZoneConfig) (z : System) : Prop where
  gateway : GatewayDispatcher.Sane cfg.gateway z.gateway
  dated : GatewayDispatcher.Dated cfg.gateway z.gateway
  succession : z.gateway.sessions.Succession z.replaced
  threads : ∀ w, (z.workers w).Orderly
  bindings : ∀ w id d, ((z.workers w).life id).Bears d →
    d.clientEpoch ≤ z.gateway.sessions.lastEpoch id
  frames : ∀ f, UnderWay z f → f.clientEpoch ≤ z.gateway.sessions.lastEpoch f.playerId

/-- Every view frame went to a session of the binding it was made for. -/
def AllOwn (z : System) : Prop :=
  ∀ d ∈ z.delivered, d.own = true

theorem sane_init (b : Bool) : Sane cfg (init cfg b) where
  gateway := GatewayDispatcher.sane_init
  dated := GatewayDispatcher.dated_init
  succession := ClientSessionTable.succession_init
  threads := fun _ => (LogicThread.sane_started b).orderly
  bindings := fun _ _ _ hd => absurd hd Scene.Life.not_bears_empty
  frames := fun f hf => by
    rcases hf with hf | ⟨session, link, hlink, -⟩
    · cases hf
    · simp [init] at hlink

section Keep

theorem Sane.gatewayStep (h : Sane cfg z) {l : GatewayDispatcher.Step}
    (hstep : z.gateway.step cfg.gateway l = some g) :
    Sane cfg { z with gateway := g, replaced := z.replaced ++ GatewayDispatcher.replacedBy z.gateway g l } where
  gateway := GatewayDispatcher.sane_step h.gateway hstep
  dated := GatewayDispatcher.dated_step h.gateway hstep h.dated
  succession := GatewayDispatcher.succession_step h.gateway h.dated.seated hstep h.succession
  threads := h.threads
  bindings := fun w id d hd =>
    (h.bindings w id d hd).trans (GatewayDispatcher.lastEpoch_step h.gateway hstep id)
  frames := fun f hf => (h.frames f hf).trans (GatewayDispatcher.lastEpoch_step h.gateway hstep f.playerId)

/-- Frames may go. -/
theorem Sane.fewer (h : Sane cfg z) (hgateway : z'.gateway = z.gateway)
    (hreplaced : z'.replaced = z.replaced) (hworkers : z'.workers = z.workers)
    (hframes : ∀ f, UnderWay z' f → UnderWay z f) : Sane cfg z' where
  gateway := hgateway ▸ h.gateway
  dated := hgateway ▸ h.dated
  succession := by
    rw [hgateway, hreplaced]
    exact h.succession
  threads := hworkers ▸ h.threads
  bindings := by
    rw [hgateway, hworkers]
    exact h.bindings
  frames := by
    rw [hgateway]
    exact fun f hf => h.frames f (hframes f hf)

/-- A worker gets its bindings from the gateway. -/
theorem Sane.workerStep (h : Sane cfg z) {w : Nat} {env : Env} {l : LogicThread.Label} {t : LogicThread}
    (hauthentic : z.authentic cfg w l = true) (hstep : (z.workers w).step (env, l) = some t) :
    Sane cfg { z with workers := Function.update z.workers w t } := by
  have hnew : ∀ id d, (t.life id).Bears d → d.clientEpoch ≤ z.gateway.sessions.lastEpoch id := by
    intro id d hd
    rcases LogicThread.step_bears (h.threads w) hstep hd with hold | ⟨m, hl, -, rfl, rfl⟩
    · exact h.bindings w id d hold
    · change l = .binding m at hl
      subst hl
      obtain ⟨-, hany⟩ := (Bool.and_eq_true_iff.mp hauthentic)
      obtain ⟨hf, hmem, hclient⟩ := List.any_eq_true.mp hany
      have hproper := h.dated.proper _ _ (.frame hmem)
      rw [of_decide_eq_true hclient] at hproper
      exact hproper.epoch.2
  have hthread := (LogicThread.step_moves hstep (h.threads w)).1
  refine { h with threads := ?_, bindings := ?_ }
  · exact (Function.forall_update_iff z.workers fun _ s => s.Orderly).mpr
      ⟨hthread, fun v _ => h.threads v⟩
  · exact (Function.forall_update_iff z.workers fun _ s => ∀ id d, (s.life id).Bears d →
      d.clientEpoch ≤ z.gateway.sessions.lastEpoch id).mpr ⟨hnew, fun v _ => h.bindings v⟩

/-- A view frame is made for the binding that the player has. -/
theorem sendToClient_frame {players : PlayerManager} {request : AoiClientPushRequest} {queueTakes : Bool}
    (h : (sendToClient players request queueTakes).2 = some f) :
    ∃ p, players.get request.observerPlayerId = some p ∧ f.playerId = p.playerId ∧
      f.clientEpoch = p.clientBinding.clientEpoch ∧ request.clientViewEpoch = f.clientEpoch := by
  unfold sendToClient at h
  split at h
  · cases h
  rename_i p hp
  split at h
  · cases h
  split at h
  · cases h
  rename_i hepoch
  split at h
  · cases h
  · cases h
    exact ⟨p, hp, rfl, rfl, not_not.mp hepoch⟩

theorem Sane.push (h : Sane cfg z) (w : Nat) (request : AoiClientPushRequest) (queueTakes : Bool) :
    Sane cfg { z with netQueue :=
      z.netQueue ++ (sendToClient (z.workers w).players request queueTakes).2.toList } := by
  refine { h with frames := fun f hf => ?_ }
  rcases hf with hf | hlinked
  · rcases List.mem_append.mp hf with hf | hf
    · exact h.frames f (.inl hf)
    · obtain ⟨p, hp, hplayer, hepoch, -⟩ := sendToClient_frame (Option.mem_toList.mp hf)
      have hid := (((h.threads w).keyed _).actor p hp).1
      rw [hplayer, hepoch, hid]
      exact h.bindings w _ _ (.inl ⟨p, hp, rfl⟩)
  · exact h.frames f (.inr hlinked)

/-- A frame that goes on is on the link instead of in the queue, and keeps its place on it. -/
theorem underWay_insert {session : Nat} {conn : ConnName} {frames netQueue : List ViewFrame}
    (hqueue : ∀ f ∈ netQueue, UnderWay z f) (hframes : ∀ f ∈ frames, UnderWay z f)
    (hf : UnderWay { z with netQueue, links := z.links.insert session { conn, frames } } f) :
    UnderWay z f := by
  rcases hf with hf | ⟨s, link, hlink, hf⟩
  · exact hqueue f hf
  · rw [Table.lookup_insert] at hlink
    split at hlink
    · cases hlink
      exact hframes f hf
    · exact .inr ⟨s, link, hlink, hf⟩

theorem sane_step {l : Label} (h : Sane cfg z) (hstep : z.step cfg l = some z') : Sane cfg z' := by
  cases l with
  | gateway m =>
    dsimp only [step] at hstep
    split at hstep
    · cases hstep
    obtain ⟨g, hg, rfl⟩ := Option.map_eq_some_iff.mp hstep
    exact h.gatewayStep hg
  | worker w env m =>
    dsimp only [step] at hstep
    split at hstep
    · rename_i hauthentic
      obtain ⟨t, ht, rfl⟩ := Option.map_eq_some_iff.mp hstep
      exact h.workerStep hauthentic ht
    · cases hstep
  | push w request queueTakes =>
    cases hstep
    exact h.push w request queueTakes
  | connect session conn =>
    dsimp only [step] at hstep
    split at hstep
    · cases hstep
    · cases hstep
      exact h.fewer rfl rfl rfl fun f hf => underWay_insert (fun _ => .inl) (by simp) hf
  | disconnect session =>
    cases hstep
    refine h.fewer rfl rfl rfl fun f hf => ?_
    rcases hf with hf | ⟨s, link, hlink, hf⟩
    · exact .inl hf
    · rw [Table.lookup_erase] at hlink
      split at hlink
      · cases hlink
      · exact .inr ⟨s, link, hlink, hf⟩
  | processBusMsg fits =>
    dsimp only [step] at hstep
    split at hstep
    · cases hstep
    rename_i first netQueue hqueue
    have hrest : ∀ f ∈ netQueue, UnderWay z f := fun f hf => .inl (hqueue ▸ List.mem_cons_of_mem _ hf)
    have hdropped : Sane cfg { z with netQueue } :=
      h.fewer rfl rfl rfl fun f hf => hf.elim (hrest f) .inr
    split at hstep
    · cases hstep
      exact hdropped
    rename_i link hlink
    split at hstep
    · cases hstep
      refine h.fewer rfl rfl rfl fun f hf => underWay_insert hrest (fun f hf => ?_) hf
      rcases List.mem_append.mp hf with hf | hf
      · exact .inr ⟨_, link, hlink, hf⟩
      · rw [List.mem_singleton.mp hf]
        exact .inl (hqueue ▸ List.mem_cons_self)
    · cases hstep
      exact hdropped
  | arrive session =>
    dsimp only [step] at hstep
    split at hstep
    · rename_i conn first frames hlink
      cases hstep
      have hgateway := h.gatewayStep (l := .backendFrame conn (viewHeader first) (cfg.encode first.body)) rfl
      refine hgateway.fewer rfl (List.append_nil _).symm rfl fun f hf => ?_
      exact underWay_insert (z := z) (fun _ => .inl)
        (fun f hf => .inr ⟨session, _, hlink, List.mem_cons_of_mem _ hf⟩) hf
    · cases hstep

end Keep

/-- A frame that is under way to a session is that session's own exactly if its binding has not
been replaced. -/
theorem own_iff_not_replaced (h : Sane cfg z) {conn : ConnName} (hf : UnderWay z f) {s : ClientSession}
    (hs : receiver cfg z.gateway conn f = some s) :
    Delivery.own { frame := f, send := clientSend cfg z.gateway f s } = true ↔
      (f.playerId, f.clientEpoch) ∉ z.replaced := by
  obtain ⟨hplayer, hfound⟩ := receiver_found hs
  obtain ⟨id, hget⟩ : ∃ id, z.gateway.sessions.get id = some s := by
    have hfound' := hfound
    unfold ClientSessionTable.findByPlayer at hfound'
    rw [if_neg hplayer] at hfound'
    obtain ⟨id, -, hget⟩ := Option.bind_eq_some_iff.mp hfound'
    exact ⟨id, hget⟩
  have hkey := (h.gateway.sessions.key id s hget).1
  rw [own_iff (hkey ▸ hget)]
  constructor
  · rintro ⟨hsame, hepoch⟩ hmem
    exact h.succession.replaced_ne hplayer hmem hget hsame hepoch
  · intro hnot
    obtain ⟨hlast, hseat⟩ := h.succession.current hplayer (h.frames f hf) hnot
    have hsame := hseat s hfound
    have hepoch := (h.dated.seated id s hget (hsame ▸ hplayer)).2
    rw [hsame] at hepoch
    exact ⟨hsame, hepoch.trans hlast.symm⟩

theorem delivered_take (conn : ConnName) (f : ViewFrame) :
    (z.take cfg conn f).delivered = z.delivered ++
      (receiver cfg z.gateway conn f).toList.map fun s =>
        { frame := f, send := clientSend cfg z.gateway f s } := by
  simp [take, toClients_viewFrame]

/-- Only a view frame that arrives is delivered. -/
theorem step_cases {l : Label} (h : z.step cfg l = some z') :
    (∃ session conn f frames, l = .arrive session ∧
      z.links.lookup session = some ⟨conn, f :: frames⟩ ∧
      z' = { z with links := z.links.insert session { conn, frames } }.take cfg conn f) ∨
    (z'.delivered = z.delivered ∧ ∀ session, l ≠ .arrive session) := by
  cases l with
  | gateway m =>
    dsimp only [step] at h
    split at h
    · cases h
    obtain ⟨g, -, rfl⟩ := Option.map_eq_some_iff.mp h
    exact .inr ⟨rfl, fun _ => nofun⟩
  | worker w env m =>
    dsimp only [step] at h
    split at h
    · obtain ⟨s, -, rfl⟩ := Option.map_eq_some_iff.mp h
      exact .inr ⟨rfl, fun _ => nofun⟩
    · cases h
  | push w request queueTakes =>
    cases h
    exact .inr ⟨rfl, fun _ => nofun⟩
  | connect session conn =>
    dsimp only [step] at h
    split at h
    · cases h
    · cases h
      exact .inr ⟨rfl, fun _ => nofun⟩
  | disconnect session =>
    cases h
    exact .inr ⟨rfl, fun _ => nofun⟩
  | processBusMsg fits =>
    dsimp only [step] at h
    split at h
    · cases h
    split at h
    · cases h
      exact .inr ⟨rfl, fun _ => nofun⟩
    split at h <;> cases h <;> exact .inr ⟨rfl, fun _ => nofun⟩
  | arrive session =>
    dsimp only [step] at h
    split at h
    · rename_i conn f frames hlink
      cases h
      exact .inl ⟨session, conn, f, frames, rfl, hlink, rfl⟩
    · cases h

/-- A step keeps every delivery its own exactly if the frame that arrives is in time. -/
theorem step_allOwn {l : Label} (hsane : Sane cfg z) (hall : AllOwn z)
    (h : z.step cfg l = some z') : AllOwn z' ↔ InTime cfg z l := by
  rcases step_cases h with ⟨session, conn, f, frames, rfl, hlink, rfl⟩ | ⟨hsame, hother⟩
  · have hnew : AllOwn ({ z with links := z.links.insert session { conn, frames } }.take cfg conn f)
        ↔ ∀ s ∈ receiver cfg z.gateway conn f,
          Delivery.own { frame := f, send := clientSend cfg z.gateway f s } = true := by
      unfold AllOwn
      rw [delivered_take]
      simp only [List.mem_append, List.mem_map, Option.mem_toList, Option.mem_def]
      constructor
      · intro hown s hs
        exact hown _ (.inr ⟨s, hs, rfl⟩)
      · rintro hown d (hd | ⟨s, hs, rfl⟩)
        · exact hall d hd
        · exact hown s hs
    have hown : ∀ s ∈ receiver cfg z.gateway conn f, (Delivery.own
        { frame := f, send := clientSend cfg z.gateway f s } = true ↔
          (f.playerId, f.clientEpoch) ∉ z.replaced) := fun s hs =>
      own_iff_not_replaced hsane (.inr ⟨session, _, hlink, List.mem_cons_self⟩) hs
    rw [hnew, InTime, hlink]
    constructor
    · intro hall hmem
      refine Option.eq_none_iff_forall_ne_some.mpr fun s hs => ?_
      exact (hown s hs).mp (hall s hs) hmem
    · intro hnone s hs
      exact (hown s hs).mpr fun hmem => Option.some_ne_none s (hs.symm.trans (hnone hmem))
  · refine iff_of_true ?_ ?_
    · unfold AllOwn
      rw [hsame]
      exact hall
    · cases l with
      | arrive session => exact absurd rfl (hother session)
      | _ => trivial

theorem inTime_of_stuck {l : Label} (h : z.step cfg l = none) : InTime cfg z l := by
  cases l with
  | arrive session =>
    dsimp only [step] at h
    split at h
    · cases h
    · rename_i hlink
      dsimp only [InTime]
      split
      · rename_i conn f frames heq
        exact absurd heq (hlink conn f frames)
      · trivial
  | _ => trivial

/-- In every run, the view frames go to the sessions they were made for exactly if none that a
rebind has overtaken finds a session. -/
theorem view_frames_own_iff (cfg : ZoneConfig) (persistenceEnabled : Bool) (labels : List Label) :
    (∀ before z, before <+: labels →
      Run.exec (step cfg) (init cfg persistenceEnabled) before = some z →
      ∀ d ∈ z.delivered, d.own = true) ↔
      Run.Along (step cfg) (InTime cfg) (init cfg persistenceEnabled) labels :=
  Run.visited_iff_along (Sane cfg) AllOwn (fun _ _ => inTime_of_stuck)
    (fun _ _ _ hsane hall h => ⟨sane_step hsane h, step_allOwn hsane hall h⟩)
    (sane_init persistenceEnabled) nofun

section Late

def oneWorker : ZoneConfig where
  gateway := GatewayDispatcher.smallZone
  workerForPlayerId _ := 0
  encode _ := []

def willingEnv : Env where
  saves _ := { submit := fun _ => true, newTaskId := 1 }
  submitLoad _ := true
  newTaskId _ := 1
  leaveScene _ := true
  onPlayerLogout _ := []

/-- Player 7 logs in and gets a view, and logs in again on another connection while the frame is
on its way. -/
def relogin : List Label :=
  [ .gateway .backendConnected,
    .gateway (GatewayDispatcher.sceneAnnounced 1 5 9),
    .connect 1 1,
    .gateway .clientConnected,
    .gateway (GatewayDispatcher.authFrame 1 7),
    .gateway (GatewayDispatcher.requestFrame 1 1),
    .gateway (.runLoop 1 true),
    .worker 0 willingEnv (.binding
      { method := Gateway.GatewayPlayer.kOnline
        session := 1
        playerId := 7
        clientBinding := ⟨7, 1, 1, 1, 5⟩ }),
    .push 0 ⟨7, 1, .viewSnapshot ⟨1, 0, 0, 1, []⟩⟩ true,
    .processBusMsg true,
    .gateway .clientConnected,
    .gateway (GatewayDispatcher.authFrame 2 7),
    .arrive 1 ]

/-- The second connection gets the view of the first. -/
theorem view_frame_late :
    ¬ ∀ cfg persistenceEnabled labels z,
      Run.exec (step cfg) (init cfg persistenceEnabled) labels = some z →
        ∀ d ∈ z.delivered, d.own = true := by
  intro hclaim
  have hlate : (Run.exec (step oneWorker) (init oneWorker false) relogin).any
      (fun z => z.delivered.any fun d => !d.own) = true := by
    decide +kernel
  obtain ⟨z, hz, hany⟩ := (Option.any_eq_true _ _).mp hlate
  obtain ⟨d, hd, hown⟩ := List.any_eq_true.mp hany
  rw [hclaim _ _ _ z hz d hd] at hown
  cases hown

end Late

end System

end Zone
