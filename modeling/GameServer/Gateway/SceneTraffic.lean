import GameServer.Gateway.RegistryIntegrity
import GameServer.Gateway.Steps
import GameServer.Net.Words

/-!
# What a gateway writes to its scenes

On the channels of its scenes a gateway writes declarations of bindings, withdrawals of bindings
and requests, each in an envelope that names the binding. A request in there is one that a
client has sent on the session of the binding.
-/

namespace Gateway

namespace ServiceRegistry

variable {reg reg' : ServiceRegistry}

/-- The scenes of the connections have numbers that fit into their fields. -/
def Narrow (reg : ServiceRegistry) : Prop :=
  ∀ name ep, reg.byName.lookup name = some ep → ep.sceneId < 2 ^ 32

theorem narrow_new (poolSize : Nat) : Narrow (new poolSize) := by
  intro name ep hep
  simp [new] at hep

theorem Narrow.demote (h : Narrow reg) (conn : ConnName) :
    Narrow { reg with byName := reg.demote conn } := by
  intro name ep hep
  rw [lookup_demote] at hep
  split at hep
  · obtain ⟨old, -, rfl⟩ := Option.map_eq_some_iff.mp hep
    exact Nat.two_pow_pos 32
  · exact h name ep hep

theorem Narrow.giveUp (h : Narrow reg) {incarnation : Nat} {same : Bool} (replaced : ConnName)
    (slots channels : List BackendConn) :
    Narrow (channels.foldl (giveUp incarnation same) (replaced, reg, slots)).2.1 := by
  induction channels generalizing reg replaced slots with
  | nil => exact h
  | cons slot channels ih =>
    rw [List.foldl_cons]
    unfold ServiceRegistry.giveUp
    dsimp only
    split
    · exact ih h _ _
    · exact ih (h.demote _) _ _

theorem Narrow.replaceIncarnation (h : Narrow reg) (key : BackendKey) (pool : BackendConnPool)
    (connName : ConnName) (incarnation : Nat) :
    Narrow (reg.replaceIncarnation key pool connName incarnation).2.1 := by
  unfold ServiceRegistry.replaceIncarnation
  split
  · exact h.giveUp _ _ _
  · exact h

theorem Narrow.replaceSlot (h : Narrow reg) {key : BackendKey} {slot : BackendConn}
    {connName replaced replaced' : ConnName}
    (hrun : reg.replaceSlot key slot connName replaced = some (replaced', reg')) : Narrow reg' := by
  unfold ServiceRegistry.replaceSlot at hrun
  split at hrun
  · split at hrun
    · cases hrun
    · cases hrun
      exact h.demote _
  · cases hrun
    exact h

theorem Narrow.replaceRecord (h : Narrow reg) {endpoint : ServiceEndpoint}
    {replaced replaced' : ConnName}
    (hrun : reg.replaceRecord endpoint replaced = some (replaced', reg')) : Narrow reg' := by
  unfold ServiceRegistry.replaceRecord at hrun
  split at hrun
  · cases hrun
    exact h
  · rename_i old hold
    split at hrun
    · cases hrun
    · cases hrun
      intro name ep hep
      rw [Table.lookup_insert] at hep
      split at hep
      · cases hep
        exact h _ old hold
      · exact h name ep hep

theorem Narrow.enroll (h : Narrow reg) {endpoint : ServiceEndpoint}
    (hsmall : endpoint.sceneId < 2 ^ 32) : Narrow (reg.enroll endpoint) := by
  have hby : ∀ name, (reg.enroll endpoint).byName.lookup name =
      if name = endpoint.connName then some endpoint else reg.byName.lookup name :=
    fun name => Table.lookup_insert _ _ name _
  intro name ep hep
  rw [hby] at hep
  split at hep
  · cases hep
    exact hsmall
  · exact h name ep hep

theorem Narrow.bind (h : Narrow reg) {endpoint : ServiceEndpoint}
    (hsmall : endpoint.sceneId < 2 ^ 32) : Narrow (reg.bind endpoint).2 := by
  unfold ServiceRegistry.bind
  split
  · exact h
  split
  · exact h
  have hinc := h.replaceIncarnation endpoint.key
    ((reg.backendConnPools.lookup endpoint.key).getD reg.freshPool) endpoint.connName
    endpoint.sceneIncarnation
  simp only at hinc ⊢
  revert hinc
  generalize reg.replaceIncarnation _ _ _ _ = out
  intro hinc
  split
  · exact hinc
  split
  · exact hinc
  rename_i hslot
  have hslot := hinc.replaceSlot hslot
  split
  · exact hslot
  rename_i hrecord
  exact (hslot.replaceRecord hrecord).enroll hsmall

theorem Narrow.addPending (h : Narrow reg) (conn : ConnName) : Narrow (reg.addPending conn).2 := by
  unfold ServiceRegistry.addPending
  split <;> exact h

theorem Narrow.removeByName (h : Narrow reg) (conn : ConnName) :
    Narrow (reg.removeByName conn).2 := by
  have herase : ∀ name ep, (reg.byName.erase conn).lookup name = some ep → ep.sceneId < 2 ^ 32 := by
    intro name ep hep
    rw [Table.lookup_erase] at hep
    split at hep
    · cases hep
    · exact h name ep hep
  unfold ServiceRegistry.removeByName
  split
  · exact h
  · split
    · exact h
    · dsimp only
      split <;> exact herase

theorem Narrow.selectByScene (h : Narrow reg) (key : BackendKey) :
    Narrow (reg.selectByScene key).2 := by
  unfold ServiceRegistry.selectByScene
  split
  · exact h
  · dsimp only
    split <;> exact h

end ServiceRegistry

namespace GatewayDispatcher

open ServiceRegistry (Narrow)

variable {cfg : DispatcherConfig} {g g' : GatewayDispatcher} {ls : List Step}

theorem narrow_selectInstance {reg : ServiceRegistry} (h : Narrow reg) {dst zoneId : Nat}
    (candidates : List ServiceEndpoint) : Narrow (selectInstance reg dst zoneId candidates).2 := by
  induction candidates generalizing reg with
  | nil => exact h
  | cons candidate rest ih =>
    have hsel := h.selectByScene ⟨dst, zoneId, candidate.sceneId⟩
    unfold GatewayDispatcher.selectInstance
    revert hsel
    generalize reg.selectByScene _ = out
    intro hsel
    obtain ⟨_ | ep, reg'⟩ := out
    · exact ih hsel
    · exact hsel

theorem narrow_selectScene {reg : ServiceRegistry} (h : Narrow reg) (s : ClientSession) :
    Narrow (selectScene cfg reg s).2 := by
  unfold GatewayDispatcher.selectScene
  split
  · exact h.selectByScene _
  · exact narrow_selectInstance h _

theorem narrow_boundEndpoint (h : Narrow g.services) {s : ClientSession} {ep : ServiceEndpoint}
    (hep : g.boundEndpoint cfg s = some ep) : ep.sceneId < 2 ^ 32 := by
  have hname := (Option.filter_eq_some_iff.mp hep).1
  unfold ServiceRegistry.getByChannel ServiceRegistry.getByName at hname
  split at hname
  · rename_i ep' hlook
    cases hname
    exact h _ _ hlook
  · obtain ⟨-, -, rfl⟩ := Option.map_eq_some_iff.mp hname
    exact Nat.two_pow_pos 32

/-- The frame is a request that a client sent on the session while the session was the
player's. -/
def Asked (cfg : DispatcherConfig) (ls : List Step) (g : GatewayDispatcher) (s : ClientSession)
    (ep : ServiceEndpoint) (frame : GateFrame) : Prop :=
  ∃ h body nowMs r, .clientFrame s.sessionId h body nowMs ∈ ls ∧ (r, some s) ∈ g.asked ∧
    s.authed = true ∧ h.kind = .request ∧ h.module ≠ kClientSysModule ∧
    h.module ≠ GatewayPlayer.kModule ∧
    frame = { head := makeHeader (linkTypeOf ServerID.kScene) h.module h.method r.internalSeq
                s.playerId cfg.selfServiceId ServerID.kScene
              body := GatewayPlayer.pack (clientData cfg s ep) body }

theorem Asked.mono {ls' : List Step} {s : ClientSession} {ep : ServiceEndpoint} {frame : GateFrame}
    (h : Asked cfg ls g s ep frame) (hls : ls ⊆ ls') (hasked : g.asked ⊆ g'.asked) :
    Asked cfg ls' g' s ep frame := by
  obtain ⟨hd, body, nowMs, r, hstep, hr, hrest⟩ := h
  exact ⟨hd, body, nowMs, r, hls hstep, hasked hr, hrest⟩

/-- A task is for a scene and brings a request at most. -/
structure TaskTraffic (cfg : DispatcherConfig) (ls : List Step) (g : GatewayDispatcher)
    (sub : SceneSubmission) : Prop where
  narrow : sub.endpoint.sceneId < 2 ^ 32
  business : ∀ frame, sub.businessFrame = some frame →
    Asked cfg ls g sub.session sub.endpoint frame

/-- A frame declares or withdraws a binding, or is a request. -/
structure FrameTraffic (cfg : DispatcherConfig) (ls : List Step) (g : GatewayDispatcher)
    (f : SceneFrame) : Prop where
  narrow : f.endpoint.sceneId < 2 ^ 32
  binding : f.kind ≠ .business → ∃ s, f = bindingFrame cfg s f.endpoint (f.kind = .online)
  business : f.kind = .business → ∃ s, f.client = clientData cfg s f.endpoint ∧
    Asked cfg ls g s f.endpoint f.frame

/-- The invariant, with the steps so far. -/
structure Traffic (cfg : DispatcherConfig) (ls : List Step) (g : GatewayDispatcher) : Prop where
  narrow : Narrow g.services
  tasks : ∀ sub ∈ g.loops, TaskTraffic cfg ls g sub
  frames : ∀ f ∈ g.toScenes, FrameTraffic cfg ls g f

theorem traffic_init : Traffic cfg [] (init cfg) where
  narrow := ServiceRegistry.narrow_new _
  tasks := by simp [init]
  frames := by simp [init]

/-- The tasks and frames that are new have to be looked at only. -/
theorem Traffic.next {ls' : List Step} (h : Traffic cfg ls g) (hls : ls ⊆ ls')
    (hnarrow : Narrow g'.services) (hasked : g.asked ⊆ g'.asked)
    (hloops : ∀ sub ∈ g'.loops, sub ∈ g.loops ∨ TaskTraffic cfg ls' g' sub)
    (hscenes : ∀ f ∈ g'.toScenes, f ∈ g.toScenes ∨ FrameTraffic cfg ls' g' f) :
    Traffic cfg ls' g' where
  narrow := hnarrow
  tasks := fun sub hsub => by
    rcases hloops sub hsub with hold | hnew
    · have htask := h.tasks sub hold
      exact ⟨htask.narrow, fun frame hframe => (htask.business frame hframe).mono hls hasked⟩
    · exact hnew
  frames := fun f hf => by
    rcases hscenes f hf with hold | hnew
    · have hframe := h.frames f hold
      refine ⟨hframe.narrow, hframe.binding, fun hkind => ?_⟩
      obtain ⟨s, hclient, hasks⟩ := hframe.business hkind
      exact ⟨s, hclient, hasks.mono hls hasked⟩
    · exact hnew

section Still

/-- What leads to the scenes has not been touched. -/
structure Still (g g' : GatewayDispatcher) : Prop where
  services : g'.services = g.services
  loops : g'.loops = g.loops
  asked : g'.asked = g.asked
  toScenes : g'.toScenes = g.toScenes

theorem Still.refl (g : GatewayDispatcher) : Still g g := ⟨rfl, rfl, rfl, rfl⟩

theorem Still.trans {g'' : GatewayDispatcher} (h : Still g g') (h' : Still g' g'') : Still g g'' :=
  ⟨h'.services.trans h.services, h'.loops.trans h.loops, h'.asked.trans h.asked,
    h'.toScenes.trans h.toScenes⟩

theorem Traffic.still (h : Traffic cfg ls g) (hstill : Still g g') : Traffic cfg ls g' :=
  h.next (fun _ => id) (hstill.services ▸ h.narrow) (by rw [hstill.asked]; exact fun _ => id)
    (fun _ hsub => .inl (hstill.loops ▸ hsub)) fun _ hf => .inl (hstill.toScenes ▸ hf)

theorem still_sendToClient (s : ClientSession) (head : ClientHeader) (body : Bytes) (cause : Cause) :
    Still g (g.sendToClient s head body cause) := by
  unfold sendToClient
  split <;> exact ⟨rfl, rfl, rfl, rfl⟩

theorem still_rejectClient (s : ClientSession) (requestId method : Nat) (reason : String)
    (cause : Cause) : Still g (g.rejectClient s requestId method reason cause) :=
  still_sendToClient ..

theorem still_forceClose (conn : ConnName) : Still g (g.forceClose conn) := ⟨rfl, rfl, rfl, rfl⟩

theorem still_kick (kicked : Nat) : Still g (g.kick kicked) := by
  unfold kick
  split
  · exact .refl g
  · dsimp only
    split <;> exact ⟨rfl, rfl, rfl, rfl⟩

theorem still_foldl {α : Type} {f : GatewayDispatcher → α → GatewayDispatcher}
    (hf : ∀ g a, Still g (f g a)) (as : List α) : Still g (as.foldl f g) := by
  induction as generalizing g with
  | nil => exact .refl g
  | cons a as ih => exact (hf g a).trans ih

theorem still_handleResponse (origin : ServiceEndpoint) (conn : ConnName) (hd : Header)
    (body : Bytes) (r : ReturnRoute) : Still g (g.handleResponse origin conn hd body r) := by
  unfold handleResponse
  split
  · exact still_forceClose conn
  have herase : Still g { g with routes := g.routes.erase hd.seq } := ⟨rfl, rfl, rfl, rfl⟩
  dsimp only
  split
  · exact herase
  split
  · exact herase
  split
  · exact herase.trans (still_sendToClient ..)
  · exact herase

theorem still_handleShout (hd : Header) (body : Bytes) : Still g (g.handleShout hd body) := by
  unfold handleShout
  split
  · exact .refl g
  split
  · exact .refl g
  split
  · exact .refl g
  · exact still_foldl (fun _ _ => still_sendToClient ..) _

theorem still_handlePush (origin : ServiceEndpoint) (conn : ConnName) (hd : Header)
    (body : Bytes) : Still g (g.handlePush origin conn hd body) := by
  unfold handlePush
  dsimp only
  repeat' split
  all_goals
    first
    | exact .refl g
    | exact still_forceClose conn
    | exact still_sendToClient ..

theorem still_timeOut (route : ReturnRoute) : Still g (g.timeOut route) := by
  unfold timeOut
  split
  · exact .refl g
  split
  · exact still_sendToClient ..
  · exact .refl g

theorem still_sweepRoutes (nowMs : Int) : Still g (g.sweepRoutes cfg nowMs) := by
  have hroutes : Still g { g with routes := (g.routes.sweepExpired nowMs cfg.routeTtlMs).2 } :=
    ⟨rfl, rfl, rfl, rfl⟩
  exact hroutes.trans (still_foldl (fun _ _ => still_timeOut _) _)

theorem still_refuseSubmission (sub : SceneSubmission) : Still g (g.refuseSubmission sub) := by
  unfold refuseSubmission
  split
  · exact .refl g
  split
  · exact .refl g
  · rename_i route routes _
    have hroutes : Still g { g with routes := routes } := ⟨rfl, rfl, rfl, rfl⟩
    dsimp only
    split
    · exact hroutes
    split
    · exact hroutes.trans (still_rejectClient ..)
    · exact hroutes

end Still

section Handlers

theorem Traffic.notify (h : Traffic cfg ls g) (s : ClientSession) (online : Bool) :
    Traffic cfg ls (g.notifySceneBinding cfg s online) := by
  rw [notifySceneBinding_eq]
  refine h.next (fun _ => id) h.narrow (fun _ => id) (fun sub hsub => ?_) fun _ => .inl
  rcases List.mem_append.mp hsub with hsub | hsub
  · exact .inl hsub
  · have hsub := Option.mem_toList.mp hsub
    unfold bindingTask at hsub
    split at hsub
    · obtain ⟨ep, hep, rfl⟩ := Option.map_eq_some_iff.mp hsub
      exact .inr ⟨narrow_boundEndpoint h.narrow hep, fun frame hframe => by cases hframe⟩
    · cases hsub

theorem Traffic.handleAuth (h : Traffic cfg ls g) (s : ClientSession) (hd : ClientHeader)
    (body : Bytes) : Traffic cfg ls (g.handleAuth cfg s hd body) := by
  unfold GatewayDispatcher.handleAuth
  split
  · rename_i reason final _
    have hreject := h.still (still_rejectClient s hd.requestId ClientSysMethod.kAuthFail reason .reply)
    dsimp only
    split
    · exact hreject.still (still_forceClose _)
    · exact hreject
  · unfold GatewayDispatcher.login
    dsimp only
    split
    · exact h
    rename_i kicked sessions _
    have hbound : Traffic cfg ls { g with sessions := sessions } := h.still ⟨rfl, rfl, rfl, rfl⟩
    have hkicked := hbound.still (still_kick kicked)
    split
    · exact hkicked
    · exact (hkicked.notify _ true).still (still_sendToClient ..)

theorem Traffic.handleBindService (h : Traffic cfg ls g) (s : ClientSession) (hd : ClientHeader)
    (body : Bytes) : Traffic cfg ls (g.handleBindService cfg s hd body) := by
  unfold GatewayDispatcher.handleBindService
  split
  · exact h.still (still_rejectClient ..)
  split
  · exact h.still (still_rejectClient ..)
  unfold switchService
  split
  · exact h.still (still_rejectClient ..)
  rename_i serviceId _ _ sessions _
  have hset : Traffic cfg ls { g with sessions := sessions } := h.still ⟨rfl, rfl, rfl, rfl⟩
  have hoff : Traffic cfg ls
      (if serviceId ≠ s.dstService then
        ({ g with sessions := sessions } : GatewayDispatcher).notifySceneBinding cfg s false
      else { g with sessions := sessions }) := by
    split
    · exact hset.notify s false
    · exact hset
  dsimp only at hoff ⊢
  revert hoff
  generalize (if serviceId ≠ s.dstService then _ else _ : GatewayDispatcher) = g₁
  intro hoff
  split
  · exact hoff.still (still_sendToClient ..)
  · exact (hoff.notify _ true).still (still_sendToClient ..)

/-- A backend is chosen for the session that asks. -/
theorem Traffic.chooseBackend (h : Traffic cfg ls g) {s : ClientSession} {dst : Nat}
    (hs : g.sessions.get s.sessionId = some s) :
    Traffic cfg ls (g.chooseBackend cfg s dst).2 ∧
      ∀ s' ep, (g.chooseBackend cfg s dst).1 = some (s', ep) → s'.sessionId = s.sessionId ∧
        (dst = ServerID.kScene → ep.sceneId < 2 ^ 32) := by
  unfold GatewayDispatcher.chooseBackend
  split
  · rename_i hdst
    refine ⟨h, fun s' ep hout => ?_⟩
    obtain ⟨ep', -, heq⟩ := Option.map_eq_some_iff.mp hout
    cases heq
    exact ⟨rfl, fun heq => absurd heq hdst⟩
  split
  · refine ⟨h, fun s' ep hout => ?_⟩
    obtain ⟨ep', hep, heq⟩ := Option.map_eq_some_iff.mp hout
    cases heq
    exact ⟨rfl, fun _ => narrow_boundEndpoint h.narrow hep⟩
  have hsel : Narrow (GatewayDispatcher.selectScene cfg g.services s).2 := narrow_selectScene h.narrow s
  revert hsel
  generalize GatewayDispatcher.selectScene cfg g.services s = out
  intro hsel
  obtain ⟨_ | ep, services⟩ := out
  · exact ⟨h.next (fun _ => id) hsel (fun _ => id) (fun _ => .inl) fun _ => .inl, by simp⟩
  have hset : Traffic cfg ls
      { g with
        services := services
        sessions := g.sessions.setSceneBinding s.sessionId ep.sceneId ep.channelId
          ep.sceneIncarnation ep.connName } :=
    h.next (fun _ => id) hsel (fun _ => id) (fun _ => .inl) fun _ => .inl
  have hkept : ∀ s', (g.sessions.setSceneBinding s.sessionId ep.sceneId ep.channelId
      ep.sceneIncarnation ep.connName).get s.sessionId = some s' → s'.sessionId = s.sessionId := by
    intro s' hs'
    rcases g.sessions.setSceneBinding_cases s.sessionId ep.sceneId ep.channelId
      ep.sceneIncarnation ep.connName with heq | ⟨_, _, _, old, hold, _, _, _, heq⟩
    · rw [heq] at hs'
      cases hs.symm.trans hs'
      rfl
    · rw [heq] at hs'
      cases hs.symm.trans hold
      simp only [ClientSessionTable.get, Table.lookup_insert_same] at hs'
      cases hs'
      rfl
  dsimp only
  split
  · exact ⟨hset, by simp⟩
  · rename_i s₁ hs₁
    refine ⟨hset, fun s' ep' hout => ?_⟩
    obtain ⟨ep₁, hep₁, heq⟩ := Option.map_eq_some_iff.mp hout
    cases heq
    exact ⟨hkept _ hs₁, fun _ => narrow_boundEndpoint hset.narrow hep₁⟩

theorem backendBody_scene {s : ClientSession} {ep : ServiceEndpoint} {hd : ClientHeader}
    {body out : Bytes} (h : backendBody cfg s ep ServerID.kScene hd body = .ok out) :
    hd.module ≠ GatewayPlayer.kModule ∧
      out = GatewayPlayer.pack (clientData cfg s ep) body := by
  unfold backendBody at h
  rw [if_pos rfl] at h
  split at h
  · cases h
  · rename_i hno
    cases h
    exact ⟨fun heq => hno (.inr heq), rfl⟩

theorem Traffic.forward (h : Traffic cfg ls g) {s : ClientSession} {ep : ServiceEndpoint} {dst : Nat}
    {hd : ClientHeader} {body : Bytes} {nowMs : Int} {r : ReturnRoute}
    (hep : dst = ServerID.kScene → ep.sceneId < 2 ^ 32)
    (hstep : .clientFrame s.sessionId hd body nowMs ∈ ls) (hr : (r, some s) ∈ g.asked)
    (hauthed : s.authed = true) (hkind : hd.kind = .request) (hmodule : hd.module ≠ kClientSysModule) :
    Traffic cfg ls (g.forward cfg s ep dst hd body r) := by
  unfold GatewayDispatcher.forward
  split
  · refine Traffic.still (g := { g with routes := g.routes.erase r.internalSeq }) ?_
      (still_rejectClient ..)
    exact h.still ⟨rfl, rfl, rfl, rfl⟩
  rename_i out hout
  dsimp only
  split
  · rename_i hdst
    rw [hdst] at hout
    obtain ⟨hplayer, rfl⟩ := backendBody_scene hout
    refine h.next (fun _ => id) h.narrow (fun _ => id) (fun sub hsub => ?_) fun _ => .inl
    rcases List.mem_append.mp hsub with hsub | hsub
    · exact .inl hsub
    · cases List.mem_singleton.mp hsub
      refine .inr ⟨hep hdst, fun frame hframe => ?_⟩
      cases hframe
      exact ⟨hd, body, nowMs, r, hstep, hr, hauthed, hkind, hmodule, hplayer, by rw [hdst]⟩
  · split
    · exact h.still ⟨rfl, rfl, rfl, rfl⟩
    · exact h

theorem refusal_kind {s : ClientSession} {hd : ClientHeader} (h : refusal cfg s hd = none) :
    hd.kind = .request := by
  unfold refusal at h
  split at h
  · cases h
  · rename_i hkind
    exact not_not.mp hkind

theorem Traffic.handleRequest (h : Traffic cfg ls g) {s : ClientSession} {hd : ClientHeader}
    {body : Bytes} {nowMs : Int} (hs : g.sessions.get s.sessionId = some s)
    (hstep : .clientFrame s.sessionId hd body nowMs ∈ ls) (hmodule : hd.module ≠ kClientSysModule) :
    Traffic cfg ls (g.handleRequest cfg s hd body nowMs) := by
  unfold GatewayDispatcher.handleRequest
  split
  · exact h.still (still_rejectClient ..)
  rename_i hrefusal
  dsimp only
  have hspec := (@chooseBackend_spec cfg g s (targetService cfg s hd) hs (refusal_authed hrefusal)).2
  have htraffic := @Traffic.chooseBackend cfg g ls h s (targetService cfg s hd) hs
  revert hspec htraffic
  generalize targetService cfg s hd = dst
  generalize g.chooseBackend cfg s dst = out
  intro hspec htraffic
  obtain ⟨_ | ⟨s', ep⟩, g₁⟩ := out
  · exact htraffic.1.still (still_rejectClient ..)
  have hc := hspec s' ep rfl
  obtain ⟨hid, hep⟩ := htraffic.2 s' ep rfl
  dsimp only
  split
  · refine Traffic.still (g := { g₁ with nextSeq := g₁.nextSeq + 1 }) ?_ (still_rejectClient ..)
    exact htraffic.1.still ⟨rfl, rfl, rfl, rfl⟩
  · rename_i routes _
    have hstep : .clientFrame s'.sessionId hd body nowMs ∈ ls := hid.symm ▸ hstep
    refine Traffic.forward ?_ hep hstep ?_ hc.authed (refusal_kind hrefusal) hmodule
    · exact htraffic.1.next (fun _ => id) htraffic.1.narrow (List.subset_append_left _ _)
        (fun _ => .inl) fun _ => .inl
    · rw [hc.found]
      exact List.mem_append_right _ List.mem_cons_self

theorem Traffic.handleClientFrame (h : Traffic cfg ls g) (hsane : Sane cfg g) {sid : Nat}
    {hd : ClientHeader} {body : Bytes} {nowMs : Int} (hstep : .clientFrame sid hd body nowMs ∈ ls) :
    Traffic cfg ls (g.handleClientFrame cfg sid hd body nowMs) := by
  unfold GatewayDispatcher.handleClientFrame
  split
  · exact h
  rename_i s hs
  obtain ⟨rfl, -⟩ := hsane.sessions.key _ s hs
  split
  · split
    · exact h.still (still_rejectClient ..)
    split
    · exact h.handleAuth s hd body
    split
    · exact h.handleBindService s hd body
    split
    · exact h.still (still_sendToClient ..)
    · exact h.still (still_rejectClient ..)
  · rename_i hno
    exact h.handleRequest hs hstep fun heq => hno (.inr heq)

theorem announced_small {hd : Header} {body : Bytes} {hs : BackendHandshake}
    (h : announced cfg hd body = some hs) : hs.sceneId < 2 ^ 32 := by
  have hunpack := (Option.filter_eq_some_iff.mp h).1
  unfold unpackBackendHandshake at hunpack
  split at hunpack
  · cases hunpack
  · dsimp only at hunpack
    split at hunpack
    · cases hunpack
      exact Nat.lt_of_lt_of_le (Net.getLE_lt _)
        (Nat.pow_le_pow_right (by decide) (List.length_take_le 4 _))
    · cases hunpack

theorem Traffic.handleHandshake (h : Traffic cfg ls g) (conn : ConnName) (hd : Header)
    (body : Bytes) : Traffic cfg ls (g.handleHandshake cfg conn hd body) := by
  have hreg : ∀ services, Narrow services → Traffic cfg ls { g with services := services } :=
    fun services hs => h.next (fun _ => id) hs (fun _ => id) (fun _ => .inl) fun _ => .inl
  unfold GatewayDispatcher.handleHandshake
  split
  · exact h.still (still_forceClose conn)
  rename_i hs hhs
  dsimp only
  have hbind : Narrow (g.services.bind
      { connName := conn, serviceId := hs.serviceId, zoneId := hs.zoneId, sceneId := hs.sceneId
        channelId := hs.channelId, sceneIncarnation := hs.sceneIncarnation }).2 :=
    h.narrow.bind (announced_small hhs)
  revert hbind
  generalize g.services.bind _ = out
  intro hbind
  obtain ⟨_ | oldConn, services⟩ := out
  · exact (hreg services hbind).still (still_forceClose conn)
  dsimp only at hbind ⊢
  split
  · exact hreg services hbind
  have hremove := hbind.removeByName oldConn
  revert hremove
  generalize services.removeByName oldConn = out
  intro hremove
  obtain ⟨_ | removed, services'⟩ := out
  · exact hreg services' hremove
  · exact (hreg services' hremove).still (still_forceClose oldConn)

theorem Traffic.handleBackendFrame (h : Traffic cfg ls g) (conn : ConnName) (hd : Header)
    (body : Bytes) : Traffic cfg ls (g.handleBackendFrame cfg conn hd body) := by
  unfold GatewayDispatcher.handleBackendFrame
  split
  · exact h.handleHandshake conn hd body
  split
  · exact h.still (still_forceClose conn)
  split
  · exact h
  split
  · exact h.still (still_forceClose conn)
  split
  · exact h.still (still_handleResponse ..)
  split
  · exact h.still (still_handleShout ..)
  split
  · exact h.still (still_handlePush ..)
  · exact h

/-- What a task writes. -/
theorem TaskTraffic.frames {sub : SceneSubmission} (h : TaskTraffic cfg ls g sub) {declare : Bool}
    {f : SceneFrame} (hf : f ∈ sceneFrames cfg sub declare) : FrameTraffic cfg ls g f := by
  unfold sceneFrames at hf
  rcases List.mem_append.mp hf with hf | hf
  · split at hf
    · cases List.mem_singleton.mp hf
      refine ⟨h.narrow, fun _ => ⟨sub.session, ?_⟩, fun hkind => ?_⟩
      · unfold bindingFrame
        cases sub.online <;> simp
      · unfold bindingFrame at hkind
        cases honline : sub.online <;> simp [honline] at hkind
    · cases hf
  · split at hf
    · cases hf
    · rename_i frame hframe
      cases List.mem_singleton.mp hf
      exact ⟨h.narrow, fun hkind => absurd rfl hkind, fun _ =>
        ⟨sub.session, rfl, h.business frame hframe⟩⟩

theorem Traffic.runSubmission (h : Traffic cfg ls g) {sub : SceneSubmission}
    (hsub : TaskTraffic cfg ls g sub) (sendOk : Bool) :
    Traffic cfg ls (g.runSubmission cfg sub sendOk) := by
  have hwritten : ∀ sessions declare, Traffic cfg ls
      { g with sessions := sessions, toScenes := g.toScenes ++ sceneFrames cfg sub declare } := by
    intro sessions declare
    refine h.next (fun _ => id) h.narrow (fun _ => id) (fun _ => .inl) fun f hf => ?_
    rcases List.mem_append.mp hf with hf | hf
    · exact .inl hf
    · obtain ⟨hnarrow, hbinding, hbusiness⟩ := hsub.frames hf
      exact .inr ⟨hnarrow, hbinding, hbusiness⟩
  unfold GatewayDispatcher.runSubmission
  dsimp only
  split
  · exact h.still (still_refuseSubmission sub)
  rename_i frames sessions hattempt
  have hframes : ∃ declare, frames = sceneFrames cfg sub declare := by
    split at hattempt
    · obtain ⟨s, -, -, hout, -⟩ := ClientSessionTable.submitScene_spec hattempt
      split at hout
      · exact ⟨_, (Option.some.inj hout).symm⟩
      · cases hout
    · obtain ⟨fs, hout, heq⟩ := Option.map_eq_some_iff.mp hattempt
      cases heq
      split at hout
      · exact ⟨_, (Option.some.inj hout).symm⟩
      · cases hout
  obtain ⟨declare, rfl⟩ := hframes
  split
  · exact (h.still (still_forceClose _)).still (still_refuseSubmission sub)
  · exact hwritten sessions declare

end Handlers

/-- All that is under way to a scene is as it should be, whatever steps the gateway takes. -/
theorem traffic_step {l : Step} (hsane : Sane cfg g) (h : Traffic cfg ls g)
    (hstep : step cfg g l = some g') : Traffic cfg (ls ++ [l]) g' := by
  have h : Traffic cfg (ls ++ [l]) g :=
    h.next (List.subset_append_left _ _) h.narrow (fun _ => id) (fun _ => .inl) fun _ => .inl
  cases l with
  | clientConnected =>
    cases hstep
    unfold onClientConnected
    dsimp only
    split
    · exact h.still ⟨rfl, rfl, rfl, rfl⟩
    · exact h.still ⟨rfl, rfl, rfl, rfl⟩
  | clientClosed sid =>
    obtain ⟨-, hstep⟩ := Option.ite_none_right_eq_some.mp hstep
    cases hstep
    unfold onClientClosed
    split
    · exact h.still ⟨rfl, rfl, rfl, rfl⟩
    · exact (h.notify _ false).still ⟨rfl, rfl, rfl, rfl⟩
  | clientFrame sid hd body nowMs =>
    cases hstep
    exact h.handleClientFrame hsane (List.mem_append_right _ List.mem_cons_self)
  | backendConnected =>
    cases hstep
    exact h.next (fun _ => id) (h.narrow.addPending _) (fun _ => id) (fun _ => .inl) fun _ => .inl
  | backendClosed conn =>
    obtain ⟨-, hstep⟩ := Option.ite_none_left_eq_some.mp hstep
    cases hstep
    exact h.next (fun _ => id) (h.narrow.removeByName conn) (fun _ => id) (fun _ => .inl) fun _ => .inl
  | backendFrame conn hd body =>
    cases hstep
    exact h.handleBackendFrame conn hd body
  | sweep nowMs =>
    cases hstep
    exact h.still (still_sweepRoutes nowMs)
  | runLoop conn sendOk =>
    obtain ⟨⟨sub, rest⟩, hnext, rfl⟩ := Option.map_eq_some_iff.mp hstep
    have hrest : Traffic cfg (ls ++ [.runLoop conn sendOk]) { g with loops := rest } :=
      h.next (fun _ => id) h.narrow (fun _ => id)
        (fun x hx => .inl ((mem_of_nextTask hnext).2 x hx)) fun _ => .inl
    refine hrest.runSubmission ?_ sendOk
    obtain ⟨hnarrow, hbusiness⟩ := h.tasks sub (mem_of_nextTask hnext).1
    exact ⟨hnarrow, hbusiness⟩
  | lose conn =>
    cases hstep
    exact h.still (still_forceClose conn)

section Growth

/-- What was written stays written, and numbers are not given out again. -/
structure Grows (g g' : GatewayDispatcher) : Prop where
  toScenes : g.toScenes <+: g'.toScenes
  names : g.nextConnId ≤ g'.nextConnId
  sessions : g.sessions.nextSessionId ≤ g'.sessions.nextSessionId

theorem Grows.refl (g : GatewayDispatcher) : Grows g g := ⟨List.prefix_refl _, le_rfl, le_rfl⟩

theorem Grows.trans {g'' : GatewayDispatcher} (h : Grows g g') (h' : Grows g' g'') : Grows g g'' :=
  ⟨h.toScenes.trans h'.toScenes, h.names.trans h'.names, h.sessions.trans h'.sessions⟩

theorem Effect.grows (heff : Effect cfg g g') : Grows g g' := by
  have hnames := heff.nextConnId_le
  cases heff with
  | opened => exact ⟨List.prefix_refl _, hnames, Nat.le_succ _⟩
  | assigned sid sceneId channelId incarnation conn =>
    exact ⟨List.prefix_refl _, hnames,
      (ClientSessionTable.nextSessionId_setSceneBinding g.sessions ..).ge⟩
  | declared | withdrawn => exact ⟨List.prefix_append _ _, hnames, le_rfl⟩
  | swept nowMs =>
    rw [sweepRoutes_eq]
    exact ⟨List.prefix_refl _, le_rfl, le_rfl⟩
  | _ => exact ⟨List.prefix_refl _, hnames, le_rfl⟩

theorem grows_step {l : Step} (hsane : Sane cfg g) (hstep : step cfg g l = some g') :
    Grows g g' := by
  refine step_induction hsane hstep (fun g₁ hmaj h => h.trans ?_)
    (fun x y _ heff h => h.trans heff.grows) (.refl g)
  obtain ⟨hnames, hsessions⟩ := hmaj.counters
  refine ⟨?_, hnames.ge, hsessions.ge⟩
  cases hmaj with
  | closed sid hconn =>
    rw [onClientClosed_eq]
  | login s p dst kicked t hp hdst hbound =>
    rw [(relogged_logs cfg g t kicked _).2.1]
  | switched s s' service t hservice hauthed hne hsw =>
    rw [notifySceneBinding_eq]

end Growth

end GatewayDispatcher

end Gateway
