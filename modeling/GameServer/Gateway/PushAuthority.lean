import GameServer.Gateway.Steps

/-!
# Who may push what

A frame without a sequence number that names a player is a push. Scenes have a list
of routes they may push, chat and global services their module. A route that is
neither on the list nor of these two modules is checked against nothing.
-/

namespace Gateway

namespace GatewayDispatcher

variable {cfg : DispatcherConfig} {g : GatewayDispatcher} {conn : ConnName} {h : Header}
  {body : Bytes}

/-- The sender is registered as a service that may push the route. -/
def Entitled (g : GatewayDispatcher) (conn : ConnName) (h : Header) : Prop :=
  ∃ origin, g.services.getByName conn = some origin ∧ origin.serviceId ≠ 0 ∧
    (isAllowedScenePush h origin.serviceId = true ∨
      (origin.serviceId = ServerID.kChat ∧ h.module = ServiceModule.kChat) ∨
      (origin.serviceId = ServerID.kGlobal ∧ h.module = ServiceModule.kGlobal))

/-- A push that is delivered to a client comes from a sender that is entitled to it. -/
def PushAuthorised (cfg : DispatcherConfig) (g : GatewayDispatcher) (conn : ConnName) (h : Header)
    (body : Bytes) : Prop :=
  h.seq = 0 → h.playerId ≠ 0 →
    (g.handleBackendFrame cfg conn h body).toClients ≠ g.toClients → Entitled g conn h

/-- The frame is accepted from its sender as one of a service. -/
def Attributed (cfg : DispatcherConfig) (g : GatewayDispatcher) (conn : ConnName) (h : Header)
    (origin : ServiceEndpoint) : Prop :=
  g.services.getByName conn = some origin ∧ origin.serviceId ≠ 0 ∧
    g.superseded origin conn = false ∧ h.srcServiceID = origin.serviceId ∧
    h.dstServiceID = cfg.selfServiceId ∧ h.retrFlag = 0

/-- A push of a module that no branch names, for a player that can be reached. -/
def Unlisted (cfg : DispatcherConfig) (g : GatewayDispatcher) (conn : ConnName) (h : Header) :
    Prop :=
  h.seq = 0 ∧ h.playerId ≠ 0 ∧ ¬ (h.module = kSYS ∧ h.method = kHandshake) ∧
    h.module ≠ ServiceModule.kChat ∧ h.module ≠ ServiceModule.kGlobal ∧
    (∃ origin, Attributed cfg g conn h origin ∧
      isAllowedScenePush h origin.serviceId = false) ∧
    ∃ s, g.sessions.findByPlayer h.playerId = some s ∧ s.conn ∈ g.connected

/-- A handshake sends nothing to clients. -/
theorem toClients_handleHandshake :
    (g.handleHandshake cfg conn h body).toClients = g.toClients := by
  unfold handleHandshake
  split
  · rfl
  simp only
  split
  · rfl
  split
  · rfl
  split <;> rfl

/-- A frame that is not a handshake is dropped or is a service's. -/
theorem handleBackendFrame_cases (hsys : ¬ (h.module = kSYS ∧ h.method = kHandshake)) :
    (g.handleBackendFrame cfg conn h body).toClients = g.toClients ∨
      ∃ origin, Attributed cfg g conn h origin := by
  unfold handleBackendFrame
  rw [if_neg hsys]
  split
  · exact .inl rfl
  rename_i origin horigin
  obtain ⟨hget, hne⟩ := Option.filter_eq_some_iff.mp horigin
  split
  · exact .inl rfl
  rename_i hsuper
  split
  · exact .inl rfl
  rename_i hid
  simp only [not_or, ne_eq, not_not] at hid
  exact .inr ⟨origin, hget, by simpa using hne, by simpa using hsuper, hid.1, hid.2.1, hid.2.2⟩

theorem handleBackendFrame_attributed {origin : ServiceEndpoint} (hseq : h.seq = 0)
    (hplayer : h.playerId ≠ 0) (hsys : ¬ (h.module = kSYS ∧ h.method = kHandshake))
    (ho : Attributed cfg g conn h origin) :
    g.handleBackendFrame cfg conn h body = g.handlePush origin conn h body := by
  obtain ⟨hget, hne, hsuper, h1, h2, h3⟩ := ho
  unfold handleBackendFrame
  rw [if_neg hsys, hget, Option.filter_some, if_pos (by simpa using hne)]
  simp only [hsuper, Bool.false_eq_true, if_false, if_pos hseq]
  rw [if_neg (by simp [h1, h2, h3]), if_neg fun hc => hplayer hc.2.2.2.2, if_pos ⟨hseq, hplayer⟩]

/-- Pushes of the chat and global modules come from their services. -/
theorem entitled_of_named {origin : ServiceEndpoint} (ho : Attributed cfg g conn h origin)
    (hmodule : h.module = ServiceModule.kChat ∨ h.module = ServiceModule.kGlobal)
    (hsent : (g.handlePush origin conn h body).toClients ≠ g.toClients) : Entitled g conn h := by
  refine ⟨origin, ho.1, ho.2.1, ?_⟩
  by_cases hallow : isAllowedScenePush h origin.serviceId = true
  · exact .inl hallow
  unfold handlePush at hsent
  simp only [hallow, if_false, Bool.false_eq_true] at hsent
  split at hsent
  · exact absurd rfl hsent
  rename_i hforged
  simp only [not_or, not_and, ne_eq, not_not] at hforged
  rcases hmodule with hm | hm
  · exact .inr (.inl ⟨hforged.1 hm, hm⟩)
  · exact .inr (.inr ⟨hforged.2 hm, hm⟩)

/-- Pushes are authorised unless they are of a module that no branch names. -/
theorem push_authorised_iff (cfg : DispatcherConfig) (g : GatewayDispatcher) (conn : ConnName)
    (h : Header) (body : Bytes) :
    PushAuthorised cfg g conn h body ↔ ¬ Unlisted cfg g conn h := by
  constructor
  · rintro hauth ⟨hseq, hplayer, hsys, hchat, hglobal, ⟨origin, ho, hallow⟩, s, hs, hconn⟩
    have hsent : (g.handleBackendFrame cfg conn h body).toClients ≠ g.toClients := by
      rw [handleBackendFrame_attributed hseq hplayer hsys ho]
      simp [handlePush, hallow, hchat, hglobal, hs, sendToClient, hconn]
    obtain ⟨origin', hget, _, hcase⟩ := hauth hseq hplayer hsent
    cases ho.1.symm.trans hget
    rcases hcase with hc | ⟨_, hc⟩ | ⟨_, hc⟩
    · rw [hallow] at hc
      cases hc
    · exact hchat hc
    · exact hglobal hc
  · intro hlisted hseq hplayer hsent
    by_cases hsys : h.module = kSYS ∧ h.method = kHandshake
    · unfold handleBackendFrame at hsent
      rw [if_pos hsys, toClients_handleHandshake] at hsent
      exact absurd rfl hsent
    rcases handleBackendFrame_cases hsys with hsame | ⟨origin, ho⟩
    · exact absurd hsame hsent
    rw [handleBackendFrame_attributed hseq hplayer hsys ho] at hsent
    by_cases hmodule : h.module = ServiceModule.kChat ∨ h.module = ServiceModule.kGlobal
    · exact entitled_of_named ho hmodule hsent
    simp only [not_or] at hmodule
    by_cases hallow : isAllowedScenePush h origin.serviceId = true
    · exact ⟨origin, ho.1, ho.2.1, .inl hallow⟩
    -- the route is named nowhere, so the player must be out of reach
    refine absurd ⟨hseq, hplayer, hsys, hmodule.1, hmodule.2,
      ⟨origin, ho, by simpa using hallow⟩, ?_⟩ hlisted
    simp only [handlePush, hallow, hmodule.1, hmodule.2, false_and, or_self, if_false,
      Bool.false_eq_true] at hsent
    cases hs : g.sessions.findByPlayer h.playerId with
    | none => simp [hs] at hsent
    | some s =>
      refine ⟨s, rfl, ?_⟩
      by_contra hconn
      simp [hs, sendToClient, hconn] at hsent

/-- Scene 5 pushes method 1 of module 50 to player 7. -/
theorem unlisted_push_delivered :
    ¬ ∀ cfg ls g, Run.exec (step cfg) (init cfg) ls = some g → ∀ conn h body,
      PushAuthorised cfg g conn h body := by
  intro hclaim
  have hsent : ((Run.exec (step smallZone) (init smallZone)
      [.backendConnected, sceneAnnounced 1 5 9, .clientConnected, authFrame 1 7]).any fun g =>
      (g.handleBackendFrame smallZone 1 (makeHeader (linkTypeOf ServerID.kScene) 50 1 0 7
        ServerID.kScene ServerID.kGateway) []).toClients ≠ g.toClients &&
      (g.services.getByName 1).all fun origin => origin.serviceId = ServerID.kScene) = true := by
    decide +kernel
  obtain ⟨g, hg, hsent⟩ := (Option.any_eq_true _ _).mp hsent
  obtain ⟨hsent, hscene⟩ := Bool.and_eq_true_iff.mp hsent
  obtain ⟨origin, hget, -, hcase⟩ := hclaim _ _ g hg 1 _ [] rfl (by decide) (of_decide_eq_true hsent)
  rw [hget] at hscene
  have hservice : origin.serviceId = ServerID.kScene := of_decide_eq_true hscene
  rw [hservice] at hcase
  revert hcase
  decide

end GatewayDispatcher

end Gateway
