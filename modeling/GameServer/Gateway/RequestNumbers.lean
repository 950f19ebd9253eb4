import GameServer.Gateway.SceneTraffic

/-!
# Requests are written once

A request gets a number of its own. It waits in one task at most, and when the task has been run it
stands in one frame at most: no number is queued or written twice.
-/

namespace Gateway

namespace GatewayDispatcher

variable {cfg : DispatcherConfig} {g g' : GatewayDispatcher}

def taskNumber (sub : SceneSubmission) : Option Nat :=
  sub.businessFrame.map (·.head.seq)

def frameNumber (f : SceneFrame) : Option Nat :=
  if f.kind = .business then some f.frame.head.seq else none

/-- The numbers of the requests that are queued or were written. -/
def numbers (g : GatewayDispatcher) : List Nat :=
  g.loops.filterMap taskNumber ++ g.toScenes.filterMap frameNumber

/-- The invariant. -/
structure Once (g : GatewayDispatcher) : Prop where
  nodup : g.numbers.Nodup
  given : ∀ k ∈ g.numbers, k < g.nextSeq

theorem once_init : Once (init cfg) where
  nodup := List.nodup_nil
  given := by simp [numbers, init]

theorem Still.numbers (h : Still g g') : g'.numbers = g.numbers := by
  unfold GatewayDispatcher.numbers
  rw [h.loops, h.toScenes]

theorem numbers_notify (s : ClientSession) (online : Bool) :
    (g.notifySceneBinding cfg s online).numbers = g.numbers := by
  have hnone : (bindingTask cfg g s online).toList.filterMap taskNumber = [] := by
    rw [List.filterMap_eq_nil_iff]
    intro sub hsub
    have hsub := Option.mem_toList.mp hsub
    unfold bindingTask at hsub
    split at hsub
    · obtain ⟨ep, -, rfl⟩ := Option.map_eq_some_iff.mp hsub
      rfl
    · cases hsub
  rw [notifySceneBinding_eq]
  unfold numbers
  rw [List.filterMap_append, hnone, List.append_nil]

theorem Effect.nextSeq_le (heff : Effect cfg g g') : g.nextSeq ≤ g'.nextSeq := by
  cases heff with
  | skipped | added => exact Nat.le_succ _
  | swept nowMs =>
    rw [sweepRoutes_eq]
  | _ => exact le_rfl

theorem nextSeq_le_step {l : Step} (hsane : Sane cfg g) (hstep : step cfg g l = some g') :
    g.nextSeq ≤ g'.nextSeq := by
  refine @step_induction cfg g g' l (fun x => g.nextSeq ≤ x.nextSeq) hsane hstep
    (fun g₁ hmaj _ => ?_) (fun x y _ heff h => Nat.le_trans h heff.nextSeq_le) le_rfl
  cases hmaj with
  | closed sid hconn =>
    rw [onClientClosed_eq]
  | login s p dst kicked t hp hdst hbound =>
    rw [(relogged_fields cfg g t kicked _).2.2.2.1]
  | switched s s' service t hservice hauthed hne hsw =>
    rw [notifySceneBinding_eq]

section Handlers

theorem numbers_handleAuth (s : ClientSession) (hd : ClientHeader) (body : Bytes) :
    (g.handleAuth cfg s hd body).numbers = g.numbers := by
  unfold handleAuth
  split
  · rename_i reason final _
    have hreject := (still_rejectClient (g := g) s hd.requestId ClientSysMethod.kAuthFail reason
      .reply).numbers
    dsimp only
    split
    · exact (still_forceClose _).numbers.trans hreject
    · exact hreject
  · unfold login
    dsimp only
    split
    · rfl
    rename_i kicked sessions _
    have hkicked := (still_kick (g := { g with sessions := sessions }) kicked).numbers
    split
    · exact hkicked
    · exact (still_sendToClient ..).numbers.trans ((numbers_notify _ true).trans hkicked)

theorem numbers_handleBindService (s : ClientSession) (hd : ClientHeader) (body : Bytes) :
    (g.handleBindService cfg s hd body).numbers = g.numbers := by
  unfold handleBindService
  split
  · exact (still_rejectClient ..).numbers
  split
  · exact (still_rejectClient ..).numbers
  unfold switchService
  split
  · exact (still_rejectClient ..).numbers
  rename_i serviceId _ _ sessions _
  have hoff : (if serviceId ≠ s.dstService then
        ({ g with sessions := sessions } : GatewayDispatcher).notifySceneBinding cfg s false
      else { g with sessions := sessions }).numbers = g.numbers := by
    split
    · exact numbers_notify (g := { g with sessions := sessions }) s false
    · rfl
  dsimp only at hoff ⊢
  revert hoff
  generalize (if serviceId ≠ s.dstService then _ else _ : GatewayDispatcher) = g₁
  intro hoff
  split
  · exact (still_sendToClient ..).numbers.trans hoff
  · exact (still_sendToClient ..).numbers.trans ((numbers_notify _ true).trans hoff)

/-- The choice of a backend leaves all that was queued and written. -/
theorem work_chooseBackend (s : ClientSession) (dst : Nat) :
    (g.chooseBackend cfg s dst).2.numbers = g.numbers ∧
      (g.chooseBackend cfg s dst).2.nextSeq = g.nextSeq := by
  unfold chooseBackend
  split
  · exact ⟨rfl, rfl⟩
  split
  · exact ⟨rfl, rfl⟩
  split
  · exact ⟨rfl, rfl⟩
  · dsimp only
    split <;> exact ⟨rfl, rfl⟩

/-- A request that is forwarded to a scene takes its number along. -/
theorem numbers_forward (s : ClientSession) (ep : ServiceEndpoint) (dst : Nat) (hd : ClientHeader)
    (body : Bytes) (r : ReturnRoute) :
    (g.forward cfg s ep dst hd body r).numbers = g.numbers ∨
      (g.forward cfg s ep dst hd body r).numbers.Perm (r.internalSeq :: g.numbers) := by
  unfold forward
  split
  · exact .inl (still_rejectClient (g := { g with routes := g.routes.erase r.internalSeq }) ..).numbers
  dsimp only
  split
  · right
    unfold numbers queueSceneSubmission
    rw [List.filterMap_append]
    dsimp only [taskNumber, List.filterMap_cons, List.filterMap_nil, Option.map_some,
      makeHeader]
    rw [List.append_assoc]
    exact List.perm_middle
  · split
    · exact .inl rfl
    · exact .inl rfl

theorem nextSeq_forward (s : ClientSession) (ep : ServiceEndpoint) (dst : Nat) (hd : ClientHeader)
    (body : Bytes) (r : ReturnRoute) : (g.forward cfg s ep dst hd body r).nextSeq = g.nextSeq := by
  unfold forward
  split
  · unfold rejectClient sendToClient
    split <;> rfl
  · dsimp only
    split
    · rfl
    · split <;> rfl

theorem numbers_handleRequest (s : ClientSession) (hd : ClientHeader) (body : Bytes) (nowMs : Int) :
    (g.handleRequest cfg s hd body nowMs).numbers = g.numbers ∨
      (g.handleRequest cfg s hd body nowMs).numbers.Perm (g.nextSeq :: g.numbers) ∧
        (g.handleRequest cfg s hd body nowMs).nextSeq = g.nextSeq + 1 := by
  unfold handleRequest
  split
  · exact .inl (still_rejectClient ..).numbers
  dsimp only
  have hwork := @work_chooseBackend cfg g s (targetService cfg s hd)
  revert hwork
  generalize targetService cfg s hd = dst
  generalize g.chooseBackend cfg s dst = out
  intro hwork
  obtain ⟨_ | ⟨s', ep⟩, g₁⟩ := out
  · exact .inl ((still_rejectClient ..).numbers.trans hwork.1)
  obtain ⟨hnumbers, hseq⟩ := hwork
  dsimp only at hnumbers hseq ⊢
  split
  · exact .inl ((still_rejectClient (g := { g₁ with nextSeq := g₁.nextSeq + 1 }) ..).numbers.trans
      hnumbers)
  · rename_i routes _
    have hforward := @numbers_forward cfg
      { g₁ with
        nextSeq := g₁.nextSeq + 1
        routes := routes
        asked := g₁.asked ++ [(returnRoute s' ep dst hd g₁.nextSeq nowMs,
          g₁.sessions.get s'.sessionId)] }
      s' ep dst hd body (returnRoute s' ep dst hd g₁.nextSeq nowMs)
    rcases hforward with hsame | hmore
    · exact .inl (hsame.trans hnumbers)
    · refine .inr ⟨?_, (nextSeq_forward ..).trans (congrArg (· + 1) hseq)⟩
      rw [← hnumbers, ← hseq]
      exact hmore

theorem numbers_handleClientFrame (sid : Nat) (hd : ClientHeader) (body : Bytes) (nowMs : Int) :
    (g.handleClientFrame cfg sid hd body nowMs).numbers = g.numbers ∨
      (g.handleClientFrame cfg sid hd body nowMs).numbers.Perm (g.nextSeq :: g.numbers) ∧
        (g.handleClientFrame cfg sid hd body nowMs).nextSeq = g.nextSeq + 1 := by
  unfold handleClientFrame
  split
  · exact .inl rfl
  split
  · left
    split
    · exact (still_rejectClient ..).numbers
    split
    · exact numbers_handleAuth ..
    split
    · exact numbers_handleBindService ..
    split
    · exact (still_sendToClient ..).numbers
    · exact (still_rejectClient ..).numbers
  · exact numbers_handleRequest ..

theorem numbers_handleBackendFrame (conn : ConnName) (hd : Header) (body : Bytes) :
    (g.handleBackendFrame cfg conn hd body).numbers = g.numbers := by
  unfold handleBackendFrame
  split
  · unfold handleHandshake
    split
    · rfl
    · split
      · rfl
      · dsimp only
        split
        · rfl
        · split <;> rfl
  split
  · rfl
  split
  · rfl
  split
  · rfl
  split
  · exact (still_handleResponse ..).numbers
  split
  · exact (still_handleShout ..).numbers
  split
  · exact (still_handlePush ..).numbers
  · rfl

theorem filterMap_sceneFrames (sub : SceneSubmission) (declare : Bool) :
    (sceneFrames cfg sub declare).filterMap frameNumber = (taskNumber sub).toList := by
  have hbinding : ∀ online, frameNumber (bindingFrame cfg sub.session sub.endpoint online) = none := by
    intro online
    cases online <;> rfl
  unfold sceneFrames taskNumber
  rw [List.filterMap_append]
  cases sub.businessFrame with
  | none => split <;> simp [hbinding]
  | some frame =>
    have hframe : frameNumber
        { endpoint := sub.endpoint, kind := .business
          client := clientData cfg sub.session sub.endpoint, frame := frame } =
        some frame.head.seq := rfl
    split <;> simp [hbinding, hframe]

/-- The task that is run gives its number to its frame, or the number goes. -/
theorem numbers_runSubmission (sub : SceneSubmission) (sendOk : Bool) :
    (g.runSubmission cfg sub sendOk).numbers = g.numbers ∨
      (g.runSubmission cfg sub sendOk).numbers = g.numbers ++ (taskNumber sub).toList := by
  have hwritten : ∀ sessions declare, ({ g with
      sessions := sessions, toScenes := g.toScenes ++ sceneFrames cfg sub declare } :
        GatewayDispatcher).numbers = g.numbers ++ (taskNumber sub).toList := by
    intro sessions declare
    unfold numbers
    rw [List.filterMap_append, filterMap_sceneFrames, List.append_assoc]
  unfold runSubmission
  dsimp only
  split
  · exact .inl (still_refuseSubmission sub).numbers
  rename_i frames sessions hattempt
  have hframes : ∃ declare, frames = sceneFrames cfg sub declare := by
    split at hattempt
    · obtain ⟨s, -, -, hout, -⟩ := ClientSessionTable.submitScene_spec hattempt
      split at hout
      · exact ⟨_, (Option.some.inj hout).symm⟩
      · cases hout
    · obtain ⟨fs, hout, heq⟩ := Option.map_eq_some_iff.mp hattempt
      cases heq
      split at hout
      · exact ⟨_, (Option.some.inj hout).symm⟩
      · cases hout
  obtain ⟨declare, rfl⟩ := hframes
  split
  · exact .inl ((still_refuseSubmission (g := g.forceClose sub.endpoint.connName) sub).numbers.trans
      (still_forceClose _).numbers)
  · exact .inr (hwritten sessions declare)

theorem perm_nextTask {conn : ConnName} {loops rest : List SceneSubmission} {sub : SceneSubmission}
    (h : nextTask conn loops = some (sub, rest)) : loops.Perm (sub :: rest) := by
  induction loops generalizing rest with
  | nil => cases h
  | cons x loops ih =>
    unfold nextTask at h
    split at h
    · cases h
      exact .refl _
    · obtain ⟨⟨y, rest'⟩, hy, heq⟩ := Option.map_eq_some_iff.mp h
      cases heq
      exact ((ih hy).cons x).trans (.swap y x rest')

end Handlers

/-- A step queues one new number at most, and loses or moves the others. -/
theorem numbers_step {l : Step} (hstep : step cfg g l = some g') :
    g'.numbers.Subperm g.numbers ∨
      g'.numbers.Perm (g.nextSeq :: g.numbers) ∧ g'.nextSeq = g.nextSeq + 1 := by
  have hsame : g'.numbers = g.numbers → g'.numbers.Subperm g.numbers := fun h => h ▸ .refl _
  cases l with
  | clientConnected =>
    cases hstep
    refine .inl (hsame ?_)
    unfold onClientConnected
    dsimp only
    split <;> rfl
  | clientClosed sid =>
    obtain ⟨-, hstep⟩ := Option.ite_none_right_eq_some.mp hstep
    cases hstep
    refine .inl (hsame ?_)
    unfold onClientClosed
    split
    · rfl
    · exact numbers_notify _ false
  | clientFrame sid hd body nowMs =>
    cases hstep
    exact (numbers_handleClientFrame sid hd body nowMs).imp_left hsame
  | backendConnected =>
    cases hstep
    exact .inl (hsame rfl)
  | backendClosed conn =>
    obtain ⟨-, hstep⟩ := Option.ite_none_left_eq_some.mp hstep
    cases hstep
    exact .inl (hsame rfl)
  | backendFrame conn hd body =>
    cases hstep
    exact .inl (hsame (numbers_handleBackendFrame conn hd body))
  | sweep nowMs =>
    cases hstep
    exact .inl (hsame (still_sweepRoutes nowMs).numbers)
  | runLoop conn sendOk =>
    obtain ⟨⟨sub, rest⟩, hnext, rfl⟩ := Option.map_eq_some_iff.mp hstep
    left
    have hperm : g.numbers.Perm ((taskNumber sub).toList ++
        ({ g with loops := rest } : GatewayDispatcher).numbers) := by
      have htasks := (perm_nextTask hnext).filterMap taskNumber
      unfold numbers
      rw [← List.append_assoc]
      refine List.Perm.append_right _ (htasks.trans ?_)
      rw [List.filterMap_cons]
      cases taskNumber sub <;> exact .refl _
    rcases @numbers_runSubmission cfg { g with loops := rest } sub sendOk with heq | heq
    · rw [heq]
      exact (List.sublist_append_right _ _).subperm.trans hperm.symm.subperm
    · rw [heq]
      exact (List.perm_append_comm.trans hperm.symm).subperm
  | lose conn =>
    cases hstep
    exact .inl (hsame rfl)

theorem once_step {l : Step} (hsane : Sane cfg g) (h : Once g) (hstep : step cfg g l = some g') :
    Once g' := by
  have hseq := nextSeq_le_step hsane hstep
  rcases numbers_step hstep with hsub | ⟨hperm, hnext⟩
  · obtain ⟨ks, hks, hsublist⟩ := hsub
    refine ⟨hks.nodup_iff.mp (h.nodup.sublist hsublist), fun k hk => ?_⟩
    exact Nat.lt_of_lt_of_le (h.given k (hsublist.subset (hks.mem_iff.mpr hk))) hseq
  · refine ⟨hperm.nodup_iff.mpr (List.nodup_cons.mpr ⟨fun hin => ?_, h.nodup⟩), fun k hk => ?_⟩
    · exact Nat.lt_irrefl _ (h.given _ hin)
    · rw [hnext]
      rcases List.mem_cons.mp (hperm.mem_iff.mp hk) with rfl | hk
      · exact Nat.lt_succ_self _
      · exact Nat.lt_succ_of_lt (h.given k hk)

end GatewayDispatcher

end Gateway
