import Mathlib.Tactic.SplitIfs
import GameServer.Lib.Run
import GameServer.Net.NetServer

/-!
# What the workers are told about players

Each worker gets, and will get from what waits for it, a stream of messages in which
online messages rise, offline messages end the binding in force, and all other messages come
under the binding they name. What the stream says of a player in the end is what the
index of the connections says.
-/

namespace Net

open Gateway (Bytes ClientData)
open Gateway.GatewayPlayer (kModule kOnline kOffline unpack valid)

/-- The submits that a log records. -/
def opens (log : List Event) : List (Nat × Nat × Bool) :=
  log.filterMap fun e =>
    match e with
    | .submitted id worker lifecycle => some (id, worker, lifecycle)
    | _ => none

namespace WorkerPendingTasks

/-- The log has grown, and by no submit. -/
structure Quiet (s t : WorkerPendingTasks) : Prop where
  submits : t.submits = s.submits
  grows : s.log <+: t.log
  opens : opens t.log = opens s.log

namespace Quiet

variable {s t u : WorkerPendingTasks}

theorem refl (s : WorkerPendingTasks) : Quiet s s := ⟨rfl, List.prefix_refl _, rfl⟩

theorem trans (h : Quiet s t) (h' : Quiet t u) : Quiet s u :=
  ⟨h'.submits.trans h.submits, h.grows.trans h'.grows, h'.opens.trans h.opens⟩

theorem same (h : Quiet s t) (hsubmits : u.submits = t.submits) (hlog : u.log = t.log) :
    Quiet s u :=
  ⟨hsubmits.trans h.submits, hlog ▸ h.grows, hlog ▸ h.opens⟩

theorem bump (h : Quiet s t) (worker : Nat) (f : Stats → Stats) : Quiet s (t.bump worker f) :=
  h.same rfl rfl

theorem note (h : Quiet s t) {e : Event} (he : Net.opens [e] = []) : Quiet s (t.note e) := by
  refine ⟨h.submits, h.grows.trans (List.prefix_append _ _), ?_⟩
  change Net.opens (t.log ++ [e]) = _
  rw [Net.opens, List.filterMap_append, ← h.opens]
  change _ ++ Net.opens [e] = _
  rw [he]
  exact List.append_nil _

theorem remove (h : Quiet s t) {worker : Nat} {task : Task} {tasks : List Task} {e : Event}
    (he : Net.opens [e] = []) : Quiet s (t.remove worker task tasks e) :=
  (note h he).same rfl rfl

theorem reject {p : Pumping} (h : Quiet s p.tasks) (worker : Nat) (task : Task)
    (tasks : List Task) (code : ErrorCode) (count : Stats → Stats) :
    Quiet s (p.reject worker task tasks code count).tasks :=
  (h.bump worker count).remove rfl

end Quiet

section Calls

variable {c : PendingConfig} {s : WorkerPendingTasks} {now : Nat}
  {send : Nat → Nat → PendingMsg → DispatchResult} {valid : Nat → PendingMsg → Bool}

theorem expireQueue_quiet {p : Pumping} (h : Quiet s p.tasks) (worker : Nat) :
    Quiet s (expireQueue now valid p worker).tasks := by
  refine eraseWhere_rule _ _ (fun p _ => Quiet s p.tasks) (fun p kept t rest _ hp => ?_) _ [] p h
  split <;> exact hp.reject ..

theorem serve_quiet (worker tries : Nat) : ∀ {p : Pumping}, Quiet s p.tasks →
    Quiet s (serve c send worker tries p).tasks := by
  induction tries with
  | zero => exact id
  | succ tries ih =>
    intro p h
    unfold serve
    split
    · exact h
    · split
      · dsimp only
        split_ifs
        · exact h
        · exact h.same rfl rfl
        · exact ih ((h.bump worker _).remove rfl)
        · exact ih ((h.bump worker _).remove rfl)
      · exact h

theorem visit_quiet (n : Nat) : ∀ {p : Pumping}, Quiet s p.tasks →
    Quiet s (visit c send n p).tasks := by
  induction n with
  | zero => exact id
  | succ n ih =>
    intro p h
    unfold visit
    split
    · exact ih (serve_quiet _ _ (h.same rfl rfl))
    · exact h

theorem pump_quiet : Quiet s (pump c now send valid s).tasks := by
  refine visit_quiet _ ?_
  exact List.foldlRecOn (motive := fun p : Pumping => Quiet s p.tasks) _ _ (Quiet.refl s)
    fun p hp worker _ => expireQueue_quiet hp worker

theorem cancelSession_quiet (session : Nat) : Quiet s (cancelSession c s session) := by
  refine List.foldlRecOn (motive := Quiet s) _ _ (.refl s) fun t ht worker _ => ?_
  exact eraseWhere_rule _ _ (fun t _ => Quiet s t) (fun _ _ _ _ _ h => h.remove rfl) _ [] t ht

theorem enqueue_quiet {t : WorkerPendingTasks} (h : Quiet t s) (worker : Nat)
    (message : PendingMsg) (lifecycle : Bool) (id : Nat) :
    Quiet t (s.enqueue c worker message lifecycle now id).1 := by
  unfold enqueue
  dsimp only
  split
  · exact (h.bump worker _).note rfl
  · split
    · exact (h.bump worker _).note rfl
    · exact h.same rfl rfl

theorem submit_quiet (worker : Nat) (message : PendingMsg) (lifecycle : Bool)
    (result : DispatchResult) :
    Quiet (opened s worker lifecycle) (s.submit c worker message lifecycle now result).1 := by
  have h := Quiet.refl (opened s worker lifecycle)
  unfold submit
  dsimp only
  split
  · exact h.note rfl
  · split
    · split
      · exact (h.bump worker _).note rfl
      · have hcounted : Quiet (opened s worker lifecycle)
            (if result ≠ .kBackpressure then
              (opened s worker lifecycle).bump worker fun st =>
                { st with internalErrors := st.internalErrors + 1 }
            else opened s worker lifecycle) := by
          split
          · exact h.bump worker _
          · exact h
        split
        · exact hcounted.note rfl
        · split
          · exact (hcounted.bump worker _).note rfl
          · exact enqueue_quiet hcounted ..
    · exact enqueue_quiet h ..

end Calls

end WorkerPendingTasks

section Numbers

/-- A list that keeps what counts of another keeps it in order. -/
theorem filter_eq_of_sublist {α : Type} {as bs : List α} {P : α → Bool} (hsub : as.Sublist bs)
    (hnodup : bs.Nodup) (h : ∀ b ∈ bs, P b = true → b ∈ as) : as.filter P = bs.filter P := by
  refine (hsub.filter P).eq_of_length_le ?_
  have hsubset : bs.filter P ⊆ as.filter P := fun b hb => by
    obtain ⟨hmem, hP⟩ := List.mem_filter.mp hb
    exact List.mem_filter.mpr ⟨h b hmem hP, hP⟩
  exact (List.subperm_of_subset (hnodup.filter P) hsubset).length_le

/-- The messages with these numbers. -/
def lettersOf (ms : List PlayerMsg) (ids : List Nat) : List PlayerMsg := ids.filterMap (ms[·]?)

variable {w : Nat → Nat} {ms : List PlayerMsg} {log : List Event}

/-- The log numbers the messages, and says where they go. -/
def Numbers (w : Nat → Nat) (ms : List PlayerMsg) (log : List Event) : Prop :=
  opens log = ms.zipIdx.map fun m => (m.2, w m.1.playerId, m.1.lifecycle)

theorem Numbers.mem (h : Numbers w ms log) {id worker : Nat} {lifecycle : Bool} :
    Event.submitted id worker lifecycle ∈ log ↔
      ∃ m, ms[id]? = some m ∧ worker = w m.playerId ∧ lifecycle = m.lifecycle := by
  have hopens : Event.submitted id worker lifecycle ∈ log ↔ (id, worker, lifecycle) ∈ opens log := by
    rw [opens, List.mem_filterMap]
    constructor
    · exact fun hmem => ⟨_, hmem, rfl⟩
    · rintro ⟨e, hmem, he⟩
      cases e <;> cases he
      exact hmem
  rw [hopens, h, List.mem_map]
  constructor
  · rintro ⟨⟨m, i⟩, hmem, heq⟩
    cases heq
    exact ⟨m, by simpa using List.mem_zipIdx_iff_getElem?.mp hmem, rfl, rfl⟩
  · rintro ⟨m, hm, rfl, rfl⟩
    exact ⟨(m, id), List.mem_zipIdx_iff_getElem?.mpr (by simpa using hm), rfl⟩

/-- The messages that were submitted for a worker, in order. -/
theorem Numbers.submittedFor (h : Numbers w ms log) (worker : Nat) :
    lettersOf ms (submittedFor worker log) = ms.filter fun m => w m.playerId = worker := by
  have hfor : Net.submittedFor worker log =
      (opens log).filterMap fun o => if o.2.1 = worker then some o.1 else none := by
    rw [opens, List.filterMap_filterMap, Net.submittedFor]
    congr 1
    funext e
    cases e <;> rfl
  rw [lettersOf, hfor, h, List.filterMap_map, List.filterMap_filterMap]
  have hcongr : ms.zipIdx.filterMap (fun x =>
        ((fun o : Nat × Nat × Bool => if o.2.1 = worker then some o.1 else none) ∘
          fun m : PlayerMsg × Nat => (m.2, w m.1.playerId, m.1.lifecycle)) x |>.bind (ms[·]?)) =
      ms.zipIdx.filterMap fun x => if w x.1.playerId = worker then some x.1 else none := by
    refine List.filterMap_congr fun x hx => ?_
    have hget : ms[x.2]? = some x.1 := by simpa using List.mem_zipIdx_iff_getElem?.mp hx
    dsimp only [Function.comp]
    split
    · exact hget
    · rfl
  rw [hcongr]
  have hfst : ms.zipIdx.map Prod.fst = ms := List.zipIdx_map_fst 0 ms
  conv_rhs => rw [← List.filterMap_eq_filter, ← hfst, List.filterMap_map]
  refine List.filterMap_congr fun x _ => ?_
  simp [Option.guard]

theorem Numbers.quiet {s t : WorkerPendingTasks} (h : Numbers w ms s.log)
    (hquiet : WorkerPendingTasks.Quiet s t) : Numbers w ms t.log :=
  hquiet.opens.trans h

theorem Numbers.opened {s : WorkerPendingTasks} (h : Numbers w ms s.log)
    (hcount : s.submits = ms.length) (m : PlayerMsg) :
    Numbers w (ms ++ [m]) (s.opened (w m.playerId) m.lifecycle).log := by
  have hlog : opens (s.opened (w m.playerId) m.lifecycle).log =
      opens s.log ++ [(s.submits, w m.playerId, m.lifecycle)] := by
    change opens (s.log ++ [_]) = _
    rw [opens, List.filterMap_append]
    rfl
  rw [Numbers, hlog, h, List.zipIdx_append, List.map_append, hcount]
  simp

end Numbers

/-- What the index says of a player. -/
def GatewayClientIndex.seat (i : GatewayClientIndex) (playerId : Nat) : Seat :=
  ⟨i.connectionByPlayer.lookup playerId, i.latest.lookup playerId⟩

theorem GatewayClientIndex.held_iff {i : GatewayClientIndex} (hi : i.Consistent) {m : PlayerMsg}
    (hm : m.clientBinding.playerId = m.playerId) :
    (i.seat m.playerId).Held m ↔ i.Matches m.session m.clientBinding := by
  rw [GatewayClientIndex.matches_iff hi, hm, Seat.Held, GatewayClientIndex.seat, Seat.mk.injEq]

section Passes

variable {i t : GatewayClientIndex} {m : PlayerMsg}

/-- An online message that the index takes. -/
theorem GatewayClientIndex.Bound.passes (h : i.Bound m.session m.clientBinding (true, t))
    (hi : i.Consistent) (hplayer : m.clientBinding.playerId = m.playerId)
    (hvalid : valid m.clientBinding = true) (hlifecycle : m.lifecycle = true)
    (hmethod : m.Method = kOnline) (hmodule : m.Module = kModule) (hbody : m.body = []) :
    (i.seat m.playerId).Allows m ∧
      ∀ p, t.seat p = if p = m.playerId then (i.seat m.playerId).step m else i.seat p := by
  have hstep : (i.seat m.playerId).step m = ⟨some m.session, some m.clientBinding⟩ := by
    simp [Seat.step, hlifecycle, hmethod]
  rw [hstep]
  cases h with
  | same hroute hlatest =>
    rw [hplayer] at hroute hlatest
    have hheld : i.seat m.playerId = ⟨some m.session, some m.clientBinding⟩ := by
      rw [GatewayClientIndex.seat, hroute, hlatest]
    refine ⟨⟨hplayer, hvalid, (hi.known _ _ hroute).1, iff_of_true hlifecycle hmodule,
      fun _ => ⟨hbody, .inl hmethod⟩, fun hnot => absurd hmethod (hnot hlifecycle), fun _ _ => .inl hheld⟩, fun p => ?_⟩
    split
    · rename_i hp
      rw [hp, hheld]
    · rfl
  | later hconnection _ hlater hroute hlatest =>
    rw [hplayer] at hlater
    refine ⟨⟨hplayer, hvalid, hconnection, iff_of_true hlifecycle hmodule,
      fun _ => ⟨hbody, .inl hmethod⟩, fun hnot => absurd hmethod (hnot hlifecycle), fun _ _ => .inr hlater⟩, fun p => ?_⟩
    rw [GatewayClientIndex.seat, hroute, hlatest, hplayer]
    split <;> rfl

/-- A message under the binding in force. -/
theorem GatewayClientIndex.Matches.allows (h : i.Matches m.session m.clientBinding)
    (hi : i.Consistent) (hplayer : m.clientBinding.playerId = m.playerId)
    (hmodule : m.lifecycle = true ↔ m.Module = kModule)
    (hlifecycle : m.lifecycle = true → m.body = [] ∧ m.Method = kOffline) :
    (i.seat m.playerId).Allows m := by
  have hheld := (GatewayClientIndex.held_iff hi hplayer).mpr h
  obtain ⟨hroute, hlatest⟩ := (GatewayClientIndex.matches_iff hi).mp h
  exact
    { playerId := hplayer
      valid := (hi.own _ _ hlatest).2
      session := (hi.known _ _ hroute).1
      module := hmodule
      lifecycle := fun hl => ⟨(hlifecycle hl).1, .inr (hlifecycle hl).2⟩
      held := fun _ => hheld
      online := fun _ _ => .inl hheld }

end Passes

theorem unpack_valid {body payload : Bytes} {d : ClientData} (h : unpack body = some (d, payload)) :
    valid d = true := by
  unfold unpack at h
  split at h
  · cases h
  · dsimp only at h
    split at h
    · cases h
    · rename_i hvalid
      cases h
      simpa using hvalid

namespace NetServer

variable {c : NetConfig} {s t : NetServer} {f : Nat → Seat}

/-- What was passed on is numbered, and lawful, and leaves the players in these seats. -/
structure Told (c : NetConfig) (f : Nat → Seat) (s : NetServer) : Prop where
  pending : s.pendingTasks.Sane c.pending
  count : s.pendingTasks.submits = s.submitted.length
  numbers : Numbers (workerOf c) s.submitted s.pendingTasks.log
  lawful : Lawful (fun _ => {}) s.submitted
  seats : seatsAfter (fun _ => {}) s.submitted = f

/-- The seats are those of the index. -/
structure Fine (c : NetConfig) (s : NetServer) : Prop where
  index : s.clients.Consistent
  told : Told c s.clients.seat s

theorem fine_init (c : NetConfig) : Fine c {} where
  index := GatewayClientIndex.consistent_empty
  told := ⟨WorkerPendingTasks.sane_init _, rfl, rfl, trivial, rfl⟩

theorem Told.submit (h : Told c f s) {m : PlayerMsg} (hm : (f m.playerId).Allows m) (now : Nat)
    (send : Nat → DispatchResult) :
    Told c (Keyed.next PlayerMsg.playerId Seat.step f m) (s.submitPlayerTask c m now send) := by
  have hquiet : (s.pendingTasks.opened (workerOf c m.playerId) m.lifecycle).Quiet
      (s.submitPlayerTask c m now send).pendingTasks := WorkerPendingTasks.submit_quiet ..
  refine ⟨WorkerPendingTasks.submit_sane _ now h.pending .., ?_, ?_, ?_, ?_⟩
  · rw [hquiet.submits]
    change s.pendingTasks.submits + 1 = (s.submitted ++ [m]).length
    rw [List.length_append, h.count]
    rfl
  · exact (h.numbers.opened h.count m).quiet hquiet
  · refine Keyed.lawful_snoc.mpr ⟨h.lawful, ?_⟩
    change (seatsAfter _ s.submitted m.playerId).Allows m
    rw [h.seats]
    exact hm
  · exact Keyed.after_snoc.trans (congrArg (Keyed.next _ _ · m) h.seats)

/-- Each of the players is told to be offline. -/
theorem Told.offline (session now : Nat) (send : Nat → DispatchResult) :
    ∀ (ds : List ClientData) {s : NetServer} {f : Nat → Seat}, Told c f s →
    (ds.map (·.playerId)).Nodup →
    (∀ d ∈ ds, valid d = true ∧ f d.playerId = ⟨some session, some d⟩ ∧ session ≠ 0) →
    Told c (fun p => if p ∈ ds.map (·.playerId) then { f p with route := none } else f p)
      (ds.foldl (fun s d => s.submitPlayerTask c (offlineMsg session d) now send) s) := by
  intro ds
  induction ds with
  | nil =>
    intro s f h _ _
    simpa using h
  | cons d ds ih =>
    intro s f h hnodup hds
    obtain ⟨hnot, hnodup⟩ := List.nodup_cons.mp hnodup
    obtain ⟨hvalid, hseat, hsession⟩ := hds d List.mem_cons_self
    have hallows : (f (offlineMsg session d).playerId).Allows (offlineMsg session d) :=
      { playerId := rfl
        valid := hvalid
        session := hsession
        module := iff_of_true rfl rfl
        lifecycle := fun _ => ⟨rfl, .inr rfl⟩
        held := fun _ => hseat
        online := fun _ honline => by cases honline }
    have hnext := h.submit hallows now send
    have hrest := ih hnext hnodup fun e he => by
      obtain ⟨hvalid, hseat, -⟩ := hds e (List.mem_cons_of_mem _ he)
      refine ⟨hvalid, ?_, hsession⟩
      have hne : e.playerId ≠ d.playerId := fun heq => hnot (List.mem_map.mpr ⟨e, he, heq⟩)
      exact (Function.update_of_ne hne ..).trans hseat
    rw [List.foldl_cons]
    convert hrest using 2 with p
    by_cases hp : p = d.playerId
    · subst hp
      have hstep : Keyed.next PlayerMsg.playerId Seat.step f (offlineMsg session d) d.playerId =
          { f d.playerId with route := none } := Function.update_self ..
      rw [if_pos (by simp), if_neg hnot, hstep]
    · have hstep : Keyed.next PlayerMsg.playerId Seat.step f (offlineMsg session d) p = f p :=
        Function.update_of_ne hp ..
      rw [hstep]
      simp [hp]

theorem Told.quiet (h : Told c f s) (hsubmitted : t.submitted = s.submitted)
    (hquiet : s.pendingTasks.Quiet t.pendingTasks) (hsane : t.pendingTasks.Sane c.pending) :
    Told c f t where
  pending := hsane
  count := by rw [hquiet.submits, hsubmitted]; exact h.count
  numbers := hsubmitted ▸ h.numbers.quiet hquiet
  lawful := hsubmitted ▸ h.lawful
  seats := hsubmitted ▸ h.seats

theorem Fine.connection_ne_zero (h : Fine c s) {p session : Nat}
    (hroute : s.clients.connectionByPlayer.lookup p = some session) : session ≠ 0 :=
  (h.index.known p session hroute).1

theorem foldl_clients (c : NetConfig) (session now : Nat) (send : Nat → DispatchResult)
    (ds : List ClientData) (s : NetServer) :
    (ds.foldl (fun s d => s.submitPlayerTask c (offlineMsg session d) now send) s).clients =
      s.clients :=
  List.foldlRecOn (motive := fun t : NetServer => t.clients = s.clients) _ _ rfl fun _ h _ _ => h

theorem Fine.handleClose (h : Fine c s) (session now : Nat) (send : Nat → DispatchResult) :
    Fine c (s.handleClose c session now send) := by
  unfold NetServer.handleClose
  cases hconn : s.conns.lookup session with
  | none => exact h
  | some conn =>
    have hsane := WorkerPendingTasks.cancelSession_sane h.told.pending session
    have hseat : ∀ d ∈ (s.clients.close session).1, valid d = true ∧
        s.clients.seat d.playerId = ⟨some session, some d⟩ ∧ session ≠ 0 := by
      intro d hd
      obtain ⟨hroute, hlatest⟩ := (GatewayClientIndex.matches_iff h.index).mp
        ((GatewayClientIndex.close_bindings h.index d).mp hd)
      exact ⟨(h.index.own _ d hlatest).2, by rw [GatewayClientIndex.seat, hroute, hlatest],
        h.connection_ne_zero hroute⟩
    have htold : Told c s.clients.seat
        { s with
          conns := s.conns.erase session
          clients := (s.clients.close session).2
          pendingTasks := s.pendingTasks.cancelSession c.pending session } :=
      h.told.quiet rfl (WorkerPendingTasks.cancelSession_quiet session) hsane
    have hall := htold.offline session now send _ (GatewayClientIndex.close_nodup h.index) hseat
    have hclients := foldl_clients c session now send (s.clients.close session).1
      { s with
        conns := s.conns.erase session
        clients := (s.clients.close session).2
        pendingTasks := s.pendingTasks.cancelSession c.pending session }
    dsimp only
    refine ⟨hclients ▸ h.index.close, ?_⟩
    rw [hclients]
    convert hall using 1
    funext p
    have hroute : (s.clients.close session).2.connectionByPlayer.lookup p = _ :=
      GatewayClientIndex.close_route h.index p
    have hmem : p ∈ (s.clients.close session).1.map (·.playerId) ↔
        s.clients.connectionByPlayer.lookup p = some session := by
      rw [List.mem_map]
      constructor
      · rintro ⟨d, hd, rfl⟩
        exact ((GatewayClientIndex.matches_iff h.index).mp
          ((GatewayClientIndex.close_bindings h.index d).mp hd)).1
      · intro hp
        obtain ⟨-, d, hd⟩ := h.index.known p session hp
        have hown := (h.index.own p d hd).1
        refine ⟨d, (GatewayClientIndex.close_bindings h.index d).mpr ?_, hown⟩
        rw [GatewayClientIndex.matches_iff h.index, hown]
        exact ⟨hp, hd⟩
    rw [GatewayClientIndex.seat, hroute, GatewayClientIndex.close_latest]
    simp only [hmem]
    split <;> rfl

/-- A message is passed on, and the index is changed as the message says. -/
theorem Fine.pass (h : Fine c s) {i : GatewayClientIndex} (hi : i.Consistent) {m : PlayerMsg}
    (hm : (s.clients.seat m.playerId).Allows m)
    (hseat : ∀ p, i.seat p =
      if p = m.playerId then (s.clients.seat m.playerId).step m else s.clients.seat p)
    (now : Nat) (send : Nat → DispatchResult) :
    Fine c ({ s with clients := i }.submitPlayerTask c m now send) := by
  have htold : Told c s.clients.seat { s with clients := i } :=
    h.told.quiet rfl (.refl _) h.told.pending
  refine ⟨hi, ?_⟩
  convert htold.submit hm now send using 1
  funext p
  refine (hseat p).trans ?_
  rw [Keyed.next, Function.update_apply]

theorem Fine.onPlayerFrame (h : Fine c s) {session : Nat} {head : Gateway.Header}
    {d : ClientData} (hplayer : d.playerId = head.playerId) (hvalid : valid d = true)
    (payload : Bytes) (now : Nat) (send : Nat → DispatchResult) :
    Fine c (s.onPlayerFrame c session head d payload now send) := by
  unfold NetServer.onPlayerFrame
  dsimp only
  split
  · exact h
  · rename_i hmodule
    split
    · rename_i honline
      have hpayload : payload = [] := by
        by_contra hne
        exact hmodule ⟨honline.1, .inl hne⟩
      split
      · rename_i hbound
        have hcases := s.clients.bind_bound session d
        have hconsistent := hcases.consistent h.index
        generalize s.clients.bind session d = out at hbound hcases hconsistent ⊢
        obtain ⟨ok, i⟩ := out
        cases (show ok = true from hbound)
        obtain ⟨hallows, hseat⟩ := GatewayClientIndex.Bound.passes
          (m := frameMsg session head d payload) hcases h.index hplayer hvalid
          (by simp [frameMsg, honline]) honline.2 honline.1 hpayload
        exact h.pass hconsistent hallows hseat now send
      · exact h
    · rename_i honline
      split
      · exact h
      · rename_i hmatches
        rw [not_not] at hmatches
        split
        · rename_i hoffline
          have hpayload : payload = [] := by
            by_contra hne
            exact hmodule ⟨hoffline.1, .inl hne⟩
          have hallows := hmatches.allows (m := frameMsg session head d payload) h.index hplayer
            (iff_of_true (by simp [frameMsg, hoffline]) hoffline.1)
            fun _ => ⟨hpayload, hoffline.2⟩
          refine h.pass (h.index.unbind hmatches) hallows (fun p => ?_) now send
          have hstep : (s.clients.seat head.playerId).step (frameMsg session head d payload) =
              { s.clients.seat head.playerId with route := none } := by
            simp [Seat.step, frameMsg, hoffline, kOnline, kOffline]
          rw [GatewayClientIndex.seat, GatewayClientIndex.unbind_route hmatches,
            GatewayClientIndex.unbind_latest, hplayer]
          change _ = if p = head.playerId then (s.clients.seat head.playerId).step _ else _
          rw [hstep]
          split
          · rename_i hp
            rw [hp]
            rfl
          · rfl
        · rename_i hoffline
          have hother : head.module ≠ kModule := fun hm => hmodule ⟨hm, .inr ⟨honline, hoffline⟩⟩
          have hbusiness : (frameMsg session head d payload).lifecycle = false :=
            decide_eq_false fun hm => hother hm.1
          have hallows := hmatches.allows (m := frameMsg session head d payload) h.index hplayer
            (iff_of_false (Bool.eq_false_iff.mp hbusiness) hother)
            fun hl => absurd (hbusiness.symm.trans hl) Bool.false_ne_true
          refine h.pass h.index hallows (fun p => ?_) now send
          simp only [Seat.step, hbusiness]
          split
          · rename_i hp
            rw [hp]
            rfl
          · rfl

theorem fine_step {l : NetLabel} (h : Fine c s) (ht : s.step c l = some t) : Fine c t := by
  cases l with
  | connect conn =>
    cases ht
    exact ⟨h.index, h.told.quiet rfl (.refl _) h.told.pending⟩
  | frame session head body now send =>
    obtain ⟨conn, hconn, rfl⟩ := Option.map_eq_some_iff.mp ht
    unfold onFrame
    split
    · unfold handleHandshake
      split
      · exact h
      · split
        · exact h.handleClose ..
        · exact ⟨h.index, h.told.quiet rfl (.refl _) h.told.pending⟩
    · split
      · exact h
      · split
        · exact h
        · rename_i d payload hunpack
          split
          · exact h
          · rename_i hok
            simp only [not_or, not_not] at hok
            have hnext : Fine c
                { s with conns := s.conns.insert session { conn with gatewayId := d.gatewayId } } :=
              ⟨h.index, h.told.quiet rfl (.refl _) h.told.pending⟩
            exact hnext.onPlayerFrame hok.2.2.1 (unpack_valid hunpack) payload now send
  | close session now send =>
    cases ht
    exact h.handleClose session now send
  | retry now send =>
    cases ht
    exact ⟨h.index, h.told.quiet rfl WorkerPendingTasks.pump_quiet
      (WorkerPendingTasks.pump_spec h.told.pending ..).sane⟩

theorem fine_exec {ls : List NetLabel} (h : Fine c s) (ht : Run.exec (step c) s ls = some t) :
    Fine c t :=
  Run.exec_invariant (Fine c) (fun _ _ _ hs hst => fine_step hs hst) h ht

section Streams

/-- What the queue of a worker has taken, in order. -/
def handed (s : NetServer) (worker : Nat) : List PlayerMsg :=
  lettersOf s.submitted (acceptedBy worker s.pendingTasks.log)

/-- What waits for a worker, in order. -/
def waiting (s : NetServer) (worker : Nat) : List PlayerMsg :=
  lettersOf s.submitted (WorkerPendingTasks.ids (s.pendingTasks.queues worker))

theorem workerOf_lt (c : NetConfig) (p : Nat) : workerOf c p < c.pending.workers := by
  have hpos := c.pending.workers_pos
  unfold workerOf workerForActor
  rw [if_neg (by omega)]
  exact Nat.lt_of_le_of_lt (Nat.mod_le _ _) (Nat.mod_lt _ hpos)

variable {worker : Nat}

theorem handed_waiting (s : NetServer) (worker : Nat) : s.handed worker ++ s.waiting worker =
    lettersOf s.submitted (acceptedBy worker s.pendingTasks.log ++
      WorkerPendingTasks.ids (s.pendingTasks.queues worker)) :=
  List.filterMap_append.symm

/-- The messages for a worker, without some of the business messages. -/
theorem Told.streams (h : Told c f s) (hworker : worker < c.pending.workers) :
    (s.handed worker ++ s.waiting worker).Sublist
        (s.submitted.filter fun m => workerOf c m.playerId = worker) ∧
      (s.handed worker ++ s.waiting worker).filter (·.lifecycle) =
        (s.submitted.filter fun m => workerOf c m.playerId = worker).filter (·.lifecycle) := by
  have horder := h.pending.order worker
  have hnodup : (submittedFor worker s.pendingTasks.log).Nodup :=
    (h.pending.numbered worker).imp Nat.ne_of_lt
  rw [handed_waiting, ← h.numbers.submittedFor worker]
  refine ⟨horder.filterMap _, ?_⟩
  have hletters : ∀ ids : List Nat, (lettersOf s.submitted ids).filter (·.lifecycle) =
      lettersOf s.submitted (ids.filter fun id => (s.submitted[id]?).any (·.lifecycle)) := by
    intro ids
    induction ids with
    | nil => rfl
    | cons id ids ih =>
      rw [lettersOf, lettersOf, List.filterMap_cons, List.filter_cons] at *
      cases hid : s.submitted[id]? with
      | none => simpa using ih
      | some m =>
        cases hm : m.lifecycle with
        | true => simp [hm, hid, ih]
        | false => simp [hm, ih]
  rw [hletters, hletters]
  congr 1
  refine filter_eq_of_sublist horder hnodup fun id hid hlifecycle => ?_
  obtain ⟨m, hm, hl⟩ := (Option.any_eq_true ..).mp hlifecycle
  have hsubmitted : Event.submitted id worker true ∈ s.pendingTasks.log := by
    obtain ⟨lifecycle, hmem⟩ := mem_submittedFor.mp hid
    obtain ⟨m', hm', -, rfl⟩ := h.numbers.mem.mp hmem
    cases hm.symm.trans hm'
    exact hl ▸ hmem
  rcases h.pending.lifecycle_kept hworker hsubmitted with haccepted | hwaits
  · exact List.mem_append_left _ (List.mem_filterMap.mpr ⟨_, haccepted, by simp⟩)
  · exact List.mem_append_right _ hwaits

/-- Each worker is told of its players what the index says of them. -/
structure Streams (c : NetConfig) (s : NetServer) : Prop where
  index : s.clients.Consistent
  own : ∀ w < c.pending.workers, ∀ m ∈ s.handed w ++ s.waiting w, workerOf c m.playerId = w
  lawful : ∀ w < c.pending.workers, Lawful (fun _ => {}) (s.handed w ++ s.waiting w)
  seats : ∀ p, seatsAfter (fun _ => {})
    (s.handed (workerOf c p) ++ s.waiting (workerOf c p)) p = s.clients.seat p

theorem step_of_business (f : Seat) (m : PlayerMsg) (hm : m.lifecycle = false) : f.step m = f := by
  simp [Seat.step, hm]

theorem Fine.streams (h : Fine c s) : Streams c s := by
  have hlawful : ∀ w < c.pending.workers, Lawful (fun _ => {}) (s.handed w ++ s.waiting w) ∧
      seatsAfter (fun _ => {}) (s.handed w ++ s.waiting w) =
        seatsAfter (fun _ => {}) (s.submitted.filter fun m => workerOf c m.playerId = w) := by
    intro w hw
    obtain ⟨hsub, hcounts⟩ := h.told.streams hw
    refine Keyed.lawful_sublist step_of_business hsub hcounts ?_
    exact Keyed.lawful_filter (p := fun p => workerOf c p = w) (fun _ _ => rfl) h.told.lawful
  refine ⟨h.index, fun w hw m hm => ?_, fun w hw => (hlawful w hw).1, fun p => ?_⟩
  · exact of_decide_eq_true (List.mem_filter.mp ((h.told.streams hw).1.mem hm)).2
  · rw [(hlawful _ (workerOf_lt c p)).2]
    refine (Keyed.after_filter (p := fun q => workerOf c q = workerOf c p) ?_ rfl).trans
      (congrFun h.told.seats p)
    simp

/-- Nothing that was passed on or noted is taken back. -/
def Grows (s t : NetServer) : Prop :=
  s.submitted <+: t.submitted ∧ s.pendingTasks.log <+: t.pendingTasks.log

theorem Grows.trans {u : NetServer} (h : Grows s t) (h' : Grows t u) : Grows s u :=
  ⟨h.1.trans h'.1, h.2.trans h'.2⟩

theorem Grows.quiet (hsubmitted : t.submitted = s.submitted)
    (h : s.pendingTasks.Quiet t.pendingTasks) : Grows s t :=
  ⟨hsubmitted ▸ List.prefix_refl _, h.grows⟩

theorem grows_submit (m : PlayerMsg) (now : Nat) (send : Nat → DispatchResult) :
    Grows s (s.submitPlayerTask c m now send) :=
  ⟨List.prefix_append _ _,
    (List.prefix_append _ _).trans (WorkerPendingTasks.submit_quiet ..).grows⟩

theorem grows_handleClose (session now : Nat) (send : Nat → DispatchResult) :
    Grows s (s.handleClose c session now send) := by
  unfold handleClose
  split
  · exact .quiet rfl (.refl _)
  · refine List.foldlRecOn (motive := Grows s) _ _ ?_ fun t ht d _ => ht.trans (grows_submit ..)
    exact .quiet rfl (WorkerPendingTasks.cancelSession_quiet session)

theorem grows_onPlayerFrame (session : Nat) (head : Gateway.Header) (d : ClientData)
    (payload : Bytes) (now : Nat) (send : Nat → DispatchResult) :
    Grows s (s.onPlayerFrame c session head d payload now send) := by
  unfold onPlayerFrame
  dsimp only
  split
  · exact .quiet rfl (.refl _)
  · split
    · split
      · exact grows_submit (s := { s with clients := _ }) ..
      · exact .quiet rfl (.refl _)
    · split
      · exact .quiet rfl (.refl _)
      · split
        · exact grows_submit (s := { s with clients := _ }) ..
        · exact grows_submit ..

theorem grows_step {l : NetLabel} (ht : s.step c l = some t) : Grows s t := by
  cases l with
  | connect conn =>
    cases ht
    exact .quiet rfl (.refl _)
  | frame session head body now send =>
    obtain ⟨conn, -, rfl⟩ := Option.map_eq_some_iff.mp ht
    unfold onFrame
    split
    · unfold handleHandshake
      split
      · exact .quiet rfl (.refl _)
      · split
        · exact grows_handleClose ..
        · exact .quiet rfl (.refl _)
    · split
      · exact .quiet rfl (.refl _)
      · split
        · exact .quiet rfl (.refl _)
        · split
          · exact .quiet rfl (.refl _)
          · refine Grows.trans ?_ (grows_onPlayerFrame ..)
            exact .quiet rfl (.refl _)
  | close session now send =>
    cases ht
    exact grows_handleClose ..
  | retry now send =>
    cases ht
    exact .quiet rfl WorkerPendingTasks.pump_quiet

/-- What a worker's queue has taken stays as it is, and more comes behind it. -/
theorem Fine.handed_grows (h : Fine c s) (hgrows : Grows s t) (w : Nat) :
    s.handed w <+: t.handed w := by
  obtain ⟨⟨ms, hms⟩, ⟨es, hes⟩⟩ := hgrows
  have hids : ∀ id ∈ acceptedBy w s.pendingTasks.log, id < s.submitted.length := by
    intro id hid
    have hmem := (h.told.pending.order w).mem (List.mem_append_left _ hid)
    obtain ⟨lifecycle, hsubmitted⟩ := mem_submittedFor.mp hmem
    exact h.told.count ▸ h.told.pending.known _ _ _ hsubmitted
  have hsame : lettersOf t.submitted (acceptedBy w s.pendingTasks.log) = s.handed w := by
    refine List.filterMap_congr fun id hid => ?_
    rw [← hms, List.getElem?_append_left (hids id hid)]
  have haccepted : acceptedBy w s.pendingTasks.log <+: acceptedBy w t.pendingTasks.log := by
    rw [← hes]
    exact (List.prefix_append _ es).filterMap _
  exact hsame ▸ haccepted.filterMap _

theorem grows_exec {ls : List NetLabel} (ht : Run.exec (step c) s ls = some t) : Grows s t :=
  Run.exec_invariant (Grows s) (fun _ _ _ hs hst => hs.trans (grows_step hst))
    (.quiet rfl (.refl _)) ht

/-- Whatever the gateways send and close, and whatever the queues of the workers answer, each
worker is told about its own players what the index says of them, and nothing that its
queue took is changed later. -/
theorem workers_follow_index (c : NetConfig) {ls ms : List NetLabel}
    (hs : Run.exec (step c) {} ls = some s) (ht : Run.exec (step c) s ms = some t) :
    Streams c t ∧ ∀ w, s.handed w <+: t.handed w := by
  have hfine := fine_exec (fine_init c) hs
  exact ⟨(fine_exec hfine ht).streams, hfine.handed_grows (grows_exec ht)⟩

/-- Two workers. -/
def twoWorkers : NetConfig where
  zoneId := 1
  sceneId := 1
  pending :=
    { workers := 2
      limits := {}
      sizeofTask := 8
      workers_pos := Nat.two_pos
      limits_valid := by decide }

/-- A player comes and its connection goes, while the queues take nothing at once. -/
theorem workers_follow_index_closed :
    let d : ClientData := ⟨7, 5, 1, 1, 1⟩
    ∃ s t, Run.exec (step twoWorkers) {}
        [.connect ⟨false, 1, 0⟩,
          .frame 1 { module := 200, method := 1, playerId := 7, srcServiceID := 1 }
            (Gateway.GatewayPlayer.pack d []) 10 fun _ => .kAccepted] = some s ∧
      Run.exec (step twoWorkers) s
        [.close 1 20 fun _ => .kBackpressure, .retry 30 fun _ _ _ => .kAccepted] = some t ∧
      t.clients.seat 7 = ⟨none, some d⟩ ∧
      Streams twoWorkers t ∧ ∀ w, s.handed w <+: t.handed w := by
  refine ⟨_, _, rfl, rfl, by decide +kernel, workers_follow_index twoWorkers
    (show Run.exec (step twoWorkers) {}
      [.connect ⟨false, 1, 0⟩,
        .frame 1 { module := 200, method := 1, playerId := 7, srcServiceID := 1 }
          (Gateway.GatewayPlayer.pack ⟨7, 5, 1, 1, 1⟩ []) 10 fun _ => .kAccepted] = _ from rfl)
    (show Run.exec (step twoWorkers) _
      [.close 1 20 fun _ => .kBackpressure, .retry 30 fun _ _ _ => .kAccepted] = _ from rfl)⟩

end Streams

end NetServer

end Net
