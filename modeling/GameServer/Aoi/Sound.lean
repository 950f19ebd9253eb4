import GameServer.Aoi.Publish

/-!
# What holds between the workers

Every worker's service is well formed, and between any owner and any other worker
the link holds. Each step of the cluster is one step of one worker, so only its
links to and from the others need a look.
-/

namespace Aoi

open AoiReplica

variable {sc : Scene} {n : Nat} {o r w : WorkerId}

/-- The channel between two workers, given the queue of the second one. -/
def channelOf (owner copy : LogicAoi) (inbox : List ServiceMsg) (missed : List AoiEvent)
    (o r : WorkerId) : Channel where
  rep := copy.aoiService.replica
  moves := fun id => copy.aoiService.pendingRemoteMoves.lookup id
  need := o ∈ copy.aoiService.ownersNeedingSnapshot
  flies := fun ev => (∃ task ∈ owner.aoiService.pendingPublishes, task.event = ev ∧
    r ∈ task.remaining) ∨ { sender := o, body := .event ev } ∈ inbox
  sent := fun snap => owner.pendingAoiSnapshots.lookup r = some snap ∨
    { sender := o, body := .ownerSnapshot snap } ∈ inbox
  missed := fun ev => ev ∈ missed

def Cluster.channel (c : Cluster) (o r : WorkerId) : Channel :=
  channelOf (c.workers o) (c.workers r) (c.inbox r) (c.missed r) o r

/-- The invariant of the cluster. -/
structure Sound (sc : Scene) (n : Nat) (c : Cluster) : Prop where
  based : ∀ w, Based sc w (c.workers w).aoiService
  history : ∀ w, History w (c.workers w).aoiService
  links : ∀ o r, o < n → r < n → o ≠ r → Link sc o (c.workers o).aoiService (c.channel o r)

theorem sound_init : Sound sc n {} where
  based := fun _ => based_init
  history := fun _ => history_init
  links := fun o r _ _ _ =>
    { copy := ⟨by simp [Cluster.channel, channelOf], by simp [Cluster.channel, channelOf],
        by simp [Cluster.channel, channelOf], by simp [Cluster.channel, channelOf]⟩
      events := by simp [Cluster.channel, channelOf]
      moves := by simp [Cluster.channel, channelOf]
      snaps := by simp [Cluster.channel, channelOf]
      status := fun id _ => .reflected rfl
      caught := by simp [Cluster.channel, channelOf] }

theorem Grown.refl (o : WorkerId) (s : AoiService) : Grown o s s :=
  ⟨.refl s, le_rfl, fun _ _ => .inl rfl⟩

/-- The owner's own entities and numbering are as before. -/
theorem Grown.of_same {s s' : AoiService} (hids : IdsKept s s') (hseq : s'.ownerSeq = s.ownerSeq)
    (hsame : SameFor o s.replica s'.replica) : Grown o s s' :=
  ⟨hids, Nat.le_of_eq hseq.symm, fun _ hid => .inl (hsame.latest hid)⟩

theorem History.of_same {s s' : AoiService} (h : History o s) (hseq : s'.ownerSeq = s.ownerSeq)
    (hsame : SameFor o s.replica s'.replica) : History o s' where
  ents := fun id e hid he => hseq ▸ h.ents id e hid (hsame.ents id hid ▸ he)
  tombs := fun id t hid ht => hseq ▸ h.tombs id t hid (hsame.tombs id hid ▸ ht)

section Mail

theorem mem_post {inbox : WorkerId → List ServiceMsg} {sends : List (WorkerId × ServiceBody)}
    {t : WorkerId} {msg : ServiceMsg} :
    msg ∈ Cluster.post inbox w sends t ↔
      msg ∈ inbox t ∨ (msg.sender = w ∧ (t, msg.body) ∈ sends) := by
  simp only [Cluster.post, List.mem_append, List.mem_map, List.mem_filter, decide_eq_true_eq]
  constructor
  · rintro (h | ⟨⟨target, body⟩, ⟨hmem, rfl⟩, rfl⟩)
    · exact .inl h
    · exact .inr ⟨rfl, hmem⟩
  · rintro (h | ⟨rfl, hmem⟩)
    · exact .inl h
    · exact .inr ⟨(t, msg.body), ⟨hmem, rfl⟩, rfl⟩

/-- Only the events and snapshots of the owner in the mail concern the link. -/
theorem Link.mail {s : AoiService} {owner copy : LogicAoi} {inbox inbox' : List ServiceMsg}
    {missed : List AoiEvent} (h : Link sc o s (channelOf owner copy inbox missed o r))
    (hmail : ∀ msg, msg.sender = o → msg ∈ inbox' → msg ∈ inbox)
    (hevents : ∀ ev, { sender := o, body := .event ev } ∈ inbox →
      { sender := o, body := .event ev } ∈ inbox') :
    Link sc o s (channelOf owner copy inbox' missed o r) := by
  refine h.frame (.refl o s) (.refl o _) (fun _ _ => rfl) id (fun ev hx => ?_) (fun ev hx => ?_)
    (fun _ _ => .inl rfl) (fun snap hx => ?_) fun _ _ => Iff.rfl
  · exact hx.imp_right (hevents ev)
  · exact .inl (hx.imp_right (hmail _ rfl))
  · exact .inl (hx.imp_right (hmail _ rfl))

theorem mem_targetsOf {t : WorkerId} : t ∈ Cluster.targetsOf n w ↔ t < n ∧ t ≠ w := by
  simp [Cluster.targetsOf, publishTargets, List.mem_filter, List.mem_dedup,
    (List.perm_insertionSort _ _).mem_iff]

end Mail

section Steps

variable {c c' : Cluster}

/-- A step of one worker: its links in both directions are all there is to check. -/
theorem Sound.rebuild (h : Sound sc n c) (hworkers : ∀ x, x ≠ w → c'.workers x = c.workers x)
    (hmissed : ∀ x, x ≠ w → c'.missed x = c.missed x)
    (hmail : ∀ x, x ≠ w → ∀ msg, msg.sender ≠ w → (msg ∈ c'.inbox x ↔ msg ∈ c.inbox x))
    (hbased : Based sc w (c'.workers w).aoiService)
    (hhistory : History w (c'.workers w).aoiService)
    (hout : ∀ r, r < n → r ≠ w → Link sc w (c'.workers w).aoiService
      (channelOf (c'.workers w) (c.workers r) (c'.inbox r) (c.missed r) w r))
    (hin : ∀ o, o < n → o ≠ w → Link sc o (c.workers o).aoiService
      (channelOf (c.workers o) (c'.workers w) (c'.inbox w) (c'.missed w) o w)) :
    Sound sc n c' where
  based := fun x => by
    by_cases hx : x = w
    · exact hx ▸ hbased
    · rw [hworkers x hx]
      exact h.based x
  history := fun x => by
    by_cases hx : x = w
    · exact hx ▸ hhistory
    · rw [hworkers x hx]
      exact h.history x
  links := fun o r ho hr hne => by
    unfold Cluster.channel
    by_cases how : o = w
    · subst how
      rw [hworkers r hne.symm, hmissed r hne.symm]
      exact hout r hr hne.symm
    by_cases hrw : r = w
    · subst hrw
      rw [hworkers o how]
      exact hin o ho how
    · rw [hworkers o how, hworkers r hrw, hmissed r hrw]
      exact (h.links o r ho hr hne).mail (fun msg hmsg => (hmail r hrw msg (hmsg ▸ how)).mp)
        fun ev => (hmail r hrw _ how).mpr

theorem Sound.call (h : Sound sc n c) (hn : 2 ≤ n) {op : Op}
    (hrun : c.step sc n (.call w op) = some c') : Sound sc n c' := by
  simp only [Cluster.step] at hrun
  split at hrun
  case isFalse => cases hrun
  rename_i hen
  obtain ⟨hw, hop⟩ := hen
  obtain ⟨s', hcall, rfl⟩ := Option.map_eq_some_iff.mp hrun
  have htargets : Cluster.targetsOf n w ≠ [] := by
    obtain ⟨x, hx, hxw⟩ : ∃ x, x < n ∧ x ≠ w := by
      by_cases h0 : w = 0
      · exact ⟨1, hn, by rw [h0]; decide⟩
      · exact ⟨0, Nat.lt_of_lt_of_le Nat.zero_lt_two hn, Ne.symm h0⟩
    exact List.ne_nil_of_mem (mem_targetsOf.mpr ⟨hx, hxw⟩)
  have hprod : op.Produced := by cases op <;> first | exact hop.elim | trivial
  have hb' := ((h.based w).call hprod hcall).based
  obtain ⟨hissued, hkept⟩ := call_issued (h.based w) (h.history w) htargets hop hcall
  obtain ⟨hgrown, hhistory, hothers, hpub⟩ := hissued.spec (h.based w) hb' (h.history w) hkept
  refine h.rebuild (fun x hx => Function.update_of_ne hx _ _) (fun _ _ => rfl)
    (fun _ _ _ _ => Iff.rfl) ?_ ?_ (fun r hr hrw => ?_) fun o ho how => ?_
  · simp only [Cluster.setService, Function.update_self]
    exact hb'
  · simp only [Cluster.setService, Function.update_self]
    exact hhistory
  · have hlink := h.links w r hw hr hrw.symm
    simp only [Cluster.setService, Function.update_self]
    refine hlink.frame hgrown (.refl w _) (fun _ _ => rfl) id (fun ev hx => ?_) (fun ev hx => ?_)
      (fun id hid => ?_) (fun _ hx => .inl hx) fun _ _ => Iff.rfl
    · rcases hx with ⟨task, htask, hx⟩ | hx
      · refine .inl ⟨task, ?_, hx⟩
        rcases hpub with ⟨hpub, _⟩ | ⟨_, hpub, _⟩
        · exact hpub ▸ htask
        · rw [hpub]
          exact List.mem_append_left _ htask
      · exact .inr hx
    · rcases hx with ⟨task, htask, hx⟩ | hx
      · rcases hpub with ⟨hpub, _⟩ | ⟨ev', hpub, hgenuine, his, _⟩
        · exact .inl (.inl ⟨task, hpub ▸ htask, hx⟩)
        · have htask : task ∈ s'.pendingPublishes := htask
          rw [hpub, List.mem_append, List.mem_singleton] at htask
          rcases htask with htask | rfl
          · exact .inl (.inl ⟨task, htask, hx⟩)
          · obtain ⟨rfl, _⟩ := hx
            exact .inr ⟨hgenuine, .inl his⟩
      · exact .inl (.inr hx)
    · rcases hpub with ⟨_, hsame⟩ | ⟨ev, hpub, _, his, hother⟩
      · exact .inl (hsame id hid)
      · by_cases hide : id = ev.eId
        · subst hide
          refine .inr ⟨ev, .inl ⟨⟨ev, Cluster.targetsOf n w⟩, ?_, rfl,
            mem_targetsOf.mpr ⟨hr, hrw⟩⟩, rfl, his⟩
          show _ ∈ s'.pendingPublishes
          rw [hpub]
          exact List.mem_append_right _ List.mem_cons_self
        · exact .inl (hother id hide)
  · have hlink := h.links o w ho hw how
    simp only [Cluster.setService, Function.update_self]
    refine hlink.frame (.refl o _) (hothers o how) (fun id _ => ?_) (fun hx => ?_) (fun _ hx => hx)
      (fun _ hx => .inl hx) (fun _ _ => .inl rfl) (fun _ hx => .inl hx) fun _ _ => Iff.rfl
    · show s'.pendingRemoteMoves.lookup id = _
      rw [hkept.moves]
      rfl
    · show o ∈ s'.ownersNeedingSnapshot
      rw [hkept.need]
      exact hx

/-- Recovery sends waiting snapshots and requests; it touches neither the service nor events. -/
theorem advance_spec (numWorker : Nat) (wId : WorkerId) (worker : LogicAoi) (now : Int)
    (accepts : WorkerId → ServiceBody → Bool) :
    let out := worker.advanceAoiRecovery numWorker wId now accepts
    out.1.aoiService = worker.aoiService ∧ (∀ t ev, (t, .event ev) ∉ out.2) ∧
      ∀ t snap, out.1.pendingAoiSnapshots.lookup t = some snap ∨
          (t, .ownerSnapshot snap) ∈ out.2 →
        worker.pendingAoiSnapshots.lookup t = some snap := by
  simp only [LogicAoi.advanceAoiRecovery]
  split
  · exact ⟨rfl, by simp, fun t snap hx => hx.resolve_right (by simp)⟩
  refine ⟨rfl, fun t ev hx => ?_, fun t snap hx => ?_⟩
  · rcases List.mem_append.mp hx with hx | hx
    · obtain ⟨_, _, heq⟩ := List.mem_map.mp hx
      cases heq
    · obtain ⟨_, _, heq⟩ := List.mem_map.mp hx
      cases heq
  · rcases hx with hx | hx
    · rw [Table.lookup_keep, Option.filter_eq_some_iff] at hx
      exact hx.1
    rcases List.mem_append.mp hx with hx | hx
    · obtain ⟨row, hrow, heq⟩ := List.mem_map.mp hx
      cases heq
      exact Table.lookup_of_mem (List.mem_filter.mp hrow).1
    · obtain ⟨_, _, heq⟩ := List.mem_map.mp hx
      cases heq

theorem Sound.recover (h : Sound sc n c) {now : Int} {accepts : WorkerId → ServiceBody → Bool}
    (hrun : c.step sc n (.recover w now accepts) = some c') : Sound sc n c' := by
  simp only [Cluster.step] at hrun
  split at hrun
  case isFalse => cases hrun
  rename_i hw
  cases hrun
  obtain ⟨hservice, hevents, hsnaps⟩ := advance_spec n w (c.workers w) now accepts
  refine h.rebuild (fun x hx => Function.update_of_ne hx _ _) (fun _ _ => rfl)
    (fun x _ msg hmsg => ?_) ?_ ?_ (fun r hr hrw => ?_) fun o ho how => ?_
  · rw [mem_post]
    exact or_iff_left fun hx => hmsg hx.1
  · simp only [Function.update_self, hservice]
    exact h.based w
  · simp only [Function.update_self, hservice]
    exact h.history w
  · have hlink := h.links w r hw hr hrw.symm
    simp only [Function.update_self, hservice]
    refine hlink.frame (.refl w _) (.refl w _) (fun _ _ => rfl) id (fun ev hx => ?_)
      (fun ev hx => ?_) (fun _ _ => .inl rfl) (fun snap hx => ?_) fun _ _ => Iff.rfl
    · rcases hx with hx | hx
      · exact .inl (hservice ▸ hx)
      · exact .inr (mem_post.mpr (.inl hx))
    · rcases hx with hx | hx
      · exact .inl (.inl (hservice ▸ hx))
      · rcases mem_post.mp hx with hx | ⟨_, hx⟩
        · exact .inl (.inr hx)
        · exact absurd hx (hevents r ev)
    · rcases hx with hx | hx
      · exact .inl (.inl (hsnaps r snap (.inl hx)))
      · rcases mem_post.mp hx with hx | ⟨_, hx⟩
        · exact .inl (.inr hx)
        · exact .inl (.inl (hsnaps r snap (.inr hx)))
  · have hlink := h.links o w ho hw how
    simp only [Function.update_self, channelOf, hservice]
    refine hlink.mail (fun msg hmsg hx => ?_) fun ev hx => mem_post.mpr (.inl hx)
    exact (mem_post.mp hx).resolve_right fun hx => how (hmsg.symm.trans hx.1)

theorem Sound.tick (h : Sound sc n c) {now : Int} {sink : Sink}
    (hrun : c.step sc n (.tick w now sink) = some c') : Sound sc n c' := by
  simp only [Cluster.step] at hrun
  split at hrun
  case isFalse => cases hrun
  rename_i hw
  obtain ⟨s', hwork, rfl⟩ := Option.map_eq_some_iff.mp hrun
  have hb := h.based w
  have hmail : ∀ x, x ≠ w → ∀ (sends : List (WorkerId × ServiceBody)) (msg : ServiceMsg),
      msg.sender ≠ w → (msg ∈ Cluster.post c.inbox w sends x ↔ msg ∈ c.inbox x) := by
    intro x _ sends msg hmsg
    rw [mem_post]
    exact or_iff_left fun hx => hmsg hx.1
  rcases tick_spec hb hwork with ⟨hnot, rfl⟩ | ⟨hdue, start, t, sent, ht⟩
  · have hpost : Cluster.post c.inbox w [] = c.inbox := by
      funext x
      simp [Cluster.post]
    simpa [Cluster.setService, Cluster.tickMissed, hnot, hpost] using h
  have hdrop : s'.workerQueue.drop (c.workers w).aoiService.workerQueue.length = sent := by
    rw [ht.queue, List.drop_left]
  have hgrown : Grown w (c.workers w).aoiService s' := .of_same (.of_eq ht.ids) ht.seq ht.own
  refine h.rebuild (fun x hx => Function.update_of_ne hx _ _)
    (fun x hx => Function.update_of_ne hx _ _) (fun x hx msg hmsg => hmail x hx _ msg hmsg)
    ?_ ?_ (fun r hr hrw => ?_) fun o ho how => ?_
  · simp only [Cluster.setService, Function.update_self]
    exact hb.tick hwork
  · simp only [Cluster.setService, Function.update_self]
    exact (h.history w).of_same ht.seq ht.own
  · have hlink := h.links w r hw hr hrw.symm
    simp only [Cluster.setService, Function.update_self]
    have hsent : ∀ body, (r, body) ∈ (sent.map fun out => (out.1, ServiceBody.event out.2)) ↔
        ∃ ev, body = .event ev ∧ (r, ev) ∈ sent := by
      intro body
      simp only [List.mem_map, Prod.mk.injEq]
      constructor
      · rintro ⟨⟨target, ev⟩, hmem, rfl, rfl⟩
        exact ⟨ev, rfl, hmem⟩
      · rintro ⟨ev, rfl, hmem⟩
        exact ⟨(r, ev), hmem, rfl, rfl⟩
    rw [hdrop]
    refine hlink.frame hgrown (.refl w _) (fun _ _ => rfl) id (fun ev hx => ?_)
      (fun ev hx => .inl ?_) (fun id hid => .inl (ht.own.latest hid)) (fun snap hx => .inl ?_)
      fun _ _ => Iff.rfl
    · rcases hx with ⟨task, htask, rfl, hr'⟩ | hx
      · rcases ht.retried.covers task htask r hr' with hmem | ⟨task', htask', hev, hr''⟩
        · exact .inr (mem_post.mpr (.inr ⟨rfl, (hsent _).mpr ⟨_, rfl, hmem⟩⟩))
        · exact .inl ⟨task', htask', hev, hr''⟩
      · exact .inr (mem_post.mpr (.inl hx))
    · rcases hx with ⟨task', htask', hev, hr'⟩ | hx
      · obtain ⟨task, htask, heq, hsub⟩ := ht.retried.left_from task' htask'
        exact .inl ⟨task, htask, heq.symm.trans hev, hsub r hr'⟩
      · rcases mem_post.mp hx with hx | ⟨_, hx⟩
        · exact .inr hx
        · obtain ⟨ev', heq, hmem⟩ := (hsent _).mp hx
          cases heq
          obtain ⟨task, htask, hr', hev⟩ := ht.retried.sent_from _ hmem
          exact .inl ⟨task, htask, hev.symm, hr'⟩
    · rcases hx with hx | hx
      · exact .inl hx
      · rcases mem_post.mp hx with hx | ⟨_, hx⟩
        · exact .inr hx
        · obtain ⟨_, heq, _⟩ := (hsent _).mp hx
          cases heq
  · have hlink := h.links o w ho hw how
    simp only [Cluster.setService, Function.update_self]
    have hstart : Link sc o (c.workers o).aoiService (flushChannel o start
        (c.workers w).aoiService.pendingRemoteMoves.entries (c.channel o w).flies
        (c.channel o w).sent (c.channel o w).missed) := by
      simp only [flushChannel, ht.start_replica, ht.start_need]
      exact hlink
    have hflushed := hstart.flush_rows how (h.based o) ht.start_based
      (c.workers w).aoiService.pendingRemoteMoves.nodupKeys
      (fun row hr => hb.moves _ _ (Table.lookup_of_mem hr)) ht.flush
    have hmissed : Cluster.tickMissed sc (c.workers w).aoiService w now =
        missedMoves sc w (c.workers w).aoiService.pendingRemoteMoves.entries start := by
      rw [Cluster.tickMissed, if_neg hdue]
      exact missedMoves_congr ht.start_replica.symm ht.start_dirty.symm
    refine hflushed.frame (.refl o _) ?_ (fun id _ => ?_) (fun hx => ?_) (fun ev hx => ?_)
      (fun ev hx => .inl ?_) (fun _ _ => .inl rfl) (fun snap hx => .inl ?_) fun ev hx => ?_
    · show SameFor o t.replica s'.replica
      rw [ht.replica]
      exact .refl o _
    · show s'.pendingRemoteMoves.lookup id = none
      rw [ht.moves]
      rfl
    · show o ∈ s'.ownersNeedingSnapshot
      rw [ht.need]
      exact hx
    · exact hx.imp_right fun hx => mem_post.mpr (.inl hx)
    · exact hx.imp_right fun hx => (mem_post.mp hx).resolve_right fun hx => how hx.1
    · exact hx.imp_right fun hx => (mem_post.mp hx).resolve_right fun hx => how hx.1
    · show ev ∈ c.missed w ++ _ ↔ _
      rw [hmissed]
      exact List.mem_append

/-- What a message from `x` can change in the service of `w`. -/
structure FromOther (x w : WorkerId) (s s' : AoiService) : Prop where
  ids : s'.identities = s.identities
  seq : s'.ownerSeq = s.ownerSeq
  pub : s'.pendingPublishes = s.pendingPublishes
  own : SameFor w s.replica s'.replica
  same : ∀ o, o ≠ x → SameFor o s.replica s'.replica
  moves : ∀ id, ownerOf id ≠ x → s'.pendingRemoteMoves.lookup id = s.pendingRemoteMoves.lookup id
  need : ∀ o, o ≠ x → o ∈ s.ownersNeedingSnapshot → o ∈ s'.ownersNeedingSnapshot

theorem FromOther.refl (x w : WorkerId) (s : AoiService) : FromOther x w s s :=
  ⟨rfl, rfl, rfl, .refl w _, fun o _ => .refl o _, fun _ _ => rfl, fun _ _ => id⟩

/-- A message is taken from the queue: only the link from its sender needs a look. -/
theorem Sound.receive (h : Sound sc n c) (hw : w < n) {msg : ServiceMsg} {rest : List ServiceMsg}
    (hinbox : c.inbox w = msg :: rest) {worker : LogicAoi}
    (hbased : Based sc w worker.aoiService)
    (hother : FromOther msg.sender w (c.workers w).aoiService worker.aoiService)
    (hsnaps : ∀ r snap, worker.pendingAoiSnapshots.lookup r = some snap →
      (c.workers w).pendingAoiSnapshots.lookup r = some snap ∨
        SnapshotOf sc w worker.aoiService snap)
    (hlink : msg.sender < n → msg.sender ≠ w →
      Link sc msg.sender (c.workers msg.sender).aoiService
        (channelOf (c.workers msg.sender) worker rest (c.missed w) msg.sender w)) :
    Sound sc n { c with
      workers := Function.update c.workers w worker
      inbox := Function.update c.inbox w rest } := by
  have hgrown : Grown w (c.workers w).aoiService worker.aoiService :=
    .of_same (.of_eq hother.ids) hother.seq hother.own
  refine h.rebuild (fun x hx => Function.update_of_ne hx _ _) (fun _ _ => rfl)
    (fun x hx msg _ => ?_) ?_ ?_ (fun r hr hrw => ?_) fun o ho how => ?_
  · simp only [Function.update_of_ne hx]
  · simp only [Function.update_self]
    exact hbased
  · simp only [Function.update_self]
    exact (h.history w).of_same hother.seq hother.own
  · have hlink := h.links w r hw hr hrw.symm
    simp only [Function.update_self, Function.update_of_ne hrw]
    refine hlink.frame hgrown (.refl w _) (fun _ _ => rfl) id (fun ev hx => ?_)
      (fun ev hx => .inl ?_) (fun id hid => .inl (hother.own.latest hid)) (fun snap hx => ?_)
      fun _ _ => Iff.rfl
    · exact hx.imp_left fun hx => by rw [hother.pub]; exact hx
    · exact hx.imp_left fun hx => by rw [hother.pub] at hx; exact hx
    · rcases hx with hx | hx
      · exact (hsnaps r snap hx).imp_left .inl
      · exact .inl (.inr hx)
  · simp only [Function.update_self]
    by_cases hox : o = msg.sender
    · subst hox
      exact hlink ho how
    · have hlink := h.links o w ho hw how
      refine Link.mail ?_ (fun m _ hm => hinbox ▸ List.mem_cons_of_mem _ hm) fun ev hm => ?_
      case refine_2 =>
        rw [hinbox, List.mem_cons] at hm
        exact hm.resolve_left fun heq => hox (congrArg ServiceMsg.sender heq)
      refine hlink.frame (.refl o _) (hother.same o hox) (fun id hid => ?_) (hother.need o hox)
        (fun _ hx => hx) (fun _ hx => .inl hx) (fun _ _ => .inl rfl) (fun _ hx => .inl hx)
        fun _ _ => Iff.rfl
      exact hother.moves id (by rw [hid]; exact hox)

/-- What a remote event does, once the sender is found to be its owner. -/
theorem remote_cases {s s' : AoiService} {x : WorkerId} {ev : AoiEvent} {rr : RemoteResult}
    (hsender : ¬ (x = w ∨ x ≠ ev.ownerThreadId))
    (hrun : s.onRemoteEntityEvent sc w x ev = some (rr, s')) :
    (ev.msgKind = .move ∧ s.queueRemoteMove sc x ev = (rr, s')) ∨
      (ev.msgKind ≠ .move ∧ ∃ res rep dirty,
        s.replica.apply sc w ev .kRemote s.dirtyObservers = some (res, rep, dirty) ∧
        s' = { s with
          replica := rep
          dirtyObservers := dirty
          pendingRemoteMoves :=
            if res = .applied ∧
                (s.pendingRemoteMoves.lookup ev.eId).any (AoiService.supersedes x ev) then
              s.pendingRemoteMoves.erase ev.eId
            else s.pendingRemoteMoves }) := by
  unfold AoiService.onRemoteEntityEvent at hrun
  rw [if_neg hsender] at hrun
  split at hrun
  · rename_i hk
    exact .inl ⟨hk, Option.some.inj hrun⟩
  rename_i hk
  simp only [Option.bind_eq_bind, Option.bind_eq_some_iff] at hrun
  obtain ⟨⟨res, rep, dirty⟩, happly, hrun⟩ := hrun
  refine .inr ⟨hk, res, rep, dirty, happly, ?_⟩
  split at hrun
  · rename_i hres
    cases hrun
    have hres : res = .applied := hres
    simp [hres]
  · rename_i hres
    cases hrun
    have hres : res ≠ .applied := hres
    simp [hres]

theorem queueRemoteMove_fromOther {s s' : AoiService} {x : WorkerId} {ev : AoiEvent}
    {rr : RemoteResult} (hid : ownerOf ev.eId = x)
    (hrun : s.queueRemoteMove sc x ev = (rr, s')) : FromOther x w s s' := by
  rcases queueRemoteMove_cases hrun with ⟨rfl, _⟩ | ⟨rfl, _⟩
  · refine ⟨rfl, rfl, rfl, .refl w _, fun o _ => .refl o _, fun id hne => ?_, fun _ _ => id⟩
    rw [Table.lookup_insert, if_neg]
    rintro rfl
    exact hne hid
  · exact .refl x w _

theorem Sound.event (h : Sound sc n c) (hw : w < n) {x : WorkerId} {ev : AoiEvent}
    {rest : List ServiceMsg} (hinbox : c.inbox w = { sender := x, body := .event ev } :: rest)
    (hx : x < n) (hxw : x ≠ w) {rr : RemoteResult} {s' : AoiService}
    (hrun : (c.workers w).aoiService.onRemoteEntityEvent sc w x ev = some (rr, s')) :
    Sound sc n { c with
      workers := Function.update c.workers w { c.workers w with aoiService := s' }
      inbox := Function.update c.inbox w rest } := by
  have hlink := h.links x w hx hw hxw
  have hfly : (c.channel x w).flies ev := .inr (by rw [hinbox]; exact List.mem_cons_self)
  obtain ⟨hgenuine, hseen⟩ := hlink.events ev hfly
  have hsender : ¬ (x = w ∨ x ≠ ev.ownerThreadId) := by
    rw [hgenuine.owner]
    simp [hxw]
  have hbased := ((h.based w).remote (hgenuine.id.trans hgenuine.owner.symm) hrun).based
  have hflies : ∀ y, (c.channel x w).flies y →
      (channelOf (c.workers x) { c.workers w with aoiService := s' } rest (c.missed w) x w).flies y
        ∨ y = ev := by
    intro y hy
    rcases hy with hy | hy
    · exact .inl (.inl hy)
    · rw [hinbox, List.mem_cons] at hy
      rcases hy with hy | hy
      · cases hy
        exact .inr rfl
      · exact .inl (.inr hy)
  have hrest : ∀ m, m ∈ rest → m ∈ c.inbox w := fun m hm => by
    rw [hinbox]
    exact List.mem_cons_of_mem _ hm
  rcases remote_cases hsender hrun with ⟨hk, hqueue⟩ | ⟨hk, res, rep, dirty, happly, rfl⟩
  · refine h.receive hw hinbox hbased (queueRemoteMove_fromOther hgenuine.id hqueue)
      (fun _ _ hs => .inl hs) fun _ _ => ?_
    have hkept : s'.replica = (c.workers w).aoiService.replica ∧
        s'.ownersNeedingSnapshot = (c.workers w).aoiService.ownersNeedingSnapshot := by
      rcases queueRemoteMove_cases hqueue with ⟨rfl, _⟩ | ⟨rfl, _⟩ <;> exact ⟨rfl, rfl⟩
    refine hlink.queue hk hfly hqueue (fun _ => rfl) (fun _ => rfl) hkept.1 (fun hn => ?_) hflies
      (fun y hy => hy.imp_right (hrest _)) (fun snap hs => hs.imp_right (hrest _)) fun _ => Iff.rfl
    show x ∈ s'.ownersNeedingSnapshot
    rw [hkept.2]
    exact hn
  · refine h.receive hw hinbox hbased ?_ (fun _ _ hs => .inl hs) fun _ _ => ?_
    · have hagree := (h.based w).owned.agree
      refine ⟨rfl, rfl, rfl, apply_sameFor hagree (by rw [hgenuine.id]; exact hxw) happly,
        fun o ho => apply_sameFor hagree (by rw [hgenuine.id]; exact ho.symm) happly,
        fun id hid => ?_, fun _ _ => id⟩
      have hne : id ≠ ev.eId := by
        rintro rfl
        exact hid hgenuine.id
      show (if _ then _ else _ : Table EntityId AoiEvent).lookup id = _
      split
      · rw [Table.lookup_erase, if_neg hne]
      · rfl
    · refine hlink.arrived (h.based x) (h.based w).owned hxw hk hfly happly (fun id => ?_) id hflies
        (fun y hy => hy.imp_right (hrest _)) (fun snap hs => hs.imp_right (hrest _)) fun _ => Iff.rfl
      refine (Table.lookup_erase_if _ _ _ _).trans ?_
      refine if_congr (and_congr_right fun hid => ?_) rfl rfl
      rw [hid]
      rfl

end Steps

end Aoi
