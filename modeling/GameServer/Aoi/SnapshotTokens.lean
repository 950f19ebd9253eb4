import GameServer.Lib.History
import GameServer.Aoi.ViewSetSpec

/-!
# Tokens of view snapshots

What is said about the calls of a view set is said about their history: a snapshot
is committed under the token it was begun with, after all of its parts, and only
if nothing has ended it in between.
-/

namespace Aoi

namespace AoiViewSet

/-- The calls that may change a view set. -/
inductive Call where
  | registryObserver (observerId : EntityId) (clientViewEpoch : Nat)
  | resetObserver (observerId : EntityId) (expectedOldViewEpoch newViewEpoch : Nat)
  | removeObserver (observerId : EntityId) (expectedViewEpoch : Nat)
  | commitAccepted (observerId : EntityId) (token : ViewSendToken) (items : List AcceptedPush)
  | markPending (observerId targetId : EntityId) (token : ViewSendToken)
  | clearResolvedPending (observerId targetId : EntityId)
  | markNeedResync (observerId : EntityId) (clientEpoch : Nat)
  | beginSnapshot (observerId : EntityId) (frozenBaseline : ViewBaseline) (partCount : Nat)
  | markSnapshotPartAccepted (token : ViewSnapshotToken) (partIndex : Nat)
  | commitSnapshot (token : ViewSnapshotToken)
  | abortSnapshot (token : ViewSnapshotToken)

/-- A call with its answer; `begun` is the token that it has handed out. -/
structure Event where
  before : AoiViewSet
  call : Call
  ok : Bool
  begun : Option ViewSnapshotToken := none
  after : AoiViewSet

def answered (vs : AoiViewSet) (call : Call) (answer : Bool × AoiViewSet) : Event :=
  { before := vs, call, ok := answer.1, after := answer.2 }

def perform (vs : AoiViewSet) (call : Call) : Event :=
  match call with
  | .registryObserver o epoch => answered vs call (vs.registryObserver o epoch)
  | .resetObserver o old new => answered vs call (vs.resetObserver o old new)
  | .removeObserver o epoch => answered vs call (vs.removeObserver o epoch)
  | .commitAccepted o token items => answered vs call (vs.commitAccepted o token items)
  | .markPending o target token => answered vs call (vs.markPending o target token)
  | .clearResolvedPending o target => answered vs call (vs.clearResolvedPending o target)
  | .markNeedResync o epoch => answered vs call (vs.markNeedResync o epoch)
  | .beginSnapshot o frozen n =>
    let (begun, after) := vs.beginSnapshot o frozen n
    { before := vs, call, ok := begun.isSome, begun, after }
  | .markSnapshotPartAccepted token i => answered vs call (vs.markSnapshotPartAccepted token i)
  | .commitSnapshot token => answered vs call (vs.commitSnapshot token)
  | .abortSnapshot token => answered vs call (vs.abortSnapshot token)

/-- The history of a view set and its state. -/
def record (s : List Event × AoiViewSet) (call : Call) : List Event × AoiViewSet :=
  (s.1 ++ [perform s.2 call], (perform s.2 call).after)

def run (calls : List Call) : List Event × AoiViewSet := calls.foldl record ([], {})

namespace Event

/-- A call that ends every snapshot of the observer, if it succeeds. -/
def ending (o : EntityId) : Call → Bool
  | .registryObserver o' _ | .resetObserver o' _ _ | .removeObserver o' _ | .markNeedResync o' _ =>
    o' = o
  | .abortSnapshot token | .commitSnapshot token => token.observerId = o
  | _ => false

variable (e : Event)

def Ends (o : EntityId) : Prop := e.ok = true ∧ ending o e.call = true

def Begins (token : ViewSnapshotToken) (frozen : ViewBaseline) : Prop :=
  e.begun = some token ∧ ∃ o n, e.call = .beginSnapshot o frozen n

def Marks (token : ViewSnapshotToken) (part : Nat) : Prop :=
  e.ok = true ∧ e.call = .markSnapshotPartAccepted token part

def Commits (token : ViewSnapshotToken) : Prop := e.ok = true ∧ e.call = .commitSnapshot token

/-- A successful commit that is not empty. -/
def advances (o : EntityId) : Bool :=
  e.ok && match e.call with
    | .commitAccepted o' _ items => o' = o ∧ items ≠ []
    | .commitSnapshot token => token.observerId = o
    | _ => false

/-- The view of the observer is a new one. -/
def restarts (o : EntityId) : Bool :=
  e.ok && match e.call with
    | .registryObserver o' _ | .resetObserver o' _ _ => o' = o
    | _ => false

/-- The next number of a view is one greater after a commit, and the first one in a new view. -/
def Counts : Prop :=
  ∀ o v v', e.before.views.lookup o = some v → e.after.views.lookup o = some v' →
    v'.nextViewSeq =
      if e.advances o then v.nextViewSeq + 1 else if e.restarts o then 1 else v.nextViewSeq

end Event

/-- The snapshot of the token was begun, has not ended, and `parts` of it are accepted. -/
def Open (log : List Event) (token : ViewSnapshotToken) (frozen : ViewBaseline)
    (accepted : Nat → Prop) : Prop :=
  ∃ pre e post, log = pre ++ e :: post ∧ e.Begins token frozen ∧
    (∀ x ∈ post, ¬ x.Ends token.observerId) ∧
    ∀ i, accepted i → ∃ x ∈ post, x.Marks token i

/-- What may follow a history. -/
structure Law (log : List Event) (e : Event) : Prop where
  failed : e.ok = false → e.after = e.before
  fresh : ∀ token, e.begun = some token →
    ∀ x ∈ log, ∀ earlier, x.begun = some earlier → earlier.snapshotId < token.snapshotId
  current : ∀ token, (e.before.findSnapshotTask token).isSome = true →
    ∃ frozen, Open log token frozen fun _ => False
  commit : ∀ token, e.Commits token →
    ∃ frozen, Open log token frozen (· < token.partCount) ∧
      ∃ v, e.after.views.lookup token.observerId = some v ∧ v.committedState = frozen
  delta : ∀ o token items, e.call = .commitAccepted o token items → e.ok = true →
    o ∉ e.before.snapshotTasks
  counts : e.Counts

section Answers

variable {vs vs' : AoiViewSet} {o target : EntityId} {token : ViewSnapshotToken}

theorem registryObserver_false {epoch : Nat} (h : vs.registryObserver o epoch = (false, vs')) :
    vs' = vs := by
  unfold registryObserver at h
  split at h
  · exact (congrArg Prod.snd h).symm
  · cases h

theorem resetObserver_false {old new : Nat} (h : vs.resetObserver o old new = (false, vs')) :
    vs' = vs := by
  unfold resetObserver at h
  split at h
  · exact (congrArg Prod.snd h).symm
  split at h
  · exact (congrArg Prod.snd h).symm
  · cases h

theorem removeObserver_false {epoch : Nat} (h : vs.removeObserver o epoch = (false, vs')) :
    vs' = vs := by
  unfold removeObserver at h
  split at h
  · exact (congrArg Prod.snd h).symm
  split at h
  · exact (congrArg Prod.snd h).symm
  · cases h

theorem markPending_false {send : ViewSendToken}
    (h : vs.markPending o target send = (false, vs')) : vs' = vs := by
  unfold markPending at h
  split at h
  · exact (congrArg Prod.snd h).symm
  split at h
  · exact (congrArg Prod.snd h).symm
  · cases h

theorem markPending_true {send : ViewSendToken}
    (h : vs.markPending o target send = (true, vs')) :
    ∃ v, vs.views.lookup o = some v ∧ vs' = { vs with
      views := vs.views.insert o { v with pendings := insert target v.pendings } } := by
  unfold markPending at h
  split at h
  · cases h
  rename_i v hv
  split at h
  · cases h
  · exact ⟨v, hv, (congrArg Prod.snd h).symm⟩

theorem clearResolvedPending_false (h : vs.clearResolvedPending o target = (false, vs')) :
    vs' = vs := by
  unfold clearResolvedPending at h
  split at h
  · exact (congrArg Prod.snd h).symm
  split at h
  · exact (congrArg Prod.snd h).symm
  · cases h

theorem clearResolvedPending_true (h : vs.clearResolvedPending o target = (true, vs')) :
    ∃ v, vs.views.lookup o = some v ∧ vs' = { vs with
      views := vs.views.insert o { v with pendings := v.pendings.erase target } } := by
  unfold clearResolvedPending at h
  split at h
  · cases h
  rename_i v hv
  split at h
  · cases h
  · exact ⟨v, hv, (congrArg Prod.snd h).symm⟩

theorem markSnapshotPartAccepted_false {part : Nat}
    (h : vs.markSnapshotPartAccepted token part = (false, vs')) : vs' = vs := by
  unfold markSnapshotPartAccepted at h
  split at h
  · exact (congrArg Prod.snd h).symm
  split at h
  · exact (congrArg Prod.snd h).symm
  · cases h
  · cases h

/-- A part is accepted once; every further time nothing changes. -/
theorem markSnapshotPartAccepted_true {part : Nat}
    (h : vs.markSnapshotPartAccepted token part = (true, vs')) :
    ∃ task, vs.findSnapshotTask token = some task ∧
      ((task.acceptedParts[part]? = some true ∧ vs' = vs) ∨
        (task.acceptedParts[part]? = some false ∧ vs' = { vs with
          snapshotTasks := vs.snapshotTasks.insert token.observerId
            { task with
              acceptedParts := task.acceptedParts.set part true
              acceptedCount := task.acceptedCount + 1 } })) := by
  unfold markSnapshotPartAccepted at h
  split at h
  · cases h
  rename_i task htask
  split at h
  · cases h
  · rename_i hpart
    exact ⟨task, htask, .inl ⟨hpart, (congrArg Prod.snd h).symm⟩⟩
  · rename_i hpart
    exact ⟨task, htask, .inr ⟨hpart, (congrArg Prod.snd h).symm⟩⟩

theorem commitSnapshot_false (h : vs.commitSnapshot token = (false, vs')) : vs' = vs := by
  unfold commitSnapshot at h
  split at h
  · split at h
    · exact (congrArg Prod.snd h).symm
    · cases h
  · exact (congrArg Prod.snd h).symm

theorem commitSnapshot_true (h : vs.commitSnapshot token = (true, vs')) :
    ∃ task v, vs.findSnapshotTask token = some task ∧ vs.views.lookup token.observerId = some v ∧
      task.acceptedCount = token.partCount ∧ vs' = { vs with
        views := vs.views.insert token.observerId
          { v with
            committedState := task.baseline
            pendings := ∅
            nextViewSeq := v.nextViewSeq + 1
            needResync := false }
        snapshotTasks := vs.snapshotTasks.erase token.observerId } := by
  unfold commitSnapshot at h
  split at h
  · rename_i task v htask hv
    split at h
    · cases h
    · rename_i hcount
      exact ⟨task, v, htask, hv, not_not.mp hcount, (congrArg Prod.snd h).symm⟩
  · cases h

theorem abortSnapshot_false (h : vs.abortSnapshot token = (false, vs')) : vs' = vs := by
  unfold abortSnapshot at h
  split at h
  · exact (congrArg Prod.snd h).symm
  · cases h

theorem abortSnapshot_true (h : vs.abortSnapshot token = (true, vs')) :
    vs' = { vs with snapshotTasks := vs.snapshotTasks.erase token.observerId } := by
  unfold abortSnapshot at h
  split at h
  · cases h
  · exact (congrArg Prod.snd h).symm

/-- An empty frame is accepted and changes nothing. -/
theorem commitAccepted_nil {send : ViewSendToken} : (vs.commitAccepted o send []).2 = vs := by
  unfold commitAccepted
  split
  · rfl
  split
  · rfl
  split <;> rfl

theorem commitAccepted_idle {send : ViewSendToken} {items : List AcceptedPush}
    (h : (vs.commitAccepted o send items).1 = true) : o ∉ vs.snapshotTasks := by
  unfold commitAccepted at h
  split at h
  · cases h
  · assumption

/-- A task is found under its own token, and under no other. -/
theorem findSnapshotTask_some {task : SnapshotTask} (h : vs.findSnapshotTask token = some task) :
    vs.snapshotTasks.lookup token.observerId = some task ∧
      (task.token.observerId = token.observerId → task.token = token) := by
  unfold findSnapshotTask at h
  split at h
  · rename_i state saved hstate hsaved
    split at h
    · cases h
    rename_i hsame
    cases h
    refine ⟨hsaved, fun ho => ?_⟩
    simp only [not_or, ne_eq, not_not] at hsame
    obtain ⟨-, -, -, -, hid, hepoch, hrevision, hseq, hcount⟩ := hsame
    cases htoken : task.token
    cases token
    simp_all
  · cases h

end Answers

section Calls

/-- What a call leaves when it succeeds. -/
inductive Done (vs : AoiViewSet) : Call → Option ViewSnapshotToken → AoiViewSet → Prop
  | opened (o : EntityId) (epoch : Nat) (call : Call)
      (hcall : call = .registryObserver o epoch ∨ ∃ old, call = .resetObserver o old epoch) :
      Done vs call none { vs with
        views := vs.views.insert o { clientViewEpoch := epoch, needResync := true }
        snapshotTasks := vs.snapshotTasks.erase o }
  | removed (o : EntityId) (epoch : Nat) : Done vs (.removeObserver o epoch) none { vs with
      views := vs.views.erase o
      snapshotTasks := vs.snapshotTasks.erase o }
  | nothing (o : EntityId) (token : ViewSendToken) : Done vs (.commitAccepted o token []) none vs
  | accepted (o : EntityId) (token : ViewSendToken) (items : List AcceptedPush) (hne : items ≠ [])
      (v next : ObserverSnapshot) (hv : vs.views.lookup o = some v) :
      Done vs (.commitAccepted o token items) none { vs with
        views := vs.views.insert o
          { v with
            committedState := next.committedState
            pendings := next.pendings
            nextViewSeq := v.nextViewSeq + 1 } }
  | pending (o target : EntityId) (call : Call)
      (hcall : (∃ token, call = .markPending o target token) ∨ call = .clearResolvedPending o target)
      (v : ObserverSnapshot) (hv : vs.views.lookup o = some v) (pendings : Finset EntityId) :
      Done vs call none { vs with views := vs.views.insert o { v with pendings } }
  | resync (o : EntityId) (epoch : Nat) (v : ObserverSnapshot) (hv : vs.views.lookup o = some v) :
      Done vs (.markNeedResync o epoch) none { vs with
        views := vs.views.insert o
          { v with needResync := true, resyncRevision := v.resyncRevision + 1 }
        snapshotTasks := vs.snapshotTasks.erase o }
  | begun (frozen : ViewBaseline) (token : ViewSnapshotToken)
      (hid : token.snapshotId = vs.nextSnapshotId) :
      Done vs (.beginSnapshot token.observerId frozen token.partCount) (some token) { vs with
        snapshotTasks := vs.snapshotTasks.insert token.observerId
          { token, baseline := frozen, acceptedParts := List.replicate token.partCount false }
        nextSnapshotId := vs.nextSnapshotId + 1 }
  | again (token : ViewSnapshotToken) (part : Nat) :
      Done vs (.markSnapshotPartAccepted token part) none vs
  | marked (token : ViewSnapshotToken) (part : Nat) (task : SnapshotTask)
      (hfind : vs.findSnapshotTask token = some task)
      (hpart : task.acceptedParts[part]? = some false) :
      Done vs (.markSnapshotPartAccepted token part) none { vs with
        snapshotTasks := vs.snapshotTasks.insert token.observerId
          { task with
            acceptedParts := task.acceptedParts.set part true
            acceptedCount := task.acceptedCount + 1 } }
  | committed (token : ViewSnapshotToken) (task : SnapshotTask) (v : ObserverSnapshot)
      (hfind : vs.findSnapshotTask token = some task)
      (hv : vs.views.lookup token.observerId = some v)
      (hcount : task.acceptedCount = token.partCount) :
      Done vs (.commitSnapshot token) none { vs with
        views := vs.views.insert token.observerId
          { v with
            committedState := task.baseline
            pendings := ∅
            nextViewSeq := v.nextViewSeq + 1
            needResync := false }
        snapshotTasks := vs.snapshotTasks.erase token.observerId }
  | aborted (token : ViewSnapshotToken) : Done vs (.abortSnapshot token) none { vs with
      snapshotTasks := vs.snapshotTasks.erase token.observerId }

/-- A call fails and changes nothing, or it succeeds. -/
inductive Result (vs : AoiViewSet) (call : Call) : Event → Prop
  | failed : Result vs call { before := vs, call, ok := false, after := vs }
  | done (begun : Option ViewSnapshotToken) (after : AoiViewSet) (h : Done vs call begun after) :
      Result vs call { before := vs, call, ok := true, begun, after }

variable {vs : AoiViewSet}

theorem result_answered {call : Call} {answer : Bool × AoiViewSet}
    (hfalse : ∀ {after}, answer = (false, after) → after = vs)
    (htrue : ∀ after, answer = (true, after) → Done vs call none after) :
    Result vs call (vs.answered call answer) := by
  obtain ⟨ok, after⟩ := answer
  cases ok with
  | false =>
    obtain rfl := hfalse rfl
    exact .failed
  | true => exact .done none after (htrue after rfl)

theorem result_beginSnapshot (vs : AoiViewSet) (o : EntityId) (frozen : ViewBaseline) (n : Nat) :
    Result vs (.beginSnapshot o frozen n) (vs.perform (.beginSnapshot o frozen n)) := by
  simp only [perform]
  unfold beginSnapshot
  split
  · exact .failed
  split
  · exact .failed
  rename_i v _ _
  split
  · exact .failed
  · let token : ViewSnapshotToken :=
      { observerId := o
        clientViewEpoch := v.clientViewEpoch
        viewSeq := v.nextViewSeq
        resyncRevision := v.resyncRevision
        snapshotId := vs.nextSnapshotId
        partCount := n }
    exact .done (some token) _ (.begun frozen token rfl)

theorem perform_result (vs : AoiViewSet) (call : Call) : Result vs call (vs.perform call) := by
  cases call with
  | registryObserver o epoch =>
    refine result_answered registryObserver_false fun after h => ?_
    obtain ⟨-, rfl⟩ := registryObserver_true h
    exact .opened o epoch _ (.inl rfl)
  | resetObserver o old epoch =>
    refine result_answered resetObserver_false fun after h => ?_
    obtain ⟨-, rfl⟩ := resetObserver_true h
    exact .opened o epoch _ (.inr ⟨old, rfl⟩)
  | removeObserver o epoch =>
    refine result_answered removeObserver_false fun after h => ?_
    obtain ⟨-, rfl⟩ := removeObserver_true h
    exact .removed o epoch
  | commitAccepted o token items =>
    refine result_answered commitAccepted_false fun after h => ?_
    by_cases hne : items = []
    · subst hne
      obtain rfl : after = vs := (congrArg Prod.snd h).symm.trans commitAccepted_nil
      exact .nothing o token
    · obtain ⟨v, next, hv, -, -, rfl⟩ := commitAccepted_true hne h
      exact .accepted o token items hne v next hv
  | markPending o target token =>
    refine result_answered markPending_false fun after h => ?_
    obtain ⟨v, hv, rfl⟩ := markPending_true h
    exact .pending o target _ (.inl ⟨token, rfl⟩) v hv _
  | clearResolvedPending o target =>
    refine result_answered clearResolvedPending_false fun after h => ?_
    obtain ⟨v, hv, rfl⟩ := clearResolvedPending_true h
    exact .pending o target _ (.inr rfl) v hv _
  | markNeedResync o epoch =>
    refine result_answered markNeedResync_false fun after h => ?_
    obtain ⟨v, hv, -, rfl⟩ := markNeedResync_true h
    exact .resync o epoch v hv
  | beginSnapshot o frozen n => exact result_beginSnapshot vs o frozen n
  | markSnapshotPartAccepted token part =>
    refine result_answered markSnapshotPartAccepted_false fun after h => ?_
    obtain ⟨task, htask, ⟨-, rfl⟩ | ⟨hpart, rfl⟩⟩ := markSnapshotPartAccepted_true h
    · exact .again token part
    · exact .marked token part task htask hpart
  | commitSnapshot token =>
    refine result_answered commitSnapshot_false fun after h => ?_
    obtain ⟨task, v, htask, hv, hcount, rfl⟩ := commitSnapshot_true h
    exact .committed token task v htask hv hcount
  | abortSnapshot token =>
    refine result_answered abortSnapshot_false fun after h => ?_
    obtain rfl := abortSnapshot_true h
    exact .aborted token

end Calls

section History

/-- What a history knows about an open snapshot. -/
structure Backed (log : List Event) (o : EntityId) (task : SnapshotTask) : Prop where
  observer : task.token.observerId = o
  opened : Open log task.token task.baseline fun i => task.acceptedParts[i]? = some true
  parts : task.acceptedParts.length = task.token.partCount
  count : task.acceptedCount = task.acceptedParts.count true

structure Sound (s : List Event × AoiViewSet) : Prop where
  lawful : History.Lawful Law s.1
  numbered : ∀ x ∈ s.1, ∀ token, x.begun = some token → token.snapshotId < s.2.nextSnapshotId
  tasks : ∀ o task, s.2.snapshotTasks.lookup o = some task → Backed s.1 o task

variable {log : List Event} {e : Event} {token : ViewSnapshotToken} {frozen : ViewBaseline}
  {accepted accepted' : Nat → Prop}

theorem Open.imp (h : Open log token frozen accepted) (hle : ∀ i, accepted' i → accepted i) :
    Open log token frozen accepted' := by
  obtain ⟨pre, b, post, hlog, hbegins, hquiet, hparts⟩ := h
  exact ⟨pre, b, post, hlog, hbegins, hquiet, fun i hi => hparts i (hle i hi)⟩

/-- A snapshot stays open through a call that does not end it. -/
theorem Open.append (h : Open log token frozen accepted) (hends : ¬ e.Ends token.observerId)
    (hmore : ∀ i, accepted' i → accepted i ∨ e.Marks token i) :
    Open (log ++ [e]) token frozen accepted' := by
  obtain ⟨pre, b, post, rfl, hbegins, hquiet, hparts⟩ := h
  refine ⟨pre, b, post ++ [e], by simp, hbegins, fun x hx => ?_, fun i hi => ?_⟩
  · rcases List.mem_append.mp hx with hx | hx
    · exact hquiet x hx
    · rw [List.mem_singleton.mp hx]
      exact hends
  · rcases hmore i hi with hold | hnew
    · obtain ⟨x, hx, hmarks⟩ := hparts i hold
      exact ⟨x, List.mem_append_left _ hx, hmarks⟩
    · exact ⟨e, by simp, hnew⟩

theorem Open.begin (hbegins : e.Begins token frozen) (hnone : ∀ i, ¬ accepted i) :
    Open (log ++ [e]) token frozen accepted :=
  ⟨log, e, [], rfl, hbegins, by simp, fun i hi => absurd hi (hnone i)⟩

variable {o : EntityId} {task : SnapshotTask}

theorem Backed.append (h : Backed log o task) (hends : ¬ e.Ends o) : Backed (log ++ [e]) o task where
  observer := h.observer
  opened := h.opened.append (h.observer.symm ▸ hends) fun _ hi => .inl hi
  parts := h.parts
  count := h.count

/-- One more part of the snapshot is accepted. -/
theorem Backed.mark (h : Backed log o task) {part : Nat} (hmarks : e.Marks task.token part)
    (hpart : task.acceptedParts[part]? = some false) :
    Backed (log ++ [e]) o
      { task with
        acceptedParts := task.acceptedParts.set part true
        acceptedCount := task.acceptedCount + 1 } where
  observer := h.observer
  opened := by
    refine h.opened.append (fun hends => ?_) fun i hi => ?_
    · have hcall := hends.2
      rw [hmarks.2] at hcall
      cases hcall
    · by_cases heq : part = i
      · exact .inr (heq ▸ hmarks)
      · rw [List.getElem?_set_ne heq] at hi
        exact .inl hi
  parts := by simpa using h.parts
  count := by
    obtain ⟨hlt, hget⟩ := List.getElem?_eq_some_iff.mp hpart
    rw [List.count_set hlt, h.count, hget]
    simp

/-- All parts of a snapshot are accepted once the count says so. -/
theorem Backed.complete (h : Backed log o task) (hcount : task.acceptedCount = task.token.partCount) :
    Open log task.token task.baseline (· < task.token.partCount) := by
  refine h.opened.imp fun i hi => ?_
  have hall : ∀ b ∈ task.acceptedParts, true = b :=
    List.count_eq_length.mp (by rw [← h.count, hcount, h.parts])
  have hlt : i < task.acceptedParts.length := h.parts.symm ▸ hi
  rw [List.getElem?_eq_getElem hlt, ← hall _ (List.getElem_mem hlt)]

/-- A token that is found is the one of its task. -/
theorem Sound.found {s : List Event × AoiViewSet} (h : Sound s)
    (hfind : s.2.findSnapshotTask token = some task) :
    task.token = token ∧ Backed s.1 token.observerId task := by
  obtain ⟨hlookup, htoken⟩ := findSnapshotTask_some hfind
  have hback := h.tasks _ _ hlookup
  exact ⟨htoken hback.observer, hback⟩

end History

section Run

variable {s : List Event × AoiViewSet} {vs : AoiViewSet} {e : Event} {call : Call}

theorem counts_insert {o : EntityId} {w : ObserverSnapshot}
    (hviews : e.after.views = e.before.views.insert o w)
    (hown : ∀ v, e.before.views.lookup o = some v → w.nextViewSeq =
      if e.advances o then v.nextViewSeq + 1 else if e.restarts o then 1 else v.nextViewSeq)
    (hother : ∀ o', o' ≠ o → e.advances o' = false ∧ e.restarts o' = false) : e.Counts := by
  intro o' v v' hv hv'
  rw [hviews, Table.lookup_insert] at hv'
  by_cases ho : o' = o
  · subst ho
    rw [if_pos rfl] at hv'
    cases hv'
    exact hown v hv
  · rw [if_neg ho] at hv'
    cases hv.symm.trans hv'
    obtain ⟨hadvances, hrestarts⟩ := hother o' ho
    simp [hadvances, hrestarts]

theorem counts_same (hsame : ∀ o v', e.after.views.lookup o = some v' →
      e.before.views.lookup o = some v')
    (hnone : ∀ o, e.advances o = false ∧ e.restarts o = false) : e.Counts := by
  intro o v v' hv hv'
  cases hv.symm.trans (hsame o v' hv')
  obtain ⟨hadvances, hrestarts⟩ := hnone o
  simp [hadvances, hrestarts]

theorem Done.counts {begun : Option ViewSnapshotToken} {after : AoiViewSet}
    (h : Done vs call begun after) :
    Event.Counts { before := vs, call, ok := true, begun, after } := by
  cases h with
  | opened o epoch call hcall =>
    refine counts_insert rfl (fun v _ => ?_) fun o' ho => ?_
    · rcases hcall with rfl | ⟨old, rfl⟩ <;> simp [Event.advances, Event.restarts]
    · rcases hcall with rfl | ⟨old, rfl⟩ <;> simp [Event.advances, Event.restarts, Ne.symm ho]
  | removed o epoch =>
    refine counts_same (fun o' v' hv' => ?_) fun o' => by simp [Event.advances, Event.restarts]
    simp only [Table.lookup_erase] at hv'
    split at hv'
    · cases hv'
    · exact hv'
  | nothing o token =>
    exact counts_same (fun _ _ hv' => hv') fun o' => by simp [Event.advances, Event.restarts]
  | accepted o token items hne v next hv =>
    refine counts_insert rfl (fun v₁ hv₁ => ?_) fun o' ho => ?_
    · cases hv.symm.trans hv₁
      simp [Event.advances, hne]
    · simp [Event.advances, Event.restarts, Ne.symm ho]
  | pending o target call hcall v hv pendings =>
    refine counts_insert rfl (fun v₁ hv₁ => ?_) fun o' ho => ?_
    · cases hv.symm.trans hv₁
      rcases hcall with ⟨token, rfl⟩ | rfl <;> simp [Event.advances, Event.restarts]
    · rcases hcall with ⟨token, rfl⟩ | rfl <;> simp [Event.advances, Event.restarts]
  | resync o epoch v hv =>
    refine counts_insert rfl (fun v₁ hv₁ => ?_) fun o' ho => ?_
    · cases hv.symm.trans hv₁
      simp [Event.advances, Event.restarts]
    · simp [Event.advances, Event.restarts]
  | begun frozen token hid =>
    exact counts_same (fun _ _ hv' => hv') fun o' => by simp [Event.advances, Event.restarts]
  | again token part =>
    exact counts_same (fun _ _ hv' => hv') fun o' => by simp [Event.advances, Event.restarts]
  | marked token part task hfind hpart =>
    exact counts_same (fun _ _ hv' => hv') fun o' => by simp [Event.advances, Event.restarts]
  | committed token task v hfind hv hcount =>
    refine counts_insert rfl (fun v₁ hv₁ => ?_) fun o' ho => ?_
    · cases hv.symm.trans hv₁
      simp [Event.advances]
    · simp [Event.advances, Event.restarts, Ne.symm ho]
  | aborted token =>
    exact counts_same (fun _ _ hv' => hv') fun o' => by simp [Event.advances, Event.restarts]

/-- Every call of a sound history follows the law. -/
theorem Sound.law (h : Sound s) (call : Call) : Law s.1 (s.2.perform call) := by
  have hcurrent : ∀ token, (s.2.findSnapshotTask token).isSome = true →
      ∃ frozen, Open s.1 token frozen fun _ => False := by
    intro token hfind
    obtain ⟨task, htask⟩ := Option.isSome_iff_exists.mp hfind
    obtain ⟨rfl, hback⟩ := h.found htask
    exact ⟨task.baseline, hback.opened.imp fun _ hi => hi.elim⟩
  have hidle : ∀ o token items, call = .commitAccepted o token items →
      (s.2.perform call).ok = true → o ∉ s.2.snapshotTasks := by
    rintro o token items rfl hok
    exact commitAccepted_idle hok
  have hresult := s.2.perform_result call
  revert hidle
  generalize s.2.perform call = e at hresult ⊢
  intro hidle
  cases hresult with
  | failed =>
    refine ⟨fun _ => rfl, fun _ hbegun => (nomatch hbegun), hcurrent,
      fun _ hcommits => (nomatch hcommits.1), fun o token items hcall hok => (nomatch hok), ?_⟩
    exact counts_same (fun _ _ hv' => hv') fun o => by simp [Event.advances, Event.restarts]
  | done begun after hdone =>
    refine ⟨fun hfailed => (nomatch hfailed), fun token hbegun x hx earlier hearlier => ?_, hcurrent,
      fun token hcommits => ?_, hidle, hdone.counts⟩
    · cases hdone with
      | begun frozen token hid =>
        cases hbegun
        rw [hid]
        exact h.numbered x hx earlier hearlier
      | _ => cases hbegun
    · have hcall := hcommits.2
      cases hdone with
      | committed token' task v hfind hv hcount =>
        cases hcall
        obtain ⟨rfl, hback⟩ := h.found hfind
        exact ⟨task.baseline, hback.complete hcount, _, Table.lookup_insert_same _ _ _, rfl⟩
      | opened o epoch call hcall' =>
        rcases hcall' with hcall' | ⟨old, hcall'⟩ <;> cases hcall.symm.trans hcall'
      | pending o target call hcall' v hv pendings =>
        rcases hcall' with ⟨token, hcall'⟩ | hcall' <;> cases hcall.symm.trans hcall'
      | _ => cases hcall

theorem sound_init : Sound ([], {}) where
  lawful := History.lawful_nil
  numbered := by simp
  tasks := fun _ _ htask => nomatch htask

/-- The snapshots that a call leaves open are backed by the history with the call. -/
theorem Sound.backed (h : Sound s) {after : AoiViewSet} {begun : Option ViewSnapshotToken}
    (hdone : Done s.2 call begun after) {o : EntityId} {task : SnapshotTask}
    (htask : after.snapshotTasks.lookup o = some task) :
    Backed (s.1 ++ [{ before := s.2, call, ok := true, begun, after }]) o task := by
  have hclosed : ∀ {o₁ : EntityId}, after.snapshotTasks = s.2.snapshotTasks.erase o₁ →
      (∀ o', o' ≠ o₁ → Event.ending o' call = false) →
      Backed (s.1 ++ [{ before := s.2, call, ok := true, begun, after }]) o task := by
    intro o₁ herase hquiet
    rw [herase, Table.lookup_erase] at htask
    split at htask
    · cases htask
    · rename_i ho
      refine (h.tasks o task htask).append fun hends => ?_
      rw [Event.Ends, hquiet o ho] at hends
      exact Bool.false_ne_true hends.2
  have hkept : after.snapshotTasks = s.2.snapshotTasks → Event.ending o call = false →
      Backed (s.1 ++ [{ before := s.2, call, ok := true, begun, after }]) o task := by
    intro hsame hquiet
    rw [hsame] at htask
    refine (h.tasks o task htask).append fun hends => ?_
    rw [Event.Ends, hquiet] at hends
    exact Bool.false_ne_true hends.2
  cases hdone with
  | opened o₁ epoch call hcall =>
    refine hclosed rfl fun o' ho => ?_
    rcases hcall with rfl | ⟨old, rfl⟩ <;> exact decide_eq_false (Ne.symm ho)
  | removed o₁ epoch => exact hclosed rfl fun o' ho => decide_eq_false (Ne.symm ho)
  | nothing o₁ token => exact hkept rfl rfl
  | accepted o₁ token items hne v next hv => exact hkept rfl rfl
  | pending o₁ target call hcall v hv pendings =>
    refine hkept rfl ?_
    rcases hcall with ⟨token, rfl⟩ | rfl <;> rfl
  | resync o₁ epoch v hv => exact hclosed rfl fun o' ho => decide_eq_false (Ne.symm ho)
  | begun frozen token hid =>
    simp only [Table.lookup_insert] at htask
    split at htask
    · rename_i ho
      cases htask
      refine ⟨ho.symm, Open.begin ⟨rfl, _, _, rfl⟩ fun i hi => ?_, by simp,
        by simp [List.count_replicate]⟩
      simp [List.getElem?_replicate] at hi
    · exact (h.tasks o task htask).append fun hends => Bool.false_ne_true hends.2
  | again token part => exact hkept rfl rfl
  | marked token part task₁ hfind hpart =>
    obtain ⟨rfl, hback⟩ := h.found hfind
    simp only [Table.lookup_insert] at htask
    split at htask
    · rename_i ho
      cases htask
      rw [ho]
      exact hback.mark ⟨rfl, rfl⟩ hpart
    · exact (h.tasks o task htask).append fun hends => Bool.false_ne_true hends.2
  | committed token task₁ v hfind hv hcount =>
    exact hclosed rfl fun o' ho => decide_eq_false (Ne.symm ho)
  | aborted token => exact hclosed rfl fun o' ho => decide_eq_false (Ne.symm ho)

theorem Done.next {begun : Option ViewSnapshotToken} {after : AoiViewSet}
    (h : Done vs call begun after) : vs.nextSnapshotId ≤ after.nextSnapshotId ∧
      ∀ token, begun = some token → token.snapshotId < after.nextSnapshotId := by
  cases h with
  | begun frozen token hid =>
    refine ⟨Nat.le_succ _, fun token' hbegun => ?_⟩
    cases hbegun
    exact hid ▸ Nat.lt_succ_self _
  | _ => exact ⟨Nat.le_refl _, fun token hbegun => nomatch hbegun⟩

theorem Sound.record (h : Sound s) (call : Call) : Sound (record s call) := by
  have hlaw := h.law call
  have hresult := s.2.perform_result call
  unfold AoiViewSet.record
  generalize s.2.perform call = e at hresult hlaw ⊢
  cases hresult with
  | failed =>
    refine ⟨h.lawful.append hlaw, fun x hx token hbegun => ?_, fun o task htask =>
      (h.tasks o task htask).append fun hends => Bool.false_ne_true hends.1⟩
    rcases List.mem_append.mp hx with hx | hx
    · exact h.numbered x hx token hbegun
    · rw [List.mem_singleton.mp hx] at hbegun
      cases hbegun
  | done begun after hdone =>
    obtain ⟨hle, hnew⟩ := hdone.next
    refine ⟨h.lawful.append hlaw, fun x hx token hbegun => ?_, fun o task => h.backed hdone⟩
    rcases List.mem_append.mp hx with hx | hx
    · exact Nat.lt_of_lt_of_le (h.numbered x hx token hbegun) hle
    · rw [List.mem_singleton.mp hx] at hbegun
      exact hnew token hbegun

theorem sound_run (calls : List Call) : Sound (run calls) := by
  unfold run
  induction calls using List.reverseRecOn with
  | nil => exact sound_init
  | append_singleton calls call ih =>
    rw [List.foldl_append]
    exact ih.record call

/-- A token is handed out once. -/
theorem begun_once {log : List Event} (h : History.Lawful Law log) (pre mid post : List Event)
    {b e : Event} {token : ViewSnapshotToken} (hlog : log = pre ++ b :: mid ++ e :: post)
    (hb : b.begun = some token) : e.begun ≠ some token := by
  intro he
  have hlt := (h (pre ++ b :: mid) e post hlog).fresh token he b (by simp) token hb
  exact Nat.lt_irrefl _ hlt

/-- Once a snapshot has ended, no history from there on has it open. -/
theorem not_open {log : List Event} (h : History.Lawful Law log) {pre mid post : List Event}
    {b e : Event} {token : ViewSnapshotToken} {frozen : ViewBaseline} {accepted : Nat → Prop}
    (hlog : log = pre ++ e :: mid ++ post) (hb : b ∈ pre) (hbegun : b.begun = some token)
    (hends : e.Ends token.observerId) : ¬ Open (pre ++ e :: mid) token frozen accepted := by
  rintro ⟨pre₁, b₁, post₁, hsplit, hbegins, hquiet, -⟩
  obtain ⟨front, back, rfl⟩ := List.append_of_mem hb
  have hlawful : History.Lawful Law ((front ++ b :: back) ++ e :: mid) :=
    History.Lawful.of_append (hlog ▸ h)
  -- the call that began the snapshot is the one before `e`, so `e` comes after it
  rcases List.append_eq_append_iff.mp hsplit with ⟨as, rfl, htail⟩ | ⟨bs, hfront, htail⟩
  · cases as with
    | nil =>
      rw [List.nil_append] at htail
      obtain ⟨rfl, rfl⟩ := List.cons.inj htail
      exact begun_once hlawful front back mid (by simp) hbegun
        hbegins.1
    | cons a as =>
      obtain ⟨rfl, htail⟩ := List.cons.inj htail
      exact begun_once hlawful front (back ++ e :: as) post₁
        (by rw [htail]; simp) hbegun hbegins.1
  · cases bs with
    | nil =>
      rw [List.nil_append] at htail
      obtain ⟨rfl, rfl⟩ := List.cons.inj htail.symm
      exact begun_once hlawful front back mid (by simp) hbegun
        hbegins.1
    | cons a bs =>
      obtain ⟨-, htail⟩ := List.cons.inj htail
      exact hquiet e (htail ▸ by simp) hends

/-- Whatever is called on a view set, a snapshot is committed at most once, under its own token
and when all of it was accepted, and its token is of no use once the snapshot has ended. -/
theorem snapshot_tokens_safe (calls : List Call) :
    History.Lawful Law (run calls).1 ∧
      (∀ pre mid post e e' token, (run calls).1 = pre ++ e :: mid ++ e' :: post →
        e.Commits token → ¬ e'.Commits token) ∧
      ∀ pre mid post b e e' token, (run calls).1 = pre ++ e :: mid ++ e' :: post →
        b ∈ pre → b.begun = some token → e.Ends token.observerId →
        e'.before.findSnapshotTask token = none := by
  have hlawful := (sound_run calls).lawful
  generalize (run calls).1 = log at hlawful ⊢
  refine ⟨hlawful, fun pre mid post e e' token hlog hcommits hagain => ?_,
    fun pre mid post b e e' token hlog hb hbegun hends => ?_⟩
  · have hlog₁ : log = pre ++ e :: (mid ++ e' :: post) := by simp [hlog]
    obtain ⟨frozen, ⟨pre₁, b, post₁, rfl, hbegins, -⟩, -⟩ :=
      (hlawful pre e _ hlog₁).commit token hcommits
    obtain ⟨frozen', hopen, -⟩ := (hlawful _ e' post hlog).commit token hagain
    have hends : e.Ends token.observerId :=
      ⟨hcommits.1, by rw [hcommits.2]; exact decide_eq_true rfl⟩
    exact not_open hlawful hlog (by simp) hbegins.1 hends hopen
  · cases hfind : e'.before.findSnapshotTask token with
    | none => rfl
    | some task =>
      obtain ⟨frozen, hopen⟩ := (hlawful _ e' post hlog).current token (by rw [hfind]; rfl)
      exact absurd hopen (not_open hlawful hlog hb hbegun hends)

end Run

end AoiViewSet

end Aoi
