import GameServer.Base.ByteQueue
import GameServer.Log.Rolling

/-!
# The thread behind the log

Any thread appends to a buffer under a lock; a thread of its own takes the filled buffers, writes
them to the files and gives two of them back. What is done under the lock is one step here, and so
is each write of a buffer.

`accepted` keeps what was appended. It is read by no function of the logger.
-/

namespace Log

open Gateway (Bytes)
open Base (Buffer Data)

/-- Where the thread is: about to look at the buffers, asleep in `wait`, or writing; `rest` is
what it has still to write. -/
inductive Stage where
  | absent
  | ready
  | asleep
  | writing (rest : List Buffer)
  | returned
  deriving DecidableEq

/-- `cond_.notify_one()`, as far as the thread is concerned. -/
def Stage.notified : Stage → Stage
  | .asleep => .ready
  | stage => stage

def Stage.rest : Stage → List Buffer
  | .writing rest => rest
  | _ => []

/-- A pointer that is null is `none`. `owed` is set while a `stop` has still to notify. -/
structure LogThread where
  logger : AsyncLogger
  currentBuffer : Option Buffer
  nextBuffer : Option Buffer
  buffers : List Buffer := []
  buffA : Option Buffer := none
  buffB : Option Buffer := none
  buffersToWrite : List Buffer := []
  running : Bool := false
  owed : Bool := false
  stage : Stage := .absent
  accepted : List Bytes := []

/-- What the system answers while a buffer is written. -/
structure Answers where
  today : Option String
  opens : Bool := true
  reopens : Bool := true
  deriving DecidableEq

/-- `new Buffer`. -/
def newBuffer : Buffer where
  writeIndex := Buffer.kCheapPrepend
  readIndex := Buffer.kCheapPrepend
  buff := List.replicate 32 0

/-- The constructor reserves room and does not give the buffer any. -/
theorem new_eq : Buffer.new 1024 = .ok newBuffer := rfl

inductive LogLabel where
  | start
  | append (data : Data)
  | look
  | write (answers : Answers)
  | recycle
  | wake
  | stop
  | notify
  | join

namespace LogThread

variable (rollSize : Nat) (s : LogThread)

/-- The constructor of `AsyncLogger`. -/
def new (logger : AsyncLogger) : LogThread :=
  { logger, currentBuffer := some newBuffer, nextBuffer := some newBuffer }

/-- The end of `append`. An exception of the buffer leaves it, with nothing appended. -/
def appendTo (b : Buffer) (data : Data) : LogThread :=
  match b.append data with
  | .ok b =>
    { s with
      currentBuffer := some b
      accepted := s.accepted ++ [data.val]
      stage := s.stage.notified }
  | .error _ => s

/-- `none` where a null pointer is used. -/
def append (data : Data) : Option LogThread :=
  s.currentBuffer.map fun b =>
    if b.writeableBytes > data.size then s.appendTo b data
    else
      let b' := s.nextBuffer.getD newBuffer
      { s with
        buffers := s.buffers ++ [b]
        currentBuffer := some b'
        nextBuffer := none }.appendTo b' data

/-- What the thread does under the lock. -/
def look : Option LogThread :=
  s.currentBuffer.map fun b =>
    if s.buffers ≠ [] ∨ b.readableBytes > 0 then
      let s :=
        { s with
          buffersToWrite := s.buffers ++ [b]
          buffers := s.buffersToWrite
          currentBuffer := s.buffA
          buffA := none
          stage := .writing (s.buffers ++ [b]) }
      if s.nextBuffer.isNone then { s with nextBuffer := s.buffB, buffB := none } else s
    else if !s.running then { s with buffA := none, buffB := none, stage := .returned }
    else { s with stage := .asleep }

/-- What the thread does after the last write of a batch; `none` where a buffer is taken off an
empty vector. -/
def recycle : Option LogThread :=
  let buffers := s.buffersToWrite.map Buffer.retrieveAll
  let s := { s with buffersToWrite := [], stage := .ready }
  let refilled : Option (Option Buffer × List Buffer) :=
    match s.buffA with
    | some b => some (some b, buffers)
    | none => buffers.getLast?.map fun b => (some b, buffers.dropLast)
  refilled.map fun (buffA, buffers) =>
    { s with buffA, buffB := if s.buffB.isNone then buffers.getLast? else s.buffB }

def step : LogLabel → Option LogThread
  | .start =>
    if s.running then some s
    else if s.stage = .absent then
      some
        { s with
          running := true
          stage := .ready
          buffA := some newBuffer
          buffB := some newBuffer }
    else none
  | .append data => s.append data
  | .look => if s.stage = .ready then s.look else none
  | .write a =>
    match s.stage with
    | .writing (b :: rest) =>
      some
        { s with
          logger := s.logger.write rollSize { a with data := b.readable }
          stage := .writing rest }
    | _ => none
  | .recycle => if s.stage = .writing [] then s.recycle else none
  -- `wait` may come back without a notification
  | .wake => if s.stage = .asleep then some { s with stage := .ready } else none
  | .stop => some (if s.running then { s with running := false, owed := true } else s)
  | .notify => if s.owed then some { s with owed := false, stage := s.stage.notified } else none
  | .join =>
    if !s.running ∧ !s.owed ∧ s.stage = .returned then some { s with stage := .absent } else none

/-- What the thread has taken and not written. -/
def rest : List Buffer := s.stage.rest

/-- What was appended and not written. -/
def unwritten : Bytes :=
  ((s.rest ++ s.buffers ++ s.currentBuffer.toList).map Buffer.readable).flatten

/-- A buffer to be filled again, or none. -/
def Spare (b : Option Buffer) : Prop := ∀ b', b = some b' → b'.WellFormed ∧ b'.readable = []

/-- What the thread holds at each stage. -/
def Staged : Stage → LogThread → Prop
  | .absent, s => s.buffersToWrite = []
  | .returned, s => s.buffersToWrite = [] ∧ s.running = false
  | .ready, s => s.buffersToWrite = [] ∧ s.buffA.isSome
  | .asleep, s => s.buffersToWrite = [] ∧ s.buffA.isSome ∧ s.unwritten = [] ∧
      (s.running = true ∨ s.owed = true)
  | .writing rest, s => s.buffersToWrite ≠ [] ∧ rest <:+ s.buffersToWrite

structure Sane : Prop where
  current : ∃ b, s.currentBuffer = some b ∧ b.WellFormed
  next : Spare s.nextBuffer
  spareA : Spare s.buffA
  spareB : Spare s.buffB
  filled : ∀ b ∈ s.buffers, b.WellFormed
  taken : ∀ b ∈ s.buffersToWrite, b.WellFormed
  staged : Staged s.stage s
  order : s.accepted.flatten = s.logger.given.flatten ++ s.unwritten

variable {rollSize : Nat} {s t : LogThread}

theorem newBuffer_spare : Spare (some newBuffer) := by
  intro b hb
  cases hb
  exact Buffer.new_holds 1024

theorem unwritten_eq {b : Buffer} (hb : s.currentBuffer = some b) :
    s.unwritten = ((s.stage.rest ++ s.buffers).map Buffer.readable).flatten ++ b.readable := by
  simp [unwritten, rest, hb]

@[simp] theorem notified_rest (stage : Stage) : stage.notified.rest = stage.rest := by
  cases stage <;> rfl

/-- A thread that is notified has what it had, and need not be asleep. -/
theorem Staged.notified {stage : Stage} (h : Staged stage s)
    (hst : t.buffersToWrite = s.buffersToWrite) (hA : t.buffA = s.buffA)
    (hrunning : t.running = s.running) : Staged stage.notified t := by
  cases stage with
  | absent => exact hst.trans h
  | ready => exact ⟨hst.trans h.1, hA ▸ h.2⟩
  | asleep => exact ⟨hst.trans h.1, hA ▸ h.2.1⟩
  | writing rest =>
    change t.buffersToWrite ≠ [] ∧ rest <:+ t.buffersToWrite
    rw [hst]
    exact h
  | returned => exact ⟨hst.trans h.1, hrunning.trans h.2⟩

theorem Staged.keep {stage : Stage} (h : Staged stage s)
    (hst : t.buffersToWrite = s.buffersToWrite) (hA : t.buffA = s.buffA)
    (hrunning : t.running = s.running) (howed : t.owed = s.owed)
    (hunwritten : t.unwritten = s.unwritten) : Staged stage t := by
  cases stage with
  | absent => exact hst.trans h
  | ready => exact ⟨hst.trans h.1, hA ▸ h.2⟩
  | asleep =>
    refine ⟨hst.trans h.1, hA ▸ h.2.1, hunwritten.trans h.2.2.1, ?_⟩
    rw [hrunning, howed]
    exact h.2.2.2
  | writing rest =>
    change t.buffersToWrite ≠ [] ∧ rest <:+ t.buffersToWrite
    rw [hst]
    exact h
  | returned => exact ⟨hst.trans h.1, hrunning.trans h.2⟩

/-- A thread that is asleep while the logger is stopped is still to be notified. -/
theorem Staged.stopped {stage : Stage} (h : Staged stage s)
    (hst : t.buffersToWrite = s.buffersToWrite) (hA : t.buffA = s.buffA)
    (hrunning : t.running = false) (howed : t.owed = true)
    (hunwritten : t.unwritten = s.unwritten) : Staged stage t := by
  cases stage with
  | absent => exact hst.trans h
  | ready => exact ⟨hst.trans h.1, hA ▸ h.2⟩
  | asleep => exact ⟨hst.trans h.1, hA ▸ h.2.1, hunwritten.trans h.2.2.1, .inr howed⟩
  | writing rest =>
    change t.buffersToWrite ≠ [] ∧ rest <:+ t.buffersToWrite
    rw [hst]
    exact h
  | returned => exact ⟨hst.trans h.1, hrunning⟩

theorem sane_new (logger : AsyncLogger) (h : logger.given = []) : Sane (new logger) where
  current := ⟨newBuffer, rfl, (newBuffer_spare _ rfl).1⟩
  next := newBuffer_spare
  spareA := nofun
  spareB := nofun
  filled := nofun
  taken := nofun
  staged := rfl
  order := by
    rw [unwritten_eq (b := newBuffer) rfl, (newBuffer_spare _ rfl).2]
    simp [new, h, Stage.rest]

section Append

variable {b : Buffer} {data : Data}

theorem Sane.wellFormed (h : Sane s) (hb : s.currentBuffer = some b) : b.WellFormed := by
  obtain ⟨b', hb', hwf⟩ := h.current
  cases hb.symm.trans hb'
  exact hwf

/-- The full buffer is put by, and an empty one takes its place. -/
theorem Sane.fresh (h : Sane s) (hb : s.currentBuffer = some b) :
    Sane
      { s with
        buffers := s.buffers ++ [b]
        currentBuffer := some (s.nextBuffer.getD newBuffer)
        nextBuffer := none } := by
  have hspare : (s.nextBuffer.getD newBuffer).WellFormed ∧
      (s.nextBuffer.getD newBuffer).readable = [] := by
    cases hnext : s.nextBuffer with
    | none => exact newBuffer_spare _ rfl
    | some b' => exact h.next _ hnext
  have hunwritten : LogThread.unwritten
      { s with
        buffers := s.buffers ++ [b]
        currentBuffer := some (s.nextBuffer.getD newBuffer)
        nextBuffer := none } = s.unwritten := by
    rw [unwritten_eq (b := s.nextBuffer.getD newBuffer) rfl, unwritten_eq hb, hspare.2]
    simp
  exact
    { current := ⟨_, rfl, hspare.1⟩
      next := nofun
      spareA := h.spareA
      spareB := h.spareB
      filled := fun b' hb' => by
        rcases List.mem_append.mp hb' with hb' | hb'
        · exact h.filled b' hb'
        · rw [List.mem_singleton.mp hb']
          exact h.wellFormed hb
      taken := h.taken
      staged := h.staged.keep rfl rfl rfl rfl hunwritten
      order := by rw [hunwritten]; exact h.order }

theorem Sane.appendTo (h : Sane s) (hb : s.currentBuffer = some b) (data : Data) :
    Sane (s.appendTo b data) := by
  have happend := Buffer.append_holds (h.wellFormed hb) data
  unfold LogThread.appendTo
  cases hb' : b.append data with
  | error e => exact h
  | ok b' =>
    rw [hb'] at happend
    obtain ⟨hwf, hreadable⟩ := happend
    exact
      { h with
        current := ⟨b', rfl, hwf⟩
        staged := h.staged.notified rfl rfl rfl
        order := by
          have horder := h.order
          rw [unwritten_eq hb] at horder
          rw [unwritten_eq (b := b') rfl, hreadable, List.flatten_append, horder]
          simp }

theorem Sane.append (h : Sane s) (ht : s.append data = some t) : Sane t := by
  obtain ⟨b, hb, heq⟩ := Option.map_eq_some_iff.mp ht
  rw [← heq]
  split
  · exact h.appendTo hb data
  · exact (h.fresh hb).appendTo rfl data

end Append

section Thread

theorem Sane.start (h : Sane s) (hstage : s.stage = .absent) :
    Sane
      { s with
        running := true
        stage := .ready
        buffA := some newBuffer
        buffB := some newBuffer } where
  current := h.current
  next := h.next
  spareA := newBuffer_spare
  spareB := newBuffer_spare
  filled := h.filled
  taken := h.taken
  staged := by
    have hstaged := h.staged
    rw [hstage] at hstaged
    exact ⟨hstaged, rfl⟩
  order := by
    have horder := h.order
    rw [unwritten, rest, hstage] at horder
    exact horder

/-- Under the lock the thread takes all buffers, or finds that there is nothing to write. -/
theorem Sane.look (h : Sane s) (hstage : s.stage = .ready) (ht : s.look = some t) :
    Sane t ∧ (t.stage = .returned ∨ t.stage = .asleep → t.unwritten = []) := by
  obtain ⟨b, hb, heq⟩ := Option.map_eq_some_iff.mp ht
  have hstaged := h.staged
  rw [hstage] at hstaged
  obtain ⟨htaken, hA⟩ := hstaged
  obtain ⟨a, ha⟩ := Option.isSome_iff_exists.mp hA
  have hwf := h.wellFormed hb
  have horder := h.order
  rw [unwritten_eq hb, hstage] at horder
  split at heq
  · have hall : ∀ b' ∈ s.buffers ++ [b], b'.WellFormed := fun b' hb' => by
      rcases List.mem_append.mp hb' with hb' | hb'
      · exact h.filled b' hb'
      · rw [List.mem_singleton.mp hb']
        exact hwf
    have hnew : s.accepted.flatten = s.logger.given.flatten ++
        (((s.buffers ++ [b] ++ s.buffersToWrite) ++ [a]).map Buffer.readable).flatten := by
      rw [horder, htaken]
      simp [Stage.rest, (h.spareA a ha).2]
    have hcurrent : ∃ b', s.buffA = some b' ∧ b'.WellFormed := ⟨a, ha, (h.spareA a ha).1⟩
    have hfilled : ∀ b' ∈ s.buffersToWrite, b'.WellFormed := by rw [htaken]; exact nofun
    dsimp only at heq
    split at heq
    · cases heq
      refine ⟨?_, by rintro (h | h) <;> cases h⟩
      exact
        { current := hcurrent
          next := h.spareB
          spareA := nofun
          spareB := nofun
          filled := hfilled
          taken := hall
          staged := ⟨by simp, List.suffix_refl _⟩
          order := by rw [unwritten, ha]; exact hnew }
    · cases heq
      refine ⟨?_, by rintro (h | h) <;> cases h⟩
      exact
        { current := hcurrent
          next := h.next
          spareA := nofun
          spareB := h.spareB
          filled := hfilled
          taken := hall
          staged := ⟨by simp, List.suffix_refl _⟩
          order := by rw [unwritten, ha]; exact hnew }
  · rename_i hnone
    rw [not_or, not_not] at hnone
    have hempty : b.readable = [] := by
      rw [← List.length_eq_zero_iff, ← Buffer.readableBytes_toNat hwf]
      have hzero := fun hpos => hnone.2 (UInt64.lt_iff_toNat_lt.mpr hpos)
      exact Nat.eq_zero_of_not_pos hzero
    have hnothing : ∀ t : LogThread, t.stage.rest = [] → t.buffers = s.buffers →
        t.currentBuffer = s.currentBuffer → t.logger = s.logger → t.accepted = s.accepted →
        t.unwritten = [] ∧ t.accepted.flatten = t.logger.given.flatten ++ t.unwritten := by
      intro t hrest hbuffers hcurrent hlogger haccepted
      have hunwritten : t.unwritten = [] := by
        rw [unwritten_eq (hcurrent.trans hb), hrest, hbuffers, hnone.1, hempty]
        rfl
      refine ⟨hunwritten, ?_⟩
      rw [hunwritten, hlogger, haccepted, horder, hnone.1, hempty]
      simp [Stage.rest]
    split at heq
    · rename_i hrunning
      cases heq
      have hout := hnothing { s with buffA := none, buffB := none, stage := .returned }
        rfl rfl rfl rfl rfl
      refine ⟨?_, fun _ => hout.1⟩
      exact
        { h with
          spareA := nofun
          spareB := nofun
          staged := ⟨htaken, by simpa using hrunning⟩
          order := hout.2 }
    · rename_i hrunning
      cases heq
      have hout := hnothing { s with stage := .asleep } rfl rfl rfl rfl rfl
      refine ⟨?_, fun _ => hout.1⟩
      exact
        { h with
          staged := ⟨htaken, hA, hout.1, .inl (by simpa using hrunning)⟩
          order := hout.2 }

theorem put_given (logger : AsyncLogger) (data : Bytes) :
    (logger.put data).given = logger.given := by
  unfold AsyncLogger.put
  split <;> rfl

theorem write_given (logger : AsyncLogger) (c : Call) :
    (logger.write rollSize c).given = logger.given ++ [c.data] := by
  unfold AsyncLogger.write
  cases c.today with
  | none => rfl
  | some today =>
    have hday := (AsyncLogger.newDay_same
      (s := { logger with given := logger.given ++ [c.data] }) today).2.2.1
    dsimp only
    generalize AsyncLogger.newDay _ today = u at hday ⊢
    split_ifs <;> simp only [put_given] <;> exact hday

theorem Sane.write {b : Buffer} {rest : List Buffer} (h : Sane s)
    (hstage : s.stage = .writing (b :: rest)) (a : Answers) :
    Sane
      { s with
        logger := s.logger.write rollSize { a with data := b.readable }
        stage := .writing rest } :=
  have hstaged := h.staged
  { h with
    staged := by
      rw [hstage] at hstaged
      exact ⟨hstaged.1, (List.suffix_cons b rest).trans hstaged.2⟩
    order := by
      have horder := h.order
      rw [unwritten, LogThread.rest, hstage] at horder
      rw [write_given, unwritten, LogThread.rest, horder]
      simp [Stage.rest] }

theorem Sane.recycle (h : Sane s) (hstage : s.stage = .writing []) (ht : s.recycle = some t) :
    Sane t := by
  have hstaged := h.staged
  rw [hstage] at hstaged
  have hspare : ∀ b ∈ s.buffersToWrite.map Buffer.retrieveAll, b.WellFormed ∧ b.readable = [] := by
    intro b hb
    obtain ⟨b', hb', rfl⟩ := List.mem_map.mp hb
    exact Buffer.retrieveAll_holds (h.taken b' hb')
  have horder := h.order
  rw [unwritten, LogThread.rest, hstage] at horder
  obtain ⟨⟨buffA, buffers⟩, hrefilled, heq⟩ := Option.map_eq_some_iff.mp ht
  have hboth : buffA.isSome ∧ Spare buffA ∧ ∀ b ∈ buffers, b.WellFormed ∧ b.readable = [] := by
    cases hA : s.buffA with
    | some a =>
      simp only [hA] at hrefilled
      cases hrefilled
      exact ⟨rfl, hA ▸ h.spareA, hspare⟩
    | none =>
      simp only [hA] at hrefilled
      obtain ⟨b, hb, heq⟩ := Option.map_eq_some_iff.mp hrefilled
      cases heq
      refine ⟨rfl, ?_, fun b' hb' => hspare b' (List.dropLast_subset _ hb')⟩
      intro b' hb'
      cases hb'
      exact hspare b (List.mem_of_getLast? hb)
  have hB : Spare (if s.buffB.isNone then buffers.getLast? else s.buffB) := by
    split
    · exact fun b hb => hboth.2.2 b (List.mem_of_getLast? hb)
    · exact h.spareB
  cases heq
  exact
    { h with
      spareA := hboth.2.1
      spareB := hB
      taken := nofun
      staged := ⟨rfl, hboth.1⟩
      order := horder }

end Thread

section Runs

theorem Sane.keep (h : Sane s) (hunwritten : t.unwritten = s.unwritten)
    (hcurrent : t.currentBuffer = s.currentBuffer) (hnext : t.nextBuffer = s.nextBuffer)
    (hA : t.buffA = s.buffA) (hB : t.buffB = s.buffB) (hbuffers : t.buffers = s.buffers)
    (htaken : t.buffersToWrite = s.buffersToWrite) (hlogger : t.logger = s.logger)
    (haccepted : t.accepted = s.accepted) (hstaged : Staged t.stage t) : Sane t where
  current := hcurrent ▸ h.current
  next := hnext ▸ h.next
  spareA := hA ▸ h.spareA
  spareB := hB ▸ h.spareB
  filled := hbuffers ▸ h.filled
  taken := htaken ▸ h.taken
  staged := hstaged
  order := by rw [hunwritten, hlogger, haccepted]; exact h.order

theorem sane_step {l : LogLabel} (h : Sane s) (ht : s.step rollSize l = some t) : Sane t := by
  cases l with
  | start =>
    dsimp only [step] at ht
    split at ht
    · cases ht
      exact h
    · obtain ⟨hstage, heq⟩ := Option.ite_none_right_eq_some.mp ht
      cases heq
      exact h.start hstage
  | append data => exact h.append ht
  | look =>
    obtain ⟨hstage, heq⟩ := Option.ite_none_right_eq_some.mp ht
    exact (h.look hstage heq).1
  | write a =>
    dsimp only [step] at ht
    split at ht
    · rename_i b rest hstage
      cases ht
      exact h.write hstage a
    · cases ht
  | recycle =>
    obtain ⟨hstage, heq⟩ := Option.ite_none_right_eq_some.mp ht
    exact h.recycle hstage heq
  | wake =>
    obtain ⟨hstage, heq⟩ := Option.ite_none_right_eq_some.mp ht
    cases heq
    have hstaged := h.staged
    rw [hstage] at hstaged
    have hrest : LogThread.unwritten { s with stage := .ready } = s.unwritten := by
      rw [unwritten, unwritten, rest, rest, hstage]
      rfl
    exact h.keep hrest rfl rfl rfl rfl rfl rfl rfl rfl ⟨hstaged.1, hstaged.2.1⟩
  | stop =>
    cases ht
    split
    · exact h.keep rfl rfl rfl rfl rfl rfl rfl rfl rfl (h.staged.stopped rfl rfl rfl rfl rfl)
    · exact h
  | notify =>
    obtain ⟨-, heq⟩ := Option.ite_none_right_eq_some.mp ht
    cases heq
    have hrest : LogThread.unwritten { s with owed := false, stage := s.stage.notified } =
        s.unwritten := by
      simp [unwritten, rest]
    exact h.keep hrest rfl rfl rfl rfl rfl rfl rfl rfl (h.staged.notified rfl rfl rfl)
  | join =>
    obtain ⟨⟨-, -, hstage⟩, heq⟩ := Option.ite_none_right_eq_some.mp ht
    cases heq
    have hstaged := h.staged
    rw [hstage] at hstaged
    have hrest : LogThread.unwritten { s with stage := .absent } = s.unwritten := by
      rw [unwritten, unwritten, rest, rest, hstage]
      rfl
    exact h.keep hrest rfl rfl rfl rfl rfl rfl rfl rfl hstaged.1

theorem sane_exec {ls : List LogLabel} (h : Sane s)
    (ht : Run.exec (step rollSize) s ls = some t) : Sane t :=
  Run.exec_invariant Sane (fun _ _ _ hs hst => sane_step hs hst) h ht

theorem append_total (h : Sane s) (data : Data) : ∃ t, s.append data = some t := by
  obtain ⟨b, hb, -⟩ := h.current
  exact ⟨_, by rw [append, hb]; rfl⟩

theorem look_total (h : Sane s) : ∃ t, s.look = some t := by
  obtain ⟨b, hb, -⟩ := h.current
  exact ⟨_, by rw [look, hb]; rfl⟩

/-- There is a buffer to be filled again. -/
theorem recycle_total (h : Sane s) (hstage : s.stage = .writing []) :
    ∃ t, s.recycle = some t ∧ t.stage = .ready ∧ t.buffers = s.buffers ∧
      t.currentBuffer = s.currentBuffer ∧ t.running = s.running ∧ t.owed = s.owed := by
  have hstaged := h.staged
  rw [hstage] at hstaged
  have hsome : ∃ r, (match s.buffA with
      | some b => some (some b, s.buffersToWrite.map Buffer.retrieveAll)
      | none => (s.buffersToWrite.map Buffer.retrieveAll).getLast?.map fun b =>
        (some b, (s.buffersToWrite.map Buffer.retrieveAll).dropLast)) = some r := by
    cases s.buffA with
    | some b => exact ⟨_, rfl⟩
    | none =>
      have hne : s.buffersToWrite.map Buffer.retrieveAll ≠ [] := by
        simpa using hstaged.1
      exact ⟨_, by rw [List.getLast?_eq_some_getLast hne]; rfl⟩
  obtain ⟨⟨buffA, buffers⟩, hrefilled⟩ := hsome
  refine ⟨{ s with
    buffersToWrite := []
    stage := .ready
    buffA
    buffB := if s.buffB.isNone then buffers.getLast? else s.buffB }, ?_, rfl, rfl, rfl, rfl, rfl⟩
  rw [recycle]
  dsimp only
  rw [hrefilled]
  rfl

/-- The steps of the thread, whatever the system answers. -/
def isThread : LogLabel → Bool
  | .look | .write _ | .recycle => true
  | _ => false

/-- The steps of a stopped thread from its next look on: one if nothing is there, and otherwise
one for each buffer, the look before them, the one after and `recycle`. -/
def batch (s : LogThread) : Nat :=
  if s.buffers = [] ∧ s.currentBuffer.all (·.readable = []) then 1 else s.buffers.length + 4

/-- The steps of a stopped thread until it returns, if nothing is appended. -/
def left (s : LogThread) : Nat :=
  match s.stage with
  | .ready => s.batch
  | .writing rest => rest.length + 1 + s.batch
  | _ => 0

/-- The thread has been stopped and told. -/
structure Stopping (s : LogThread) : Prop where
  sane : Sane s
  running : s.running = false
  owed : s.owed = false
  present : s.stage ≠ .absent

theorem batch_pos (s : LogThread) : 0 < s.batch := by
  unfold batch
  split
  · exact Nat.one_pos
  · exact Nat.succ_pos _

theorem batch_congr (hbuffers : t.buffers = s.buffers) (hcurrent : t.currentBuffer = s.currentBuffer) :
    t.batch = s.batch := by
  unfold batch
  rw [hbuffers, hcurrent]

/-- A stopped thread that looks returns, or takes all there is and leaves empty buffers. -/
theorem look_less (h : Sane s) (hstage : s.stage = .ready) (ht : s.look = some t)
    (hrunning : s.running = false) :
    t.running = false ∧ t.owed = s.owed ∧ t.stage ≠ .absent ∧ t.left < s.left := by
  obtain ⟨b, hb, heq⟩ := Option.map_eq_some_iff.mp ht
  have hstaged := h.staged
  rw [hstage] at hstaged
  have hempty : s.buffA.all (·.readable = []) = true := by
    rw [Option.all_eq_true]
    exact fun b' hb' => decide_eq_true (h.spareA b' hb').2
  have hleft : s.left = s.batch := by simp only [left, hstage]
  dsimp only at heq
  split at heq
  · rename_i hfull
    have hbatch : s.batch = s.buffers.length + 4 := by
      refine if_neg fun hnone => ?_
      rcases hfull with hbuffers | hpos
      · exact hbuffers hnone.1
      · have hlt := UInt64.lt_iff_toNat_lt.mp hpos
        rw [Buffer.readableBytes_toNat (h.wellFormed hb)] at hlt
        have hreadable : b.readable = [] := by simpa [hb] using hnone.2
        rw [hreadable] at hlt
        exact absurd hlt (Nat.lt_irrefl _)
    rw [hleft, hbatch]
    split at heq <;> cases heq <;>
      exact ⟨hrunning, rfl, nofun, by simp [left, batch, hstaged.1, hempty]⟩
  · rw [if_pos (by simp [hrunning])] at heq
    cases heq
    exact ⟨hrunning, rfl, nofun, by rw [hleft]; exact s.batch_pos⟩

/-- A step of a stopped thread brings it nearer to its end. -/
theorem thread_less {l : LogLabel} (h : Stopping s) (hl : isThread l = true)
    (ht : s.step rollSize l = some t) : Stopping t ∧ t.left < s.left := by
  have hsane := sane_step h.sane ht
  cases l with
  | look =>
    obtain ⟨hstage, heq⟩ := Option.ite_none_right_eq_some.mp ht
    obtain ⟨hrunning, howed, hpresent, hless⟩ := look_less h.sane hstage heq h.running
    exact ⟨⟨hsane, hrunning, howed.trans h.owed, hpresent⟩, hless⟩
  | write a =>
    dsimp only [step] at ht
    split at ht
    · rename_i b rest hstage
      cases ht
      refine ⟨⟨hsane, h.running, h.owed, nofun⟩, ?_⟩
      have hsame : ({ s with
          logger := s.logger.write rollSize { a with data := b.readable }
          stage := .writing rest } : LogThread).batch = s.batch := batch_congr rfl rfl
      simp [left, hstage, hsame]
    · cases ht
  | recycle =>
    obtain ⟨hstage, heq⟩ := Option.ite_none_right_eq_some.mp ht
    obtain ⟨u, hu, hready, hbuffers, hcurrent, hrunning, howed⟩ := recycle_total h.sane hstage
    cases hu.symm.trans heq
    refine ⟨⟨hsane, hrunning.trans h.running, howed.trans h.owed, hready ▸ nofun⟩, ?_⟩
    simp [left, hstage, hready, batch_congr hbuffers hcurrent]
  | _ => cases hl

/-- A stopped thread goes on until it returns. -/
theorem thread_goes (h : Stopping s) (hstage : s.stage ≠ .returned) (a : Answers) :
    ∃ l t, (l = .look ∨ l = .write a ∨ l = .recycle) ∧ s.step rollSize l = some t := by
  cases hat : s.stage with
  | absent => exact absurd hat h.present
  | ready =>
    obtain ⟨t, ht⟩ := look_total h.sane
    exact ⟨.look, t, .inl rfl, by rw [step, if_pos hat, ht]⟩
  | asleep =>
    have hstaged := h.sane.staged
    rw [hat] at hstaged
    rcases hstaged.2.2.2 with hgoes | hgoes
    · exact absurd (h.running.symm.trans hgoes) Bool.false_ne_true
    · exact absurd (h.owed.symm.trans hgoes) Bool.false_ne_true
  | writing rest =>
    cases rest with
    | nil =>
      obtain ⟨t, ht, -⟩ := recycle_total h.sane hat
      exact ⟨.recycle, t, .inr (.inr rfl), by rw [step, if_pos hat, ht]⟩
    | cons b rest => exact ⟨.write a, _, .inr (.inl rfl), by simp only [step, hat]; rfl⟩
  | returned => exact absurd hat hstage

/-- Where nothing is appended, a thread that returns has left nothing behind. -/
theorem nothing_left_step {l : LogLabel} (hl : ∀ data, l ≠ .append data) (hs : Sane s)
    (h : s.stage = .returned → s.unwritten = []) (ht : s.step rollSize l = some t) :
    t.stage = .returned → t.unwritten = [] := by
  intro hreturned
  cases l with
  | start =>
    dsimp only [step] at ht
    split at ht
    · cases ht
      exact h hreturned
    · obtain ⟨-, heq⟩ := Option.ite_none_right_eq_some.mp ht
      cases heq
      cases hreturned
  | append data => exact absurd rfl (hl data)
  | look =>
    obtain ⟨hstage, heq⟩ := Option.ite_none_right_eq_some.mp ht
    exact (hs.look hstage heq).2 (.inl hreturned)
  | write a =>
    dsimp only [step] at ht
    split at ht
    · cases ht
      cases hreturned
    · cases ht
  | recycle =>
    obtain ⟨hstage, heq⟩ := Option.ite_none_right_eq_some.mp ht
    obtain ⟨u, hu, hready, -⟩ := recycle_total hs hstage
    cases hu.symm.trans heq
    cases hready.symm.trans hreturned
  | wake =>
    obtain ⟨-, heq⟩ := Option.ite_none_right_eq_some.mp ht
    cases heq
    cases hreturned
  | stop =>
    cases ht
    split at hreturned
    · rw [if_pos ‹_›]
      exact h hreturned
    · rw [if_neg ‹_›]
      exact h hreturned
  | notify =>
    obtain ⟨-, heq⟩ := Option.ite_none_right_eq_some.mp ht
    cases heq
    have hstage : s.stage = .returned := by
      have hnotified : s.stage.notified = .returned := hreturned
      cases hstage : s.stage <;> rw [hstage] at hnotified <;> cases hnotified
    have hnothing := h hstage
    simpa [unwritten, rest] using hnothing
  | join =>
    obtain ⟨-, heq⟩ := Option.ite_none_right_eq_some.mp ht
    cases heq
    cases hreturned

end Runs

/-- Whatever the threads do, what was appended is handed to the files once and in order, and the
rest of it is in the buffers; no null pointer is used. The thread sleeps only while there is
nothing to write, and not on a stop that has notified. -/
theorem appended_written_in_order {logger : AsyncLogger} (hgiven : logger.given = [])
    {ls : List LogLabel} (h : Run.exec (step rollSize) (new logger) ls = some s) :
    s.accepted.flatten = s.logger.given.flatten ++ s.unwritten ∧
      (s.stage = .asleep → s.unwritten = [] ∧ (s.running = true ∨ s.owed = true)) ∧
      (∀ data, ∃ t, s.append data = some t) ∧ (s.stage = .ready → ∃ t, s.look = some t) ∧
      (s.stage = .writing [] → ∃ t, s.recycle = some t) := by
  have hs := sane_exec (sane_new logger hgiven) h
  refine ⟨hs.order, fun hstage => ?_, append_total hs, fun _ => look_total hs, fun hstage => ?_⟩
  · have hstaged := hs.staged
    rw [hstage] at hstaged
    exact hstaged.2.2
  · obtain ⟨t, ht, -⟩ := recycle_total hs hstage
    exact ⟨t, ht⟩

/-- A thread that was stopped, and has been told, comes to its end by its own steps, whatever the
files answer to each write. Where nobody appends any more, all that was appended has been handed to
the files by then. -/
theorem stop_hands_over {logger : AsyncLogger} (hgiven : logger.given = []) {ls : List LogLabel}
    (h : Run.exec (step rollSize) (new logger) ls = some s) (hrunning : s.running = false)
    (howed : s.owed = false) (hstage : s.stage ≠ .absent) :
    (∀ ms t, (∀ l ∈ ms, isThread l = true) → Run.exec (step rollSize) s ms = some t →
      ms.length ≤ s.left ∧ (t.stage = .returned ∨
        ∀ a, ∃ l u, (l = .look ∨ l = .write a ∨ l = .recycle) ∧ t.step rollSize l = some u)) ∧
      (s.stage ≠ .returned → ∀ ms t, (∀ data, .append data ∉ ms) →
        Run.exec (step rollSize) s ms = some t → t.stage = .returned →
        t.accepted.flatten = t.logger.given.flatten) := by
  have hs := sane_exec (sane_new logger hgiven) h
  refine ⟨fun ms t hms ht => ?_, fun hnot ms t hms ht hreturned => ?_⟩
  · obtain ⟨hstopping, hlength⟩ := Run.along_length_le Stopping left
      (fun _ _ _ hI hl hst => thread_less hI hl hst) ⟨hs, hrunning, howed, hstage⟩
      (Run.along_of_labels fun l hl _ => hms l hl) ht
    refine ⟨by omega, ?_⟩
    by_cases hreturned : t.stage = .returned
    · exact .inl hreturned
    · exact .inr (thread_goes hstopping hreturned)
  · have hok : Run.Along (step rollSize) (fun _ l => ∀ data, l ≠ .append data) s ms :=
      Run.along_of_labels fun l hl _ data heq => hms data (by rw [← heq]; exact hl)
    have hboth : Sane t ∧ (t.stage = .returned → t.unwritten = []) :=
      Run.along_invariant (fun s => Sane s ∧ (s.stage = .returned → s.unwritten = []))
        (fun _ _ _ hI hl hst => ⟨sane_step hI.1 hst, nothing_left_step hl hI.1 hI.2 hst⟩)
        ⟨hs, fun hreturned => absurd hreturned hnot⟩ hok ht
    rw [hboth.1.order, hboth.2 hreturned, List.append_nil]

section Examples

/-- A line that is appended before the thread is there, one while it sleeps, and a stop. -/
def twoLines : List LogLabel :=
  [.append ⟨[97], by decide⟩, .start, .look, .write ⟨some "d", true, true⟩,
    .write ⟨some "d", true, true⟩, .recycle, .look, .append ⟨[98], by decide⟩, .stop, .notify]

def noFiles : AsyncLogger := { files := fun _ => [] }

theorem appended_written_in_order_two :
    ∃ s, Run.exec (step 100) (new noFiles) twoLines = some s ∧ s.accepted = [[97], [98]] ∧
      s.accepted.flatten = s.logger.given.flatten ++ s.unwritten := by
  have h : Run.exec (step 100) (new noFiles) twoLines = some _ := rfl
  exact ⟨_, h, rfl, (appended_written_in_order rfl h).1⟩

/-- The thread writes an empty buffer and the second line, with another answer for each, and
returns. -/
def afterStop : List LogLabel :=
  [.look, .write ⟨none, true, true⟩, .write ⟨some "d", true, false⟩, .recycle, .look]

def stopped : LogThread := (Run.exec (step 100) (new noFiles) twoLines).getD (new noFiles)

theorem stop_hands_over_two :
    ∃ t, Run.exec (step 100) (new noFiles) twoLines = some stopped ∧
      Run.exec (step 100) stopped afterStop = some t ∧ afterStop.length ≤ stopped.left ∧
      t.stage = .returned ∧ t.accepted.flatten = t.logger.given.flatten := by
  have h : Run.exec (step 100) (new noFiles) twoLines = some stopped := rfl
  obtain ⟨hends, hhanded⟩ := stop_hands_over rfl h rfl rfl nofun
  obtain ⟨t, ht, hreturned⟩ : ∃ t, Run.exec (step 100) stopped afterStop = some t ∧
      t.stage = .returned := ⟨_, rfl, rfl⟩
  exact ⟨t, h, ht, (hends _ _ (by decide) ht).1, hreturned,
    hhanded nofun _ _ (by simp [afterStop]) ht hreturned⟩

end Examples

end LogThread

end Log
