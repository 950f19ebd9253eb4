import Mathlib.Logic.Basic
import Mathlib.Tactic.SplitIfs
import GameServer.Loop.TcpConnection

/-!
# Closed connections

A closed connection is out of the poller's set, and its application was told so once. Two of the
functions that go on after a callback do not look at the state again: the send whose own error
closed the connection puts its bytes into the buffer, and the write handler takes the bit for
writing back after the last byte of the buffer. Both changes of the channel register it again.
-/

namespace Loop

/-- The frames from which a write of the buffer or of the file may still come. -/
def Frame.writes : Frame → Bool
  | .handleEvent _ | .handleRest _ | .handleWrite | .writeRest => true
  | _ => false

namespace TcpConnection

variable {c d : TcpConnection} {a : Answer} {f : Frame}

/-! ## What the functions leave alone -/

theorem updateChannel_rest (c : TcpConnection) : ∃ index registered,
    c.updateChannel = { c with channel := { c.channel with index }, registered } := by
  unfold updateChannel removeChannel
  split_ifs
  · exact ⟨.kAdded, true, rfl⟩
  · exact ⟨.kDeleted, false, rfl⟩
  · exact ⟨c.channel.index, c.registered, rfl⟩

/-- Apart from the channel's place in the poller, `update` changes nothing. -/
theorem update_rest (c : TcpConnection) : ∃ index registered,
    c.update = { c with channel := { c.channel with added := true, index }, registered } := by
  obtain ⟨index, registered, h⟩ := updateChannel_rest c
  exact ⟨index, registered, by rw [update, h]⟩

theorem remove_rest (c : TcpConnection) : ∃ added index registered,
    c.remove = { c with channel := { c.channel with added, index }, registered } := by
  unfold remove removeChannel
  by_cases hadded : c.channel.added = true
  · by_cases hdel : c.channel.index = .kDeleted
    · exact ⟨false, c.channel.index, c.registered, by simp [hadded, hdel]⟩
    · exact ⟨false, .kDeleted, false, by simp [hadded, hdel]⟩
  · exact ⟨c.channel.added, c.channel.index, c.registered, if_pos (by simpa using hadded)⟩

theorem handleClose_of_closed (h : c.state = .kDisConnected) : c.handleClose = c := if_pos h

theorem handleClose_of_open (h : c.state ≠ .kDisConnected) : ∃ added index registered,
    c.handleClose = { c with
      state := .kDisConnected
      channel := { c.channel with added, index }
      registered
      fileOpen := false
      fileSentOffset := 0
      fileTotalSize := 0
      sendingFile := false
      notified := c.notified + 1
      stack := .callback :: .callback :: c.stack } := by
  obtain ⟨added, index, registered, hr⟩ := remove_rest { c with state := .kDisConnected }
  refine ⟨added, index, registered, ?_⟩
  rw [handleClose, if_neg h, hr]
  rfl

theorem handleClose_state (c : TcpConnection) : c.handleClose.state = .kDisConnected := by
  by_cases h : c.state = .kDisConnected
  · rw [handleClose_of_closed h, h]
  · obtain ⟨_, _, _, hc⟩ := handleClose_of_open h
    rw [hc]

theorem enableWriting_rest (c : TcpConnection) : ∃ channel registered,
    c.enableWriting = { c with channel, registered } ∧
      channel.writing = true ∧ channel.revents = c.channel.revents := by
  obtain ⟨_, registered, h⟩ :=
    update_rest { c with channel := { c.channel with writing := true } }
  exact ⟨_, registered, h, rfl, rfl⟩

theorem disableWriting_rest (c : TcpConnection) : ∃ channel registered,
    c.disableWriting = { c with channel, registered } ∧
      channel.writing = false ∧ channel.revents = c.channel.revents := by
  obtain ⟨_, registered, h⟩ :=
    update_rest { c with channel := { c.channel with writing := false } }
  exact ⟨_, registered, h, rfl, rfl⟩

theorem append_nil (c : TcpConnection) : c.append [] = c := by
  simp [append]

/-- The bytes that were not sent go into the buffer, and the channel is to be written to. -/
theorem sendRest_rest (c : TcpConnection) (data : Bytes) : ∃ channel registered fs,
    c.sendRest data = { c.append data with channel, registered, stack := fs ++ c.stack } ∧
      channel.revents = c.channel.revents ∧
      channel.writing = (c.channel.writing || data ≠ []) ∧
      fs = if c.state = .kDisConnecting ∧ c.writeBuffer ++ data = [] then
        [.task .shutdownInLoop] else [] := by
  have hbuf : ∃ channel registered,
      (if data ≠ [] then
        let c := c.append data
        if !c.channel.writing then c.enableWriting else c
      else c) = { c.append data with channel, registered } ∧
        channel.revents = c.channel.revents ∧
        channel.writing = (c.channel.writing || data ≠ []) := by
    by_cases hdata : data = []
    · subst hdata
      exact ⟨c.channel, c.registered, by rw [if_neg (by simp), append_nil], rfl, by simp⟩
    · rw [if_pos hdata]
      by_cases hw : c.channel.writing
      · exact ⟨c.channel, c.registered, if_neg (by simp [append, hw]), rfl, by simp [hw]⟩
      · obtain ⟨channel, registered, h, hw', hr⟩ := enableWriting_rest (c.append data)
        refine ⟨channel, registered, ?_, hr, by simp [hw', hdata]⟩
        exact (if_pos (by simp [append, hw])).trans h
  obtain ⟨channel, registered, h, hr, hw⟩ := hbuf
  unfold sendRest
  rw [h]
  by_cases hs : c.state = .kDisConnecting ∧ c.writeBuffer ++ data = []
  · exact ⟨channel, registered, [.task .shutdownInLoop], if_pos hs, hr, hw, (if_pos hs).symm⟩
  · exact ⟨channel, registered, [], if_neg hs, hr, hw, (if_neg hs).symm⟩

/-! ## What a frame does, whatever the state and the answers -/

structure Goes (f : Frame) (c d : TcpConnection) : Prop where
  stack : ∃ fs, d.stack = fs ++ c.stack ∧
    ∀ g ∈ fs, g ≠ .task .connectDestroyed ∧ (g.writes = true → f.writes = true)
  revents : d.channel.revents = c.channel.revents
  tasks : d.tasks = c.tasks
  shut : f ≠ .task .shutdownInLoop → d.shut = c.shut
  closed : c.state = .kDisConnected → d.state = .kDisConnected
  file : c.state = .kDisConnected → d.sendingFile = true → c.sendingFile = true
  cleared : c.state ≠ .kDisConnected → d.state = .kDisConnected → d.sendingFile = true →
    f = .task .connectDestroyed
  /-- A send goes on behind `handleClose` only if it closed the connection. -/
  failed : ∀ data, .sendRest data ∈ d.stack → .sendRest data ∈ c.stack ∨
    c.state ≠ .kDisConnected ∧ d.state = .kDisConnected ∧ f ≠ .task .shutdownInLoop
  /-- Who goes over to `kDisConnecting` sees to it that the connection is closed. -/
  disconnecting : d.state = .kDisConnecting → c.state = .kDisConnecting ∨
    .task .shutdownInLoop ∈ d.stack ∨ .task .forceCloseInLoop ∈ d.stack

namespace Goes

theorem refl : Goes f c c where
  stack := ⟨[], rfl, by simp⟩
  revents := rfl
  tasks := rfl
  shut _ := rfl
  closed := id
  file _ := id
  cleared ho hc := absurd hc ho
  failed _ := .inl
  disconnecting := .inl

/-- Only the stack, the events that came, the tasks, the write side, the state and the file
matter. -/
theorem congr {e : TcpConnection} (h : Goes f c d) (hs : e.stack = d.stack)
    (hr : e.channel.revents = d.channel.revents) (ht : e.tasks = d.tasks) (hsh : e.shut = d.shut)
    (hst : e.state = d.state) (hf : e.sendingFile = true → d.sendingFile = true) :
    Goes f c e where
  stack := by
    rw [hs]
    exact h.stack
  revents := hr.trans h.revents
  tasks := ht.trans h.tasks
  shut hf := hsh.trans (h.shut hf)
  closed hc := hst.trans (h.closed hc)
  file hc he := h.file hc (hf he)
  cleared ho hc he := h.cleared ho (hst.symm.trans hc) (hf he)
  failed data := by
    rw [hs, hst]
    exact h.failed data
  disconnecting := by
    rw [hs, hst]
    exact h.disconnecting

theorem push {g : Frame} (h : Goes f c d) (hd : g ≠ .task .connectDestroyed)
    (hw : g.writes = true → f.writes = true) (hg : ∀ data, g ≠ .sendRest data) :
    Goes f c (d.push g) where
  stack := by
    obtain ⟨fs, hs, hfs⟩ := h.stack
    refine ⟨g :: fs, congrArg (g :: ·) hs, fun k hk => ?_⟩
    rcases List.mem_cons.mp hk with rfl | hk
    · exact ⟨hd, hw⟩
    · exact hfs k hk
  revents := h.revents
  tasks := h.tasks
  shut := h.shut
  closed := h.closed
  file := h.file
  cleared := h.cleared
  failed data hin := by
    rcases List.mem_cons.mp hin with heq | hin
    · exact absurd heq.symm (hg data)
    · exact h.failed data hin
  disconnecting hs := by
    rcases h.disconnecting hs with h | h | h
    · exact .inl h
    · exact .inr (.inl (List.mem_cons_of_mem _ h))
    · exact .inr (.inr (List.mem_cons_of_mem _ h))

theorem handleClose (h : Goes f c d) : Goes f c d.handleClose := by
  by_cases hd : d.state = .kDisConnected
  · rw [handleClose_of_closed hd]
    exact h
  · obtain ⟨added, index, registered, hc⟩ := handleClose_of_open hd
    rw [hc]
    obtain ⟨fs, hs, hfs⟩ := h.stack
    exact {
      stack := ⟨.callback :: .callback :: fs, by simp [hs], by simpa [Frame.writes] using hfs⟩
      revents := h.revents
      tasks := h.tasks
      shut := h.shut
      closed := fun _ => rfl
      file := fun _ hf => by cases hf
      cleared := fun _ _ hf => by cases hf
      failed := fun data hin => by
        rcases h.failed data (by simpa using hin) with hin | ⟨ho, -, hf⟩
        · exact .inl hin
        · exact .inr ⟨ho, rfl, hf⟩
      disconnecting := fun hs => by cases hs }

theorem enableWriting (h : Goes f c d) : Goes f c d.enableWriting := by
  obtain ⟨channel, registered, he, -, hr⟩ := enableWriting_rest d
  rw [he]
  exact h.congr rfl hr rfl rfl rfl id

theorem disableWriting (h : Goes f c d) : Goes f c d.disableWriting := by
  obtain ⟨channel, registered, he, -, hr⟩ := disableWriting_rest d
  rw [he]
  exact h.congr rfl hr rfl rfl rfl id

theorem sendRest (h : Goes f c d) (data : Bytes) : Goes f c (d.sendRest data) := by
  obtain ⟨channel, registered, fs, he, hr, -, hfs⟩ := sendRest_rest d data
  rw [he]
  by_cases hs : d.state = .kDisConnecting ∧ d.writeBuffer ++ data = []
  · rw [hfs, if_pos hs]
    have hpush := h.push (g := .task .shutdownInLoop) (by simp) (by simp [Frame.writes]) (by simp)
    exact hpush.congr rfl hr rfl rfl rfl id
  · rw [hfs, if_neg hs]
    exact h.congr rfl hr rfl rfl rfl id

theorem closeFile (h : Goes f c d) : Goes f c d.closeFile :=
  Goes.disableWriting (h.congr rfl rfl rfl rfl rfl (by simp))

theorem runInLoop {t : Task} (h : Goes f c d) (ht : t ≠ .connectDestroyed) :
    Goes f c (d.runInLoop true t) :=
  Goes.push h (by simpa using ht) (by simp [Frame.writes]) (by simp)

/-- Going over to `kDisConnecting`, from a state that is not closed. -/
theorem disconnect {t : Task} (ho : c.state ≠ .kDisConnected)
    (ht : t = .shutdownInLoop ∨ t = .forceCloseInLoop) :
    Goes f c ({ c with state := .kDisConnecting }.runInLoop true t) where
  stack := ⟨[.task t], rfl, by rcases ht with rfl | rfl <;> simp [Frame.writes]⟩
  revents := rfl
  tasks := rfl
  shut _ := rfl
  closed hc := absurd hc ho
  file hc := absurd hc ho
  cleared _ hc := by cases hc
  failed data hin := .inl (by simpa [TcpConnection.runInLoop, TcpConnection.push] using hin)
  disconnecting _ := by
    rcases ht with rfl | rfl <;> simp [TcpConnection.runInLoop, TcpConnection.push]

theorem call (k : Call) : Goes f c (c.call true k) := by
  cases k with
  | send data =>
    dsimp only [TcpConnection.call]
    split
    · exact refl
    · exact refl.runInLoop (by simp)
  | sendFile =>
    dsimp only [TcpConnection.call]
    split
    · exact refl
    · exact refl.runInLoop (by simp)
  | shutdown =>
    dsimp only [TcpConnection.call]
    by_cases hs : c.state = .kConnected
    · rw [if_pos hs]
      exact disconnect (by simp [hs]) (.inl rfl)
    · rw [if_neg hs]
      exact refl
  | forceClose =>
    dsimp only [TcpConnection.call]
    by_cases hs : c.state = .kConnected ∨ c.state = .kDisConnecting
    · rw [if_pos hs]
      have hopen : c.state ≠ .kDisConnected := by
        rcases hs with hs | hs <;> simp [hs]
      exact disconnect hopen (.inr rfl)
    · rw [if_neg hs]
      exact refl

/-- The send whose error closes the connection. -/
theorem failedSend (hf : f ≠ .task .shutdownInLoop) (ho : c.state ≠ .kDisConnected)
    (data : Bytes) : Goes f c
      ({ c with given := c.given ++ data }.push (.sendRest data)).handleClose := by
  obtain ⟨added, index, registered, hclose⟩ :=
    handleClose_of_open (c := { c with given := c.given ++ data }.push (.sendRest data)) ho
  rw [hclose]
  exact {
    stack := ⟨[.callback, .callback, .sendRest data], rfl, by simp [Frame.writes]⟩
    revents := rfl
    tasks := rfl
    shut := fun _ => rfl
    closed := fun _ => rfl
    file := fun hc => absurd hc ho
    cleared := fun _ _ hf => by cases hf
    failed := fun _ _ => .inr ⟨ho, rfl, hf⟩
    disconnecting := fun hs => by cases hs }

theorem sendInLoop (hf : f ≠ .task .shutdownInLoop) (data : Bytes) :
    Goes f c (c.sendInLoop a data) := by
  have htaken : Goes f c { c with given := c.given ++ data } := refl.congr rfl rfl rfl rfl rfl id
  unfold TcpConnection.sendInLoop
  split
  · exact refl
  · dsimp only
    split
    · cases a.result with
      | ok n =>
        have hsent : Goes f c { c with
            given := c.given ++ data, written := c.written ++ data.take n } :=
          refl.congr rfl rfl rfl rfl rfl id
        dsimp only
        split
        · exact hsent.push (by simp) (by simp [Frame.writes]) (by simp)
        · exact hsent.sendRest _
      | eagain => exact htaken.sendRest _
      | eintr => exact refl.push (by simp) (by simp [Frame.writes]) (by simp)
      | error => exact failedSend hf (by assumption) data
    · exact htaken.sendRest _

theorem forceCloseInLoop (h : Goes f c d) : Goes f c d.forceCloseInLoop := by
  unfold TcpConnection.forceCloseInLoop
  split
  · exact h.handleClose
  · exact h

theorem sendFileInLoop : Goes f c (c.sendFileInLoop a) := by
  unfold TcpConnection.sendFileInLoop
  by_cases hs : c.state = .kDisConnected
  · rw [if_pos hs]
    exact refl
  · rw [if_neg hs]
    cases a.opened with
    | none => exact refl.forceCloseInLoop
    | some size =>
      have hfile : Goes f c { c with
          fileOpen := true, fileSentOffset := 0, fileTotalSize := size, sendingFile := true } :=
        { refl (c := c) (f := f) with
          file := fun hc => absurd hc hs
          cleared := fun _ hc => absurd hc hs }
      exact hfile.enableWriting

theorem shutdownInLoop : Goes (.task .shutdownInLoop) c c.shutdownInLoop := by
  have hshut : Goes (.task .shutdownInLoop) c { c with shut := true } :=
    { refl (c := c) with shut := fun hf => absurd rfl hf }
  unfold TcpConnection.shutdownInLoop
  split
  · exact hshut.handleClose
  · exact hshut

theorem connectDestroyed : Goes (.task .connectDestroyed) c c.connectDestroyed := by
  unfold TcpConnection.connectDestroyed
  split
  · obtain ⟨added, index, registered, hr⟩ := remove_rest { c with state := .kDisConnected }
    rw [hr]
    exact {
      stack := ⟨[.callback], rfl, by simp [Frame.writes]⟩
      revents := rfl
      tasks := rfl
      shut := fun _ => rfl
      closed := fun _ => rfl
      file := fun _ => id
      cleared := fun _ _ _ => rfl
      failed := fun _ hin => .inl (by simpa [TcpConnection.push] using hin)
      disconnecting := fun hs => by cases hs }
  · obtain ⟨added, index, registered, hr⟩ := remove_rest c
    rw [hr]
    exact refl.congr rfl rfl rfl rfl rfl id

theorem handleRead : Goes f c (c.handleRead a) := by
  unfold TcpConnection.handleRead
  split
  · exact refl.handleClose
  · exact refl.push (by simp) (by simp [Frame.writes]) (by simp)
  · exact refl.handleClose

theorem writeFile : Goes f c (c.writeFile a) := by
  unfold TcpConnection.writeFile
  split
  · rename_i n _
    have hsent : Goes f c { c with
        fileSentOffset := c.fileSentOffset + min (n + 1) (64 * 1024) } :=
      refl.congr rfl rfl rfl rfl rfl id
    dsimp only
    split
    · exact hsent.closeFile.push (by simp) (by simp [Frame.writes]) (by simp)
    · exact hsent
  · exact refl
  · exact refl
  · exact refl.closeFile.handleClose

/-- A write of the buffer, with the two frames behind it. -/
theorem written (n : Nat) (p : Prop) [Decidable p] {g : Frame} (hd : g ≠ .task .connectDestroyed)
    (hw : g.writes = true → f.writes = true) (hg : ∀ data, g ≠ .sendRest data) : Goes f c
      (((if p then (c.writeFd n).disableWriting else c.writeFd n).push g).push .callback) := by
  have hn : Goes f c (c.writeFd n) := refl.congr rfl rfl rfl rfl rfl id
  have hall : Goes f c (if p then (c.writeFd n).disableWriting else c.writeFd n) := by
    split
    · exact hn.disableWriting
    · exact hn
  exact (hall.push hd hw hg).push (by simp) (by simp [Frame.writes]) (by simp)

theorem handleWrite : Goes .handleWrite c (c.handleWrite a) := by
  have hrest : Goes .handleWrite c (c.push .writeRest) :=
    refl.push (by simp) (by simp [Frame.writes]) (by simp)
  unfold TcpConnection.handleWrite
  split
  · exact refl
  · split
    · split
      · exact written _ _ (by simp) (by simp [Frame.writes]) (by simp)
      · exact hrest
      · exact hrest.handleClose
    · exact hrest

theorem writeRest : Goes f c (c.writeRest a) := by
  unfold TcpConnection.writeRest
  split
  · exact refl
  · split
    · exact writeFile
    · exact refl

theorem frame (f : Frame) : Goes f c (c.runFrame a f) := by
  cases f with
  | callback =>
    exact { refl (c := c) with
      stack := ⟨a.calls.map .call, rfl, by simp [Frame.writes]⟩
      failed := fun data hin => .inl (by simpa [runFrame] using hin)
      disconnecting := .inl }
  | call k => exact Goes.call k
  | task t =>
    cases t with
    | sendInLoop data => exact Goes.sendInLoop (by simp) data
    | sendFileInLoop => exact Goes.sendFileInLoop
    | shutdownInLoop => exact Goes.shutdownInLoop
    | forceCloseInLoop => exact refl.forceCloseInLoop
    | connectDestroyed => exact Goes.connectDestroyed
  | retransmit data => exact Goes.sendInLoop (by simp) data
  | handleEvent r =>
    have hrest : Goes (.handleEvent r) c (c.push (.handleRest r)) :=
      refl.push (by simp) (by simp [Frame.writes]) (by simp)
    dsimp only [runFrame, TcpConnection.handleEvent]
    split
    · exact refl.handleClose
    · split
      · exact hrest.push (by simp) (by simp [Frame.writes]) (by simp)
      · exact hrest
  | handleRest r =>
    dsimp only [runFrame, TcpConnection.handleRest]
    split
    · exact refl.handleClose
    · split
      · exact refl.push (by simp) (by simp [Frame.writes]) (by simp)
      · exact refl
  | handleRead => exact Goes.handleRead
  | handleWrite => exact Goes.handleWrite
  | writeRest => exact Goes.writeRest
  | writeLast =>
    dsimp only [runFrame, TcpConnection.writeLast]
    split
    · exact refl.push (by simp) (by simp [Frame.writes]) (by simp)
    · exact refl
  | sendRest data => exact refl.sendRest data

end Goes

/-! ## Registered while open, and not any more when closed -/

/-- What the claim asks of a state. -/
structure StaysClosed (c : TcpConnection) : Prop where
  closed : c.state = .kDisConnected → c.registered = false ∧ c.notified = 1
  silent : c.state ≠ .kDisConnected → c.notified = 0
  late : c.late = []

/-- The channel of an open connection is listed and read from; that of a closed one is neither
listed nor new. -/
structure Listed (c : TcpConnection) : Prop where
  past : c.state ≠ .kConnecting
  listed : c.state ≠ .kDisConnected → c.channel.added = true ∧ c.channel.index = .kAdded ∧
    c.registered = true ∧ c.channel.reading = true
  gone : c.state = .kDisConnected → c.channel.index = .kDeleted

structure Fine (c : TcpConnection) : Prop extends StaysClosed c, Listed c

namespace Fine

/-- Only the state, the channel, the registration, the notifications and the late bytes matter. -/
theorem congr (h : Fine c) (hs : d.state = c.state) (ha : d.channel.added = c.channel.added)
    (hi : d.channel.index = c.channel.index) (hr : d.registered = c.registered)
    (hre : d.channel.reading = c.channel.reading) (hn : d.notified = c.notified)
    (hl : d.late = c.late) : Fine d := by
  refine ⟨⟨?_, ?_, ?_⟩, ?_, ?_, ?_⟩
  · rw [hs, hr, hn]
    exact h.closed
  · rw [hs, hn]
    exact h.silent
  · rw [hl]
    exact h.late
  · rw [hs]
    exact h.past
  · rw [hs, ha, hi, hr, hre]
    exact h.listed
  · rw [hs, hi]
    exact h.gone

theorem push (h : Fine c) (g : Frame) : Fine (c.push g) := h.congr rfl rfl rfl rfl rfl rfl rfl

/-- To take interest in other events of an open connection, only the interest changes. -/
theorem update_open (h : Fine c) (ho : c.state ≠ .kDisConnected) (w : Bool) :
    { c with channel := { c.channel with writing := w } }.update =
      { c with channel := { c.channel with writing := w } } := by
  obtain ⟨ha, hi, -, hre⟩ := h.listed ho
  simp [update, updateChannel, hi, hre, ← ha]

theorem enableWriting (h : Fine c) (ho : c.state ≠ .kDisConnected) : Fine c.enableWriting := by
  rw [TcpConnection.enableWriting, h.update_open ho]
  exact h.congr rfl rfl rfl rfl rfl rfl rfl

theorem disableWriting (h : Fine c) (ho : c.state ≠ .kDisConnected) : Fine c.disableWriting := by
  rw [TcpConnection.disableWriting, h.update_open ho]
  exact h.congr rfl rfl rfl rfl rfl rfl rfl

/-- The same on a closed connection puts it back into the poller's set. -/
theorem update_closed (h : Fine c) (hc : c.state = .kDisConnected) (w : Bool) :
    { c with channel := { c.channel with writing := w } }.update.registered = true := by
  simp [update, updateChannel, h.gone hc]

theorem handleClose (h : Fine c) : Fine c.handleClose := by
  by_cases hc : c.state = .kDisConnected
  · rw [handleClose_of_closed hc]
    exact h
  · obtain ⟨ha, hi, -, -⟩ := h.listed hc
    have hn : c.notified = 0 := h.silent hc
    have hl : c.late = [] := h.late
    rw [TcpConnection.handleClose, if_neg hc]
    refine ⟨⟨?_, ?_, ?_⟩, ?_, ?_, ?_⟩ <;>
      simp [remove, removeChannel, TcpConnection.push, ha, hi, hn, hl]

theorem append (h : Fine c) (ho : c.state ≠ .kDisConnected) (data : Bytes) :
    Fine (c.append data) :=
  h.congr rfl rfl rfl rfl rfl rfl (if_neg ho)

theorem sendRest (h : Fine c) (ho : c.state ≠ .kDisConnected) (data : Bytes) :
    Fine (c.sendRest data) := by
  have hbuf : Fine (if data ≠ [] then
      let c := c.append data
      if !c.channel.writing then c.enableWriting else c
    else c) := by
    by_cases hdata : data ≠ []
    · rw [if_pos hdata]
      by_cases hw : !(c.append data).channel.writing
      · exact (if_pos hw).symm ▸ (h.append ho data).enableWriting ho
      · exact (if_neg hw).symm ▸ h.append ho data
    · rw [if_neg hdata]
      exact h
  unfold TcpConnection.sendRest
  dsimp only at hbuf ⊢
  generalize (if data ≠ [] then _ else c) = e at hbuf ⊢
  split
  · exact hbuf.push _
  · exact hbuf

theorem sendInLoop (h : Fine c) (data : Bytes) : Fine (c.sendInLoop a data) := by
  have htaken : Fine { c with given := c.given ++ data } := h.congr rfl rfl rfl rfl rfl rfl rfl
  unfold TcpConnection.sendInLoop
  by_cases hc : c.state = .kDisConnected
  · rw [if_pos hc]
    exact h
  · rw [if_neg hc]
    dsimp only
    split
    · cases a.result with
      | ok n =>
        have hsent : Fine { c with
            given := c.given ++ data, written := c.written ++ data.take n } :=
          h.congr rfl rfl rfl rfl rfl rfl rfl
        dsimp only
        split
        · exact hsent.push _
        · exact hsent.sendRest hc _
      | eagain => exact htaken.sendRest hc _
      | eintr => exact h.push _
      | error => exact (htaken.push _).handleClose
    · exact htaken.sendRest hc _

theorem forceCloseInLoop (h : Fine c) : Fine c.forceCloseInLoop := by
  unfold TcpConnection.forceCloseInLoop
  split
  · exact h.handleClose
  · exact h

theorem sendFileInLoop (h : Fine c) : Fine (c.sendFileInLoop a) := by
  unfold TcpConnection.sendFileInLoop
  by_cases hc : c.state = .kDisConnected
  · rw [if_pos hc]
    exact h
  · rw [if_neg hc]
    cases a.opened with
    | none => exact h.forceCloseInLoop
    | some size =>
      have hfile : Fine { c with
          fileOpen := true, fileSentOffset := 0, fileTotalSize := size, sendingFile := true } :=
        h.congr rfl rfl rfl rfl rfl rfl rfl
      exact hfile.enableWriting hc

theorem shutdownInLoop (h : Fine c) : Fine c.shutdownInLoop := by
  have hshut : Fine { c with shut := true } := h.congr rfl rfl rfl rfl rfl rfl rfl
  unfold TcpConnection.shutdownInLoop
  split
  · exact hshut.handleClose
  · exact hshut

theorem connectDestroyed (h : Fine c) : Fine c.connectDestroyed := by
  unfold TcpConnection.connectDestroyed
  by_cases hc : c.state = .kDisConnected
  · rw [if_neg (not_not.mpr hc)]
    have hi : c.channel.index = .kDeleted := h.gone hc
    obtain ⟨hr, hn⟩ := h.closed hc
    have hl : c.late = [] := h.late
    unfold remove
    split
    · exact h
    · refine ⟨⟨?_, ?_, ?_⟩, ?_, ?_, ?_⟩ <;> simp [hi, hc, hr, hn, hl]
  · rw [if_pos hc]
    obtain ⟨ha, hi, -, -⟩ := h.listed hc
    have hn : c.notified = 0 := h.silent hc
    have hl : c.late = [] := h.late
    refine ⟨⟨?_, ?_, ?_⟩, ?_, ?_, ?_⟩ <;>
      simp [remove, removeChannel, TcpConnection.push, ha, hi, hn, hl]

theorem handleRead (h : Fine c) : Fine (c.handleRead a) := by
  unfold TcpConnection.handleRead
  split
  · exact h.handleClose
  · exact h.push _
  · exact h.handleClose

theorem closeFile (h : Fine c) (ho : c.state ≠ .kDisConnected) : Fine c.closeFile := by
  have hfile : Fine { c with fileOpen := false, sendingFile := false } :=
    h.congr rfl rfl rfl rfl rfl rfl rfl
  exact hfile.disableWriting ho

theorem writeFile (h : Fine c) (ho : c.state ≠ .kDisConnected) : Fine (c.writeFile a) := by
  unfold TcpConnection.writeFile
  split
  · rename_i n _
    have hsent : Fine { c with
        fileSentOffset := c.fileSentOffset + min (n + 1) (64 * 1024) } :=
      h.congr rfl rfl rfl rfl rfl rfl rfl
    dsimp only
    split
    · exact (hsent.closeFile ho).push _
    · exact hsent
  · exact h
  · exact h
  · exact (h.closeFile ho).handleClose

theorem writeRest (h : Fine c) (hf : c.state = .kDisConnected → c.sendingFile = false) :
    Fine (c.writeRest a) := by
  unfold TcpConnection.writeRest
  split
  · exact h
  · split
    · rename_i hfile
      refine h.writeFile fun hc => ?_
      simp [hf hc] at hfile
    · exact h

end Fine

/-- The write handler would send the rest of the buffer. -/
def Drains (c : TcpConnection) (a : Answer) : Prop :=
  c.channel.writing = true ∧ c.writeBuffer ≠ [] ∧
    ∃ n, a.result = .ok n ∧ c.writeBuffer.length ≤ n

theorem Fine.handleWrite (h : Fine c) (hd : c.state = .kDisConnected → ¬c.Drains a) :
    Fine (c.handleWrite a) := by
  unfold TcpConnection.handleWrite
  split
  · exact h
  · rename_i hw
    split
    · rename_i hb
      split
      · rename_i n hn
        have hsent : Fine (c.writeFd (n + 1)) := h.congr rfl rfl rfl rfl rfl rfl rfl
        refine Fine.push (Fine.push ?_ _) _
        split
        · rename_i hempty
          refine hsent.disableWriting fun hc => hd hc ⟨by simpa using hw, hb, n + 1, hn, ?_⟩
          exact List.drop_eq_nil_iff.mp hempty.1
        · exact hsent
      · exact h.push _
      · exact (h.push _).handleClose
    · exact h.push _

theorem Fine.handleWrite_drained (h : Fine c) (hc : c.state = .kDisConnected)
    (hf : c.sendingFile = false) (hd : c.Drains a) : (c.handleWrite a).registered = true := by
  obtain ⟨hw, hb, n, hn, hlen⟩ := hd
  have hpos : 0 < c.writeBuffer.length := List.length_pos_iff.mpr hb
  obtain ⟨m, rfl⟩ : ∃ m, n = m + 1 := ⟨n - 1, by omega⟩
  have hsent : Fine (c.writeFd (m + 1)) := h.congr rfl rfl rfl rfl rfl rfl rfl
  have hempty : (c.writeFd (m + 1)).writeBuffer = [] := List.drop_eq_nil_iff.mpr hlen
  unfold TcpConnection.handleWrite
  rw [if_neg (by simp [hw]), if_pos hb, hn]
  dsimp only
  rw [if_pos ⟨hempty, by simpa [writeFd] using hf⟩]
  exact hsent.update_closed hc false

theorem Fine.call (h : Fine c) (inThread : Bool) (k : Call) : Fine (c.call inThread k) := by
  have hrun : ∀ {d : TcpConnection} (t : Task), Fine d → Fine (d.runInLoop inThread t) := by
    intro d t hd
    unfold runInLoop
    split
    · exact hd.push _
    · exact hd.congr rfl rfl rfl rfl rfl rfl rfl
  have hbegin : c.state ≠ .kDisConnected → Fine { c with state := .kDisConnecting } := by
    intro ho
    exact ⟨⟨by simp, fun _ => h.silent ho, h.late⟩, ⟨by simp, fun _ => h.listed ho, by simp⟩⟩
  cases k with
  | send data =>
    dsimp only [TcpConnection.call]
    split
    · exact h
    · exact hrun _ h
  | sendFile =>
    dsimp only [TcpConnection.call]
    split
    · exact h
    · exact hrun _ h
  | shutdown =>
    dsimp only [TcpConnection.call]
    split
    · rename_i hs
      exact hrun _ (hbegin (by simp [hs]))
    · exact h
  | forceClose =>
    dsimp only [TcpConnection.call]
    split
    · rename_i hs
      refine hrun _ (hbegin ?_)
      rcases hs with hs | hs <;> simp [hs]
    · exact h

/-! ## Steps that leave a closed connection alone -/

/-- What the running frame must not do to a closed connection: go on with the bytes of a send
whose error closed it, or write the rest of the buffer. -/
def CarefulFrame (c : TcpConnection) (a : Answer) : Frame → Prop
  | .sendRest data => c.state = .kDisConnected → data = []
  | .handleWrite => c.state = .kDisConnected → ¬c.Drains a
  | _ => True

def Careful (c : TcpConnection) : ConnectionStep → Prop
  | .run a => ∀ f ∈ c.stack.head?, CarefulFrame c a f
  | _ => True

theorem Fine.frame (h : Fine c)
    (hf : c.state = .kDisConnected → f.writes = true → c.sendingFile = false)
    (hok : CarefulFrame c a f) : Fine (c.runFrame a f) := by
  cases f with
  | callback => exact h.congr rfl rfl rfl rfl rfl rfl rfl
  | call k => exact h.call true k
  | task t =>
    cases t with
    | sendInLoop data => exact h.sendInLoop data
    | sendFileInLoop => exact h.sendFileInLoop
    | shutdownInLoop => exact h.shutdownInLoop
    | forceCloseInLoop => exact h.forceCloseInLoop
    | connectDestroyed => exact h.connectDestroyed
  | retransmit data => exact h.sendInLoop data
  | handleEvent r =>
    dsimp only [runFrame, TcpConnection.handleEvent]
    split
    · exact h.handleClose
    · split
      · exact (h.push _).push _
      · exact h.push _
  | handleRest r =>
    dsimp only [runFrame, TcpConnection.handleRest]
    split
    · exact h.handleClose
    · split
      · exact h.push _
      · exact h
  | handleRead => exact h.handleRead
  | handleWrite => exact h.handleWrite hok
  | writeRest => exact h.writeRest fun hc => hf hc rfl
  | writeLast =>
    dsimp only [runFrame, writeLast]
    split
    · exact h.push _
    · exact h
  | sendRest data =>
    by_cases hc : c.state = .kDisConnected
    · obtain rfl := hok hc
      dsimp only [runFrame, TcpConnection.sendRest]
      rw [if_neg (show ¬([] : Bytes) ≠ [] by simp), if_neg (by simp [hc])]
      exact h
    · exact h.sendRest hc data

/-- A frame that is not careful registers the channel or fills the buffer. -/
theorem Fine.frame_not_closed (h : Fine c)
    (hf : c.state = .kDisConnected → f.writes = true → c.sendingFile = false)
    (hok : ¬CarefulFrame c a f) : ¬StaysClosed (c.runFrame a f) := by
  intro hstays
  cases f with
  | sendRest data =>
    obtain ⟨hc, hdata⟩ := Classical.not_imp.mp hok
    obtain ⟨channel, registered, fs, he, -⟩ := sendRest_rest c data
    have hlate : (c.sendRest data).late = c.late ++ data := by
      rw [he]
      exact if_pos hc
    exact hdata (List.append_eq_nil_iff.mp (hlate.symm.trans hstays.late)).2
  | handleWrite =>
    obtain ⟨hc, hd⟩ := Classical.not_imp.mp hok
    have hr := h.handleWrite_drained hc (hf hc rfl) (not_not.mp hd)
    have hclosed : (c.handleWrite a).state = .kDisConnected := (Goes.frame .handleWrite).closed hc
    exact Bool.false_ne_true ((hstays.closed hclosed).1.symm.trans hr)
  | _ => exact hok trivial

/-- The invariant: besides, what is still to be done does not touch the file of a closed
connection, and a connection is destroyed between the events. -/
structure Whole (c : TcpConnection) : Prop extends Fine c where
  quiet : c.state = .kDisConnected → c.sendingFile = true →
    c.channel.revents = none ∧ ∀ f ∈ c.stack, f.writes = false
  alone : .task .connectDestroyed ∈ c.stack →
    c.channel.revents = none ∧ c.stack = [.task .connectDestroyed]

theorem Whole.popped {rest : List Frame} (h : Whole c) (hs : c.stack = f :: rest) :
    Fine { c with stack := rest } ∧
      (c.state = .kDisConnected → f.writes = true → c.sendingFile = false) := by
  refine ⟨h.toFine.congr rfl rfl rfl rfl rfl rfl rfl, fun hc hw => ?_⟩
  refine Bool.eq_false_iff.mpr fun hfile => ?_
  have hall := (h.quiet hc hfile).2 f (by simp [hs])
  rw [hw] at hall
  cases hall

theorem Whole.run {rest : List Frame} (h : Whole c) (hs : c.stack = f :: rest)
    (hok : CarefulFrame c a f) : Whole (c.run a f rest) := by
  obtain ⟨hfine, hfile⟩ := h.popped hs
  have hd : Fine ({ c with stack := rest }.runFrame a f) := hfine.frame hfile hok
  have hgoes : Goes f { c with stack := rest } ({ c with stack := rest }.runFrame a f) := .frame f
  unfold TcpConnection.run
  generalize { c with stack := rest }.runFrame a f = d at hd hgoes
  obtain ⟨fs, hstack, hfs⟩ := hgoes.stack
  have halone : .task .connectDestroyed ∉ rest := by
    intro hin
    have hone := (h.alone (by simp [hs, hin])).2
    rw [hs] at hone
    simp_all
  refine ⟨hd.congr rfl rfl rfl rfl rfl rfl rfl, fun hc hsend => ?_, fun hin => ?_⟩
  · by_cases hcl : c.state = .kDisConnected
    · obtain ⟨hr, hw⟩ := h.quiet hcl (hgoes.file hcl hsend)
      rw [hs] at hw
      refine ⟨hgoes.revents.trans hr, fun g hg => ?_⟩
      rcases List.mem_append.mp (hstack ▸ hg) with hg | hg
      · have hnot := (hfs g hg).2
        rw [hw f (by simp)] at hnot
        simpa using hnot
      · exact hw g (by simp [hg])
    · obtain rfl := hgoes.cleared hcl hc hsend
      obtain ⟨hr, halone'⟩ := h.alone (by simp [hs])
      refine ⟨hgoes.revents.trans hr, fun g hg => ?_⟩
      rw [hs] at halone'
      obtain rfl : rest = [] := by simpa using halone'
      have hg' : g ∈ fs := by simpa [hstack] using hg
      have hnot := (hfs g hg').2
      simpa [Frame.writes] using hnot
  · rcases List.mem_append.mp (hstack ▸ hin) with hin | hin
    · exact absurd rfl (hfs _ hin).1
    · exact absurd hin halone

theorem Whole.of_call (h : Whole c) (k : Call) : Whole (c.call false k) := by
  have hfine : Fine (c.call false k) := h.toFine.call false k
  have hsame : (c.call false k).stack = c.stack ∧ (c.call false k).channel = c.channel ∧
      (c.call false k).sendingFile = c.sendingFile ∧
      ((c.call false k).state = .kDisConnected → c.state = .kDisConnected) := by
    cases k <;> dsimp only [TcpConnection.call, runInLoop] <;> split <;> simp_all
  obtain ⟨hs, hch, hf, hst⟩ := hsame
  refine ⟨hfine, ?_, ?_⟩
  · rw [hs, hch, hf]
    exact fun hc => h.quiet (hst hc)
  · rw [hs, hch]
    exact h.alone

/-- Every step but that of a running frame keeps the invariant. -/
theorem Whole.step {l : ConnectionStep} (h : Whole c) (hl : ∀ a, l ≠ .run a)
    (hstep : c.step l = some d) : Whole d := by
  have hfine : Fine c := h.toFine
  have hidle : ∀ g : Frame, c.stack = [] → g ≠ .task .connectDestroyed → g.writes = false →
      Whole (c.push g) := by
    intro g hs hg hw
    refine ⟨hfine.push g, fun hc hf => ⟨(h.quiet hc hf).1, ?_⟩, fun hin => ?_⟩
    · simp [TcpConnection.push, hs, hw]
    · exact absurd (by simpa [TcpConnection.push, hs] using hin : .task .connectDestroyed = g) hg.symm
  cases l with
  | poll r =>
    obtain ⟨⟨hs, hr⟩, heq⟩ := Option.ite_none_right_eq_some.mp hstep
    cases heq
    refine ⟨hfine.congr rfl rfl rfl rfl rfl rfl rfl, fun hc => ?_, fun hin => ?_⟩
    · rw [(hfine.closed hc).1] at hr
      cases hr
    · simp [hs] at hin
  | event =>
    dsimp only [TcpConnection.step] at hstep
    split at hstep
    · rename_i r hs hr
      cases hstep
      refine ⟨hfine.congr rfl rfl rfl rfl rfl rfl rfl, fun hc hf => ?_, fun hin => ?_⟩
      · have hnone := (h.quiet hc hf).1
        rw [hr] at hnone
        cases hnone
      · simp [TcpConnection.push, hs] at hin
    · cases hstep
  | task =>
    dsimp only [TcpConnection.step] at hstep
    split at hstep
    · rename_i t ts hs hr ht
      cases hstep
      refine ⟨hfine.congr rfl rfl rfl rfl rfl rfl rfl, fun hc hf => ⟨hr, ?_⟩,
        fun hin => ⟨hr, ?_⟩⟩
      · simp [TcpConnection.push, hs, Frame.writes]
      · have htask : t = .connectDestroyed := by
          simpa [TcpConnection.push, hs, eq_comm] using hin
        simp [TcpConnection.push, hs, htask]
    · cases hstep
  | enter =>
    obtain ⟨hs, heq⟩ := Option.ite_none_right_eq_some.mp hstep
    cases heq
    exact hidle _ hs (by simp) rfl
  | retransmit data =>
    obtain ⟨hs, heq⟩ := Option.ite_none_right_eq_some.mp hstep
    cases heq
    exact hidle _ hs (by simp) rfl
  | idle =>
    obtain ⟨hs, heq⟩ := Option.ite_none_right_eq_some.mp hstep
    cases heq
    exact hidle _ hs (by simp) rfl
  | elsewhere k =>
    cases hstep
    exact h.of_call k
  | dropped =>
    cases hstep
    exact ⟨hfine.congr rfl rfl rfl rfl rfl rfl rfl, h.quiet, h.alone⟩
  | run a => exact absurd rfl (hl a)

theorem whole_established : Whole established := by
  refine ⟨⟨⟨?_, ?_, ?_⟩, ?_, ?_, ?_⟩, ?_, ?_⟩ <;> decide

theorem Whole.step_iff {l : ConnectionStep} (h : Whole c) (hstep : c.step l = some d) :
    (StaysClosed d → Whole d) ∧ (StaysClosed d ↔ c.Careful l) := by
  cases l with
  | run a =>
    dsimp only [TcpConnection.step] at hstep
    split at hstep
    · cases hstep
    · rename_i f rest hs
      cases hstep
      have hcareful : c.Careful (.run a) ↔ CarefulFrame { c with stack := rest } a f := by
        simp only [Careful, hs, List.head?_cons, Option.mem_some_iff, forall_eq']
        cases f <;> exact Iff.rfl
      by_cases hok : CarefulFrame { c with stack := rest } a f
      · have hwhole : Whole (c.run a f rest) := by
          refine h.run hs ?_
          cases f <;> exact hok
        exact ⟨fun _ => hwhole, iff_of_true hwhole.toStaysClosed (hcareful.mpr hok)⟩
      · obtain ⟨hfine, hfile⟩ := h.popped hs
        have hnot : ¬StaysClosed (c.run a f rest) := fun hstays =>
          hfine.frame_not_closed hfile hok ⟨hstays.closed, hstays.silent, hstays.late⟩
        exact ⟨fun hstays => absurd hstays hnot, iff_of_false hnot (hok ∘ hcareful.mp)⟩
  | _ =>
    have hwhole : Whole d := h.step (by simp) hstep
    exact ⟨fun _ => hwhole, iff_of_true hwhole.toStaysClosed trivial⟩

/-- The connection is closed for good. -/
theorem step_closed {l : ConnectionStep} (hc : c.state = .kDisConnected)
    (hstep : c.step l = some d) : d.state = .kDisConnected := by
  cases l with
  | run a =>
    dsimp only [TcpConnection.step] at hstep
    split at hstep
    · cases hstep
    · cases hstep
      exact (Goes.frame _).closed hc
  | elsewhere k =>
    cases hstep
    cases k <;> simp [TcpConnection.call, hc]
  | dropped =>
    cases hstep
    exact hc
  | _ =>
    dsimp only [TcpConnection.step] at hstep
    split at hstep
    all_goals cases hstep
    all_goals exact hc

theorem exec_closed {ls : List ConnectionStep} (hc : c.state = .kDisConnected)
    (h : exec c ls = some d) : d.state = .kDisConnected :=
  Run.exec_invariant (·.state = .kDisConnected) (fun _ _ _ hs hst => step_closed hs hst) hc h

/-- Once a connection is closed, its channel stays out of the poller's set, its application was
told once, and its buffer takes no byte, exactly when no send goes on with bytes after its own
error closed the connection and no write handler of a closed connection writes the rest of the
buffer. -/
theorem stays_closed_iff (ls : List ConnectionStep) :
    (∀ ms t, ms <+: ls → exec established ms = some t → t.StaysClosed) ↔
      Run.Along step Careful established ls := by
  refine Run.visited_iff_along (fun c => StaysClosed c → Whole c) StaysClosed ?_ ?_
    (fun _ => whole_established) whole_established.toStaysClosed
  · intro s l hnone
    cases l with
    | run a =>
      dsimp only [TcpConnection.step] at hnone
      split at hnone
      · rename_i hs
        simp [Careful, hs]
      · cases hnone
    | _ => trivial
  · intro s l t hI hJ hstep
    exact (hI hJ).step_iff hstep

/-- A send fails with an error, the connection is closed, and the send goes on: the closed
connection is registered again and has a byte in its buffer. -/
theorem failed_send_registers :
    ¬∀ ls t, exec established ls = some t → t.StaysClosed := by
  intro h
  have hclosed := (h [.run { calls := [.send [7]] }, .run {}, .run { result := .error },
    .run {}, .run {}, .run {}] _ rfl).closed rfl
  cases hclosed.1

end TcpConnection

end Loop
