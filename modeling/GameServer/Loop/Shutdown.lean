import GameServer.Loop.ClosedConnection

/-!
# Shutting a connection down

The shutdown is to shut the write side when all bytes that were taken on are written. The step
that does it runs at once, and does not wait for the buffer: what is in it then, what of a file is
not yet sent and what other threads sent and the loop did not come to is written behind the shut
side or not at all, and none of the functions that drain the buffer comes back to close the
connection.
-/

namespace Loop

def Task.bytes : Task → Bytes
  | .sendInLoop data => data
  | _ => []

def Frame.bytes : Frame → Bytes
  | .task t => t.bytes
  | _ => []

namespace TcpConnection

variable {c d : TcpConnection} {a : Answer} {f : Frame}

/-- Bytes that `send` accepted and `sendInLoop` did not yet see. -/
def waiting (c : TcpConnection) : Bytes :=
  c.stack.flatMap Frame.bytes ++ c.tasks.flatMap Task.bytes

/-- What the claim asks of a state: if the write side was shut, all that was accepted is written,
in order, and the connection is closed, unless it was closed by something else; and a connection
on its way there that nothing is going on with has something left to write. -/
structure Drained (c : TcpConnection) : Prop where
  shut : c.shut = true → c.lost = false → c.state = .kDisConnected ∧ c.writeBuffer = [] ∧
    c.sendingFile = false ∧ c.written = c.given ∧ c.waiting = []
  ends : c.stack = [] → c.tasks = [] → c.state = .kDisConnecting →
    c.writeBuffer ≠ [] ∨ c.sendingFile = true

/-! ## The books of an open connection -/

/-- The channel waits for the socket while there is something to write. -/
def Waits (c : TcpConnection) : Prop :=
  c.channel.writing = true ↔ c.writeBuffer ≠ [] ∨ c.sendingFile = true

/-- Of the bytes taken on, those in `data` are neither written nor in the buffer. -/
def Owes (c : TcpConnection) (data : Bytes) : Prop :=
  c.state ≠ .kDisConnected → c.Waits ∧ c.written ++ c.writeBuffer ++ data = c.given

theorem owes_of_closed {data : Bytes} (hc : c.state = .kDisConnected) : c.Owes data :=
  fun ho => absurd hc ho

theorem Owes.congr {data : Bytes} (h : c.Owes data) (hs : d.state = c.state)
    (hw : d.channel.writing = c.channel.writing) (hb : d.writeBuffer = c.writeBuffer)
    (hf : d.sendingFile = c.sendingFile) (hwr : d.written = c.written)
    (hg : d.given = c.given) : d.Owes data := by
  unfold Owes Waits
  rw [hs, hw, hb, hf, hwr, hg]
  exact h

theorem Owes.push (h : c.Owes []) (g : Frame) : (c.push g).Owes [] :=
  h.congr rfl rfl rfl rfl rfl rfl

theorem Owes.sendRest {data : Bytes} (h : c.Owes data) : (c.sendRest data).Owes [] := by
  obtain ⟨channel, registered, fs, he, -, hw, -⟩ := sendRest_rest c data
  rw [he]
  intro ho
  obtain ⟨hwaits, hbytes⟩ := h ho
  constructor
  · simp only [Waits, append] at hwaits ⊢
    rw [hw, Bool.or_eq_true, hwaits]
    by_cases hdata : data = [] <;> simp [hdata, or_comm]
  · simpa [append] using hbytes

theorem Owes.sendInLoop (h : c.Owes []) (data : Bytes) : (c.sendInLoop a data).Owes [] := by
  have htaken : ({ c with given := c.given ++ data } : TcpConnection).Owes data := by
    intro ho
    obtain ⟨hwaits, hbytes⟩ := h ho
    exact ⟨hwaits, by simp [← hbytes]⟩
  unfold TcpConnection.sendInLoop
  split
  · exact h
  · dsimp only
    split
    · rename_i hdirect
      have hb : c.writeBuffer = [] := by
        simp only [Bool.and_eq_true, List.isEmpty_iff] at hdirect
        exact hdirect.2
      cases a.result with
      | ok n =>
        have hsent : ({ c with
            given := c.given ++ data, written := c.written ++ data.take n } :
              TcpConnection).Owes (data.drop n) := by
          intro ho
          obtain ⟨hwaits, hbytes⟩ := h ho
          exact ⟨hwaits, by simpa [hb] using hbytes⟩
        dsimp only
        split
        · rename_i hn
          rw [List.drop_eq_nil_of_le hn] at hsent
          exact hsent.push _
        · exact hsent.sendRest
      | eagain => exact htaken.sendRest
      | eintr => exact h.push _
      | error => exact owes_of_closed (handleClose_state _)
    · exact htaken.sendRest

theorem Owes.forceCloseInLoop (h : c.Owes []) : c.forceCloseInLoop.Owes [] := by
  unfold TcpConnection.forceCloseInLoop
  split
  · exact owes_of_closed (handleClose_state _)
  · exact h

theorem Owes.sendFileInLoop (h : c.Owes []) : (c.sendFileInLoop a).Owes [] := by
  unfold TcpConnection.sendFileInLoop
  split
  · exact h
  · cases a.opened with
    | none => exact h.forceCloseInLoop
    | some size =>
      obtain ⟨channel, registered, he, hw, -⟩ := enableWriting_rest { c with
        fileOpen := true, fileSentOffset := 0, fileTotalSize := size, sendingFile := true }
      dsimp only
      rw [he]
      exact fun ho => ⟨by simp [Waits, hw], (h ho).2⟩

theorem Owes.shutdownInLoop (h : c.Owes []) : c.shutdownInLoop.Owes [] := by
  unfold TcpConnection.shutdownInLoop
  split
  · exact owes_of_closed (handleClose_state _)
  · exact h

theorem connectDestroyed_state (c : TcpConnection) :
    c.connectDestroyed.state = .kDisConnected := by
  by_cases hc : c.state = .kDisConnected
  · exact (Goes.connectDestroyed).closed hc
  · obtain ⟨_, _, _, hr⟩ := remove_rest { c with state := .kDisConnected }
    rw [connectDestroyed, if_pos hc, hr]
    rfl

theorem Owes.handleRead (h : c.Owes []) : (c.handleRead a).Owes [] := by
  unfold TcpConnection.handleRead
  split
  · exact owes_of_closed (handleClose_state _)
  · exact h.push _
  · exact owes_of_closed (handleClose_state _)

theorem Owes.writeFd (h : c.Owes []) (n : Nat) (ho : c.state ≠ .kDisConnected) :
    (c.writeFd n).written ++ (c.writeFd n).writeBuffer = (c.writeFd n).given := by
  simpa [TcpConnection.writeFd] using (h ho).2

theorem Owes.handleWrite (h : c.Owes []) : (c.handleWrite a).Owes [] := by
  unfold TcpConnection.handleWrite
  split
  · exact h
  · rename_i hw
    split
    · split
      · rename_i n _
        refine Owes.push (Owes.push ?_ _) _
        split
        · rename_i hempty
          obtain ⟨channel, registered, he, hwriting, -⟩ := disableWriting_rest (c.writeFd (n + 1))
          rw [he]
          intro ho
          have hfile : (c.writeFd (n + 1)).sendingFile = false := by simpa using hempty.2
          refine ⟨?_, by simpa using h.writeFd (n + 1) ho⟩
          simp [Waits, hwriting, hempty.1, hfile]
        · rename_i hmore
          intro ho
          refine ⟨?_, by simpa using h.writeFd (n + 1) ho⟩
          have hwriting : c.channel.writing = true := by simpa using hw
          refine iff_of_true hwriting ?_
          by_cases hb : (c.writeFd (n + 1)).writeBuffer = []
          · exact .inr (by simpa [hb] using hmore)
          · exact .inl hb
      · exact h.push _
      · exact owes_of_closed (handleClose_state _)
    · exact h.push _

theorem Owes.closeFile (h : c.Owes []) (hb : c.writeBuffer = []) : c.closeFile.Owes [] := by
  obtain ⟨channel, registered, he, hw, -⟩ :=
    disableWriting_rest { c with fileOpen := false, sendingFile := false }
  rw [TcpConnection.closeFile, he]
  exact fun ho => ⟨by simp [Waits, hw, hb], (h ho).2⟩

theorem Owes.writeFile (h : c.Owes []) (hb : c.writeBuffer = []) : (c.writeFile a).Owes [] := by
  unfold TcpConnection.writeFile
  split
  · rename_i n _
    have hsent : ({ c with
        fileSentOffset := c.fileSentOffset + min (n + 1) (64 * 1024) } : TcpConnection).Owes [] :=
      h.congr rfl rfl rfl rfl rfl rfl
    dsimp only
    split
    · exact (hsent.closeFile hb).push _
    · exact hsent
  · exact h
  · exact h
  · exact owes_of_closed (handleClose_state _)

/-- The last part of the write handler, from which the shutdown would go on, is never reached:
the part before it returns unless the buffer is empty. -/
theorem writeRest_eq (c : TcpConnection) (a : Answer) : c.writeRest a =
    if c.writeBuffer = [] ∧ c.sendingFile && c.fileOpen then c.writeFile a else c := by
  unfold writeRest
  by_cases hb : c.writeBuffer = []
  · simp [hb]
  · simp [hb]

theorem Owes.writeRest (h : c.Owes []) : (c.writeRest a).Owes [] := by
  rw [writeRest_eq]
  split
  · rename_i hb
    exact h.writeFile hb.1
  · exact h

theorem Owes.call (h : c.Owes []) (inThread : Bool) (k : Call) : (c.call inThread k).Owes [] := by
  have hrun : ∀ {d : TcpConnection} (t : Task), d.Owes [] → (d.runInLoop inThread t).Owes [] := by
    intro d t hd
    unfold runInLoop
    split
    · exact hd.push _
    · exact hd.congr rfl rfl rfl rfl rfl rfl
  have hbegin : c.state ≠ .kDisConnected →
      ({ c with state := .kDisConnecting } : TcpConnection).Owes [] := fun ho _ => h ho
  cases k with
  | send data =>
    dsimp only [TcpConnection.call]
    split
    · exact h
    · exact hrun _ h
  | sendFile =>
    dsimp only [TcpConnection.call]
    split
    · exact h
    · exact hrun _ h
  | shutdown =>
    dsimp only [TcpConnection.call]
    split
    · rename_i hs
      exact hrun _ (hbegin (by simp [hs]))
    · exact h
  | forceClose =>
    dsimp only [TcpConnection.call]
    split
    · rename_i hs
      refine hrun _ (hbegin ?_)
      rcases hs with hs | hs <;> simp [hs]
    · exact h

theorem Owes.frame (h : c.Owes []) (hf : ∀ data, f = .sendRest data → c.state = .kDisConnected) :
    (c.runFrame a f).Owes [] := by
  cases f with
  | callback => exact h.congr rfl rfl rfl rfl rfl rfl
  | call k => exact h.call true k
  | task t =>
    cases t with
    | sendInLoop data => exact h.sendInLoop data
    | sendFileInLoop => exact h.sendFileInLoop
    | shutdownInLoop => exact h.shutdownInLoop
    | forceCloseInLoop => exact h.forceCloseInLoop
    | connectDestroyed => exact owes_of_closed (connectDestroyed_state c)
  | retransmit data => exact h.sendInLoop data
  | handleEvent r =>
    dsimp only [runFrame, handleEvent]
    split
    · exact owes_of_closed (handleClose_state _)
    · split
      · exact (h.push _).push _
      · exact h.push _
  | handleRest r =>
    dsimp only [runFrame, handleRest]
    split
    · exact owes_of_closed (handleClose_state _)
    · split
      · exact h.push _
      · exact h
  | handleRead => exact h.handleRead
  | handleWrite => exact h.handleWrite
  | writeRest => exact h.writeRest
  | writeLast =>
    dsimp only [runFrame, writeLast]
    split
    · exact h.push _
    · exact h
  | sendRest data => exact owes_of_closed ((Goes.frame (.sendRest data)).closed (hf data rfl))

/-! ## A closed connection with an empty buffer -/

/-- Nothing that the claim speaks of changes. -/
structure Still (c d : TcpConnection) : Prop where
  writeBuffer : d.writeBuffer = c.writeBuffer
  sendingFile : d.sendingFile = c.sendingFile
  written : d.written = c.written
  given : d.given = c.given
  bytes : d.stack.flatMap Frame.bytes = c.stack.flatMap Frame.bytes

theorem Still.refl : Still c c := ⟨rfl, rfl, rfl, rfl, rfl⟩

theorem Still.of_eq (h : d = c) : Still c d := h ▸ .refl

theorem Still.push {g : Frame} (h : Still c d) (hg : g.bytes = []) : Still c (d.push g) := by
  refine ⟨h.writeBuffer, h.sendingFile, h.written, h.given, ?_⟩
  simpa [TcpConnection.push, hg] using h.bytes

theorem still_frame (hc : c.state = .kDisConnected) (hb : c.writeBuffer = [])
    (hfile : c.sendingFile = false) (hf : ∀ data, f ≠ .sendRest data) :
    Still c (c.runFrame a f) := by
  have hclose : c.handleClose = c := handleClose_of_closed hc
  cases f with
  | callback =>
    refine ⟨rfl, rfl, rfl, rfl, ?_⟩
    simp [runFrame, Frame.bytes, List.flatMap_map]
  | call k =>
    refine .of_eq ?_
    cases k <;> simp [runFrame, TcpConnection.call, hc]
  | task t =>
    cases t with
    | sendInLoop data => exact .of_eq (if_pos hc)
    | sendFileInLoop => exact .of_eq (if_pos hc)
    | shutdownInLoop =>
      dsimp only [runFrame, runTask, TcpConnection.shutdownInLoop]
      rw [handleClose_of_closed (c := { c with shut := true }) hc]
      split <;> exact ⟨rfl, rfl, rfl, rfl, rfl⟩
    | forceCloseInLoop =>
      dsimp only [runFrame, runTask, TcpConnection.forceCloseInLoop]
      rw [if_neg (by simp [hc])]
      exact .refl
    | connectDestroyed =>
      obtain ⟨added, index, registered, hr⟩ := remove_rest c
      dsimp only [runFrame, runTask, TcpConnection.connectDestroyed]
      rw [if_neg (by simp [hc]), hr]
      exact ⟨rfl, rfl, rfl, rfl, rfl⟩
  | retransmit data => exact .of_eq (if_pos hc)
  | handleEvent r =>
    dsimp only [runFrame, handleEvent, handleError]
    rw [hclose]
    split
    · exact .refl
    · split
      · exact (Still.refl.push rfl).push rfl
      · exact Still.refl.push rfl
  | handleRest r =>
    dsimp only [runFrame, handleRest, handleError]
    rw [hclose]
    split
    · exact .refl
    · split
      · exact Still.refl.push rfl
      · exact .refl
  | handleRead =>
    dsimp only [runFrame, TcpConnection.handleRead, handleError]
    rw [hclose]
    split
    · exact .refl
    · exact Still.refl.push rfl
    · exact .refl
  | handleWrite =>
    dsimp only [runFrame, TcpConnection.handleWrite]
    rw [if_neg (not_not.mpr hb)]
    split
    · exact .refl
    · exact Still.refl.push rfl
  | writeRest =>
    refine .of_eq ((writeRest_eq c a).trans (if_neg ?_))
    simp [hfile]
  | writeLast =>
    dsimp only [runFrame, writeLast]
    rw [if_neg (by simp [hc])]
    exact .refl
  | sendRest data => exact absurd rfl (hf data)

/-! ## The books of a run -/

/-- A task that closes the connection is still to come. -/
def Pending (c : TcpConnection) : Prop :=
  ∃ t, (t = .shutdownInLoop ∨ t = .forceCloseInLoop) ∧ (.task t ∈ c.stack ∨ t ∈ c.tasks)

structure Books (c : TcpConnection) : Prop where
  owes : c.Owes []
  gone : c.lost = true → c.state = .kDisConnected
  ended : c.state = .kDisConnected → c.lost = true ∨ c.shut = true
  pending : c.state = .kDisConnecting → c.shut = true ∨ c.Pending
  failed : ∀ data, .sendRest data ∈ c.stack → c.lost = true

/-- What `Drained` asks when the write side is shut is all that it asks. -/
theorem Books.drained (h : Books c) (hshut : c.shut = true → c.lost = false →
    c.state = .kDisConnected ∧ c.writeBuffer = [] ∧ c.sendingFile = false ∧ c.written = c.given ∧
      c.waiting = []) : Drained c where
  shut := hshut
  ends hs ht hst := by
    rcases h.pending hst with hsh | ⟨t, -, hin | hin⟩
    · have hlost : c.lost = false := by
        refine Bool.eq_false_iff.mpr fun hl => ?_
        rw [h.gone hl] at hst
        cases hst
      rw [(hshut hsh hlost).1] at hst
      cases hst
    · simp [hs] at hin
    · simp [ht] at hin

/-- The write side of an open connection is not shut. -/
theorem Books.open (h : Books c) (hd : Drained c) (ho : c.state ≠ .kDisConnected) :
    c.shut = false ∧ c.lost = false := by
  have hlost : c.lost = false := Bool.eq_false_iff.mpr fun hl => ho (h.gone hl)
  exact ⟨Bool.eq_false_iff.mpr fun hs => ho (hd.shut hs hlost).1, hlost⟩

/-- The shutdown must find a closed connection, or one with nothing to write and no send on its
way. -/
def ShutsClean (c : TcpConnection) : ConnectionStep → Prop
  | .run _ => c.stack.head? = some (.task .shutdownInLoop) → c.state ≠ .kDisConnected →
    c.channel.writing = false ∧ c.waiting = []
  | _ => True

theorem loses_eq_true {f : Frame} : c.loses f d = true ↔
    c.state ≠ .kDisConnected ∧ d.state = .kDisConnected ∧ f ≠ .task .shutdownInLoop := by
  simp [loses, and_assoc]

theorem shutdownInLoop_shut (c : TcpConnection) : c.shutdownInLoop.shut = true := by
  unfold shutdownInLoop
  split
  · by_cases hc : c.state = .kDisConnected
    · rw [handleClose_of_closed (c := { c with shut := true }) hc]
    · obtain ⟨_, _, _, he⟩ := handleClose_of_open (c := { c with shut := true }) hc
      rw [he]
  · rfl

theorem Books.run {rest : List Frame} (h : Books c) (hs : c.stack = f :: rest) :
    Books (c.run a f rest) := by
  have hgoes : Goes f { c with stack := rest } ({ c with stack := rest }.runFrame a f) := .frame f
  have howes : ({ c with stack := rest }.runFrame a f).Owes [] := by
    refine Owes.frame (h.owes.congr rfl rfl rfl rfl rfl rfl) fun data hf => ?_
    exact h.gone (h.failed data (by simp [hs, hf]))
  have hshut : f = .task .shutdownInLoop → ({ c with stack := rest }.runFrame a f).shut = true := by
    rintro rfl
    exact shutdownInLoop_shut _
  have hforce : f = .task .forceCloseInLoop →
      ({ c with stack := rest }.runFrame a f).state ≠ .kDisConnecting := by
    rintro rfl hst
    dsimp only [runFrame, runTask, TcpConnection.forceCloseInLoop] at hst
    split at hst
    · rw [handleClose_state] at hst
      cases hst
    · rename_i hno
      exact hno (.inr hst)
  unfold TcpConnection.run
  generalize { c with stack := rest }.runFrame a f = d at hgoes howes hshut hforce
  obtain ⟨fs, hstack, -⟩ := hgoes.stack
  have hmono : c.shut = true → d.shut = true := fun hsh => by
    by_cases hf : f = .task .shutdownInLoop
    · exact hshut hf
    · exact (hgoes.shut hf).trans hsh
  refine ⟨howes.congr rfl rfl rfl rfl rfl rfl, fun hl => ?_, fun hc => ?_, fun hst => ?_,
    fun data hin => ?_⟩
  · rcases Bool.or_eq_true_iff.mp hl with hl | hl
    · exact hgoes.closed (h.gone hl)
    · exact (loses_eq_true.mp hl).2.1
  · by_cases hcl : c.state = .kDisConnected
    · rcases h.ended hcl with hl | hsh
      · exact .inl (by simp [hl])
      · exact .inr (hmono hsh)
    · by_cases hf : f = .task .shutdownInLoop
      · exact .inr (hshut hf)
      · exact .inl (Bool.or_eq_true_iff.mpr (.inr (loses_eq_true.mpr ⟨hcl, hc, hf⟩)))
  · rcases hgoes.disconnecting hst with hcst | hin | hin
    · rcases h.pending hcst with hsh | ⟨t, ht, hin | hin⟩
      · exact .inl (hmono hsh)
      · rcases List.mem_cons.mp (hs ▸ hin) with rfl | hin
        · rcases ht with rfl | rfl
          · exact .inl (hshut rfl)
          · exact absurd hst (hforce rfl)
        · exact .inr ⟨t, ht, .inl (by simp [hstack, hin])⟩
      · exact .inr ⟨t, ht, .inr (hgoes.tasks ▸ hin)⟩
    · exact .inr ⟨_, .inl rfl, .inl hin⟩
    · exact .inr ⟨_, .inr rfl, .inl hin⟩
  · refine Bool.or_eq_true_iff.mpr ?_
    rcases hgoes.failed data hin with hin | hclosed
    · exact .inl (h.failed data (by simp [hs, hin]))
    · exact .inr (loses_eq_true.mpr hclosed)

/-- The shutdown of an open connection: it drains exactly if it finds nothing to write. -/
theorem Books.shutdown_iff {rest : List Frame} (h : Books c) (hd : Drained c)
    (hs : c.stack = .task .shutdownInLoop :: rest) (ho : c.state ≠ .kDisConnected) :
    Drained (c.run a (.task .shutdownInLoop) rest) ↔
      c.channel.writing = false ∧ c.waiting = [] := by
  obtain ⟨-, hlost⟩ := h.open hd ho
  obtain ⟨hwaits, hbytes⟩ := h.owes ho
  have hbooks : Books (c.run a (.task .shutdownInLoop) rest) := h.run hs
  by_cases hw : c.channel.writing = true
  · refine iff_of_false (fun hdrained => ?_) (by simp [hw])
    have hopen := (hdrained.shut (shutdownInLoop_shut _) (by simp [TcpConnection.run, hlost, loses])).1
    simp [TcpConnection.run, runFrame, runTask, TcpConnection.shutdownInLoop, hw, ho] at hopen
  · have hb : c.writeBuffer = [] ∧ c.sendingFile = false := by
      have hnot : ¬(c.writeBuffer ≠ [] ∨ c.sendingFile = true) := fun hor => hw (hwaits.mpr hor)
      simpa using hnot
    obtain ⟨added, index, registered, he⟩ :=
      handleClose_of_open (c := { c with stack := rest, shut := true }) ho
    have hrun : c.run a (.task .shutdownInLoop) rest = { c with
        state := .kDisConnected
        channel := { c.channel with added, index }
        registered
        fileOpen := false
        fileSentOffset := 0
        fileTotalSize := 0
        sendingFile := false
        notified := c.notified + 1
        shut := true
        stack := .callback :: .callback :: rest } := by
      have hshut : ({ c with stack := rest } : TcpConnection).shutdownInLoop =
          { c with stack := rest, shut := true }.handleClose := if_pos (by simpa using hw)
      have hframe : ({ c with stack := rest } : TcpConnection).runFrame a (.task .shutdownInLoop) =
          { c with stack := rest, shut := true }.handleClose := hshut
      have hloses : ∀ d, c.loses (.task .shutdownInLoop) d = false := by simp [loses]
      unfold TcpConnection.run
      rw [hframe, he]
      simp [hloses, hlost]
    have hwaiting : (c.run a (.task .shutdownInLoop) rest).waiting = c.waiting := by
      rw [hrun]
      simp [waiting, hs, Frame.bytes, Task.bytes]
    constructor
    · intro hdrained
      refine ⟨by simpa using hw, ?_⟩
      rw [← hwaiting]
      exact (hdrained.shut (by rw [hrun]) (by rw [hrun]; exact hlost)).2.2.2.2
    · rintro ⟨-, hwait⟩
      refine hbooks.drained fun _ _ => ⟨by rw [hrun], by rw [hrun]; exact hb.1, by rw [hrun], ?_, ?_⟩
      · rw [hrun]
        simpa [hb.1] using hbytes
      · rw [hwaiting, hwait]

/-- Another frame of an open connection does not shut the write side. -/
theorem Books.run_open {rest : List Frame} (h : Books c) (hd : Drained c)
    (hs : c.stack = f :: rest) (ho : c.state ≠ .kDisConnected) (hf : f ≠ .task .shutdownInLoop) :
    Drained (c.run a f rest) := by
  refine (h.run hs).drained fun hsh _ => ?_
  have hsame : ({ c with stack := rest }.runFrame a f).shut = c.shut := (Goes.frame f).shut hf
  have hshut : c.shut = true := hsame.symm.trans hsh
  rw [(h.open hd ho).1] at hshut
  cases hshut

/-- Whatever runs on a closed connection leaves it drained. -/
theorem Books.run_closed {rest : List Frame} (h : Books c) (hd : Drained c)
    (hs : c.stack = f :: rest) (hc : c.state = .kDisConnected) : Drained (c.run a f rest) := by
  have hbooks : Books (c.run a f rest) := h.run hs
  refine hbooks.drained fun _ hlost => ?_
  have hclost : c.lost = false := (Bool.or_eq_false_iff.mp hlost).1
  have hshut : c.shut = true := by simpa [hclost] using h.ended hc
  obtain ⟨-, hb, hfile, hwritten, hwait⟩ := hd.shut hshut hclost
  have hf : ∀ data, f ≠ .sendRest data := by
    rintro data rfl
    have hl := h.failed data (by simp [hs])
    rw [hclost] at hl
    cases hl
  have hgoes : Goes f { c with stack := rest } ({ c with stack := rest }.runFrame a f) := .frame f
  have hstill : Still { c with stack := rest } ({ c with stack := rest }.runFrame a f) :=
    still_frame hc hb hfile hf
  unfold TcpConnection.run at hlost ⊢
  generalize { c with stack := rest }.runFrame a f = d at hgoes hstill
  refine ⟨hgoes.closed hc, hstill.writeBuffer.trans hb, hstill.sendingFile.trans hfile, ?_, ?_⟩
  · exact hstill.written.trans (hwritten.trans hstill.given.symm)
  · have hparts := List.append_eq_nil_iff.mp hwait
    simp only [hs, List.flatMap_cons, List.append_eq_nil_iff] at hparts
    simp [waiting, hstill.bytes, hgoes.tasks, hparts.1.2, hparts.2]

theorem Books.run_iff {rest : List Frame} (h : Books c) (hd : Drained c)
    (hs : c.stack = f :: rest) :
    Drained (c.run a f rest) ↔ c.ShutsClean (.run a) := by
  have hclean : c.ShutsClean (.run a) ↔ (f = .task .shutdownInLoop → c.state ≠ .kDisConnected →
      c.channel.writing = false ∧ c.waiting = []) := by
    simp [ShutsClean, hs]
  rw [hclean]
  by_cases hc : c.state = .kDisConnected
  · exact iff_of_true (h.run_closed hd hs hc) fun _ ho => absurd hc ho
  · by_cases hf : f = .task .shutdownInLoop
    · subst hf
      exact (h.shutdown_iff hd hs hc).trans ⟨fun hw _ _ => hw, fun hw => hw rfl hc⟩
    · exact iff_of_true (h.run_open hd hs hc hf) fun hf' => absurd hf' hf

/-! ## Steps between the calls -/

/-- A frame on an idle stack, with or without the task it comes from. -/
theorem Books.start {ts : List Task} (h : Books c) (hd : Drained c) (hs : c.stack = [])
    (hg : ∀ data, f ≠ .sendRest data)
    (ht : c.tasks = ts ∧ f.bytes = [] ∨ ∃ t, f = .task t ∧ c.tasks = t :: ts) :
    Books ({ c with tasks := ts }.push f) ∧ Drained ({ c with tasks := ts }.push f) := by
  have hpending : Pending c → Pending ({ c with tasks := ts }.push f) := by
    rintro ⟨t, hor, hin⟩
    refine ⟨t, hor, ?_⟩
    rcases hin with hin | hin
    · simp [hs] at hin
    · rcases ht with ⟨ht, -⟩ | ⟨u, rfl, ht⟩
      · exact .inr (ht ▸ hin)
      · rcases List.mem_cons.mp (ht ▸ hin) with rfl | hin
        · exact .inl (by simp [TcpConnection.push])
        · exact .inr hin
  have hwaiting : ({ c with tasks := ts }.push f).waiting = c.waiting := by
    rcases ht with ⟨ht, hb⟩ | ⟨u, rfl, ht⟩
    · simp [waiting, TcpConnection.push, hb, ht]
    · simp [waiting, TcpConnection.push, hs, ht, Frame.bytes]
  have hbooks : Books ({ c with tasks := ts }.push f) := by
    refine ⟨h.owes.congr rfl rfl rfl rfl rfl rfl, h.gone, h.ended, fun hst => ?_, fun data hin => ?_⟩
    · exact (h.pending hst).imp id hpending
    · exact absurd (by simpa [TcpConnection.push, hs] using hin : .sendRest data = f).symm (hg data)
  refine ⟨hbooks, hbooks.drained fun hsh hl => ?_⟩
  rw [hwaiting]
  exact hd.shut hsh hl

theorem Books.elsewhere (h : Books c) (hd : Drained c) (k : Call) :
    Books (c.call false k) ∧ Drained (c.call false k) := by
  have howes : (c.call false k).Owes [] := h.owes.call false k
  have hsame : (c.call false k).stack = c.stack ∧ (c.call false k).lost = c.lost ∧
      (c.call false k).shut = c.shut ∧
      ((c.call false k).state = .kDisConnected ↔ c.state = .kDisConnected) ∧
      ((c.call false k).state = .kDisConnecting →
        (c.state = .kDisConnecting ∧ ∀ t ∈ c.tasks, t ∈ (c.call false k).tasks) ∨
          (c.call false k).Pending) := by
    cases k with
    | send data =>
      dsimp only [TcpConnection.call, runInLoop]
      split <;> simp_all
    | sendFile =>
      dsimp only [TcpConnection.call, runInLoop]
      split <;> simp_all
    | shutdown =>
      dsimp only [TcpConnection.call, runInLoop]
      split <;> simp_all [Pending]
    | forceClose =>
      dsimp only [TcpConnection.call, runInLoop]
      split
      · rename_i hst
        refine ⟨rfl, rfl, rfl, ?_, fun _ => .inr ⟨_, .inr rfl, by simp⟩⟩
        rcases hst with hst | hst <;> simp [hst]
      · simp_all
  obtain ⟨hs, hl, hsh, hst, hp⟩ := hsame
  have hbooks : Books (c.call false k) := by
    refine ⟨howes, ?_, ?_, fun hdis => ?_, ?_⟩
    · rw [hl, hst]
      exact h.gone
    · rw [hl, hsh, hst]
      exact h.ended
    · rw [hsh]
      rcases hp hdis with ⟨hdis, hmono⟩ | hp
      · refine (h.pending hdis).imp id ?_
        rintro ⟨t, hor, hin⟩
        exact ⟨t, hor, hin.imp (by rw [hs]; exact id) (hmono t)⟩
      · exact .inr hp
    · rw [hs, hl]
      exact h.failed
  refine ⟨hbooks, hbooks.drained fun hsh' hl' => ?_⟩
  have hc : c.state = .kDisConnected := (hd.shut (hsh.symm.trans hsh') (hl.symm.trans hl')).1
  have hcall : c.call false k = c := by
    cases k <;> simp [TcpConnection.call, hc]
  rw [hcall] at hsh' hl' ⊢
  exact hd.shut hsh' hl'

/-- Every step but that of a running frame keeps the books and the property. -/
theorem Books.step {l : ConnectionStep} (h : Books c) (hd : Drained c) (hl : ∀ a, l ≠ .run a)
    (hstep : c.step l = some d) : Books d ∧ Drained d := by
  cases l with
  | poll r =>
    obtain ⟨-, heq⟩ := Option.ite_none_right_eq_some.mp hstep
    cases heq
    exact ⟨⟨h.owes.congr rfl rfl rfl rfl rfl rfl, h.gone, h.ended, h.pending, h.failed⟩,
      ⟨hd.shut, hd.ends⟩⟩
  | event =>
    dsimp only [TcpConnection.step] at hstep
    split at hstep
    · rename_i r hs hr
      cases hstep
      obtain ⟨hb, hdr⟩ := h.start (f := .handleEvent r) hd hs (by simp) (.inl ⟨rfl, rfl⟩)
      exact ⟨⟨hb.owes.congr rfl rfl rfl rfl rfl rfl, hb.gone, hb.ended, hb.pending, hb.failed⟩,
        ⟨hdr.shut, hdr.ends⟩⟩
    · cases hstep
  | task =>
    dsimp only [TcpConnection.step] at hstep
    split at hstep
    · rename_i t ts hs hr ht
      cases hstep
      exact h.start hd hs (by simp) (.inr ⟨t, rfl, ht⟩)
    · cases hstep
  | enter =>
    obtain ⟨hs, heq⟩ := Option.ite_none_right_eq_some.mp hstep
    cases heq
    exact h.start hd hs (by simp) (.inl ⟨rfl, rfl⟩)
  | retransmit data =>
    obtain ⟨hs, heq⟩ := Option.ite_none_right_eq_some.mp hstep
    cases heq
    exact h.start hd hs (by simp) (.inl ⟨rfl, rfl⟩)
  | idle =>
    obtain ⟨hs, heq⟩ := Option.ite_none_right_eq_some.mp hstep
    cases heq
    exact h.start hd hs (by simp) (.inl ⟨rfl, rfl⟩)
  | elsewhere k =>
    cases hstep
    exact h.elsewhere hd k
  | dropped =>
    cases hstep
    refine ⟨⟨h.owes.congr rfl rfl rfl rfl rfl rfl, h.gone, h.ended, fun hst => ?_, h.failed⟩,
      fun hsh hl => ?_, fun _ ht => by simp at ht⟩
    · refine (h.pending hst).imp id ?_
      rintro ⟨t, hor, hin⟩
      exact ⟨t, hor, hin.imp id fun hin => List.mem_append_left _ hin⟩
    · obtain ⟨hc, hb, hf, hw, hwait⟩ := hd.shut hsh hl
      refine ⟨hc, hb, hf, hw, ?_⟩
      simpa [waiting, Task.bytes] using hwait
  | run a => exact absurd rfl (hl a)

theorem books_established : Books established := by
  refine ⟨fun _ => ⟨iff_of_false (by decide) (by decide), rfl⟩, ?_, ?_, ?_, ?_⟩
  · exact fun h => absurd h (by decide)
  · exact fun h => absurd h (by decide)
  · exact fun h => absurd h (by decide)
  · intro data hin
    have hin : .sendRest data ∈ [Frame.callback] := hin
    simp at hin

/-- The bytes that a connection took on are written in order before its write side is shut, and
the connection then ends, exactly when the shutdown of an open connection finds an empty buffer,
no file and no send on its way from another thread. -/
theorem shutdown_drains_iff (ls : List ConnectionStep) :
    (∀ ms t, ms <+: ls → exec established ms = some t → t.Drained) ↔
      Run.Along step ShutsClean established ls := by
  refine Run.visited_iff_along Books Drained ?_ ?_ books_established
    ⟨fun h => absurd h (by decide), fun h => absurd h (by decide)⟩
  · intro s l hnone
    cases l with
    | run a =>
      dsimp only [TcpConnection.step] at hnone
      split at hnone
      · rename_i hs
        simp [ShutsClean, hs]
      · cases hnone
    | _ => trivial
  · intro s l t hb hd hstep
    cases l with
    | run a =>
      dsimp only [TcpConnection.step] at hstep
      split at hstep
      · cases hstep
      · rename_i f rest hs
        cases hstep
        exact ⟨hb.run hs, hb.run_iff hd hs⟩
    | _ =>
      obtain ⟨hbt, hdt⟩ := hb.step hd (by simp) hstep
      exact ⟨hbt, iff_of_true hdt trivial⟩

/-- The socket takes the first of two bytes, the application shuts the connection down: the write
side is shut with a byte in the buffer. -/
theorem shutdown_before_drained :
    ¬∀ ls t, exec established ls = some t → t.Drained := by
  intro h
  have hshut := (h [.run { calls := [.send [7, 8], .shutdown] }, .run {}, .run { result := .ok 1 },
    .run {}, .run {}] _ rfl).shut rfl rfl
  cases hshut.1

end TcpConnection

end Loop
