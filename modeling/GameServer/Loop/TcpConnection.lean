import GameServer.Lib.Run

/-!
# A connection of the gateway

A function of the connection may call back into the application, which may send, shut the
connection down or close it before the function goes on. The stack holds what is still to be done
by the calls that are running, innermost first; `tasks` is what `runInLoop` was given on other
threads. A step runs the top of the stack up to the next call.

The retransmission and idle timers enter only with what they do when they expire.
-/

namespace Loop

abbrev Bytes := List UInt8

inductive StateE where
  | kConnecting | kConnected | kDisConnecting | kDisConnected
  deriving DecidableEq, Repr

/-- Where the poller has a channel. -/
inductive ChannelState where
  | kDeleted | kNew | kAdded
  deriving DecidableEq, Repr

/-- The events that `epoll_wait` gave for a channel. -/
structure Revents where
  err : Bool := false
  readable : Bool := false
  pri : Bool := false
  rdhup : Bool := false
  hup : Bool := false
  writable : Bool := false
  deriving DecidableEq, Repr

/-- A `Channel`; `reading` and `writing` are the bits of `events_`. -/
structure Channel where
  reading : Bool := false
  writing : Bool := false
  added : Bool := false
  index : ChannelState := .kNew
  revents : Option Revents := none
  deriving DecidableEq, Repr

/-- What `runInLoop` is given. -/
inductive Task where
  | sendInLoop (data : Bytes)
  | sendFileInLoop
  | shutdownInLoop
  | forceCloseInLoop
  | connectDestroyed
  deriving DecidableEq, Repr

/-- The calls that the application makes. -/
inductive Call where
  | send (data : Bytes)
  | sendFile
  | shutdown
  | forceClose
  deriving DecidableEq, Repr

inductive Frame where
  | callback
  | call (c : Call)
  | task (t : Task)
  /-- `onRetransmitTimeout`. -/
  | retransmit (data : Bytes)
  | handleEvent (r : Revents)
  /-- `handleEvent` behind its read callback. -/
  | handleRest (r : Revents)
  | handleRead
  | handleWrite
  /-- `handleWrite` behind its write of the buffer. -/
  | writeRest
  /-- `handleWrite` behind its last callback. -/
  | writeLast
  /-- `sendInLoop` behind its call of `handleClose`. -/
  | sendRest (data : Bytes)
  deriving DecidableEq, Repr

/-- What a socket call returns: a count, or an error by its number. -/
inductive Result where
  | ok (n : Nat)
  | eagain
  | eintr
  | error
  deriving DecidableEq, Repr

/-- What the surroundings answer in a step: the result of its socket call, the calls that the
application makes in its callback, and the size of the file if it can be opened. -/
structure Answer where
  result : Result := .eagain
  calls : List Call := []
  opened : Option Nat := none

structure TcpConnection where
  state : StateE := .kConnecting
  channel : Channel := {}
  /-- The descriptor is in `ChannelMap_` and in the set of the poller. -/
  registered : Bool := false
  writeBuffer : Bytes := []
  fileOpen : Bool := false
  fileSentOffset : Nat := 0
  fileTotalSize : Nat := 0
  sendingFile : Bool := false
  stack : List Frame := []
  tasks : List Task := []
  /-- Bytes that went to the socket, files apart. -/
  written : Bytes := []
  /-- The write side of the socket was shut. -/
  shut : Bool := false
  /-- How often the application was told that the connection is closed. -/
  notified : Nat := 0
  /-- Bytes that `sendInLoop` took on. -/
  given : Bytes := []
  /-- Bytes put into the buffer of a closed connection. -/
  late : Bytes := []
  /-- The connection was closed by other than its shutdown. -/
  lost : Bool := false
  deriving DecidableEq, Repr

namespace TcpConnection

variable (c : TcpConnection)

def push (f : Frame) : TcpConnection := { c with stack := f :: c.stack }

/-! ## The channel and the poller -/

def removeChannel : TcpConnection :=
  { c with channel := { c.channel with index := .kDeleted }, registered := false }

def updateChannel : TcpConnection :=
  if c.channel.index = .kNew ∨ c.channel.index = .kDeleted then
    { c with registered := true, channel := { c.channel with index := .kAdded } }
  else if !c.channel.reading && !c.channel.writing then c.removeChannel
  else c

/-- `Channel::update`. -/
def update : TcpConnection :=
  let c := c.updateChannel
  { c with channel := { c.channel with added := true } }

def enableReading : TcpConnection :=
  { c with channel := { c.channel with reading := true } }.update

def enableWriting : TcpConnection :=
  { c with channel := { c.channel with writing := true } }.update

def disableWriting : TcpConnection :=
  { c with channel := { c.channel with writing := false } }.update

/-- `Channel::remove`. -/
def remove : TcpConnection :=
  if !c.channel.added then c
  else
    let c := { c with channel := { c.channel with added := false } }
    if c.channel.index = .kDeleted then c else c.removeChannel

/-! ## Opening and closing -/

def connectEstablelished : TcpConnection :=
  { c.enableReading with state := .kConnected }.push .callback

def connectDestroyed : TcpConnection :=
  if c.state ≠ .kDisConnected then
    { { c with state := .kDisConnected }.remove with notified := c.notified + 1 }.push .callback
  else c.remove

def handleClose : TcpConnection :=
  if c.state = .kDisConnected then c
  else
    ({ { c with state := .kDisConnected }.remove with
        fileOpen := false
        fileSentOffset := 0
        fileTotalSize := 0
        sendingFile := false
        notified := c.notified + 1 }.push .callback).push .callback

def handleError : TcpConnection := c.handleClose

def shutdownInLoop : TcpConnection :=
  if !c.channel.writing then { c with shut := true }.handleClose
  else { c with shut := true }

def forceCloseInLoop : TcpConnection :=
  if c.state = .kConnected ∨ c.state = .kDisConnecting then c.handleClose else c

/-! ## Sending -/

/-- `writeBuffer_.append`. -/
def append (data : Bytes) : TcpConnection :=
  { c with
    writeBuffer := c.writeBuffer ++ data
    late := if c.state = .kDisConnected then c.late ++ data else c.late }

/-- `sendInLoop` behind the socket call; `data` is what was not sent. -/
def sendRest (data : Bytes) : TcpConnection :=
  let c := if data ≠ [] then
      let c := c.append data
      if !c.channel.writing then c.enableWriting else c
    else c
  if c.state = .kDisConnecting ∧ c.writeBuffer = [] then c.push (.task .shutdownInLoop) else c

def sendInLoop (a : Answer) (data : Bytes) : TcpConnection :=
  if c.state = .kDisConnected then c
  else
    let taken := { c with given := c.given ++ data }
    if !c.channel.writing && c.writeBuffer.isEmpty then
      match a.result with
      | .ok n =>
        let sent := { taken with written := c.written ++ data.take n }
        if data.length ≤ n then sent.push .callback else sent.sendRest (data.drop n)
      | .eagain => taken.sendRest data
      | .eintr => c.push (.task (.sendInLoop data))
      | .error => (taken.push (.sendRest data)).handleClose
    else taken.sendRest data

def sendFileInLoop (a : Answer) : TcpConnection :=
  if c.state = .kDisConnected then c
  else
    match a.opened with
    | none => c.forceCloseInLoop
    | some size =>
      { c with fileOpen := true, fileSentOffset := 0, fileTotalSize := size,
               sendingFile := true }.enableWriting

/-! ## Events -/

def handleRead (a : Answer) : TcpConnection :=
  match a.result with
  | .ok 0 => c.handleClose
  | .ok (_ + 1) => c.push .callback
  | _ => c.handleError

/-- `writeBuffer_.WriteFd` sent `n` bytes. -/
def writeFd (n : Nat) : TcpConnection :=
  { c with
    writeBuffer := c.writeBuffer.drop n
    written := c.written ++ c.writeBuffer.take n }

def handleWrite (a : Answer) : TcpConnection :=
  if !c.channel.writing then c
  else if c.writeBuffer ≠ [] then
    match a.result with
    | .ok (n + 1) =>
      let c := c.writeFd (n + 1)
      let c := if c.writeBuffer = [] ∧ !c.sendingFile then c.disableWriting else c
      (c.push .writeRest).push .callback
    | .eagain => c.push .writeRest
    | _ => (c.push .writeRest).handleError
  else c.push .writeRest

/-- The file is sent or given up. -/
def closeFile : TcpConnection :=
  { c with fileOpen := false, sendingFile := false }.disableWriting

def writeFile (a : Answer) : TcpConnection :=
  match a.result with
  | .ok (n + 1) =>
    let c := { c with fileSentOffset := c.fileSentOffset + min (n + 1) (64 * 1024) }
    if c.fileSentOffset ≥ c.fileTotalSize then c.closeFile.push .callback else c
  | .ok 0 | .eagain => c
  | _ => c.closeFile.handleError

def writeRest (a : Answer) : TcpConnection :=
  if c.writeBuffer ≠ [] then c
  else if c.sendingFile && c.fileOpen then c.writeFile a
  else if c.writeBuffer ≠ [] then
    match a.result with
    | .ok (n + 1) =>
      let c := c.writeFd (n + 1)
      let c := if c.writeBuffer = [] then c.disableWriting else c
      (c.push .writeLast).push .callback
    | .eagain => c
    | _ => c.handleError
  else c

def writeLast : TcpConnection :=
  if c.state = .kDisConnecting then c.push (.task .shutdownInLoop) else c

/-- `Channel::handleEvent`. -/
def handleEvent (r : Revents) : TcpConnection :=
  if r.err then c.handleError
  else if r.readable || r.rdhup || r.pri then (c.push (.handleRest r)).push .handleRead
  else c.push (.handleRest r)

def handleRest (r : Revents) : TcpConnection :=
  if r.hup && !r.readable then c.handleError
  else if r.writable then c.push .handleWrite
  else c

/-! ## Steps -/

/-- `runInLoop`, on the thread of the loop or on another one. -/
def runInLoop (inThread : Bool) (t : Task) : TcpConnection :=
  if inThread then c.push (.task t) else { c with tasks := c.tasks ++ [t] }

def call (inThread : Bool) : Call → TcpConnection
  | .send data => if c.state ≠ .kConnected then c else c.runInLoop inThread (.sendInLoop data)
  | .sendFile => if c.state ≠ .kConnected then c else c.runInLoop inThread .sendFileInLoop
  | .shutdown =>
    if c.state = .kConnected then
      { c with state := .kDisConnecting }.runInLoop inThread .shutdownInLoop
    else c
  | .forceClose =>
    if c.state = .kConnected ∨ c.state = .kDisConnecting then
      { c with state := .kDisConnecting }.runInLoop inThread .forceCloseInLoop
    else c

def runTask (a : Answer) : Task → TcpConnection
  | .sendInLoop data => c.sendInLoop a data
  | .sendFileInLoop => c.sendFileInLoop a
  | .shutdownInLoop => c.shutdownInLoop
  | .forceCloseInLoop => c.forceCloseInLoop
  | .connectDestroyed => c.connectDestroyed

def runFrame (a : Answer) : Frame → TcpConnection
  | .callback => { c with stack := a.calls.map .call ++ c.stack }
  | .call k => c.call true k
  | .task t => c.runTask a t
  | .retransmit data => c.sendInLoop a data
  | .handleEvent r => c.handleEvent r
  | .handleRest r => c.handleRest r
  | .handleRead => c.handleRead a
  | .handleWrite => c.handleWrite a
  | .writeRest => c.writeRest a
  | .writeLast => c.writeLast
  | .sendRest data => c.sendRest data

/-- The step from `c` to `d` closed the connection, and was not its shutdown. -/
def loses (f : Frame) (d : TcpConnection) : Bool :=
  c.state ≠ .kDisConnected && d.state = .kDisConnected && f ≠ .task .shutdownInLoop

def run (a : Answer) (f : Frame) (rest : List Frame) : TcpConnection :=
  let d := { c with stack := rest }.runFrame a f
  { d with lost := c.lost || c.loses f d }

end TcpConnection

inductive ConnectionStep where
  /-- `epoll_wait` returns with events of the channel. -/
  | poll (r : Revents)
  /-- The loop comes to the channel. -/
  | event
  /-- The loop comes to the next task of the connection. -/
  | task
  /-- Other code of the thread of the loop makes calls. -/
  | enter
  | retransmit (data : Bytes)
  | idle
  /-- A call on another thread. -/
  | elsewhere (k : Call)
  /-- The server drops the connection. -/
  | dropped
  /-- The running call goes on. -/
  | run (a : Answer)

namespace TcpConnection

def step (c : TcpConnection) : ConnectionStep → Option TcpConnection
  | .poll r =>
    if c.stack = [] ∧ c.registered then
      some { c with channel := { c.channel with revents := some r } }
    else none
  | .event =>
    match c.stack, c.channel.revents with
    | [], some r =>
      some ({ c with channel := { c.channel with revents := none } }.push (.handleEvent r))
    | _, _ => none
  | .task =>
    match c.stack, c.channel.revents, c.tasks with
    | [], none, t :: ts => some ({ c with tasks := ts }.push (.task t))
    | _, _, _ => none
  | .enter => if c.stack = [] then some (c.push .callback) else none
  | .retransmit data =>
    if c.stack = [] then some (c.push (.retransmit data)) else none
  | .idle => if c.stack = [] then some (c.push (.task .forceCloseInLoop)) else none
  | .elsewhere k => some (c.call false k)
  | .dropped => some { c with tasks := c.tasks ++ [.connectDestroyed] }
  | .run a =>
    match c.stack with
    | [] => none
    | f :: rest => some (c.run a f rest)

/-- A connection that was just made. -/
def established : TcpConnection := ({} : TcpConnection).connectEstablelished

def exec : TcpConnection → List ConnectionStep → Option TcpConnection := Run.exec step

end TcpConnection

end Loop
