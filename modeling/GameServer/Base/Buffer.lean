import Mathlib.Logic.Function.Basic
import GameServer.Lib.Window
import GameServer.Net.Proto

/-!
# The byte buffer

Bytes are read at the front and written at the end of a vector, with spare room in front
for a header. Indexes and lengths are `size_t` and wrap. An access past the storage, an
assertion that fails and a request that no vector can hold end a call.
-/

namespace Base

open Gateway (Bytes)
open Net (putBE getBE)
open Window (window put)

inductive Fault where
  | assertion | outOfBounds | lengthError
  deriving DecidableEq, Repr

/-- `max_size()` of a vector of bytes. -/
def maxSize : Nat := 2 ^ 63 - 1

/-- The bytes of an object in memory. -/
abbrev Data := { s : Bytes // s.length ≤ maxSize }

def Data.size (src : Data) : UInt64 := .ofNat src.val.length

structure Buffer where
  writeIndex : UInt64
  readIndex : UInt64
  buff : Bytes
  deriving DecidableEq, Repr

/-- What a call gives back; bytes that went to a `dst` are given back too. -/
inductive Out where
  | unit
  | returned (len : Int)
  | copied (dst : Bytes) (len : Int)
  | string (s : Bytes)
  | number (n : Nat)
  deriving DecidableEq, Repr

/-- `static_cast<int>` of a size. -/
def toInt (len : Nat) : Int := (BitVec.ofNat 32 len).toInt

def assert (p : Prop) [Decidable p] : Except Fault Unit :=
  if p then .ok () else .error .assertion

/-- `std::copy` out of the storage. -/
def load (buff : Bytes) (i j : UInt64) : Except Fault Bytes :=
  if i = j then .ok []
  else if i ≤ j ∧ j.toNat ≤ buff.length then .ok (window buff i.toNat j.toNat)
  else .error .outOfBounds

/-- `std::copy` into the storage. -/
def store (buff : Bytes) (i : UInt64) (src : Bytes) : Except Fault Bytes :=
  if src = [] then .ok buff
  else if i.toNat + src.length ≤ buff.length then .ok (put buff i.toNat src)
  else .error .outOfBounds

/-- `std::vector::resize`. -/
def resize (buff : Bytes) (n : UInt64) : Except Fault Bytes :=
  if n.toNat ≤ maxSize then
    .ok (buff.take n.toNat ++ List.replicate (n.toNat - buff.length) 0)
  else .error .lengthError

namespace Buffer

def kCheapPrepend : UInt64 := 32

/-- `Buffer(int InitSize)`. The sum of a `size_t` and an `int` is a `size_t`. -/
def new (InitSize : Int) : Except Fault Buffer := do
  let buff ← resize [] kCheapPrepend
  if (kCheapPrepend + UInt64.ofInt InitSize).toNat ≤ maxSize then
    return { writeIndex := kCheapPrepend, readIndex := kCheapPrepend, buff }
  else .error .lengthError

/-- `other` after its storage was moved out of it. -/
def movedFrom : Buffer where
  writeIndex := kCheapPrepend
  readIndex := kCheapPrepend
  buff := []

section Calls

variable (b : Buffer)

def readableBytes : UInt64 := b.writeIndex - b.readIndex

def writeableBytes : UInt64 := .ofNat b.buff.length - b.writeIndex

def prependBytes : UInt64 := b.readIndex

def retrieveAll : Buffer :=
  { b with writeIndex := kCheapPrepend, readIndex := kCheapPrepend }

def retrieve (len : UInt64) : Except Fault Buffer := do
  assert (len ≤ b.readableBytes)
  if len < b.readableBytes then return { b with readIndex := b.readIndex + len }
  else return b.retrieveAll

/-- The length that `read` and `readAsString` take of what they are asked for. -/
def clamp (len : UInt64) : UInt64 := if len > b.readableBytes then b.readableBytes else len

def read (len : UInt64) : Except Fault (Buffer × Out) := do
  let len := b.clamp len
  let dst ← load b.buff b.readIndex (b.readIndex + len)
  let b ← b.retrieve len
  return (b, .copied dst (toInt len.toNat))

def readAsString (len : UInt64) : Except Fault (Buffer × Out) := do
  let len := b.clamp len
  let result ← load b.buff b.readIndex (b.readIndex + len)
  let b ← b.retrieve len
  return (b, .string result)

def readAllAsString : Except Fault (Buffer × Out) := b.readAsString b.readableBytes

/-- `readUint64` and its siblings, by the size of the number. -/
def readUint (size : UInt64) : Except Fault (Buffer × Out) := do
  assert (b.readableBytes ≥ size)
  let netVal ← load b.buff b.readIndex (b.readIndex + size)
  let b ← b.retrieve size
  return (b, .number (getBE netVal))

def readUint64 : Except Fault (Buffer × Out) := b.readUint 8

def readUint32 : Except Fault (Buffer × Out) := b.readUint 4

def readUint16 : Except Fault (Buffer × Out) := b.readUint 2

def readUint8 : Except Fault (Buffer × Out) := b.readUint 1

/-- The storage grows, or what is readable slides to the front. -/
def ensureWriteable (len : UInt64) : Except Fault Buffer := do
  let b ←
    if len > b.writeableBytes then
      if b.writeableBytes + b.prependBytes < len + kCheapPrepend then do
        let buff ← resize b.buff (b.writeIndex + len)
        pure { b with buff }
      else do
        let readable ← load b.buff b.readIndex b.writeIndex
        let buff ← store b.buff kCheapPrepend readable
        pure
          { buff
            readIndex := kCheapPrepend
            writeIndex := kCheapPrepend + b.readableBytes }
    else pure b
  assert (b.writeableBytes ≥ len)
  return b

def append (src : Data) : Except Fault Buffer := do
  let b ← b.ensureWriteable src.size
  let buff ← store b.buff b.writeIndex src
  return { b with buff, writeIndex := b.writeIndex + src.size }

def write (src : Data) : Except Fault (Buffer × Out) := do
  let b ← b.append src
  return (b, .returned (toInt src.size.toNat))

def ensurePrepend (len : UInt64) : Except Fault Buffer := do
  if b.prependBytes ≥ len then return b
  let readable := b.readableBytes
  let keep := if len > kCheapPrepend then len else kCheapPrepend
  let moved ← resize [] (keep + readable)
  let moved ← (if readable > 0 then load b.buff b.readIndex b.writeIndex >>= store moved keep
    else pure moved)
  return { buff := moved, readIndex := keep, writeIndex := keep + readable }

def prepend (data : Data) : Except Fault Buffer := do
  let b ← b.ensurePrepend data.size
  let readIndex := b.readIndex - data.size
  let buff ← store b.buff readIndex data
  return { b with buff, readIndex }

/-- `prependInt64` and its siblings, by the size of the number. -/
def prependInt (size : Nat) (hsize : size ≤ maxSize) (x : Nat) : Except Fault Buffer :=
  b.prepend ⟨putBE size x, by rw [Net.length_putBE]; exact hsize⟩

def prependInt64 (x : UInt64) : Except Fault Buffer := b.prependInt 8 (by decide) x.toNat

def prependInt32 (x : UInt32) : Except Fault Buffer := b.prependInt 4 (by decide) x.toNat

def prependInt16 (x : UInt16) : Except Fault Buffer := b.prependInt 2 (by decide) x.toNat

def prependInt8 (x : UInt8) : Except Fault Buffer := b.prependInt 1 (by decide) x.toNat

end Calls

end Buffer

/-- The calls on one buffer. -/
inductive Op where
  | append (src : Data)
  | write (src : Data)
  | prepend (data : Data)
  | prependInt64 (x : UInt64)
  | prependInt32 (x : UInt32)
  | prependInt16 (x : UInt16)
  | prependInt8 (x : UInt8)
  | read (len : UInt64)
  | readAsString (len : UInt64)
  | readAllAsString
  | readUint64
  | readUint32
  | readUint16
  | readUint8
  | retrieve (len : UInt64)
  | retrieveAll

def Buffer.call (b : Buffer) : Op → Except Fault (Buffer × Out)
  | .append src => return (← b.append src, .unit)
  | .write src => b.write src
  | .prepend data => return (← b.prepend data, .unit)
  | .prependInt64 x => return (← b.prependInt64 x, .unit)
  | .prependInt32 x => return (← b.prependInt32 x, .unit)
  | .prependInt16 x => return (← b.prependInt16 x, .unit)
  | .prependInt8 x => return (← b.prependInt8 x, .unit)
  | .read len => b.read len
  | .readAsString len => b.readAsString len
  | .readAllAsString => b.readAllAsString
  | .readUint64 => b.readUint64
  | .readUint32 => b.readUint32
  | .readUint16 => b.readUint16
  | .readUint8 => b.readUint8
  | .retrieve len => return (← b.retrieve len, .unit)
  | .retrieveAll => return (b.retrieveAll, .unit)

/-- What a program does with its buffers, each under a name of its own. -/
inductive Label where
  | new (name : Nat) (InitSize : Int)
  | moveNew (name other : Nat)
  | moveAssign (name other : Nat)
  | call (name : Nat) (op : Op)

/-- What a program sees of buffers. -/
structure Interface (β : Type) where
  new : Int → Option β
  call : β → Op → Option (β × Out)
  movedFrom : β

def Buffer.interface : Interface Buffer where
  new InitSize := (Buffer.new InitSize).toOption
  call b op := (b.call op).toOption
  movedFrom := Buffer.movedFrom

/-- The buffers of a program, and what its calls gave back. -/
structure Heap (β : Type) where
  buffers : Nat → Option β := fun _ => none
  outs : List Out := []

namespace Heap

variable {β : Type}

def set (h : Heap β) (name : Nat) (b : β) : Heap β :=
  { h with buffers := Function.update h.buffers name (some b) }

/-- `none` where the program has no such buffer, or the call does not come back. -/
def step (I : Interface β) (h : Heap β) : Label → Option (Heap β)
  | .new name InitSize =>
    match h.buffers name with
    | none => (I.new InitSize).map (h.set name)
    | some _ => none
  | .moveNew name other =>
    match h.buffers name, h.buffers other with
    | none, some b => some ((h.set name b).set other I.movedFrom)
    | _, _ => none
  | .moveAssign name other =>
    match h.buffers name, h.buffers other with
    | some _, some b =>
      if name = other then some h else some ((h.set name b).set other I.movedFrom)
    | _, _ => none
  | .call name op =>
    match h.buffers name with
    | some b => (I.call b op).map fun done =>
        { h.set name done.1 with outs := h.outs ++ [done.2] }
    | none => none

end Heap

end Base
