import Mathlib.Logic.Function.Basic
import GameServer.Lib.Run
import GameServer.Gateway.Wire

/-!
# Rolling log files

The thread that writes the log keeps one file open. It asks for the size of a file when
it opens one, and then takes the file of the next number if there is no room; while a file
stays open its size is not looked at. A new date starts again at the file with no number.

`written` and `given` keep which file got what and what was to be written. They are
read by no function of the logger.
-/

namespace Log

open Gateway (Bytes)

/-- `logDir_` and `name_` do not change, so a file name is a date and a number; the file with
number zero has none in its name. -/
structure FileName where
  today : String
  sequence : Nat
  deriving DecidableEq, Repr

structure Entry where
  file : FileName
  data : Bytes
  deriving DecidableEq, Repr

/-- A call of `write`, with what the system answers: the date, unless `localtime_r` fails, and
whether the files can be opened. -/
structure Call where
  today : Option String
  opens : Bool := true
  reopens : Bool := true
  data : Bytes
  deriving DecidableEq, Repr

/-- The logger and the files. `file` is the one that is open. -/
structure AsyncLogger where
  file : Option FileName := none
  lastData : Option String := none
  currentFileName : Option FileName := none
  sequence : Nat := 0
  hasWritenBytes : Nat := 0
  files : FileName → Bytes
  written : List Entry := []
  given : List Bytes := []

namespace AsyncLogger

variable (rollSize : Nat) (s : AsyncLogger)

def makeFileName (data : String) : FileName := ⟨data, s.sequence⟩

/-- `file_.write`, to the file that is open. -/
def put (data : Bytes) : AsyncLogger :=
  match s.file with
  | none => s
  | some f =>
    { s with
      files := Function.update s.files f (s.files f ++ data)
      written := s.written ++ [⟨f, data⟩]
      hasWritenBytes := s.hasWritenBytes + data.length }

/-- What a new date does first. -/
def newDay (today : String) : AsyncLogger :=
  if s.lastData ≠ some today then
    { s with file := none, sequence := 0, hasWritenBytes := 0, lastData := some today }
  else s

def write (c : Call) : AsyncLogger :=
  let s := { s with given := s.given ++ [c.data] }
  match c.today with
  | none => s
  | some today =>
    let s := s.newDay today
    let fileName := s.makeFileName today
    if s.file = none ∨ s.currentFileName ≠ some fileName then
      if c.opens then
        let s :=
          { s with
            file := some fileName
            currentFileName := some fileName
            hasWritenBytes := (s.files fileName).length }
        if s.hasWritenBytes + c.data.length > rollSize ∧ s.hasWritenBytes > 0 then
          let s := { s with sequence := s.sequence + 1 }
          let fileName := s.makeFileName today
          if c.reopens then
            { s with
              file := some fileName
              currentFileName := some fileName
              hasWritenBytes := 0 }.put c.data
          else { s with file := none }
        else s.put c.data
      else { s with file := none }
    else s.put c.data

end AsyncLogger

def AsyncLogger.step (rollSize : Nat) (s : AsyncLogger) (c : Call) : Option AsyncLogger :=
  some (s.write rollSize c)

end Log
