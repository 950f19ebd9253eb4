import Mathlib.Data.List.DropRight
import GameServer.Lib.Table
import GameServer.Gateway.Wire

/-!
# The reader of configuration files

`YamlLite` reads a file line by line. Of a line it takes off the comment and the whitespace at the
ends; the indentation says which of the open sections the line belongs to. The results are two
flat tables, of values and of lists.

Of the stack of sections the first frame is left out: it is never taken off, and its path is
empty.
-/

namespace Base

namespace Yaml

open Gateway (Bytes text)

/-- `std::isspace` of the C locale. -/
def isspace (c : UInt8) : Bool := c = 32 ∨ (9 ≤ c ∧ c ≤ 13)

/-! ## Comments and quotes -/

/-- The kind of quotes that the scan of a line is in. -/
structure Quotes where
  inSingle : Bool := false
  inDouble : Bool := false
  deriving DecidableEq, Repr

namespace Quotes

def opened (q : Quotes) : Bool := q.inSingle || q.inDouble

def next (q : Quotes) (c : UInt8) : Quotes :=
  if c = 39 ∧ !q.inDouble then { q with inSingle := !q.inSingle }
  else if c = 34 ∧ !q.inSingle then { q with inDouble := !q.inDouble }
  else q

/-- After a piece of a line. -/
def after (q : Quotes) (s : Bytes) : Quotes := s.foldl next q

end Quotes

/-- What stands before the first `#` outside of quotes. -/
def cutComment (q : Quotes) : Bytes → Bytes
  | [] => []
  | c :: s => if c = 35 ∧ !q.opened then [] else c :: cutComment (q.next c) s

def trim (s : Bytes) : Bytes := (s.dropWhile isspace).rdropWhile isspace

def stripCommentAndTrim (line : Bytes) : Bytes := trim (cutComment {} line)

def unquote (v : Bytes) : Bytes :=
  if 2 ≤ v.length ∧ ((v.head? = some 34 ∧ v.getLast? = some 34) ∨
      (v.head? = some 39 ∧ v.getLast? = some 39)) then v.tail.dropLast
  else v

/-! ## Lines -/

/-- An open section. Its indentation is kept as an `int`. -/
structure Frame where
  indent : Int32
  path : Bytes
  deriving DecidableEq, Repr

/-- `static_cast<size_t>` of an `int`. -/
def toSize (i : Int32) : Nat := (i.toInt % 2 ^ 64).toNat

structure YamlLite where
  values : Table Bytes Bytes := ∅
  lists : Table Bytes (List Bytes) := ∅

/-- The tables with the stack. -/
structure Reader where
  yaml : YamlLite := {}
  stack : List Frame := []

def parentPath (stack : List Frame) : Bytes := (stack.head?.map (·.path)).getD []

def joinPath (parent key : Bytes) : Bytes := if parent.isEmpty then key else parent ++ 46 :: key

def YamlLite.set (y : YamlLite) (key value : Bytes) : YamlLite :=
  { y with values := y.values.insert key value }

def YamlLite.push (y : YamlLite) (key item : Bytes) : YamlLite :=
  { y with lists := y.lists.insert key ((y.lists.lookup key).getD [] ++ [item]) }

def lineError (lineNo : Nat) (message : Bytes) : Bytes :=
  text ("line " ++ toString lineNo ++ ": ") ++ message

/-- A line that has something on it, with the frames that it belongs to. -/
def parseContent (lineNo indent : Nat) (content : Bytes) (stack : List Frame) (y : YamlLite) :
    Except Bytes Reader :=
  let parent := parentPath stack
  if content.head? = some 45 then
    let item := stripCommentAndTrim content.tail
    if item.isEmpty then .error (lineError lineNo (text "empty list item"))
    else .ok { stack, yaml := y.push parent (unquote item) }
  else
    match content.span (· ≠ 58) with
    | (_, []) => .error (lineError lineNo (text "missing ':' (" ++ content ++ text ")"))
    | (before, _ :: behind) =>
      let key := stripCommentAndTrim before
      if key.isEmpty then .error (lineError lineNo (text "empty key"))
      else
        let fullKey := joinPath parent key
        let value := stripCommentAndTrim behind
        if value.isEmpty then .ok { stack := ⟨.ofNat indent, fullKey⟩ :: stack, yaml := y }
        else .ok { stack, yaml := y.set fullKey (unquote value) }

/-- The carriage return at the end of a line. -/
def popCr (raw : Bytes) : Bytes := if raw.getLast? = some 13 then raw.dropLast else raw

def indentOf (line : Bytes) : Nat := (line.takeWhile (· = 32)).length

def parseLine (lineNo : Nat) (raw : Bytes) (r : Reader) : Except Bytes Reader :=
  let line := popCr raw
  if 9 ∈ line then .error (lineError lineNo (text "tab is not allowed for indentation"))
  else
    let content := stripCommentAndTrim line
    if content.isEmpty then .ok r
    else
      let indent := indentOf line
      parseContent lineNo indent content (r.stack.dropWhile fun f => indent ≤ toSize f.indent) r.yaml

/-- The loop over the lines; `lineNo` lines have been read. In the source it is an `int`, and nothing
but the texts of the errors depends on it. -/
def parseLines : Nat → List Bytes → Reader → Except Bytes Reader
  | _, [], r => .ok r
  | lineNo, l :: ls, r =>
    match parseLine (lineNo + 1) l r with
    | .error err => .error err
    | .ok r => parseLines (lineNo + 1) ls r

/-- `Parse`, with the error or the tables. -/
def parse (s : Bytes) : Except Bytes YamlLite :=
  (parseLines 0 (s.splitOn 10) {}).map (·.yaml)

end Yaml

end Base
