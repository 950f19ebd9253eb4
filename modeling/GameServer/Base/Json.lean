import GameServer.Lib.JsonGrammar

/-!
# The JSON parser

`JsonNode::Parse` descends over the text with a pointer. The cursor here holds the offset of the
pointer and what is left of the text from there on; the pointer can stand one behind the end. The
conversion of a number token is a parameter. The recursion of the parser is counted down by a
fuel, which the length of the text always suffices for.
-/

namespace Base

namespace Json

open JsonGrammar

abbrev JsonNode := JsonGrammar.JsonTree

structure Cursor where
  p : Nat
  rest : Bytes

inductive Err where
  | fuel
  | fail (msg : String)

namespace Cursor

/-- `++p`. -/
def next (c : Cursor) : Cursor := ⟨c.p + 1, c.rest.tail⟩

def SkipWs : Nat → Bytes → Cursor
  | p, [] => ⟨p, []⟩
  | p, ch :: s => if isWs ch then SkipWs (p + 1) s else ⟨p, ch :: s⟩

def skipWs (c : Cursor) : Cursor := SkipWs c.p c.rest

/-- `Eat`, with the cursor behind it. -/
def eat (ch : UInt8) (c : Cursor) : Bool × Cursor :=
  let c := c.skipWs
  match c.rest with
  | [] => (false, c)
  | x :: _ => if x = ch then (true, c.next) else (false, c)

end Cursor

variable {α ν : Type}

def fail (msg : String) (p : Nat) : Except Err α :=
  .error (.fail (msg ++ " at offset " ++ toString p))

/-! ## Strings -/

def isHexDigit (c : UInt8) : Bool :=
  (48 ≤ c && c ≤ 57) || (97 ≤ c && c ≤ 102) || (65 ≤ c && c ≤ 70)

def hexValue (c : UInt8) : Nat :=
  if c ≤ 57 then c.toNat - 48 else if c ≤ 70 then c.toNat - 55 else c.toNat - 87

def isSpace (c : UInt8) : Bool := c = 32 || (9 ≤ c && c ≤ 13)

/-- `strtol` with base 16. -/
def strtol16 (s : Bytes) : Int :=
  let s := s.dropWhile isSpace
  let negative : Bool := s.head? = some 45
  let s := if s.head? = some 45 ∨ s.head? = some 43 then s.tail else s
  let s := match s with
    | 48 :: x :: d :: r => if (x = 120 ∨ x = 88) ∧ isHexDigit d then d :: r else s
    | _ => s
  let n : Int := (s.takeWhile isHexDigit).foldl (fun n c => 16 * n + hexValue c) 0
  if negative then -n else n

/-- The conversion of a `long` to a `char`. -/
def toChar (n : Int) : UInt8 := .ofNat (n % 256).toNat

/-- The character after a backslash, other than `u`. -/
def unescape (e : UInt8) : UInt8 :=
  if e = 110 then 10
  else if e = 116 then 9
  else if e = 114 then 13
  else if e = 98 then 8
  else if e = 102 then 12
  else e

/-- The loop of `ParseStr`. -/
def strBody : Nat → Bytes → Bytes → Except Err (Bytes × Cursor)
  | p, _, [] => fail "unterminated string" p
  | p, s, c :: rest =>
    if c = 34 then .ok (s, ⟨p + 1, rest⟩)
    else if c = 92 then
      match rest with
      | [] => fail "unterminated string" (p + 1)
      | e :: rest =>
        if e = 117 then
          match rest with
          | h₀ :: h₁ :: h₂ :: h₃ :: rest =>
            strBody (p + 6) (s ++ [toChar (strtol16 [h₀, h₁, h₂, h₃])]) rest
          | rest => strBody (p + 2) s rest
        else strBody (p + 2) (s ++ [unescape e]) rest
    else strBody (p + 1) (s ++ [c]) rest

def parseStr (c : Cursor) : Except Err (Bytes × Cursor) :=
  let c := c.next
  strBody c.p [] c.rest

/-! ## Literals and numbers -/

def parseBool (c : Cursor) : Except Err (JsonNode ν × Cursor) :=
  if [116, 114, 117, 101].isPrefixOf c.rest then .ok (.bool true, ⟨c.p + 4, c.rest.drop 4⟩)
  else if [102, 97, 108, 115, 101].isPrefixOf c.rest then
    .ok (.bool false, ⟨c.p + 5, c.rest.drop 5⟩)
  else fail "bad literal" c.p

def parseNull (c : Cursor) : Except Err (JsonNode ν × Cursor) :=
  if [110, 117, 108, 108].isPrefixOf c.rest then .ok (.null, ⟨c.p + 4, c.rest.drop 4⟩)
  else fail "bad literal" c.p

def isDigit (c : UInt8) : Bool := 48 ≤ c && c ≤ 57

def isNumChar (c : UInt8) : Bool :=
  isDigit c || c = 45 || c = 43 || c = 46 || c = 101 || c = 69

variable (strtod : Bytes → ν)

def parseNum (c : Cursor) : Except Err (JsonNode ν × Cursor) :=
  let tok := c.rest.takeWhile isNumChar
  if tok = [] then fail "bad number" c.p
  else .ok (.num (strtod tok), ⟨c.p + tok.length, c.rest.drop tok.length⟩)

/-! ## Arrays, objects and values -/

mutual

/-- `Parse`, with `ParseArr` and `ParseObj` up to their loops. -/
def parse : Nat → Cursor → Except Err (JsonNode ν × Cursor)
  | 0, _ => .error .fuel
  | n + 1, c =>
    let c := c.skipWs
    match c.rest with
    | [] => fail "empty input" c.p
    | ch :: _ =>
      if ch = 123 then
        let (closed, c) := c.next.eat 125
        if closed then .ok (.obj [], c) else parseObj n c []
      else if ch = 91 then
        let (closed, c) := c.next.eat 93
        if closed then .ok (.arr [], c) else parseArr n c []
      else if ch = 34 then do
        let (s, c) ← parseStr c
        return (.str s, c)
      else if ch = 116 ∨ ch = 102 then parseBool c
      else if ch = 110 then parseNull c
      else parseNum strtod c

/-- The loop of `ParseObj`. -/
def parseObj : Nat → Cursor → List (Bytes × JsonNode ν) → Except Err (JsonNode ν × Cursor)
  | 0, _, _ => .error .fuel
  | n + 1, c, obj => do
    let (key, c) ← parseStr c
    let (colon, c) := c.eat 58
    if !colon then fail "expect ':'" c.p
    else
      let (val, c) ← parse n c
      let obj := obj ++ [(key, val)]
      let (closed, c) := c.eat 125
      if closed then return (.obj obj, c)
      else
        let (comma, c) := c.eat 44
        if !comma then fail "expect ',' or '\x7d'" c.p
        else parseObj n c obj

/-- The loop of `ParseArr`. -/
def parseArr : Nat → Cursor → List (JsonNode ν) → Except Err (JsonNode ν × Cursor)
  | 0, _, _ => .error .fuel
  | n + 1, c, arr => do
    let (val, c) ← parse n c
    let arr := arr ++ [val]
    let (closed, c) := c.eat 93
    if closed then return (.arr arr, c)
    else
      let (comma, c) := c.eat 44
      if !comma then fail "expect ',' or ']'" c.p
      else parseArr n c arr

end

/-- `JsonNode::Parse`. -/
def Parse (text : Bytes) : Except Err (JsonNode ν) := do
  let (out, c) ← parse strtod (2 * text.length + 1) ⟨0, text⟩
  if c.skipWs.rest = [] then return out else .error (.fail "trailing data")

end Json

end Base
