import GameServer.Base.Yaml

/-!
# The documented subset

A document is a mapping of sections, values and lists, with all that is free in its layout: the
indentation of every section and list, the blank lines and comments between the lines and behind
them, the quotes around the values. Its rows are the values and lists with their paths.

Beside it stand the texts with a construct that is documented as unsupported.
-/

namespace Base

namespace Yaml

open Gateway (Bytes text)

def spaces (n : Nat) : Bytes := List.replicate n 32

/-- There is something, and no whitespace at its ends. -/
structure Trimmed (s : Bytes) : Prop where
  ne : s ≠ []
  first : ∀ c ∈ s.head?, isspace c = false
  last : ∀ c ∈ s.getLast?, isspace c = false

/-- What may stand behind the content of a line, or alone on it. -/
structure Trail where
  gap : Nat := 0
  comment : Option Bytes := none
  cr : Bool := false
  line : ∀ c ∈ comment, (10 : UInt8) ∉ c := by simp

def Trail.text (t : Trail) : Bytes :=
  spaces t.gap ++ (t.comment.elim [] (35 :: ·) ++ if t.cr then [13] else [])

/-- A name of a section, a value or a list. -/
structure KeyName (k : Bytes) : Prop where
  trimmed : Trimmed k
  plain : ∀ c ∈ k, c ≠ 10 ∧ c ≠ 34 ∧ c ≠ 35 ∧ c ≠ 39 ∧ c ≠ 58
  first : ∀ c ∈ k.head?, c ≠ 45 ∧ c ≠ 91 ∧ c ≠ 123

abbrev Key := { k : Bytes // KeyName k }

inductive Style where
  | plain
  | single
  | double
  deriving DecidableEq, Repr

/-- What may be written without quotes: no comment, and no beginning of something else. -/
structure PlainText (v : Bytes) : Prop where
  trimmed : Trimmed v
  line : 10 ∉ v
  noComment : 35 ∉ v
  first : ∀ c ∈ v.head?, c ≠ 34 ∧ c ≠ 39 ∧ c ≠ 91 ∧ c ≠ 123
  noItem : v ≠ [45] ∧ ¬ [45, 32] <+: v

/-- What can be written in a style. -/
def Style.Writes : Style → Bytes → Prop
  | .plain, v => PlainText v
  | .single, v => 10 ∉ v ∧ 39 ∉ v
  | .double, v => 10 ∉ v ∧ 34 ∉ v

def Style.write : Style → Bytes → Bytes
  | .plain, v => v
  | .single, v => 39 :: (v ++ [39])
  | .double, v => 34 :: (v ++ [34])

/-- A value as it is written, from the colon or the dash to the end of the line. -/
structure Scalar where
  value : Bytes
  style : Style
  gap : Nat
  trail : Trail
  written : style.Writes value

def Scalar.text (s : Scalar) : Bytes := spaces s.gap ++ (s.style.write s.value ++ s.trail.text)

/-- The lines of a mapping, one below the other. A section and a list have their own indentation,
deeper than that of their key by `step + 1`. -/
inductive Block where
  | done (blanks : List Trail)
  | value (blanks : List Trail) (key : Key) (s : Scalar) (rest : Block)
  | items (blanks : List Trail) (key : Key) (trail : Trail) (step : Nat)
      (first : List Trail × Scalar) (more : List (List Trail × Scalar)) (rest : Block)
  | nested (blanks : List Trail) (key : Key) (trail : Trail) (step : Nat) (body rest : Block)

namespace Block

def itemLines (indent : Nat) (item : List Trail × Scalar) : List Bytes :=
  item.1.map Trail.text ++ [spaces indent ++ 45 :: item.2.text]

def lines (indent : Nat) : Block → List Bytes
  | done blanks => blanks.map Trail.text
  | value blanks key s rest =>
    blanks.map Trail.text ++ (spaces indent ++ (key.1 ++ 58 :: s.text)) :: rest.lines indent
  | items blanks key trail step first more rest =>
    blanks.map Trail.text ++ (spaces indent ++ (key.1 ++ 58 :: trail.text)) ::
      ((first :: more).flatMap (itemLines (indent + step + 1)) ++ rest.lines indent)
  | nested blanks key trail step body rest =>
    blanks.map Trail.text ++ (spaces indent ++ (key.1 ++ 58 :: trail.text)) ::
      (body.lines (indent + step + 1) ++ rest.lines indent)

/-- The values with their paths. -/
def values (path : Bytes) : Block → List (Bytes × Scalar)
  | done _ => []
  | value _ key s rest => (joinPath path key.1, s) :: rest.values path
  | items _ _ _ _ _ _ rest => rest.values path
  | nested _ key _ _ body rest => body.values (joinPath path key.1) ++ rest.values path

/-- The lists with their paths. -/
def lists (path : Bytes) : Block → List (Bytes × List Scalar)
  | done _ => []
  | value _ _ _ rest => rest.lists path
  | items _ key _ _ first more rest =>
    (joinPath path key.1, (first :: more).map (·.2)) :: rest.lists path
  | nested _ key _ _ body rest => body.lists (joinPath path key.1) ++ rest.lists path

/-- Nothing is in it but names of sections. -/
def bare : Block → Bool
  | done _ => true
  | value .. | items .. => false
  | nested _ _ _ _ body rest => body.bare && rest.bare

/-- The names of the lists, and of the sections that have something in them, stand behind fewer
than `2 ^ 31` spaces; what would be in any other section, behind fewer than `2 ^ 32`. -/
def Narrow (indent : Nat) : Block → Prop
  | done _ => True
  | value _ _ _ rest => rest.Narrow indent
  | items _ _ _ _ _ _ rest => indent < 2 ^ 31 ∧ rest.Narrow indent
  | nested _ _ _ step body rest =>
    (indent < 2 ^ 31 ∨ body.bare ∧ indent + step + 1 < 2 ^ 32) ∧
      body.Narrow (indent + step + 1) ∧ rest.Narrow indent

/-- What is in a section or a list stands behind fewer than `2 ^ 32` spaces. -/
def Within (indent : Nat) : Block → Prop
  | done _ => True
  | value _ _ _ rest => rest.Within indent
  | items _ _ _ step _ _ rest => indent + step + 1 < 2 ^ 32 ∧ rest.Within indent
  | nested _ _ _ step body rest =>
    indent + step + 1 < 2 ^ 32 ∧ body.Within (indent + step + 1) ∧ rest.Within indent

end Block

/-- A mapping that can be flattened: no two values, and no two lists, have one path. -/
structure Document where
  indent : Nat := 0
  block : Block
  values_nodup : ((block.values []).map (·.1)).Nodup
  lists_nodup : ((block.lists []).map (·.1)).Nodup

namespace Document

variable (d : Document)

def text : Bytes := [10].intercalate (d.block.lines d.indent)

/-- The tables are the flattened mapping. -/
structure Flattened (y : YamlLite) : Prop where
  values : ∀ k v, y.values.lookup k = some v ↔ ∃ s, (k, s) ∈ d.block.values [] ∧ s.value = v
  lists : ∀ k vs, y.lists.lookup k = some vs ↔
    ∃ ss, (k, ss) ∈ d.block.lists [] ∧ ss.map Scalar.value = vs

/-- All values of the document, those of the lists too. -/
def scalars : List Scalar :=
  (d.block.values []).map (·.2) ++ (d.block.lists []).flatMap (·.2)

end Document

/-! ## What is not supported -/

/-- A tab in the indentation. -/
def TabIndented (l : Bytes) : Prop := ∃ n s, l = spaces n ++ 9 :: s

/-- An item that is itself an item, or that leaves its place to the lines below. -/
def NestedItem (l : Bytes) : Prop :=
  (∃ n m s, l = spaces n ++ 45 :: (spaces (m + 1) ++ 45 :: s) ∧ (s = [] ∨ s.head? = some 32)) ∨
    ∃ n m, l = spaces n ++ 45 :: spaces m

/-- A map or a list on one line: as a line, as an item, or as a value. -/
def Inline (l : Bytes) : Prop :=
  ∃ n m s, ∃ c : UInt8, (c = 91 ∨ c = 123) ∧
    (l = spaces n ++ c :: s ∨ l = spaces n ++ 45 :: (spaces (m + 1) ++ c :: s) ∨
      ∃ k : Key, l = spaces n ++ (k.1 ++ 58 :: (spaces (m + 1) ++ c :: s)))

def Unsupported (s : Bytes) : Prop :=
  ∃ l ∈ s.splitOn 10, TabIndented l ∨ NestedItem l ∨ Inline l

/-! ## What is asked of the reader -/

/-- A document of the subset, or a text outside of it. -/
inductive Input where
  | document (d : Document)
  | unsupported (s : { s : Bytes // Unsupported s })

/-- A document is read as its mapping, and another text is rejected. -/
def Meets : Input → Prop
  | .document d => ∃ y, parse d.text = .ok y ∧ d.Flattened y
  | .unsupported s => ∃ err, parse s.1 = .error err

/-- The comment behind a value without quotes can be seen: the quote characters in the value do
not hide it. -/
def Scalar.Clear (s : Scalar) : Prop :=
  s.style = .plain → s.trail.comment ≠ none → (Quotes.after {} s.value).opened = false

/-- A line that the reader does not take: with a tab, with an item that is empty, without a colon,
or without a key. -/
def Refused (l : Bytes) : Prop :=
  9 ∈ l ∨
    (stripCommentAndTrim l).head? = some 45 ∧
      stripCommentAndTrim (stripCommentAndTrim l).tail = [] ∨
    (stripCommentAndTrim l ≠ [] ∧ (stripCommentAndTrim l).head? ≠ some 45) ∧
      (58 ∉ stripCommentAndTrim l ∨
        stripCommentAndTrim ((stripCommentAndTrim l).takeWhile (· ≠ 58)) = [])

def Holds : Input → Prop
  | .document d => 9 ∉ d.text ∧ (∀ s ∈ d.scalars, s.Clear) ∧ d.block.Narrow d.indent
  | .unsupported s => ∃ l ∈ s.1.splitOn 10, Refused l

/-- No line in a section or a list of a document begins with `2 ^ 32` spaces. -/
def Input.Within : Input → Prop
  | .document d => d.block.Within d.indent
  | .unsupported _ => True

end Yaml

end Base
