/-!
# Grammars of JSON texts

The productions for arrays and objects, with whitespace between the tokens, over the tokens of
a dialect: what it takes for the rest of a string, for a key, and for a number. A derivation says
which form a text starts with and what of the text is left behind it.
-/

namespace JsonGrammar

abbrev Bytes := List UInt8

/-- JSON values, with numbers of some type. -/
inductive JsonTree (ν : Type) where
  | null
  | bool (b : Bool)
  | num (x : ν)
  | str (s : Bytes)
  | arr (elements : List (JsonTree ν))
  | obj (members : List (Bytes × JsonTree ν))

def isWs (c : UInt8) : Bool := c = 32 || c = 9 || c = 13 || c = 10

/-- A character with whitespace before it. -/
inductive Mark (c : UInt8) : Bytes → Bytes → Prop where
  | here (r : Bytes) : Mark c (c :: r) r
  | blank {w : UInt8} {s r : Bytes} (hw : isWs w = true) (h : Mark c s r) : Mark c (w :: s) r

/-- The tokens of a dialect: a string behind its opening quote, a key behind the opening brace or
behind a comma, and a number, each with what it reads as and what is left. -/
structure Dialect (ν : Type) where
  string : Bytes → Bytes → Bytes → Prop
  key (first : Bool) : Bytes → Bytes → Bytes → Prop
  number : Bytes → ν → Bytes → Prop

inductive Form (ν : Type) where
  | value (t : JsonTree ν)
  | elements (ts : List (JsonTree ν))
  | members (first : Bool) (kvs : List (Bytes × JsonTree ν))

inductive Derives {ν : Type} (D : Dialect ν) : Form ν → Bytes → Bytes → Prop where
  | blank {c : UInt8} {t : JsonTree ν} {s r : Bytes} (hc : isWs c = true)
      (h : Derives D (.value t) s r) : Derives D (.value t) (c :: s) r
  | null (r : Bytes) : Derives D (.value .null) (110 :: 117 :: 108 :: 108 :: r) r
  | true (r : Bytes) : Derives D (.value (.bool true)) (116 :: 114 :: 117 :: 101 :: r) r
  | false (r : Bytes) :
      Derives D (.value (.bool false)) (102 :: 97 :: 108 :: 115 :: 101 :: r) r
  | str {s k r : Bytes} (h : D.string s k r) : Derives D (.value (.str k)) (34 :: s) r
  | num {s r : Bytes} {x : ν} (h : D.number s x r) : Derives D (.value (.num x)) s r
  | emptyArr {s r : Bytes} (h : Mark 93 s r) : Derives D (.value (.arr [])) (91 :: s) r
  | arr {ts : List (JsonTree ν)} {s r : Bytes} (h : Derives D (.elements ts) s r) :
      Derives D (.value (.arr ts)) (91 :: s) r
  | emptyObj {s r : Bytes} (h : Mark 125 s r) : Derives D (.value (.obj [])) (123 :: s) r
  | obj {kvs : List (Bytes × JsonTree ν)} {s r : Bytes} (h : Derives D (.members true kvs) s r) :
      Derives D (.value (.obj kvs)) (123 :: s) r
  | lastElement {t : JsonTree ν} {s r₁ r : Bytes} (ht : Derives D (.value t) s r₁)
      (hm : Mark 93 r₁ r) : Derives D (.elements [t]) s r
  | element {t : JsonTree ν} {ts : List (JsonTree ν)} {s r₁ r₂ r : Bytes}
      (ht : Derives D (.value t) s r₁) (hm : Mark 44 r₁ r₂)
      (hts : Derives D (.elements ts) r₂ r) : Derives D (.elements (t :: ts)) s r
  | lastMember {first : Bool} {k : Bytes} {t : JsonTree ν} {s r₁ r₂ r₃ r : Bytes}
      (hk : D.key first s k r₁) (hc : Mark 58 r₁ r₂) (ht : Derives D (.value t) r₂ r₃)
      (hm : Mark 125 r₃ r) : Derives D (.members first [(k, t)]) s r
  | member {first : Bool} {k : Bytes} {t : JsonTree ν} {kvs : List (Bytes × JsonTree ν)}
      {s r₁ r₂ r₃ r₄ r : Bytes} (hk : D.key first s k r₁) (hc : Mark 58 r₁ r₂)
      (ht : Derives D (.value t) r₂ r₃) (hm : Mark 44 r₃ r₄)
      (hkvs : Derives D (.members .false kvs) r₄ r) :
      Derives D (.members first ((k, t) :: kvs)) s r

/-- A text is a value with whitespace around it. -/
def Text {ν : Type} (D : Dialect ν) (t : JsonTree ν) (s : Bytes) : Prop :=
  ∃ r, Derives D (.value t) s r ∧ ∀ c ∈ r, isWs c = true

/-- Whatever the one dialect takes for a token, the other one takes for it as well. -/
structure Dialect.Le {ν : Type} (D E : Dialect ν) : Prop where
  string : ∀ {s k r}, D.string s k r → E.string s k r
  key : ∀ {first s k r}, D.key first s k r → E.key first s k r
  number : ∀ {s x r}, D.number s x r → E.number s x r

variable {ν : Type} {D E : Dialect ν} {f : Form ν} {s r : Bytes}

theorem Derives.mono (hDE : D.Le E) (h : Derives D f s r) : Derives E f s r := by
  induction h with
  | blank hc _ ih => exact .blank hc ih
  | null r => exact .null r
  | true r => exact .true r
  | false r => exact .false r
  | str h => exact .str (hDE.string h)
  | num h => exact .num (hDE.number h)
  | emptyArr h => exact .emptyArr h
  | arr _ ih => exact .arr ih
  | emptyObj h => exact .emptyObj h
  | obj _ ih => exact .obj ih
  | lastElement _ hm ih => exact .lastElement ih hm
  | element _ hm _ ih ihs => exact .element ih hm ihs
  | lastMember hk hc _ hm ih => exact .lastMember (hDE.key hk) hc ih hm
  | member hk hc _ hm _ ih ihs => exact .member (hDE.key hk) hc ih hm ihs

theorem Text.mono {t : JsonTree ν} (hDE : D.Le E) (h : Text D t s) : Text E t s := by
  obtain ⟨r, hd, hr⟩ := h
  exact ⟨r, hd.mono hDE, hr⟩

theorem Mark.shorter {c : UInt8} (h : Mark c s r) : r.length < s.length := by
  induction h with
  | here r => simp
  | blank _ _ ih => exact Nat.lt_succ_of_lt ih

/-- Every token of the dialect takes something of the text. -/
structure Dialect.Shortens (D : Dialect ν) : Prop where
  string : ∀ {s k r}, D.string s k r → r.length < s.length
  key : ∀ {first s k r}, D.key first s k r → r.length < s.length
  number : ∀ {s x r}, D.number s x r → r.length < s.length

theorem Derives.shorter (hD : D.Shortens) (h : Derives D f s r) : r.length < s.length := by
  induction h with
  | blank _ _ ih => exact Nat.lt_succ_of_lt ih
  | null r =>
    simp only [List.length_cons]
    omega
  | true r =>
    simp only [List.length_cons]
    omega
  | false r =>
    simp only [List.length_cons]
    omega
  | str h => exact Nat.lt_succ_of_lt (hD.string h)
  | num h => exact hD.number h
  | emptyArr h => exact Nat.lt_succ_of_lt h.shorter
  | arr _ ih => exact Nat.lt_succ_of_lt ih
  | emptyObj h => exact Nat.lt_succ_of_lt h.shorter
  | obj _ ih => exact Nat.lt_succ_of_lt ih
  | lastElement _ hm ih => exact Nat.lt_trans hm.shorter ih
  | element _ hm _ ih ihs => exact Nat.lt_trans ihs (Nat.lt_trans hm.shorter ih)
  | lastMember hk hc _ hm ih =>
    exact Nat.lt_trans hm.shorter (Nat.lt_trans ih (Nat.lt_trans hc.shorter (hD.key hk)))
  | member hk hc _ hm _ ih ihs =>
    have hvalue := Nat.lt_trans ih (Nat.lt_trans hc.shorter (hD.key hk))
    exact Nat.lt_trans ihs (Nat.lt_trans hm.shorter hvalue)

end JsonGrammar
