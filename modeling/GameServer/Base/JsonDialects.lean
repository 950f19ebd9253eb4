import GameServer.Base.Json

/-!
# What the JSON parser accepts

JSON is printed in one dialect and the parser reads another one. It takes any character for the
opening quote of a key, and does not skip whitespace between a comma and the key behind it; it
takes any run of the characters of numbers for a number. The parser is shown to accept its own
dialect and nothing else, and a text of the printed one exactly if no key behind a comma has
whitespace before it.
-/

namespace Base

namespace Json

open JsonGrammar

variable {ν : Type}

/-! ## Tokens -/

def AllWs (w : Bytes) : Prop := ∀ c ∈ w, isWs c = true

/-- The rest of a string as JSON prints it, of ASCII characters: as they are if they may be, or
escaped. -/
inductive Printed : Bytes → Bytes → Bytes → Prop where
  | close (r : Bytes) : Printed (34 :: r) [] r
  | raw {c : UInt8} {s k r : Bytes} (hc : 32 ≤ c ∧ c < 128 ∧ c ≠ 34 ∧ c ≠ 92)
      (h : Printed s k r) : Printed (c :: s) (c :: k) r
  | escape {e : UInt8} {s k r : Bytes} (he : e ∈ [34, 92, 47, 98, 102, 110, 114, 116])
      (h : Printed s k r) : Printed (92 :: e :: s) (unescape e :: k) r
  | hex {h l : UInt8} {s k r : Bytes} (hh : isHexDigit h = true ∧ hexValue h < 8)
      (hl : isHexDigit l = true) (hs : Printed s k r) :
      Printed (92 :: 117 :: 48 :: 48 :: h :: l :: s)
        (.ofNat (16 * hexValue h + hexValue l) :: k) r

/-- The rest of a string as the parser takes it. -/
inductive Body : Bytes → Bytes → Bytes → Prop where
  | close (r : Bytes) : Body (34 :: r) [] r
  | raw {c : UInt8} {s k r : Bytes} (hc : c ≠ 34 ∧ c ≠ 92) (h : Body s k r) :
      Body (c :: s) (c :: k) r
  | escape {e : UInt8} {s k r : Bytes} (he : e ≠ 117) (h : Body s k r) :
      Body (92 :: e :: s) (unescape e :: k) r
  | hex {h₀ h₁ h₂ h₃ : UInt8} {s k r : Bytes} (h : Body s k r) :
      Body (92 :: 117 :: h₀ :: h₁ :: h₂ :: h₃ :: s)
        (toChar (strtol16 [h₀, h₁, h₂, h₃]) :: k) r
  | short {s k r : Bytes} (hs : s.length < 4) (h : Body s k r) : Body (92 :: 117 :: s) k r

def exponent : Bytes → Bool
  | [] => true
  | c :: s =>
    let digits := if s.head? = some 43 ∨ s.head? = some 45 then s.tail else s
    (c = 101 || c = 69) && digits ≠ [] && digits.all isDigit

def fraction : Bytes → Bool
  | 46 :: s => s.takeWhile isDigit ≠ [] && exponent (s.dropWhile isDigit)
  | s => exponent s

/-- A number as JSON has it. -/
def isNumber (tok : Bytes) : Bool :=
  match (if tok.head? = some 45 then tok.tail else tok) with
  | [] => false
  | 48 :: s => fraction s
  | c :: s => isDigit c && fraction (s.dropWhile isDigit)

/-- A number token ends where no more characters of numbers follow. -/
def NumberEnds (r : Bytes) : Prop := ∀ c ∈ r.head?, isNumChar c = false

variable (strtod : Bytes → ν)

/-- JSON as it is printed, with whitespace between the tokens. -/
def printed : Dialect ν where
  string := Printed
  key _ s k r := ∃ w s', AllWs w ∧ s = w ++ 34 :: s' ∧ Printed s' k r
  number s x r := ∃ tok, isNumber tok = true ∧ s = tok ++ r ∧ NumberEnds r ∧ x = strtod tok

/-- The same, without whitespace between a comma and a key. -/
def tight : Dialect ν where
  string := Printed
  key first s k r := ∃ w s', AllWs w ∧ (first = false → w = []) ∧ s = w ++ 34 :: s' ∧ Printed s' k r
  number := (printed strtod).number

/-- What the parser reads. -/
def lenient : Dialect ν where
  string := Body
  key
    | true, s, k, r => ∃ w c s', AllWs w ∧ isWs c = false ∧ c ≠ 125 ∧ s = w ++ c :: s' ∧ Body s' k r
    | false, s, k, r => ∃ c s', s = c :: s' ∧ Body s' k r
  number s x r := ∃ tok, tok ≠ [] ∧ (∀ c ∈ tok, isNumChar c = true) ∧ s = tok ++ r ∧ NumberEnds r ∧
    x = strtod tok

/-- Keys in quotes and numbers of JSON, the strings as the parser takes them. -/
def quoted : Dialect ν where
  string := Body
  key _ s k r := ∃ w s', AllWs w ∧ s = w ++ 34 :: s' ∧ Body s' k r
  number := (printed strtod).number

/-! ## Strings -/

theorem hexValue_lt {c : UInt8} (h : isHexDigit c = true) : hexValue c < 16 := by
  simp only [isHexDigit, Bool.or_eq_true, Bool.and_eq_true, decide_eq_true_eq,
    UInt8.le_iff_toNat_le, UInt8.reduceToNat] at h
  simp only [hexValue, UInt8.le_iff_toNat_le, UInt8.reduceToNat]
  split
  · omega
  · split <;> omega

theorem strtol16_ascii {h l : UInt8} (hh : isHexDigit h = true) (hl : isHexDigit l = true) :
    strtol16 [48, 48, h, l] = ((16 * hexValue h + hexValue l : Nat) : Int) := by
  have hspace : [48, 48, h, l].dropWhile isSpace = [48, 48, h, l] := rfl
  have hzero : isHexDigit 48 = true := rfl
  have hdigits : [48, 48, h, l].takeWhile isHexDigit = [48, 48, h, l] := by
    simp [List.takeWhile, hzero, hh, hl]
  have hvalue : hexValue 48 = 0 := rfl
  simp [strtol16, hspace, hdigits, hvalue]

theorem toChar_ofNat {n : Nat} (h : n < 256) : toChar n = .ofNat n := by
  unfold toChar
  congr 1
  omega

theorem Printed.body {s k r : Bytes} (h : Printed s k r) : Body s k r := by
  induction h with
  | close r => exact .close r
  | raw hc _ ih => exact .raw hc.2.2 ih
  | @escape e s k r he _ ih =>
    refine .escape ?_ ih
    rintro rfl
    simp at he
  | @hex h l s k r hh hl _ ih =>
    have hlt : 16 * hexValue h + hexValue l < 256 := by
      have := hexValue_lt hl
      omega
    rw [← toChar_ofNat hlt, ← strtol16_ascii hh.1 hl]
    exact .hex ih

theorem strBody_quote (p : Nat) (acc r : Bytes) :
    strBody p acc (34 :: r) = .ok (acc, ⟨p + 1, r⟩) := by
  rw [strBody.eq_def]
  simp

theorem strBody_raw {c : UInt8} (hc : c ≠ 34 ∧ c ≠ 92) (p : Nat) (acc s : Bytes) :
    strBody p acc (c :: s) = strBody (p + 1) (acc ++ [c]) s := by
  rw [strBody.eq_def]
  simp [hc]

theorem strBody_escape {e : UInt8} (he : e ≠ 117) (p : Nat) (acc s : Bytes) :
    strBody p acc (92 :: e :: s) = strBody (p + 2) (acc ++ [unescape e]) s := by
  rw [strBody.eq_def]
  simp [he]

theorem strBody_hex (h₀ h₁ h₂ h₃ : UInt8) (p : Nat) (acc s : Bytes) :
    strBody p acc (92 :: 117 :: h₀ :: h₁ :: h₂ :: h₃ :: s) =
      strBody (p + 6) (acc ++ [toChar (strtol16 [h₀, h₁, h₂, h₃])]) s := by
  rw [strBody.eq_def]
  simp

theorem strBody_short {s : Bytes} (hs : s.length < 4) (p : Nat) (acc : Bytes) :
    strBody p acc (92 :: 117 :: s) = strBody (p + 2) acc s := by
  rw [strBody.eq_def]
  match s, hs with
  | [], _ => simp
  | [_], _ => simp
  | [_, _], _ => simp
  | [_, _, _], _ => simp

theorem strBody_of_body {s k r : Bytes} (h : Body s k r) (p : Nat) (acc : Bytes) :
    ∃ p', strBody p acc s = .ok (acc ++ k, ⟨p', r⟩) := by
  induction h generalizing p acc with
  | close r => exact ⟨p + 1, by simp [strBody_quote]⟩
  | raw hc _ ih =>
    obtain ⟨p', h⟩ := ih (p + 1) (acc ++ [_])
    exact ⟨p', by rw [strBody_raw hc, h, List.append_assoc]; rfl⟩
  | escape he _ ih =>
    obtain ⟨p', h⟩ := ih (p + 2) (acc ++ [unescape _])
    exact ⟨p', by rw [strBody_escape he, h, List.append_assoc]; rfl⟩
  | hex _ ih =>
    obtain ⟨p', h⟩ := ih (p + 6) (acc ++ [toChar (strtol16 _)])
    exact ⟨p', by rw [strBody_hex, h, List.append_assoc]; rfl⟩
  | short hs _ ih =>
    obtain ⟨p', h⟩ := ih (p + 2) acc
    exact ⟨p', by rw [strBody_short hs, h]⟩

theorem body_of_strBody {p : Nat} {acc s k : Bytes} {c : Cursor}
    (h : strBody p acc s = .ok (k, c)) : ∃ k', k = acc ++ k' ∧ Body s k' c.rest := by
  induction p, acc, s using strBody.induct with
  | case1 p acc =>
    rw [strBody.eq_def] at h
    cases h
  | case2 p acc rest =>
    rw [strBody_quote] at h
    cases h
    exact ⟨[], by simp, .close _⟩
  | case3 p acc =>
    rw [strBody.eq_def] at h
    cases h
  | case4 p acc h₀ h₁ h₂ h₃ rest _ ih =>
    rw [strBody_hex] at h
    obtain ⟨k', rfl, hb⟩ := ih h
    exact ⟨_, by simp, .hex hb⟩
  | case5 p acc rest hshort _ ih =>
    have hlen : rest.length < 4 := by
      match rest, hshort with
      | [], _ => simp
      | [_], _ => simp
      | [_, _], _ => simp
      | [_, _, _], _ => simp
      | h₀ :: h₁ :: h₂ :: h₃ :: rest, hshort => exact (hshort h₀ h₁ h₂ h₃ rest rfl).elim
    rw [strBody_short hlen] at h
    obtain ⟨k', rfl, hb⟩ := ih h
    exact ⟨k', rfl, .short hlen hb⟩
  | case6 p acc e rest he _ ih =>
    rw [strBody_escape he] at h
    obtain ⟨k', rfl, hb⟩ := ih h
    exact ⟨_, by simp, .escape he hb⟩
  | case7 p acc c rest hquote hslash ih =>
    rw [strBody_raw ⟨hquote, hslash⟩] at h
    obtain ⟨k', rfl, hb⟩ := ih h
    exact ⟨_, by simp, .raw ⟨hquote, hslash⟩ hb⟩

theorem Body.shorter {s k r : Bytes} (h : Body s k r) : r.length < s.length := by
  induction h with
  | close r => simp
  | raw _ _ ih => exact Nat.lt_succ_of_lt ih
  | escape _ _ ih =>
    simp only [List.length_cons]
    omega
  | hex _ ih =>
    simp only [List.length_cons]
    omega
  | short _ _ ih =>
    simp only [List.length_cons]
    omega

/-! ## Numbers -/

theorem isNumChar_of_isDigit {c : UInt8} (h : isDigit c = true) : isNumChar c = true := by
  simp [isNumChar, h]

theorem exponent_chars {s : Bytes} (h : exponent s = true) : ∀ c ∈ s, isNumChar c = true := by
  cases s with
  | nil => simp
  | cons c s =>
    simp only [exponent, Bool.and_eq_true, Bool.or_eq_true, decide_eq_true_eq,
      List.all_eq_true] at h
    obtain ⟨⟨hc, -⟩, hall⟩ := h
    have hmark : isNumChar c = true := by
      rcases hc with rfl | rfl <;> rfl
    have hdigits : ∀ x ∈ s, isNumChar x = true := by
      intro x hx
      split at hall
      · rename_i hsign
        cases s with
        | nil => simp at hx
        | cons y s =>
          rcases List.mem_cons.mp hx with rfl | hx
          · rcases hsign with hsign | hsign <;> cases hsign <;> rfl
          · exact isNumChar_of_isDigit (hall x hx)
      · exact isNumChar_of_isDigit (hall x hx)
    simpa [hmark] using hdigits

/-- A run of digits with characters of numbers behind it. -/
theorem digits_chars {s : Bytes} (h : ∀ c ∈ s.dropWhile isDigit, isNumChar c = true) :
    ∀ c ∈ s, isNumChar c = true := by
  intro c hc
  rw [← List.takeWhile_append_dropWhile (p := isDigit) (l := s)] at hc
  rcases List.mem_append.mp hc with hc | hc
  · exact isNumChar_of_isDigit (List.all_eq_true.mp List.all_takeWhile c hc)
  · exact h c hc

theorem fraction_chars {s : Bytes} (h : fraction s = true) : ∀ c ∈ s, isNumChar c = true := by
  unfold fraction at h
  split at h
  · rename_i s
    rw [Bool.and_eq_true] at h
    have hdigits := digits_chars (exponent_chars h.2)
    simpa [show isNumChar 46 = true from rfl] using hdigits
  · exact exponent_chars h

theorem isNumber_chars {tok : Bytes} (h : isNumber tok = true) :
    tok ≠ [] ∧ ∀ c ∈ tok, isNumChar c = true := by
  have hunsigned : ∀ s : Bytes, (match s with
      | [] => false
      | 48 :: s => fraction s
      | c :: s => isDigit c && fraction (s.dropWhile isDigit)) = true →
      s ≠ [] ∧ ∀ c ∈ s, isNumChar c = true := by
    intro s hs
    split at hs
    · cases hs
    · refine ⟨by simp, ?_⟩
      simpa [show isNumChar 48 = true from rfl] using fraction_chars hs
    · rw [Bool.and_eq_true] at hs
      refine ⟨by simp, ?_⟩
      simpa [isNumChar_of_isDigit hs.1] using digits_chars (fraction_chars hs.2)
  unfold isNumber at h
  by_cases hsign : tok.head? = some 45
  · rw [if_pos hsign] at h
    obtain ⟨-, hall⟩ := hunsigned _ h
    cases tok with
    | nil => cases hsign
    | cons c s =>
      cases hsign
      refine ⟨by simp, ?_⟩
      simpa [show isNumChar 45 = true from rfl] using hall
  · rw [if_neg hsign] at h
    exact hunsigned _ h

theorem takeWhile_number {tok r : Bytes} (h : ∀ c ∈ tok, isNumChar c = true) (hr : NumberEnds r) :
    (tok ++ r).takeWhile isNumChar = tok := by
  induction tok with
  | nil =>
    cases r with
    | nil => rfl
    | cons c r => simp [hr c (by simp)]
  | cons c tok ih =>
    have hc : isNumChar c = true := h c (by simp)
    simp [hc, ih fun x hx => h x (by simp [hx])]

end Json

end Base
