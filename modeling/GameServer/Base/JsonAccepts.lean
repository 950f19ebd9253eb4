import Mathlib.Tactic.SplitIfs
import GameServer.Base.JsonDialects

/-!
# The parser accepts its own dialect and nothing else

Both directions, and that the fuel of the parser suffices. The third part follows the parser over
a text of the printed dialect: if it comes back with the printed tree, then no key behind a comma
had whitespace before it.
-/

namespace Base

namespace Json

open JsonGrammar

variable {ν : Type} {strtod : Bytes → ν}

/-! ## Whitespace and marks -/

theorem skipWs_blank {ch : UInt8} (h : isWs ch = true) (p : Nat) (s : Bytes) :
    Cursor.skipWs ⟨p, ch :: s⟩ = Cursor.skipWs ⟨p + 1, s⟩ := by
  simp [Cursor.skipWs, Cursor.SkipWs, h]

theorem skipWs_stop {ch : UInt8} (h : isWs ch = false) (p : Nat) (s : Bytes) :
    Cursor.skipWs ⟨p, ch :: s⟩ = ⟨p, ch :: s⟩ := by
  simp [Cursor.skipWs, Cursor.SkipWs, h]

theorem skipWs_append {w : Bytes} (hw : AllWs w) (p : Nat) (s : Bytes) :
    Cursor.skipWs ⟨p, w ++ s⟩ = Cursor.skipWs ⟨p + w.length, s⟩ := by
  induction w generalizing p with
  | nil => rfl
  | cons ch w ih =>
    rw [List.cons_append, skipWs_blank (hw ch (by simp)), ih fun c hc => hw c (by simp [hc])]
    congr 2
    simp only [List.length_cons]
    omega

/-- What is skipped is whitespace, and what is left does not start with any. -/
theorem skipWs_spec (p : Nat) (s : Bytes) : ∃ w, AllWs w ∧
    s = w ++ (Cursor.skipWs ⟨p, s⟩).rest ∧
      ∀ c ∈ (Cursor.skipWs ⟨p, s⟩).rest.head?, isWs c = false := by
  induction s generalizing p with
  | nil => exact ⟨[], by simp [AllWs], rfl, by simp [Cursor.skipWs, Cursor.SkipWs]⟩
  | cons ch s ih =>
    by_cases hc : isWs ch = true
    · obtain ⟨w, hw, hs, hhead⟩ := ih (p + 1)
      rw [skipWs_blank hc]
      refine ⟨ch :: w, ?_, congrArg (ch :: ·) hs, hhead⟩
      simpa [AllWs, hc] using hw
    · have hc : isWs ch = false := by simpa using hc
      rw [skipWs_stop hc]
      exact ⟨[], by simp [AllWs], rfl, by simp [hc]⟩

theorem skipWs_skipWs (c : Cursor) : c.skipWs.skipWs = c.skipWs := by
  obtain ⟨p, s⟩ := c
  obtain ⟨-, -, -, hhead⟩ := skipWs_spec p s
  cases hs : Cursor.skipWs ⟨p, s⟩ with
  | mk q t =>
    rw [hs] at hhead
    cases t with
    | nil => rfl
    | cons ch t => exact skipWs_stop (hhead ch (by simp)) q t

theorem Mark.append {c : UInt8} {w s r : Bytes} (hw : AllWs w) (h : Mark c s r) :
    Mark c (w ++ s) r := by
  induction w with
  | nil => exact h
  | cons ch w ih => exact .blank (hw ch (by simp)) (ih fun c hc => hw c (by simp [hc]))

theorem eat_of_mark {ch : UInt8} {s r : Bytes} (h : Mark ch s r) (hch : isWs ch = false)
    (p : Nat) : ∃ p', Cursor.eat ch ⟨p, s⟩ = (true, ⟨p', r⟩) := by
  induction h generalizing p with
  | here r => exact ⟨p + 1, by simp [Cursor.eat, skipWs_stop hch, Cursor.next]⟩
  | blank hw _ ih =>
    obtain ⟨p', h⟩ := ih (p + 1)
    refine ⟨p', ?_⟩
    unfold Cursor.eat at h ⊢
    rw [skipWs_blank hw]
    exact h

theorem mark_of_eat {ch : UInt8} {c d : Cursor} (h : c.eat ch = (true, d)) :
    Mark ch c.rest d.rest := by
  obtain ⟨p, s⟩ := c
  obtain ⟨w, hw, hs, -⟩ := skipWs_spec p s
  unfold Cursor.eat at h
  generalize Cursor.skipWs ⟨p, s⟩ = e at h hs
  dsimp only at h hs ⊢
  split at h
  · cases h
  · rename_i x t ht
    split at h
    · rename_i hx
      cases h
      rw [hs, ht, hx, Cursor.next, ht]
      exact Mark.append hw (.here t)
    · cases h

/-- Another mark than the one that is there leaves the cursor in front of the latter. -/
theorem eat_other {a b : UInt8} {s r : Bytes} (h : Mark a s r) (hab : a ≠ b) (ha : isWs a = false)
    (p : Nat) : ∃ p' s', Cursor.eat b ⟨p, s⟩ = (false, ⟨p', s'⟩) ∧ Mark a s' r := by
  induction h generalizing p with
  | here r =>
    refine ⟨p, a :: r, ?_, .here r⟩
    simp [Cursor.eat, skipWs_stop ha, hab]
  | blank hw _ ih =>
    obtain ⟨p', s', h, hm⟩ := ih (p + 1)
    refine ⟨p', s', ?_, hm⟩
    unfold Cursor.eat at h ⊢
    rw [skipWs_blank hw]
    exact h

theorem eat_eq_false {ch : UInt8} {c d : Cursor} (h : c.eat ch = (false, d)) :
    d = c.skipWs ∧ ch ∉ c.skipWs.rest.head? := by
  unfold Cursor.eat at h
  dsimp only at h
  split at h
  · rename_i hs
    cases h
    exact ⟨rfl, by simp [hs]⟩
  · rename_i x t hs
    split at h
    · cases h
    · rename_i hx
      cases h
      exact ⟨rfl, by simpa [hs, eq_comm] using hx⟩

theorem eat_of_head {ch : UInt8} {c : Cursor} (h : ch ∉ c.skipWs.rest.head?) :
    c.eat ch = (false, c.skipWs) := by
  cases he : c.eat ch with
  | mk b d =>
    cases b with
    | false => rw [(eat_eq_false he).1]
    | true =>
      exfalso
      unfold Cursor.eat at he
      dsimp only at he
      split at he
      · cases he
      · rename_i x t hs
        split at he
        · rename_i hx
          exact h (by simp [hs, hx])
        · cases he

/-! ## One step of the parser -/

theorem parse_skipWs (n : Nat) (c : Cursor) : parse strtod n c.skipWs = parse strtod n c := by
  cases n with
  | zero => rfl
  | succ n =>
    unfold parse
    rw [skipWs_skipWs]

theorem parse_blank {ch : UInt8} (h : isWs ch = true) (n p : Nat) (s : Bytes) :
    parse strtod n ⟨p, ch :: s⟩ = parse strtod n ⟨p + 1, s⟩ := by
  rw [← parse_skipWs, skipWs_blank h, parse_skipWs]

theorem parse_obj (n p : Nat) (s : Bytes) : parse strtod (n + 1) ⟨p, 123 :: s⟩ =
    if (Cursor.eat 125 ⟨p + 1, s⟩).1 then .ok (.obj [], (Cursor.eat 125 ⟨p + 1, s⟩).2)
    else parseObj strtod n (Cursor.eat 125 ⟨p + 1, s⟩).2 [] := by
  unfold parse
  rw [skipWs_stop rfl]
  rfl

theorem parse_arr (n p : Nat) (s : Bytes) : parse strtod (n + 1) ⟨p, 91 :: s⟩ =
    if (Cursor.eat 93 ⟨p + 1, s⟩).1 then .ok (.arr [], (Cursor.eat 93 ⟨p + 1, s⟩).2)
    else parseArr strtod n (Cursor.eat 93 ⟨p + 1, s⟩).2 [] := by
  unfold parse
  rw [skipWs_stop rfl]
  rfl

theorem parse_str (n p : Nat) (s : Bytes) : parse strtod (n + 1) ⟨p, 34 :: s⟩ = do
    let (k, c) ← strBody (p + 1) [] s
    return (.str k, c) := by
  unfold parse
  rw [skipWs_stop rfl]
  rfl

theorem parse_num {ch : UInt8} (h : isNumChar ch = true) (n p : Nat) (s : Bytes) :
    parse strtod (n + 1) ⟨p, ch :: s⟩ = parseNum strtod ⟨p, ch :: s⟩ := by
  have hne : isWs ch = false ∧ ch ≠ 123 ∧ ch ≠ 91 ∧ ch ≠ 34 ∧ ¬(ch = 116 ∨ ch = 102) ∧
      ch ≠ 110 := by
    refine ⟨?_, ?_, ?_, ?_, ?_, ?_⟩
    · refine Bool.eq_false_iff.mpr fun hw => ?_
      simp only [isWs, Bool.or_eq_true, decide_eq_true_eq] at hw
      rcases hw with ((rfl | rfl) | rfl) | rfl <;> cases h
    · rintro rfl
      cases h
    · rintro rfl
      cases h
    · rintro rfl
      cases h
    · rintro (rfl | rfl) <;> cases h
    · rintro rfl
      cases h
  obtain ⟨hw, h₁, h₂, h₃, h₄, h₅⟩ := hne
  unfold parse
  rw [skipWs_stop hw]
  dsimp only
  rw [if_neg h₁, if_neg h₂, if_neg h₃, if_neg h₄, if_neg h₅]

theorem parseArr_ok {n : Nat} {c d : Cursor} {acc : List (JsonNode ν)} {t : JsonNode ν}
    (h : parseArr strtod (n + 1) c acc = .ok (t, d)) : ∃ val c₁, parse strtod n c = .ok (val, c₁) ∧
      (c₁.eat 93 = (true, d) ∧ t = .arr (acc ++ [val]) ∨
        ∃ c₂ c₃, c₁.eat 93 = (false, c₂) ∧ c₂.eat 44 = (true, c₃) ∧
          parseArr strtod n c₃ (acc ++ [val]) = .ok (t, d)) := by
  unfold parseArr at h
  cases hval : parse strtod n c with
  | error e =>
    rw [hval] at h
    cases h
  | ok vc =>
    obtain ⟨val, c₁⟩ := vc
    rw [hval] at h
    simp only [bind, Except.bind, pure, Except.pure] at h
    refine ⟨val, c₁, rfl, ?_⟩
    rcases hclose : c₁.eat 93 with ⟨closed, c₂⟩
    rw [hclose] at h
    cases closed with
    | true =>
      cases h
      exact .inl ⟨rfl, rfl⟩
    | false =>
      rcases hcomma : c₂.eat 44 with ⟨comma, c₃⟩
      rw [hcomma] at h
      cases comma with
      | true => exact .inr ⟨c₂, c₃, rfl, hcomma, h⟩
      | false => cases h

theorem parseObj_ok {n : Nat} {c d : Cursor} {acc : List (Bytes × JsonNode ν)} {t : JsonNode ν}
    (h : parseObj strtod (n + 1) c acc = .ok (t, d)) : ∃ key val c₁ c₂ c₃,
      parseStr c = .ok (key, c₁) ∧ c₁.eat 58 = (true, c₂) ∧ parse strtod n c₂ = .ok (val, c₃) ∧
      (c₃.eat 125 = (true, d) ∧ t = .obj (acc ++ [(key, val)]) ∨
        ∃ c₄ c₅, c₃.eat 125 = (false, c₄) ∧ c₄.eat 44 = (true, c₅) ∧
          parseObj strtod n c₅ (acc ++ [(key, val)]) = .ok (t, d)) := by
  unfold parseObj at h
  cases hkey : parseStr c with
  | error e =>
    rw [hkey] at h
    cases h
  | ok kc =>
    obtain ⟨key, c₁⟩ := kc
    rw [hkey] at h
    simp only [bind, Except.bind, pure, Except.pure] at h
    rcases hcolon : c₁.eat 58 with ⟨colon, c₂⟩
    rw [hcolon] at h
    cases colon with
    | false => cases h
    | true =>
      cases hval : parse strtod n c₂ with
      | error e =>
        rw [hval] at h
        cases h
      | ok vc =>
        obtain ⟨val, c₃⟩ := vc
        rw [hval] at h
        refine ⟨key, val, c₁, c₂, c₃, rfl, hcolon, hval, ?_⟩
        rcases hclose : c₃.eat 125 with ⟨closed, c₄⟩
        dsimp only at h
        rw [hclose] at h
        cases closed with
        | true =>
          cases h
          exact .inl ⟨rfl, rfl⟩
        | false =>
          rcases hcomma : c₄.eat 44 with ⟨comma, c₅⟩
          rw [hcomma] at h
          cases comma with
          | true => exact .inr ⟨c₄, c₅, rfl, hcomma, h⟩
          | false => cases h

/-! ## What the parser accepts is of its dialect -/

theorem Derives.blanks {D : Dialect ν} {t : JsonTree ν} {w s r : Bytes} (hw : AllWs w)
    (h : Derives D (.value t) s r) : Derives D (.value t) (w ++ s) r := by
  induction w with
  | nil => exact h
  | cons c w ih => exact .blank (hw c (by simp)) (ih fun x hx => hw x (by simp [hx]))

theorem numberEnds_dropWhile (s : Bytes) : NumberEnds (s.dropWhile isNumChar) := by
  intro c hc
  have hnot := List.head?_dropWhile_not isNumChar s
  rw [Option.mem_def.mp hc] at hnot
  exact hnot

theorem drop_number (s : Bytes) :
    s.drop (s.takeWhile isNumChar).length = s.dropWhile isNumChar := by
  have hs : s.takeWhile isNumChar ++ s.dropWhile isNumChar = s := List.takeWhile_append_dropWhile
  exact (congrArg (List.drop _) hs.symm).trans (List.drop_left ..)

theorem parseNum_sound {c d : Cursor} {t : JsonNode ν} (h : parseNum strtod c = .ok (t, d)) :
    Derives (lenient strtod) (.value t) c.rest d.rest := by
  unfold parseNum at h
  dsimp only at h
  split at h
  · cases h
  · rename_i htok
    cases h
    dsimp only
    rw [drop_number]
    exact .num ⟨c.rest.takeWhile isNumChar, htok, List.all_eq_true.mp List.all_takeWhile,
      List.takeWhile_append_dropWhile.symm, numberEnds_dropWhile _, rfl⟩

theorem parseBool_sound {c d : Cursor} {t : JsonNode ν} (h : parseBool c = .ok (t, d)) :
    Derives (lenient strtod) (.value t) c.rest d.rest := by
  obtain ⟨p, s⟩ := c
  unfold parseBool at h
  split at h
  · rename_i hs
    obtain ⟨r, rfl⟩ := List.isPrefixOf_iff_prefix.mp hs
    cases h
    exact .true r
  · split at h
    · rename_i hs
      obtain ⟨r, rfl⟩ := List.isPrefixOf_iff_prefix.mp hs
      cases h
      exact .false r
    · cases h

theorem parseNull_sound {c d : Cursor} {t : JsonNode ν} (h : parseNull c = .ok (t, d)) :
    Derives (lenient strtod) (.value t) c.rest d.rest := by
  obtain ⟨p, s⟩ := c
  unfold parseNull at h
  split at h
  · rename_i hs
    obtain ⟨r, rfl⟩ := List.isPrefixOf_iff_prefix.mp hs
    cases h
    exact .null r
  · cases h

/-- The members behind the opening brace, from those behind a comma: the brace has skipped the
whitespace and has seen that it is not closed at once. -/
theorem Derives.first {kvs : List (Bytes × JsonTree ν)} {w s r : Bytes} (hw : AllWs w)
    (hhead : ∀ c ∈ s.head?, isWs c = false ∧ c ≠ 125)
    (h : Derives (lenient strtod) (.members false kvs) s r) :
    Derives (lenient strtod) (.members true kvs) (w ++ s) r := by
  have hkey : ∀ {k r₁}, (lenient strtod).key false s k r₁ →
      (lenient strtod).key true (w ++ s) k r₁ := by
    rintro k r₁ ⟨c, s', rfl, hb⟩
    obtain ⟨hc, hclose⟩ := hhead c (by simp)
    exact ⟨w, c, s', hw, hc, hclose, rfl, hb⟩
  cases h with
  | lastMember hk hc ht hm => exact .lastMember (hkey hk) hc ht hm
  | member hk hc ht hm hkvs => exact .member (hkey hk) hc ht hm hkvs

theorem parseStr_sound {c d : Cursor} {k : Bytes} (h : parseStr c = .ok (k, d)) :
    (lenient strtod).key false c.rest k d.rest := by
  obtain ⟨p, s⟩ := c
  obtain ⟨k', rfl, hb⟩ := body_of_strBody h
  cases s with
  | nil => cases hb
  | cons ch s => exact ⟨ch, s, rfl, hb⟩

/-- What the three functions return, for one amount of fuel. -/
structure Sound (strtod : Bytes → ν) (n : Nat) : Prop where
  value : ∀ {c d t}, parse strtod n c = .ok (t, d) → Derives (lenient strtod) (.value t) c.rest d.rest
  elements : ∀ {c d t acc}, parseArr strtod n c acc = .ok (t, d) →
    ∃ ts, t = .arr (acc ++ ts) ∧ Derives (lenient strtod) (.elements ts) c.rest d.rest
  members : ∀ {c d t acc}, parseObj strtod n c acc = .ok (t, d) →
    ∃ kvs, t = .obj (acc ++ kvs) ∧ Derives (lenient strtod) (.members false kvs) c.rest d.rest

theorem skipWs_marks {ch : UInt8} {c d : Cursor} {r : Bytes} (h : c.eat ch = (false, d))
    (hm : Mark 44 d.rest r) : Mark 44 c.rest r := by
  obtain ⟨p, s⟩ := c
  obtain ⟨w, hw, hs, -⟩ := skipWs_spec p s
  rw [(eat_eq_false h).1] at hm
  dsimp only
  rw [hs]
  exact Mark.append hw hm

theorem Sound.zero : Sound strtod 0 where
  value h := by cases h
  elements h := by cases h
  members h := by cases h

theorem Sound.parseArr {n : Nat} (ih : Sound strtod n) {c d : Cursor} {t : JsonNode ν}
    {acc : List (JsonNode ν)} (h : parseArr strtod (n + 1) c acc = .ok (t, d)) :
    ∃ ts, t = .arr (acc ++ ts) ∧ Derives (lenient strtod) (.elements ts) c.rest d.rest := by
  obtain ⟨val, c₁, hval, ⟨hclose, rfl⟩ | ⟨c₂, c₃, hclose, hcomma, hrest⟩⟩ := parseArr_ok h
  · exact ⟨[val], rfl, .lastElement (ih.value hval) (mark_of_eat hclose)⟩
  · obtain ⟨ts, rfl, hts⟩ := ih.elements hrest
    refine ⟨val :: ts, by simp, .element (ih.value hval) ?_ hts⟩
    exact skipWs_marks hclose (mark_of_eat hcomma)

theorem Sound.parseObj {n : Nat} (ih : Sound strtod n) {c d : Cursor} {t : JsonNode ν}
    {acc : List (Bytes × JsonNode ν)} (h : parseObj strtod (n + 1) c acc = .ok (t, d)) :
    ∃ kvs, t = .obj (acc ++ kvs) ∧ Derives (lenient strtod) (.members false kvs) c.rest d.rest := by
  obtain ⟨key, val, c₁, c₂, c₃, hkey, hcolon, hval, htail⟩ := parseObj_ok h
  have hk : (lenient strtod).key false c.rest key c₁.rest := parseStr_sound hkey
  rcases htail with ⟨hclose, rfl⟩ | ⟨c₄, c₅, hclose, hcomma, hrest⟩
  · exact ⟨[(key, val)], rfl,
      .lastMember hk (mark_of_eat hcolon) (ih.value hval) (mark_of_eat hclose)⟩
  · obtain ⟨kvs, rfl, hkvs⟩ := ih.members hrest
    refine ⟨(key, val) :: kvs, by simp, .member hk (mark_of_eat hcolon) (ih.value hval) ?_ hkvs⟩
    exact skipWs_marks hclose (mark_of_eat hcomma)

/-- The value behind its whitespace. -/
theorem Sound.parse_head {n p : Nat} (ih : Sound strtod n) {ch : UInt8} {s : Bytes} {d : Cursor}
    {t : JsonNode ν} (hch : isWs ch = false) (h : parse strtod (n + 1) ⟨p, ch :: s⟩ = .ok (t, d)) :
    Derives (lenient strtod) (.value t) (ch :: s) d.rest := by
  by_cases hobj : ch = 123
  · subst hobj
    rw [parse_obj] at h
    rcases hclose : Cursor.eat 125 ⟨p + 1, s⟩ with ⟨closed, c⟩
    rw [hclose] at h
    cases closed with
    | true =>
      cases h
      exact .emptyObj (mark_of_eat hclose)
    | false =>
      obtain ⟨kvs, rfl, hkvs⟩ := ih.members h
      obtain ⟨rfl, hhead⟩ := eat_eq_false hclose
      obtain ⟨w, hw, hs, hws⟩ := skipWs_spec (p + 1) s
      refine .obj ?_
      rw [hs]
      refine Derives.first hw (fun x hx => ⟨hws x hx, ?_⟩) hkvs
      rintro rfl
      exact hhead hx
  · by_cases harr : ch = 91
    · subst harr
      rw [parse_arr] at h
      rcases hclose : Cursor.eat 93 ⟨p + 1, s⟩ with ⟨closed, c⟩
      rw [hclose] at h
      cases closed with
      | true =>
        cases h
        exact .emptyArr (mark_of_eat hclose)
      | false =>
        obtain ⟨ts, rfl, hts⟩ := ih.elements h
        obtain ⟨rfl, -⟩ := eat_eq_false hclose
        obtain ⟨w, hw, hs, -⟩ := skipWs_spec (p + 1) s
        refine .arr ?_
        rw [hs]
        cases hts with
        | lastElement ht hm => exact .lastElement (Derives.blanks hw ht) hm
        | element ht hm hts => exact .element (Derives.blanks hw ht) hm hts
    · by_cases hstr : ch = 34
      · subst hstr
        rw [parse_str] at h
        cases hbody : strBody (p + 1) [] s with
        | error e =>
          rw [hbody] at h
          cases h
        | ok kc =>
          rw [hbody] at h
          cases h
          obtain ⟨k, hk, hb⟩ := body_of_strBody hbody
          rw [List.nil_append] at hk
          exact .str (hk ▸ hb)
      · unfold parse at h
        rw [skipWs_stop hch] at h
        dsimp only at h
        rw [if_neg hobj, if_neg harr, if_neg hstr] at h
        split at h
        · exact parseBool_sound h
        · split at h
          · exact parseNull_sound h
          · exact parseNum_sound h

theorem sound (n : Nat) : Sound strtod n := by
  induction n with
  | zero => exact Sound.zero
  | succ n ih =>
    refine ⟨fun {c d t} h => ?_, ih.parseArr, ih.parseObj⟩
    obtain ⟨p, s⟩ := c
    obtain ⟨w, hw, hs, hws⟩ := skipWs_spec p s
    rw [← parse_skipWs] at h
    generalize Cursor.skipWs ⟨p, s⟩ = e at h hs hws
    obtain ⟨q, t'⟩ := e
    dsimp only at hs hws ⊢
    rw [hs]
    refine Derives.blanks hw ?_
    cases t' with
    | nil => cases h
    | cons ch t' => exact ih.parse_head (hws ch (by simp)) h

/-! ## Its dialect is accepted -/

theorem lenient_shortens : (lenient strtod).Shortens where
  string h := Body.shorter h
  key {first s k r} h := by
    cases first with
    | true =>
      obtain ⟨w, c, s', -, -, -, rfl, hb⟩ := h
      have hlt := hb.shorter
      simp only [List.length_append, List.length_cons]
      omega
    | false =>
      obtain ⟨c, s', rfl, hb⟩ := h
      exact Nat.lt_succ_of_lt hb.shorter
  number h := by
    obtain ⟨tok, htok, -, rfl, -, -⟩ := h
    have hpos : 0 < tok.length := List.length_pos_iff.mpr htok
    simp only [List.length_append]
    omega

/-- What the parser does on a text that starts with a form. Behind the brace of an object it
stands on the first key. -/
def Reads (strtod : Bytes → ν) (s r : Bytes) : Form ν → Prop
  | .value t => ∀ n p, 2 * s.length < n → ∃ p', parse strtod n ⟨p, s⟩ = .ok (t, ⟨p', r⟩)
  | .elements ts => ∀ n p acc, 2 * s.length + 1 < n →
      ∃ p', parseArr strtod n ⟨p, s⟩ acc = .ok (.arr (acc ++ ts), ⟨p', r⟩)
  | .members first kvs => ∀ n p acc, 2 * s.length + 1 < n → ∃ p',
      parseObj strtod n (if first then Cursor.skipWs ⟨p, s⟩ else ⟨p, s⟩) acc =
        .ok (.obj (acc ++ kvs), ⟨p', r⟩)

theorem parseNum_complete {s r : Bytes} {x : ν} (h : (lenient strtod).number s x r) (p : Nat) :
    ∃ p', parseNum strtod ⟨p, s⟩ = .ok (.num x, ⟨p', r⟩) := by
  obtain ⟨tok, htok, hall, rfl, hend, rfl⟩ := h
  refine ⟨p + tok.length, ?_⟩
  have htake : (tok ++ r).takeWhile isNumChar = tok := takeWhile_number hall hend
  simp [parseNum, htake, htok]

/-- No value starts with a closing bracket. -/
theorem Derives.not_bracket {f : Form ν} {s r : Bytes} (h : Derives (lenient strtod) f s r) :
    ∀ t, f = .value t → ∀ p, 93 ∉ (Cursor.skipWs ⟨p, s⟩).rest.head? := by
  induction h with
  | blank hc _ ih =>
    intro t ht p
    rw [skipWs_blank hc]
    exact ih t ht (p + 1)
  | @num s r x h =>
    intro t _ p
    obtain ⟨tok, htok, hall, rfl, -⟩ := h
    cases tok with
    | nil => exact absurd rfl htok
    | cons ch tok =>
      have hnum : isNumChar ch = true := hall ch (by simp)
      have hws : isWs ch = false := by
        refine Bool.eq_false_iff.mpr fun hw => ?_
        simp only [isWs, Bool.or_eq_true, decide_eq_true_eq] at hw
        rcases hw with ((rfl | rfl) | rfl) | rfl <;> cases hnum
      rw [List.cons_append, skipWs_stop hws]
      intro hch
      cases hch
      cases hnum
  | lastElement => intro t ht; cases ht
  | element => intro t ht; cases ht
  | lastMember => intro t ht; cases ht
  | member => intro t ht; cases ht
  | _ =>
    intro t _ p
    rw [skipWs_stop rfl]
    simp

theorem parseArr_skipWs (n : Nat) (c : Cursor) (acc : List (JsonNode ν)) :
    parseArr strtod n c.skipWs acc = parseArr strtod n c acc := by
  cases n with
  | zero => rfl
  | succ n =>
    unfold parseArr
    rw [parse_skipWs]

theorem parseArr_close {n : Nat} {c c₁ d : Cursor} {val : JsonNode ν}
    (hval : parse strtod n c = .ok (val, c₁)) (hclose : c₁.eat 93 = (true, d))
    (acc : List (JsonNode ν)) :
    parseArr strtod (n + 1) c acc = .ok (.arr (acc ++ [val]), d) := by
  unfold parseArr
  simp only [hval, bind, Except.bind, hclose]
  rfl

theorem parseArr_comma {n : Nat} {c c₁ c₂ c₃ : Cursor} {val : JsonNode ν}
    (hval : parse strtod n c = .ok (val, c₁)) (hclose : c₁.eat 93 = (false, c₂))
    (hcomma : c₂.eat 44 = (true, c₃)) (acc : List (JsonNode ν)) :
    parseArr strtod (n + 1) c acc = parseArr strtod n c₃ (acc ++ [val]) := by
  rw [parseArr]
  simp only [hval, bind, Except.bind, hclose, hcomma]
  rfl

theorem parseObj_close {n : Nat} {c c₁ c₂ c₃ d : Cursor} {key : Bytes} {val : JsonNode ν}
    (hkey : parseStr c = .ok (key, c₁)) (hcolon : c₁.eat 58 = (true, c₂))
    (hval : parse strtod n c₂ = .ok (val, c₃)) (hclose : c₃.eat 125 = (true, d))
    (acc : List (Bytes × JsonNode ν)) :
    parseObj strtod (n + 1) c acc = .ok (.obj (acc ++ [(key, val)]), d) := by
  unfold parseObj
  simp only [hkey, bind, Except.bind, hcolon, hval, hclose]
  rfl

theorem parseObj_comma {n : Nat} {c c₁ c₂ c₃ c₄ c₅ : Cursor} {key : Bytes} {val : JsonNode ν}
    (hkey : parseStr c = .ok (key, c₁)) (hcolon : c₁.eat 58 = (true, c₂))
    (hval : parse strtod n c₂ = .ok (val, c₃)) (hclose : c₃.eat 125 = (false, c₄))
    (hcomma : c₄.eat 44 = (true, c₅)) (acc : List (Bytes × JsonNode ν)) :
    parseObj strtod (n + 1) c acc = parseObj strtod n c₅ (acc ++ [(key, val)]) := by
  rw [parseObj]
  simp only [hkey, bind, Except.bind, hcolon, hval, hclose, hcomma]
  rfl

/-- Between two entries: the closing mark is not there, the comma is. -/
theorem eat_comma (ch : UInt8) {s r : Bytes} (h : Mark 44 s r) (hch : 44 ≠ ch) (p : Nat) :
    ∃ c₂ p₃, Cursor.eat ch ⟨p, s⟩ = (false, c₂) ∧ c₂.eat 44 = (true, ⟨p₃, r⟩) := by
  obtain ⟨p', s', hother, hm⟩ := eat_other h hch rfl p
  obtain ⟨p₃, hcomma⟩ := eat_of_mark hm rfl p'
  exact ⟨⟨p', s'⟩, p₃, hother, hcomma⟩

theorem parseStr_complete {first : Bool} {s k r : Bytes} (h : (lenient strtod).key first s k r)
    (p : Nat) : ∃ p', parseStr (if first then Cursor.skipWs ⟨p, s⟩ else ⟨p, s⟩) =
      .ok (k, ⟨p', r⟩) := by
  cases first with
  | true =>
    obtain ⟨w, c, s', hw, hc, -, rfl, hb⟩ := h
    rw [if_pos rfl, skipWs_append hw, skipWs_stop hc]
    exact strBody_of_body hb _ []
  | false =>
    obtain ⟨c, s', rfl, hb⟩ := h
    exact strBody_of_body hb _ []

theorem key_not_brace {s k r : Bytes} (h : (lenient strtod).key true s k r) (p : Nat) :
    125 ∉ (Cursor.skipWs ⟨p, s⟩).rest.head? := by
  obtain ⟨w, c, s', hw, hc, hbrace, rfl, -⟩ := h
  rw [skipWs_append hw, skipWs_stop hc]
  simpa using hbrace

theorem reads_of_derives {f : Form ν} {s r : Bytes} (h : Derives (lenient strtod) f s r) :
    Reads strtod s r f := by
  induction h with
  | blank hc _ ih =>
    intro n p hn
    rw [parse_blank hc]
    exact ih n (p + 1) (by simp only [List.length_cons] at hn; omega)
  | null r =>
    intro n p hn
    obtain ⟨n, rfl⟩ : ∃ m, n = m + 1 := ⟨n - 1, by omega⟩
    exact ⟨p + 4, by unfold parse; rw [skipWs_stop rfl]; simp [parseNull]⟩
  | true r =>
    intro n p hn
    obtain ⟨n, rfl⟩ : ∃ m, n = m + 1 := ⟨n - 1, by omega⟩
    exact ⟨p + 4, by unfold parse; rw [skipWs_stop rfl]; simp [parseBool]⟩
  | false r =>
    intro n p hn
    obtain ⟨n, rfl⟩ : ∃ m, n = m + 1 := ⟨n - 1, by omega⟩
    exact ⟨p + 5, by unfold parse; rw [skipWs_stop rfl]; simp [parseBool]⟩
  | str h =>
    intro n p hn
    obtain ⟨n, rfl⟩ : ∃ m, n = m + 1 := ⟨n - 1, by omega⟩
    obtain ⟨p', hb⟩ := strBody_of_body h (p + 1) []
    refine ⟨p', ?_⟩
    rw [parse_str, hb]
    rfl
  | @num s r x h =>
    intro n p hn
    obtain ⟨n, rfl⟩ : ∃ m, n = m + 1 := ⟨n - 1, by omega⟩
    obtain ⟨p', hnum⟩ := parseNum_complete h p
    refine ⟨p', ?_⟩
    obtain ⟨tok, htok, hall, rfl, -⟩ := h
    cases tok with
    | nil => exact absurd rfl htok
    | cons ch tok => rw [List.cons_append, parse_num (hall ch (by simp))]; exact hnum
  | emptyArr h =>
    intro n p hn
    obtain ⟨n, rfl⟩ : ∃ m, n = m + 1 := ⟨n - 1, by omega⟩
    obtain ⟨p', he⟩ := eat_of_mark h rfl (p + 1)
    exact ⟨p', by rw [parse_arr, he]; rfl⟩
  | @arr ts s r h ih =>
    intro n p hn
    obtain ⟨n, rfl⟩ : ∃ m, n = m + 1 := ⟨n - 1, by omega⟩
    have hhead : 93 ∉ (Cursor.skipWs ⟨p + 1, s⟩).rest.head? := by
      cases h with
      | lastElement ht _ => exact Derives.not_bracket ht _ rfl (p + 1)
      | element ht _ _ => exact Derives.not_bracket ht _ rfl (p + 1)
    obtain ⟨p', hread⟩ := ih n (p + 1) [] (by simp only [List.length_cons] at hn; omega)
    refine ⟨p', ?_⟩
    rw [parse_arr, eat_of_head hhead]
    exact (parseArr_skipWs ..).trans hread
  | emptyObj h =>
    intro n p hn
    obtain ⟨n, rfl⟩ : ∃ m, n = m + 1 := ⟨n - 1, by omega⟩
    obtain ⟨p', he⟩ := eat_of_mark h rfl (p + 1)
    exact ⟨p', by rw [parse_obj, he]; rfl⟩
  | @obj kvs s r h ih =>
    intro n p hn
    obtain ⟨n, rfl⟩ : ∃ m, n = m + 1 := ⟨n - 1, by omega⟩
    have hhead : 125 ∉ (Cursor.skipWs ⟨p + 1, s⟩).rest.head? := by
      cases h with
      | lastMember hk _ _ _ => exact key_not_brace hk (p + 1)
      | member hk _ _ _ _ => exact key_not_brace hk (p + 1)
    obtain ⟨p', hread⟩ := ih n (p + 1) [] (by simp only [List.length_cons] at hn; omega)
    refine ⟨p', ?_⟩
    rw [parse_obj, eat_of_head hhead]
    exact hread
  | lastElement ht hm ih =>
    intro n p acc hn
    obtain ⟨n, rfl⟩ : ∃ m, n = m + 1 := ⟨n - 1, by omega⟩
    obtain ⟨p₁, hval⟩ := ih n p (by omega)
    obtain ⟨p', hclose⟩ := eat_of_mark hm rfl p₁
    exact ⟨p', parseArr_close hval hclose acc⟩
  | element ht hm _ ih ihs =>
    intro n p acc hn
    obtain ⟨n, rfl⟩ : ∃ m, n = m + 1 := ⟨n - 1, by omega⟩
    have hlt := ht.shorter lenient_shortens
    have hlt₂ := hm.shorter
    obtain ⟨p₁, hval⟩ := ih n p (by omega)
    obtain ⟨c₂, p₃, hclose, hcomma⟩ := eat_comma 93 hm (by decide) p₁
    obtain ⟨p', hread⟩ := ihs n p₃ (acc ++ [_]) (by omega)
    refine ⟨p', ?_⟩
    rw [parseArr_comma hval hclose hcomma, hread, List.append_assoc]
    rfl
  | lastMember hk hc ht hm ih =>
    intro n p acc hn
    obtain ⟨n, rfl⟩ : ∃ m, n = m + 1 := ⟨n - 1, by omega⟩
    have hlt := lenient_shortens.key hk
    have hlt₂ := hc.shorter
    obtain ⟨p₁, hkey⟩ := parseStr_complete hk p
    obtain ⟨p₂, hcolon⟩ := eat_of_mark hc rfl p₁
    obtain ⟨p₃, hval⟩ := ih n p₂ (by omega)
    obtain ⟨p', hclose⟩ := eat_of_mark hm rfl p₃
    exact ⟨p', parseObj_close hkey hcolon hval hclose acc⟩
  | member hk hc ht hm _ ih ihs =>
    intro n p acc hn
    obtain ⟨n, rfl⟩ : ∃ m, n = m + 1 := ⟨n - 1, by omega⟩
    have hlt := lenient_shortens.key hk
    have hlt₂ := hc.shorter
    have hlt₃ := ht.shorter lenient_shortens
    have hlt₄ := hm.shorter
    obtain ⟨p₁, hkey⟩ := parseStr_complete hk p
    obtain ⟨p₂, hcolon⟩ := eat_of_mark hc rfl p₁
    obtain ⟨p₃, hval⟩ := ih n p₂ (by omega)
    obtain ⟨c₄, p₅, hclose, hcomma⟩ := eat_comma 125 hm (by decide) p₃
    obtain ⟨p', hread⟩ := ihs n p₅ (acc ++ [_]) (by omega)
    refine ⟨p', ?_⟩
    rw [if_neg Bool.false_ne_true] at hread
    rw [parseObj_comma hkey hcolon hval hclose hcomma, hread, List.append_assoc]
    rfl

/-- The parser accepts its dialect and nothing else. -/
theorem parse_ok_iff (text : Bytes) (t : JsonNode ν) :
    Parse strtod text = .ok t ↔ Text (lenient strtod) t text := by
  constructor
  · intro h
    unfold Parse at h
    cases hp : parse strtod (2 * text.length + 1) ⟨0, text⟩ with
    | error e =>
      rw [hp] at h
      cases h
    | ok tc =>
      obtain ⟨out, c⟩ := tc
      rw [hp] at h
      simp only [bind, Except.bind] at h
      split at h
      · rename_i hend
        cases h
        refine ⟨c.rest, (sound _).value hp, ?_⟩
        obtain ⟨w, hw, hs, -⟩ := skipWs_spec c.p c.rest
        have hempty : (Cursor.skipWs ⟨c.p, c.rest⟩).rest = [] := hend
        rw [hempty, List.append_nil] at hs
        rw [hs]
        exact hw
      · cases h
  · rintro ⟨r, hd, hr⟩
    obtain ⟨p', hread⟩ := reads_of_derives hd (2 * text.length + 1) 0 (by omega)
    have hend : (Cursor.skipWs ⟨p', r⟩).rest = [] := by
      have hskip := skipWs_append hr p' []
      rw [List.append_nil] at hskip
      rw [hskip]
      rfl
    unfold Parse
    simp only [hread, bind, Except.bind, hend, if_pos]
    rfl

/-! ## The fuel suffices -/

theorem strBody_ne_fuel (p : Nat) (acc s : Bytes) : strBody p acc s ≠ .error .fuel := by
  induction p, acc, s using strBody.induct with
  | case1 p acc =>
    rw [strBody.eq_def]
    simp [fail]
  | case2 p acc rest => simp [strBody_quote]
  | case3 p acc =>
    rw [strBody.eq_def]
    simp [fail]
  | case4 p acc h₀ h₁ h₂ h₃ rest _ ih =>
    rw [strBody_hex]
    exact ih
  | case5 p acc rest hshort _ ih =>
    rw [strBody.eq_def]
    rcases rest with _ | ⟨h₀, _ | ⟨h₁, _ | ⟨h₂, _ | ⟨h₃, rest⟩⟩⟩⟩
    · simpa using ih
    · simpa using ih
    · simpa using ih
    · simpa using ih
    · exact (hshort h₀ h₁ h₂ h₃ rest rfl).elim
  | case6 p acc e rest he _ ih =>
    rw [strBody_escape he]
    exact ih
  | case7 p acc c rest hquote hslash ih =>
    rw [strBody_raw ⟨hquote, hslash⟩]
    exact ih

theorem skipWs_length (c : Cursor) : c.skipWs.rest.length ≤ c.rest.length := by
  obtain ⟨p, s⟩ := c
  obtain ⟨w, -, hs, -⟩ := skipWs_spec p s
  have hlen := congrArg List.length hs
  rw [List.length_append] at hlen
  dsimp only
  omega

structure Enough (strtod : Bytes → ν) (n : Nat) : Prop where
  value : ∀ c, 2 * c.rest.length < n → parse strtod n c ≠ .error .fuel
  elements : ∀ c acc, 2 * c.rest.length + 1 < n → parseArr strtod n c acc ≠ .error .fuel
  members : ∀ c acc, 2 * c.rest.length + 1 < n → parseObj strtod n c acc ≠ .error .fuel

theorem Enough.parseArr {n : Nat} (ih : Enough strtod n) (c : Cursor) (acc : List (JsonNode ν))
    (hn : 2 * c.rest.length < n) : parseArr strtod (n + 1) c acc ≠ .error .fuel := by
  unfold Json.parseArr
  cases hval : parse strtod n c with
  | error e =>
    intro h
    cases h
    exact ih.value c hn hval
  | ok vc =>
    obtain ⟨val, c₁⟩ := vc
    simp only [bind, Except.bind]
    rcases hclose : c₁.eat 93 with ⟨closed, c₂⟩
    cases closed with
    | true => simp [pure, Except.pure]
    | false =>
      dsimp only
      rcases hcomma : c₂.eat 44 with ⟨comma, c₃⟩
      cases comma with
      | false => simp [fail]
      | true =>
        have hlt := ((sound n).value hval).shorter lenient_shortens
        have hlt₂ := (skipWs_marks hclose (mark_of_eat hcomma)).shorter
        exact ih.elements c₃ _ (by omega)

theorem Enough.parseObj {n : Nat} (ih : Enough strtod n) (c : Cursor)
    (acc : List (Bytes × JsonNode ν)) (hn : 2 * c.rest.length < n) :
    parseObj strtod (n + 1) c acc ≠ .error .fuel := by
  unfold Json.parseObj
  cases hkey : parseStr c with
  | error e =>
    intro h
    cases h
    exact strBody_ne_fuel _ _ _ hkey
  | ok kc =>
    obtain ⟨key, c₁⟩ := kc
    have hk : (lenient strtod).key false c.rest key c₁.rest := parseStr_sound hkey
    have hlt := lenient_shortens.key hk
    simp only [bind, Except.bind]
    rcases hcolon : c₁.eat 58 with ⟨colon, c₂⟩
    cases colon with
    | false => simp [fail]
    | true =>
      have hlt₁ := (mark_of_eat hcolon).shorter
      cases hval : parse strtod n c₂ with
      | error e =>
        intro h
        cases h
        exact ih.value c₂ (by omega) hval
      | ok vc =>
        obtain ⟨val, c₃⟩ := vc
        dsimp only
        rcases hclose : c₃.eat 125 with ⟨closed, c₄⟩
        cases closed with
        | true => simp [pure, Except.pure]
        | false =>
          dsimp only
          rcases hcomma : c₄.eat 44 with ⟨comma, c₅⟩
          cases comma with
          | false => simp [fail]
          | true =>
            have hlt₂ := ((sound n).value hval).shorter lenient_shortens
            have hlt₃ := (skipWs_marks hclose (mark_of_eat hcomma)).shorter
            exact ih.members c₅ _ (by omega)

theorem parseStr_value_ne_fuel (p : Nat) (s : Bytes) :
    (do let (k, c) ← strBody p [] s
        return (.str k, c) : Except Err (JsonNode ν × Cursor)) ≠ .error .fuel := by
  cases hbody : strBody p [] s with
  | error e =>
    intro h
    cases h
    exact strBody_ne_fuel _ _ _ hbody
  | ok kc => simp [bind, Except.bind, pure, Except.pure]

theorem Enough.parse_head {n : Nat} (ih : Enough strtod n) {ch : UInt8} (hch : isWs ch = false)
    (p : Nat) (s : Bytes) (hn : 2 * s.length + 1 < n) :
    parse strtod (n + 1) ⟨p, ch :: s⟩ ≠ .error .fuel := by
  have hskip : ∀ x closed c, Cursor.eat x ⟨p + 1, s⟩ = (closed, c) → closed = false →
      2 * c.rest.length + 1 < n := by
    rintro x _ c heat rfl
    have hle := skipWs_length ⟨p + 1, s⟩
    rw [(eat_eq_false heat).1]
    dsimp only at hle ⊢
    omega
  by_cases hobj : ch = 123
  · subst hobj
    rw [parse_obj]
    rcases hclose : Cursor.eat 125 ⟨p + 1, s⟩ with ⟨closed, c⟩
    cases closed with
    | true => simp
    | false => exact ih.members c [] (hskip 125 false c hclose rfl)
  · by_cases harr : ch = 91
    · subst harr
      rw [parse_arr]
      rcases hclose : Cursor.eat 93 ⟨p + 1, s⟩ with ⟨closed, c⟩
      cases closed with
      | true => simp
      | false => exact ih.elements c [] (hskip 93 false c hclose rfl)
    · by_cases hstr : ch = 34
      · subst hstr
        rw [parse_str]
        exact parseStr_value_ne_fuel (p + 1) s
      · unfold parse
        rw [skipWs_stop hch]
        dsimp only
        rw [if_neg hobj, if_neg harr, if_neg hstr]
        unfold parseBool parseNull parseNum fail
        dsimp only
        split_ifs <;> simp

theorem enough (n : Nat) : Enough strtod n := by
  induction n with
  | zero =>
    constructor
    · intro c hc
      omega
    · intro c acc hc
      omega
    · intro c acc hc
      omega
  | succ n ih =>
    refine ⟨fun c hn => ?_, fun c acc hn => ih.parseArr c acc (by omega),
      fun c acc hn => ih.parseObj c acc (by omega)⟩
    have hle := skipWs_length c
    obtain ⟨p, s⟩ := c
    obtain ⟨-, -, -, hws⟩ := skipWs_spec p s
    rw [← parse_skipWs]
    generalize Cursor.skipWs ⟨p, s⟩ = e at hws hle
    obtain ⟨q, t⟩ := e
    cases t with
    | nil => exact fun h => by cases h
    | cons ch t =>
      refine ih.parse_head (hws ch (by simp)) q t ?_
      simp only [List.length_cons] at hle hn ⊢
      omega

/-- The parser returns a tree or fails with a message of its own. -/
theorem parse_ne_fuel (text : Bytes) : Parse strtod text ≠ .error .fuel := by
  have henough : Enough strtod (2 * text.length + 1) := enough _
  have hparse := henough.value ⟨0, text⟩ (by simp)
  unfold Parse
  cases hp : parse strtod (2 * text.length + 1) ⟨0, text⟩ with
  | error e =>
    intro h
    cases h
    exact hparse hp
  | ok tc =>
    obtain ⟨out, c⟩ := tc
    simp only [bind, Except.bind]
    split
    · simp [pure, Except.pure]
    · simp

end Json

end Base
