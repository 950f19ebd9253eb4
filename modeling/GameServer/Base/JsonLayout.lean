import GameServer.Base.JsonAccepts

/-!
# Which JSON texts are read

A printed text comes back as its tree exactly if no key has whitespace between the comma and its
quote, and a malformed text is rejected unless it is of the parser's own dialect.
-/

namespace Base

namespace Json

open JsonGrammar

variable {ν : Type} {strtod : Bytes → ν}

theorem tight_le_lenient : (tight strtod).Le (lenient strtod) where
  string h := Printed.body h
  key {first s k r} h := by
    obtain ⟨w, s', hw, hfirst, rfl, hp⟩ := h
    cases first with
    | true => exact ⟨w, 34, s', hw, rfl, by decide, rfl, hp.body⟩
    | false =>
      rw [hfirst rfl]
      exact ⟨34, s', rfl, hp.body⟩
  number h := by
    obtain ⟨tok, htok, hs, hend, hx⟩ := h
    obtain ⟨hne, hall⟩ := isNumber_chars htok
    exact ⟨tok, hne, hall, hs, hend, hx⟩

theorem Mark.unique {ch : UInt8} {s r r' : Bytes} (h : Mark ch s r) (h' : Mark ch s r')
    (hch : isWs ch = false) : r = r' := by
  obtain ⟨p, he⟩ := eat_of_mark h hch 0
  obtain ⟨p', he'⟩ := eat_of_mark h' hch 0
  rw [he] at he'
  cases he'
  rfl

/-! ## A printed text that comes back is tight -/

/-- The parser comes back from a text that starts with the form, with the form's own value. -/
def Follows (strtod : Bytes → ν) (s r : Bytes) : Form ν → Prop
  | .value t => ∀ n p c, 2 * s.length < n → parse strtod n ⟨p, s⟩ = .ok (t, c) →
      Derives (tight strtod) (.value t) s r ∧ c.rest = r
  | .elements ts => ∀ n p acc c, 2 * s.length + 1 < n →
      parseArr strtod n ⟨p, s⟩ acc = .ok (.arr (acc ++ ts), c) →
      Derives (tight strtod) (.elements ts) s r ∧ c.rest = r
  | .members first kvs => ∀ n p acc c, 2 * s.length + 1 < n →
      parseObj strtod n (if first then Cursor.skipWs ⟨p, s⟩ else ⟨p, s⟩) acc =
        .ok (.obj (acc ++ kvs), c) →
      Derives (tight strtod) (.members first kvs) s r ∧ c.rest = r

/-- Where the text is tight as it stands there is nothing to show. -/
theorem follows_of_tight {t : JsonTree ν} {s r : Bytes}
    (h : Derives (tight strtod) (.value t) s r) :
    Follows strtod s r (.value t) := by
  intro n p c hn hc
  obtain ⟨p', hread⟩ := reads_of_derives (h.mono tight_le_lenient) n p hn
  rw [hread] at hc
  cases hc
  exact ⟨h, rfl⟩

theorem elements_ne_nil {D : Dialect ν} {s r : Bytes} : ¬Derives D (.elements []) s r := by
  intro h
  cases h

theorem members_ne_nil {D : Dialect ν} {first : Bool} {s r : Bytes} :
    ¬Derives D (.members first []) s r := by
  intro h
  cases h

/-- No colon follows the quote where a key of whitespace starts. -/
theorem Printed.no_colon {s k r r' : Bytes} (h : Printed s k r) (hk : AllWs k) :
    ¬Mark 58 s r' := by
  induction h with
  | close r =>
    intro hm
    cases hm with
    | blank hw => cases hw
  | raw hc _ ih =>
    intro hm
    cases hm with
    | here => exact absurd (hk 58 (by simp)) (by decide)
    | blank hw hm => exact ih (fun x hx => hk x (by simp [hx])) hm
  | escape _ _ _ =>
    intro hm
    cases hm with
    | blank hw => cases hw
  | hex _ _ _ _ =>
    intro hm
    cases hm with
    | blank hw => cases hw

theorem body_of_blanks {w : Bytes} (hw : AllWs w) (r : Bytes) : Body (w ++ 34 :: r) w r := by
  induction w with
  | nil => exact .close r
  | cons c w ih =>
    refine .raw ⟨?_, ?_⟩ (ih fun x hx => hw x (by simp [hx]))
    · rintro rfl
      exact absurd (hw 34 (by simp)) (by decide)
    · rintro rfl
      exact absurd (hw 92 (by simp)) (by decide)

/-- A printed key that the parser reads as such, with a colon behind it, is tight: with
whitespace before it, its quote would have ended the parser's key. -/
theorem key_follows {first : Bool} {s k r : Bytes} (h : (printed strtod).key first s k r)
    {p : Nat} {c d : Cursor}
    (hkey : parseStr (if first then Cursor.skipWs ⟨p, s⟩ else ⟨p, s⟩) = .ok (k, c))
    (hcolon : c.eat 58 = (true, d)) : (tight strtod).key first s k r ∧ c.rest = r := by
  obtain ⟨w, s', hw, rfl, hp⟩ := h
  by_cases hgap : first = false → w = []
  · have htight : (tight strtod).key first (w ++ 34 :: s') k r := ⟨w, s', hw, hgap, rfl, hp⟩
    obtain ⟨p', hread⟩ := parseStr_complete (tight_le_lenient.key htight) p
    rw [hread] at hkey
    cases hkey
    exact ⟨htight, rfl⟩
  · exfalso
    obtain ⟨rfl, hne⟩ := Classical.not_imp.mp hgap
    cases w with
    | nil => exact hne rfl
    | cons x w =>
      have hws : AllWs w := fun y hy => hw y (by simp [hy])
      have hread : (lenient strtod).key false (x :: w ++ 34 :: s') w s' :=
        ⟨x, w ++ 34 :: s', rfl, body_of_blanks hws s'⟩
      obtain ⟨p', hread⟩ := parseStr_complete hread p
      rw [hread] at hkey
      cases hkey
      exact hp.no_colon hws (mark_of_eat hcolon)

theorem follows_arr {ts : List (JsonTree ν)} {s r : Bytes}
    (h : Derives (printed strtod) (.elements ts) s r)
    (ih : Follows strtod s r (.elements ts)) : Follows strtod (91 :: s) r (.value (.arr ts)) := by
  intro n p c hn hc
  simp only [List.length_cons] at hn
  obtain ⟨n, rfl⟩ : ∃ m, n = m + 1 := ⟨n - 1, by omega⟩
  rw [parse_arr] at hc
  rcases hclose : Cursor.eat 93 ⟨p + 1, s⟩ with ⟨closed, c'⟩
  rw [hclose] at hc
  cases closed with
  | true =>
    cases hc
    exact absurd h elements_ne_nil
  | false =>
    rw [(eat_eq_false hclose).1] at hc
    obtain ⟨hd, hr⟩ := ih n (p + 1) [] c (by omega) ((parseArr_skipWs ..).symm.trans hc)
    exact ⟨.arr hd, hr⟩

theorem follows_obj {kvs : List (Bytes × JsonTree ν)} {s r : Bytes}
    (h : Derives (printed strtod) (.members true kvs) s r)
    (ih : Follows strtod s r (.members true kvs)) : Follows strtod (123 :: s) r (.value (.obj kvs)) := by
  intro n p c hn hc
  simp only [List.length_cons] at hn
  obtain ⟨n, rfl⟩ : ∃ m, n = m + 1 := ⟨n - 1, by omega⟩
  rw [parse_obj] at hc
  rcases hclose : Cursor.eat 125 ⟨p + 1, s⟩ with ⟨closed, c'⟩
  rw [hclose] at hc
  cases closed with
  | true =>
    cases hc
    exact absurd h members_ne_nil
  | false =>
    rw [(eat_eq_false hclose).1] at hc
    obtain ⟨hd, hr⟩ := ih n (p + 1) [] c (by omega) hc
    exact ⟨.obj hd, hr⟩

/-- The elements of the parser's array, if they are the printed ones. -/
theorem elements_eq {n : Nat} {acc ts : List (JsonNode ν)} {val t : JsonNode ν} {c d : Cursor}
    (h : parseArr strtod n c (acc ++ [val]) = .ok (.arr (acc ++ t :: ts), d)) :
    val = t ∧ ∃ s, Derives (lenient strtod) (.elements ts) s d.rest := by
  obtain ⟨ts', heq, hd⟩ := (sound n).elements h
  have hlist : acc ++ t :: ts = acc ++ val :: ts' := by simpa using heq
  obtain ⟨rfl, rfl⟩ := List.cons.inj (List.append_cancel_left hlist)
  exact ⟨rfl, c.rest, hd⟩

theorem members_eq {n : Nat} {acc kvs : List (Bytes × JsonNode ν)} {kv kv' : Bytes × JsonNode ν}
    {c d : Cursor} (h : parseObj strtod n c (acc ++ [kv']) = .ok (.obj (acc ++ kv :: kvs), d)) :
    kv' = kv ∧ ∃ s, Derives (lenient strtod) (.members false kvs) s d.rest := by
  obtain ⟨kvs', heq, hd⟩ := (sound n).members h
  have hlist : acc ++ kv :: kvs = acc ++ kv' :: kvs' := by simpa using heq
  obtain ⟨rfl, rfl⟩ := List.cons.inj (List.append_cancel_left hlist)
  exact ⟨rfl, c.rest, hd⟩

theorem follows_of_printed {f : Form ν} {s r : Bytes} (h : Derives (printed strtod) f s r) :
    Follows strtod s r f := by
  induction h with
  | blank hc _ ih =>
    intro n p c hn hp
    rw [parse_blank hc] at hp
    obtain ⟨hd, hr⟩ := ih n (p + 1) c (by simp only [List.length_cons] at hn; omega) hp
    exact ⟨.blank hc hd, hr⟩
  | null r => exact follows_of_tight (.null r)
  | true r => exact follows_of_tight (.true r)
  | false r => exact follows_of_tight (.false r)
  | str h => exact follows_of_tight (.str h)
  | num h => exact follows_of_tight (.num h)
  | emptyArr h => exact follows_of_tight (.emptyArr h)
  | arr h ih => exact follows_arr h ih
  | emptyObj h => exact follows_of_tight (.emptyObj h)
  | obj h ih => exact follows_obj h ih
  | @lastElement t s r₁ r ht hm ih =>
    intro n p acc c hn hp
    obtain ⟨n, rfl⟩ : ∃ m, n = m + 1 := ⟨n - 1, by omega⟩
    obtain ⟨val, c₁, hval, ⟨hclose, heq⟩ | ⟨c₂, c₃, -, -, hrest⟩⟩ := parseArr_ok hp
    · obtain rfl : val = t := by simpa using heq.symm
      obtain ⟨hd, hr⟩ := ih n p c₁ (by omega) hval
      have hmark := mark_of_eat hclose
      rw [hr] at hmark
      exact ⟨.lastElement hd hm, Mark.unique hmark hm rfl⟩
    · obtain ⟨-, s', hnil⟩ := elements_eq hrest
      exact absurd hnil elements_ne_nil
  | @element t ts s r₁ r₂ r ht hm hts ih ihs =>
    intro n p acc c hn hp
    obtain ⟨n, rfl⟩ : ∃ m, n = m + 1 := ⟨n - 1, by omega⟩
    obtain ⟨val, c₁, hval, ⟨-, heq⟩ | ⟨c₂, c₃, hclose, hcomma, hrest⟩⟩ := parseArr_ok hp
    · obtain ⟨-, rfl⟩ : val = t ∧ ts = [] := by simpa [eq_comm] using heq
      exact absurd hts elements_ne_nil
    · obtain ⟨rfl, -⟩ := elements_eq hrest
      obtain ⟨hd, hr⟩ := ih n p c₁ (by omega) hval
      have hmark := skipWs_marks hclose (mark_of_eat hcomma)
      rw [hr] at hmark
      obtain ⟨p₃, s₃⟩ := c₃
      obtain rfl : s₃ = r₂ := Mark.unique hmark hm rfl
      have hlt := (hd.mono tight_le_lenient).shorter lenient_shortens
      have hlt₂ := hm.shorter
      rw [List.append_cons acc val ts] at hrest
      obtain ⟨hds, hrs⟩ := ihs n p₃ _ c (by omega) hrest
      exact ⟨.element hd hm hds, hrs⟩
  | @lastMember first k t s r₁ r₂ r₃ r hk hc ht hm ih =>
    intro n p acc c hn hp
    obtain ⟨n, rfl⟩ : ∃ m, n = m + 1 := ⟨n - 1, by omega⟩
    obtain ⟨key, val, c₁, c₂, c₃, hkey, hcolon, hval, htail⟩ := parseObj_ok hp
    have heq : key = k ∧ val = t := by
      rcases htail with ⟨-, heq⟩ | ⟨c₄, c₅, -, -, hrest⟩
      · simpa [eq_comm] using heq
      · exact Prod.mk.inj (members_eq hrest).1
    obtain ⟨rfl, rfl⟩ := heq
    obtain ⟨htight, hr₁⟩ := key_follows hk hkey hcolon
    obtain ⟨p₂, s₂⟩ := c₂
    obtain rfl : s₂ = r₂ := Mark.unique (hr₁ ▸ mark_of_eat hcolon) hc rfl
    have hlt := lenient_shortens.key (tight_le_lenient.key htight)
    have hlt₂ := hc.shorter
    obtain ⟨hd, hr⟩ := ih n p₂ c₃ (by omega) hval
    refine ⟨.lastMember htight hc hd hm, ?_⟩
    rcases htail with ⟨hclose, -⟩ | ⟨c₄, c₅, -, -, hrest⟩
    · exact Mark.unique (hr ▸ mark_of_eat hclose) hm rfl
    · obtain ⟨-, s', hnil⟩ := members_eq hrest
      exact absurd hnil members_ne_nil
  | @member first k t kvs s r₁ r₂ r₃ r₄ r hk hc ht hm hkvs ih ihs =>
    intro n p acc c hn hp
    obtain ⟨n, rfl⟩ : ∃ m, n = m + 1 := ⟨n - 1, by omega⟩
    obtain ⟨key, val, c₁, c₂, c₃, hkey, hcolon, hval, htail⟩ := parseObj_ok hp
    rcases htail with ⟨-, heq⟩ | ⟨c₄, c₅, hclose, hcomma, hrest⟩
    · obtain ⟨-, rfl⟩ : (k = key ∧ t = val) ∧ kvs = [] := by simpa using heq
      exact absurd hkvs members_ne_nil
    · obtain ⟨rfl, rfl⟩ := Prod.mk.inj (members_eq hrest).1
      obtain ⟨htight, hr₁⟩ := key_follows hk hkey hcolon
      obtain ⟨p₂, s₂⟩ := c₂
      obtain rfl : s₂ = r₂ := Mark.unique (hr₁ ▸ mark_of_eat hcolon) hc rfl
      have hlt := lenient_shortens.key (tight_le_lenient.key htight)
      have hlt₂ := hc.shorter
      obtain ⟨hd, hr⟩ := ih n p₂ c₃ (by omega) hval
      obtain ⟨p₅, s₅⟩ := c₅
      have hmark := skipWs_marks hclose (mark_of_eat hcomma)
      rw [hr] at hmark
      obtain rfl : s₅ = r₄ := Mark.unique hmark hm rfl
      have hlt₃ := (hd.mono tight_le_lenient).shorter lenient_shortens
      have hlt₄ := hm.shorter
      rw [List.append_cons acc (key, val) kvs] at hrest
      obtain ⟨hds, hrs⟩ := ihs n p₅ _ c (by omega) hrest
      exact ⟨.member htight hc hd hm hds, hrs⟩

/-- A printed text is tight exactly if the parser comes back with its tree. -/
theorem printed_ok_iff {text : Bytes} {t : JsonNode ν} (h : Text (printed strtod) t text) :
    Parse strtod text = .ok t ↔ Text (tight strtod) t text := by
  constructor
  · intro hok
    obtain ⟨r, hd, hr⟩ := h
    unfold Parse at hok
    cases hp : parse strtod (2 * text.length + 1) ⟨0, text⟩ with
    | error e =>
      rw [hp] at hok
      cases hok
    | ok tc =>
      obtain ⟨out, c⟩ := tc
      rw [hp] at hok
      simp only [bind, Except.bind] at hok
      split at hok
      · cases hok
        exact ⟨r, (follows_of_printed hd _ 0 c (by omega) hp).1, hr⟩
      · cases hok
  · intro htight
    exact (parse_ok_iff text t).mpr (htight.mono tight_le_lenient)

/-! ## Malformed texts -/

/-- The places of a text: a value, the elements of an array, the members of an object. -/
inductive Place where
  | value
  | elements
  | members (first : Bool)

/-- Behind well-formed parts, the text has something else than a quoted string where an object
has a key, or a number token that is no JSON number. -/
inductive Malformed (strtod : Bytes → ν) : Place → Bytes → Prop where
  | blank {c : UInt8} {s : Bytes} (hc : isWs c = true) (h : Malformed strtod .value s) :
      Malformed strtod .value (c :: s)
  | number {tok r : Bytes} (htok : tok ≠ [] ∧ ∀ c ∈ tok, isNumChar c = true) (hr : NumberEnds r)
      (hnot : isNumber tok = false) : Malformed strtod .value (tok ++ r)
  | arr {s : Bytes} (h : Malformed strtod .elements s) : Malformed strtod .value (91 :: s)
  | obj {s : Bytes} (h : Malformed strtod (.members true) s) : Malformed strtod .value (123 :: s)
  | element {s : Bytes} (h : Malformed strtod .value s) : Malformed strtod .elements s
  | laterElement {t : JsonTree ν} {s r₁ r₂ : Bytes} (ht : Derives (quoted strtod) (.value t) s r₁)
      (hm : Mark 44 r₁ r₂) (h : Malformed strtod .elements r₂) : Malformed strtod .elements s
  | key {first : Bool} {w s : Bytes} {c : UInt8} (hw : AllWs w) (hc : isWs c = false ∧ c ≠ 34)
      (hclose : first = true → c ≠ 125) : Malformed strtod (.members first) (w ++ c :: s)
  | member {first : Bool} {k s r₁ r₂ : Bytes} (hk : (quoted strtod).key first s k r₁)
      (hm : Mark 58 r₁ r₂) (h : Malformed strtod .value r₂) : Malformed strtod (.members first) s
  | laterMember {first : Bool} {k s r₁ r₂ r₃ r₄ : Bytes} {t : JsonTree ν}
      (hk : (quoted strtod).key first s k r₁) (hc : Mark 58 r₁ r₂)
      (ht : Derives (quoted strtod) (.value t) r₂ r₃) (hm : Mark 44 r₃ r₄)
      (h : Malformed strtod (.members false) r₄) : Malformed strtod (.members first) s

/-- What the claim asks of a text. -/
structure Grammatical (strtod : Bytes → ν) (text : Bytes) : Prop where
  accepts : ∀ t, Text (printed strtod) t text → Parse strtod text = .ok t
  rejects : Malformed strtod .value text → ∃ msg, Parse strtod text = .error (.fail msg)

/-- A text is rejected with a message exactly if it is not of the parser's dialect. -/
theorem rejected_iff (text : Bytes) : (∃ msg, Parse strtod text = .error (.fail msg)) ↔
    ¬∃ t, Text (lenient strtod) t text := by
  constructor
  · rintro ⟨msg, herr⟩ ⟨t, ht⟩
    rw [(parse_ok_iff text t).mpr ht] at herr
    cases herr
  · intro hnot
    cases hp : Parse strtod text with
    | ok t => exact absurd ⟨t, (parse_ok_iff text t).mp hp⟩ hnot
    | error e =>
      cases e with
      | fuel => exact absurd hp (parse_ne_fuel text)
      | fail msg => exact ⟨msg, rfl⟩

/-- The parser does what the grammar says of a text exactly if no key of the text has whitespace
between the comma and its quote, and the text is not one that, though malformed, is of the
parser's own dialect: with some character in the place of the opening quote of a key, or a run of
the characters of numbers in the place of a number. -/
theorem grammatical_iff (text : Bytes) : Grammatical strtod text ↔
    (∀ t, Text (printed strtod) t text → Text (tight strtod) t text) ∧
      ¬(Malformed strtod .value text ∧ ∃ t, Text (lenient strtod) t text) := by
  constructor
  · intro h
    refine ⟨fun t ht => (printed_ok_iff ht).mp (h.accepts t ht), ?_⟩
    rintro ⟨hbad, hlenient⟩
    exact (rejected_iff text).mp (h.rejects hbad) hlenient
  · rintro ⟨htight, hnot⟩
    refine ⟨fun t ht => (printed_ok_iff ht).mpr (htight t ht), fun hbad => ?_⟩
    exact (rejected_iff text).mpr fun hlenient => hnot ⟨hbad, hlenient⟩

/-- An object of two members, printed with a blank behind its comma, is rejected; an object whose
key starts with another character than a quote is read, and so is a lone minus for a number. -/
theorem misread_texts :
    ¬Grammatical (id : Bytes → Bytes) [123, 34, 97, 34, 58, 49, 44, 32, 34, 98, 34, 58, 50, 125] ∧
    ¬Grammatical (id : Bytes → Bytes) [123, 120, 97, 34, 58, 49, 125] ∧
    ¬Grammatical (id : Bytes → Bytes) [45] := by
  have hraw : ∀ (c : UInt8) (r : Bytes), 32 ≤ c ∧ c < 128 ∧ c ≠ 34 ∧ c ≠ 92 →
      Printed (c :: 34 :: r) [c] r := fun c r hc => .raw hc (.close r)
  refine ⟨fun h => ?_, fun h => ?_, fun h => ?_⟩
  · have hprinted : Text (printed id) (.obj [([97], .num [49]), ([98], .num [50])])
        [123, 34, 97, 34, 58, 49, 44, 32, 34, 98, 34, 58, 50, 125] := by
      have hfirst : (printed (id : Bytes → Bytes)).key true
          [34, 97, 34, 58, 49, 44, 32, 34, 98, 34, 58, 50, 125] [97]
          [58, 49, 44, 32, 34, 98, 34, 58, 50, 125] :=
        ⟨[], _, by simp [AllWs], rfl, hraw 97 _ (by decide)⟩
      have hnext : (printed (id : Bytes → Bytes)).key false
          [32, 34, 98, 34, 58, 50, 125] [98] [58, 50, 125] :=
        ⟨[32], _, by simp [AllWs, show isWs 32 = true from rfl], rfl, hraw 98 _ (by decide)⟩
      have hone : (printed (id : Bytes → Bytes)).number
          [49, 44, 32, 34, 98, 34, 58, 50, 125] [49] [44, 32, 34, 98, 34, 58, 50, 125] :=
        ⟨[49], rfl, rfl, by simp [NumberEnds, show isNumChar 44 = false from rfl], rfl⟩
      have htwo : (printed (id : Bytes → Bytes)).number [50, 125] [50] [125] :=
        ⟨[50], rfl, rfl, by simp [NumberEnds, show isNumChar 125 = false from rfl], rfl⟩
      exact ⟨[], .obj (.member hfirst (.here _) (.num hone) (.here _)
        (.lastMember hnext (.here _) (.num htwo) (.here _))), by simp⟩
    cases h.accepts _ hprinted
  · have hbad : Malformed (id : Bytes → Bytes) .value [123, 120, 97, 34, 58, 49, 125] :=
      .obj (.key (w := []) (by simp [AllWs]) (by decide) (by decide))
    obtain ⟨msg, herr⟩ := h.rejects hbad
    cases herr
  · have hbad : Malformed (id : Bytes → Bytes) .value ([45] ++ []) :=
      .number ⟨by simp, by simp [show isNumChar 45 = true from rfl]⟩ (by simp [NumberEnds]) rfl
    obtain ⟨msg, herr⟩ := h.rejects hbad
    cases herr

end Json

end Base
