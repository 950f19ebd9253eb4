import GameServer.Base.YamlStyle

/-!
# Lines of the documented subset

What is left of a line when its comment and the whitespace at its ends are off, and from that what
every kind of line does to the reader: a blank one nothing, a name without a value opens a
section, a value or an item goes into its table.
-/

namespace Base

namespace Yaml

open Gateway (Bytes text)

/-! ## Whitespace -/

theorem spaces_isspace {n : Nat} {c : UInt8} (h : c ∈ spaces n) : isspace c = true := by
  rw [List.eq_of_mem_replicate h]
  rfl

theorem dropWhile_of_all {p : UInt8 → Bool} {s : Bytes} (h : ∀ c ∈ s, p c = true) :
    s.dropWhile p = [] := List.dropWhile_eq_nil_iff.mpr h

/-- Whitespace at the end is off already. -/
theorem trim_concat {s : Bytes} {c : UInt8} (hc : isspace c = true) : trim (s ++ [c]) = trim s := by
  unfold trim
  rw [List.dropWhile_append]
  split
  · rename_i hs
    rw [List.isEmpty_iff] at hs
    rw [hs, List.dropWhile_cons_of_pos hc]
    rfl
  · exact List.rdropWhile_concat_pos _ _ _ hc

theorem trim_append_spaces {s w : Bytes} (hw : ∀ c ∈ w, isspace c = true) :
    trim (s ++ w) = trim s := by
  induction w using List.reverseRecOn with
  | nil => rw [List.append_nil]
  | append_singleton w c ih =>
    rw [← List.append_assoc, trim_concat (hw c (by simp))]
    exact ih fun d hd => hw d (by simp [hd])

theorem trim_spaces_append {s w : Bytes} (hw : ∀ c ∈ w, isspace c = true) :
    trim (w ++ s) = trim s := by
  unfold trim
  rw [List.dropWhile_append, dropWhile_of_all hw]
  rfl

theorem trim_rdropWhile (s : Bytes) : trim (s.rdropWhile isspace) = trim s := by
  conv_rhs => rw [← List.rdropWhile_append_rtakeWhile (p := isspace) (l := s)]
  exact (trim_append_spaces fun c hc => List.mem_rtakeWhile_imp hc).symm

theorem Trimmed.trim {s : Bytes} (h : Trimmed s) : trim s = s := by
  have hdrop : s.dropWhile isspace = s := by
    cases s with
    | nil => rfl
    | cons c s => exact List.dropWhile_cons_of_neg (by simp [h.first c rfl])
  unfold Yaml.trim
  rw [hdrop, List.rdropWhile_eq_self_iff]
  intro hne
  rw [h.last _ (List.getLast?_eq_some_getLast hne)]
  exact Bool.false_ne_true

/-- What is no whitespace stays. -/
theorem mem_trim {s : Bytes} {c : UInt8} (hc : c ∈ s) (hspace : isspace c = false) : c ∈ trim s := by
  have hdrop : c ∈ s.dropWhile isspace := by
    rw [← List.takeWhile_append_dropWhile (p := isspace) (l := s)] at hc
    rcases List.mem_append.mp hc with hc | hc
    · rw [List.mem_takeWhile_imp hc] at hspace
      cases hspace
    · exact hc
  unfold trim
  rw [← List.rdropWhile_append_rtakeWhile (p := isspace) (l := s.dropWhile isspace)] at hdrop
  rcases List.mem_append.mp hdrop with hc | hc
  · exact hc
  · rw [List.mem_rtakeWhile_imp hc] at hspace
    cases hspace

/-! ## Comments -/

theorem after_append (q : Quotes) (s u : Bytes) : q.after (s ++ u) = (q.after s).after u :=
  List.foldl_append

/-- The scan of a piece that it cuts nowhere goes on behind it. -/
theorem cutComment_append {q : Quotes} {s : Bytes} (h : cutComment q s = s) (u : Bytes) :
    cutComment q (s ++ u) = s ++ cutComment (q.after s) u := by
  induction s generalizing q with
  | nil => rfl
  | cons c s ih =>
    unfold cutComment at h
    split at h
    · cases h
    · rename_i hc
      rw [List.cons_append, cutComment, if_neg hc, ih (List.cons.inj h).2]
      rfl

theorem cutComment_plain {s : Bytes} (h : 35 ∉ s) (q : Quotes) : cutComment q s = s := by
  induction s generalizing q with
  | nil => rfl
  | cons c s ih =>
    have hc : c ≠ 35 := fun hc => h (hc ▸ List.mem_cons_self)
    rw [cutComment, if_neg fun hcut => hc hcut.1, ih fun hs => h (List.mem_cons_of_mem _ hs)]

/-- A beginning of what the scan leaves is left as it is. -/
theorem cutComment_initial {q : Quotes} {s u : Bytes} (h : u <+: cutComment q s) :
    cutComment q u = u := by
  induction s generalizing q u with
  | nil =>
    rw [List.prefix_nil.mp h]
    rfl
  | cons c s ih =>
    unfold cutComment at h
    split at h
    · rw [List.prefix_nil.mp h]
      rfl
    · rename_i hc
      cases u with
      | nil => rfl
      | cons d u =>
        obtain ⟨rfl, hrest⟩ := List.cons_prefix_cons.mp h
        rw [cutComment, if_neg hc, ih hrest]

theorem cutComment_concat (q : Quotes) (s : Bytes) {c : UInt8} (hc : c ≠ 35) :
    cutComment q (s ++ [c]) = cutComment q s ∨ cutComment q (s ++ [c]) = cutComment q s ++ [c] := by
  induction s generalizing q with
  | nil => exact .inr (by simp [cutComment, hc])
  | cons d s ih =>
    rw [List.cons_append, cutComment, cutComment]
    split
    · exact .inl rfl
    · rcases ih (q.next d) with h | h
      · exact .inl (by rw [h])
      · exact .inr (by rw [h]; rfl)

theorem next_of_ne {q : Quotes} {c : UInt8} (h : c ≠ 34 ∧ c ≠ 39) : q.next c = q := by
  unfold Quotes.next
  rw [if_neg fun hc => h.2 hc.1, if_neg fun hc => h.1 hc.1]

theorem after_of_ne {s : Bytes} (h : ∀ c ∈ s, c ≠ 34 ∧ c ≠ 39) (q : Quotes) : q.after s = q := by
  induction s with
  | nil => rfl
  | cons c s ih =>
    have hhead : q.next c = q := next_of_ne (h c List.mem_cons_self)
    show (q.next c).after s = q
    rw [hhead]
    exact ih fun d hd => h d (List.mem_cons_of_mem _ hd)

/-- A piece that is nothing to the scan: neither quotes nor a comment. -/
def Neutral (s : Bytes) : Prop := ∀ c ∈ s, c ≠ 34 ∧ c ≠ 39 ∧ c ≠ 35

theorem Neutral.cut {s : Bytes} (h : Neutral s) (q : Quotes) (u : Bytes) :
    cutComment q (s ++ u) = s ++ cutComment q u := by
  rw [cutComment_append (cutComment_plain (fun hc => (h 35 hc).2.2 rfl) q),
    after_of_ne fun c hc => ⟨(h c hc).1, (h c hc).2.1⟩]

theorem neutral_spaces (n : Nat) : Neutral (spaces n) := by
  intro c hc
  rw [List.eq_of_mem_replicate hc]
  decide

theorem neutral_key (k : Key) : Neutral (k.1 ++ [58]) := by
  intro c hc
  rcases List.mem_append.mp hc with hc | hc
  · obtain ⟨-, h34, h35, h39, -⟩ := k.2.plain c hc
    exact ⟨h34, h39, h35⟩
  · rw [List.mem_singleton.mp hc]
    decide

theorem cutComment_open {q : Quotes} (hq : q.opened = false) (s : Bytes) :
    cutComment q (35 :: s) = [] := by
  rw [cutComment, if_pos ⟨rfl, by simp [hq]⟩]

/-- Nothing but whitespace is left of what stands behind the content. -/
theorem cutComment_trail (t : Trail) {q : Quotes} (hq : t.comment ≠ none → q.opened = false) :
    ∀ c ∈ cutComment q t.text, isspace c = true := by
  intro c hc
  unfold Trail.text at hc
  rw [(neutral_spaces t.gap).cut] at hc
  rcases List.mem_append.mp hc with hc | hc
  · exact spaces_isspace hc
  cases hcomment : t.comment with
  | none =>
    rw [hcomment] at hc
    cases hcr : t.cr with
    | false => simp [hcr, cutComment] at hc
    | true =>
      rw [hcr] at hc
      have : c = 13 := by simpa [cutComment] using hc
      rw [this]
      decide
  | some comment =>
    rw [hcomment] at hc
    dsimp only [Option.elim] at hc
    rw [List.cons_append, cutComment_open (hq (by simp [hcomment]))] at hc
    cases hc

/-! ## What is left of a line -/

theorem strip_spaces (n : Nat) (s : Bytes) :
    stripCommentAndTrim (spaces n ++ s) = stripCommentAndTrim s := by
  unfold stripCommentAndTrim
  rw [(neutral_spaces n).cut, trim_spaces_append fun c hc => spaces_isspace hc]

theorem strip_trail (t : Trail) : stripCommentAndTrim t.text = [] := by
  have hall := cutComment_trail t (q := {}) fun _ => rfl
  unfold stripCommentAndTrim trim
  rw [dropWhile_of_all hall]
  rfl

/-- Content that hides no comment, with what is behind it. -/
theorem strip_content {s : Bytes} (hs : Trimmed s) (hcut : cutComment {} s = s) (t : Trail)
    (hclosed : t.comment ≠ none → (Quotes.after {} s).opened = false) :
    stripCommentAndTrim (s ++ t.text) = s := by
  unfold stripCommentAndTrim
  rw [cutComment_append hcut, trim_append_spaces (cutComment_trail t hclosed)]
  exact hs.trim

/-- A second pass over what is left after a colon or a dash finds the same. -/
theorem strip_again (s : Bytes) :
    stripCommentAndTrim ((cutComment {} s).rdropWhile isspace) = stripCommentAndTrim s := by
  unfold stripCommentAndTrim
  rw [cutComment_initial (List.rdropWhile_prefix _ _), trim_rdropWhile]

theorem rdropWhile_append_cons {p : UInt8 → Bool} {s u : Bytes} {c : UInt8} (hc : p c = false) :
    (s ++ c :: u).rdropWhile p = s ++ c :: u.rdropWhile p := by
  induction u using List.reverseRecOn with
  | nil => exact List.rdropWhile_concat_neg _ _ _ (by simp [hc])
  | append_singleton u d ih =>
    rw [show s ++ c :: (u ++ [d]) = (s ++ c :: u) ++ [d] by simp]
    by_cases hd : p d = true
    · rw [List.rdropWhile_concat_pos _ _ _ hd, List.rdropWhile_concat_pos _ _ _ hd, ih]
    · rw [List.rdropWhile_concat_neg _ _ _ hd, List.rdropWhile_concat_neg _ _ _ hd]
      simp

/-- The content of a line that begins with a name. -/
theorem strip_key (k : Key) (s : Bytes) : stripCommentAndTrim (k.1 ++ 58 :: s) =
    k.1 ++ 58 :: (cutComment {} s).rdropWhile isspace := by
  have hcut : cutComment {} (k.1 ++ 58 :: s) = k.1 ++ 58 :: cutComment {} s := by
    have := (neutral_key k).cut {} s
    simpa using this
  unfold stripCommentAndTrim trim
  rw [hcut]
  have hdrop : (k.1 ++ 58 :: cutComment {} s).dropWhile isspace = k.1 ++ 58 :: cutComment {} s := by
    obtain ⟨c, rest, hk⟩ := List.exists_cons_of_ne_nil k.2.trimmed.ne
    rw [hk]
    exact List.dropWhile_cons_of_neg (by simp [k.2.trimmed.first c (by rw [hk]; rfl)])
  rw [hdrop]
  exact rdropWhile_append_cons (by decide)

/-- The content of an item. -/
theorem strip_dash (s : Bytes) : stripCommentAndTrim (45 :: s) =
    45 :: (cutComment {} s).rdropWhile isspace := by
  have hcut : cutComment {} (45 :: s) = 45 :: cutComment {} s := by
    have : Neutral [45] := by
      intro c hc
      rw [List.mem_singleton.mp hc]
      decide
    exact this.cut {} s
  unfold stripCommentAndTrim trim
  rw [hcut, List.dropWhile_cons_of_neg (by decide)]
  exact rdropWhile_append_cons (s := []) (by decide)

/-! ## Values -/

/-- What the reader makes of a value. -/
def Scalar.read (s : Scalar) : Bytes := unquote (stripCommentAndTrim s.text)

theorem cutComment_hidden {q : Quotes} {s : Bytes} (hq : q.opened = true)
    (h : ∀ c ∈ s, q.next c = q) : cutComment q s = s ∧ q.after s = q := by
  induction s with
  | nil => exact ⟨rfl, rfl⟩
  | cons c s ih =>
    obtain ⟨hcut, hafter⟩ := ih fun d hd => h d (List.mem_cons_of_mem _ hd)
    have hhead : q.next c = q := h c List.mem_cons_self
    constructor
    · rw [cutComment, if_neg (by simp [hq]), hhead, hcut]
    · show (q.next c).after s = q
      rw [hhead, hafter]

/-- Quotes hide what is between them, and leave the scan as it was. -/
theorem quoted_scan {c : UInt8} {q : Quotes} {v : Bytes} (hq : q.opened = true)
    (hopen : Quotes.next {} c = q) (hclose : q.next c = {}) (hc : c ≠ 35)
    (hv : ∀ d ∈ v, q.next d = q) :
    cutComment {} (c :: (v ++ [c])) = c :: (v ++ [c]) ∧ Quotes.after {} (c :: (v ++ [c])) = {} := by
  obtain ⟨hcut, hafter⟩ := cutComment_hidden hq hv
  constructor
  · rw [cutComment, if_neg fun h => hc h.1, hopen, cutComment_append hcut, hafter, cutComment,
      if_neg fun h => hc h.1]
    rfl
  · show (Quotes.next {} c).after (v ++ [c]) = {}
    rw [hopen, after_append, hafter]
    exact hclose

theorem quoted_trimmed {c : UInt8} (hc : isspace c = false) (v : Bytes) :
    Trimmed (c :: (v ++ [c])) where
  ne := List.cons_ne_nil _ _
  first d hd := by
    cases hd
    exact hc
  last d hd := by
    rw [← List.cons_append, List.getLast?_concat] at hd
    cases hd
    exact hc

theorem unquote_quoted {c : UInt8} (hc : c = 34 ∨ c = 39) (v : Bytes) :
    unquote (c :: (v ++ [c])) = v := by
  have hlast : (c :: (v ++ [c])).getLast? = some c := by
    rw [← List.cons_append, List.getLast?_concat]
  unfold unquote
  rw [hlast, if_pos]
  · simp
  · refine ⟨by simp, ?_⟩
    rcases hc with rfl | rfl <;> simp

theorem unquote_plain {v : Bytes} (h : ∀ c ∈ v.head?, c ≠ 34 ∧ c ≠ 39) : unquote v = v := by
  unfold unquote
  rw [if_neg]
  rintro ⟨-, ⟨hhead, -⟩ | ⟨hhead, -⟩⟩
  · exact (h 34 hhead).1 rfl
  · exact (h 39 hhead).2 rfl

theorem Scalar.trimmed (s : Scalar) : Trimmed (s.style.write s.value) := by
  have hw := s.written
  cases hstyle : s.style with
  | plain =>
    rw [hstyle] at hw
    exact hw.trimmed
  | single => exact quoted_trimmed (by decide) _
  | double => exact quoted_trimmed (by decide) _

/-- A value begins with something that is no whitespace and no comment. -/
theorem Scalar.begins (s : Scalar) : ∃ c rest, s.style.write s.value = c :: rest ∧
    isspace c = false ∧ c ≠ 35 := by
  obtain ⟨c, rest, hc⟩ := List.exists_cons_of_ne_nil s.trimmed.ne
  refine ⟨c, rest, hc, s.trimmed.first c (by rw [hc]; rfl), ?_⟩
  have hw := s.written
  cases hstyle : s.style with
  | plain =>
    rw [hstyle] at hw hc
    rintro rfl
    exact hw.noComment (by rw [show s.value = 35 :: rest from hc]; exact List.mem_cons_self)
  | single =>
    rw [hstyle] at hc
    cases hc
    decide
  | double =>
    rw [hstyle] at hc
    cases hc
    decide

theorem Scalar.strip_ne (s : Scalar) : stripCommentAndTrim s.text ≠ [] := by
  obtain ⟨c, rest, hc, hspace, hne⟩ := s.begins
  intro h
  have hin : c ∈ stripCommentAndTrim s.text := by
    unfold Scalar.text
    rw [strip_spaces, hc]
    refine mem_trim ?_ hspace
    rw [List.cons_append, cutComment, if_neg fun h => hne h.1]
    exact List.mem_cons_self
  rw [h] at hin
  cases hin

/-- A value is read as it was meant, exactly if its comment can be seen. -/
theorem Scalar.read_eq_iff (s : Scalar) : s.read = s.value ↔ s.Clear := by
  have hw := s.written
  unfold Scalar.read Scalar.text Scalar.Clear
  rw [strip_spaces]
  have htrimmed := s.trimmed
  cases hstyle : s.style with
  | single =>
    rw [hstyle] at hw htrimmed
    obtain ⟨hcut, hafter⟩ := quoted_scan (q := { inSingle := true }) (v := s.value) rfl
      (show Quotes.next {} 39 = _ by decide) (by decide) (by decide) fun d hd => by
        have : d ≠ 39 := fun h => hw.2 (h ▸ hd)
        simp [Quotes.next, this]
    refine iff_of_true ?_ nofun
    dsimp only [Style.write] at htrimmed ⊢
    rw [strip_content htrimmed hcut _ fun _ => by rw [hafter]; rfl]
    exact unquote_quoted (.inr rfl) _
  | double =>
    rw [hstyle] at hw htrimmed
    obtain ⟨hcut, hafter⟩ := quoted_scan (q := { inDouble := true }) (v := s.value) rfl
      (show Quotes.next {} 34 = _ by decide) (by decide) (by decide) fun d hd => by
        have : d ≠ 34 := fun h => hw.2 (h ▸ hd)
        simp [Quotes.next, this]
    refine iff_of_true ?_ nofun
    dsimp only [Style.write] at htrimmed ⊢
    rw [strip_content htrimmed hcut _ fun _ => by rw [hafter]; rfl]
    exact unquote_quoted (.inl rfl) _
  | plain =>
    rw [hstyle] at hw htrimmed
    have hcut : cutComment {} s.value = s.value := cutComment_plain hw.noComment {}
    have hunquote : ∀ u, unquote (s.value ++ u) = s.value ++ u := by
      intro u
      refine unquote_plain fun c hc => ?_
      obtain ⟨d, rest, hd⟩ := List.exists_cons_of_ne_nil hw.trimmed.ne
      rw [hd] at hc
      have hfirst := hw.first d (by rw [hd]; rfl)
      cases hc
      exact ⟨hfirst.1, hfirst.2.1⟩
    dsimp only [Style.write] at htrimmed ⊢
    constructor
    · intro hread _ hcomment
      by_contra hopen
      rw [Bool.not_eq_false] at hopen
      obtain ⟨comment, hcomment⟩ := Option.ne_none_iff_exists'.mp hcomment
      -- the comment is not cut off, so its first character is in what is read
      have hlong : ∃ u, cutComment {} (s.value ++ s.trail.text) =
          s.value ++ (spaces s.trail.gap ++ 35 :: u) := by
        rw [cutComment_append hcut, Trail.text, (neutral_spaces _).cut, hcomment]
        exact ⟨_, by rw [Option.elim, List.cons_append, cutComment, if_neg (by simp [hopen])]⟩
      obtain ⟨u, hu⟩ := hlong
      have hin : (35 : UInt8) ∈ stripCommentAndTrim (s.value ++ s.trail.text) := by
        refine mem_trim ?_ (by decide)
        rw [hu]
        simp
      have hinitial : ∃ u', stripCommentAndTrim (s.value ++ s.trail.text) = s.value ++ u' := by
        obtain ⟨d, rest, hd⟩ := List.exists_cons_of_ne_nil hw.trimmed.ne
        unfold stripCommentAndTrim trim
        rw [hu, hd, List.cons_append,
          List.dropWhile_cons_of_neg (by simp [hw.trimmed.first d (by rw [hd]; rfl)]),
          ← List.cons_append, ← hd, ← List.append_assoc, rdropWhile_append_cons (by decide),
          List.append_assoc]
        exact ⟨_, rfl⟩
      obtain ⟨u', hu'⟩ := hinitial
      rw [hu', hunquote] at hread
      rw [hu', hread] at hin
      exact hw.noComment hin
    · intro hclear
      rw [strip_content htrimmed hcut _ (hclear rfl)]
      simpa using hunquote []

end Yaml

end Base
