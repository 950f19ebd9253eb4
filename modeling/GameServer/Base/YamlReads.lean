import Mathlib.Data.List.TakeDrop
import GameServer.Base.YamlLines
import GameServer.Base.YamlPaths

/-!
# What the reader makes of a text

A document without tabs is always taken, and every value of it is found under its own path, as
the reader reads it. So the tables are the flattened mapping exactly if every value is read as it
was meant. Whether another text is rejected its lines say, each for itself.
-/

namespace Base

namespace Yaml

open Gateway (Bytes text)

variable {k lineNo : Nat} {r r' r'' : Reader} {l : Bytes}

/-! ## One line -/

theorem popCr_eq (raw : Bytes) : popCr raw = raw ∨ raw = popCr raw ++ [13] := by
  unfold popCr
  split
  · rename_i h
    obtain ⟨s, rfl⟩ := List.getLast?_eq_some_iff.mp h
    exact .inr (by rw [List.dropLast_concat])
  · exact .inl rfl

theorem strip_popCr (raw : Bytes) : stripCommentAndTrim (popCr raw) = stripCommentAndTrim raw := by
  rcases popCr_eq raw with h | h
  · rw [h]
  · conv_rhs => rw [h]
    unfold stripCommentAndTrim
    rcases cutComment_concat {} (popCr raw) (c := 13) (by decide) with h | h
    · rw [h]
    · rw [h, trim_concat (by decide)]

theorem tab_popCr (raw : Bytes) : 9 ∈ popCr raw ↔ 9 ∈ raw := by
  rcases popCr_eq raw with h | h
  · rw [h]
  · conv_rhs => rw [h]
    simp

theorem indentOf_popCr (raw : Bytes) : indentOf (popCr raw) = indentOf raw := by
  rcases popCr_eq raw with h | h
  · rw [h]
  · conv_rhs => rw [h]
    unfold indentOf
    rw [List.takeWhile_append]
    split
    · rename_i hall
      simp [hall]
    · rfl

theorem indentOf_spaces {n : Nat} {c : UInt8} {s : Bytes} (hc : isspace c = false) :
    indentOf (spaces n ++ c :: s) = n := by
  have hne : c ≠ 32 := by
    rintro rfl
    cases hc
  unfold indentOf
  rw [List.takeWhile_append_of_pos fun d hd => by simp [List.eq_of_mem_replicate hd],
    List.takeWhile_cons_of_neg (by simpa using hne), List.append_nil]
  exact List.length_replicate

theorem parseLine_eq (htab : 9 ∉ l) : parseLine lineNo l r =
    if stripCommentAndTrim l = [] then .ok r
    else parseContent lineNo (indentOf l) (stripCommentAndTrim l)
      (r.stack.dropWhile fun f => indentOf l ≤ toSize f.indent) r.yaml := by
  unfold parseLine
  dsimp only
  rw [if_neg fun h => htab ((tab_popCr l).mp h), strip_popCr, indentOf_popCr]
  simp only [List.isEmpty_iff]

/-! ## Lines that are taken -/

/-- The lines lead from one state of the reader to another. -/
def Takes (ls : List Bytes) (r r' : Reader) : Prop := ∀ k, parseLines k ls r = .ok r'

theorem parseLines_append (ls ms : List Bytes) : parseLines k (ls ++ ms) r =
    match parseLines k ls r with
    | .error err => .error err
    | .ok r => parseLines (k + ls.length) ms r := by
  induction ls generalizing k r with
  | nil => rfl
  | cons l ls ih =>
    rw [List.cons_append, parseLines, parseLines]
    cases parseLine (k + 1) l r with
    | error err => rfl
    | ok r =>
      dsimp only
      rw [ih, List.length_cons, Nat.add_assoc, Nat.add_comm 1]

theorem Takes.append {ls ms : List Bytes} (h : Takes ls r r') (h' : Takes ms r' r'') :
    Takes (ls ++ ms) r r'' := by
  intro k
  rw [parseLines_append, h k]
  exact h' _

theorem Takes.cons {ls : List Bytes} (h : ∀ k, parseLine k l r = .ok r') (h' : Takes ls r' r'') :
    Takes (l :: ls) r r'' := by
  intro k
  rw [parseLines, h]
  exact h' _

theorem takes_blank (t : Trail) (htab : 9 ∉ t.text) : parseLine lineNo t.text r = .ok r := by
  rw [parseLine_eq htab, if_pos (strip_trail t)]

theorem takes_blanks {blanks : List Trail} (htab : ∀ l ∈ blanks.map Trail.text, 9 ∉ l) :
    Takes (blanks.map Trail.text) r r := by
  induction blanks with
  | nil => exact fun _ => rfl
  | cons t blanks ih =>
    exact .cons (fun _ => takes_blank t (htab _ List.mem_cons_self))
      (ih fun l hl => htab l (List.mem_cons_of_mem _ hl))

theorem Key.begins (key : Key) : ∃ c rest, key.1 = c :: rest ∧ isspace c = false ∧ c ≠ 45 := by
  obtain ⟨c, rest, hc⟩ := List.exists_cons_of_ne_nil key.2.trimmed.ne
  exact ⟨c, rest, hc, key.2.trimmed.first c (by rw [hc]; rfl),
    (key.2.first c (by rw [hc]; rfl)).1⟩

/-- A line with a name: a section opens, or a value goes into the table. -/
theorem parseLine_key (n : Nat) (key : Key) (s : Bytes)
    (htab : 9 ∉ spaces n ++ (key.1 ++ 58 :: s)) :
    parseLine lineNo (spaces n ++ (key.1 ++ 58 :: s)) r =
      let stack := r.stack.dropWhile fun f => n ≤ toSize f.indent
      let fullKey := joinPath (parentPath stack) key.1
      .ok <|
        if stripCommentAndTrim s = [] then { stack := ⟨.ofNat n, fullKey⟩ :: stack, yaml := r.yaml }
        else { stack, yaml := r.yaml.set fullKey (unquote (stripCommentAndTrim s)) } := by
  obtain ⟨c, rest, hc, hspace, hdash⟩ := key.begins
  have hindent : indentOf (spaces n ++ (key.1 ++ 58 :: s)) = n := by
    rw [hc]
    exact indentOf_spaces hspace
  have hkey : stripCommentAndTrim key.1 = key.1 := by
    unfold stripCommentAndTrim
    rw [cutComment_plain fun h => (key.2.plain 35 h).2.2.1 rfl]
    exact key.2.trimmed.trim
  have hspan : ∀ u, (key.1 ++ 58 :: u).span (· ≠ 58) = (key.1, 58 :: u) := by
    intro u
    have hne : ∀ d ∈ key.1, decide (d ≠ 58) = true := fun d hd => by
      simpa using (key.2.plain d hd).2.2.2.2
    rw [List.span_eq_takeWhile_dropWhile, List.takeWhile_append_of_pos hne,
      List.dropWhile_append_of_pos hne]
    simp
  rw [parseLine_eq htab, hindent, strip_spaces, strip_key, if_neg (by simp)]
  unfold parseContent
  dsimp only
  rw [if_neg (by rw [hc]; simpa using hdash), hspan]
  dsimp only
  rw [hkey, strip_again, if_neg (by simpa using key.2.trimmed.ne)]
  by_cases hs : stripCommentAndTrim s = []
  · rw [if_pos hs, if_pos (by simp [hs])]
  · rw [if_neg hs, if_neg (by simpa using hs)]

/-- A line with an item. -/
theorem parseLine_item (n : Nat) (s : Bytes) (htab : 9 ∉ spaces n ++ 45 :: s)
    (hs : stripCommentAndTrim s ≠ []) :
    parseLine lineNo (spaces n ++ 45 :: s) r =
      let stack := r.stack.dropWhile fun f => n ≤ toSize f.indent
      .ok { stack, yaml := r.yaml.push (parentPath stack) (unquote (stripCommentAndTrim s)) } := by
  have hindent : indentOf (spaces n ++ 45 :: s) = n := indentOf_spaces (by decide)
  rw [parseLine_eq htab, hindent, strip_spaces, strip_dash, if_neg (by simp)]
  unfold parseContent
  dsimp only
  rw [List.head?_cons, if_pos rfl, List.tail_cons, strip_again, if_neg (by simpa using hs)]

/-! ## Mappings -/

def setAll (t : Table Bytes Bytes) (rows : List (Bytes × Scalar)) : Table Bytes Bytes :=
  rows.foldl (fun t row => t.insert row.1 row.2.read) t

def pushAll (t : Table Bytes (List Bytes)) (rows : List (Bytes × List Scalar)) :
    Table Bytes (List Bytes) :=
  rows.foldl (fun t row =>
    t.insert row.1 ((t.lookup row.1).getD [] ++ row.2.map Scalar.read)) t

theorem setAll_append (t : Table Bytes Bytes) (rows rows' : List (Bytes × Scalar)) :
    setAll t (rows ++ rows') = setAll (setAll t rows) rows' := List.foldl_append

theorem pushAll_append (t : Table Bytes (List Bytes)) (rows rows' : List (Bytes × List Scalar)) :
    pushAll t (rows ++ rows') = pushAll (pushAll t rows) rows' := List.foldl_append

/-- The frames of a deeper indentation are taken off, the others stay. -/
theorem dropWhile_frames {junk S : List Frame} {n : Nat} (hjunk : ∀ f ∈ junk, n ≤ toSize f.indent)
    (hS : ∀ f ∈ S.head?, toSize f.indent < n) :
    (junk ++ S).dropWhile (fun f => n ≤ toSize f.indent) = S := by
  rw [List.dropWhile_append_of_pos fun f hf => by simpa using hjunk f hf]
  cases S with
  | nil => rfl
  | cons f S => exact List.dropWhile_cons_of_neg (by simpa using hS f rfl)

theorem toSize_ofNat {n : Nat} (h : n < 2 ^ 31) : toSize (.ofNat n) = n := by
  unfold toSize
  rw [Int32.toInt_ofNat_of_lt h]
  omega

/-- An indentation that does not fit an `int` is negative there, and more than any other as a
size. -/
theorem le_toSize {n m : Nat} (hwide : 2 ^ 31 ≤ n) (hn : n < 2 ^ 32) (hm : m ≤ 2 ^ 32) :
    m ≤ toSize (.ofNat n) := by
  unfold toSize
  rw [Int32.toInt_ofNat']
  simp only [Int.bmod, Int32.size]
  omega

/-- The items of a list, once its key has been read. -/
theorem takes_items {m : Nat} (items : List (List Trail × Scalar)) (junk S : List Frame)
    (y : YamlLite) (hjunk : ∀ f ∈ junk, m ≤ toSize f.indent)
    (hS : ∀ f ∈ S.head?, toSize f.indent < m)
    (htab : ∀ l ∈ items.flatMap (Block.itemLines m), 9 ∉ l) :
    Takes (items.flatMap (Block.itemLines m)) { stack := junk ++ S, yaml := y }
      { stack := if items = [] then junk ++ S else S
        yaml := items.foldl (fun y item => y.push (parentPath S) item.2.read) y } := by
  induction items generalizing junk y with
  | nil => exact fun _ => rfl
  | cons item items ih =>
    rw [List.flatMap_cons] at htab ⊢
    have hrest := ih [] (y.push (parentPath S) item.2.read) (by simp) fun l hl =>
      htab l (List.mem_append_right _ hl)
    rw [List.nil_append, ite_self] at hrest
    rw [if_neg (List.cons_ne_nil _ _)]
    refine .append ?_ hrest
    have hlines : ∀ l ∈ Block.itemLines m item, 9 ∉ l := fun l hl =>
      htab l (List.mem_append_left _ hl)
    unfold Block.itemLines at hlines ⊢
    refine .append (takes_blanks fun l hl => hlines l (List.mem_append_left _ hl))
      (.cons (fun lineNo => ?_) fun _ => rfl)
    rw [parseLine_item m item.2.text (hlines _ (by simp)) item.2.strip_ne]
    dsimp only
    rw [dropWhile_frames hjunk hS]
    rfl

theorem foldl_push (path : Bytes) (items : List (List Trail × Scalar)) (y : YamlLite) :
    items.foldl (fun y item => y.push path item.2.read) y = { y with
      lists := if items = [] then y.lists else y.lists.insert path
        ((y.lists.lookup path).getD [] ++ (items.map (·.2)).map Scalar.read) } := by
  induction items generalizing y with
  | nil => rfl
  | cons item items ih =>
    rw [List.foldl_cons, ih, if_neg (List.cons_ne_nil _ _)]
    unfold YamlLite.push
    dsimp only
    split
    · rename_i h
      subst h
      simp
    · rw [Table.lookup_insert_same, AList.insert_insert]
      simp

/-- A name opens a section: either its frame is on the stack when the lines of the section come, or
it does not fit an `int` and the first of them takes it off. -/
theorem section_stack {n step : Nat} (hfit : n < 2 ^ 31 ∨ n + step + 1 < 2 ^ 32) (key : Key)
    (S : List Frame) (hS : ∀ f ∈ S.head?, toSize f.indent < n) :
    ∃ lost kept : List Frame,
      ⟨.ofNat n, joinPath (parentPath S) key.1⟩ :: S = lost ++ (kept ++ S) ∧
        (∀ f ∈ lost, n + step + 1 ≤ toSize f.indent) ∧
        (∀ f ∈ (kept ++ S).head?, toSize f.indent < n + step + 1) ∧
        (∀ f ∈ kept, n ≤ toSize f.indent) ∧
        parentPath (kept ++ S) = sectionPath n (parentPath S) key.1 := by
  unfold sectionPath
  by_cases hnarrow : n < 2 ^ 31
  · have hsize := toSize_ofNat hnarrow
    refine ⟨[], [_], rfl, by simp, fun f hf => ?_, fun f hf => ?_, (if_pos hnarrow).symm⟩
    · cases hf
      dsimp only
      omega
    · rw [List.mem_singleton.mp hf]
      exact hsize.ge
  · have hwidth := hfit.resolve_left hnarrow
    refine ⟨[_], [], rfl, fun f hf => ?_, fun f hf => ?_, by simp, (if_neg hnarrow).symm⟩
    · rw [List.mem_singleton.mp hf]
      exact le_toSize (by omega) (by omega) (by omega)
    · have := hS f hf
      omega

/-- All lines of a mapping. Frames of its own may be left above those it began with. -/
theorem takes_block (b : Block) {n : Nat} (junk S : List Frame) (y : YamlLite) (meant : Bytes)
    (hfits : b.Fits n) (hjunk : ∀ f ∈ junk, n ≤ toSize f.indent)
    (hS : ∀ f ∈ S.head?, toSize f.indent < n) (htab : ∀ l ∈ b.lines n, 9 ∉ l) :
    ∃ junk', (∀ f ∈ junk', n ≤ toSize f.indent) ∧
      Takes (b.lines n) { stack := junk ++ S, yaml := y }
        { stack := junk' ++ S
          yaml :=
            { values := setAll y.values ((b.valueRows n meant (parentPath S)).map (·.2))
              lists := pushAll y.lists ((b.listRows n meant (parentPath S)).map (·.2)) } } := by
  induction b generalizing n junk S y meant with
  | done blanks => exact ⟨junk, hjunk, takes_blanks htab⟩
  | value blanks key s rest ih =>
    have hrest : ∀ l ∈ rest.lines n, 9 ∉ l := fun l hl => htab l (by simp [Block.lines, hl])
    obtain ⟨junk', hjunk', htakes⟩ := ih [] S (y.set (joinPath (parentPath S) key.1) s.read) meant
      hfits (by simp) hS hrest
    refine ⟨junk', hjunk', .append (takes_blanks fun l hl => htab l (List.mem_append_left _ hl))
      (.cons (fun lineNo => ?_) htakes)⟩
    rw [parseLine_key n key s.text (htab _ (by simp [Block.lines]))]
    dsimp only
    rw [dropWhile_frames hjunk hS, if_neg s.strip_ne]
    rfl
  | items blanks key trail step first more rest ih =>
    have hrest : ∀ l ∈ rest.lines n, 9 ∉ l := fun l hl => htab l (by simp [Block.lines, hl])
    obtain ⟨lost, kept, hstack, hlost, htop, hkept, hpath⟩ := section_stack hfits.1 key S hS
    have hitems := takes_items (first :: more) lost (kept ++ S) y hlost htop fun l hl => htab l (by
      simp only [Block.lines, List.mem_append, List.mem_cons]
      tauto)
    rw [if_neg (List.cons_ne_nil _ _), foldl_push, if_neg (List.cons_ne_nil _ _), hpath] at hitems
    obtain ⟨junk', hjunk', htakes⟩ := ih kept S
      { y with
        lists := y.lists.insert (sectionPath n (parentPath S) key.1)
          ((y.lists.lookup (sectionPath n (parentPath S) key.1)).getD [] ++
            ((first :: more).map (·.2)).map Scalar.read) }
      meant hfits.2 hkept hS hrest
    refine ⟨junk', hjunk', .append (takes_blanks fun l hl => htab l (List.mem_append_left _ hl))
      (.cons (fun lineNo => ?_) (.append hitems htakes))⟩
    rw [parseLine_key n key trail.text (htab _ (by simp [Block.lines]))]
    dsimp only
    rw [dropWhile_frames hjunk hS, if_pos (strip_trail trail), hstack]
  | nested blanks key trail step body rest ihbody ih =>
    have hbody : ∀ l ∈ body.lines (n + step + 1), 9 ∉ l := fun l hl =>
      htab l (by simp [Block.lines, hl])
    have hrest : ∀ l ∈ rest.lines n, 9 ∉ l := fun l hl => htab l (by simp [Block.lines, hl])
    obtain ⟨lost, kept, hstack, hlost, htop, hkept, hpath⟩ := section_stack hfits.1 key S hS
    obtain ⟨inner, hinner, htakes₁⟩ := ihbody lost (kept ++ S) y (joinPath meant key.1) hfits.2.1
      hlost htop hbody
    rw [hpath] at htakes₁
    -- the frames of the body and that of the section itself are the rest's to take off
    let rows := body.valueRows (n + step + 1) (joinPath meant key.1)
      (sectionPath n (parentPath S) key.1)
    let listed := body.listRows (n + step + 1) (joinPath meant key.1)
      (sectionPath n (parentPath S) key.1)
    obtain ⟨junk', hjunk', htakes₂⟩ := ih (inner ++ kept) S
      { values := setAll y.values (rows.map (·.2)), lists := pushAll y.lists (listed.map (·.2)) }
      meant hfits.2.2
      (fun f hf => by
        rcases List.mem_append.mp hf with hf | hf
        · have := hinner f hf
          omega
        · exact hkept f hf)
      hS hrest
    rw [List.append_assoc] at htakes₂
    refine ⟨junk', hjunk', .append (takes_blanks fun l hl => htab l (List.mem_append_left _ hl))
      (.cons (fun lineNo => ?_) (.append htakes₁ ?_))⟩
    · rw [parseLine_key n key trail.text (htab _ (by simp [Block.lines]))]
      dsimp only
      rw [dropWhile_frames hjunk hS, if_pos (strip_trail trail), hstack]
    · dsimp only at htakes₂
      rw [← setAll_append, ← pushAll_append, ← List.map_append, ← List.map_append] at htakes₂
      exact htakes₂

/-! ## Tables -/

theorem lookup_setAll {rows : List (Bytes × Scalar)} (h : (rows.map (·.1)).Nodup)
    (t : Table Bytes Bytes) (k v : Bytes) : (setAll t rows).lookup k = some v ↔
      (∃ s, (k, s) ∈ rows ∧ s.read = v) ∨ (k ∉ rows.map (·.1) ∧ t.lookup k = some v) := by
  induction rows generalizing t with
  | nil => simp [setAll]
  | cons row rows ih =>
    obtain ⟨hrow, hrows⟩ := List.nodup_cons.mp h
    show (setAll (t.insert row.1 row.2.read) rows).lookup k = some v ↔ _
    rw [ih hrows, Table.lookup_insert]
    by_cases hk : k = row.1
    · subst hk
      have hnot : ∀ s, (row.1, s) ∉ rows := fun s hs => hrow (List.mem_map.mpr ⟨_, hs, rfl⟩)
      rw [if_pos rfl]
      constructor
      · rintro (⟨s, hs, -⟩ | ⟨-, hv⟩)
        · exact absurd hs (hnot s)
        · exact .inl ⟨row.2, List.mem_cons_self, Option.some.inj hv⟩
      · rintro (⟨s, hs, hv⟩ | ⟨hnin, -⟩)
        · rcases List.mem_cons.mp hs with heq | hs
          · exact .inr ⟨hrow, by rw [← hv, ← heq]⟩
          · exact absurd hs (hnot s)
        · exact absurd (by simp) hnin
    · rw [if_neg hk]
      have hmem : ∀ s, (k, s) ∈ row :: rows ↔ (k, s) ∈ rows := fun s => by
        rw [List.mem_cons, or_iff_right]
        rintro rfl
        exact hk rfl
      simp only [hmem, List.map_cons, List.mem_cons, hk, false_or]

theorem lookup_pushAll {rows : List (Bytes × List Scalar)} (h : (rows.map (·.1)).Nodup)
    (t : Table Bytes (List Bytes)) (k : Bytes) (vs : List Bytes)
    (ht : ∀ k ∈ rows.map (·.1), t.lookup k = none) : (pushAll t rows).lookup k = some vs ↔
      (∃ ss, (k, ss) ∈ rows ∧ ss.map Scalar.read = vs) ∨
        (k ∉ rows.map (·.1) ∧ t.lookup k = some vs) := by
  induction rows generalizing t with
  | nil => simp [pushAll]
  | cons row rows ih =>
    obtain ⟨hrow, hrows⟩ := List.nodup_cons.mp h
    have hnone : t.lookup row.1 = none := ht row.1 (by simp)
    show (pushAll (t.insert row.1 ((t.lookup row.1).getD [] ++ row.2.map Scalar.read)) rows).lookup
      k = some vs ↔ _
    have hrest : ∀ k ∈ rows.map (·.1), (t.insert row.1
        ((t.lookup row.1).getD [] ++ row.2.map Scalar.read)).lookup k = none := by
      intro k hk
      have hne : k ≠ row.1 := by
        rintro rfl
        exact hrow hk
      rw [Table.lookup_insert, if_neg hne]
      exact ht k (List.mem_cons_of_mem _ hk)
    rw [ih hrows _ hrest, Table.lookup_insert, hnone]
    by_cases hk : k = row.1
    · subst hk
      have hnot : ∀ ss, (row.1, ss) ∉ rows := fun ss hs => hrow (List.mem_map.mpr ⟨_, hs, rfl⟩)
      rw [if_pos rfl]
      constructor
      · rintro (⟨ss, hs, -⟩ | ⟨-, hv⟩)
        · exact absurd hs (hnot ss)
        · exact .inl ⟨row.2, List.mem_cons_self, by simpa using hv⟩
      · rintro (⟨ss, hs, hv⟩ | ⟨hnin, -⟩)
        · rcases List.mem_cons.mp hs with heq | hs
          · exact .inr ⟨hrow, by rw [← hv, ← heq]; rfl⟩
          · exact absurd hs (hnot ss)
        · exact absurd (by simp) hnin
    · rw [if_neg hk]
      have hmem : ∀ ss, (k, ss) ∈ row :: rows ↔ (k, ss) ∈ rows := fun ss => by
        rw [List.mem_cons, or_iff_right]
        rintro rfl
        exact hk rfl
      simp only [hmem, List.map_cons, List.mem_cons, hk, false_or]

theorem mem_of_lookup_setAll {rows : List (Bytes × Scalar)} {t : Table Bytes Bytes} {k v : Bytes}
    (h : (setAll t rows).lookup k = some v) : k ∈ rows.map (·.1) ∨ t.lookup k = some v := by
  induction rows generalizing t with
  | nil => exact .inr h
  | cons row rows ih =>
    rcases ih h with hmem | hlookup
    · exact .inl (List.mem_cons_of_mem _ hmem)
    · rw [Table.lookup_insert] at hlookup
      split at hlookup
      · rename_i heq
        exact .inl (heq ▸ List.mem_cons_self)
      · exact .inr hlookup

theorem mem_of_lookup_pushAll {rows : List (Bytes × List Scalar)} {t : Table Bytes (List Bytes)}
    {k : Bytes} {vs : List Bytes} (h : (pushAll t rows).lookup k = some vs) :
    k ∈ rows.map (·.1) ∨ t.lookup k = some vs := by
  induction rows generalizing t with
  | nil => exact .inr h
  | cons row rows ih =>
    rcases ih h with hmem | hlookup
    · exact .inl (List.mem_cons_of_mem _ hmem)
    · rw [Table.lookup_insert] at hlookup
      split at hlookup
      · rename_i heq
        exact .inl (heq ▸ List.mem_cons_self)
      · exact .inr hlookup

/-! ## Documents -/

namespace Document

variable (d : Document)

/-- The tables that the reader makes. -/
def tables : YamlLite where
  values := setAll ∅ ((d.block.valueRows d.indent [] []).map (·.2))
  lists := pushAll ∅ ((d.block.listRows d.indent [] []).map (·.2))

section

variable {d} (hnarrow : d.block.Narrow d.indent)
include hnarrow

theorem lookup_values (k v : Bytes) : d.tables.values.lookup k = some v ↔
    ∃ s, (k, s) ∈ d.block.values [] ∧ s.read = v := by
  unfold tables
  rw [hnarrow.valueRows]
  refine (lookup_setAll d.values_nodup ∅ k v).trans (or_iff_left ?_)
  rintro ⟨-, h⟩
  cases h

theorem lookup_lists (k : Bytes) (vs : List Bytes) : d.tables.lists.lookup k = some vs ↔
    ∃ ss, (k, ss) ∈ d.block.lists [] ∧ ss.map Scalar.read = vs := by
  unfold tables
  rw [hnarrow.listRows]
  refine (lookup_pushAll d.lists_nodup ∅ k vs fun _ _ => rfl).trans (or_iff_left ?_)
  rintro ⟨-, h⟩
  cases h

end

/-- Where all values and lists are found, none is put under a path that is too short. -/
theorem narrow_of_flattened (hwithin : d.block.Within d.indent) (h : d.Flattened d.tables) :
    d.block.Narrow d.indent := by
  by_contra hwide
  rcases Block.exists_short d.block hwithin hwide [] with ⟨r, hr, hshort⟩ | ⟨r, hr, hshort⟩
  · have hmeant := d.block.valueRows_meant d.indent [] []
    refine Block.no_short ?_ (Block.same_or_short d.block (.inl rfl)) (fun r hr => ?_) r hr hshort
    · have hnodup := d.values_nodup
      rw [← hmeant, List.map_map] at hnodup
      exact hnodup
    · have hrow : (r.1, r.2.2) ∈ d.block.values [] := by
        rw [← hmeant]
        exact List.mem_map_of_mem hr
      have hfound := (h.values r.1 r.2.2.value).mpr ⟨r.2.2, hrow, rfl⟩
      obtain hmem | hnone := mem_of_lookup_setAll hfound
      · rw [List.map_map] at hmem
        exact List.mem_map.mp hmem
      · cases hnone
  · have hmeant := d.block.listRows_meant d.indent [] []
    refine Block.no_short ?_ (Block.same_or_short d.block (.inl rfl)) (fun r hr => ?_) r hr hshort
    · have hnodup := d.lists_nodup
      rw [← hmeant, List.map_map] at hnodup
      exact hnodup
    · have hrow : (r.1, r.2.2) ∈ d.block.lists [] := by
        rw [← hmeant]
        exact List.mem_map_of_mem hr
      have hfound := (h.lists r.1 (r.2.2.map Scalar.value)).mpr ⟨r.2.2, hrow, rfl⟩
      obtain hmem | hnone := mem_of_lookup_pushAll hfound
      · rw [List.map_map] at hmem
        exact List.mem_map.mp hmem
      · cases hnone

end Document

theorem spaces_line {n : Nat} : (10 : UInt8) ∉ spaces n := fun h =>
  absurd (List.eq_of_mem_replicate h) (by decide)

theorem Trail.text_line (t : Trail) : 10 ∉ t.text := by
  have hcomment := t.line
  unfold Trail.text
  simp only [List.mem_append, not_or]
  refine ⟨spaces_line, ?_, by split <;> simp⟩
  cases hc : t.comment with
  | none => simp
  | some comment =>
    have := hcomment comment hc
    simpa using this

theorem Scalar.text_line (s : Scalar) : 10 ∉ s.text := by
  have hw := s.written
  unfold Scalar.text
  simp only [List.mem_append, not_or]
  refine ⟨spaces_line, ?_, s.trail.text_line⟩
  cases hstyle : s.style with
  | plain =>
    rw [hstyle] at hw
    exact hw.line
  | single =>
    rw [hstyle] at hw
    simpa [Style.write] using hw.1
  | double =>
    rw [hstyle] at hw
    simpa [Style.write] using hw.1

theorem Key.line (key : Key) : 10 ∉ key.1 := fun h => (key.2.plain 10 h).1 rfl

theorem blanks_line {blanks : List Trail} : ∀ l ∈ blanks.map Trail.text, 10 ∉ l := by
  intro l hl
  obtain ⟨t, -, rfl⟩ := List.mem_map.mp hl
  exact t.text_line

theorem key_line {n : Nat} (key : Key) {s : Bytes} (hs : 10 ∉ s) :
    10 ∉ spaces n ++ (key.1 ++ 58 :: s) := by
  simp [spaces_line, key.line, hs]

/-- No line of a mapping has a line break. -/
theorem Block.lines_line (b : Block) (n : Nat) : ∀ l ∈ b.lines n, 10 ∉ l := by
  induction b generalizing n with
  | done blanks => exact blanks_line
  | value blanks key s rest ih =>
    intro l hl
    rcases List.mem_append.mp hl with hl | hl
    · exact blanks_line l hl
    rcases List.mem_cons.mp hl with rfl | hl
    · exact key_line key s.text_line
    · exact ih n l hl
  | items blanks key trail step first more rest ih =>
    intro l hl
    rcases List.mem_append.mp hl with hl | hl
    · exact blanks_line l hl
    rcases List.mem_cons.mp hl with rfl | hl
    · exact key_line key trail.text_line
    rcases List.mem_append.mp hl with hl | hl
    · obtain ⟨item, -, hl⟩ := List.mem_flatMap.mp hl
      rcases List.mem_append.mp hl with hl | hl
      · exact blanks_line l hl
      · rw [List.mem_singleton.mp hl]
        simp [spaces_line, item.2.text_line]
    · exact ih n l hl
  | nested blanks key trail step body rest ihbody ih =>
    intro l hl
    rcases List.mem_append.mp hl with hl | hl
    · exact blanks_line l hl
    rcases List.mem_cons.mp hl with rfl | hl
    · exact key_line key trail.text_line
    rcases List.mem_append.mp hl with hl | hl
    · exact ihbody _ l hl
    · exact ih n l hl

/-! ## Texts that are rejected -/

/-- Whether a line is taken depends on nothing but the line. -/
theorem parseLine_error_iff (lineNo : Nat) (r : Reader) : (∃ err, parseLine lineNo l r = .error err) ↔ Refused l := by
  unfold Refused
  by_cases htab : 9 ∈ l
  · have hline : parseLine lineNo l r =
        .error (lineError lineNo (text "tab is not allowed for indentation")) :=
      if_pos ((tab_popCr l).mpr htab)
    exact iff_of_true ⟨_, hline⟩ (.inl htab)
  rw [parseLine_eq htab]
  generalize stripCommentAndTrim l = content
  by_cases hne : content = []
  · subst hne
    rw [if_pos rfl]
    simp [htab]
  rw [if_neg hne]
  unfold parseContent
  dsimp only
  by_cases hdash : content.head? = some 45
  · rw [if_pos hdash]
    cases hitem : stripCommentAndTrim content.tail with
    | nil => exact iff_of_true ⟨_, rfl⟩ (.inr (.inl ⟨hdash, rfl⟩))
    | cons c item =>
      refine iff_of_false ?_ ?_
      · rintro ⟨err, herr⟩
        cases herr
      · rintro (h | ⟨-, h⟩ | ⟨⟨-, h⟩, -⟩)
        · exact htab h
        · cases h
        · exact h hdash
  rw [if_neg hdash, List.span_eq_takeWhile_dropWhile]
  have hcolon : content.dropWhile (· ≠ 58) = [] ↔ 58 ∉ content := by
    rw [List.dropWhile_eq_nil_iff]
    constructor
    · exact fun h hin => by simpa using h 58 hin
    · intro h c hc
      simpa using fun heq : c = 58 => h (heq ▸ hc)
  cases hbehind : content.dropWhile (· ≠ 58) with
  | nil => exact iff_of_true ⟨_, rfl⟩ (.inr (.inr ⟨⟨hne, hdash⟩, .inl (hcolon.mp hbehind)⟩))
  | cons c behind =>
    have hin : ¬ 58 ∉ content := fun h => by
      rw [hcolon.mpr h] at hbehind
      cases hbehind
    dsimp only
    cases hkey : stripCommentAndTrim (content.takeWhile (· ≠ 58)) with
    | nil => exact iff_of_true ⟨_, rfl⟩ (.inr (.inr ⟨⟨hne, hdash⟩, .inr rfl⟩))
    | cons d key =>
      refine iff_of_false ?_ ?_
      · rintro ⟨err, herr⟩
        rw [if_neg (by simp)] at herr
        split at herr <;> cases herr
      · rintro (h | ⟨h, -⟩ | ⟨-, h | h⟩)
        · exact htab h
        · exact hdash h
        · exact hin h
        · cases h

theorem parseLines_error_iff (ls : List Bytes) :
    (∃ err, parseLines k ls r = .error err) ↔ ∃ l ∈ ls, Refused l := by
  induction ls generalizing k r with
  | nil => exact iff_of_false (fun ⟨_, h⟩ => by cases h) (by simp)
  | cons l ls ih =>
    rw [parseLines]
    cases hline : parseLine (k + 1) l r with
    | error err =>
      exact iff_of_true ⟨err, rfl⟩ ⟨l, List.mem_cons_self, (parseLine_error_iff _ _).mp ⟨err, hline⟩⟩
    | ok r' =>
      dsimp only
      have hnot : ¬ Refused l := fun h => by
        obtain ⟨err, herr⟩ := (parseLine_error_iff (k + 1) r).mpr h
        rw [hline] at herr
        cases herr
      rw [ih]
      simp [hnot]

theorem rejected_iff (s : Bytes) :
    (∃ err, parse s = .error err) ↔ ∃ l ∈ s.splitOn 10, Refused l := by
  rw [← parseLines_error_iff (k := 0) (r := {})]
  unfold parse
  cases parseLines 0 (s.splitOn 10) {} with
  | error err => exact iff_of_true ⟨err, rfl⟩ ⟨err, rfl⟩
  | ok r =>
    refine iff_of_false ?_ ?_ <;> rintro ⟨err, herr⟩ <;> cases herr

theorem mem_intercalate {c : UInt8} (hc : c ≠ 10) (ls : List Bytes) :
    c ∈ [10].intercalate ls ↔ ∃ l ∈ ls, c ∈ l := by
  induction ls with
  | nil => simp
  | cons l ls ih =>
    cases ls with
    | nil => simp
    | cons l' ls =>
      rw [List.intercalate_cons_cons, List.mem_append, List.mem_append, ih]
      simp [hc]

/-- A text with a tab in it, wherever it may be, is rejected. -/
theorem rejected_of_tab {s : Bytes} (h : 9 ∈ s) : ∃ err, parse s = .error err := by
  rw [rejected_iff]
  have hs : [10].intercalate (s.splitOn 10) = s := List.intercalate_splitOn 10
  rw [← hs, mem_intercalate (by decide)] at h
  obtain ⟨l, hl, htab⟩ := h
  exact ⟨l, hl, .inl htab⟩

/-- A document without a tab is taken. -/
theorem Document.parse_text (d : Document) (hfits : d.block.Fits d.indent) (h : 9 ∉ d.text) :
    parse d.text = .ok d.tables := by
  unfold Document.text at h ⊢
  rw [mem_intercalate (by decide)] at h
  obtain ⟨junk, -, htakes⟩ : ∃ junk, _ ∧ Takes (d.block.lines d.indent) {}
      { stack := junk ++ [], yaml := d.tables } :=
    takes_block d.block [] [] {} [] hfits (by simp) (by simp) fun l hl htab => h ⟨l, hl, htab⟩
  unfold parse
  cases hlines : d.block.lines d.indent with
  | nil =>
    -- the empty text has one line, with nothing on it
    rw [hlines] at htakes
    have htables : ({} : Reader) = { stack := junk ++ [], yaml := d.tables } :=
      Except.ok.inj (htakes 0)
    have hempty : d.tables = {} := (congrArg Reader.yaml htables).symm
    rw [hempty]
    rfl
  | cons l ls =>
    rw [← hlines, List.splitOn_intercalate _ (d.block.lines_line d.indent) (by simp [hlines]),
      htakes 0]
    rfl

theorem row_unique {α : Type} {rows : List (Bytes × α)} (h : (rows.map (·.1)).Nodup) {k : Bytes}
    {a b : α} (ha : (k, a) ∈ rows) (hb : (k, b) ∈ rows) : a = b :=
  (Prod.mk.inj (List.inj_on_of_nodup_map h ha hb rfl)).2

/-- If every value is put where it belongs, the tables are the flattened mapping exactly if every
value is read as it was meant. -/
theorem Document.flattened_iff {d : Document} (hnarrow : d.block.Narrow d.indent) :
    d.Flattened d.tables ↔ ∀ s ∈ d.scalars, s.read = s.value := by
  constructor
  · intro hflat s hs
    rcases List.mem_append.mp hs with hs | hs
    · obtain ⟨⟨k, s⟩, hrow, rfl⟩ := List.mem_map.mp hs
      obtain ⟨s', hrow', hread⟩ :=
        (lookup_values hnarrow k s.value).mp ((hflat.values k s.value).mpr ⟨s, hrow, rfl⟩)
      rw [row_unique d.values_nodup hrow' hrow] at hread
      exact hread
    · obtain ⟨⟨k, ss⟩, hrow, hs⟩ := List.mem_flatMap.mp hs
      obtain ⟨ss', hrow', hread⟩ := (lookup_lists hnarrow k (ss.map Scalar.value)).mp
        ((hflat.lists k (ss.map Scalar.value)).mpr ⟨ss, hrow, rfl⟩)
      rw [row_unique d.lists_nodup hrow' hrow] at hread
      exact List.map_inj_left.mp hread s hs
  · intro hread
    constructor
    · intro k v
      rw [lookup_values hnarrow]
      refine exists_congr fun s => and_congr_right fun hrow => ?_
      rw [hread s (List.mem_append_left _ (List.mem_map.mpr ⟨_, hrow, rfl⟩))]
    · intro k vs
      rw [lookup_lists hnarrow]
      refine exists_congr fun ss => and_congr_right fun hrow => ?_
      rw [List.map_congr_left fun s hs =>
        hread s (List.mem_append_right _ (List.mem_flatMap.mpr ⟨_, hrow, hs⟩))]

/-- Of what is not supported, a tab in the indentation is always seen. -/
theorem tabIndented_rejected {s : Bytes} (h : ∃ l ∈ s.splitOn 10, TabIndented l) :
    ∃ err, parse s = .error err := by
  obtain ⟨l, hl, n, u, rfl⟩ := h
  exact (rejected_iff s).mpr ⟨_, hl, .inl (by simp)⟩

/-! ## A list on one line -/

def inlineList : Bytes := text "Root:\n    list: [a, b]  # two\n"

theorem inlineList_unsupported : Unsupported inlineList := by
  have hkey : KeyName (text "list") :=
    ⟨⟨by decide +kernel, by decide +kernel, by decide +kernel⟩, by decide +kernel, by decide +kernel⟩
  refine ⟨text "    list: [a, b]  # two", by decide +kernel, .inr (.inr ?_)⟩
  exact ⟨4, 0, text "a, b]  # two", 91, .inl rfl, .inr (.inr ⟨⟨text "list", hkey⟩, rfl⟩)⟩

end Yaml

end Base
