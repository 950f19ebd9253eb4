import GameServer.Lua.TableFaults
import GameServer.Lua.TableWrites

/-!
# Reading a table back

The rows of the table of a message, and when reading them gives the message again: no class
that is met has a map, every enum number is declared, and no message is deeper than the stack.
-/

namespace Pbl

open LuaApi

variable {D F : Type}

mutual

/-- How deep a content is nested, the message fields without a message included. -/
def Content.levels : Content D F → Nat
  | .unset => 1
  | .scalar _ => 1
  | .message cs => allLevels cs + 1
  | .repeated es => allLevels es + 1
  | .map es => allLevels es + 1
  | .entry _ v => v.levels + 1

def allLevels : List (Content D F) → Nat
  | [] => 0
  | c :: cs => max c.levels (allLevels cs)

end

theorem Content.levels_pos (c : Content D F) : 1 ≤ c.levels := by
  cases c <;> simp [Content.levels]

mutual

theorem Content.height_le (c : Content D F) : c.height ≤ c.levels :=
  match c with
  | .unset => Nat.zero_le _
  | .scalar _ => Nat.le_refl _
  | .message cs => Nat.succ_le_succ (heights_le cs)
  | .repeated es => Nat.succ_le_succ (heights_le es)
  | .map es => Nat.succ_le_succ (heights_le es)
  | .entry _ v => Nat.succ_le_succ v.height_le

theorem heights_le (cs : List (Content D F)) : heights cs ≤ allLevels cs :=
  match cs with
  | [] => Nat.le_refl _
  | c :: cs => Nat.max_le.mpr ⟨Nat.le_trans c.height_le (Nat.le_max_left _ _),
      Nat.le_trans (heights_le cs) (Nat.le_max_right _ _)⟩

end

def Scalar.Declared : ScalarType → Scalar D F → Prop
  | .enum ed, .enum n => ed.Declares n
  | _, _ => True

mutual

/-- No message of the content belongs to a class with a map, and no enum has a number without
a name. -/
def Plain (P : Pool) : CppType → Content D F → Prop
  | .scalar t, .scalar s => s.Declared t
  | .message d, .message cs => PlainFields P (P d).fields cs
  | _, _ => True

def PlainFields (P : Pool) : List FieldDescriptor → List (Content D F) → Prop
  | f :: fs, c :: cs =>
    (match f.type, c with
      | .single t, c => Plain P t c
      | .repeated t, .repeated es => PlainElements P t es
      | .map _ _, _ => False
      | _, _ => True) ∧ PlainFields P fs cs
  | _, _ => True

def PlainElements (P : Pool) (t : CppType) : List (Content D F) → Prop
  | [] => True
  | e :: es => Plain P t e ∧ PlainElements P t es

end

def PlainField (P : Pool) : FieldType → Content D F → Prop
  | .single t, c => Plain P t c
  | .repeated t, .repeated es => PlainElements P t es
  | .map _ _, _ => False
  | _, _ => True

variable {L : State D} {fmt : FloatFormat D F} {P : Pool}

@[simp] theorem plainFields_cons {f : FieldDescriptor} {fs : List FieldDescriptor}
    {c : Content D F} {cs : List (Content D F)} :
    PlainFields P (f :: fs) (c :: cs) ↔ PlainField P f.type c ∧ PlainFields P fs cs := by
  rw [PlainFields.eq_def]
  rfl

/-! ## The rows of a table -/

theorem ofNat_inj {i j : Nat} (hi : i < 2 ^ 63) (hj : j < 2 ^ 63)
    (h : Int64.ofNat i = Int64.ofNat j) : i = j := by
  have hint := congrArg Int64.toInt h
  rw [Int64.toInt_ofNat_of_lt hi, Int64.toInt_ofNat_of_lt hj] at hint
  omega

variable (fmt) in
theorem valueOf_ne_nil {t : CppType} {c : Content D F} (h : Typed P t c) :
    (valueOf fmt P t c).isNil = false := by
  cases t with
  | scalar t =>
    cases c with
    | scalar s => cases t <;> cases s <;> first | exact h.elim | rfl
    | _ => exact h.elim
  | message d =>
    cases c with
    | message cs => rfl
    | _ => exact h.elim

section Elements

variable {t : CppType}

/-- Elements are put under higher and higher numbers. -/
theorem elementRows_le {i j : Nat} (hi : i ≤ j) (es : List (Content D F))
    (hj : j + es.length < 2 ^ 63) (rows : Rows D) :
    valueAt (elementRows fmt P t j es rows) (.integer (.ofNat i)) =
      valueAt rows (.integer (.ofNat i)) := by
  induction es generalizing j rows with
  | nil => rfl
  | cons e es ih =>
    rw [List.length_cons] at hj
    rw [elementRows, ih (by omega) (by omega), valueAt_putAt, if_neg]
    intro heq
    have := ofNat_inj (by omega) (by omega) (Key.integer.inj heq)
    omega

theorem elementRows_gt {i j : Nat} (hi : i < 2 ^ 63) (es : List (Content D F))
    (hj : j + es.length < i) (rows : Rows D) :
    valueAt (elementRows fmt P t j es rows) (.integer (.ofNat i)) =
      valueAt rows (.integer (.ofNat i)) := by
  induction es generalizing j rows with
  | nil => rfl
  | cons e es ih =>
    rw [List.length_cons] at hj
    rw [elementRows, ih (by omega), valueAt_putAt, if_neg]
    intro heq
    have := ofNat_inj (by omega) (by omega) (Key.integer.inj heq)
    omega

variable (fmt) in
theorem elementRows_at {j k : Nat} {es : List (Content D F)} (hj : j + es.length < 2 ^ 63)
    (rows : Rows D) {e : Content D F} (hk : es[k]? = some e) :
    valueAt (elementRows fmt P t j es rows) (.integer (.ofNat (j + 1 + k))) = valueOf fmt P t e := by
  induction es generalizing j k rows with
  | nil => cases hk
  | cons d es ih =>
    rw [List.length_cons] at hj
    rw [elementRows]
    cases k with
    | zero =>
      obtain rfl : d = e := by simpa using hk
      rw [Nat.add_zero, elementRows_le (Nat.le_refl _) es (by omega), valueAt_putAt, if_pos rfl]
    | succ k =>
      rw [show j + 1 + (k + 1) = j + 1 + 1 + k by omega]
      exact ih (by omega) _ (by simpa using hk)

theorem typedElements_iff {es : List (Content D F)} :
    TypedElements P t es ↔ ∀ e ∈ es, Typed P t e := by
  induction es with
  | nil => simp [TypedElements]
  | cons e es ih => simp [TypedElements, ih]

/-- The length of the table of a repeated field is the number of its elements. -/
theorem border_elementRows {es : List (Content D F)} (ht : TypedElements P t es)
    (hlen : es.length < 2 ^ 31) : L.border (elementRows fmt P t 0 es []) = es.length := by
  have hlt := L.border_lt (elementRows fmt P t 0 es [])
  rcases Nat.lt_trichotomy (L.border (elementRows fmt P t 0 es [])) es.length with h | h | h
  · have hnone := L.border_none (elementRows fmt P t 0 es []) (by omega)
    have hat := elementRows_at (j := 0) (P := P) (t := t) fmt (by omega) []
      (List.getElem?_eq_getElem h)
    have hne := valueOf_ne_nil fmt (typedElements_iff.mp ht _ (List.getElem_mem h))
    rw [← hat, Nat.zero_add, Nat.add_comm 1, hnone] at hne
    cases hne
  · exact h
  · have hsome := L.border_some (elementRows fmt P t 0 es []) (by omega)
    rw [elementRows_gt hlt es (by omega), valueAt_nil] at hsome
    exact absurd rfl hsome

end Elements

section Rows

variable (fmt P)

/-- What the table of a message holds for a field. -/
def fieldValue : FieldType → Content D F → Value D
  | .single t, c => valueOf fmt P t c
  | .repeated t, .repeated es => .table (elementRows fmt P t 0 es [])
  | .map k t, .map es => .table (entryRows fmt P k t es [])
  | _, _ => .nil

/-- The rows hold the values of the fields. -/
def Shown (rows : Rows D) : List FieldDescriptor → List (Content D F) → Prop
  | f :: fs, c :: cs =>
    valueAt rows (.string (cstr f.name)) = fieldValue fmt P f.type c ∧ Shown rows fs cs
  | _, _ => True

variable {fmt P}

/-- Only a message that was never set has no row. -/
theorem fieldRows_cons {f : FieldDescriptor} {fs : List FieldDescriptor} {c : Content D F}
    (h : TypedField P f.type c) (cs : List (Content D F)) (rows : Rows D) :
    fieldRows fmt P (f :: fs) (c :: cs) rows =
      fieldRows fmt P fs cs (if (fieldValue fmt P f.type c).isNil then rows
        else putAt rows (.string (cstr f.name)) (fieldValue fmt P f.type c)) := by
  obtain ⟨name, type⟩ := f
  cases type with
  | single t =>
    cases t with
    | scalar t =>
      cases c with
      | scalar s =>
        have hne := valueOf_ne_nil (t := .scalar t) fmt h
        simp only [fieldRows, fieldValue, hne, Bool.false_eq_true, if_false]
      | _ => exact h.elim
    | message d =>
      cases c with
      | unset => rfl
      | message cs => rfl
      | _ => exact h.elim
  | «repeated» t =>
    cases c with
    | «repeated» es => rfl
    | _ => exact h.elim
  | map k t =>
    cases c with
    | map es => rfl
    | _ => exact h.elim

theorem fieldRows_other {name : Bytes} {fs : List FieldDescriptor}
    (hname : ∀ f ∈ fs, cstr f.name ≠ name) {cs : List (Content D F)} (h : TypedFields P fs cs)
    (rows : Rows D) :
    valueAt (fieldRows fmt P fs cs rows) (.string name) = valueAt rows (.string name) := by
  induction fs generalizing cs rows with
  | nil =>
    cases cs with
    | nil => rfl
    | cons c cs => exact h.elim
  | cons f fs ih =>
    cases cs with
    | nil => exact h.elim
    | cons c cs =>
      obtain ⟨hc, hcs⟩ := typedFields_cons.mp h
      rw [fieldRows_cons hc, ih (fun f hf => hname f (List.mem_cons_of_mem _ hf)) hcs]
      split
      · rfl
      · rw [valueAt_putAt, if_neg]
        intro heq
        exact hname f List.mem_cons_self (Key.string.inj heq).symm

theorem Value.eq_nil {v : Value D} (h : v.isNil = true) : v = .nil := by
  cases v <;> first | rfl | cases h

theorem fieldRows_shown {fs : List FieldDescriptor}
    (hnames : (fs.map fun f => cstr f.name).Nodup) {cs : List (Content D F)}
    (h : TypedFields P fs cs) {rows : Rows D}
    (hrows : ∀ f ∈ fs, valueAt rows (.string (cstr f.name)) = .nil) :
    Shown fmt P (fieldRows fmt P fs cs rows) fs cs := by
  induction fs generalizing cs rows with
  | nil => cases cs <;> exact trivial
  | cons f fs ih =>
    cases cs with
    | nil => exact trivial
    | cons c cs =>
      obtain ⟨hc, hcs⟩ := typedFields_cons.mp h
      obtain ⟨hf, hfs⟩ := List.nodup_cons.mp hnames
      have hother : ∀ g ∈ fs, cstr g.name ≠ cstr f.name := fun g hg heq =>
        hf (List.mem_map.mpr ⟨g, hg, heq⟩)
      rw [fieldRows_cons hc]
      refine ⟨?_, ih hfs hcs ?_⟩
      · rw [fieldRows_other hother hcs]
        split
        · rename_i hnil
          rw [hrows f List.mem_cons_self, Value.eq_nil hnil]
        · rw [valueAt_putAt, if_pos rfl]
      · intro g hg
        have hg' := hrows g (List.mem_cons_of_mem _ hg)
        split
        · exact hg'
        · rw [valueAt_putAt, if_neg, hg']
          intro heq
          exact hother g hg (Key.string.inj heq)

end Rows

/-! ## Reading the values back -/

variable (fmt) in
/-- A scalar comes back as what it was, if its number has a name. -/
theorem readScalar_plainValue {t : ScalarType} {s : Scalar D F} (h : s.HasType t) :
    readScalar L fmt (plainValue fmt t s) t = .ok (some s) ↔ s.Declared t := by
  cases t <;> cases s <;> first | exact h.elim | skip
  case enum.enum ed n =>
    rw [Scalar.Declared, ← EnumDescriptor.findValueByName_nameOf]
    simp only [plainValue, readScalar, Result.ok.injEq, Option.map_eq_some_iff]
    constructor
    · rintro ⟨v, hv, hn⟩
      exact ⟨v, hv, Scalar.enum.inj hn⟩
    · rintro ⟨v, hv, rfl⟩
      exact ⟨v, hv, rfl⟩
  all_goals simp [plainValue, readScalar, Scalar.Declared, State.integerOf, State.numberOf,
    State.textOf, Value.toBool, Result.ofOption, fmt.narrow_widen]

/-! What is read back of one content, of the fields of a message and of the elements of a
repeated field, with so many slots left and so many tables to go. -/

section Parts

variable (fmt P L)

def ReadsBack (c : Content D F) : Prop :=
  ∀ (t : CppType) (depth free : Nat) (old : Content D F), Typed P t c →
    (∀ cs, old ≠ .message cs) → free < depth →
    (readValue L fmt P (readTable L fmt P depth) free (valueOf fmt P t c) old t = .ok (some c) ↔
      Plain P t c ∧ c.levels ≤ free + 1)

def ReadsFieldsBack (cs : List (Content D F)) : Prop :=
  ∀ (fs : List FieldDescriptor) (depth free : Nat) (rows : Rows D), TypedFields P fs cs →
    Shown fmt P rows fs cs → free ≤ depth →
    (readFields L fmt P (readTable L fmt P depth) free rows fs
        (fs.map fun f => f.type.default L fmt) = .ok (some cs) ↔
      PlainFields P fs cs ∧ allLevels cs ≤ free)

def ReadsElementsBack (es : List (Content D F)) : Prop :=
  ∀ (t : CppType) (depth free j : Nat) (rows : Rows D), TypedElements P t es →
    (∀ k e, es[k]? = some e → valueAt rows (.integer (.ofNat (j + k))) = valueOf fmt P t e) →
    free ≤ depth →
    (readElements L fmt P (readTable L fmt P depth) free t rows es.length j [] = .ok (some es) ↔
      PlainElements P t es ∧ allLevels es ≤ free)

/-- The elements of a repeated field. -/
def ReadsInnerBack : Content D F → Prop
  | .repeated es => ReadsElementsBack L fmt P es
  | _ => True

end Parts

theorem andThen_cons {α : Type} {r : Result (Option α)} {rest : α → Result (Option (List α))}
    {a : α} {as : List α} :
    (r.andThen fun a => (rest a).map fun o => o.map (a :: ·)) = .ok (some (a :: as)) ↔
      r = .ok (some a) ∧ rest a = .ok (some as) := by
  constructor
  · intro h
    rcases r with (_ | b) | _ | _ <;> try cases h
    rw [Result.andThen_some] at h
    cases hr : rest b with
    | ok o =>
      rw [hr] at h
      cases o with
      | none => cases h
      | some bs =>
        cases h
        exact ⟨rfl, hr⟩
    | raised => rw [hr] at h; cases h
    | undefined => rw [hr] at h; cases h
  · rintro ⟨rfl, hr⟩
    rw [Result.andThen_some, hr]
    rfl

/-- What was read before comes first. -/
theorem readElements_append
    {read : Nat → Nat → Value D → List (Content D F) → Result (Option (List (Content D F)))}
    {free : Nat} {t : CppType} {rows : Rows D} (n j : Nat) (es ds : List (Content D F)) :
    readElements L fmt P read free t rows n j (es ++ ds) =
      (readElements L fmt P read free t rows n j ds).map fun o => o.map (es ++ ·) := by
  induction n generalizing j ds with
  | zero => rfl
  | succ n ih =>
    cases free with
    | zero => rfl
    | succ k =>
      simp only [readElements]
      rcases readValue L fmt P read k (valueAt rows (.integer (.ofNat j))) .unset t with
        (_ | e) | _ | _ <;> try rfl
      rw [Result.andThen_some, Result.andThen_some, List.append_assoc, ih]

theorem readElements_cons
    {read : Nat → Nat → Value D → List (Content D F) → Result (Option (List (Content D F)))}
    {k : Nat} {t : CppType} {rows : Rows D} (n j : Nat) :
    readElements L fmt P read (k + 1) t rows (n + 1) j [] =
      (readValue L fmt P read k (valueAt rows (.integer (.ofNat j))) .unset t).andThen fun e =>
        (readElements L fmt P read (k + 1) t rows n (j + 1) []).map fun o => o.map (e :: ·) := by
  simp only [readElements, List.nil_append]
  congr 1
  funext e
  exact readElements_append n (j + 1) [e] []

theorem ReadsElementsBack.nil : ReadsElementsBack L fmt P ([] : List (Content D F)) := by
  intro t depth free j rows _ _ _
  simp [readElements, PlainElements, allLevels]

theorem ReadsElementsBack.cons {e : Content D F} {es : List (Content D F)}
    (he : ReadsBack L fmt P e) (hes : ReadsElementsBack L fmt P es) :
    ReadsElementsBack L fmt P (e :: es) := by
  intro t depth free j rows ht hrows hfree
  cases free with
  | zero =>
    refine iff_of_false (fun h => nomatch h) fun h => ?_
    have hpos := e.levels_pos
    have hle := (Nat.max_le.mp h.2).1
    omega
  | succ k =>
    have hvalue := hrows 0 e rfl
    have hhead := he t depth k .unset ht.1 (fun _ h => nomatch h) (by omega)
    have htail := hes t depth (k + 1) (j + 1) rows ht.2
      (fun i d hd => by rw [Nat.add_assoc, Nat.add_comm 1]; exact hrows (i + 1) d (by simpa using hd))
      hfree
    rw [Nat.add_zero] at hvalue
    rw [List.length_cons, readElements_cons, andThen_cons, hvalue, hhead, htail, PlainElements,
      allLevels, Nat.max_le]
    tauto

theorem map_some_iff {α β : Type} {r : Result (Option α)} {f : α → β} (hf : f.Injective) {a : α} :
    (r.map fun o => o.map f) = .ok (some (f a)) ↔ r = .ok (some a) := by
  rcases r with (_ | b) | _ | _
  · simp
  · simp [hf.eq_iff]
  · simp
  · simp

theorem ReadsBack.scalar (s : Scalar D F) : ReadsBack L fmt P (.scalar s) := by
  intro t depth free old ht _ _
  cases t with
  | message d => exact ht.elim
  | scalar t =>
    have hread := readScalar_plainValue (L := L) fmt ht
    have hlevels : (Content.scalar s).levels ≤ free + 1 := Nat.le_add_left 1 free
    rw [and_iff_left hlevels, Plain, ← hread]
    exact map_some_iff fun _ _ h => Content.scalar.inj h

theorem Descriptor.cstr_names (desc : Descriptor) :
    (desc.fields.map fun f => cstr f.name).Nodup := by
  rw [List.map_congr_left fun f hf => cstr_eq (desc.names_cstr f hf)]
  exact desc.names_nodup

theorem ReadsBack.message {cs : List (Content D F)} (h : ReadsFieldsBack L fmt P cs) :
    ReadsBack L fmt P (.message cs) := by
  intro t depth free old ht hold hfree
  cases t with
  | scalar t => exact ht.elim
  | message d =>
    cases depth with
    | zero => exact absurd hfree (Nat.not_lt_zero _)
    | succ depth =>
      have hshown : Shown fmt P (fieldRows fmt P (P d).fields cs []) (P d).fields cs :=
        fieldRows_shown (P d).cstr_names ht fun f _ => valueAt_nil _
      have hfields := h (P d).fields depth free _ ht hshown (Nat.lt_succ_iff.mp hfree)
      have hnew : mutableMessage L fmt P d old = newMessage L fmt P d := by
        cases old <;> first | rfl | exact absurd rfl (hold _)
      rw [Plain, Content.levels, Nat.add_le_add_iff_right, ← hfields, readValue, hnew]
      exact map_some_iff fun _ _ h => Content.message.inj h

/-- One field of a new message, read from the value its content became. -/
theorem readField_back {c : Content D F} (hc : ReadsBack L fmt P c)
    (hinner : ReadsInnerBack L fmt P c) {type : FieldType} (h : TypedField P type c)
    {depth k : Nat} (hk : k < depth) :
    ((if (fieldValue fmt P type c).isNil then .ok (some (type.default L fmt))
      else readField L fmt P (readTable L fmt P depth) k (fieldValue fmt P type c)
        (type.default L fmt) type) = .ok (some c)) ↔ PlainField P type c ∧ c.levels ≤ k + 1 := by
  cases type with
  | single t =>
    cases t with
    | scalar t =>
      cases c with
      | scalar s =>
        rw [if_neg (by rw [fieldValue, valueOf_ne_nil fmt h]; decide)]
        exact hc (.scalar t) depth k (.scalar (t.default L fmt)) h (fun _ heq => by cases heq) hk
      | _ => exact h.elim
    | message d =>
      cases c with
      | unset => simp [fieldValue, valueOf, Value.isNil, FieldType.default, PlainField, Plain,
          Content.levels]
      | message cs => exact hc (.message d) depth k .unset h (fun _ heq => by cases heq) hk
      | _ => exact h.elim
  | «repeated» t =>
    cases c with
    | «repeated» es =>
      have hlen : 0 + es.length < 2 ^ 63 := by
        have := h.1
        omega
      have helements := hinner t depth k 1 (elementRows fmt P t 0 es []) h.2
        (fun i e he => elementRows_at (j := 0) fmt hlen [] he) (Nat.le_of_lt hk)
      rw [PlainField, Content.levels, Nat.add_le_add_iff_right, ← helements,
        ← border_elementRows (L := L) h.2 h.1]
      exact map_some_iff fun _ _ h => Content.repeated.inj h
    | _ => exact h.elim
  | map key t =>
    cases c with
    | map es =>
      refine iff_of_false (fun h => ?_) fun h => h.1
      simp [fieldValue, Value.isNil, readField, Value.isTable] at h
    | _ => exact h.elim

theorem ReadsFieldsBack.nil : ReadsFieldsBack L fmt P ([] : List (Content D F)) := by
  intro fs depth free rows h _ _
  cases fs with
  | nil => simp [readFields, PlainFields, allLevels]
  | cons f fs => exact h.elim

theorem ReadsFieldsBack.cons {c : Content D F} {cs : List (Content D F)}
    (hc : ReadsBack L fmt P c) (hinner : ReadsInnerBack L fmt P c)
    (hcs : ReadsFieldsBack L fmt P cs) : ReadsFieldsBack L fmt P (c :: cs) := by
  intro fs depth free rows h hshown hfree
  cases fs with
  | nil => exact h.elim
  | cons f fs =>
    obtain ⟨hfield, hfields⟩ := typedFields_cons.mp h
    obtain ⟨hvalue, hrows⟩ := hshown
    cases free with
    | zero =>
      refine iff_of_false (fun h => nomatch h) fun h => ?_
      have hpos := c.levels_pos
      have hle := (Nat.max_le.mp h.2).1
      omega
    | succ k =>
      have hhead := readField_back hc hinner hfield (show k < depth by omega)
      have htail := hcs fs depth (k + 1) rows hfields hrows hfree
      simp only [List.map_cons, readFields]
      rw [andThen_cons, hvalue, hhead, htail, plainFields_cons, allLevels, Nat.max_le]
      tauto

theorem ReadsBack.of_untyped {c : Content D F} (h : ∀ t, ¬ Typed P t c) : ReadsBack L fmt P c :=
  fun t _ _ _ ht _ _ => absurd ht (h t)

mutual

theorem readsBack (c : Content D F) : ReadsBack L fmt P c :=
  match c with
  | .scalar s => .scalar s
  | .message cs => .message (readsFieldsBack cs)
  | .unset => .of_untyped fun t => by cases t <;> exact id
  | .repeated _ => .of_untyped fun t => by cases t <;> exact id
  | .map _ => .of_untyped fun t => by cases t <;> exact id
  | .entry _ _ => .of_untyped fun t => by cases t <;> exact id

theorem readsInnerBack (c : Content D F) : ReadsInnerBack L fmt P c :=
  match c with
  | .repeated es => readsElementsBack es
  | .unset => trivial
  | .scalar _ => trivial
  | .message _ => trivial
  | .map _ => trivial
  | .entry _ _ => trivial

theorem readsFieldsBack (cs : List (Content D F)) : ReadsFieldsBack L fmt P cs :=
  match cs with
  | [] => .nil
  | c :: cs => .cons (readsBack c) (readsInnerBack c) (readsFieldsBack cs)

theorem readsElementsBack (es : List (Content D F)) : ReadsElementsBack L fmt P es :=
  match es with
  | [] => .nil
  | e :: es => .cons (readsBack e) (readsElementsBack es)

end

end Pbl
