import GameServer.Lua.PbLua

/-!
# What is read from a table

The conversion of a table without the stack: the slots that are left take its place. The
calls of the interface compute exactly this, and leave the stack as they found it, whether
they convert the table or not.
-/

namespace Pbl

open LuaApi

variable {D F : Type} (L : State D) (fmt : FloatFormat D F) (P : Pool)

/-- The value of a scalar field, as it is read from a Lua value. -/
def readScalar (v : Value D) : ScalarType → Result (Option (Scalar D F))
  | .int32 => (Result.ofOption (L.integerOf v)).map fun i => some (.int32 i.toInt32)
  | .int64 => (Result.ofOption (L.integerOf v)).map fun i => some (.int64 i)
  | .uint32 => (Result.ofOption (L.integerOf v)).map fun i => some (.uint32 i.toUInt64.toUInt32)
  | .uint64 => (Result.ofOption (L.integerOf v)).map fun i => some (.uint64 i.toUInt64)
  | .double => (Result.ofOption (L.numberOf v)).map fun d => some (.double d)
  | .float => (Result.ofOption (L.numberOf v)).map fun d => some (.float (fmt.narrow d))
  | .bool => .ok (some (.bool v.toBool))
  | .string => .ok (some (.string ((L.textOf v).getD [])))
  | .enum ed =>
    match v with
    | .string s => .ok ((ed.findValueByName (cstr s)).map fun v => .enum v.2)
    | v => (Result.ofOption (L.integerOf v)).map fun i =>
        (ed.findValueByNumber i.toInt32).map fun v => .enum v.2

section Fields

/- The conversion of the tables inside the one at hand, with the slots it finds. -/
variable (read : Nat → Nat → Value D → List (Content D F) → Result (Option (List (Content D F))))

def readValue (free : Nat) (v : Value D) (old : Content D F) :
    CppType → Result (Option (Content D F))
  | .scalar t => (readScalar L fmt v t).map fun r => r.map .scalar
  | .message d =>
    (read free d v (mutableMessage L fmt P d old)).map fun r => r.map .message

/-- Each element is pushed while it is read. -/
def readElements (free : Nat) (t : CppType) (rows : Rows D) :
    Nat → Nat → List (Content D F) → Result (Option (List (Content D F)))
  | 0, _, es => .ok (some es)
  | n + 1, j, es =>
    match free with
    | 0 => .undefined
    | k + 1 =>
      (readValue L fmt P read k (valueAt rows (.integer (.ofNat j))) .unset t).andThen fun e =>
        readElements (k + 1) t rows n (j + 1) (es ++ [e])

/-- A table for a map is never read to its end: the loop asks for the row after the nil it
pushed itself. -/
def readField (free : Nat) (v : Value D) (old : Content D F) :
    FieldType → Result (Option (Content D F))
  | .map _ _ => if v.isTable then .undefined else .ok none
  | .repeated t =>
    match v with
    | .table rows =>
      (readElements L fmt P read free t rows (L.border rows) 1 old.elements).map fun r =>
        r.map .repeated
    | _ => .ok none
  | .single t => readValue L fmt P read free v old t

def readFields (free : Nat) (rows : Rows D) :
    List FieldDescriptor → List (Content D F) → Result (Option (List (Content D F)))
  | f :: fs, c :: cs =>
    match free with
    | 0 => .undefined
    | k + 1 =>
      let v := valueAt rows (.string (cstr f.name))
      (if v.isNil then .ok (some c) else readField L fmt P read k v c f.type).andThen fun c =>
        (readFields (k + 1) rows fs cs).map fun r => r.map (c :: ·)
  | _, cs => .ok (some cs)

end Fields

/-- The content of a message after a table was read into it. -/
def readTable : Nat → Nat → Nat → Value D → List (Content D F) →
    Result (Option (List (Content D F)))
  | 0, _, _, _, _ => .undefined
  | depth + 1, free, d, v, old =>
    match v with
    | .table rows => readFields L fmt P (readTable depth) free rows (P d).fields old
    | _ => .ok none

/-! ## The calls compute it -/

variable {L fmt P}

variable (fmt) in
theorem checkScalar_top (t : ScalarType) (v : Value D) (st : List (Value D)) :
    ∃ w, checkScalar L fmt (-1) t (v :: st) = (readScalar L fmt v t).kept (w :: st) := by
  have hinteger : checkinteger L (-1) (v :: st) = _ := check_top L.integerOf
  have hnumber : checknumber L (-1) (v :: st) = _ := check_top L.numberOf
  cases t with
  | int32 => exact ⟨v, kept_return hinteger _⟩
  | int64 => exact ⟨v, kept_return hinteger _⟩
  | uint32 => exact ⟨v, kept_return hinteger _⟩
  | uint64 => exact ⟨v, kept_return hinteger _⟩
  | double => exact ⟨v, kept_return hnumber _⟩
  | float => exact ⟨v, kept_return hnumber _⟩
  | bool => exact ⟨v, by simp [checkScalar, toboolean, readScalar, Result.kept]⟩
  | string =>
    obtain ⟨w, hw⟩ := tolstring_top (L := L) v st
    exact ⟨w, by simp [checkScalar, hw, readScalar, Result.kept]⟩
  | enum ed =>
    cases v with
    | string s =>
      obtain ⟨w, hw⟩ := tolstring_top (L := L) (.string s) st
      exact ⟨w, by simp [checkScalar, hw, readScalar, State.textOf, isstring, typed, Result.kept]⟩
    | _ =>
      have h := kept_return hinteger
        fun n => (ed.findValueByNumber n.toInt32).map fun v => (.enum v.2 : Scalar D F)
      refine ⟨_, Eq.trans ?_ h⟩
      simp [checkScalar, isstring, typed, checkinteger]

section Fields

variable {convert : Int → Nat → List (Content D F) → Action D (Option (List (Content D F)))}
  {read : Nat → Nat → Value D → List (Content D F) → Result (Option (List (Content D F)))}

/-- The conversion of a table computes what is read from it, with the slots that are left. -/
def Computes (L : State D)
    (convert : Int → Nat → List (Content D F) → Action D (Option (List (Content D F))))
    (read : Nat → Nat → Value D → List (Content D F) → Result (Option (List (Content D F)))) :
    Prop :=
  ∀ {idx v st}, slot idx st = some v → ∀ d old,
    convert idx d old st = (read (L.slots - st.length) d v old).kept st

variable (fmt) in
theorem setScalar_top (h : Computes L convert read) (t : CppType) (v : Value D)
    (old : Content D F) {st : List (Value D)} {k : Nat} (hk : L.slots - st.length = k + 1) :
    ∃ w, setScalar L fmt P convert (-1) old t (v :: st) =
      (readValue L fmt P read k v old t).kept (w :: st) := by
  have hfree : L.slots - (v :: st).length = k := by
    rw [List.length_cons]
    omega
  cases t with
  | scalar t =>
    obtain ⟨w, hw⟩ := checkScalar_top (L := L) fmt t v st
    exact ⟨w, kept_return hw _⟩
  | message d =>
    have hd := h (slot_top v st) d (mutableMessage L fmt P d old)
    rw [hfree] at hd
    exact ⟨v, kept_return hd _⟩

variable (fmt) in
theorem elementsToMessage_top (h : Computes L convert read) (t : CppType) (rows : Rows D)
    (st : List (Value D)) (n j : Nat) (es : List (Content D F)) :
    elementsToMessage L fmt P convert t n j es (.table rows :: st) =
      (readElements L fmt P read (L.slots - (.table rows :: st).length) t rows n j es).kept
        (.table rows :: st) := by
  induction n generalizing j es with
  | zero => rfl
  | succ n ih =>
    rw [elementsToMessage, Action.bind_apply, rawgeti_top]
    cases hk : L.slots - (.table rows :: st).length with
    | zero =>
      rw [push_zero hk]
      rfl
    | succ k =>
      obtain ⟨w, hw⟩ := setScalar_top (P := P) fmt h t
        (valueAt rows (.integer (.ofNat j))) .unset hk
      rw [push_succ hk, Result.bind_ok, kept_bind hw, readElements]
      cases readValue L fmt P read k (valueAt rows (.integer (.ofNat j))) .unset t with
      | ok r =>
        cases r with
        | none => simp [Result.kept]
        | some e =>
          simp only [Result.bind_ok, Result.andThen_some, Action.bind_apply, pop_one]
          rw [ih, hk]
      | raised => rfl
      | undefined => rfl

/-- The loop over a map asks for a row of the nil on top of the table. -/
theorem mapToMessage_top (k : KeyType) (t : CppType) (v : Value D) (old : List (Content D F))
    (st : List (Value D)) : mapToMessage L fmt P convert (-1) k t old (v :: st) =
      (if v.isTable then Result.undefined else .ok none).kept (v :: st) := by
  rw [mapToMessage, Action.bind_apply, value_top, Result.bind_ok]
  cases v with
  | table rows =>
    by_cases hroom : (Value.table rows :: st).length < L.slots
    · simp [push_ok hroom, entriesToMessage, next, Value.isTable, Result.kept]
    · simp [push_full hroom, Value.isTable, Result.kept]
  | _ => rfl

variable (fmt) in
theorem fieldToMessage_top (h : Computes L convert read) (t : FieldType) (v : Value D)
    (old : Content D F) {st : List (Value D)} {k : Nat} (hk : L.slots - st.length = k + 1) :
    ∃ w, fieldToMessage L fmt P convert old t (v :: st) =
      (readField L fmt P read k v old t).kept (w :: st) := by
  cases t with
  | single t => exact setScalar_top fmt h t v old hk
  | map key t =>
    refine ⟨v, ?_⟩
    rw [fieldToMessage, kept_return (mapToMessage_top key t v old.elements st), readField]
    cases v.isTable <;> rfl
  | repeated t =>
    refine ⟨v, ?_⟩
    rw [fieldToMessage, Action.bind_apply, istable_top, Result.bind_ok]
    cases v with
    | table rows =>
      have hfree : L.slots - (Value.table rows :: st).length = k := by
        rw [List.length_cons]
        omega
      have helements := elementsToMessage_top (P := P) fmt h t rows st (L.border rows) 1
        old.elements
      rw [hfree] at helements
      simp only [Value.isTable, ↓reduceIte, Action.bind_apply, rawlen_top, Result.bind_ok]
      exact kept_return helements _
    | _ => rfl

theorem fieldsToMessage_slot (h : Computes L convert read) {idx : Int}
    {rows : Rows D} {st : List (Value D)} (hslot : slot idx st = some (.table rows))
    (fs : List FieldDescriptor) (cs : List (Content D F)) :
    fieldsToMessage L fmt P convert idx fs cs st =
      (readFields L fmt P read (L.slots - st.length) rows fs cs).kept st := by
  induction fs generalizing cs with
  | nil => rfl
  | cons f fs ih =>
    cases cs with
    | nil => rfl
    | cons c cs =>
      rw [fieldsToMessage, Action.bind_apply, getfield_slot hslot]
      cases hk : L.slots - st.length with
      | zero =>
        rw [push_zero hk]
        rfl
      | succ k =>
        rw [push_succ hk, Result.bind_ok, Action.bind_apply, isnil_top, Result.bind_ok]
        simp only [readFields]
        have hrest : ∀ c : Content D F,
            (do return (← fieldsToMessage L fmt P convert idx fs cs).map (c :: ·) :
              Action D _) st =
              ((readFields L fmt P read (k + 1) rows fs cs).map fun r => r.map (c :: ·)).kept st := by
          intro c
          rw [← hk]
          exact kept_return (ih cs) _
        cases hnil : (valueAt rows (.string (cstr f.name))).isNil with
        | true =>
          rw [if_pos rfl, if_pos rfl, Action.bind_apply, pop_one]
          exact hrest c
        | false =>
          obtain ⟨w, hw⟩ := fieldToMessage_top (P := P) fmt h f.type
            (valueAt rows (.string (cstr f.name))) c hk
          rw [if_neg (by decide), if_neg (by decide), kept_bind hw]
          cases readField L fmt P read k (valueAt rows (.string (cstr f.name))) c f.type with
          | ok r =>
            cases r with
            | none => simp [Result.kept]
            | some c =>
              rw [Result.bind_ok, Action.bind_apply, pop_one]
              exact hrest c
          | raised => rfl
          | undefined => rfl

end Fields

/-- The two conversions of a table agree, at any depth and on any stack. -/
theorem tableToMessageWithin_computes (depth : Nat) :
    Computes L (tableToMessageWithin L fmt P depth) (readTable L fmt P depth) := by
  induction depth with
  | zero => exact fun _ _ _ => rfl
  | succ depth ih =>
    intro idx v st hslot d old
    obtain ⟨i, habs, hslot'⟩ := slot_absindex hslot
    rw [tableToMessageWithin, Action.bind_apply, istable_slot hslot, Result.bind_ok]
    cases v with
    | table rows =>
      simp only [Value.isTable, ↓reduceIte, Action.bind_apply, habs, Result.bind_ok]
      exact fieldsToMessage_slot ih hslot' (P d).fields old
    | _ => rfl

/-! ## The depth suffices -/

section Fields

variable {read read' : Nat → Nat → Value D → List (Content D F) →
  Result (Option (List (Content D F)))} {free : Nat}

theorem readValue_congr (h : ∀ d v old, read free d v old = read' free d v old) (v : Value D)
    (old : Content D F) (t : CppType) :
    readValue L fmt P read free v old t = readValue L fmt P read' free v old t := by
  cases t with
  | scalar t => rfl
  | message d => rw [readValue, readValue, h]

theorem readElements_congr (h : ∀ k < free, ∀ d v old, read k d v old = read' k d v old)
    (t : CppType) (rows : Rows D) (n j : Nat) (es : List (Content D F)) :
    readElements L fmt P read free t rows n j es = readElements L fmt P read' free t rows n j es := by
  induction n generalizing j es with
  | zero => rfl
  | succ n ih =>
    cases free with
    | zero => rfl
    | succ k =>
      simp only [readElements]
      rw [readValue_congr (h k k.lt_succ_self)]
      congr 1
      funext e
      exact ih (j + 1) (es ++ [e])

theorem readFields_congr (h : ∀ k < free, ∀ d v old, read k d v old = read' k d v old)
    (rows : Rows D) (fs : List FieldDescriptor) (cs : List (Content D F)) :
    readFields L fmt P read free rows fs cs = readFields L fmt P read' free rows fs cs := by
  induction fs generalizing cs with
  | nil => rfl
  | cons f fs ih =>
    cases cs with
    | nil => rfl
    | cons c cs =>
      cases free with
      | zero => rfl
      | succ k =>
        have hfield : ∀ v, readField L fmt P read k v c f.type =
            readField L fmt P read' k v c f.type := by
          intro v
          cases f.type with
          | single t => exact readValue_congr (h k k.lt_succ_self) v c t
          | map key t => rfl
          | «repeated» t =>
            cases v with
            | table rows =>
              rw [readField, readField,
                readElements_congr fun i hi => h i (Nat.lt_succ_of_lt hi)]
            | _ => rfl
        simp only [readFields, hfield, ih]

end Fields

/-- Each table inside another takes a slot, so that no conversion reads more tables deep than
there are slots. -/
theorem readTable_depth {depth free : Nat} (h : free < depth) (d : Nat) (v : Value D)
    (old : List (Content D F)) :
    readTable L fmt P (depth + 1) free d v old = readTable L fmt P depth free d v old := by
  induction depth generalizing free d v old with
  | zero => exact absurd h (Nat.not_lt_zero _)
  | succ depth ih =>
    cases v with
    | table rows =>
      exact readFields_congr (fun k hk d v old => ih (by omega) d v old) rows _ old
    | _ => rfl

end Pbl
