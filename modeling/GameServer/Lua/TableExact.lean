import GameServer.Lua.TableRoundTrip

/-!
# When the two conversions are exact

A message should come back from its table, and a table with an integer that its field cannot
hold should be refused. For every schema, message, table and stack this says when they do.
-/

namespace Pbl

open LuaApi

variable {D F : Type} (L : State D) (fmt : FloatFormat D F) (P : Pool)

/-! ## Integers outside the range of their field -/

/-- The integer a value is for a scalar field. A text is a name for an enum. -/
def integerIn : ScalarType → Value D → Option Int64
  | .enum _, .string _ => none
  | _, v => L.integerOf v

def InRange : ScalarType → Int64 → Prop
  | .int32, i => -2 ^ 31 ≤ i.toInt ∧ i.toInt < 2 ^ 31
  | .enum _, i => -2 ^ 31 ≤ i.toInt ∧ i.toInt < 2 ^ 31
  | .uint32, i => 0 ≤ i.toInt ∧ i.toInt < 2 ^ 32
  | _, _ => True

mutual

/-- A value given for a message that holds such an integer, in a field, an element or a row of a
map, at any depth. -/
inductive OutOfRange : Nat → Value D → Prop
  | field {d : Nat} {rows : Rows D} {f : FieldDescriptor} (hf : f ∈ (P d).fields)
      (h : OutOfRangeField f.type (valueAt rows (.string (cstr f.name)))) :
      OutOfRange d (.table rows)

inductive OutOfRangeField : FieldType → Value D → Prop
  | single {t : CppType} {v : Value D} (h : OutOfRangeValue t v) : OutOfRangeField (.single t) v
  | element {t : CppType} {rows : Rows D} {j : Nat} (hj : 1 ≤ j) (hlen : j ≤ L.border rows)
      (h : OutOfRangeValue t (valueAt rows (.integer (.ofNat j)))) :
      OutOfRangeField (.repeated t) (.table rows)
  | key {k : KeyType} {t : CppType} {rows : Rows D} {row : Key × Value D} (hrow : row ∈ rows)
      (h : OutOfRangeValue (.scalar k.1) row.1.value) : OutOfRangeField (.map k t) (.table rows)
  | value {k : KeyType} {t : CppType} {rows : Rows D} {row : Key × Value D} (hrow : row ∈ rows)
      (h : OutOfRangeValue t row.2) : OutOfRangeField (.map k t) (.table rows)

inductive OutOfRangeValue : CppType → Value D → Prop
  | scalar {t : ScalarType} {v : Value D} {i : Int64} (hi : integerIn L t v = some i)
      (h : ¬ InRange t i) : OutOfRangeValue (.scalar t) v
  | message {d : Nat} {v : Value D} (h : OutOfRange d v) : OutOfRangeValue (.message d) v

end

/-! ## The two promises -/

/-- A message to convert and read back, or a table to refuse, on a stack. -/
inductive Input (F : Type)
  | message {d : Nat} (m : Message P D F d) (st : List (Value D))
  | table {d : Nat} (old : Message P D F d) (idx : Int) (st : List (Value D)) (v : Value D)
      (hslot : slot idx st = some v) (hrange : OutOfRange L P d v)

/-- The table of the message goes onto the stack, and is read into a new message. -/
def backAndForth (d : Nat) (cs : List (Content D F)) :
    Action D (Option (List (Content D F))) := do
  messageToTable L fmt P d cs
  tableToMessage L fmt P (-1) d (newMessage L fmt P d)

/-- The message comes back; the table fails the conversion or raises an error. -/
def Meets : Input L P F → Prop
  | .message (d := d) m st => ∃ st', backAndForth L fmt P d m.contents st = .ok (some m.contents, st')
  | .table (d := d) old idx st _ _ _ =>
    (∃ st', tableToMessage L fmt P idx d old.contents st = .ok (none, st')) ∨
      tableToMessage L fmt P idx d old.contents st = .raised

/-- No class with a map, no enum number without a name, no message too deep for the stack. A
table has something else that is wrong, before any map and before it gets too deep. -/
def Exact : Input L P F → Prop
  | .message (d := d) m st =>
    PlainFields P (P d).fields m.contents ∧ st.length + (allLevels m.contents + 1) ≤ L.slots
  | .table (d := d) _ _ st v _ _ =>
    (tableFaults L P (L.slots + 1) (L.slots - st.length) d v).head? = some .wrong

variable {L fmt P}

theorem backAndForth_eq {d : Nat} (m : Message P D F d) (st : List (Value D)) :
    backAndForth L fmt P d m.contents st =
      L.room st (heights m.contents + 1)
        ((readTable L fmt P (L.slots + 1) (L.slots - (st.length + 1)) d
            (.table (fieldRows fmt P (P d).fields m.contents [])) (newMessage L fmt P d)).kept
          (.table (fieldRows fmt P (P d).fields m.contents []) :: st)) := by
  rw [backAndForth, Action.bind_apply, messageToTable_eq, room_bind, Result.bind_ok,
    tableToMessage, tableToMessageWithin_computes _ (slot_top _ _), List.length_cons]

/-- A message comes back if and only if its classes are free of maps, its enum numbers have
names and the stack has a slot for every level. -/
theorem backAndForth_iff {d : Nat} (m : Message P D F d) (st : List (Value D)) :
    (∃ st', backAndForth L fmt P d m.contents st = .ok (some m.contents, st')) ↔
      PlainFields P (P d).fields m.contents ∧ st.length + (allLevels m.contents + 1) ≤ L.slots := by
  have hheight := heights_le m.contents
  have hshown : Shown fmt P (fieldRows fmt P (P d).fields m.contents []) (P d).fields m.contents :=
    fieldRows_shown (P d).cstr_names m.typed fun f _ => valueAt_nil _
  have hread := readsFieldsBack (L := L) m.contents (P d).fields L.slots (L.slots - (st.length + 1))
    _ m.typed hshown (Nat.sub_le _ _)
  rw [backAndForth_eq]
  unfold State.room
  split
  · rename_i hroom
    have hkept : ∀ r : Result (Option (List (Content D F))),
        (∃ st', r.kept (.table (fieldRows fmt P (P d).fields m.contents []) :: st) =
          .ok (some m.contents, st')) ↔ r = .ok (some m.contents) := by
      intro r
      cases r <;> simp [Result.kept]
    rw [hkept]
    refine hread.trans (and_congr_right fun _ => ?_)
    omega
  · refine iff_of_false ?_ fun h => ?_
    · rintro ⟨_, h⟩
      cases h
    · omega

theorem tableToMessage_refuses_iff {d : Nat} (old : Message P D F d) {idx : Int}
    {st : List (Value D)} {v : Value D} (hslot : slot idx st = some v) :
    ((∃ st', tableToMessage L fmt P idx d old.contents st = .ok (none, st')) ∨
        tableToMessage L fmt P idx d old.contents st = .raised) ↔
      (tableFaults L P (L.slots + 1) (L.slots - st.length) d v).head? = some .wrong := by
  have hdecided := readTable_decided (L := L) fmt (L.slots + 1) (L.slots - st.length) d v
    old.typed
  rw [tableToMessage, tableToMessageWithin_computes _ hslot]
  cases hfirst : (tableFaults L P (L.slots + 1) (L.slots - st.length) d v).head? with
  | none =>
    rw [hfirst] at hdecided
    obtain ⟨cs, hcs⟩ := hdecided
    simp [hcs, Result.kept]
  | some fault =>
    rw [hfirst] at hdecided
    cases fault with
    | wrong =>
      rcases hdecided with hr | hr <;> simp [hr, Result.kept]
    | misuse =>
      have hr : readTable L fmt P (L.slots + 1) (L.slots - st.length) d v old.contents =
        .undefined := hdecided
      simp [hr, Result.kept]

/-- The conversions keep their promises on exactly these inputs. -/
theorem conversions_exact_iff (input : Input L P F) : Meets L fmt P input ↔ Exact L P input := by
  cases input with
  | message m st => exact backAndForth_iff m st
  | table old idx st v hslot hrange => exact tableToMessage_refuses_iff old hslot

/-! ## A number that is cut, a map that is lost -/

/-- The numbers up to `n` may be those with a value; the one after it has none. -/
def StopsAt (t : Rows Int) (n : Nat) : Prop :=
  n + 1 = 2 ^ 63 ∨ (valueAt t (.integer (.ofNat (n + 1)))).isNil = true

instance (t : Rows Int) : DecidablePred (StopsAt t) := fun _ => inferInstanceAs (Decidable (_ ∨ _))

theorem stops (t : Rows Int) : ∃ n, StopsAt t n := ⟨2 ^ 63 - 1, .inl rfl⟩

/-- Whole numbers in place of floating-point ones, and the smallest border. -/
def wholeNumbers : State Int where
  slots := 20
  float i := i.toInt
  toInteger d := if -2 ^ 63 ≤ d ∧ d < 2 ^ 63 then some (.ofInt d) else none
  parse _ := none
  showInteger i := EnumDescriptor.decimal i.toInt
  showNumber d := EnumDescriptor.decimal d
  border t := Nat.find (stops t)
  border_lt t := Nat.lt_of_le_of_lt (Nat.find_le (.inl rfl)) (by decide : 2 ^ 63 - 1 < 2 ^ 63)
  border_some t h hnil := by
    refine Nat.find_min (stops t) (Nat.pred_lt h) (.inr ?_)
    rw [Nat.pred_eq_sub_one, Nat.sub_add_cancel (Nat.pos_of_ne_zero h), hnil]
    rfl
  border_none t h := by
    rcases Nat.find_spec (stops t) with hmax | hnil
    · omega
    · exact Value.eq_nil hnil

def wholeFormat : FloatFormat Int Int := ⟨id, id, fun _ => rfl⟩

def oneField (f : FieldType) : Descriptor where
  fields := [⟨EnumDescriptor.text "n", f⟩]
  names_nodup := by simp
  names_cstr := by
    simp only [List.mem_singleton, forall_eq]
    decide

def schema : Pool
  | 0 => oneField (.single (.scalar .int32))
  | _ => oneField (.map ⟨.string, rfl⟩ (.scalar .int32))

def wideTable : Value Int := .table [(.string (EnumDescriptor.text "n"), .integer 4294967297)]

theorem wideTable_outOfRange : OutOfRange wholeNumbers schema 0 wideTable := by
  refine .field (f := ⟨EnumDescriptor.text "n", .single (.scalar .int32)⟩) List.mem_cons_self
    (.single (.scalar (i := 4294967297) rfl ?_))
  rintro ⟨-, h⟩
  revert h
  decide

/-- A number too large by 2^32 is stored as 1, and a message with an empty map does not come
back. -/
theorem conversions_inexact :
    tableToMessage wholeNumbers wholeFormat schema (-1) 0
        [.scalar (.int32 0)] [wideTable] = .ok (some [.scalar (.int32 1)], [wideTable]) ∧
      ¬ Meets wholeNumbers wholeFormat schema
        (.table (d := 0) ⟨[.scalar (.int32 0)], trivial, trivial⟩ (-1) [wideTable] wideTable rfl
          wideTable_outOfRange) ∧
      ¬ Meets wholeNumbers wholeFormat schema
        (.message (d := 1) ⟨[.map []], ⟨by decide, trivial⟩, trivial⟩ []) := by
  refine ⟨rfl, ?_, ?_⟩
  · rintro (⟨_, h⟩ | h) <;> cases h
  · rintro ⟨_, h⟩
    cases h

end Pbl
