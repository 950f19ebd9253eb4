import Mathlib.Data.List.Nodup
import Mathlib.Data.List.TakeWhile
import GameServer.Lib.LuaApi

/-!
# Message schemas and message values

What reflection shows of a message class: its fields with their types, in the order of the
descriptor. A value holds one content per field. A message field that was never set is told
apart from one that holds an empty message; a scalar field without a value holds its default.
-/

namespace Pbl

open LuaApi

/-- The text up to its first zero byte, as a C string is read. -/
def cstr (s : Bytes) : Bytes := s.takeWhile (· != 0)

theorem cstr_eq {s : Bytes} (h : 0 ∉ s) : cstr s = s := by
  refine List.takeWhile_eq_self_iff.mpr fun b hb => ?_
  simpa using fun heq : b = 0 => h (heq ▸ hb)

/-! ## Descriptors -/

/-- An open enum. -/
structure EnumDescriptor where
  name : Bytes
  values : List (Bytes × Int32)
  names_nodup : (values.map Prod.fst).Nodup
  names_cstr : ∀ v ∈ values, 0 ∉ v.1

namespace EnumDescriptor

def findValueByName (ed : EnumDescriptor) (name : Bytes) : Option (Bytes × Int32) :=
  ed.values.find? (·.1 == name)

/-- Of several values with one number the first. -/
def findValueByNumber (ed : EnumDescriptor) (n : Int32) : Option (Bytes × Int32) :=
  ed.values.find? (·.2 == n)

def text (s : String) : Bytes := s.toList.map fun c => .ofNat c.toNat

def decimal (n : Int) : Bytes :=
  (if n < 0 then text "-" else []) ++ (Nat.toDigits 10 n.natAbs).map fun c => .ofNat c.toNat

/-- The name that stands for a number without a value of its own. -/
def unknownName (ed : EnumDescriptor) (n : Int32) : Bytes :=
  text "UNKNOWN_ENUM_VALUE_" ++ ed.name ++ text "_" ++ decimal n.toInt

/-- The name reflection gives for a number. -/
def nameOf (ed : EnumDescriptor) (n : Int32) : Bytes :=
  match ed.findValueByNumber n with
  | some v => v.1
  | none => ed.unknownName n

def Declares (ed : EnumDescriptor) (n : Int32) : Prop := ∃ v ∈ ed.values, v.2 = n

variable {ed : EnumDescriptor} {n : Int32}

theorem findValueByNumber_isSome : (ed.findValueByNumber n).isSome ↔ ed.Declares n := by
  simp [findValueByNumber, Declares]

theorem findValueByName_mem {v : Bytes × Int32} (hv : v ∈ ed.values) :
    ed.findValueByName v.1 = some v := by
  obtain ⟨w, hw⟩ : ∃ w, ed.findValueByName v.1 = some w :=
    Option.isSome_iff_exists.mp (List.find?_isSome.mpr ⟨v, hv, by simp⟩)
  have hname : w.1 = v.1 := by simpa using List.find?_some hw
  rw [hw, List.inj_on_of_nodup_map ed.names_nodup (List.mem_of_find?_eq_some hw) hv hname]

/-- Its name leads back to a number that is declared, and to no other. -/
theorem findValueByName_nameOf :
    (∃ v, ed.findValueByName (cstr (cstr (ed.nameOf n))) = some v ∧ v.2 = n) ↔
      ed.Declares n := by
  constructor
  · rintro ⟨v, hv, hn⟩
    exact ⟨v, List.mem_of_find?_eq_some hv, hn⟩
  · intro h
    obtain ⟨v, hv⟩ := Option.isSome_iff_exists.mp (findValueByNumber_isSome.mpr h)
    have hmem := List.mem_of_find?_eq_some hv
    have hname : ed.nameOf n = v.1 := by simp [nameOf, hv]
    refine ⟨v, ?_, by simpa using List.find?_some hv⟩
    rw [hname, cstr_eq (ed.names_cstr v hmem), cstr_eq (ed.names_cstr v hmem)]
    exact findValueByName_mem hmem

end EnumDescriptor

inductive ScalarType where
  | int32
  | int64
  | uint32
  | uint64
  | double
  | float
  | bool
  | string
  | enum (ed : EnumDescriptor)

/-- The types a map may be keyed with. -/
def ScalarType.isKey : ScalarType → Bool
  | .double => false
  | .float => false
  | .enum _ => false
  | _ => true

abbrev KeyType := { t : ScalarType // t.isKey = true }

/-- The type of one value; message types are numbered. -/
inductive CppType where
  | scalar (t : ScalarType)
  | message (desc : Nat)

inductive FieldType where
  | single (t : CppType)
  | repeated (t : CppType)
  | map (key : KeyType) (value : CppType)

structure FieldDescriptor where
  name : Bytes
  type : FieldType

/-- The fields of a message class. -/
structure Descriptor where
  fields : List FieldDescriptor
  names_nodup : (fields.map (·.name)).Nodup
  names_cstr : ∀ f ∈ fields, 0 ∉ f.name

abbrev Pool := Nat → Descriptor

/-! ## Values -/

/-- How the two floating-point types convert into each other. -/
structure FloatFormat (D F : Type) where
  widen : F → D
  narrow : D → F
  narrow_widen : ∀ f, narrow (widen f) = f

/-- A scalar, for the types of double and of float values. -/
inductive Scalar (D F : Type) where
  | int32 (i : Int32)
  | int64 (i : Int64)
  | uint32 (n : UInt32)
  | uint64 (n : UInt64)
  | double (d : D)
  | float (f : F)
  | bool (b : Bool)
  | string (s : Bytes)
  | enum (n : Int32)

/-- What a field holds. A map is a list of entries, each with its key and its value. -/
inductive Content (D F : Type) where
  | unset
  | scalar (s : Scalar D F)
  | message (cs : List (Content D F))
  | repeated (es : List (Content D F))
  | map (entries : List (Content D F))
  | entry (key : Scalar D F) (value : Content D F)

variable {D F : Type}

def Scalar.HasType : Scalar D F → ScalarType → Prop
  | int32 _, .int32 => True
  | int64 _, .int64 => True
  | uint32 _, .uint32 => True
  | uint64 _, .uint64 => True
  | double _, .double => True
  | float _, .float => True
  | bool _, .bool => True
  | string _, .string => True
  | enum _, .enum _ => True
  | _, _ => False

mutual

/-- A value of the type: a message that is there, with a content of the right type in every
field. -/
def Typed (P : Pool) : CppType → Content D F → Prop
  | .scalar t, .scalar s => s.HasType t
  | .message d, .message cs => TypedFields P (P d).fields cs
  | _, _ => False

def TypedFields (P : Pool) : List FieldDescriptor → List (Content D F) → Prop
  | [], [] => True
  | f :: fs, c :: cs =>
    (match f.type, c with
      | .single (.message _), .unset => True
      | .single t, c => Typed P t c
      | .repeated t, .repeated es => es.length < 2 ^ 31 ∧ TypedElements P t es
      | .map k t, .map es => es.length < 2 ^ 31 ∧ TypedEntries P k t es
      | _, _ => False) ∧ TypedFields P fs cs
  | _, _ => False

def TypedElements (P : Pool) (t : CppType) : List (Content D F) → Prop
  | [] => True
  | e :: es => Typed P t e ∧ TypedElements P t es

def TypedEntries (P : Pool) (k : KeyType) (t : CppType) : List (Content D F) → Prop
  | [] => True
  | .entry key v :: es => key.HasType k.1 ∧ Typed P t v ∧ TypedEntries P k t es
  | _ :: _ => False

end

/-- A content of the right type in one field. -/
def TypedField (P : Pool) : FieldType → Content D F → Prop
  | .single (.message _), .unset => True
  | .single t, c => Typed P t c
  | .repeated t, .repeated es => es.length < 2 ^ 31 ∧ TypedElements P t es
  | .map k t, .map es => es.length < 2 ^ 31 ∧ TypedEntries P k t es
  | _, _ => False

@[simp] theorem typedFields_cons {P : Pool} {f : FieldDescriptor} {fs : List FieldDescriptor}
    {c : Content D F} {cs : List (Content D F)} :
    TypedFields P (f :: fs) (c :: cs) ↔ TypedField P f.type c ∧ TypedFields P fs cs := by
  rw [TypedFields.eq_def]
  rfl

/-- A value of a message class. -/
structure Message (P : Pool) (D F : Type) (d : Nat) where
  contents : List (Content D F)
  typed : TypedFields P (P d).fields contents

end Pbl
