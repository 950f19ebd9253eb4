import GameServer.Lua.TableReads

/-!
# What is wrong with a table

All the places of a table that do not fit the message class, in the order of the fields: a
value that cannot be read, or a place where the conversion breaks the rules of the Lua
interface (a map given as a table, a table deeper than the stack). The first of them decides
how the conversion ends; a number outside the range of its field is not among them.
-/

namespace Pbl

open LuaApi

variable {D F : Type} (L : State D)

inductive Fault where
  | wrong
  | misuse

/-- Is the value one that a scalar field is read from? -/
def fits (v : Value D) : ScalarType → Bool
  | .double => (L.numberOf v).isSome
  | .float => (L.numberOf v).isSome
  | .bool => true
  | .string => true
  | .enum ed =>
    match v with
    | .string s => (ed.findValueByName (cstr s)).isSome
    | v => (L.integerOf v).any fun n => (ed.findValueByNumber n.toInt32).isSome
  | _ => (L.integerOf v).isSome

section Fields

/- The faults of the tables inside the one at hand, with the slots that are left for each. -/
variable (inner : Nat → Nat → Value D → List Fault)

def valueFaults (free : Nat) (v : Value D) : CppType → List Fault
  | .scalar t => if fits L v t then [] else [.wrong]
  | .message d => inner free d v

def elementFaults (t : CppType) (v : Value D) : Nat → List Fault
  | 0 => [.misuse]
  | k + 1 => valueFaults L inner k v t

def fieldFaults (free : Nat) (v : Value D) : FieldType → List Fault
  | .single t => valueFaults L inner free v t
  | .repeated t =>
    match v with
    | .table rows => (List.range' 1 (L.border rows)).flatMap fun j =>
        elementFaults L inner t (valueAt rows (.integer (.ofNat j))) free
    | _ => [.wrong]
  | .map _ _ => if v.isTable then [.misuse] else [.wrong]

def placeFaults (v : Value D) (t : FieldType) : Nat → List Fault
  | 0 => [.misuse]
  | k + 1 => if v.isNil then [] else fieldFaults L inner k v t

end Fields

/-- The faults of a value given for a message, so many tables deep. -/
def tableFaults (P : Pool) : Nat → Nat → Nat → Value D → List Fault
  | 0, _, _, _ => [.misuse]
  | depth + 1, free, d, v =>
    match v with
    | .table rows => (P d).fields.flatMap fun f =>
        placeFaults L (tableFaults P depth) (valueAt rows (.string (cstr f.name))) f.type free
    | _ => [.wrong]

/-! ## The first fault decides -/

variable {L} {fmt : FloatFormat D F} {P : Pool}

/-- How a conversion ends, by the first fault. -/
def Decided {α : Type} : Option Fault → Result (Option α) → Prop
  | none, r => ∃ a, r = .ok (some a)
  | some .wrong, r => r = .ok none ∨ r = .raised
  | some .misuse, r => r = .undefined

section Decided

variable {α β : Type} {r : Result (Option α)} {first rest : List Fault}

theorem Decided.map {first : Option Fault} (h : Decided first r) (f : α → β) :
    Decided first (r.map fun a => a.map f) := by
  cases first with
  | none =>
    obtain ⟨a, rfl⟩ := h
    exact ⟨f a, rfl⟩
  | some fault =>
    cases fault with
    | wrong =>
      rcases h with rfl | rfl
      · exact .inl rfl
      · exact .inr rfl
    | misuse =>
      subst h
      rfl

theorem Decided.andThen {k : α → Result (Option β)} (h : Decided first.head? r)
    (hk : ∀ a, r = .ok (some a) → Decided rest.head? (k a)) :
    Decided (first ++ rest).head? (r.andThen k) := by
  rw [List.head?_append]
  cases hf : first.head? with
  | none =>
    rw [hf] at h
    obtain ⟨a, rfl⟩ := h
    exact hk a rfl
  | some fault =>
    rw [hf] at h
    cases fault with
    | wrong =>
      rcases h with rfl | rfl
      · exact .inl rfl
      · exact .inr rfl
    | misuse =>
      subst h
      rfl

end Decided

theorem readScalar_decided (v : Value D) (t : ScalarType) :
    Decided (if fits L v t then [] else [Fault.wrong]).head? (readScalar L fmt v t) := by
  have hcheck : ∀ {α : Type} (o : Option α) (g : α → Scalar D F),
      Decided (if o.isSome then [] else [Fault.wrong]).head?
        ((Result.ofOption o).map fun a => some (g a)) := by
    intro α o g
    cases o with
    | none => exact .inr rfl
    | some a => exact ⟨g a, rfl⟩
  have hfound : ∀ o : Option (Scalar D F),
      Decided (if o.isSome then [] else [Fault.wrong]).head? (.ok o) := by
    intro o
    cases o with
    | none => exact .inl rfl
    | some a => exact ⟨a, rfl⟩
  have hnumber : ∀ (ed : EnumDescriptor) (o : Option Int64),
      Decided (if o.any fun n => (ed.findValueByNumber n.toInt32).isSome then []
          else [Fault.wrong]).head?
        ((Result.ofOption o).map fun n =>
          (ed.findValueByNumber n.toInt32).map fun v => (.enum v.2 : Scalar D F)) := by
    intro ed o
    cases o with
    | none => exact .inr rfl
    | some n =>
      have h := hfound ((ed.findValueByNumber n.toInt32).map fun v => .enum v.2)
      rwa [Option.isSome_map] at h
  cases t with
  | double => exact hcheck _ _
  | float => exact hcheck _ _
  | bool => exact ⟨_, rfl⟩
  | string => exact ⟨_, rfl⟩
  | enum ed =>
    have hread := hnumber ed (L.integerOf v)
    cases v with
    | string s =>
      have h := hfound ((ed.findValueByName (cstr s)).map fun v => .enum v.2)
      rwa [Option.isSome_map] at h
    | _ => exact hread
  | _ => exact hcheck _ _

section Fields

variable {read : Nat → Nat → Value D → List (Content D F) → Result (Option (List (Content D F)))}
  {inner : Nat → Nat → Value D → List Fault}

/-- A message in a field is one of the class of the field. -/
def TypedOld (P : Pool) : CppType → Content D F → Prop
  | .message d, .message cs => TypedFields P (P d).fields cs
  | _, _ => True

theorem FieldType.default_typed (t : FieldType) : TypedField P t (t.default L fmt) := by
  cases t with
  | single t =>
    cases t with
    | message d => trivial
    | scalar t => cases t <;> exact trivial
  | repeated t => exact ⟨Nat.two_pow_pos 31, trivial⟩
  | map k t => exact ⟨Nat.two_pow_pos 31, trivial⟩

theorem newMessage_typed (d : Nat) : TypedFields P (P d).fields (newMessage L fmt P d) := by
  unfold newMessage
  induction (P d).fields with
  | nil => trivial
  | cons f fs ih => exact typedFields_cons.mpr ⟨f.type.default_typed, ih⟩

theorem mutableMessage_typed {d : Nat} {old : Content D F} (h : TypedOld P (.message d) old) :
    TypedFields P (P d).fields (mutableMessage L fmt P d old) := by
  cases old with
  | message cs => exact h
  | _ => exact newMessage_typed d

theorem readValue_decided (h : ∀ free d v old, TypedFields P (P d).fields old →
      Decided (inner free d v).head? (read free d v old))
    (free : Nat) (v : Value D) (t : CppType) {old : Content D F} (hold : TypedOld P t old) :
    Decided (valueFaults L inner free v t).head? (readValue L fmt P read free v old t) := by
  cases t with
  | scalar t => exact (readScalar_decided v t).map Content.scalar
  | message d => exact (h free d v _ (mutableMessage_typed hold)).map Content.message

theorem readElements_decided (h : ∀ free d v old, TypedFields P (P d).fields old →
      Decided (inner free d v).head? (read free d v old))
    (free : Nat) (t : CppType) (rows : Rows D) (n j : Nat) (es : List (Content D F)) :
    Decided ((List.range' j n).flatMap fun j =>
        elementFaults L inner t (valueAt rows (.integer (.ofNat j))) free).head?
      (readElements L fmt P read free t rows n j es) := by
  induction n generalizing j es with
  | zero => exact ⟨es, rfl⟩
  | succ n ih =>
    rw [List.range'_succ, List.flatMap_cons]
    cases free with
    | zero => rfl
    | succ k =>
      have htyped : TypedOld P t (.unset : Content D F) := by
        cases t <;> trivial
      exact (readValue_decided h k _ t htyped).andThen fun e _ => ih (j + 1) (es ++ [e])

theorem readField_decided (h : ∀ free d v old, TypedFields P (P d).fields old →
      Decided (inner free d v).head? (read free d v old))
    (free : Nat) (v : Value D) (t : FieldType) {old : Content D F}
    (hold : ∀ d, t = .single (.message d) → TypedOld P (.message d) old) :
    Decided (fieldFaults L inner free v t).head? (readField L fmt P read free v old t) := by
  cases t with
  | single t =>
    refine readValue_decided h free v t ?_
    cases t with
    | scalar t => trivial
    | message d => exact hold d rfl
  | repeated t =>
    cases v with
    | table rows => exact (readElements_decided h free t rows _ 1 _).map Content.repeated
    | _ => exact .inl rfl
  | map k t =>
    unfold fieldFaults readField
    cases v.isTable with
    | true => rfl
    | false => exact .inl rfl

theorem readFields_decided (h : ∀ free d v old, TypedFields P (P d).fields old →
      Decided (inner free d v).head? (read free d v old))
    (free : Nat) (rows : Rows D) (fs : List FieldDescriptor) {cs : List (Content D F)}
    (hcs : TypedFields P fs cs) :
    Decided (fs.flatMap fun f =>
        placeFaults L inner (valueAt rows (.string (cstr f.name))) f.type free).head?
      (readFields L fmt P read free rows fs cs) := by
  induction fs generalizing cs with
  | nil => exact ⟨cs, rfl⟩
  | cons f fs ih =>
    cases cs with
    | nil => exact hcs.elim
    | cons c cs =>
      obtain ⟨hc, hcs⟩ := typedFields_cons.mp hcs
      rw [List.flatMap_cons]
      cases free with
      | zero => rfl
      | succ k =>
        simp only [readFields, placeFaults]
        refine Decided.andThen ?_ fun c _ => (ih hcs).map (c :: ·)
        cases (valueAt rows (.string (cstr f.name))).isNil with
        | true => exact ⟨c, rfl⟩
        | false =>
          refine readField_decided h k _ f.type fun d hd => ?_
          rw [hd] at hc
          cases c with
          | message cs => exact hc
          | _ => trivial

end Fields

variable (fmt) in
/-- The first fault of a table decides how its conversion ends. -/
theorem readTable_decided (depth free d : Nat) (v : Value D) {old : List (Content D F)}
    (hold : TypedFields P (P d).fields old) :
    Decided (tableFaults L P depth free d v).head? (readTable L fmt P depth free d v old) := by
  induction depth generalizing free d v old with
  | zero => rfl
  | succ depth ih =>
    cases v with
    | table rows =>
      exact readFields_decided (fun free d v old hold => ih free d v hold) free rows _ hold
    | _ => exact .inl rfl

end Pbl
