import GameServer.Lua.Schema

/-!
# Lua tables and messages

The two conversions, on the stack of the Lua interface. A message becomes a table that holds
a value for every field but the message fields that were never set. A table is read field by
field; a nil leaves the field as it was, and what cannot be read fails the conversion, by its
result or by an error of the script.
-/

namespace Pbl

open LuaApi

variable {D F : Type} (L : State D) (fmt : FloatFormat D F) (P : Pool)

/-! ## Message to table -/

/-- The switch over the scalar types: one value onto the stack. -/
def pushPlain : ScalarType → Scalar D F → Action D Unit
  | .int32, .int32 i => push L (.integer i.toInt64)
  | .int64, .int64 i => push L (.integer i)
  | .uint32, .uint32 n => push L (.integer n.toUInt64.toInt64)
  | .uint64, .uint64 n => push L (.integer n.toInt64)
  | .double, .double d => push L (.number d)
  | .float, .float f => push L (.number (fmt.widen f))
  | .bool, .bool b => push L (.boolean b)
  | .string, .string s => push L (.string s)
  | .enum ed, .enum n => push L (.string (cstr (ed.nameOf n)))
  | _, _ => push L .nil

mutual

/-- A value of a single field, a repeated field or a map. A message is converted in place:
its table is pushed, and filled at the index it has from the bottom. -/
def pushScalar : CppType → Content D F → Action D Unit
  | .scalar t, .scalar s => pushPlain L fmt t s
  | .message d, .message cs => do
    newtable L
    let tableIdx ← gettop
    fieldsToTable tableIdx (P d).fields cs
  | _, _ => push L .nil

def fieldsToTable (tableIdx : Int) : List FieldDescriptor → List (Content D F) → Action D Unit
  | f :: fs, c :: cs =>
    match f.type, c with
    | .map k t, .map es => do
      newtable L
      mapToTable k t es
      setfield tableIdx (cstr f.name)
      fieldsToTable tableIdx fs cs
    | .repeated t, .repeated es => do
      newtable L
      elementsToTable t 0 es
      setfield tableIdx (cstr f.name)
      fieldsToTable tableIdx fs cs
    | .single (.message _), .unset => fieldsToTable tableIdx fs cs
    | .single t, c => do
      pushScalar t c
      setfield tableIdx (cstr f.name)
      fieldsToTable tableIdx fs cs
    | _, _ => .undefined
  | _, _ => pure ()

def elementsToTable (t : CppType) : Nat → List (Content D F) → Action D Unit
  | _, [] => pure ()
  | j, e :: es => do
    pushScalar t e
    rawseti (-2) (.ofNat (j + 1))
    elementsToTable t (j + 1) es

def mapToTable (k : KeyType) (t : CppType) : List (Content D F) → Action D Unit
  | .entry key v :: es => do
    pushPlain L fmt k.1 key
    pushScalar t v
    rawset (-3)
    mapToTable k t es
  | _ => pure ()

end

def messageToTable (d : Nat) (cs : List (Content D F)) : Action D Unit :=
  pushScalar L fmt P (.message d) (.message cs)

/-! ## Table to message -/

/-- The value a field of a new message has. -/
def ScalarType.default : ScalarType → Scalar D F
  | .int32 => .int32 0
  | .int64 => .int64 0
  | .uint32 => .uint32 0
  | .uint64 => .uint64 0
  | .double => .double (L.float 0)
  | .float => .float (fmt.narrow (L.float 0))
  | .bool => .bool false
  | .string => .string []
  | .enum _ => .enum 0

def FieldType.default : FieldType → Content D F
  | .single (.scalar t) => .scalar (t.default L fmt)
  | .single (.message _) => .unset
  | .repeated _ => .repeated []
  | .map _ _ => .map []

def newMessage (d : Nat) : List (Content D F) :=
  (P d).fields.map fun f => f.type.default L fmt

/-- The message in a field, which is there from now on. -/
def mutableMessage (d : Nat) : Content D F → List (Content D F)
  | .message cs => cs
  | _ => newMessage L fmt P d

def Content.elements : Content D F → List (Content D F)
  | .repeated es => es
  | .map es => es
  | _ => []

/-- The switch over the scalar types, for one field and for an element of a repeated field: the
value at an index, or that there is none. -/
def checkScalar (idx : Int) : ScalarType → Action D (Option (Scalar D F))
  | .int32 => do return some (.int32 (← checkinteger L idx).toInt32)
  | .int64 => do return some (.int64 (← checkinteger L idx))
  | .uint32 => do return some (.uint32 (← checkinteger L idx).toUInt64.toUInt32)
  | .uint64 => do return some (.uint64 (← checkinteger L idx).toUInt64)
  | .double => do return some (.double (← checknumber L idx))
  | .float => do return some (.float (fmt.narrow (← checknumber L idx)))
  | .bool => do return some (.bool (← toboolean idx))
  | .string => do return some (.string ((← tolstring L idx).getD []))
  | .enum ed => do
    if ← isstring idx then
      let name ← tolstring L idx
      return (ed.findValueByName (cstr (name.getD []))).map fun v => .enum v.2
    else
      let n ← checkinteger L idx
      return (ed.findValueByNumber n.toInt32).map fun v => .enum v.2

section Fields

/- The conversion of the tables inside the one at hand. -/
variable (convert : Int → Nat → List (Content D F) → Action D (Option (List (Content D F))))

def setScalar (idx : Int) (old : Content D F) : CppType → Action D (Option (Content D F))
  | .scalar t => do return (← checkScalar L fmt idx t).map .scalar
  | .message d => do return (← convert idx d (mutableMessage L fmt P d old)).map .message

/-- One round for each row, as long as there is a next one. -/
def entriesToMessage (idx : Int) (k : KeyType) (t : CppType) :
    Nat → List (Content D F) → Action D (Option (List (Content D F)))
  | 0, _ => .undefined
  | rows + 1, entries => do
    if ← next L idx then
      match ← checkScalar L fmt (-2) k.1 with
      | none => do
        pop 2
        return none
      | some key =>
        match ← setScalar L fmt P convert (-1) .unset t with
        | none => do
          pop 2
          return none
        | some v => do
          pop 1
          entriesToMessage idx k t rows (entries ++ [.entry key v])
    else return some entries

/-- The index is passed on as it came; the nil that starts the loop is pushed in between. -/
def mapToMessage (idx : Int) (k : KeyType) (t : CppType) (entries : List (Content D F)) :
    Action D (Option (List (Content D F))) := do
  match ← value idx with
  | .table rows => do
    push L .nil
    entriesToMessage L fmt P convert idx k t (rows.length + 1) entries
  | _ => return none

def elementsToMessage (t : CppType) :
    Nat → Nat → List (Content D F) → Action D (Option (List (Content D F)))
  | 0, _, es => return some es
  | n + 1, j, es => do
    rawgeti L (-1) (.ofNat j)
    let e ← setScalar L fmt P convert (-1) .unset t
    pop 1
    match e with
    | none => return none
    | some e => elementsToMessage t n (j + 1) (es ++ [e])

/-- The value on top of the stack into a field. -/
def fieldToMessage (old : Content D F) : FieldType → Action D (Option (Content D F))
  | .map k t => do return (← mapToMessage L fmt P convert (-1) k t old.elements).map .map
  | .repeated t => do
    if ← istable (-1) then
      let n ← rawlen L (-1)
      return (← elementsToMessage L fmt P convert t n 1 old.elements).map .repeated
    else return none
  | .single t => setScalar L fmt P convert (-1) old t

def fieldsToMessage (idx : Int) :
    List FieldDescriptor → List (Content D F) → Action D (Option (List (Content D F)))
  | f :: fs, c :: cs => do
    getfield L idx (cstr f.name)
    if ← isnil (-1) then
      pop 1
      return (← fieldsToMessage idx fs cs).map (c :: ·)
    else
      let r ← fieldToMessage L fmt P convert c f.type
      pop 1
      match r with
      | none => return none
      | some c => return (← fieldsToMessage idx fs cs).map (c :: ·)
  | _, cs => return some cs

end Fields

/-- The conversion, so many tables deep. -/
def tableToMessageWithin :
    Nat → Int → Nat → List (Content D F) → Action D (Option (List (Content D F)))
  | 0, _, _, _ => .undefined
  | depth + 1, idx, d, old => do
    if ← istable idx then
      let idx ← absindex idx
      fieldsToMessage L fmt P (tableToMessageWithin depth) idx (P d).fields old
    else return none

/-- A table inside another is on the stack while it is read. So the stack is full before the
depth is used up. -/
def tableToMessage (idx : Int) (d : Nat) (old : List (Content D F)) :
    Action D (Option (List (Content D F))) :=
  tableToMessageWithin L fmt P (L.slots + 1) idx d old

end Pbl
