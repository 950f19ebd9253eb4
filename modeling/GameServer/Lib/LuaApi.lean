import Mathlib.Algebra.Group.Int.Defs
import Mathlib.Algebra.Group.Nat.Defs
import Mathlib.Data.List.Basic
import Mathlib.Data.Nat.Find

/-!
# The stack interface of Lua

A C function works on a stack of its own: indexes count from the bottom when they are
positive and from the top when they are negative, and whoever pushes must know that there
is room. A call that breaks these rules has no defined behaviour. Tables are values here:
nothing in this interface lets two slots share one table and change it.
-/

namespace LuaApi

abbrev Bytes := List UInt8

/-- A key of a table. Keys of other types are told apart and nothing else. -/
inductive Key where
  | boolean (b : Bool)
  | integer (i : Int64)
  | string (s : Bytes)
  | other (id : Nat)
  deriving DecidableEq

/-- A value, for a type `D` of floating-point numbers. -/
inductive Value (D : Type) where
  | nil
  | boolean (b : Bool)
  | integer (i : Int64)
  | number (d : D)
  | string (s : Bytes)
  | table (rows : List (Key × Value D))
  | other (id : Nat)

/-- How a call ends. -/
inductive Result (α : Type) where
  | ok (a : α)
  | raised
  | undefined

namespace Result

variable {α β : Type}

def bind : Result α → (α → Result β) → Result β
  | ok a, f => f a
  | raised, _ => raised
  | undefined, _ => undefined

/-- Go on with what was found, if something was. -/
def andThen (r : Result (Option α)) (f : α → Result (Option β)) : Result (Option β) :=
  r.bind fun
    | none => ok none
    | some a => f a

def map (f : α → β) : Result α → Result β
  | ok a => ok (f a)
  | raised => raised
  | undefined => undefined

/-- What is missing is an error of the script. -/
def ofOption : Option α → Result α
  | some a => ok a
  | none => raised

@[simp] theorem bind_ok (a : α) (f : α → Result β) : (ok a).bind f = f a := rfl
@[simp] theorem bind_raised (f : α → Result β) : raised.bind f = raised := rfl
@[simp] theorem bind_undefined (f : α → Result β) : undefined.bind f = undefined := rfl
@[simp] theorem andThen_some (a : α) (f : α → Result (Option β)) :
    (ok (some a)).andThen f = f a := rfl
@[simp] theorem andThen_none (f : α → Result (Option β)) : (ok none).andThen f = ok none := rfl
@[simp] theorem andThen_raised (f : α → Result (Option β)) : raised.andThen f = raised := rfl
@[simp] theorem andThen_undefined (f : α → Result (Option β)) :
    undefined.andThen f = undefined := rfl
@[simp] theorem map_ok (f : α → β) (a : α) : (ok a).map f = ok (f a) := rfl
@[simp] theorem map_raised (f : α → β) : raised.map f = raised := rfl
@[simp] theorem map_undefined (f : α → β) : undefined.map f = undefined := rfl

end Result

/-! ## Tables -/

abbrev Rows (D : Type) := List (Key × Value D)

variable {D : Type}

def Value.isNil : Value D → Bool
  | .nil => true
  | _ => false

def Value.isTable : Value D → Bool
  | .table _ => true
  | _ => false

/-- What the table holds under the key: nil, if nothing. -/
def valueAt (t : Rows D) (k : Key) : Value D := (t.lookup k).getD .nil

def putAt (t : Rows D) (k : Key) (v : Value D) : Rows D :=
  let rest := t.filter fun row => row.1 != k
  if v.isNil then rest else rest ++ [(k, v)]

theorem lookup_cons_ne {j k : Key} (h : j ≠ k) (v : Value D) (t : Rows D) :
    List.lookup j ((k, v) :: t) = List.lookup j t := by
  rw [List.lookup_cons, beq_eq_false_iff_ne.mpr h]

theorem lookup_filter_ne (t : Rows D) (k j : Key) :
    List.lookup j (t.filter fun row => row.1 != k) = if j = k then none else t.lookup j := by
  induction t with
  | nil => simp
  | cons row t ih =>
    obtain ⟨i, v⟩ := row
    by_cases hi : i = k
    · subst hi
      rw [List.filter_cons_of_neg (by simp), ih]
      by_cases hj : j = i
      · rw [if_pos hj, if_pos hj]
      · rw [if_neg hj, if_neg hj, lookup_cons_ne hj]
    · rw [List.filter_cons_of_pos (by simpa using hi)]
      by_cases hj : j = i
      · subst hj
        simp [hi]
      · rw [lookup_cons_ne hj, lookup_cons_ne hj, ih]

@[simp] theorem valueAt_putAt (t : Rows D) (k j : Key) (v : Value D) :
    valueAt (putAt t k v) j = if j = k then v else valueAt t j := by
  have hnil : v.isNil = true → v = .nil := by
    cases v <;> simp [Value.isNil]
  unfold putAt valueAt
  by_cases hv : v.isNil = true
  · rw [if_pos hv, lookup_filter_ne, hnil hv]
    split <;> rfl
  · rw [if_neg hv, List.lookup_append, lookup_filter_ne]
    by_cases hj : j = k
    · subst hj
      simp
    · rw [if_neg hj, if_neg hj, lookup_cons_ne hj]
      simp

@[simp] theorem valueAt_nil (k : Key) : valueAt ([] : Rows D) k = .nil := rfl

/-! ## The state -/

/-- What the interface computes on numbers and texts, and the slots of the running call. -/
structure State (D : Type) where
  slots : Nat
  /-- An integer as a floating-point number. -/
  float : Int64 → D
  /-- The integer a floating-point number is equal to. -/
  toInteger : D → Option Int64
  /-- The number a text denotes. -/
  parse : Bytes → Option (Int64 ⊕ D)
  showInteger : Int64 → Bytes
  showNumber : D → Bytes
  /-- The length of a table: where several numbers are a border, any of them. -/
  border : Rows D → Nat
  border_lt : ∀ t, border t < 2 ^ 63
  border_some : ∀ t, border t ≠ 0 → valueAt t (.integer (.ofNat (border t))) ≠ .nil
  border_none : ∀ t, border t + 1 < 2 ^ 63 → valueAt t (.integer (.ofNat (border t + 1))) = .nil

/-- A step on the stack; the top comes first. -/
def Action (D α : Type) := List (Value D) → Result (α × List (Value D))

namespace Action

variable {α β : Type}

instance : Monad (Action D) where
  pure a := fun st => .ok (a, st)
  bind m f := fun st => (m st).bind fun r => f r.1 r.2

@[simp] theorem pure_apply (a : α) (st : List (Value D)) :
    (pure a : Action D α) st = .ok (a, st) := rfl

@[simp] theorem bind_apply (m : Action D α) (f : α → Action D β) (st : List (Value D)) :
    (m >>= f) st = (m st).bind fun r => f r.1 r.2 := rfl

def undefined : Action D α := fun _ => .undefined

def raise : Action D α := fun _ => .raised

@[simp] theorem undefined_apply (st : List (Value D)) :
    (undefined : Action D α) st = .undefined := rfl

@[simp] theorem raise_apply (st : List (Value D)) : (raise : Action D α) st = .raised := rfl

end Action

/-- A result together with the stack it leaves. -/
def Result.kept {α : Type} (st : List (Value D)) (r : Result α) : Result (α × List (Value D)) :=
  r.map fun a => (a, st)

section Kept

variable {α β : Type} {m : Action D α} {st st' : List (Value D)} {r : Result α}

theorem kept_bind (h : m st = r.kept st') (f : α → Action D β) :
    (m >>= f) st = r.bind fun a => f a st' := by
  rw [Action.bind_apply, h]
  cases r <;> rfl

/-- What is returned at the end of a call. -/
theorem kept_return (h : m st = r.kept st') (g : α → β) :
    (do return g (← m) : Action D β) st = (r.map g).kept st' := by
  rw [kept_bind h]
  cases r <;> rfl

end Kept

/-! ## Indexes -/

/-- Which value, counted from the top, an index means. -/
def position (idx : Int) (st : List (Value D)) : Option Nat :=
  if 0 < idx then
    if idx ≤ st.length then some (st.length - idx.toNat) else none
  else if idx < 0 ∧ -idx ≤ st.length then some ((-idx).toNat - 1)
  else none

def slot (idx : Int) (st : List (Value D)) : Option (Value D) :=
  (position idx st).bind (st[·]?)

@[simp] theorem position_top (v : Value D) (st : List (Value D)) :
    position (-1) (v :: st) = some 0 := by
  rw [position, if_neg (by decide), if_pos ⟨by decide, by simp only [List.length_cons]; omega⟩]
  rfl

@[simp] theorem position_second (v w : Value D) (st : List (Value D)) :
    position (-2) (v :: w :: st) = some 1 := by
  rw [position, if_neg (by decide), if_pos ⟨by decide, by simp only [List.length_cons]; omega⟩]
  rfl

@[simp] theorem position_third (u v w : Value D) (st : List (Value D)) :
    position (-3) (u :: v :: w :: st) = some 2 := by
  rw [position, if_neg (by decide), if_pos ⟨by decide, by simp only [List.length_cons]; omega⟩]
  rfl

/-- The value under the top, by its index from the bottom. -/
@[simp] theorem position_below (v w : Value D) (st : List (Value D)) :
    position (↑(st.length + 1)) (v :: w :: st) = some 1 := by
  rw [position, if_pos (by omega), if_pos (by simp only [List.length_cons]; omega)]
  simp

@[simp] theorem slot_top (v : Value D) (st : List (Value D)) : slot (-1) (v :: st) = some v := by
  simp [slot]

def absindex (idx : Int) : Action D Int := fun st =>
  .ok (if 0 < idx then idx else st.length + idx + 1, st)

/-- The index from the bottom means the same value. -/
theorem slot_absindex {idx : Int} {st : List (Value D)} {v : Value D} (h : slot idx st = some v) :
    ∃ i, absindex idx st = .ok (i, st) ∧ slot i st = some v := by
  unfold absindex
  by_cases hidx : 0 < idx
  · exact ⟨idx, by rw [if_pos hidx], h⟩
  · obtain ⟨p, hp, hv⟩ := Option.bind_eq_some_iff.mp h
    unfold position at hp
    rw [if_neg hidx] at hp
    obtain ⟨⟨hneg, hle⟩, rfl⟩ : (idx < 0 ∧ -idx ≤ st.length) ∧ (-idx).toNat - 1 = p := by
      simpa [Option.ite_none_right_eq_some] using hp
    refine ⟨st.length + idx + 1, by rw [if_neg hidx], ?_⟩
    refine Option.bind_eq_some_iff.mpr ⟨(-idx).toNat - 1, ?_, hv⟩
    rw [position, if_pos (by omega), if_pos (by omega)]
    congr 1
    omega

/-! ## The calls -/

def push (L : State D) (v : Value D) : Action D Unit := fun st =>
  if st.length < L.slots then .ok ((), v :: st) else .undefined

def pop (n : Nat) : Action D Unit := fun st =>
  if n ≤ st.length then .ok ((), st.drop n) else .undefined

def gettop : Action D Int := fun st => .ok (st.length, st)

/-- A test of the type at an index. -/
def typed (test : Value D → Bool) (idx : Int) : Action D Bool := fun st =>
  .ok ((slot idx st).any test, st)

def isnil (idx : Int) : Action D Bool := typed Value.isNil idx

def istable (idx : Int) : Action D Bool := typed Value.isTable idx

def isstring (idx : Int) : Action D Bool :=
  typed (fun | .string _ => true | _ => false) idx

def value (idx : Int) : Action D (Value D) := fun st =>
  match slot idx st with
  | some v => .ok (v, st)
  | none => .undefined

def newtable (L : State D) : Action D Unit := push L (.table [])

def getfield (L : State D) (idx : Int) (name : Bytes) : Action D Unit := do
  match ← value idx with
  | .table t => push L (valueAt t (.string name))
  | _ => .raise

def rawgeti (L : State D) (idx : Int) (i : Int64) : Action D Unit := do
  match ← value idx with
  | .table t => push L (valueAt t (.integer i))
  | _ => .undefined

def rawlen (L : State D) (idx : Int) : Action D Nat := do
  match ← value idx with
  | .table t => pure (L.border t)
  | .string s => pure s.length
  | _ => pure 0

/-- Store into the table at a position, and drop what was popped for it. -/
def store (idx : Int) (popped : Nat) (k : Key) (v : Value D) : Action D Unit := fun st =>
  match position idx st with
  | none => .undefined
  | some p =>
    match st[p]? with
    | some (.table t) => .ok ((), (st.set p (.table (putAt t k v))).drop popped)
    | _ => .undefined

def setfield (idx : Int) (name : Bytes) : Action D Unit := do
  store idx 1 (.string name) (← value (-1))

def rawseti (idx : Int) (i : Int64) : Action D Unit := do
  store idx 1 (.integer i) (← value (-1))

def Value.key : Value D → Option Key
  | .boolean b => some (.boolean b)
  | .integer i => some (.integer i)
  | .string s => some (.string s)
  | .other id => some (.other id)
  | _ => none

def Key.value : Key → Value D
  | .boolean b => .boolean b
  | .integer i => .integer i
  | .string s => .string s
  | .other id => .other id

def rawset (idx : Int) : Action D Unit := do
  let v ← value (-1)
  match (← value (-2)).key with
  | some k => store idx 2 k v
  | none => .raise

/-- The row after the one with the key; the first one, if the key is nil. -/
def following (t : Rows D) (key : Value D) : Option (Option (Key × Value D)) :=
  if key.isNil then some t.head?
  else
    match t.dropWhile fun row => some row.1 != key.key with
    | [] => none
    | _ :: rest => some rest.head?

/-- The index is looked up with the key still on the stack. -/
def next (L : State D) (idx : Int) : Action D Bool := do
  let key ← value (-1)
  match ← value idx with
  | .table t => do
    pop 1
    match following t key with
    | none => .raise
    | some none => pure false
    | some (some row) => do
      push L row.1.value
      push L row.2
      pure true
  | _ => .undefined

/-! ## Conversions -/

def State.integerOf (L : State D) : Value D → Option Int64
  | .integer i => some i
  | .number d => L.toInteger d
  | .string s =>
    match L.parse s with
    | some (.inl i) => some i
    | some (.inr d) => L.toInteger d
    | none => none
  | _ => none

def State.numberOf (L : State D) : Value D → Option D
  | .integer i => some (L.float i)
  | .number d => some d
  | .string s =>
    match L.parse s with
    | some (.inl i) => some (L.float i)
    | some (.inr d) => some d
    | none => none
  | _ => none

def State.textOf (L : State D) : Value D → Option Bytes
  | .integer i => some (L.showInteger i)
  | .number d => some (L.showNumber d)
  | .string s => some s
  | _ => none

def Value.toBool : Value D → Bool
  | .nil => false
  | .boolean b => b
  | _ => true

/-- The argument, or an error of the script. -/
def check {α : Type} (f : Value D → Option α) (idx : Int) : Action D α := fun st =>
  (value idx st).bind fun r => (Result.ofOption (f r.1)).kept r.2

def checkinteger (L : State D) (idx : Int) : Action D Int64 := check L.integerOf idx

def checknumber (L : State D) (idx : Int) : Action D D := check L.numberOf idx

def toboolean (idx : Int) : Action D Bool := do
  return (← value idx).toBool

def replace (idx : Int) (v : Value D) : Action D Unit := fun st =>
  match position idx st with
  | some p => .ok ((), st.set p v)
  | none => .undefined

/-- A number on the stack becomes the text it is read as. -/
def tolstring (L : State D) (idx : Int) : Action D (Option Bytes) := do
  match L.textOf (← value idx) with
  | some s => do
    replace idx (.string s)
    pure (some s)
  | none => pure none

section Calls

variable {L : State D} {st : List (Value D)} {v w : Value D} {t : Rows D} {idx : Int}

theorem push_ok (h : st.length < L.slots) (v : Value D) : push L v st = .ok ((), v :: st) :=
  if_pos h

theorem push_full (h : ¬ st.length < L.slots) (v : Value D) : push L v st = .undefined :=
  if_neg h

theorem push_zero (h : L.slots - st.length = 0) (v : Value D) : push L v st = .undefined :=
  push_full (by omega) v

theorem push_succ {k : Nat} (h : L.slots - st.length = k + 1) (v : Value D) :
    push L v st = .ok ((), v :: st) :=
  push_ok (by omega) v

@[simp] theorem pop_one : pop 1 (v :: st) = .ok ((), st) := by
  simp [pop]

@[simp] theorem gettop_apply : gettop st = .ok (↑st.length, st) := rfl

@[simp] theorem isnil_top : isnil (-1) (v :: st) = .ok (v.isNil, v :: st) := by
  simp [isnil, typed]

@[simp] theorem istable_top : istable (-1) (v :: st) = .ok (v.isTable, v :: st) := by
  simp [istable, typed]

theorem istable_slot (h : slot idx st = some v) : istable idx st = .ok (v.isTable, st) := by
  simp [istable, typed, h]

theorem value_slot (h : slot idx st = some v) : value idx st = .ok (v, st) := by
  simp [value, h]

@[simp] theorem value_top : value (-1) (v :: st) = .ok (v, v :: st) := value_slot (slot_top v st)

@[simp] theorem check_top {α : Type} (f : Value D → Option α) :
    check f (-1) (v :: st) = (Result.ofOption (f v)).kept (v :: st) := by
  simp [check]

theorem getfield_slot (h : slot idx st = some (.table t)) (name : Bytes) :
    getfield L idx name st = push L (valueAt t (.string name)) st := by
  simp [getfield, value_slot h]

@[simp] theorem replace_top : replace (-1) w (v :: st) = .ok ((), w :: st) := by
  simp [replace]

/-- The text of a number stays in the place of the number. -/
theorem tolstring_top (v : Value D) (st : List (Value D)) :
    ∃ w, tolstring L (-1) (v :: st) = .ok (L.textOf v, w :: st) := by
  rw [tolstring, Action.bind_apply, value_top, Result.bind_ok]
  cases L.textOf v with
  | none => exact ⟨v, rfl⟩
  | some s => exact ⟨.string s, by simp⟩

@[simp] theorem rawgeti_top (i : Int64) :
    rawgeti L (-1) i (.table t :: st) = push L (valueAt t (.integer i)) (.table t :: st) := by
  simp [rawgeti]

@[simp] theorem rawlen_top :
    rawlen L (-1) (.table t :: st) = .ok (L.border t, .table t :: st) := by
  simp [rawlen]

@[simp] theorem setfield_below (name : Bytes) :
    setfield (↑(st.length + 1)) name (v :: .table t :: st) =
      .ok ((), .table (putAt t (.string name) v) :: st) := by
  rw [setfield, Action.bind_apply, value_top, Result.bind_ok, store, position_below]
  rfl

@[simp] theorem rawseti_second (i : Int64) :
    rawseti (-2) i (v :: .table t :: st) = .ok ((), .table (putAt t (.integer i) v) :: st) := by
  simp [rawseti, store]

@[simp] theorem rawset_third {k : Key} (hk : w.key = some k) :
    rawset (-3) (v :: w :: .table t :: st) = .ok ((), .table (putAt t k v) :: st) := by
  have hw : value (-2) (v :: w :: .table t :: st) = .ok (w, v :: w :: .table t :: st) :=
    value_slot (by simp [slot])
  rw [rawset, Action.bind_apply, value_top, Result.bind_ok, Action.bind_apply, hw, Result.bind_ok]
  simp [hk, store]

/-! ## Room on the stack -/

/-- What needs so many free slots. -/
def State.room {α : Type} (L : State D) (st : List (Value D)) (n : Nat) (r : Result α) : Result α :=
  if st.length + n ≤ L.slots then r else .undefined

theorem push_room (v : Value D) : push L v st = L.room st 1 (.ok ((), v :: st)) := rfl

variable {α β : Type} {n m : Nat} {r r' : Result α}

theorem room_bind (f : α → Result β) : (L.room st n r).bind f = L.room st n (r.bind f) := by
  unfold State.room
  split <;> rfl

theorem room_room : L.room st n (L.room st m r) = L.room st (max n m) r := by
  unfold State.room
  by_cases hn : st.length + n ≤ L.slots
  · by_cases hm : st.length + m ≤ L.slots
    · rw [if_pos hn, if_pos hm, if_pos (by omega)]
    · rw [if_pos hn, if_neg hm, if_neg (by omega)]
  · rw [if_neg hn, if_neg (by omega)]

theorem room_cons : L.room (v :: st) n r = L.room st (n + 1) r := by
  unfold State.room
  rw [List.length_cons, Nat.add_assoc, Nat.add_comm 1 n]

theorem room_of_le (h : st.length + n ≤ L.slots) : L.room st n r = r := if_pos h

theorem room_congr (h : st.length + n ≤ L.slots → r = r') : L.room st n r = L.room st n r' := by
  unfold State.room
  split
  · rename_i hn
    exact h hn
  · rfl

/-- A value is pushed above a table and stored in it, before the call goes on. -/
theorem room_setfield {first rest : Action D Unit} {st₀ : List (Value D)} {name : Bytes}
    {r : Result (Unit × List (Value D))}
    (hfirst : first st₀ = L.room (.table t :: st) n (.ok ((), v :: .table t :: st)))
    (hrest : rest (.table (putAt t (.string name) v) :: st) = L.room st m r) :
    (do first; setfield (↑(st.length + 1)) name; rest : Action D Unit) st₀ =
      L.room st (max (n + 1) m) r := by
  rw [Action.bind_apply, hfirst, room_bind, Result.bind_ok, Action.bind_apply, setfield_below,
    Result.bind_ok, hrest, room_cons, room_room]

theorem room_rawseti {first rest : Action D Unit} {st₀ : List (Value D)} {i : Int64}
    {r : Result (Unit × List (Value D))}
    (hfirst : first st₀ = L.room (.table t :: st) n (.ok ((), v :: .table t :: st)))
    (hrest : rest (.table (putAt t (.integer i) v) :: st) = L.room st m r) :
    (do first; rawseti (-2) i; rest : Action D Unit) st₀ = L.room st (max (n + 1) m) r := by
  rw [Action.bind_apply, hfirst, room_bind, Result.bind_ok, Action.bind_apply, rawseti_second,
    Result.bind_ok, hrest, room_cons, room_room]

/-- A new table is filled above what is on the stack. -/
theorem room_newtable {fill : Action D Unit} (r : Result (Unit × List (Value D)))
    (hfill : st.length + 1 ≤ L.slots → fill (.table [] :: st) = L.room st (n + 1) r) :
    (do newtable L; fill : Action D Unit) st = L.room st (n + 1) r := by
  rw [Action.bind_apply, newtable, push_room, room_bind, Result.bind_ok, room_congr hfill,
    room_room, Nat.max_eq_right (by omega)]

end Calls

end LuaApi
