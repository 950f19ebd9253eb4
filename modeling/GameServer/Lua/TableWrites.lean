import GameServer.Lua.PbLua

/-!
# What a message becomes

The table of a message without the stack, and the slots the conversion takes: a table stays on
the stack until all its fields are in it, so what counts is how deep the message is nested.
-/

namespace Pbl

open LuaApi

variable {D F : Type} (fmt : FloatFormat D F) (P : Pool)

/-- The Lua value of a scalar. -/
def plainValue : ScalarType → Scalar D F → Value D
  | .int32, .int32 i => .integer i.toInt64
  | .int64, .int64 i => .integer i
  | .uint32, .uint32 n => .integer n.toUInt64.toInt64
  | .uint64, .uint64 n => .integer n.toInt64
  | .double, .double d => .number d
  | .float, .float f => .number (fmt.widen f)
  | .bool, .bool b => .boolean b
  | .string, .string s => .string s
  | .enum ed, .enum n => .string (cstr (ed.nameOf n))
  | _, _ => .nil

mutual

def valueOf : CppType → Content D F → Value D
  | .scalar t, .scalar s => plainValue fmt t s
  | .message d, .message cs => .table (fieldRows (P d).fields cs [])
  | _, _ => .nil

def fieldRows : List FieldDescriptor → List (Content D F) → Rows D → Rows D
  | f :: fs, c :: cs, rows =>
    match f.type, c with
    | .map k t, .map es =>
      fieldRows fs cs (putAt rows (.string (cstr f.name)) (.table (entryRows k t es [])))
    | .repeated t, .repeated es =>
      fieldRows fs cs (putAt rows (.string (cstr f.name)) (.table (elementRows t 0 es [])))
    | .single (.message _), .unset => fieldRows fs cs rows
    | .single t, c => fieldRows fs cs (putAt rows (.string (cstr f.name)) (valueOf t c))
    | _, _ => rows
  | _, _, rows => rows

def elementRows (t : CppType) : Nat → List (Content D F) → Rows D → Rows D
  | _, [], rows => rows
  | j, e :: es, rows =>
    elementRows t (j + 1) es (putAt rows (.integer (.ofNat (j + 1))) (valueOf t e))

def entryRows (k : KeyType) (t : CppType) : List (Content D F) → Rows D → Rows D
  | .entry key v :: es, rows =>
    match (plainValue fmt k.1 key).key with
    | some j => entryRows k t es (putAt rows j (valueOf t v))
    | none => rows
  | _, rows => rows

end

mutual

/-- The slots a content takes while it is converted. -/
def Content.height : Content D F → Nat
  | .unset => 0
  | .scalar _ => 1
  | .message cs => heights cs + 1
  | .repeated es => heights es + 1
  | .map es => heights es + 1
  | .entry _ v => v.height + 1

def heights : List (Content D F) → Nat
  | [] => 0
  | c :: cs => max c.height (heights cs)

end

/-! ## The calls compute it -/

variable {L : State D} {fmt P}

theorem pushPlain_eq (t : ScalarType) (s : Scalar D F) (st : List (Value D)) :
    pushPlain L fmt t s st = push L (plainValue fmt t s) st := by
  cases t <;> cases s <;> rfl

variable (fmt) in
theorem plainValue_key {t : ScalarType} {s : Scalar D F} (hs : s.HasType t)
    (ht : t.isKey = true) : ∃ j, (plainValue fmt t s).key = some j := by
  cases t <;> cases s <;> first | exact hs.elim | exact ⟨_, rfl⟩ | cases ht

/-! What the conversion does with one content, with the fields of a message, with the elements
of a repeated field and with the entries of a map. -/

section Parts

variable (L fmt P)

def Pushes (c : Content D F) : Prop :=
  ∀ (t : CppType) (st : List (Value D)), Typed P t c →
    pushScalar L fmt P t c st = L.room st c.height (.ok ((), valueOf fmt P t c :: st))

def FillsFields (cs : List (Content D F)) : Prop :=
  ∀ (fs : List FieldDescriptor) (rows : Rows D) (st : List (Value D)), TypedFields P fs cs →
    st.length + 1 ≤ L.slots →
    fieldsToTable L fmt P (↑(st.length + 1)) fs cs (.table rows :: st) =
      L.room st (heights cs + 1) (.ok ((), .table (fieldRows fmt P fs cs rows) :: st))

def FillsElements (es : List (Content D F)) : Prop :=
  ∀ (t : CppType) (j : Nat) (rows : Rows D) (st : List (Value D)), TypedElements P t es →
    st.length + 1 ≤ L.slots →
    elementsToTable L fmt P t j es (.table rows :: st) =
      L.room st (heights es + 1) (.ok ((), .table (elementRows fmt P t j es rows) :: st))

def FillsEntries (es : List (Content D F)) : Prop :=
  ∀ (k : KeyType) (t : CppType) (rows : Rows D) (st : List (Value D)), TypedEntries P k t es →
    st.length + 1 ≤ L.slots →
    mapToTable L fmt P k t es (.table rows :: st) =
      L.room st (heights es + 1) (.ok ((), .table (entryRows fmt P k t es rows) :: st))

/-- What is filled for a content that has a table of its own in a field. -/
def FillsInner : Content D F → Prop
  | .repeated es => FillsElements fmt P L es
  | .map es => FillsEntries fmt P L es
  | _ => True

end Parts

theorem Pushes.of_untyped {c : Content D F} (h : ∀ t, ¬ Typed P t c) : Pushes fmt P L c :=
  fun t _ ht => absurd ht (h t)

theorem Pushes.scalar (s : Scalar D F) : Pushes fmt P L (.scalar s) := by
  intro t st ht
  cases t with
  | scalar t => exact pushPlain_eq t s st
  | message d => exact ht.elim

theorem Pushes.message {cs : List (Content D F)} (h : FillsFields fmt P L cs) :
    Pushes fmt P L (.message cs) := by
  intro t st ht
  cases t with
  | scalar t => exact ht.elim
  | message d =>
    refine room_newtable _ fun hst => ?_
    rw [Action.bind_apply, gettop_apply, Result.bind_ok]
    exact h _ [] st ht hst

theorem FillsElements.cons {e : Content D F} {es : List (Content D F)} (he : Pushes fmt P L e)
    (hes : FillsElements fmt P L es) : FillsElements fmt P L (e :: es) := by
  intro t j rows st ht hst
  have hrest := hes t (j + 1) (putAt rows (.integer (.ofNat (j + 1))) (valueOf fmt P t e)) st ht.2 hst
  rw [elementsToTable, room_rawseti (he t (.table rows :: st) ht.1) hrest, elementRows, heights]
  congr 1
  omega

theorem FillsEntries.cons {key : Scalar D F} {v : Content D F} {es : List (Content D F)}
    (hv : Pushes fmt P L v) (hes : FillsEntries fmt P L es) :
    FillsEntries fmt P L (.entry key v :: es) := by
  intro k t rows st ht hst
  obtain ⟨hkey, hvalue, htail⟩ := ht
  obtain ⟨j, hj⟩ := plainValue_key fmt hkey k.2
  have hrest := hes k t (putAt rows j (valueOf fmt P t v)) st htail hst
  rw [mapToTable, Action.bind_apply, pushPlain_eq, push_room, room_bind, Result.bind_ok,
    Action.bind_apply, hv t _ hvalue, room_bind, Result.bind_ok, Action.bind_apply, rawset_third hj,
    Result.bind_ok, hrest, entryRows, hj]
  simp only [room_cons, room_room, heights, Content.height]
  congr 1
  omega

theorem FillsFields.nil : FillsFields fmt P L ([] : List (Content D F)) := by
  intro fs rows st h hst
  cases fs with
  | nil => exact (room_of_le hst).symm
  | cons f fs => exact h.elim

theorem FillsFields.cons {c : Content D F} {cs : List (Content D F)} (hc : Pushes fmt P L c)
    (hinner : FillsInner fmt P L c) (hcs : FillsFields fmt P L cs) :
    FillsFields fmt P L (c :: cs) := by
  intro fs rows st h hst
  cases fs with
  | nil => exact h.elim
  | cons f fs =>
    obtain ⟨hfield, hfields⟩ := typedFields_cons.mp h
    obtain ⟨name, type⟩ := f
    have hrest := fun rows => hcs fs rows st hfields hst
    have hpush : ∀ t, Typed P t c →
        (do pushScalar L fmt P t c
            setfield (↑(st.length + 1)) (cstr name)
            fieldsToTable L fmt P (↑(st.length + 1)) fs cs : Action D Unit) (.table rows :: st) =
          L.room st (heights (c :: cs) + 1) (.ok ((), .table (fieldRows fmt P fs cs
            (putAt rows (.string (cstr name)) (valueOf fmt P t c))) :: st)) := by
      intro t ht
      rw [room_setfield (hc t (.table rows :: st) ht) (hrest _), heights]
      congr 1
      omega
    -- a table of its own is filled above the one of the message
    have htable : ∀ (fill : Action D Unit) (filled : Rows D) (n : Nat), c.height = n + 1 →
        ((Value.table rows :: st).length + 1 ≤ L.slots →
          fill (.table [] :: .table rows :: st) =
            L.room (.table rows :: st) (n + 1) (.ok ((), .table filled :: .table rows :: st))) →
        (do newtable L
            fill
            setfield (↑(st.length + 1)) (cstr name)
            fieldsToTable L fmt P (↑(st.length + 1)) fs cs : Action D Unit) (.table rows :: st) =
          L.room st (heights (c :: cs) + 1) (.ok ((), .table (fieldRows fmt P fs cs
            (putAt rows (.string (cstr name)) (.table filled))) :: st)) := by
      intro fill filled n hn hfill
      rw [Action.bind_apply, newtable, push_room, room_bind, Result.bind_ok,
        room_congr fun hroom => room_setfield (hfill hroom) (hrest _), room_cons, room_room,
        heights, hn]
      congr 1
      omega
    cases type with
    | single t =>
      cases t with
      | scalar t =>
        cases c with
        | scalar s => simpa only [fieldsToTable, fieldRows] using hpush (.scalar t) hfield
        | _ => exact hfield.elim
      | message d =>
        cases c with
        | unset =>
          simp only [fieldsToTable, fieldRows, hrest, heights, Content.height, Nat.zero_max]
        | message ds => simpa only [fieldsToTable, fieldRows] using hpush (.message d) hfield
        | _ => exact hfield.elim
    | «repeated» t =>
      cases c with
      | «repeated» es =>
        simp only [fieldsToTable, fieldRows]
        exact htable _ _ _ rfl (hinner t 0 [] _ hfield.2)
      | _ => exact hfield.elim
    | map k t =>
      cases c with
      | map es =>
        simp only [fieldsToTable, fieldRows]
        exact htable _ _ _ rfl (hinner k t [] _ hfield.2)
      | _ => exact hfield.elim

mutual

theorem pushes (c : Content D F) : Pushes fmt P L c :=
  match c with
  | .scalar s => .scalar s
  | .message cs => .message (fillsFields cs)
  | .unset => .of_untyped fun t => by cases t <;> exact id
  | .repeated _ => .of_untyped fun t => by cases t <;> exact id
  | .map _ => .of_untyped fun t => by cases t <;> exact id
  | .entry _ _ => .of_untyped fun t => by cases t <;> exact id

theorem fillsInner (c : Content D F) : FillsInner fmt P L c :=
  match c with
  | .repeated es => fillsElements es
  | .map es => fillsEntries es
  | .unset => trivial
  | .scalar _ => trivial
  | .message _ => trivial
  | .entry _ _ => trivial

theorem fillsFields (cs : List (Content D F)) : FillsFields fmt P L cs :=
  match cs with
  | [] => .nil
  | c :: cs => .cons (pushes c) (fillsInner c) (fillsFields cs)

theorem fillsElements (es : List (Content D F)) : FillsElements fmt P L es :=
  match es with
  | [] => fun _ _ _ _ _ hst => (room_of_le hst).symm
  | e :: es => .cons (pushes e) (fillsElements es)

theorem fillsEntries (es : List (Content D F)) : FillsEntries fmt P L es :=
  match es with
  | [] => fun _ _ _ _ _ hst => (room_of_le hst).symm
  | .entry _ v :: es => .cons (pushes v) (fillsEntries es)
  | .unset :: _ => fun _ _ _ _ h _ => h.elim
  | .scalar _ :: _ => fun _ _ _ _ h _ => h.elim
  | .message _ :: _ => fun _ _ _ _ h _ => h.elim
  | .repeated _ :: _ => fun _ _ _ _ h _ => h.elim
  | .map _ :: _ => fun _ _ _ _ h _ => h.elim

end

/-- A message becomes its table, if the stack has the slots it takes. -/
theorem messageToTable_eq {d : Nat} (m : Message P D F d) (st : List (Value D)) :
    messageToTable L fmt P d m.contents st =
      L.room st (heights m.contents + 1)
        (.ok ((), .table (fieldRows fmt P (P d).fields m.contents []) :: st)) :=
  pushes (.message m.contents) _ st m.typed

end Pbl
