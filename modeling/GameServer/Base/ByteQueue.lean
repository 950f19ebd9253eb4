import GameServer.Lib.Run
import GameServer.Base.Buffer

/-!
# A buffer is a queue of bytes

What a buffer is for is said by a list of bytes: writes go to its end, headers to its front,
and reads take from the front. A buffer whose indexes are in order answers every call as
its list does, and stays in order. Its move operations leave a buffer behind whose indexes
point past a storage of no bytes.
-/

namespace Base

open Gateway (Bytes)
open Net (putBE getBE)
open Window (window put)

/-- A queue of bytes. -/
abbrev Queue := Bytes

namespace Queue

def readUint (q : Queue) (size : Nat) : Option (Queue × Out) :=
  if size ≤ q.length then some (q.drop size, .number (getBE (q.take size))) else none

/-- `none` is a call that asks for bytes that are not there. -/
def call (q : Queue) : Op → Option (Queue × Out)
  | .append src => some (q ++ src.val, .unit)
  | .write src => some (q ++ src.val, .returned (toInt src.val.length))
  | .prepend data => some (data.val ++ q, .unit)
  | .prependInt64 x => some (putBE 8 x.toNat ++ q, .unit)
  | .prependInt32 x => some (putBE 4 x.toNat ++ q, .unit)
  | .prependInt16 x => some (putBE 2 x.toNat ++ q, .unit)
  | .prependInt8 x => some (putBE 1 x.toNat ++ q, .unit)
  | .read len =>
    some (q.drop len.toNat, .copied (q.take len.toNat) (toInt (min len.toNat q.length)))
  | .readAsString len => some (q.drop len.toNat, .string (q.take len.toNat))
  | .readAllAsString => some ([], .string q)
  | .readUint64 => readUint q 8
  | .readUint32 => readUint q 4
  | .readUint16 => readUint q 2
  | .readUint8 => readUint q 1
  | .retrieve len => if len.toNat ≤ q.length then some (q.drop len.toNat, .unit) else none
  | .retrieveAll => some ([], .unit)

def interface : Interface Queue where
  new _ := some []
  call := call
  movedFrom := []

end Queue

namespace Buffer

/-- The bytes from `peek()` to `beginWrite()`. -/
def readable (b : Buffer) : Queue := window b.buff b.readIndex.toNat b.writeIndex.toNat

/-- The indexes are in order and within the storage. -/
structure InOrder (b : Buffer) : Prop where
  order : b.readIndex.toNat ≤ b.writeIndex.toNat
  bound : b.writeIndex.toNat ≤ b.buff.length

/-- The storage also has room for the spare bytes in front, as it has from the start. -/
structure WellFormed (b : Buffer) : Prop extends InOrder b where
  room : kCheapPrepend.toNat ≤ b.buff.length
  size : b.buff.length ≤ maxSize

/-- A call on the storage came back in order with these bytes, or there was no room for them. -/
def Holds (q : Queue) : Except Fault Buffer → Prop
  | .ok b => b.WellFormed ∧ b.readable = q
  | .error e => e = .lengthError

/-- A call is answered as the queue answers it: it fails an assertion exactly where the queue
has no answer, and otherwise comes back unless there is no room. -/
def Answers : Except Fault (Buffer × Out) → Option (Queue × Out) → Prop
  | .ok (b, out), some (q, answer) => b.WellFormed ∧ b.readable = q ∧ out = answer
  | .error .assertion, none => True
  | .error .lengthError, some _ => True
  | _, _ => False

section Sizes

variable {b : Buffer}

@[simp] theorem kCheapPrepend_toNat : kCheapPrepend.toNat = 32 := rfl

theorem length_readable (h : b.WellFormed) :
    b.readable.length = b.writeIndex.toNat - b.readIndex.toNat :=
  Window.length_window h.bound

theorem readableBytes_toNat (h : b.WellFormed) : b.readableBytes.toNat = b.readable.length := by
  rw [length_readable h]
  exact UInt64.toNat_sub_of_le _ _ (UInt64.le_iff_toNat_le.mpr h.order)

theorem writeableBytes_toNat (h : b.WellFormed) :
    b.writeableBytes.toNat = b.buff.length - b.writeIndex.toNat := by
  have hsize := h.size
  have hbound := h.bound
  unfold maxSize at hsize
  have hlen : (UInt64.ofNat b.buff.length).toNat = b.buff.length :=
    UInt64.toNat_ofNat_of_lt' (by unfold UInt64.size; omega)
  unfold writeableBytes
  rw [UInt64.toNat_sub_of_le _ _ (by rw [UInt64.le_iff_toNat_le, hlen]; exact hbound), hlen]

theorem Data.size_toNat (src : Data) : src.size.toNat = src.val.length := by
  have hsize := src.property
  unfold maxSize at hsize
  exact UInt64.toNat_ofNat_of_lt' (by unfold UInt64.size; omega)

theorem add_toNat {i j : UInt64} (h : i.toNat + j.toNat < 2 ^ 64) :
    (i + j).toNat = i.toNat + j.toNat := by
  rw [UInt64.toNat_add, Nat.mod_eq_of_lt h]

end Sizes

section Read

variable {b : Buffer}

theorem retrieveAll_holds (h : b.WellFormed) :
    b.retrieveAll.WellFormed ∧ b.retrieveAll.readable = [] :=
  ⟨⟨⟨le_refl _, h.room⟩, h.room, h.size⟩, Window.window_self _ _⟩

theorem retrieve_holds (h : b.WellFormed) {len : UInt64} (hlen : len.toNat ≤ b.readable.length) :
    ∃ b', b.retrieve len = .ok b' ∧ b'.WellFormed ∧ b'.readable = b.readable.drop len.toNat := by
  have hreadable := readableBytes_toNat h
  have hlength := length_readable h
  have hw := b.writeIndex.toNat_lt
  have hle : len ≤ b.readableBytes := UInt64.le_iff_toNat_le.mpr (by omega)
  simp only [retrieve, assert, if_pos hle]
  by_cases hlt : len < b.readableBytes
  · have hlt' := UInt64.lt_iff_toNat_lt.mp hlt
    have hindex : (b.readIndex + len).toNat = b.readIndex.toNat + len.toNat :=
      add_toNat (by omega)
    refine ⟨{ b with readIndex := b.readIndex + len }, by rw [if_pos hlt]; rfl, ?_, ?_⟩
    · exact ⟨⟨by dsimp only; omega, h.bound⟩, h.room, h.size⟩
    · unfold readable
      rw [Window.drop_window, ← hindex]
  · have hge : b.readable.length ≤ len.toNat := by
      rw [← hreadable]
      exact Nat.not_lt.mp fun hc => hlt (UInt64.lt_iff_toNat_lt.mpr hc)
    obtain ⟨hwf, hnil⟩ := retrieveAll_holds h
    refine ⟨b.retrieveAll, by rw [if_neg hlt]; rfl, hwf, ?_⟩
    rw [hnil, List.drop_of_length_le hge]

/-- `retrieve` fails its assertion exactly when the bytes are not there. -/
theorem retrieve_fails (h : b.WellFormed) {len : UInt64} (hlen : b.readable.length < len.toNat) :
    b.retrieve len = .error .assertion := by
  have hreadable := readableBytes_toNat h
  have hle : ¬len ≤ b.readableBytes := fun hc => by
    have := UInt64.le_iff_toNat_le.mp hc
    omega
  simp only [retrieve, assert, if_neg hle]
  rfl

/-- What is loaded from the front of a buffer in order. -/
theorem load_readable (h : b.WellFormed) {len : UInt64} (hlen : len.toNat ≤ b.readable.length) :
    load b.buff b.readIndex (b.readIndex + len) = .ok (b.readable.take len.toNat) := by
  have hlength := length_readable h
  have hw := b.writeIndex.toNat_lt
  have hbound := h.bound
  have horder := h.order
  have hindex : (b.readIndex + len).toNat = b.readIndex.toNat + len.toNat := add_toNat (by omega)
  have htake : b.readable.take len.toNat =
      window b.buff b.readIndex.toNat (b.readIndex + len).toNat := by
    rw [hindex]
    exact Window.take_window (by omega)
  unfold load
  rw [htake]
  split
  · rename_i heq
    rw [← heq, Window.window_self]
  · rw [if_pos ⟨UInt64.le_iff_toNat_le.mpr (by omega), by omega⟩]

theorem clamp_toNat (h : b.WellFormed) (len : UInt64) :
    (b.clamp len).toNat = min len.toNat b.readable.length := by
  have hreadable := readableBytes_toNat h
  unfold clamp
  split
  · rename_i hgt
    have := UInt64.lt_iff_toNat_lt.mp hgt
    omega
  · rename_i hle
    have : len.toNat ≤ b.readableBytes.toNat :=
      Nat.not_lt.mp fun hc => hle (UInt64.lt_iff_toNat_lt.mpr hc)
    omega

/-- `read` and `readAsString` take what they are asked for, or all there is. -/
theorem take_answers (h : b.WellFormed) (len : UInt64) (out : Bytes → Nat → Out) :
    Answers (do
      let dst ← load b.buff b.readIndex (b.readIndex + b.clamp len)
      let b' ← b.retrieve (b.clamp len)
      return (b', out dst (b.clamp len).toNat))
    (some (b.readable.drop len.toNat,
      out (b.readable.take len.toNat) (min len.toNat b.readable.length))) := by
  have hclamp := clamp_toNat h len
  have hle : (b.clamp len).toNat ≤ b.readable.length := by omega
  have htake : b.readable.take (b.clamp len).toNat = b.readable.take len.toNat := by
    rw [hclamp, ← List.take_take, List.take_length]
  have hdrop : b.readable.drop (b.clamp len).toNat = b.readable.drop len.toNat := by
    rw [hclamp]
    rcases Nat.le_total len.toNat b.readable.length with hlen | hlen
    · rw [Nat.min_eq_left hlen]
    · rw [Nat.min_eq_right hlen, List.drop_length, List.drop_of_length_le hlen]
  obtain ⟨b', hb', hwf, hreadable⟩ := retrieve_holds h hle
  rw [load_readable h hle, hb', htake, hclamp]
  exact ⟨hwf, hreadable.trans hdrop, rfl⟩

theorem readUint_answers (h : b.WellFormed) {size : UInt64} :
    Answers (b.readUint size) (Queue.readUint b.readable size.toNat) := by
  have hreadable := readableBytes_toNat h
  unfold Buffer.readUint Queue.readUint assert
  by_cases hsize : size.toNat ≤ b.readable.length
  · have hge : b.readableBytes ≥ size := UInt64.le_iff_toNat_le.mpr (by omega)
    obtain ⟨b', hb', hwf, hrest⟩ := retrieve_holds h hsize
    rw [if_pos hsize, if_pos hge, load_readable h hsize, hb']
    exact ⟨hwf, hrest, rfl⟩
  · have hlt : ¬b.readableBytes ≥ size := fun hc => by
      have := UInt64.le_iff_toNat_le.mp hc
      omega
    rw [if_neg hsize, if_neg hlt]
    trivial

end Read

section Write

variable {b : Buffer}

theorem load_all (h : b.WellFormed) : load b.buff b.readIndex b.writeIndex = .ok b.readable := by
  have hindex : b.readIndex + b.readableBytes = b.writeIndex := by
    unfold readableBytes
    rw [UInt64.add_comm, UInt64.sub_add_cancel]
  have hload : load b.buff b.readIndex (b.readIndex + b.readableBytes) =
      .ok (b.readable.take b.readableBytes.toNat) :=
    load_readable h (Nat.le_of_eq (readableBytes_toNat h))
  rw [hindex, readableBytes_toNat h, List.take_length] at hload
  exact hload

theorem store_ok {buff src : Bytes} {i : UInt64} (h : i.toNat + src.length ≤ buff.length) :
    store buff i src = .ok (put buff i.toNat src) := by
  unfold store
  by_cases hnil : src = []
  · rw [if_pos hnil, hnil, Window.put_nil]
  · rw [if_neg hnil, if_pos h]

/-- Growing the storage. -/
theorem grow_holds (h : b.WellFormed) {len : UInt64} (hlen : len.toNat ≤ maxSize)
    (hgt : b.buff.length - b.writeIndex.toNat < len.toNat) :
    match resize b.buff (b.writeIndex + len) with
    | .ok buff => ({ b with buff } : Buffer).WellFormed ∧
        ({ b with buff } : Buffer).readable = b.readable ∧
        b.writeIndex.toNat + len.toNat ≤ buff.length
    | .error e => e = .lengthError := by
  have hbound := h.bound
  have hsize := h.size
  have hroom := h.room
  unfold maxSize at hlen hsize
  have hindex : (b.writeIndex + len).toNat = b.writeIndex.toNat + len.toNat := add_toNat (by omega)
  unfold resize
  rw [hindex]
  by_cases hfit : b.writeIndex.toNat + len.toNat ≤ maxSize
  · rw [if_pos hfit]
    have hlength : (b.buff.take (b.writeIndex.toNat + len.toNat) ++
        List.replicate (b.writeIndex.toNat + len.toNat - b.buff.length) 0).length =
        b.writeIndex.toNat + len.toNat := by
      rw [List.length_append, List.length_take, List.length_replicate]
      omega
    have hwindow := Window.window_take (i := b.readIndex.toNat) (Nat.le_add_right _ len.toNat)
      (List.replicate (b.writeIndex.toNat + len.toNat - b.buff.length) 0) hbound
    generalize b.buff.take _ ++ List.replicate _ 0 = buff at hlength hwindow ⊢
    have hle : b.writeIndex.toNat ≤ buff.length := by omega
    have hspare : kCheapPrepend.toNat ≤ buff.length := by omega
    exact ⟨⟨⟨h.order, hle⟩, hspare, hlength ▸ hfit⟩, hwindow, Nat.le_of_eq hlength.symm⟩
  · rw [if_neg hfit]

/-- Sliding what is readable to the front makes room there was before it. -/
theorem slide_holds (h : b.WellFormed) (hfront : 32 ≤ b.readIndex.toNat) :
    ∃ buff, (do store b.buff kCheapPrepend (← load b.buff b.readIndex b.writeIndex)) = .ok buff ∧
      let b' : Buffer :=
        { buff, readIndex := kCheapPrepend, writeIndex := kCheapPrepend + b.readableBytes }
      b'.WellFormed ∧ b'.readable = b.readable ∧ b'.writeIndex.toNat = 32 + b.readable.length ∧
        buff.length = b.buff.length := by
  have horder := h.order
  have hbound := h.bound
  have hsize := h.size
  have hlength := length_readable h
  unfold maxSize at hsize
  have hfits : kCheapPrepend.toNat + b.readable.length ≤ b.buff.length := by
    rw [kCheapPrepend_toNat]
    omega
  have hindex : (kCheapPrepend + b.readableBytes).toNat = 32 + b.readable.length := by
    rw [add_toNat (by rw [readableBytes_toNat h, kCheapPrepend_toNat]; omega),
      readableBytes_toNat h, kCheapPrepend_toNat]
  have hput : (put b.buff 32 b.readable).length = b.buff.length := Window.length_put hfits
  refine ⟨put b.buff 32 b.readable, ?_, ⟨⟨?_, ?_⟩, ?_, ?_⟩, ?_, hindex, hput⟩
  · rw [load_all h]
    exact store_ok hfits
  · dsimp only
    rw [hindex, kCheapPrepend_toNat]
    omega
  · dsimp only
    rw [hindex, hput]
    exact hfits
  · exact hput ▸ h.room
  · exact hput ▸ h.size
  · unfold readable
    dsimp only
    rw [hindex, kCheapPrepend_toNat]
    exact Window.window_put_self hfits

/-- After `ensureWriteable` there is room at the end, and the same bytes are readable. -/
theorem ensureWriteable_holds (h : b.WellFormed) {len : UInt64} (hlen : len.toNat ≤ maxSize) :
    match b.ensureWriteable len with
    | .ok b' => b'.WellFormed ∧ b'.readable = b.readable ∧
        b'.writeIndex.toNat + len.toNat ≤ b'.buff.length
    | .error e => e = .lengthError := by
  have hwriteable := writeableBytes_toNat h
  have horder := h.order
  have hbound := h.bound
  have hsize := h.size
  have hlength := length_readable h
  unfold ensureWriteable
  by_cases hgt : len > b.writeableBytes
  · have hgt' := UInt64.lt_iff_toNat_lt.mp hgt
    rw [if_pos hgt]
    by_cases hgrow : b.writeableBytes + b.prependBytes < len + kCheapPrepend
    · rw [if_pos hgrow]
      have hroom := grow_holds h hlen (by omega)
      cases hresize : resize b.buff (b.writeIndex + len) with
      | error e =>
        rw [hresize] at hroom
        exact hroom
      | ok buff =>
        rw [hresize] at hroom
        obtain ⟨hwf, hreadable, hfits⟩ := hroom
        have hge : ({ b with buff } : Buffer).writeableBytes ≥ len := by
          rw [ge_iff_le, UInt64.le_iff_toNat_le, writeableBytes_toNat hwf]
          dsimp only
          omega
        simp only [bind, Except.bind, pure, Except.pure, assert, if_pos hge]
        exact ⟨hwf, hreadable, hfits⟩
    · rw [if_neg hgrow]
      unfold maxSize at hlen hsize
      have hspare : len.toNat + 32 ≤ (b.buff.length - b.writeIndex.toNat) + b.readIndex.toNat := by
        have := mt UInt64.lt_iff_toNat_lt.mpr hgrow
        rw [add_toNat (i := len) (by rw [kCheapPrepend_toNat]; omega), kCheapPrepend_toNat,
          add_toNat (by unfold prependBytes; omega), hwriteable] at this
        unfold prependBytes at this
        omega
      obtain ⟨buff, hslide, hwf, hreadable, hindex, hbuff⟩ := slide_holds h (by omega)
      rw [load_all h] at hslide ⊢
      have hge : ({ buff, readIndex := kCheapPrepend
                    writeIndex := kCheapPrepend + b.readableBytes } : Buffer).writeableBytes ≥ len := by
        rw [ge_iff_le, UInt64.le_iff_toNat_le, writeableBytes_toNat hwf, hindex]
        dsimp only
        omega
      simp only [bind, Except.bind, pure, Except.pure, assert] at hslide ⊢
      rw [hslide]
      dsimp only
      rw [if_pos hge]
      exact ⟨hwf, hreadable, by dsimp only at hindex ⊢; omega⟩
  · rw [if_neg hgt]
    have hle : len.toNat ≤ b.writeableBytes.toNat :=
      Nat.not_lt.mp fun hc => hgt (UInt64.lt_iff_toNat_lt.mpr hc)
    have hge : b.writeableBytes ≥ len := UInt64.le_iff_toNat_le.mpr hle
    simp only [bind, Except.bind, pure, Except.pure, assert, if_pos hge]
    exact ⟨h, trivial, by omega⟩

theorem append_holds (h : b.WellFormed) (src : Data) :
    Holds (b.readable ++ src.val) (b.append src) := by
  have hlen : src.size.toNat ≤ maxSize := Data.size_toNat src ▸ src.property
  have hensure := ensureWriteable_holds h hlen
  unfold append
  cases hb : b.ensureWriteable src.size with
  | error e =>
    rw [hb] at hensure
    exact hensure
  | ok b' =>
    rw [hb] at hensure
    obtain ⟨hwf, hreadable, hfits⟩ := hensure
    have hfits' : b'.writeIndex.toNat + src.val.length ≤ b'.buff.length := Data.size_toNat src ▸ hfits
    have hsize := hwf.size
    have horder := hwf.order
    unfold maxSize at hsize
    have hindex : (b'.writeIndex + src.size).toNat = b'.writeIndex.toNat + src.val.length := by
      rw [add_toNat (by omega), Data.size_toNat]
    have hput : (put b'.buff b'.writeIndex.toNat src.val).length = b'.buff.length :=
      Window.length_put hfits'
    simp only [bind, Except.bind, pure, Except.pure, store_ok hfits']
    refine ⟨⟨⟨?_, ?_⟩, ?_, ?_⟩, ?_⟩
    · dsimp only
      omega
    · dsimp only
      omega
    · exact hput ▸ hwf.room
    · exact hput ▸ hwf.size
    · unfold readable
      dsimp only
      rw [hindex, Window.window_append horder (Nat.le_add_right _ _),
        Window.window_put_of_disjoint hwf.bound (.inl (le_refl _)), Window.window_put_self hfits']
      exact congrArg (· ++ src.val) hreadable

/-- The bytes are moved behind `keep` spare bytes of a new storage. -/
theorem move_holds (h : b.WellFormed) {keep : UInt64} (hkeep : 32 ≤ keep.toNat)
    (hmax : keep.toNat ≤ maxSize) :
    match (do
      let moved ← resize [] (keep + b.readableBytes)
      let moved ← (if b.readableBytes > 0 then
          load b.buff b.readIndex b.writeIndex >>= store moved keep
        else pure moved)
      return ({ buff := moved, readIndex := keep, writeIndex := keep + b.readableBytes } : Buffer) :
        Except Fault Buffer) with
    | .ok b' => b'.WellFormed ∧ b'.readable = b.readable ∧ b'.readIndex = keep
    | .error e => e = .lengthError := by
  have hreadable := readableBytes_toNat h
  have hlength := length_readable h
  have hbound := h.bound
  have hsize := h.size
  unfold maxSize at hsize hmax
  have hindex : (keep + b.readableBytes).toNat = keep.toNat + b.readable.length := by
    rw [add_toNat (by omega), hreadable]
  unfold resize
  by_cases hfit : (keep + b.readableBytes).toNat ≤ maxSize
  · rw [if_pos hfit]
    -- the readable bytes go behind the spare ones, also when there are none
    have hstore : (if b.readableBytes > 0 then
          load b.buff b.readIndex b.writeIndex >>=
            store (List.replicate (keep + b.readableBytes).toNat 0) keep
        else pure (List.replicate (keep + b.readableBytes).toNat 0) : Except Fault Bytes) =
        .ok (put (List.replicate (keep + b.readableBytes).toNat 0) keep.toNat b.readable) := by
      split
      · rw [load_all h]
        exact store_ok (by rw [List.length_replicate, hindex])
      · rename_i hzero
        have hnil : b.readable = [] := List.eq_nil_of_length_eq_zero (by
          rw [← hreadable]
          have := mt UInt64.lt_iff_toNat_lt.mpr hzero
          rw [UInt64.toNat_zero] at this
          omega)
        rw [hnil, Window.put_nil]
        rfl
    simp only [bind, Except.bind, pure, Except.pure, List.take_nil, List.nil_append,
      List.length_nil, Nat.sub_zero] at hstore ⊢
    rw [hstore]
    have hfits : keep.toNat + b.readable.length ≤
        (List.replicate (keep + b.readableBytes).toNat (0 : UInt8)).length := by
      rw [List.length_replicate, hindex]
    have hput := Window.length_put hfits
    have hwindow := Window.window_put_self hfits
    rw [List.length_replicate] at hput
    generalize put _ keep.toNat b.readable = moved at hput hwindow ⊢
    have horder : keep.toNat ≤ (keep + b.readableBytes).toNat := by omega
    have hroom : kCheapPrepend.toNat ≤ moved.length := by
      rw [kCheapPrepend_toNat]
      omega
    refine ⟨⟨⟨horder, Nat.le_of_eq hput.symm⟩, hroom, hput ▸ hfit⟩, ?_, rfl⟩
    unfold readable
    dsimp only
    rw [hindex]
    exact hwindow
  · rw [if_neg hfit]
    rfl

/-- After `ensurePrepend` there is room in front, and the same bytes are readable. -/
theorem ensurePrepend_holds (h : b.WellFormed) {len : UInt64} (hlen : len.toNat ≤ maxSize) :
    match b.ensurePrepend len with
    | .ok b' => b'.WellFormed ∧ b'.readable = b.readable ∧ len.toNat ≤ b'.readIndex.toNat
    | .error e => e = .lengthError := by
  unfold ensurePrepend
  by_cases hspare : b.prependBytes ≥ len
  · rw [if_pos hspare]
    exact ⟨h, rfl, UInt64.le_iff_toNat_le.mp hspare⟩
  · rw [if_neg hspare]
    generalize hkeep : (if len > kCheapPrepend then len else kCheapPrepend) = keep
    have hbounds : 32 ≤ keep.toNat ∧ len.toNat ≤ keep.toNat ∧ keep.toNat ≤ maxSize := by
      rw [← hkeep]
      split
      · rename_i hgt
        have := UInt64.lt_iff_toNat_lt.mp hgt
        rw [kCheapPrepend_toNat] at this
        exact ⟨by omega, le_refl _, hlen⟩
      · rename_i hle
        have := mt UInt64.lt_iff_toNat_lt.mpr hle
        rw [kCheapPrepend_toNat] at this ⊢
        exact ⟨le_refl _, by omega, by decide⟩
    have hmove := move_holds h hbounds.1 hbounds.2.2
    dsimp only
    split at hmove
    · exact ⟨hmove.1, hmove.2.1, hmove.2.2 ▸ hbounds.2.1⟩
    · exact hmove

theorem prepend_holds (h : b.WellFormed) (data : Data) :
    Holds (data.val ++ b.readable) (b.prepend data) := by
  have hlen : data.size.toNat ≤ maxSize := Data.size_toNat data ▸ data.property
  have hensure := ensurePrepend_holds h hlen
  unfold prepend
  cases hb : b.ensurePrepend data.size with
  | error e =>
    rw [hb] at hensure
    exact hensure
  | ok b' =>
    rw [hb] at hensure
    obtain ⟨hwf, hreadable, hspare⟩ := hensure
    have horder := hwf.order
    have hbound := hwf.bound
    have hindex : (b'.readIndex - data.size).toNat + data.val.length = b'.readIndex.toNat := by
      rw [UInt64.toNat_sub_of_le _ _ (UInt64.le_iff_toNat_le.mpr hspare)]
      rw [Data.size_toNat] at hspare ⊢
      omega
    have hfits : (b'.readIndex - data.size).toNat + data.val.length ≤ b'.buff.length := by omega
    have hput : (put b'.buff (b'.readIndex - data.size).toNat data.val).length = b'.buff.length :=
      Window.length_put hfits
    simp only [bind, Except.bind, pure, Except.pure, store_ok hfits]
    refine ⟨⟨⟨?_, ?_⟩, ?_, ?_⟩, ?_⟩
    · dsimp only
      omega
    · dsimp only
      omega
    · exact hput ▸ hwf.room
    · exact hput ▸ hwf.size
    · unfold readable
      dsimp only
      rw [Window.window_append (Nat.le_add_right _ data.val.length) (by omega),
        Window.window_put_self hfits, Window.window_put_of_disjoint (by omega) (.inr (le_refl _)),
        hindex]
      exact congrArg (data.val ++ ·) hreadable

end Write

section Answer

variable {b : Buffer}

theorem Holds.answers {q : Queue} {r : Except Fault Buffer} (h : Holds q r) :
    Answers (do return (← r, .unit)) (some (q, .unit)) := by
  cases r with
  | error e => rw [show e = .lengthError from h]; trivial
  | ok b => exact ⟨h.1, h.2, rfl⟩

theorem prependInt_answers (h : b.WellFormed) (size : Nat) (hsize : size ≤ maxSize) (x : Nat) :
    Answers (do return (← b.prependInt size hsize x, .unit))
      (some (putBE size x ++ b.readable, .unit)) :=
  (prepend_holds h ⟨putBE size x, _⟩).answers

theorem write_answers (h : b.WellFormed) (src : Data) :
    Answers (b.write src) (some (b.readable ++ src.val, .returned (toInt src.val.length))) := by
  have hholds := append_holds h src
  unfold Buffer.write
  cases happend : b.append src with
  | error e =>
    rw [happend] at hholds
    rw [show e = .lengthError from hholds]
    trivial
  | ok b' =>
    rw [happend] at hholds
    exact ⟨hholds.1, hholds.2, by rw [Data.size_toNat]⟩

/-- A buffer in order answers every call as its queue does. -/
theorem call_answers (h : b.WellFormed) (op : Op) :
    Answers (b.call op) (Queue.call b.readable op) := by
  cases op with
  | append src => exact (append_holds h src).answers
  | write src => exact write_answers h src
  | prepend data => exact (prepend_holds h data).answers
  | prependInt64 x => exact prependInt_answers h 8 _ x.toNat
  | prependInt32 x => exact prependInt_answers h 4 _ x.toNat
  | prependInt16 x => exact prependInt_answers h 2 _ x.toNat
  | prependInt8 x => exact prependInt_answers h 1 _ x.toNat
  | read len => exact take_answers h len fun dst n => .copied dst (toInt n)
  | readAsString len => exact take_answers h len fun dst _ => .string dst
  | readAllAsString =>
    have hanswers := take_answers h b.readableBytes fun dst _ => .string dst
    rw [readableBytes_toNat h, List.drop_length, List.take_length] at hanswers
    exact hanswers
  | readUint64 => exact readUint_answers h
  | readUint32 => exact readUint_answers h
  | readUint16 => exact readUint_answers h
  | readUint8 => exact readUint_answers h
  | retrieve len =>
    dsimp only [Buffer.call, Queue.call]
    by_cases hlen : len.toNat ≤ b.readable.length
    · obtain ⟨b', hb', hwf, hrest⟩ := retrieve_holds h hlen
      rw [if_pos hlen, hb']
      exact ⟨hwf, hrest, rfl⟩
    · rw [if_neg hlen, retrieve_fails h (Nat.not_le.mp hlen)]
      trivial
  | retrieveAll =>
    obtain ⟨hwf, hnil⟩ := retrieveAll_holds h
    exact ⟨hwf, hnil, rfl⟩

theorem new_holds (InitSize : Int) : Holds [] (Buffer.new InitSize) := by
  unfold Buffer.new
  have hresize : resize [] kCheapPrepend = .ok (List.replicate 32 0) := by rfl
  rw [hresize]
  simp only [bind, Except.bind]
  split
  · exact ⟨⟨⟨le_refl _, by decide⟩, by decide, by decide⟩, rfl⟩
  · rfl

end Answer

end Buffer

section Program

/-- A buffer that exists here and its queue there: in order, with the same bytes, and every
further call is answered as the queue answers it. -/
def Same : Option Buffer → Option Queue → Prop
  | none, none => True
  | some b, some q => b.InOrder ∧ b.readable = q ∧ ∀ op, Buffer.Answers (b.call op) (Queue.call q op)
  | _, _ => False

/-- The program sees of its buffers what it would see of queues. -/
structure Refines (h : Heap Buffer) (q : Heap Queue) : Prop where
  outs : h.outs = q.outs
  same : ∀ name, Same (h.buffers name) (q.buffers name)

/-- The label moves one buffer of the program into another. -/
def Moves (h : Heap Buffer) : Label → Prop
  | .moveNew name other => h.buffers name = none ∧ (h.buffers other).isSome
  | .moveAssign name other =>
    name ≠ other ∧ (h.buffers name).isSome ∧ (h.buffers other).isSome
  | _ => False

variable {h h' : Heap Buffer} {q : Heap Queue} {l : Label}

/-- Each buffer of the program meets the condition. -/
def Each (P : Buffer → Prop) (h : Heap Buffer) : Prop := ∀ name b, h.buffers name = some b → P b

/-- The program over queues has as its queues the readable bytes of the buffers. -/
structure Abstracts (h : Heap Buffer) (q : Heap Queue) : Prop where
  outs : h.outs = q.outs
  buffers : ∀ name, q.buffers name = (h.buffers name).map Buffer.readable

theorem Each.set {P : Buffer → Prop} (hall : Each P h) {b : Buffer} (hb : P b) (name : Nat) :
    Each P (h.set name b) := by
  intro other c hc
  simp only [Heap.set, Function.update_apply] at hc
  split at hc
  · cases hc
    exact hb
  · exact hall other c hc

theorem Abstracts.set (habs : Abstracts h q) (name : Nat) (b : Buffer) :
    Abstracts (h.set name b) (q.set name b.readable) where
  outs := habs.outs
  buffers := fun other => by
    simp only [Heap.set, Function.update_apply]
    split
    · rfl
    · exact habs.buffers other

/-- A buffer that was moved from is out of order. -/
theorem movedFrom_not_inOrder : ¬Buffer.movedFrom.InOrder := fun hb =>
  absurd hb.bound (by decide)

theorem Abstracts.refines (habs : Abstracts h q) (hall : Each Buffer.WellFormed h) :
    Refines h q where
  outs := habs.outs
  same := fun name => by
    rw [habs.buffers name]
    cases hb : h.buffers name with
    | none => trivial
    | some b =>
      have hwf := hall name b hb
      exact ⟨hwf.toInOrder, rfl, Buffer.call_answers hwf⟩

theorem Refines.inOrder (href : Refines h q) : Each Buffer.InOrder h := by
  intro name b hb
  have hsame := href.same name
  rw [hb] at hsame
  cases hq : q.buffers name with
  | none =>
    rw [hq] at hsame
    exact absurd hsame id
  | some bytes =>
    rw [hq] at hsame
    exact hsame.1

theorem Buffer.Answers.of_toOption {b : Buffer} {r : Except Fault (Buffer × Out)} {out : Out}
    {answer : Option (Queue × Out)} (h : Buffer.Answers r answer)
    (hr : r.toOption = some (b, out)) : b.WellFormed ∧ answer = some (b.readable, out) := by
  cases r with
  | error e => cases hr
  | ok done =>
    cases hr
    cases answer with
    | none => exact absurd h id
    | some done =>
      obtain ⟨hwf, hreadable, hout⟩ := h
      exact ⟨hwf, by rw [hreadable, hout]⟩

/-- Every step other than a move between buffers keeps the buffers in order, and the program over
queues takes the same step. -/
theorem step_abstracts (hall : Each Buffer.WellFormed h) (habs : Abstracts h q)
    (hmoves : ¬Moves h l) (hstep : h.step Buffer.interface l = some h') :
    Each Buffer.WellFormed h' ∧
      ∃ q', q.step Queue.interface l = some q' ∧ Abstracts h' q' := by
  cases l with
  | new name InitSize =>
    dsimp only [Heap.step] at hstep ⊢
    rw [habs.buffers name]
    cases hname : h.buffers name with
    | some b => rw [hname] at hstep; cases hstep
    | none =>
      rw [hname] at hstep
      obtain ⟨b, hb, rfl⟩ := Option.map_eq_some_iff.mp hstep
      have hnew := Buffer.new_holds InitSize
      dsimp only [Buffer.interface] at hb
      cases hr : Buffer.new InitSize with
      | error e => rw [hr] at hb; cases hb
      | ok c =>
        rw [hr] at hb hnew
        cases hb
        have hset := habs.set name b
        rw [hnew.2] at hset
        exact ⟨hall.set hnew.1 name, _, rfl, hset⟩
  | moveNew name other =>
    dsimp only [Heap.step] at hstep
    split at hstep
    · rename_i b hname hother
      exact absurd ⟨hname, by rw [hother]; rfl⟩ hmoves
    · cases hstep
  | moveAssign name other =>
    dsimp only [Heap.step] at hstep ⊢
    rw [habs.buffers name, habs.buffers other]
    split at hstep
    · rename_i b c hname hother
      rw [hname, hother]
      split at hstep
      · rename_i heq
        cases hstep
        exact ⟨hall, q, by simp [heq], habs⟩
      · rename_i hne
        exact absurd ⟨hne, by rw [hname]; rfl, by rw [hother]; rfl⟩ hmoves
    · cases hstep
  | call name op =>
    dsimp only [Heap.step] at hstep ⊢
    rw [habs.buffers name]
    cases hname : h.buffers name with
    | none => rw [hname] at hstep; cases hstep
    | some b =>
      rw [hname] at hstep
      obtain ⟨⟨b', out⟩, hcall, rfl⟩ := Option.map_eq_some_iff.mp hstep
      obtain ⟨hwf, hanswer⟩ :=
        (Buffer.call_answers (hall name b hname) op).of_toOption hcall
      have hset := habs.set name b'
      refine ⟨hall.set hwf name, { q.set name b'.readable with outs := q.outs ++ [out] }, ?_,
        congrArg (· ++ [out]) habs.outs, hset.buffers⟩
      dsimp only [Option.map_some, Queue.interface]
      rw [hanswer]
      rfl

/-- A move between two buffers leaves one out of order. -/
theorem step_moves (hmoves : Moves h l) (hstep : h.step Buffer.interface l = some h') :
    ¬Each Buffer.InOrder h' := by
  have hmoved : ∀ (name other : Nat) (b : Buffer),
      ¬Each Buffer.InOrder ((h.set name b).set other Buffer.movedFrom) := by
    intro name other b hall
    refine movedFrom_not_inOrder (hall other _ ?_)
    simp [Heap.set]
  cases l with
  | new name InitSize => exact absurd hmoves id
  | call name op => exact absurd hmoves id
  | moveNew name other =>
    dsimp only [Heap.step] at hstep
    split at hstep
    · cases hstep
      exact hmoved _ _ _
    · cases hstep
  | moveAssign name other =>
    dsimp only [Heap.step] at hstep
    split at hstep
    · rw [if_neg hmoves.1] at hstep
      cases hstep
      exact hmoved _ _ _
    · cases hstep

theorem moves_enabled (hmoves : Moves h l) : h.step Buffer.interface l ≠ none := by
  cases l with
  | new name InitSize => exact absurd hmoves id
  | call name op => exact absurd hmoves id
  | moveNew name other =>
    obtain ⟨b, hother⟩ := Option.isSome_iff_exists.mp hmoves.2
    dsimp only [Heap.step]
    rw [hmoves.1, hother]
    simp
  | moveAssign name other =>
    obtain ⟨b, hname⟩ := Option.isSome_iff_exists.mp hmoves.2.1
    obtain ⟨c, hother⟩ := Option.isSome_iff_exists.mp hmoves.2.2
    dsimp only [Heap.step]
    rw [hname, hother]
    simp [hmoves.1]

/-- The buffers of a program refine queues of bytes wherever it comes if and only if it never
moves one buffer into another. -/
theorem buffers_refine_iff (ls : List Label) :
    (∀ ms h, ms <+: ls → Run.exec (Heap.step Buffer.interface) {} ms = some h →
      ∃ q, Run.exec (Heap.step Queue.interface) {} ms = some q ∧ Refines h q) ↔
    Run.Along (Heap.step Buffer.interface) (fun h l => ¬Moves h l) {} ls := by
  have hinit : Each Buffer.WellFormed {} := nofun
  constructor
  · intro hall
    refine (Run.visited_iff_along (fun h => Each Buffer.InOrder h → Each Buffer.WellFormed h)
      (Each Buffer.InOrder) (fun h l hnone hmoves => moves_enabled hmoves hnone)
      (fun h l h' hI hJ hstep => ?_) (fun _ => hinit) nofun).mp fun ms h hms hrun => ?_
    · by_cases hmoves : Moves h l
      · have hnot := step_moves hmoves hstep
        exact ⟨fun hin => absurd hin hnot, iff_of_false hnot (not_not_intro hmoves)⟩
      · have habs : Abstracts h ⟨fun name => (h.buffers name).map Buffer.readable, h.outs⟩ :=
          ⟨rfl, fun _ => rfl⟩
        obtain ⟨hwf, -⟩ := step_abstracts (hI hJ) habs hmoves hstep
        exact ⟨fun _ => hwf, iff_of_true (fun name b hb => (hwf name b hb).toInOrder) hmoves⟩
    · obtain ⟨q, -, href⟩ := hall ms h hms hrun
      exact href.inOrder
  · intro hok ms h hms hrun
    obtain ⟨q, hq, hwf, habs⟩ := Run.along_simulation
      (fun (h : Heap Buffer) (q : Heap Queue) => Each Buffer.WellFormed h ∧ Abstracts h q)
      (fun h q l h' hR hmoves hstep => by
        obtain ⟨hwf, q', hq', habs⟩ := step_abstracts hR.1 hR.2 hmoves hstep
        exact ⟨q', hq', hwf, habs⟩)
      ⟨hinit, (⟨rfl, fun _ => rfl⟩ : Abstracts {} {})⟩ (Run.along_initial hok hms) hrun
    exact ⟨q, hq, habs.refines hwf⟩

/-- Whatever is appended to a buffer that was moved from goes past the end of its storage. -/
theorem movedFrom_append {src : Data} (h : src.val ≠ []) :
    Buffer.movedFrom.append src = .error .outOfBounds := by
  have hsize : src.size.toNat ≤ maxSize := Buffer.Data.size_toNat src ▸ src.property
  have hroom : maxSize ≤ Buffer.movedFrom.writeableBytes.toNat := by decide
  have hge : Buffer.movedFrom.writeableBytes ≥ src.size :=
    UInt64.le_iff_toNat_le.mpr (Nat.le_trans hsize hroom)
  have hgt : ¬src.size > Buffer.movedFrom.writeableBytes := UInt64.not_lt.mpr hge
  have hpast : ¬Buffer.movedFrom.writeIndex.toNat + src.val.length ≤
      Buffer.movedFrom.buff.length := by
    have : Buffer.movedFrom.writeIndex.toNat = 32 := rfl
    have : Buffer.movedFrom.buff.length = 0 := rfl
    omega
  unfold Buffer.append Buffer.ensureWriteable
  rw [if_neg hgt]
  simp only [bind, Except.bind, pure, Except.pure, assert, if_pos hge, store, if_neg h, if_neg hpast]

/-- A buffer is moved into a new one: it is left with indexes past the end of its storage, and a
byte appended to it is written there. -/
theorem moved_buffer_not_usable :
    ¬∀ ms h, ms <+: [Label.new 0 1024, .moveNew 1 0] →
      Run.exec (Heap.step Buffer.interface) {} ms = some h →
      ∃ q, Run.exec (Heap.step Queue.interface) {} ms = some q ∧ Refines h q := by
  intro hall
  obtain ⟨q, -, href⟩ := hall _ _ (List.prefix_refl _) rfl
  exact movedFrom_not_inOrder (href.inOrder 0 Buffer.movedFrom rfl)

end Program

end Base
