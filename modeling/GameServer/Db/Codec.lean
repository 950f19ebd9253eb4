import GameServer.Db.Value
import GameServer.Net.Words

/-!
# The bodies of tasks and results as bytes

A body that was written is read back as what it was, within the limits of the reader,
and refused beyond them. A statement carries its kind and its arguments only, a
transaction everything else.
-/

namespace Db

open Codec (Reads Refuses Extends)
open Gateway (Bytes putLE)
open Reader

section Limits

mutual

/-- How deep values are nested; the value itself is not nested. -/
def Val.depth : Val → Nat
  | .arr a => Val.depths a
  | _ => 0

def Val.depths : List Val → Nat
  | [] => 0
  | v :: vs => max (v.depth + 1) (Val.depths vs)

end

mutual

/-- The length of the longest array. -/
def Val.widest : Val → Nat
  | .arr a => max a.length (Val.widests a)
  | _ => 0

def Val.widests : List Val → Nat
  | [] => 0
  | v :: vs => max v.widest (Val.widests vs)

end

/-- A value within the limits of the reader. -/
def Val.Within (v : Val) : Prop := v.depth ≤ kMaxDepth ∧ v.widest ≤ kMaxItems

/-- A value that is read when so many levels are left. -/
def Val.Readable : Nat → Val → Prop
  | 0, _ => False
  | levels + 1, .arr a => a.length ≤ kMaxItems ∧ ∀ v ∈ a, v.Readable levels
  | _ + 1, _ => True

/-- A value of whose so many levels the numbers are in range and the lengths fit their field. -/
def Val.Sized : Nat → Val → Prop
  | 0, _ => True
  | _ + 1, .nil => True
  | _ + 1, .int i => -2 ^ 63 ≤ i ∧ i < 2 ^ 63
  | _ + 1, .str s => s.length < 256 ^ 4
  | levels + 1, .arr a => a.length < 256 ^ 4 ∧ ∀ v ∈ a, v.Sized levels

theorem Val.depths_lt_iff {a : List Val} {n : Nat} (hn : 0 < n) :
    Val.depths a < n ↔ ∀ v ∈ a, v.depth + 1 < n := by
  induction a with
  | nil => simpa [Val.depths] using hn
  | cons v a ih => rw [Val.depths, Nat.max_lt, ih, List.forall_mem_cons]

theorem Val.widests_le_iff {a : List Val} {n : Nat} :
    Val.widests a ≤ n ↔ ∀ v ∈ a, v.widest ≤ n := by
  induction a with
  | nil => simp [Val.widests]
  | cons v a ih => rw [Val.widests, Nat.max_le, ih, List.forall_mem_cons]

theorem Val.readable_iff (levels : Nat) (v : Val) :
    v.Readable levels ↔ v.depth < levels ∧ v.widest ≤ kMaxItems := by
  induction levels generalizing v with
  | zero => simp [Val.Readable]
  | succ levels ih =>
    cases v with
    | arr a =>
      rw [Val.Readable, Val.depth, Val.widest, Val.depths_lt_iff (Nat.succ_pos levels), Nat.max_le,
        Val.widests_le_iff]
      constructor
      · rintro ⟨hlen, hall⟩
        refine ⟨fun v hv => ?_, hlen, fun v hv => ((ih v).mp (hall v hv)).2⟩
        exact Nat.succ_lt_succ ((ih v).mp (hall v hv)).1
      · rintro ⟨hdepth, hlen, hwide⟩
        exact ⟨hlen, fun v hv => (ih v).mpr ⟨Nat.lt_of_succ_lt_succ (hdepth v hv), hwide v hv⟩⟩
    | nil | int | str => simp [Val.Readable, Val.depth, Val.widest]

theorem Val.within_iff (v : Val) : v.Within ↔ v.Readable (kMaxDepth + 1) := by
  rw [readable_iff, Nat.lt_succ_iff]
  rfl

end Limits

section Lists

variable {α : Type} {r : Reader α} {enc : α → Bytes} {xs : List α}

theorem reads_many (h : ∀ x ∈ xs, Reads r (enc x) x) :
    Reads (many r xs.length) (xs.flatMap enc) xs := by
  induction xs with
  | nil => exact Codec.reads_pure []
  | cons x xs ih =>
    rw [List.flatMap_cons]
    refine .bind (h x List.mem_cons_self) ?_
    exact (ih fun y hy => h y (List.mem_cons_of_mem _ hy)).map fun ys => x :: ys

/-- One of several that is refused. -/
theorem refuses_many (h : ∀ x ∈ xs, Reads r (enc x) x ∨ Refuses r (enc x))
    (hx : ∃ x ∈ xs, Refuses r (enc x)) : Refuses (many r xs.length) (xs.flatMap enc) := by
  induction xs with
  | nil =>
    obtain ⟨x, hx, -⟩ := hx
    cases hx
  | cons x xs ih =>
    rw [List.flatMap_cons]
    rcases h x List.mem_cons_self with hread | hrefuse
    · refine hread.bind_refuses ?_
      refine (ih (fun y hy => h y (List.mem_cons_of_mem _ hy)) ?_).map fun ys => x :: ys
      obtain ⟨y, hy, hrefuse⟩ := hx
      rcases List.mem_cons.mp hy with rfl | hy
      · cases (hread []).symm.trans (hrefuse [])
      · exact ⟨y, hy, hrefuse⟩
    · exact hrefuse.bind _

end Lists

section Values

theorem encodeValsD_eq (a : List Val) (depth : Nat) :
    encodeValsD a depth = a.flatMap fun v => encodeValD v depth := by
  induction a with
  | nil => rfl
  | cons v a ih => rw [encodeValsD, ih, List.flatMap_cons]

theorem length_encodeValD_pos (v : Val) (depth : Nat) : 0 < (encodeValD v depth).length := by
  cases v <;> simp [encodeValD]

theorem length_flatMap_ge {α : Type} {f : α → Bytes} {n : Nat} {xs : List α}
    (h : ∀ x ∈ xs, n ≤ (f x).length) : xs.length * n ≤ (xs.flatMap f).length := by
  induction xs with
  | nil => simp
  | cons x xs ih =>
    have hx := h x List.mem_cons_self
    have htail := ih fun y hy => h y (List.mem_cons_of_mem _ hy)
    rw [List.flatMap_cons, List.length_append, List.length_cons, Nat.add_mul]
    omega

theorem reads_num {n v : Nat} (h : v < 256 ^ n) : Reads (num n) (putLE n v) v := Net.reads_read h

theorem reads_str {s : Bytes} (h : s.length < 256 ^ 4) :
    Reads (do take (← num 4)) (putStr s) s :=
  .bind (reads_num h) (Codec.reads_take s)

theorem getI64_putI64 {i : Int} (h : -2 ^ 63 ≤ i ∧ i < 2 ^ 63) : getI64 (putI64 i) = i := by
  have hlt : Net.unsigned 64 i < 256 ^ 8 := Net.unsigned_lt 64 i
  change Net.signed 64 (Gateway.getLE (putLE 8 (Net.unsigned 64 i))) = i
  rw [Net.getLE_putLE hlt]
  exact Net.signed_unsigned h.1 h.2 (by decide)

theorem getI32_putI32 {i : Int} (h : -2 ^ 31 ≤ i ∧ i < 2 ^ 31) : getI32 (putI32 i) = i := by
  have hlt : Net.unsigned 32 i < 256 ^ 4 := Net.unsigned_lt 32 i
  change Net.signed 32 (Gateway.getLE (putLE 4 (Net.unsigned 32 i))) = i
  rw [Net.getLE_putLE hlt]
  exact Net.signed_unsigned h.1 h.2 (by decide)

theorem reads_i64 (i : Int) : Reads (take 8) (putI64 i) (putI64 i) := by
  have hlen : (putI64 i).length = 8 := Net.length_putLE _ _
  exact hlen ▸ Codec.reads_take (putI64 i)

theorem reads_i32 (i : Int) : Reads (take 4) (putI32 i) (putI32 i) := by
  have hlen : (putI32 i).length = 4 := Net.length_putLE _ _
  exact hlen ▸ Codec.reads_take (putI32 i)

section Tags

variable {α : Type} {f : Nat → Reader α} {tag : UInt8} {n : Nat} {w : Bytes} {a : α}

/-- The byte that says the kind of a value. -/
theorem reads_tag (htag : tag.toNat = n) : Reads (num 1) [tag] n := by
  have hread : Reads (take 1) [tag] [tag] := Codec.reads_take [tag]
  have hnum := hread.map Gateway.getLE
  have hvalue : Gateway.getLE [tag] = n := by simp [Gateway.getLE, htag]
  rwa [hvalue] at hnum

theorem reads_tagged (htag : tag.toNat = n) (h : Reads (f n) w a) :
    Reads (num 1 >>= f) (tag :: w) a := (reads_tag htag).bind h

theorem refuses_tagged (htag : tag.toNat = n) (h : Refuses (f n) w) :
    Refuses (num 1 >>= f) (tag :: w) := (reads_tag htag).bind_refuses h

end Tags

/-- The number of the levels left that a value is written at. -/
theorem depth_le {levels : Nat} (h : levels + 1 ≤ kMaxDepth + 1) :
    ¬ kMaxDepth + 1 - (levels + 1) > kMaxDepth ∧
      kMaxDepth + 1 - (levels + 1) + 1 = kMaxDepth + 1 - levels := by
  unfold kMaxDepth at *
  omega

/-- A value is read, or refused, where it was written. -/
theorem val_spec (levels : Nat) (hle : levels ≤ kMaxDepth + 1) (v : Val) (hv : v.Sized levels) :
    (v.Readable levels →
      Reads (decodeValD levels) (encodeValD v (kMaxDepth + 1 - levels)) v) ∧
    (¬ v.Readable levels →
      Refuses (decodeValD levels) (encodeValD v (kMaxDepth + 1 - levels))) := by
  induction levels generalizing v with
  | zero => exact ⟨False.elim, fun _ _ => rfl⟩
  | succ levels ih =>
    obtain ⟨hdepth, hnext⟩ := depth_le hle
    cases v with
    | nil =>
      refine ⟨fun _ => ?_, fun h => absurd trivial h⟩
      exact reads_tagged rfl (Codec.reads_pure Val.nil)
    | int i =>
      refine ⟨fun _ => ?_, fun h => absurd trivial h⟩
      simp only [encodeValD, hdepth, if_false]
      refine reads_tagged rfl ?_
      have hread := (reads_i64 i).map fun w => Val.int (getI64 w)
      rwa [getI64_putI64 hv] at hread
    | str s =>
      refine ⟨fun _ => ?_, fun h => absurd trivial h⟩
      simp only [encodeValD, hdepth, if_false]
      refine reads_tagged rfl (.bind (reads_num hv) ?_)
      exact (Codec.reads_take s).map Val.str
    | arr a =>
      obtain ⟨hlen, hall⟩ := hv
      simp only [encodeValD, hdepth, if_false, hnext, encodeValsD_eq]
      have hspec := fun v hv => ih (by omega) v (hall v hv)
      have hcount : a.length * 1 ≤ _ := length_flatMap_ge fun v _ =>
        length_encodeValD_pos v (kMaxDepth + 1 - levels)
      constructor
      · rintro ⟨hitems, hread⟩
        refine reads_tagged rfl (.bind (reads_num hlen) (.left fun n hn => ?_))
        refine .guarded ⟨hitems, by omega⟩ ?_
        exact (reads_many fun v hv => (hspec v hv).1 (hread v hv)).map Val.arr
      · intro hbad
        refine refuses_tagged rfl ?_
        refine (reads_num hlen).bind_refuses (.left fun n => .guarded fun hguard => ?_)
        refine (refuses_many (fun v hv => ?_) ?_).map Val.arr
        · exact (em (v.Readable levels)).imp (hspec v hv).1 (hspec v hv).2
        · by_contra hnone
          simp only [not_exists, not_and] at hnone
          exact hbad ⟨hguard.1, fun v hv =>
            by_contra fun hunread => hnone v hv ((hspec v hv).2 hunread)⟩

theorem reads_val {v : Val} (hv : v.Sized (kMaxDepth + 1)) (h : v.Within) :
    Reads decodeVal (encodeVal v) v := (val_spec _ (Nat.le_refl _) v hv).1 (v.within_iff.mp h)

theorem refuses_val {v : Val} (hv : v.Sized (kMaxDepth + 1)) (h : ¬ v.Within) :
    Refuses decodeVal (encodeVal v) :=
  (val_spec _ (Nat.le_refl _) v hv).2 fun hread => h (v.within_iff.mpr hread)

end Values

section Results

namespace DbResult

/-- A result whose numbers are in range and whose lengths fit their field. -/
structure Sized (r : DbResult) : Prop where
  errcode : -2 ^ 31 ≤ r.errcode ∧ r.errcode < 2 ^ 31
  errmsg : r.errmsg.length < 256 ^ 4
  data : r.data.Sized (kMaxDepth + 1)
  nativeError : r.nativeError < 256 ^ 4
  playerId : r.playerId < 256 ^ 8
  saveVersion : r.saveVersion < 256 ^ 8
  capturedRevision : r.capturedRevision < 256 ^ 8
  saveLifecycleToken : r.saveLifecycleToken < 256 ^ 8

/-- A failure is not said to be a success. -/
def normalised (r : DbResult) : DbResult :=
  { r with
    classification :=
      if r.errcode ≠ 0 ∧ r.classification = .success then .failure else r.classification }

/-- A result that is read. -/
def Readable (r : DbResult) : Prop :=
  r.errmsg.length ≤ kMaxErrMsg ∧ r.data.Within

end DbResult

theorem ResultClass.ofNat?_toNat (c : ResultClass) : ResultClass.ofNat? c.toNat = some c := by
  cases c <;> rfl

theorem ResultClass.toNat_lt (c : ResultClass) : c.toNat < 256 ^ 1 := by
  cases c <;> decide

variable {r : DbResult}

theorem reads_result (hr : r.Sized) (h : r.Readable) :
    Reads decodeResult r.encode r.normalised := by
  unfold decodeResult DbResult.encode
  simp only [List.append_assoc, putStr]
  refine .bind (reads_num (by decide)) (.guarded rfl ?_)
  refine .bind (@reads_num 1 3 (by decide)) (.guarded (by decide) ?_)
  refine .bind (reads_i32 _) (.bind (reads_num hr.errmsg) (.guarded h.1 ?_))
  refine .bind (Codec.reads_take _) (.bind (reads_val hr.data h.2) ?_)
  rw [if_neg (by decide)]
  refine .bind (reads_num (ResultClass.toNat_lt _)) ?_
  rw [ResultClass.ofNat?_toNat]
  dsimp only
  rw [if_neg (by decide), getI32_putI32 hr.errcode]
  refine .bind (reads_num hr.nativeError) (.bind (reads_num hr.playerId) ?_)
  refine .bind (reads_num hr.saveVersion) (.bind (reads_num hr.capturedRevision) ?_)
  exact (reads_num hr.saveLifecycleToken).map _

theorem refuses_result (hr : r.Sized) (h : ¬ r.Readable) : Refuses decodeResult r.encode := by
  unfold decodeResult DbResult.encode
  simp only [List.append_assoc, putStr]
  refine (reads_num (by decide)).bind_refuses (.guarded fun _ => ?_)
  refine (@reads_num 1 3 (by decide)).bind_refuses (.guarded fun _ => ?_)
  refine (reads_i32 _).bind_refuses ((reads_num hr.errmsg).bind_refuses (.guarded fun hmsg => ?_))
  refine (Codec.reads_take _).bind_refuses (.bind (refuses_val hr.data fun hdata => ?_) _)
  exact h ⟨hmsg, hdata⟩

end Results

section Steps

mutual

/-- A value whose numbers are in range. -/
def Val.Typed : Val → Prop
  | .int i => -2 ^ 63 ≤ i ∧ i < 2 ^ 63
  | .arr a => Val.AllTyped a
  | _ => True

def Val.AllTyped : List Val → Prop
  | [] => True
  | v :: vs => v.Typed ∧ Val.AllTyped vs

end

theorem Val.allTyped_iff {a : List Val} : Val.AllTyped a ↔ ∀ v ∈ a, v.Typed := by
  induction a with
  | nil => simp [Val.AllTyped]
  | cons v a ih => rw [Val.AllTyped, ih, List.forall_mem_cons]

theorem length_le_flatMap {α : Type} {f : α → Bytes} {xs : List α} {x : α} (hx : x ∈ xs) :
    (f x).length ≤ (xs.flatMap f).length := by
  induction xs with
  | nil => cases hx
  | cons y xs ih =>
    rw [List.flatMap_cons, List.length_append]
    rcases List.mem_cons.mp hx with rfl | hx
    · omega
    · have htail := ih hx
      omega

/-- What fits into a body has lengths that fit their field. -/
theorem Val.sized_of_length {levels : Nat} (hle : levels ≤ kMaxDepth + 1) {v : Val} (hv : v.Typed)
    (hlen : (encodeValD v (kMaxDepth + 1 - levels)).length < 256 ^ 4) : v.Sized levels := by
  induction levels generalizing v with
  | zero => trivial
  | succ levels ih =>
    obtain ⟨hdepth, hnext⟩ := depth_le hle
    cases v with
    | nil => trivial
    | int i => exact hv
    | str s =>
      simp only [encodeValD, hdepth, if_false, putStr, List.length_cons, List.length_append] at hlen
      change s.length < 256 ^ 4
      omega
    | arr a =>
      simp only [encodeValD, hdepth, if_false, hnext, encodeValsD_eq, List.length_cons,
        List.length_append] at hlen
      have hcount : a.length * 1 ≤ _ := length_flatMap_ge fun v _ =>
        length_encodeValD_pos v (kMaxDepth + 1 - levels)
      refine ⟨by omega, fun v hmem => ih (by omega) (allTyped_iff.mp hv v hmem) ?_⟩
      have hpart : (encodeValD v (kMaxDepth + 1 - levels)).length ≤ _ :=
        length_le_flatMap (f := fun v => encodeValD v (kMaxDepth + 1 - levels)) hmem
      omega

namespace SqlStep

/-- A step whose numbers are in range. -/
structure Typed (step : SqlStep) : Prop where
  kind : step.kind < 256 ^ 1
  expectedAffected : -2 ^ 63 ≤ step.expectedAffected ∧ step.expectedAffected < 2 ^ 63
  expectedData : step.expectedData.Typed

/-- A step that is read. -/
structure Readable (step : SqlStep) : Prop where
  kind : step.kind = 1 ∨ step.kind = 2
  expectedAffected : -1 ≤ step.expectedAffected
  expectedData : step.expectedData.Within

end SqlStep

variable {step : SqlStep} {steps : List SqlStep}

theorem badSteps_eq_false_iff : badSteps steps = false ↔ ∀ step ∈ steps,
    step.args ≠ [] ∧ step.args.length ≤ kMaxArgs ∧ ∀ a ∈ step.args, a.length ≤ kMaxArgSize := by
  simp only [badSteps, List.any_eq_false, Bool.decide_or, Bool.or_eq_true, decide_eq_true_eq,
    not_or, List.isEmpty_iff, Nat.not_lt, List.any_eq_true, not_exists, not_and, gt_iff_lt]

theorem reads_arg {a : Bytes} (h : a.length ≤ kMaxArgSize) : Reads decodeArg (putStr a) a :=
  .bind (reads_num (Nat.lt_of_le_of_lt h (by decide))) (.guarded h (Codec.reads_take a))

theorem reads_args {args : List Bytes} (h : ∀ a ∈ args, a.length ≤ kMaxArgSize) :
    Reads (many decodeArg args.length) (args.flatMap putStr) args :=
  reads_many fun a ha => reads_arg (h a ha)

theorem length_args_ge (args : List Bytes) : args.length * 4 ≤ (args.flatMap putStr).length :=
  length_flatMap_ge fun a _ => by simp [putStr]

/-- A step that was written is read, or refused. -/
theorem step_spec (ht : step.Typed) (hdata : step.expectedData.Sized (kMaxDepth + 1))
    (hargs : step.args ≠ []) (hcount : step.args.length ≤ kMaxArgs)
    (hsize : ∀ a ∈ step.args, a.length ≤ kMaxArgSize) :
    (step.Readable → Reads decodeStep (encodeStep step) step) ∧
      (¬ step.Readable → Refuses decodeStep (encodeStep step)) := by
  have hargc : step.args.length ≠ 0 := fun h => hargs (List.length_eq_zero_iff.mp h)
  have hfit : step.args.length < 256 ^ 4 := Nat.lt_of_le_of_lt hcount (by decide)
  have hcheck : step.checkData.toNat < 256 ^ 1 := Nat.lt_of_le_of_lt (Bool.toNat_le _) (by decide)
  have hplausible := length_args_ge step.args
  have hint := getI64_putI64 ht.expectedAffected
  have haffected : -1 ≤ getI64 (putI64 step.expectedAffected) ↔ -1 ≤ step.expectedAffected := by
    rw [hint]
  unfold decodeStep encodeStep
  simp only [List.append_assoc]
  constructor
  · intro h
    refine .left fun n hn => .guarded ?_ ?_
    · simp only [List.length_append, Net.length_putLE, putI64] at hn
      omega
    refine .bind (reads_num ht.kind) (.bind (reads_i64 _) (.bind (reads_num hcheck) ?_))
    refine .guarded ⟨h.kind, Bool.toNat_le _, haffected.mpr h.expectedAffected⟩ ?_
    refine .bind (reads_num hfit) (.left fun n hn => .guarded ⟨hargc, hcount, ?_⟩ ?_)
    · rw [List.length_append] at hn
      omega
    refine .bind (reads_args hsize) ?_
    have hread := (reads_val hdata h.expectedData).map fun expectedData =>
      ({ kind := step.kind, args := step.args, expectedAffected := getI64 (putI64 step.expectedAffected),
         checkData := decide (step.checkData.toNat = 1), expectedData } : SqlStep)
    have hbool : decide (step.checkData.toNat = 1) = step.checkData := by
      cases step.checkData <;> rfl
    rw [hint, hbool] at hread
    rw [hint, hbool]
    exact hread
  · intro h
    refine .left fun n => .guarded fun _ => (reads_num ht.kind).bind_refuses ?_
    refine (reads_i64 _).bind_refuses ((reads_num hcheck).bind_refuses (.guarded fun hguard => ?_))
    refine (reads_num hfit).bind_refuses (.left fun n => .guarded fun _ => ?_)
    refine (reads_args hsize).bind_refuses ((refuses_val hdata fun hread => h ?_).map _)
    exact ⟨hguard.1, haffected.mp hguard.2.2, hread⟩

theorem length_encodeStep_ge (step : SqlStep) : 15 ≤ (encodeStep step).length := by
  have hpos := length_encodeValD_pos step.expectedData 0
  simp only [encodeStep, encodeVal, putI64, List.length_append, Net.length_putLE]
  omega

/-- Steps that `Encode` takes, written in a body that is not too long. -/
structure Encodable (steps : List SqlStep) : Prop where
  count : steps.length ≤ kMaxSteps
  good : badSteps steps = false
  typed : ∀ step ∈ steps, step.Typed
  length : (encodeSteps steps).length ≤ kMaxTaskSize

theorem Encodable.sized (h : Encodable steps) (hstep : step ∈ steps) :
    step.expectedData.Sized (kMaxDepth + 1) := by
  refine Val.sized_of_length (Nat.le_refl _) (h.typed step hstep).expectedData ?_
  have hpart : (encodeStep step).length ≤ _ := length_le_flatMap (f := encodeStep) hstep
  have hlen := h.length
  have hval : (encodeVal step.expectedData).length ≤ (encodeStep step).length := by
    simp only [encodeStep, List.length_append]
    omega
  have hmax : kMaxTaskSize < 256 ^ 4 := by decide
  simp only [encodeSteps, List.length_append] at hlen
  change (encodeVal step.expectedData).length < _
  omega

theorem steps_spec (h : Encodable steps) :
    ((∀ step ∈ steps, step.Readable) → Reads decodeSteps (encodeSteps steps) steps) ∧
      ((¬ ∀ step ∈ steps, step.Readable) → Refuses decodeSteps (encodeSteps steps)) := by
  have hspec : ∀ step ∈ steps, (step.Readable → Reads decodeStep (encodeStep step) step) ∧
      (¬ step.Readable → Refuses decodeStep (encodeStep step)) := by
    intro step hstep
    obtain ⟨hargs, hcount, hsize⟩ := badSteps_eq_false_iff.mp h.good step hstep
    exact step_spec (h.typed step hstep) (h.sized hstep) hargs hcount hsize
  have hfit : steps.length < 256 ^ 4 := Nat.lt_of_le_of_lt h.count (by decide)
  have hplausible : steps.length * 15 ≤ (steps.flatMap encodeStep).length :=
    length_flatMap_ge fun step _ => length_encodeStep_ge step
  unfold decodeSteps encodeSteps
  constructor
  · intro hread
    refine .bind (reads_num hfit) (.left fun n hn => .guarded ⟨h.count, by omega⟩ ?_)
    exact reads_many fun step hstep => (hspec step hstep).1 (hread step hstep)
  · intro hbad
    refine (reads_num hfit).bind_refuses (.left fun n => .guarded fun _ => refuses_many ?_ ?_)
    · exact fun step hstep => (em step.Readable).imp (hspec step hstep).1 (hspec step hstep).2
    · simp only [not_forall] at hbad
      obtain ⟨step, hstep, hunread⟩ := hbad
      exact ⟨step, hstep, (hspec step hstep).2 hunread⟩

end Steps

section Tasks

namespace DbTask

/-- A task whose numbers are in range, and if it is a statement whose arguments have lengths that
fit their field. -/
structure Sized (t : DbTask) : Prop where
  kind : t.kind < 256 ^ 1
  args : ¬ (t.kind = 4 ∨ t.kind = 5) →
    t.args.length < 256 ^ 4 ∧ ∀ a ∈ t.args, a.length < 256 ^ 4
  steps : ∀ step ∈ t.steps, step.Typed
  verification : ∀ step ∈ t.verification, step.Typed
  playerId : t.playerId < 256 ^ 8
  saveVersion : t.saveVersion < 256 ^ 8
  capturedRevision : t.capturedRevision < 256 ^ 8
  saveLifecycleToken : t.saveLifecycleToken < 256 ^ 8

/-- The fields of a task that its envelope has. -/
def carried (t : DbTask) : DbTask :=
  if t.kind = 4 ∨ t.kind = 5 then { t with args := [] } else { kind := t.kind, args := t.args }

/-- A task that is read. -/
def Readable (t : DbTask) : Prop :=
  if t.kind = 4 ∨ t.kind = 5 then
    (∀ step ∈ t.steps, step.Readable) ∧ ∀ step ∈ t.verification, step.Readable
  else t.args.length ≤ kMaxItems

end DbTask

/-- `DbTask::Decode` up to the end of the body. -/
def decodeTask (size : Nat) : Reader DbTask := do
  guard ((← num 2) = kWireMagic)
  match ← num 1 with
  | 2 => decodeTransaction size
  | 1 => decodeStatement
  | _ => Reader.fail

variable {t : DbTask} {body : Bytes} {size : Nat}

theorem decode_eq (body : Bytes) : DbTask.decode body =
    if body.length < 8 then none else Codec.whole (decodeTask body.length) body := rfl

theorem statement_spec (ht : t.Sized) (hkind : ¬ (t.kind = 4 ∨ t.kind = 5)) :
    (t.args.length ≤ kMaxItems → Reads (decodeTask size)
      (putLE 2 kWireMagic ++ putLE 1 kWireVersion ++ putLE 1 t.kind ++ putLE 4 t.args.length ++
        t.args.flatMap putStr) t.carried) ∧
    (¬ t.args.length ≤ kMaxItems → Refuses (decodeTask size)
      (putLE 2 kWireMagic ++ putLE 1 kWireVersion ++ putLE 1 t.kind ++ putLE 4 t.args.length ++
        t.args.flatMap putStr)) := by
  obtain ⟨hcount, hsize⟩ := ht.args hkind
  have hplausible := length_args_ge t.args
  unfold decodeTask
  simp only [List.append_assoc]
  constructor
  · intro hitems
    refine .bind (reads_num (by decide)) (.guarded rfl (.bind (@reads_num 1 1 (by decide)) ?_))
    refine .bind (reads_num ht.kind) (.bind (reads_num hcount) (.left fun n hn => ?_))
    refine .guarded ⟨hitems, by omega⟩ ?_
    rw [DbTask.carried, if_neg hkind]
    exact (reads_many fun a ha => reads_str (hsize a ha)).map fun args =>
      ({ kind := t.kind, args } : DbTask)
  · intro hitems
    refine (reads_num (by decide)).bind_refuses (.guarded fun _ => ?_)
    refine (@reads_num 1 1 (by decide)).bind_refuses ((reads_num ht.kind).bind_refuses ?_)
    exact (reads_num hcount).bind_refuses (.left fun n => .guarded fun h => absurd h.1 hitems)

theorem transaction_spec (ht : t.Sized) (hkind : t.kind = 4 ∨ t.kind = 5) (hsteps : t.steps ≠ [])
    (hs : Encodable t.steps) (hv : Encodable t.verification) (hsize : size ≤ kMaxTaskSize) :
    (t.Readable → Reads (decodeTask size)
      (putLE 2 kWireMagic ++ putLE 1 2 ++ putLE 1 t.kind ++ putLE 8 t.playerId ++
        putLE 8 t.saveVersion ++ putLE 8 t.capturedRevision ++ putLE 8 t.saveLifecycleToken ++
        encodeSteps t.steps ++ encodeSteps t.verification) t.carried) ∧
    (¬ t.Readable → Refuses (decodeTask size)
      (putLE 2 kWireMagic ++ putLE 1 2 ++ putLE 1 t.kind ++ putLE 8 t.playerId ++
        putLE 8 t.saveVersion ++ putLE 8 t.capturedRevision ++ putLE 8 t.saveLifecycleToken ++
        encodeSteps t.steps ++ encodeSteps t.verification)) := by
  have hempty : t.steps.isEmpty = false := by
    rw [← Bool.not_eq_true, List.isEmpty_iff]
    exact hsteps
  unfold decodeTask decodeTransaction DbTask.Readable
  simp only [List.append_assoc, if_pos hkind]
  constructor
  · rintro ⟨hread, hread'⟩
    refine .bind (reads_num (by decide)) (.guarded rfl (.bind (@reads_num 1 2 (by decide)) ?_))
    refine .left fun n hn => .guarded ⟨hsize, ?_⟩ ?_
    · simp only [List.length_append, Net.length_putLE] at hn
      omega
    refine .bind (reads_num ht.kind) (.guarded hkind (.bind (reads_num ht.playerId) ?_))
    refine .bind (reads_num ht.saveVersion) (.bind (reads_num ht.capturedRevision) ?_)
    refine .bind (reads_num ht.saveLifecycleToken) (.bind ((steps_spec hs).1 hread) ?_)
    refine .guarded hempty ?_
    rw [DbTask.carried, if_pos hkind]
    exact ((steps_spec hv).1 hread').map fun verification =>
      ({ t with args := [], verification } : DbTask)
  · intro hbad
    refine (reads_num (by decide)).bind_refuses (.guarded fun _ => ?_)
    refine (@reads_num 1 2 (by decide)).bind_refuses (.left fun n => .guarded fun _ => ?_)
    refine (reads_num ht.kind).bind_refuses (.guarded fun _ => ?_)
    refine (reads_num ht.playerId).bind_refuses ((reads_num ht.saveVersion).bind_refuses ?_)
    refine (reads_num ht.capturedRevision).bind_refuses ?_
    refine (reads_num ht.saveLifecycleToken).bind_refuses ?_
    by_cases hread : ∀ step ∈ t.steps, step.Readable
    · refine ((steps_spec hs).1 hread).bind_refuses (.guarded fun _ => ?_)
      exact ((steps_spec hv).2 fun hread' => hbad ⟨hread, hread'⟩).map _
    · exact ((steps_spec hs).2 hread).bind _

end Tasks

section Whole

/-! What is behind a body keeps it from being read. -/

theorem extends_num (n : Nat) : Extends (num n) :=
  (Codec.extends_take n).bind fun _ => Codec.extends_pure _

theorem extends_fail {α : Type} : Extends (Reader.fail : Reader α) := fun _ _ _ _ h => nomatch h

theorem extends_many {α : Type} {r : Reader α} (h : Extends r) (n : Nat) : Extends (many r n) := by
  induction n with
  | zero => exact Codec.extends_pure []
  | succ n ih => exact h.bind fun _ => ih.bind fun _ => Codec.extends_pure _

theorem extends_val (levels : Nat) : Extends (decodeValD levels) := by
  induction levels with
  | zero => exact extends_fail
  | succ levels ih =>
    refine (extends_num 1).bind fun kind => ?_
    split
    · exact Codec.extends_pure _
    · exact (Codec.extends_take 8).bind fun _ => Codec.extends_pure _
    · exact (extends_num 4).bind fun n => (Codec.extends_take n).bind fun _ => Codec.extends_pure _
    · refine (extends_num 4).bind fun n => .tested ?_ fun hle h => ⟨h.1, Nat.le_trans h.2 hle⟩
      exact (extends_many ih n).bind fun _ => Codec.extends_pure _
    · exact extends_fail

theorem extends_arg : Extends decodeArg :=
  (extends_num 4).bind fun len => .guarded (Codec.extends_take len)

theorem extends_step : Extends decodeStep := by
  refine .tested ?_ fun hle h => Nat.le_trans h hle
  refine (extends_num 1).bind fun kind => (Codec.extends_take 8).bind fun affected => ?_
  refine (extends_num 1).bind fun check => .guarded ?_
  refine (extends_num 4).bind fun argc => .tested ?_ fun hle h =>
    ⟨h.1, h.2.1, Nat.le_trans h.2.2 hle⟩
  refine (extends_many extends_arg argc).bind fun args => ?_
  exact (extends_val _).bind fun data => Codec.extends_pure _

theorem extends_steps : Extends decodeSteps :=
  (extends_num 4).bind fun count => .tested (extends_many extends_step count) fun hle h =>
    ⟨h.1, Nat.le_trans h.2 hle⟩

theorem extends_transaction (size : Nat) : Extends (decodeTransaction size) := by
  refine .tested ?_ fun hle h => ⟨h.1, Nat.le_trans h.2 hle⟩
  refine (extends_num 1).bind fun kind => .guarded ?_
  refine (extends_num 8).bind fun _ => (extends_num 8).bind fun _ => (extends_num 8).bind fun _ => ?_
  refine (extends_num 8).bind fun _ => extends_steps.bind fun steps => .guarded ?_
  exact extends_steps.bind fun _ => Codec.extends_pure _

theorem extends_statement : Extends decodeStatement := by
  refine (extends_num 1).bind fun kind => (extends_num 4).bind fun n => ?_
  refine .tested ?_ fun hle h => ⟨h.1, Nat.le_trans h.2 hle⟩
  refine (extends_many ?_ n).bind fun _ => Codec.extends_pure _
  exact (extends_num 4).bind fun len => Codec.extends_take len

theorem extends_task (size : Nat) : Extends (decodeTask size) := by
  refine (extends_num 2).bind fun _ => .guarded ((extends_num 1).bind fun version => ?_)
  split
  · exact extends_transaction size
  · exact extends_statement
  · exact extends_fail

theorem extends_result : Extends decodeResult := by
  refine (extends_num 2).bind fun _ => .guarded ((extends_num 1).bind fun version => .guarded ?_)
  refine (Codec.extends_take 4).bind fun _ => (extends_num 4).bind fun elen => .guarded ?_
  refine (Codec.extends_take elen).bind fun _ => (extends_val _).bind fun data => ?_
  dsimp only
  split
  · exact Codec.extends_pure _
  refine (extends_num 1).bind fun value => ?_
  split
  · exact extends_fail
  split
  · exact Codec.extends_pure _
  refine (extends_num 4).bind fun _ => (extends_num 8).bind fun _ => (extends_num 8).bind fun _ => ?_
  exact (extends_num 8).bind fun _ => (extends_num 8).bind fun _ => Codec.extends_pure _

variable {t : DbTask} {r : DbResult} {body extra : Bytes}

theorem result_decode_eq (body : Bytes) : DbResult.decode body =
    if body.length < 11 then none else Codec.whole decodeResult body := rfl

/-- What is read in a long body is read in a shorter one. -/
theorem decodeTask_anti {m n : Nat} (hle : n ≤ m) {s : Bytes} {x : DbTask × Bytes}
    (h : decodeTask m s = some x) : decodeTask n s = some x := by
  obtain ⟨t, rest⟩ := x
  unfold decodeTask at h ⊢
  obtain ⟨magic, s₁, hmagic, h⟩ := Codec.bind_eq_some_iff.mp h
  obtain ⟨u, s₂, hguard, h⟩ := Codec.bind_eq_some_iff.mp h
  obtain ⟨version, s₃, hversion, h⟩ := Codec.bind_eq_some_iff.mp h
  refine Codec.bind_eq_some_iff.mpr ⟨magic, s₁, hmagic, Codec.bind_eq_some_iff.mpr
    ⟨u, s₂, hguard, Codec.bind_eq_some_iff.mpr ⟨version, s₃, hversion, ?_⟩⟩⟩
  split at h
  · unfold decodeTransaction at h ⊢
    obtain ⟨left, s₄, hleft, h⟩ := Codec.bind_eq_some_iff.mp h
    obtain ⟨v, s₅, hroom, h⟩ := Codec.bind_eq_some_iff.mp h
    obtain ⟨⟨hsize, hhead⟩, hsame⟩ := Codec.guard_eq_some_iff.mp hroom
    refine Codec.bind_eq_some_iff.mpr ⟨left, s₄, hleft, Codec.bind_eq_some_iff.mpr ⟨v, s₅, ?_, h⟩⟩
    exact Codec.guard_eq_some_iff.mpr ⟨⟨Nat.le_trans hle hsize, hhead⟩, hsame⟩
  · exact h
  · cases h

theorem task_consumed (h : DbTask.decode body = some t) (hextra : extra ≠ []) :
    DbTask.decode (body ++ extra) = none := by
  rw [decode_eq, Option.ite_none_left_eq_some] at h
  have hnone := (extends_task body.length).whole h.2 hextra
  rw [decode_eq, Option.eq_none_iff_forall_ne_some]
  intro t' ht'
  rw [Option.ite_none_left_eq_some, Codec.whole_eq_some_iff] at ht'
  have hle : body.length ≤ (body ++ extra).length := by
    rw [List.length_append]
    omega
  have hshort := Codec.whole_eq_some_iff.mpr (decodeTask_anti hle ht'.2)
  cases hnone.symm.trans hshort

theorem result_consumed (h : DbResult.decode body = some r) (hextra : extra ≠ []) :
    DbResult.decode (body ++ extra) = none := by
  rw [result_decode_eq, Option.ite_none_left_eq_some] at h
  rw [result_decode_eq, extends_result.whole h.2 hextra, ite_self]

end Whole

section RoundTrip

variable {t : DbTask} {r : DbResult} {body : Bytes}

theorem result_decoded (hr : r.Sized) : (r.Readable → DbResult.decode r.encode = some r.normalised) ∧
    (¬ r.Readable → DbResult.decode r.encode = none) := by
  have hlen : ¬ r.encode.length < 11 := by
    simp only [DbResult.encode, putI32, putStr, List.length_append, Net.length_putLE]
    omega
  rw [result_decode_eq, if_neg hlen]
  exact ⟨fun h => (reads_result hr h).whole, fun h => (refuses_result hr h).whole⟩

theorem task_decoded (ht : t.Sized) (h : t.encode = some body) :
    (t.Readable → DbTask.decode body = some t.carried) ∧
      (¬ t.Readable → DbTask.decode body = none) := by
  unfold DbTask.encode at h
  by_cases hkind : t.kind = 4 ∨ t.kind = 5
  · rw [if_pos hkind] at h
    split at h
    · cases h
    rename_i hcount
    split at h
    · cases h
    rename_i hgood
    dsimp only at h
    split at h
    · cases h
    rename_i hsize
    cases h
    simp only [not_or, List.isEmpty_iff, Nat.not_lt, gt_iff_lt] at hcount
    simp only [not_or, Bool.not_eq_true] at hgood
    rw [gt_iff_lt, Nat.not_lt] at hsize
    have hparts := hsize
    simp only [List.length_append, Net.length_putLE] at hparts
    have hsteps : Encodable t.steps := ⟨hcount.2.1, hgood.1, ht.steps, by omega⟩
    have hverification : Encodable t.verification :=
      ⟨hcount.2.2, hgood.2, ht.verification, by omega⟩
    have hspec := transaction_spec ht hkind hcount.1 hsteps hverification hsize
    rw [decode_eq, if_neg (by simp only [List.length_append, Net.length_putLE]; omega)]
    exact ⟨fun h => (hspec.1 h).whole, fun h => (hspec.2 h).whole⟩
  · rw [if_neg hkind] at h
    cases h
    have hread : t.Readable ↔ t.args.length ≤ kMaxItems := by rw [DbTask.Readable, if_neg hkind]
    have hspec := fun size => @statement_spec t size ht hkind
    rw [decode_eq, if_neg (by simp only [List.length_append, Net.length_putLE]; omega)]
    exact ⟨fun h => ((hspec _).1 (hread.mp h)).whole,
      fun h => ((hspec _).2 fun hitems => h (hread.mpr hitems)).whole⟩

/-- What is within the limits of the reader is read as what was written, as far as the envelope has
it; what is beyond them is refused; and what is read ends with the body. -/
theorem codec_round_trip :
    (∀ (v : Val) rest, v.Sized (kMaxDepth + 1) →
      (v.Within → decodeVal (encodeVal v ++ rest) = some (v, rest)) ∧
      (¬ v.Within → decodeVal (encodeVal v ++ rest) = none)) ∧
    (∀ r : DbResult, r.Sized →
      (r.Readable → DbResult.decode r.encode = some r.normalised) ∧
      (¬ r.Readable → DbResult.decode r.encode = none)) ∧
    (∀ (t : DbTask) body, t.Sized → t.encode = some body →
      (t.Readable → DbTask.decode body = some t.carried) ∧
      (¬ t.Readable → DbTask.decode body = none)) ∧
    (∀ body t extra, DbTask.decode body = some t → extra ≠ [] →
      DbTask.decode (body ++ extra) = none) ∧
    ∀ body r extra, DbResult.decode body = some r → extra ≠ [] →
      DbResult.decode (body ++ extra) = none :=
  ⟨fun _ rest hv => ⟨fun h => reads_val hv h rest, fun h => refuses_val hv h rest⟩,
    fun _ hr => result_decoded hr, fun _ _ ht h => task_decoded ht h,
    fun _ _ _ h hextra => task_consumed h hextra, fun _ _ _ h hextra => result_consumed h hextra⟩

/-- A failure that says it is a success, with rows. -/
def failedRows : DbResult := { errcode := 3, data := .arr [.arr [.int (-1), .nil], .str [1]] }

theorem codec_round_trip_rows : DbResult.decode failedRows.encode = some failedRows.normalised := by
  refine (codec_round_trip.2.1 failedRows ?_).1 ?_
  · constructor <;> simp [failedRows, kMaxDepth, Val.Sized]
  · simp [failedRows, DbResult.Readable, Val.Within, Val.depth, Val.depths, Val.widest, Val.widests,
      kMaxErrMsg, kMaxDepth, kMaxItems]

/-- A statement with an identity, which its envelope has no field for. -/
def identified : DbTask := { playerId := 7 }

/-- A text whose length does not fit its field. -/
def longText : Bytes := List.replicate (256 ^ 4) 0

theorem decode_longText : decodeVal (encodeVal (.str longText)) = some (.str [], longText) := by
  have hlen : longText.length = 256 ^ 4 := List.length_replicate
  have hzero : putLE 4 longText.length = putLE 4 0 := by rw [hlen]; rfl
  have hread : Reads decodeVal (putLE 1 2 ++ (putLE 4 0 ++ [])) (.str []) := by
    refine .bind (@reads_num 1 2 (by decide)) (.bind (reads_num (by decide)) ?_)
    exact (Codec.reads_take []).map Val.str
  have hencode : encodeVal (.str longText) = putLE 1 2 ++ (putLE 4 0 ++ []) ++ longText := by
    rw [← hzero]
    rfl
  rw [hencode]
  exact hread longText

theorem round_trip_loses :
    (identified.Sized ∧ identified.Readable ∧
      ∃ body, identified.encode = some body ∧ DbTask.decode body ≠ some identified) ∧
    (Val.str longText).Within ∧
      decodeVal (encodeVal (.str longText)) ≠ some (.str longText, []) := by
  refine ⟨⟨?_, ?_, _, rfl, fun h => ?_⟩, ?_, fun h => ?_⟩
  · constructor <;> simp [identified]
  · simp [DbTask.Readable, identified]
  · have hid := congrArg (Option.map DbTask.playerId) h
    revert hid
    decide +kernel
  · exact ⟨Nat.zero_le _, Nat.zero_le _⟩
  · rw [decode_longText] at h
    have hnil := congrArg List.length (Prod.mk.inj (Option.some.inj h)).2
    rw [longText, List.length_replicate] at hnil
    exact absurd hnil (by decide)

end RoundTrip

end Db
