import Mathlib.Logic.Function.Basic
import GameServer.Lib.Table
import GameServer.Gateway.Wire

/-!
# The players of the gateway connections

A gateway sends messages of many players over one connection. The network thread of a
scene keeps which connection each player came with last, in three maps, and lets a
binding be replaced only by a later one of the same gateway.
-/

namespace Gateway.GatewayPlayer

/-- What `Unpack` gives out: the binding and the payload. -/
def unpack (s : Bytes) : Option (ClientData × Bytes) :=
  if s.length < kHeaderSize ∨ field s 0 2 ≠ 0x4750 ∨ field s 2 2 ≠ 1 then none
  else
    let d : ClientData :=
      { playerId := field s 4 8
        clientSession := field s 12 8
        clientEpoch := field s 20 4
        gatewayId := field s 24 4
        sceneId := field s 28 4 }
    if !valid d then none else some (d, s.drop kHeaderSize)

end Gateway.GatewayPlayer

namespace Net

open Gateway (ClientData)
open Gateway.GatewayPlayer (valid)

/-- `SameClientBinding` compares all fields, and is equality here. -/
structure GatewayClientIndex where
  byConnection : Table Nat (Table Nat ClientData) := ∅
  connectionByPlayer : Table Nat Nat := ∅
  latest : Table Nat ClientData := ∅

namespace GatewayClientIndex

/-- `rows[connection]`, which is empty where there was none. -/
def rowOf (rows : Table Nat (Table Nat ClientData)) (connection : Nat) : Table Nat ClientData :=
  (rows.lookup connection).getD ∅

variable (i : GatewayClientIndex)

def row (connection : Nat) : Table Nat ClientData := rowOf i.byConnection connection

/-- What the binding that was there before says: the answer of `Bind`, or that it is replaced. -/
def answerOf (connection : Nat) (d : ClientData) : Option Bool :=
  match i.latest.lookup d.playerId with
  | none => none
  | some old =>
    if old.gatewayId ≠ d.gatewayId ∨ old.sceneId ≠ d.sceneId then some false
    else if d.clientEpoch < old.clientEpoch then some false
    else if d.clientEpoch = old.clientEpoch then
      if old ≠ d then some false
      else some (i.connectionByPlayer.lookup d.playerId = some connection)
    else none

def bind (connection : Nat) (d : ClientData) : Bool × GatewayClientIndex :=
  if connection = 0 ∨ !valid d then (false, i)
  else
    match i.answerOf connection d with
    | some ok => (ok, i)
    | none =>
      let i :=
        match i.connectionByPlayer.lookup d.playerId with
        | some c => { i with byConnection := i.byConnection.insert c ((i.row c).erase d.playerId) }
        | none => i
      (true,
        { byConnection :=
            i.byConnection.insert connection ((i.row connection).insert d.playerId d)
          connectionByPlayer := i.connectionByPlayer.insert d.playerId connection
          latest := i.latest.insert d.playerId d })

def Matches (connection : Nat) (d : ClientData) : Prop :=
  (i.row connection).lookup d.playerId = some d

instance (connection : Nat) (d : ClientData) : Decidable (i.Matches connection d) :=
  inferInstanceAs (Decidable (_ = _))

def unbind (connection : Nat) (d : ClientData) : Bool × GatewayClientIndex :=
  if ¬i.Matches connection d then (false, i)
  else
    (true,
      { i with
        byConnection := i.byConnection.insert connection ((i.row connection).erase d.playerId)
        connectionByPlayer := i.connectionByPlayer.erase d.playerId })

/-- The bindings of the connection, and the index without them. -/
def close (connection : Nat) : List ClientData × GatewayClientIndex :=
  match i.byConnection.lookup connection with
  | none => ([], i)
  | some row =>
    (row.entries.map (·.2),
      { i with
        byConnection := i.byConnection.erase connection
        connectionByPlayer := i.connectionByPlayer.keep fun playerId _ => playerId ∉ row })

/-- The maps say the same of every player. -/
structure Consistent : Prop where
  row : ∀ c p d, (i.row c).lookup p = some d ↔
    i.connectionByPlayer.lookup p = some c ∧ i.latest.lookup p = some d
  known : ∀ p c, i.connectionByPlayer.lookup p = some c → c ≠ 0 ∧ ∃ d, i.latest.lookup p = some d
  own : ∀ p d, i.latest.lookup p = some d → d.playerId = p ∧ valid d = true

variable {i : GatewayClientIndex}

theorem consistent_empty : Consistent {} where
  row := fun c p d => by simp [GatewayClientIndex.row, rowOf]
  known := nofun
  own := nofun

@[simp] theorem rowOf_insert (rows : Table Nat (Table Nat ClientData)) (c j : Nat)
    (t : Table Nat ClientData) : rowOf (rows.insert c t) j = if j = c then t else rowOf rows j := by
  simp only [rowOf, Table.lookup_insert]
  split <;> rfl

section Bind

variable {connection : Nat} {d : ClientData}

/-- `Bind` refuses, or it finds the binding in force, or the binding is later than all before. -/
inductive Bound (i : GatewayClientIndex) (connection : Nat) (d : ClientData) :
    Bool × GatewayClientIndex → Prop
  | refused : Bound i connection d (false, i)
  | same (hroute : i.connectionByPlayer.lookup d.playerId = some connection)
      (hlatest : i.latest.lookup d.playerId = some d) : Bound i connection d (true, i)
  | later {t : GatewayClientIndex} (hconnection : connection ≠ 0) (hvalid : valid d = true)
      (hlater : ∀ old, i.latest.lookup d.playerId = some old →
        old.gatewayId = d.gatewayId ∧ old.sceneId = d.sceneId ∧ old.clientEpoch < d.clientEpoch)
      (hroute : ∀ p, t.connectionByPlayer.lookup p =
        if p = d.playerId then some connection else i.connectionByPlayer.lookup p)
      (hlatest : ∀ p, t.latest.lookup p = if p = d.playerId then some d else i.latest.lookup p)
      (hrow : ∀ c p, (t.row c).lookup p =
        if p = d.playerId then
          if c = connection then some d
          else if i.connectionByPlayer.lookup d.playerId = some c then none
          else (i.row c).lookup p
        else (i.row c).lookup p) :
      Bound i connection d (true, t)

theorem answerOf_none (h : i.answerOf connection d = none) {old : ClientData}
    (hold : i.latest.lookup d.playerId = some old) :
    old.gatewayId = d.gatewayId ∧ old.sceneId = d.sceneId ∧ old.clientEpoch < d.clientEpoch := by
  rw [answerOf, hold] at h
  dsimp only at h
  split_ifs at h with hother hold' heq
  rw [not_or, not_not, not_not] at hother
  exact ⟨hother.1, hother.2, by omega⟩

theorem answerOf_true (h : i.answerOf connection d = some true) :
    i.connectionByPlayer.lookup d.playerId = some connection ∧
      i.latest.lookup d.playerId = some d := by
  rw [answerOf] at h
  split at h
  · cases h
  · rename_i old hold
    split_ifs at h with hother hold' heq hsame <;> try cases h
    rw [not_not] at hsame
    exact ⟨by simpa using h, by rw [hold, hsame]⟩

theorem bind_bound (i : GatewayClientIndex) (connection : Nat) (d : ClientData) :
    Bound i connection d (i.bind connection d) := by
  unfold bind
  split
  · exact .refused
  · rename_i hok
    rw [not_or] at hok
    have hvalid : valid d = true := by simpa using hok.2
    cases hanswer : i.answerOf connection d with
    | some ok =>
      cases ok with
      | false => exact .refused
      | true => exact .same (answerOf_true hanswer).1 (answerOf_true hanswer).2
    | none =>
      refine .later hok.1 hvalid (fun old hold => answerOf_none hanswer hold) ?_ ?_ ?_
      · intro p
        cases i.connectionByPlayer.lookup d.playerId <;> simp
      · intro p
        cases i.connectionByPlayer.lookup d.playerId <;> simp
      · intro c p
        cases i.connectionByPlayer.lookup d.playerId with
        | none =>
          simp only [row, rowOf_insert]
          by_cases hc : c = connection <;> by_cases hp : p = d.playerId <;> simp [hc, hp]
        | some c' =>
          simp only [row, rowOf_insert]
          by_cases hc : c = connection
          · subst hc
            by_cases hc' : c = c'
            · subst hc'
              by_cases hp : p = d.playerId <;> simp [hp]
            · by_cases hp : p = d.playerId <;> simp [hc', hp]
          · by_cases hc' : c = c'
            · subst hc'
              by_cases hp : p = d.playerId <;> simp [hc, hp]
            · by_cases hp : p = d.playerId <;> simp [hc, hc', Ne.symm hc', hp]

theorem Bound.consistent {out : Bool × GatewayClientIndex} (h : Bound i connection d out)
    (hi : i.Consistent) : out.2.Consistent := by
  cases h with
  | refused => exact hi
  | same => exact hi
  | later hconnection hvalid hlater hroute hlatest hrow =>
    refine ⟨fun c p e => ?_, fun p c hc => ?_, fun p e he => ?_⟩
    · rw [hrow, hroute, hlatest]
      by_cases hp : p = d.playerId
      · subst hp
        simp only [if_true, Option.some.injEq]
        by_cases hc : c = connection
        · simp [hc]
        · rw [if_neg hc]
          refine iff_of_false (fun hsome => ?_) fun hboth => hc hboth.1.symm
          split at hsome
          · cases hsome
          · rename_i hother
            exact hother ((hi.row c _ e).mp hsome).1
      · simp only [if_neg hp]
        exact hi.row c p e
    · rw [hroute] at hc
      simp only [hlatest]
      split at hc
      · cases hc
        exact ⟨hconnection, d, if_pos ‹_›⟩
      · rename_i hp
        obtain ⟨hne, e, he⟩ := hi.known p c hc
        exact ⟨hne, e, by rw [if_neg hp, he]⟩
    · rw [hlatest] at he
      split at he
      · rename_i hp
        cases he
        exact ⟨hp.symm, hvalid⟩
      · exact hi.own p e he

end Bind

section Unbind

variable {connection : Nat} {d : ClientData}

theorem matches_iff (hi : i.Consistent) : i.Matches connection d ↔
    i.connectionByPlayer.lookup d.playerId = some connection ∧
      i.latest.lookup d.playerId = some d :=
  hi.row connection d.playerId d

theorem unbind_route (h : i.Matches connection d) (p : Nat) :
    (i.unbind connection d).2.connectionByPlayer.lookup p =
      if p = d.playerId then none else i.connectionByPlayer.lookup p := by
  simp [unbind, h]

theorem unbind_latest : (i.unbind connection d).2.latest = i.latest := by
  unfold unbind
  split <;> rfl

theorem Consistent.unbind (hi : i.Consistent) (h : i.Matches connection d) :
    (i.unbind connection d).2.Consistent := by
  have hrow : ∀ c p, ((i.unbind connection d).2.row c).lookup p =
      if c = connection ∧ p = d.playerId then none else (i.row c).lookup p := by
    intro c p
    simp only [GatewayClientIndex.unbind, h, not_true_eq_false, if_false, GatewayClientIndex.row,
      rowOf_insert]
    by_cases hc : c = connection
    · subst hc
      by_cases hp : p = d.playerId <;> simp [hp]
    · simp [hc]
  obtain ⟨hroute, -⟩ := (matches_iff hi).mp h
  refine ⟨fun c p e => ?_, fun p c hc => ?_, fun p e he => ?_⟩
  · rw [hrow, unbind_route h, unbind_latest]
    by_cases hp : p = d.playerId
    · subst hp
      simp only [and_true, if_true, reduceCtorEq, false_and, iff_false]
      intro hsome
      split at hsome
      · cases hsome
      · rename_i hc
        have hother := ((hi.row c _ e).mp hsome).1
        exact hc (Option.some.inj (hother.symm.trans hroute))
    · simp only [hp, and_false, if_false]
      exact hi.row c p e
  · rw [unbind_route h] at hc
    rw [unbind_latest]
    split at hc
    · cases hc
    · exact hi.known p c hc
  · rw [unbind_latest] at he
    exact hi.own p e he

end Unbind

section Close

variable {connection : Nat}

theorem close_latest : (i.close connection).2.latest = i.latest := by
  unfold close
  split <;> rfl

/-- Exactly the players of the connection lose it. -/
theorem close_route (hi : i.Consistent) (p : Nat) :
    (i.close connection).2.connectionByPlayer.lookup p =
      if i.connectionByPlayer.lookup p = some connection then none
      else i.connectionByPlayer.lookup p := by
  have hmem : ∀ row, i.byConnection.lookup connection = some row →
      (p ∈ row ↔ i.connectionByPlayer.lookup p = some connection) := by
    intro row hrow
    have hsame : i.row connection = row := by rw [GatewayClientIndex.row, rowOf, hrow]; rfl
    rw [Table.mem_iff_lookup, ← hsame]
    constructor
    · rintro ⟨d, hd⟩
      exact ((hi.row _ _ _).mp hd).1
    · intro hroute
      obtain ⟨-, d, hd⟩ := hi.known p _ hroute
      exact ⟨d, (hi.row _ _ _).mpr ⟨hroute, hd⟩⟩
  unfold close
  cases hrow : i.byConnection.lookup connection with
  | none =>
    dsimp only
    split
    · rename_i hroute
      obtain ⟨-, d, hd⟩ := hi.known p _ hroute
      have hsome := (hi.row connection p d).mpr ⟨hroute, hd⟩
      rw [GatewayClientIndex.row, rowOf, hrow] at hsome
      cases hsome
    · rfl
  | some row =>
    dsimp only
    rw [Table.lookup_keep]
    split
    · rename_i hroute
      rw [hroute]
      simp [(hmem row hrow).mpr hroute]
    · rename_i hroute
      cases hsome : i.connectionByPlayer.lookup p with
      | none => rfl
      | some c => simp [mt (hmem row hrow).mp hroute]

/-- The bindings that are given out are those of the connection, each once. -/
theorem close_bindings (hi : i.Consistent) (d : ClientData) :
    d ∈ (i.close connection).1 ↔ i.Matches connection d := by
  unfold close Matches row rowOf
  cases hrow : i.byConnection.lookup connection with
  | none => simp
  | some row =>
    have hsame : i.row connection = row := by rw [GatewayClientIndex.row, rowOf, hrow]; rfl
    simp only [List.mem_map, Option.getD_some]
    constructor
    · rintro ⟨⟨p, e⟩, hmem, rfl⟩
      have hlookup := Table.mem_entries.mp hmem
      have hown := ((hi.row connection p e).mp (hsame ▸ hlookup)).2
      rw [(hi.own p e hown).1]
      exact hlookup
    · intro hlookup
      exact ⟨⟨d.playerId, d⟩, Table.mem_entries.mpr hlookup, rfl⟩

theorem close_nodup (hi : i.Consistent) : ((i.close connection).1.map (·.playerId)).Nodup := by
  unfold close
  cases hrow : i.byConnection.lookup connection with
  | none => exact List.nodup_nil
  | some row =>
    have hsame : i.row connection = row := by rw [GatewayClientIndex.row, rowOf, hrow]; rfl
    have hkeys : (row.entries.map (·.2)).map (·.playerId) = row.keys := by
      rw [List.map_map]
      refine List.map_congr_left fun r hr => ?_
      have hlookup := Table.lookup_of_mem hr
      exact (hi.own r.1 r.2 ((hi.row connection r.1 r.2).mp (hsame ▸ hlookup)).2).1
    dsimp only
    rw [hkeys]
    exact row.nodupKeys

theorem Consistent.close (hi : i.Consistent) : (i.close connection).2.Consistent := by
  have hrow : ∀ c, c ≠ connection → (i.close connection).2.row c = i.row c := by
    intro c hc
    unfold GatewayClientIndex.close GatewayClientIndex.row rowOf
    split
    · rfl
    · rw [Table.lookup_erase, if_neg hc]
  have hgone : (i.close connection).2.row connection = ∅ := by
    unfold GatewayClientIndex.close GatewayClientIndex.row rowOf
    split
    · rename_i hnone
      rw [hnone]
      rfl
    · rw [Table.lookup_erase, if_pos rfl]
      rfl
  refine ⟨fun c p e => ?_, fun p c hc => ?_, fun p e he => ?_⟩
  · rw [close_route hi, close_latest]
    by_cases hc : c = connection
    · subst hc
      rw [hgone]
      refine iff_of_false (by simp) fun hboth => ?_
      have hroute := hboth.1
      split at hroute
      · cases hroute
      · exact absurd hroute ‹_›
    · rw [hrow c hc, hi.row c p e]
      split
      · rename_i hroute
        rw [hroute]
        simp [Ne.symm hc]
      · rfl
  · rw [close_route hi] at hc
    rw [close_latest]
    split at hc
    · cases hc
    · exact hi.known p c hc
  · rw [close_latest] at he
    exact hi.own p e he

end Close

end GatewayClientIndex

end Net
