import Mathlib.Data.List.AList
import Mathlib.Data.List.Perm.Basic

/-!
# Finite tables

A hash map is an association list with distinct keys. Lookup, insertion and
removal are those of `AList`; this file adds the whole-table passes (keep the
rows that pass a test, rewrite every row) together with their lookup equations,
and restates the single-row updates with one `if` on the key.
-/

/-- A finite map. The order of its rows is the order a pass visits them in. -/
abbrev Table (K V : Type) := AList (fun _ : K => V)

namespace Table

variable {K V W : Type} [DecidableEq K]

def size (t : Table K V) : Nat := t.entries.length

/-- Keep exactly the rows that pass the test. -/
def keep (p : K → V → Bool) (t : Table K V) : Table K V :=
  ⟨t.entries.filter (fun r => p r.1 r.2), t.nodupKeys.sublist List.filter_sublist⟩

/-- Rewrite the value of every row. -/
def mapVals (f : K → V → W) (t : Table K V) : Table K W :=
  ⟨t.entries.map (fun r => ⟨r.1, f r.1 r.2⟩), by
    have hkeys : (t.entries.map (fun r => (⟨r.1, f r.1 r.2⟩ : Σ _ : K, W))).keys = t.entries.keys := by
      simp [List.keys]
    unfold List.NodupKeys
    rw [hkeys]
    exact t.nodupKeys⟩

theorem mem_entries {t : Table K V} {k : K} {v : V} :
    (⟨k, v⟩ : Σ _ : K, V) ∈ t.entries ↔ t.lookup k = some v :=
  AList.mem_lookup_iff.symm

theorem lookup_of_mem {t : Table K V} {r : Σ _ : K, V} (h : r ∈ t.entries) :
    t.lookup r.1 = some r.2 :=
  mem_entries.mp h

@[simp] theorem lookup_insert (t : Table K V) (k j : K) (v : V) :
    AList.lookup j (AList.insert k v t) = if j = k then some v else t.lookup j := by
  by_cases h : j = k
  · subst h; simp [AList.lookup_insert]
  · simp [h, AList.lookup_insert_ne h]

@[simp] theorem lookup_erase (t : Table K V) (k j : K) :
    AList.lookup j (AList.erase k t) = if j = k then none else t.lookup j := by
  by_cases h : j = k
  · subst h; simp
  · simp [h, AList.lookup_erase_ne h]

theorem lookup_erase_if (c : Prop) [Decidable c] (t : Table K V) (k j : K) :
    AList.lookup j (if c then t.erase k else t) = if j = k ∧ c then none else t.lookup j := by
  by_cases hc : c <;> simp [hc]

theorem lookup_insert_same (t : Table K V) (k : K) (v : V) :
    AList.lookup k (AList.insert k v t) = some v := by simp

@[simp] theorem lookup_keep (p : K → V → Bool) (t : Table K V) (k : K) :
    (t.keep p).lookup k = (t.lookup k).filter (p k) := by
  refine Option.ext fun v => ?_
  rw [← mem_entries, Option.filter_eq_some_iff, ← mem_entries]
  simp [keep]

@[simp] theorem lookup_mapVals (f : K → V → W) (t : Table K V) (k : K) :
    (t.mapVals f).lookup k = (t.lookup k).map (f k) := by
  refine Option.ext fun w => ?_
  rw [← mem_entries, Option.map_eq_some_iff]
  simp only [mapVals, List.mem_map, Sigma.mk.injEq]
  constructor
  · rintro ⟨⟨j, v⟩, hmem, rfl, hw⟩
    exact ⟨v, lookup_of_mem hmem, eq_of_heq hw⟩
  · rintro ⟨v, hv, rfl⟩
    exact ⟨⟨k, v⟩, mem_entries.mpr hv, rfl, HEq.rfl⟩

/-- Two tables with the same lookups hold the same rows. -/
theorem entries_perm_of_lookup {s t : Table K V} (h : ∀ k, s.lookup k = t.lookup k) :
    s.entries.Perm t.entries :=
  List.lookup_ext s.nodupKeys t.nodupKeys fun k v => by
    have hk := h k
    simp only [AList.lookup] at hk
    rw [hk]

omit [DecidableEq K] in
@[simp] theorem size_mapVals (f : K → V → W) (t : Table K V) : (t.mapVals f).size = t.size := by
  simp [size, mapVals]

theorem mem_iff_lookup {t : Table K V} {k : K} : k ∈ t ↔ ∃ v, t.lookup k = some v := by
  rw [← AList.lookup_isSome, Option.isSome_iff_exists]

/-- A pass over the rows in which each round changes what is read at its own key only. -/
theorem foldl_rows {σ X : Type} (t : Table K V) (read : σ → K → X) (step : σ → (Σ _ : K, V) → σ)
    (F : K → V → X → X)
    (hstep : ∀ s, ∀ r ∈ t.entries, ∀ k,
      read (step s r) k = if k = r.1 then F r.1 r.2 (read s r.1) else read s k)
    (s : σ) (k : K) :
    read (t.entries.foldl step s) k =
      match t.lookup k with
      | none => read s k
      | some v => F k v (read s k) := by
  have hrows : ∀ (rows : List (Σ _ : K, V)), rows.NodupKeys → (∀ r ∈ rows, r ∈ t.entries) →
      ∀ s, read (rows.foldl step s) k =
        match rows.dlookup k with
        | none => read s k
        | some v => F k v (read s k) := by
    intro rows
    induction rows with
    | nil => intro _ _ s; rfl
    | cons r rows ih =>
      intro hnd hmem s
      obtain ⟨hr, hnd'⟩ := List.nodupKeys_cons.mp hnd
      rw [List.foldl_cons, ih hnd' fun q hq => hmem q (List.mem_cons_of_mem _ hq),
        hstep s r (hmem r List.mem_cons_self)]
      by_cases hk : k = r.1
      · subst hk
        rw [List.dlookup_eq_none.mpr hr, List.dlookup_cons_eq]
        simp
      · rw [List.dlookup_cons_ne _ _ hk, if_neg hk]
  exact hrows t.entries t.nodupKeys (fun r hr => hr) s

theorem mem_keys_iff {t : Table K V} {k : K} : k ∈ t.keys ↔ ∃ v, t.lookup k = some v := by
  rw [← AList.mem_keys, ← AList.lookup_isSome, Option.isSome_iff_exists]

theorem eq_empty {t : Table K V} (h : ∀ k, t.lookup k = none) : t = ∅ := by
  rcases t with ⟨_ | ⟨r, rows⟩, hnodup⟩
  · rfl
  · have hr := h r.1
    rw [AList.lookup, List.dlookup_cons_eq] at hr
    cases hr

theorem size_erase_le (t : Table K V) (k : K) : size (AList.erase k t) ≤ t.size :=
  (List.kerase_sublist k t.entries).length_le

theorem size_erase_of_lookup {t : Table K V} {k : K} {v : V} (h : t.lookup k = some v) :
    size (AList.erase k t) + 1 = t.size := by
  obtain ⟨v', before, after, -, hsplit, herase⟩ := List.exists_of_kerase
    (AList.mem_keys.mp (mem_iff_lookup.mpr ⟨v, h⟩))
  unfold size
  rw [show (AList.erase k t).entries = before ++ after from herase, hsplit]
  simp [Nat.add_assoc]

theorem size_insert (t : Table K V) (k : K) (v : V) :
    size (AList.insert k v t) = size (AList.erase k t) + 1 := rfl

theorem size_insert_of_none {t : Table K V} {k : K} (v : V) (h : t.lookup k = none) :
    size (AList.insert k v t) = t.size + 1 := by
  have hk : k ∉ t.entries.keys := fun hmem => by
    obtain ⟨u, hu⟩ := mem_iff_lookup.mp (AList.mem_keys.mpr hmem)
    rw [hu] at h
    cases h
  rw [size_insert]
  unfold size
  rw [show (AList.erase k t).entries = t.entries from List.kerase_of_notMem_keys hk]

theorem size_insert_le (t : Table K V) (k : K) (v : V) : size (AList.insert k v t) ≤ t.size + 1 :=
  Nat.succ_le_succ (size_erase_le t k)

theorem size_insert_of_lookup {t : Table K V} {k : K} {u : V} (v : V) (h : t.lookup k = some u) :
    size (AList.insert k v t) = t.size := by
  rw [size_insert, size_erase_of_lookup h]

end Table
