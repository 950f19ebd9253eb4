import Mathlib.Control.Monad.Basic
import Mathlib.Data.List.Basic

/-!
# Readers

A reader takes a value from the front of a word, and may refuse the word. It reads a
word if it takes its value from any word that begins with it, and refuses a word if it
takes none from any such word. Both compose along `bind`.
-/

namespace Codec

variable {β α γ : Type} {s t : List β} {a : α} {c : γ}

abbrev Reader (β α : Type) := StateT (List β) Option α

/-- So many letters. -/
def take (n : Nat) : Reader β (List β) := fun s =>
  if s.length < n then none else some (s.take n, s.drop n)

/-- How many letters are left. -/
def remaining : Reader β Nat := fun s => some (s.length, s)

/-- What a reader takes from a word of which it leaves nothing. -/
def whole (r : Reader β α) (s : List β) : Option α :=
  (r s).bind fun x => if x.2.isEmpty then some x.1 else none

def Reads (r : Reader β α) (s : List β) (a : α) : Prop := ∀ rest, r (s ++ rest) = some (a, rest)

def Refuses (r : Reader β α) (s : List β) : Prop := ∀ rest, r (s ++ rest) = none

/-- What follows a word that is read stays behind it. -/
def Extends (r : Reader β α) : Prop :=
  ∀ s a rest extra, r s = some (a, rest) → r (s ++ extra) = some (a, rest ++ extra)

theorem whole_eq_some_iff {r : Reader β α} : whole r s = some a ↔ r s = some (a, []) := by
  unfold whole
  rw [Option.bind_eq_some_iff]
  constructor
  · rintro ⟨⟨b, rest⟩, hb, h⟩
    dsimp only at h
    split at h
    · rename_i hempty
      cases h
      rw [hb, List.isEmpty_iff.mp hempty]
    · cases h
  · exact fun h => ⟨_, h, rfl⟩

theorem Reads.whole {r : Reader β α} (h : Reads r s a) : whole r s = some a := by
  rw [whole_eq_some_iff, ← List.append_nil s]
  exact h []

theorem Refuses.whole {r : Reader β α} (h : Refuses r s) : whole r s = none := by
  unfold Codec.whole
  rw [← List.append_nil s, h]
  rfl

/-- A word that is read is not the beginning of another. -/
theorem Extends.whole {r : Reader β α} (h : Extends r) (hs : whole r s = some a) {extra : List β}
    (hextra : extra ≠ []) : whole r (s ++ extra) = none := by
  have hread := h s a [] extra (whole_eq_some_iff.mp hs)
  rw [Option.eq_none_iff_forall_ne_some]
  intro b hb
  have hnil := hread.symm.trans (whole_eq_some_iff.mp hb)
  exact hextra (Prod.mk.inj (Option.some.inj hnil)).2

section Bind

variable {r : Reader β α} {f : α → Reader β γ} {rest : List β}

theorem bind_eq (s : List β) : (r >>= f) s = (r s).bind fun x => f x.1 x.2 := rfl

/-- What a reader takes after another. -/
theorem bind_eq_some_iff : (r >>= f) s = some (c, rest) ↔
    ∃ a mid, r s = some (a, mid) ∧ f a mid = some (c, rest) := by
  rw [bind_eq, Option.bind_eq_some_iff]
  exact ⟨fun ⟨⟨a, mid⟩, ha, hf⟩ => ⟨a, mid, ha, hf⟩, fun ⟨a, mid, ha, hf⟩ => ⟨⟨a, mid⟩, ha, hf⟩⟩

theorem pure_eq_some_iff {b : α} :
    (pure a : Reader β α) s = some (b, rest) ↔ a = b ∧ s = rest := by
  change some (a, s) = some (b, rest) ↔ _
  rw [Option.some.injEq, Prod.mk.injEq]

theorem guard_eq_some_iff {p : Prop} [Decidable p] {u : Unit} :
    (guard p : Reader β Unit) s = some (u, rest) ↔ p ∧ s = rest := by
  by_cases hp : p
  · have hguard : (guard p : Reader β Unit) = pure () := if_pos hp
    rw [hguard, pure_eq_some_iff]
    exact and_congr_left fun _ => ⟨fun _ => hp, fun _ => rfl⟩
  · have hguard : (guard p : Reader β Unit) = failure := if_neg hp
    rw [hguard]
    exact ⟨nofun, fun h => absurd h.1 hp⟩

theorem take_eq_some_iff {n : Nat} {w : List β} :
    take n s = some (w, rest) ↔ w.length = n ∧ s = w ++ rest := by
  unfold take
  constructor
  · intro h
    split at h
    · cases h
    · rename_i hlen
      cases h
      exact ⟨List.length_take_of_le (Nat.le_of_not_lt hlen), (List.take_append_drop n s).symm⟩
  · rintro ⟨rfl, rfl⟩
    rw [if_neg (by rw [List.length_append]; omega), List.take_left, List.drop_left]

theorem reads_pure (a : α) : Reads (pure a : Reader β α) [] a := fun _ => rfl

theorem reads_take (w : List β) : Reads (take w.length) w w :=
  fun _ => take_eq_some_iff.mpr ⟨rfl, rfl⟩

theorem Reads.bind (h : Reads r s a) (hf : Reads (f a) t c) : Reads (r >>= f) (s ++ t) c := by
  intro rest
  rw [List.append_assoc, bind_eq, h]
  exact hf rest

theorem Reads.bind_refuses (h : Reads r s a) (hf : Refuses (f a) t) :
    Refuses (r >>= f) (s ++ t) := by
  intro rest
  rw [List.append_assoc, bind_eq, h]
  exact hf rest

theorem Refuses.bind (h : Refuses r s) (t : List β) : Refuses (r >>= f) (s ++ t) := by
  intro rest
  rw [List.append_assoc, bind_eq, h]
  rfl

/-- The last step only computes. -/
theorem Reads.map (h : Reads r s a) (g : α → γ) : Reads (r >>= fun a => pure (g a)) s (g a) := by
  intro rest
  rw [bind_eq, h]
  rfl

theorem Refuses.map (h : Refuses r s) (g : α → γ) : Refuses (r >>= fun a => pure (g a)) s := by
  intro rest
  rw [bind_eq, h]
  rfl

theorem Reads.guarded {p : Prop} [Decidable p] (hp : p) (h : Reads r s a) :
    Reads (do guard p; r) s a := by
  intro rest
  rw [bind_eq, (guard_eq_some_iff (u := ())).mpr ⟨hp, rfl⟩]
  exact h rest

theorem Refuses.guarded {p : Prop} [Decidable p] (h : p → Refuses r s) : Refuses (do guard p; r) s := by
  intro rest
  rw [bind_eq]
  by_cases hp : p
  · rw [(guard_eq_some_iff (u := ())).mpr ⟨hp, rfl⟩]
    exact h hp rest
  · have hguard : (guard p : Reader β Unit) = failure := if_neg hp
    rw [hguard]
    rfl

/-- Whatever is left, it is at least what is read. -/
theorem Reads.left {g : Nat → Reader β α} (h : ∀ n, s.length ≤ n → Reads (g n) s a) :
    Reads (remaining >>= g) s a :=
  fun rest => h _ (by rw [List.length_append]; omega) rest

theorem Refuses.left {g : Nat → Reader β α} (h : ∀ n, Refuses (g n) s) :
    Refuses (remaining >>= g) s :=
  fun rest => h _ rest

theorem extends_pure (a : α) : Extends (pure a : Reader β α) := by
  intro s b rest extra h
  rw [pure_eq_some_iff] at h ⊢
  exact ⟨h.1, by rw [h.2]⟩

theorem extends_take (n : Nat) : Extends (take n : Reader β (List β)) := by
  intro s w rest extra h
  rw [take_eq_some_iff] at h ⊢
  exact ⟨h.1, by rw [h.2, List.append_assoc]⟩

theorem Extends.bind (h : Extends r) (hf : ∀ a, Extends (f a)) : Extends (r >>= f) := by
  intro s c rest extra hc
  obtain ⟨a, mid, ha, hc⟩ := bind_eq_some_iff.mp hc
  exact bind_eq_some_iff.mpr ⟨a, mid ++ extra, h s a mid extra ha, hf a mid c rest extra hc⟩

theorem Extends.guarded {p : Prop} [Decidable p] (h : Extends r) : Extends (do guard p; r) :=
  .bind (fun s u rest extra hu => by
    rw [guard_eq_some_iff] at hu ⊢
    exact ⟨hu.1, by rw [hu.2]⟩) fun _ => h

/-- A test of what is left that more letters do not fail. -/
theorem Extends.tested {p : Nat → Prop} [DecidablePred p] (h : Extends r)
    (hp : ∀ {m n}, m ≤ n → p m → p n) :
    Extends (do let n ← remaining; guard (p n); r) := by
  intro s c rest extra hc
  obtain ⟨n, mid, hn, hc⟩ := bind_eq_some_iff.mp hc
  obtain ⟨rfl, rfl⟩ := Prod.mk.inj (Option.some.inj hn)
  obtain ⟨u, mid', hu, hc⟩ := bind_eq_some_iff.mp hc
  obtain ⟨hpass, rfl⟩ := guard_eq_some_iff.mp hu
  refine bind_eq_some_iff.mpr ⟨_, _, rfl, bind_eq_some_iff.mpr ⟨(), _, ?_, h _ c rest extra hc⟩⟩
  refine guard_eq_some_iff.mpr ⟨hp ?_ hpass, rfl⟩
  rw [List.length_append]
  omega

end Bind

end Codec
