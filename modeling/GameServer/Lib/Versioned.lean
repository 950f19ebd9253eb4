import Mathlib.Data.List.Induction
import Mathlib.Order.Lattice

/-!
# Writes with versions

A register takes a write if its version is greater than the one it has, and is
left as it is by every other write. After any sequence of writes it has the first
one of the greatest version, or what it had if no version was greater.
-/

namespace Versioned

variable {σ α ν : Type} [LinearOrder ν]

/-- What a register does with a write. -/
structure Register (version : σ → ν) (stamp : α → ν) (write : σ → α → σ) (Holds : α → σ → Prop) :
    Prop where
  stale : ∀ s x, stamp x ≤ version s → write s x = s
  newer : ∀ s x, version s < stamp x → version (write s x) = stamp x ∧ Holds x (write s x)

variable {version : σ → ν} {stamp : α → ν} {write : σ → α → σ} {Holds : α → σ → Prop}

/-- The first write of the greatest version that is above `low`. -/
def Latest (stamp : α → ν) (low : ν) (xs : List α) (x : α) : Prop :=
  ∃ before after, xs = before ++ x :: after ∧ low < stamp x ∧
    (∀ y ∈ before, stamp y < stamp x) ∧ ∀ y ∈ after, stamp y ≤ stamp x

theorem Latest.le {low : ν} {xs : List α} {x y : α} (h : Latest stamp low xs x) (hy : y ∈ xs) :
    stamp y ≤ stamp x := by
  obtain ⟨before, after, rfl, -, hbefore, hafter⟩ := h
  rcases List.mem_append.mp hy with hy | hy
  · exact le_of_lt (hbefore y hy)
  rcases List.mem_cons.mp hy with rfl | hy
  · exact le_refl _
  · exact hafter y hy

/-- The register after a sequence of writes. -/
theorem Register.foldl (h : Register version stamp write Holds) (s : σ) (xs : List α) :
    ((∀ x ∈ xs, stamp x ≤ version s) ∧ xs.foldl write s = s) ∨
      ∃ x, Latest stamp (version s) xs x ∧ Holds x (xs.foldl write s) ∧
        version (xs.foldl write s) = stamp x := by
  induction xs using List.reverseRecOn with
  | nil => exact .inl ⟨by simp, rfl⟩
  | append_singleton xs y ih =>
    rw [List.foldl_append, List.foldl_cons, List.foldl_nil]
    rcases ih with ⟨hold, hsame⟩ | ⟨x, hlatest, hholds, hversion⟩
    · rw [hsame]
      rcases le_or_gt (stamp y) (version s) with hy | hy
      · rw [h.stale s y hy]
        refine .inl ⟨fun x hx => ?_, rfl⟩
        rcases List.mem_append.mp hx with hx | hx
        · exact hold x hx
        · rw [List.mem_singleton.mp hx]
          exact hy
      · obtain ⟨hver, hholds⟩ := h.newer s y hy
        exact .inr ⟨y, ⟨xs, [], rfl, hy, fun x hx => lt_of_le_of_lt (hold x hx) hy, by simp⟩,
          hholds, hver⟩
    · rcases le_or_gt (stamp y) (version (xs.foldl write s)) with hy | hy
      · rw [h.stale _ y hy]
        obtain ⟨before, after, rfl, hlow, hbefore, hafter⟩ := hlatest
        refine .inr ⟨x, ⟨before, after ++ [y], by simp, hlow, hbefore, fun z hz => ?_⟩, hholds,
          hversion⟩
        rcases List.mem_append.mp hz with hz | hz
        · exact hafter z hz
        · rw [List.mem_singleton.mp hz, ← hversion]
          exact hy
      · obtain ⟨hver, hholds'⟩ := h.newer _ y hy
        rw [hversion] at hy
        refine .inr ⟨y, ⟨xs, [], rfl, ?_, fun z hz => lt_of_le_of_lt (hlatest.le hz) hy, by simp⟩,
          hholds', hver⟩
        obtain ⟨before, after, -, hlow, -⟩ := hlatest
        exact lt_trans hlow hy

end Versioned
