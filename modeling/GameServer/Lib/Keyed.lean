import Mathlib.Data.List.Basic
import Mathlib.Logic.Function.Basic

/-!
# Streams of messages with a key

Each message of a stream is about one key, and there is a state for each key that its
messages go through. A stream is lawful if the state of its key allows every message that
comes. What concerns some keys only, or drops messages that change nothing, stays lawful
and ends in the same states.
-/

namespace Keyed

variable {K S M : Type} [DecidableEq K] (key : M → K) (step : S → M → S) (allows : S → M → Prop)

def next (f : K → S) (m : M) : K → S := Function.update f (key m) (step (f (key m)) m)

/-- The states after a stream. -/
def after (f : K → S) (ms : List M) : K → S := ms.foldl (next key step) f

def Lawful : (K → S) → List M → Prop
  | _, [] => True
  | f, m :: ms => allows (f (key m)) m ∧ Lawful (next key step f m) ms

section Laws

variable {key step allows} {f g : K → S} {m : M} {ms ns : List M}

@[simp] theorem after_nil : after key step f [] = f := rfl

@[simp] theorem after_cons :
    after key step f (m :: ms) = after key step (next key step f m) ms := rfl

theorem after_append : after key step f (ms ++ ns) = after key step (after key step f ms) ns :=
  List.foldl_append

theorem after_snoc : after key step f (ms ++ [m]) = next key step (after key step f ms) m :=
  after_append

theorem lawful_append : Lawful key step allows f (ms ++ ns) ↔
    Lawful key step allows f ms ∧ Lawful key step allows (after key step f ms) ns := by
  induction ms generalizing f with
  | nil => simp [Lawful]
  | cons m ms ih => simp [Lawful, ih, and_assoc]

theorem lawful_snoc : Lawful key step allows f (ms ++ [m]) ↔
    Lawful key step allows f ms ∧ allows (after key step f ms (key m)) m := by
  rw [lawful_append]
  simp [Lawful]

/-- Only the messages about a key matter to it. -/
theorem after_of_key {k : K} (hf : f k = g k) (hms : ms.filter (key · = k) = ns.filter (key · = k)) :
    after key step f ms k = after key step g ns k := by
  have hself : ∀ (ms : List M) (f : K → S),
      after key step f ms k = (ms.filter (key · = k)).foldl step (f k) := by
    intro ms
    induction ms with
    | nil => exact fun f => rfl
    | cons m ms ih =>
      intro f
      rw [after_cons, ih]
      by_cases hk : key m = k
      · subst hk
        simp [next]
      · rw [List.filter_cons_of_neg (by simpa using hk), next,
          Function.update_of_ne (Ne.symm hk)]
  rw [hself, hself, hf, hms]

theorem after_filter {p : K → Bool} {k : K} (hk : p k = true) (hf : f k = g k) :
    after key step f (ms.filter fun m => p (key m)) k = after key step g ms k := by
  refine after_of_key hf ?_
  rw [List.filter_filter]
  refine List.filter_congr fun m _ => ?_
  by_cases hm : key m = k <;> simp [hm, hk]

theorem lawful_filter {p : K → Bool} (hfg : ∀ k, p k = true → f k = g k)
    (h : Lawful key step allows g ms) :
    Lawful key step allows f (ms.filter fun m => p (key m)) := by
  induction ms generalizing f g with
  | nil => trivial
  | cons m ms ih =>
    cases hm : p (key m) with
    | true =>
      rw [List.filter_cons, if_pos hm]
      refine ⟨hfg _ hm ▸ h.1, ih (fun k hk => ?_) h.2⟩
      by_cases heq : k = key m
      · subst heq
        simp [next, hfg _ hk]
      · simp [next, heq, hfg k hk]
    | false =>
      rw [List.filter_cons, if_neg (by simp [hm])]
      refine ih (fun k hk => ?_) h.2
      have hne : k ≠ key m := fun heq => by simp [heq, hm] at hk
      simp [next, hne, hfg k hk]

/-- Messages that change nothing may be left out. -/
theorem lawful_sublist {counts : M → Bool} (hstep : ∀ s m, counts m = false → step s m = s)
    (hsub : ms.Sublist ns) (hcounts : ms.filter counts = ns.filter counts)
    (h : Lawful key step allows f ns) :
    Lawful key step allows f ms ∧ after key step f ms = after key step f ns := by
  induction hsub generalizing f with
  | slnil => exact ⟨trivial, rfl⟩
  | @cons ms ns m hsub ih =>
    cases hm : counts m with
    | true =>
      rw [List.filter_cons_of_pos hm] at hcounts
      have hlen := (hsub.filter counts).length_le
      rw [hcounts, List.length_cons] at hlen
      omega
    | false =>
      rw [List.filter_cons_of_neg (by simp [hm])] at hcounts
      have hsame : next key step f m = f := by
        rw [next, hstep _ m hm, Function.update_eq_self]
      have hrest := h.2
      rw [hsame] at hrest
      rw [after_cons, hsame]
      exact ih hcounts hrest
  | @cons_cons ms ns m hsub ih =>
    have hrest : ms.filter counts = ns.filter counts := by
      cases hm : counts m with
      | true =>
        rw [List.filter_cons_of_pos hm, List.filter_cons_of_pos hm] at hcounts
        exact (List.cons.inj hcounts).2
      | false =>
        rw [List.filter_cons_of_neg (by simp [hm]), List.filter_cons_of_neg (by simp [hm])]
          at hcounts
        exact hcounts
    obtain ⟨hlawful, hafter⟩ := ih hrest h.2
    exact ⟨⟨h.1, hlawful⟩, hafter⟩

end Laws

end Keyed
