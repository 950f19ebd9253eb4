import Mathlib.Data.List.Basic

/-!
# Windows of a list

A list of cells is read and written between two positions. What a window shows after
a write is known when the write lies beside it.
-/

namespace Window

variable {α : Type}

/-- The cells from one position up to another. -/
def window (m : List α) (i j : Nat) : List α := (m.drop i).take (j - i)

/-- The cells from a position on are replaced. -/
def put (m : List α) (i : Nat) (src : List α) : List α :=
  m.take i ++ src ++ m.drop (i + src.length)

variable {m src : List α} {i j k n : Nat}

@[simp] theorem window_self (m : List α) (i : Nat) : window m i i = [] := by simp [window]

theorem length_window (hj : j ≤ m.length) : (window m i j).length = j - i := by
  rw [window, List.length_take, List.length_drop]
  omega

theorem length_put (h : i + src.length ≤ m.length) : (put m i src).length = m.length := by
  simp only [put, List.length_append, List.length_take, List.length_drop]
  omega

@[simp] theorem put_nil (m : List α) (i : Nat) : put m i [] = m := by simp [put]

theorem window_append (hij : i ≤ j) (hjk : j ≤ k) : window m i k = window m i j ++ window m j k := by
  obtain ⟨a, rfl⟩ := Nat.exists_eq_add_of_le hij
  obtain ⟨b, rfl⟩ := Nat.exists_eq_add_of_le hjk
  unfold window
  rw [show i + a + b - i = a + b by omega, show i + a - i = a by omega,
    show i + a + b - (i + a) = b by omega, List.take_add, List.drop_drop]

theorem getElem?_window : (window m i j)[n]? = if n < j - i then m[i + n]? else none := by
  unfold window
  rw [List.getElem?_take, List.getElem?_drop]

theorem getElem?_put (h : i ≤ m.length) :
    (put m i src)[n]? =
      if n < i then m[n]? else if n < i + src.length then src[n - i]? else m[n]? := by
  unfold put
  rw [List.append_assoc, List.getElem?_append, List.length_take, Nat.min_eq_left h,
    List.getElem?_take]
  split
  · rfl
  · rw [List.getElem?_append]
    by_cases hn : n < i + src.length
    · rw [if_pos hn, if_pos (by omega)]
    · rw [if_neg hn, if_neg (by omega), List.getElem?_drop]
      congr 1
      omega

/-- What a window shows is not changed by a write beside it. -/
theorem window_put_of_disjoint (h : i ≤ m.length) (hside : k ≤ i ∨ i + src.length ≤ j) :
    window (put m i src) j k = window m j k := by
  refine List.ext_getElem? fun n => ?_
  rw [getElem?_window, getElem?_window]
  split
  · rw [getElem?_put h]
    rcases hside with hk | hj
    · rw [if_pos (by omega)]
    · rw [if_neg (by omega), if_neg (by omega)]
  · rfl

/-- The window of a write shows what was written. -/
theorem window_put_self (h : i + src.length ≤ m.length) :
    window (put m i src) i (i + src.length) = src := by
  refine List.ext_getElem? fun n => ?_
  rw [getElem?_window, getElem?_put (by omega)]
  split
  · rw [if_neg (by omega), if_pos (by omega)]
    congr 1
    omega
  · rw [List.getElem?_eq_none (by omega)]

/-- A window of the first cells is the same in every list that starts with them. -/
theorem window_take (h : j ≤ n) (extra : List α) (hn : j ≤ m.length) :
    window (m.take n ++ extra) i j = window m i j := by
  refine List.ext_getElem? fun k => ?_
  rw [getElem?_window, getElem?_window]
  split
  · rw [List.getElem?_append_left (by rw [List.length_take]; omega), List.getElem?_take,
      if_pos (by omega)]
  · rfl

theorem take_window (h : i + n ≤ j) : (window m i j).take n = window m i (i + n) := by
  unfold window
  rw [List.take_take, Nat.min_eq_left (by omega), Nat.add_sub_cancel_left]

theorem drop_window : (window m i j).drop n = window m (i + n) j := by
  unfold window
  rw [List.drop_take, List.drop_drop, Nat.sub_sub]

end Window
