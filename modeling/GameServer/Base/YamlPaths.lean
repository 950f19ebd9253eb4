import Mathlib.Data.Set.Finite.Lemmas
import GameServer.Base.YamlStyle

/-!
# Where the values of a document are put

The reader keeps the indentation of a section as an `int`. The name of a section that stands behind
`2 ^ 31` spaces or more is off the stack at the next line, so what is in the section is put where
the section itself would be: under a path that is too short. As long as no line begins with
`2 ^ 32` spaces this is all that goes wrong, and it cannot go unnoticed.
-/

namespace Base

namespace Yaml

open Gateway (Bytes)

/-- The path under which the reader puts what is in a section or a list. -/
def sectionPath (indent : Nat) (path key : Bytes) : Bytes :=
  if indent < 2 ^ 31 then joinPath path key else path

namespace Block

variable {α : Type} {value : Scalar → Option α} {list : List Scalar → Option α}
  {indent : Nat} {meant placed : Bytes}

/-- The rows of a mapping, each with the path that it should have and the one that it gets. What
makes a row of a value and of a list is given. -/
def trace (value : Scalar → Option α) (list : List Scalar → Option α) (indent : Nat)
    (meant placed : Bytes) : Block → List (Bytes × Bytes × α)
  | done _ => []
  | .value _ key s rest =>
    ((value s).map fun a => (joinPath meant key.1, joinPath placed key.1, a)).toList ++
      rest.trace value list indent meant placed
  | items _ key _ _ first more rest =>
    ((list ((first :: more).map (·.2))).map fun a =>
      (joinPath meant key.1, sectionPath indent placed key.1, a)).toList ++
      rest.trace value list indent meant placed
  | nested _ key _ step body rest =>
    body.trace value list (indent + step + 1) (joinPath meant key.1)
        (sectionPath indent placed key.1) ++
      rest.trace value list indent meant placed

def valueRows (indent : Nat) (meant placed : Bytes) (b : Block) : List (Bytes × Bytes × Scalar) :=
  b.trace some (fun _ => none) indent meant placed

def listRows (indent : Nat) (meant placed : Bytes) (b : Block) :
    List (Bytes × Bytes × List Scalar) :=
  b.trace (fun _ => none) some indent meant placed

theorem valueRows_meant (b : Block) (indent : Nat) (meant placed : Bytes) :
    (b.valueRows indent meant placed).map (fun r => (r.1, r.2.2)) = b.values meant := by
  induction b generalizing indent meant placed with
  | done blanks => rfl
  | value blanks key s rest ih => exact congrArg _ (ih indent meant placed)
  | items blanks key trail step first more rest ih => exact ih indent meant placed
  | nested blanks key trail step body rest ihbody ih =>
    exact List.map_append.trans (congrArg₂ _ (ihbody _ _ _) (ih indent meant placed))

theorem listRows_meant (b : Block) (indent : Nat) (meant placed : Bytes) :
    (b.listRows indent meant placed).map (fun r => (r.1, r.2.2)) = b.lists meant := by
  induction b generalizing indent meant placed with
  | done blanks => rfl
  | value blanks key s rest ih => exact ih indent meant placed
  | items blanks key trail step first more rest ih => exact congrArg _ (ih indent meant placed)
  | nested blanks key trail step body rest ihbody ih =>
    exact List.map_append.trans (congrArg₂ _ (ihbody _ _ _) (ih indent meant placed))

/-! ### Paths that are too short -/

/-- The row is put under a path that is too short. -/
def Short (r : Bytes × Bytes × α) : Prop := r.2.1.length < r.1.length

theorem length_joinPath_lt {path path' : Bytes} (h : path'.length < path.length) (key : Bytes) :
    (joinPath path' key).length < (joinPath path key).length := by
  cases path with
  | nil => simp at h
  | cons c path =>
    cases path' with
    | nil =>
      simp only [joinPath, List.isEmpty_nil, List.isEmpty_cons, if_true, Bool.false_eq_true,
        if_false, List.length_append, List.length_cons]
      omega
    | cons d path' =>
      simp only [joinPath, List.isEmpty_cons, Bool.false_eq_true, if_false, List.length_append,
        List.length_cons] at h ⊢
      omega

theorem length_lt_joinPath (path : Bytes) (key : Key) :
    path.length < (joinPath path key.1).length := by
  have hkey := List.length_pos_iff.mpr key.2.trimmed.ne
  unfold joinPath
  split
  · rename_i hempty
    simpa [List.isEmpty_iff.mp hempty] using hkey
  · simp only [List.length_append, List.length_cons]
    omega

theorem sectionPath_lt (h : placed.length < meant.length) (key : Key) :
    (sectionPath indent placed key.1).length < (joinPath meant key.1).length := by
  unfold sectionPath
  split
  · exact length_joinPath_lt h key.1
  · exact h.trans (length_lt_joinPath meant key)

/-- A section that is wide is lost. -/
theorem sectionPath_wide (hwide : ¬ indent < 2 ^ 31) (h : placed.length ≤ meant.length)
    (key : Key) : (sectionPath indent placed key.1).length < (joinPath meant key.1).length := by
  unfold sectionPath
  rw [if_neg hwide]
  exact h.trans_lt (length_lt_joinPath meant key)

/-- Rows that have the paths they should have are not put under paths that are too short: the one
with the longest path could have that only from a row with a longer one. -/
theorem no_short {rows : List (Bytes × Bytes × α)} (hnodup : (rows.map (·.1)).Nodup)
    (hplaced : ∀ r ∈ rows, r.2.1 = r.1 ∨ Short r) (hcover : ∀ r ∈ rows, ∃ r' ∈ rows, r'.2.1 = r.1) :
    ∀ r ∈ rows, ¬ Short r := by
  intro r₀ hr₀ hshort₀
  obtain ⟨r, ⟨hr, hshort⟩, hmax⟩ := Set.exists_max_image { r | r ∈ rows ∧ Short r }
    (fun r => r.1.length) (rows.finite_toSet.subset fun r hr => hr.1) ⟨r₀, hr₀, hshort₀⟩
  obtain ⟨r', hr', hpath⟩ := hcover r hr
  rcases hplaced r' hr' with hsame | hshort'
  · have heq : r' = r := List.inj_on_of_nodup_map hnodup hr' hr (hsame.symm.trans hpath)
    rw [heq] at hpath
    unfold Short at hshort
    rw [hpath] at hshort
    exact absurd hshort (Nat.lt_irrefl _)
  · have hle := hmax r' ⟨hr', hshort'⟩
    unfold Short at hshort'
    rw [hpath] at hshort'
    omega

/-- What is under a path that is too short stays so. -/
theorem short_of_lt (b : Block) (h : placed.length < meant.length) :
    ∀ r ∈ b.trace value list indent meant placed, Short r := by
  induction b generalizing indent meant placed with
  | done blanks => simp [trace]
  | value blanks key s rest ih =>
    intro r hr
    rcases List.mem_append.mp hr with hr | hr
    · obtain ⟨a, -, rfl⟩ := Option.map_eq_some_iff.mp (Option.mem_toList.mp hr)
      exact length_joinPath_lt h key.1
    · exact ih h r hr
  | items blanks key trail step first more rest ih =>
    intro r hr
    rcases List.mem_append.mp hr with hr | hr
    · obtain ⟨a, -, rfl⟩ := Option.map_eq_some_iff.mp (Option.mem_toList.mp hr)
      exact sectionPath_lt h key
    · exact ih h r hr
  | nested blanks key trail step body rest ihbody ih =>
    intro r hr
    rcases List.mem_append.mp hr with hr | hr
    · exact ihbody (sectionPath_lt h key) r hr
    · exact ih h r hr

/-- A row has its path, or one that is too short. -/
theorem same_or_short (b : Block) (h : placed = meant ∨ placed.length < meant.length) :
    ∀ r ∈ b.trace value list indent meant placed, r.2.1 = r.1 ∨ Short r := by
  rcases h with rfl | hlt
  · induction b generalizing indent placed with
    | done blanks => simp [trace]
    | value blanks key s rest ih =>
      intro r hr
      rcases List.mem_append.mp hr with hr | hr
      · obtain ⟨a, -, rfl⟩ := Option.map_eq_some_iff.mp (Option.mem_toList.mp hr)
        exact .inl rfl
      · exact ih r hr
    | items blanks key trail step first more rest ih =>
      intro r hr
      rcases List.mem_append.mp hr with hr | hr
      · obtain ⟨a, -, rfl⟩ := Option.map_eq_some_iff.mp (Option.mem_toList.mp hr)
        by_cases hnarrow : indent < 2 ^ 31
        · exact .inl (if_pos hnarrow)
        · exact .inr (sectionPath_wide hnarrow (Nat.le_refl _) key)
      · exact ih r hr
    | nested blanks key trail step body rest ihbody ih =>
      intro r hr
      rcases List.mem_append.mp hr with hr | hr
      · by_cases hnarrow : indent < 2 ^ 31
        · unfold sectionPath at hr
          rw [if_pos hnarrow] at hr
          exact ihbody r hr
        · exact .inr (short_of_lt body (sectionPath_wide hnarrow (Nat.le_refl _) key) r hr)
      · exact ih r hr
  · exact fun r hr => .inr (short_of_lt b hlt r hr)

theorem trace_bare (b : Block) (h : b.bare = true) :
    b.trace value list indent meant placed = [] := by
  induction b generalizing indent meant placed with
  | done blanks => rfl
  | value | items => cases h
  | nested blanks key trail step body rest ihbody ih =>
    obtain ⟨hbody, hrest⟩ := Bool.and_eq_true_iff.mp h
    rw [trace, ihbody hbody, ih hrest]
    rfl

/-- In a mapping that is narrow every row has its path. -/
theorem Narrow.same {b : Block} (h : b.Narrow indent) :
    ∀ r ∈ b.trace value list indent placed placed, r.2.1 = r.1 := by
  induction b generalizing indent placed with
  | done blanks => simp [trace]
  | value blanks key s rest ih =>
    intro r hr
    rcases List.mem_append.mp hr with hr | hr
    · obtain ⟨a, -, rfl⟩ := Option.map_eq_some_iff.mp (Option.mem_toList.mp hr)
      rfl
    · exact ih h r hr
  | items blanks key trail step first more rest ih =>
    intro r hr
    rcases List.mem_append.mp hr with hr | hr
    · obtain ⟨a, -, rfl⟩ := Option.map_eq_some_iff.mp (Option.mem_toList.mp hr)
      exact if_pos h.1
    · exact ih h.2 r hr
  | nested blanks key trail step body rest ihbody ih =>
    obtain ⟨hname, hbody, hrest⟩ := h
    intro r hr
    rcases List.mem_append.mp hr with hr | hr
    · rcases hname with hnarrow | ⟨hbare, -⟩
      · unfold sectionPath at hr
        rw [if_pos hnarrow] at hr
        exact ihbody hbody r hr
      · rw [trace_bare body hbare] at hr
        cases hr
    · exact ih hrest r hr

theorem Narrow.valueRows {b : Block} (h : b.Narrow indent) (path : Bytes) :
    (b.valueRows indent path path).map (·.2) = b.values path := by
  rw [← valueRows_meant b indent path path]
  exact List.map_congr_left fun r hr => Prod.ext (h.same r hr) rfl

theorem Narrow.listRows {b : Block} (h : b.Narrow indent) (path : Bytes) :
    (b.listRows indent path path).map (·.2) = b.lists path := by
  rw [← listRows_meant b indent path path]
  exact List.map_congr_left fun r hr => Prod.ext (h.same r hr) rfl

theorem narrow_of_bare {b : Block} (h : b.bare = true) (hwithin : b.Within indent) :
    b.Narrow indent := by
  induction b generalizing indent with
  | done blanks => trivial
  | value | items => cases h
  | nested blanks key trail step body rest ihbody ih =>
    obtain ⟨hbody, hrest⟩ := Bool.and_eq_true_iff.mp h
    exact ⟨.inr ⟨hbody, hwithin.1⟩, ihbody hbody hwithin.2.1, ih hrest hwithin.2.2⟩

/-- A mapping that is not bare has a row. -/
theorem exists_row (b : Block) (h : b.bare = false) (indent : Nat) (meant placed : Bytes) :
    (∃ r, r ∈ b.valueRows indent meant placed) ∨ ∃ r, r ∈ b.listRows indent meant placed := by
  induction b generalizing indent meant placed with
  | done blanks => cases h
  | value blanks key s rest ih => exact .inl ⟨_, List.mem_cons_self⟩
  | items blanks key trail step first more rest ih => exact .inr ⟨_, List.mem_cons_self⟩
  | nested blanks key trail step body rest ihbody ih =>
    rcases Bool.and_eq_false_iff.mp h with hbody | hrest
    · exact (ihbody hbody _ _ _).imp (fun ⟨r, hr⟩ => ⟨r, List.mem_append_left _ hr⟩)
        fun ⟨r, hr⟩ => ⟨r, List.mem_append_left _ hr⟩
    · exact (ih hrest _ _ _).imp (fun ⟨r, hr⟩ => ⟨r, List.mem_append_right _ hr⟩)
        fun ⟨r, hr⟩ => ⟨r, List.mem_append_right _ hr⟩

/-- If a mapping is not narrow, then a row of it is put under a path that is too short. -/
theorem exists_short (b : Block) (hwithin : b.Within indent) (h : ¬ b.Narrow indent)
    (path : Bytes) : (∃ r ∈ b.valueRows indent path path, Short r) ∨
      ∃ r ∈ b.listRows indent path path, Short r := by
  induction b generalizing indent path with
  | done blanks => exact absurd trivial h
  | value blanks key s rest ih =>
    exact (ih hwithin h path).imp (fun ⟨r, hr, hs⟩ => ⟨r, List.mem_cons_of_mem _ hr, hs⟩) id
  | items blanks key trail step first more rest ih =>
    by_cases hnarrow : indent < 2 ^ 31
    · exact (ih hwithin.2 (fun hrest => h ⟨hnarrow, hrest⟩) path).imp id
        fun ⟨r, hr, hs⟩ => ⟨r, List.mem_cons_of_mem _ hr, hs⟩
    · exact .inr ⟨_, List.mem_cons_self, sectionPath_wide hnarrow (Nat.le_refl _) key⟩
  | nested blanks key trail step body rest ihbody ih =>
    obtain ⟨hwidth, hbody, hrest⟩ := hwithin
    by_cases hlate : rest.Narrow indent
    · by_cases hnarrow : indent < 2 ^ 31
      · have hinner := ihbody hbody (fun hin => h ⟨.inl hnarrow, hin, hlate⟩) (joinPath path key.1)
        have hpath : sectionPath indent path key.1 = joinPath path key.1 := if_pos hnarrow
        rw [valueRows, listRows, trace, trace, hpath]
        exact hinner.imp (fun ⟨r, hr, hs⟩ => ⟨r, List.mem_append_left _ hr, hs⟩)
          fun ⟨r, hr, hs⟩ => ⟨r, List.mem_append_left _ hr, hs⟩
      · -- the section is lost, and whatever is in it is put too high
        have hlost := sectionPath_wide hnarrow (Nat.le_refl path.length) key
        have hfull : body.bare = false := by
          rw [← Bool.not_eq_true]
          intro hbare
          exact h ⟨.inr ⟨hbare, hwidth⟩, narrow_of_bare hbare hbody, hlate⟩
        exact (exists_row body hfull (indent + step + 1) (joinPath path key.1)
          (sectionPath indent path key.1)).imp
          (fun ⟨r, hr⟩ => ⟨r, List.mem_append_left _ hr, short_of_lt body hlost r hr⟩)
          fun ⟨r, hr⟩ => ⟨r, List.mem_append_left _ hr, short_of_lt body hlost r hr⟩
    · exact (ih hrest hlate path).imp
        (fun ⟨r, hr, hs⟩ => ⟨r, List.mem_append_right _ hr, hs⟩)
        fun ⟨r, hr, hs⟩ => ⟨r, List.mem_append_right _ hr, hs⟩

/-! ### What the reader can follow -/

/-- The lines behind a name that is too wide for an `int` begin with fewer than `2 ^ 32` spaces. -/
def Fits (indent : Nat) : Block → Prop
  | done _ => True
  | .value _ _ _ rest => rest.Fits indent
  | items _ _ _ step _ _ rest => (indent < 2 ^ 31 ∨ indent + step + 1 < 2 ^ 32) ∧ rest.Fits indent
  | nested _ _ _ step body rest =>
    (indent < 2 ^ 31 ∨ indent + step + 1 < 2 ^ 32) ∧ body.Fits (indent + step + 1) ∧
      rest.Fits indent

theorem Narrow.fits {b : Block} (h : b.Narrow indent) : b.Fits indent := by
  induction b generalizing indent with
  | done blanks => trivial
  | value blanks key s rest ih => exact ih h
  | items blanks key trail step first more rest ih => exact ⟨.inl h.1, ih h.2⟩
  | nested blanks key trail step body rest ihbody ih =>
    exact ⟨h.1.imp id And.right, ihbody h.2.1, ih h.2.2⟩

theorem Within.fits {b : Block} (h : b.Within indent) : b.Fits indent := by
  induction b generalizing indent with
  | done blanks => trivial
  | value blanks key s rest ih => exact ih h
  | items blanks key trail step first more rest ih => exact ⟨.inr h.1, ih h.2⟩
  | nested blanks key trail step body rest ihbody ih =>
    exact ⟨.inr h.1, ihbody h.2.1, ih h.2.2⟩

end Block

end Yaml

end Base
