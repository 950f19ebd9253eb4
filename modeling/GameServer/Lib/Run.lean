/-!
# Runs of a partial step function

A system is a step function from a state and a label to the next state; `none`
means that the label is not enabled there, or that the step is undefined. A run
is a list of labels. The rules below turn what one step preserves into what a
whole run preserves, with or without a condition that every step of the run
meets.
-/

namespace Run

variable {σ ℓ : Type}

/-- Take the steps of a run in order. -/
def exec (step : σ → ℓ → Option σ) : σ → List ℓ → Option σ
  | s, [] => some s
  | s, l :: ls => (step s l).bind fun t => exec step t ls

/-- Every step of the run meets the condition in the state it is taken from. -/
def Along (step : σ → ℓ → Option σ) (ok : σ → ℓ → Prop) : σ → List ℓ → Prop
  | _, [] => True
  | s, l :: ls => ok s l ∧ ∀ t, step s l = some t → Along step ok t ls

instance decidableAlong (step : σ → ℓ → Option σ) (ok : σ → ℓ → Prop)
    [∀ s l, Decidable (ok s l)] : ∀ s ls, Decidable (Along step ok s ls)
  | _, [] => .isTrue trivial
  | s, l :: ls =>
    have : ∀ t, Decidable (Along step ok t ls) := fun t => decidableAlong step ok t ls
    inferInstanceAs (Decidable (ok s l ∧ ∀ t ∈ step s l, Along step ok t ls))

variable {step : σ → ℓ → Option σ} {ok : σ → ℓ → Prop}

@[simp] theorem exec_nil (s : σ) : exec step s [] = some s := rfl

theorem exec_cons (s : σ) (l : ℓ) (ls : List ℓ) :
    exec step s (l :: ls) = (step s l).bind fun t => exec step t ls := rfl

theorem exec_cons_some {s u : σ} {l : ℓ} {ls : List ℓ} (h : exec step s (l :: ls) = some u) :
    ∃ t, step s l = some t ∧ exec step t ls = some u :=
  Option.bind_eq_some_iff.mp h

theorem exec_append (s : σ) (ls ms : List ℓ) :
    exec step s (ls ++ ms) = (exec step s ls).bind fun t => exec step t ms := by
  induction ls generalizing s with
  | nil => rfl
  | cons l ls ih =>
    simp only [List.cons_append, exec_cons, Option.bind_assoc]
    congr 1
    funext t
    exact ih t

theorem exec_snoc {s t u : σ} {ls : List ℓ} {l : ℓ} (h : exec step s ls = some t)
    (hl : step t l = some u) : exec step s (ls ++ [l]) = some u := by
  rw [exec_append, h, Option.bind_some, exec_cons, hl]
  rfl

/-- What every step that meets the condition preserves, every such run preserves. -/
theorem along_invariant (I : σ → Prop)
    (hstep : ∀ s l t, I s → ok s l → step s l = some t → I t)
    {s t : σ} {ls : List ℓ} (hs : I s) (hok : Along step ok s ls)
    (h : exec step s ls = some t) : I t := by
  induction ls generalizing s with
  | nil =>
    cases h
    exact hs
  | cons l ls ih =>
    obtain ⟨u, hu, hrest⟩ := exec_cons_some h
    exact ih (hstep s l u hs hok.1 hu) (hok.2 u hu) hrest

/-- Where every step lessens a measure, the measure bounds the run. -/
theorem along_length_le (I : σ → Prop) (left : σ → Nat)
    (hstep : ∀ s l t, I s → ok s l → step s l = some t → I t ∧ left t < left s)
    {s t : σ} {ls : List ℓ} (hs : I s) (hok : Along step ok s ls)
    (h : exec step s ls = some t) : I t ∧ ls.length + left t ≤ left s := by
  induction ls generalizing s with
  | nil =>
    cases h
    exact ⟨hs, Nat.le_of_eq (Nat.zero_add _)⟩
  | cons l ls ih =>
    obtain ⟨u, hu, hrest⟩ := exec_cons_some h
    obtain ⟨hI, hless⟩ := hstep s l u hs hok.1 hu
    obtain ⟨ht, hlength⟩ := ih hI (hok.2 u hu) hrest
    refine ⟨ht, ?_⟩
    rw [List.length_cons]
    omega

/-- A monadic fold is a run over the list. -/
theorem exec_eq_foldlM (s : σ) (ls : List ℓ) : exec step s ls = ls.foldlM step s := by
  induction ls generalizing s with
  | nil => rfl
  | cons l ls ih =>
    rw [exec_cons, List.foldlM_cons]
    exact congrArg _ (funext ih)

theorem along_true (s : σ) (ls : List ℓ) : Along step (fun _ _ => True) s ls := by
  induction ls generalizing s with
  | nil => trivial
  | cons l ls ih => exact ⟨trivial, fun t _ => ih t⟩

theorem along_of_labels {s : σ} {ls : List ℓ} (h : ∀ l ∈ ls, ∀ s, ok s l) :
    Along step ok s ls := by
  induction ls generalizing s with
  | nil => trivial
  | cons l ls ih =>
    exact ⟨h l List.mem_cons_self s, fun t _ => ih fun m hm => h m (List.mem_cons_of_mem _ hm)⟩

/-- A condition on the labels alone can be added to the condition on the steps. -/
theorem along_and {P : ℓ → Prop} {s : σ} {ls : List ℓ} (hP : ∀ l ∈ ls, P l)
    (hok : Along step ok s ls) : Along step (fun s l => P l ∧ ok s l) s ls := by
  induction ls generalizing s with
  | nil => trivial
  | cons l ls ih =>
    exact ⟨⟨hP l List.mem_cons_self, hok.1⟩,
      fun t ht => ih (fun m hm => hP m (List.mem_cons_of_mem _ hm)) (hok.2 t ht)⟩

/-- A run that goes on where another has ended. -/
theorem along_append {s t : σ} {ls ms : List ℓ} (hls : Along step ok s ls)
    (h : exec step s ls = some t) (hms : Along step ok t ms) : Along step ok s (ls ++ ms) := by
  induction ls generalizing s with
  | nil =>
    cases h
    exact hms
  | cons l ls ih =>
    obtain ⟨u, hu, hrest⟩ := exec_cons_some h
    refine ⟨hls.1, fun v hv => ?_⟩
    cases hu.symm.trans hv
    exact ih (hls.2 u hu) hrest

/-- A condition that every step of a run meets is met by every step of its beginnings. -/
theorem along_initial {s : σ} {ls ms : List ℓ} (hok : Along step ok s ls) (hms : ms <+: ls) :
    Along step ok s ms := by
  induction ls generalizing s ms with
  | nil =>
    rw [List.prefix_nil.mp hms]
    trivial
  | cons l ls ih =>
    cases ms with
    | nil => trivial
    | cons m ms =>
      obtain ⟨rfl, hrest⟩ := List.cons_prefix_cons.mp hms
      exact ⟨hok.1, fun t ht => ih (hok.2 t ht) hrest⟩

/-- What another system can follow step by step, it can follow over a whole run. -/
theorem along_simulation {τ : Type} {step' : τ → ℓ → Option τ} (R : σ → τ → Prop)
    (hstep : ∀ s t l s', R s t → ok s l → step s l = some s' → ∃ t', step' t l = some t' ∧ R s' t')
    {s s' : σ} {t : τ} {ls : List ℓ} (hR : R s t) (hok : Along step ok s ls)
    (h : exec step s ls = some s') : ∃ t', exec step' t ls = some t' ∧ R s' t' := by
  induction ls generalizing s t with
  | nil =>
    cases h
    exact ⟨t, rfl, hR⟩
  | cons l ls ih =>
    obtain ⟨u, hu, hrest⟩ := exec_cons_some h
    obtain ⟨v, hv, hRv⟩ := hstep s t l u hR hok.1 hu
    obtain ⟨t', ht', hR'⟩ := ih hRv (hok.2 u hu) hrest
    exact ⟨t', by rw [exec_cons, hv]; exact ht', hR'⟩

/-- What every step preserves, every run preserves. -/
theorem exec_invariant (I : σ → Prop) (hstep : ∀ s l t, I s → step s l = some t → I t)
    {s t : σ} {ls : List ℓ} (hs : I s) (h : exec step s ls = some t) : I t :=
  along_invariant I (fun s l t hi (_ : True) hst => hstep s l t hi hst) hs (along_true s ls) h

/-- If the steps that are there are those that meet the condition, then so are the runs. -/
theorem exec_some_iff_along (I : σ → Prop) (hstep : ∀ s l t, I s → step s l = some t → I t)
    (hok : ∀ s l, I s → ((∃ t, step s l = some t) ↔ ok s l)) {s : σ} {ls : List ℓ} (hs : I s) :
    (∃ t, exec step s ls = some t) ↔ Along step ok s ls := by
  induction ls generalizing s with
  | nil => exact iff_of_true ⟨s, rfl⟩ trivial
  | cons l ls ih =>
    constructor
    · rintro ⟨t, ht⟩
      obtain ⟨u, hu, hrest⟩ := exec_cons_some ht
      refine ⟨(hok s l hs).mp ⟨u, hu⟩, fun v hv => ?_⟩
      cases hu.symm.trans hv
      exact (ih (hstep s l u hs hu)).mp ⟨t, hrest⟩
    · rintro ⟨hl, hrest⟩
      obtain ⟨u, hu⟩ := (hok s l hs).mpr hl
      obtain ⟨t, ht⟩ := (ih (hstep s l u hs hu)).mpr (hrest u hu)
      exact ⟨t, by rw [exec_cons, hu]; exact ht⟩

/-- Steps of this kind lead from one state to the other. -/
def Leads (step : σ → ℓ → Option σ) (own : ℓ → Bool) (s t : σ) : Prop :=
  ∃ ls, (∀ l ∈ ls, own l = true) ∧ exec step s ls = some t

namespace Leads

variable {own : ℓ → Bool} {s t u : σ}

theorem refl (s : σ) : Leads step own s s := ⟨[], by simp, rfl⟩

theorem head {l : ℓ} (hl : own l = true) (hst : step s l = some t) (h : Leads step own t u) :
    Leads step own s u := by
  obtain ⟨ls, hls, hrun⟩ := h
  refine ⟨l :: ls, ?_, ?_⟩
  · simpa [hl] using hls
  · rw [exec_cons, hst]
    exact hrun

theorem trans (h : Leads step own s t) (hu : Leads step own t u) : Leads step own s u := by
  obtain ⟨ls, hls, hrun⟩ := h
  obtain ⟨ms, hms, hrest⟩ := hu
  refine ⟨ls ++ ms, fun l hl => ?_, ?_⟩
  · rcases List.mem_append.mp hl with hl | hl
    · exact hls l hl
    · exact hms l hl
  · rw [exec_append, hrun]
    exact hrest

theorem invariant {I : σ → Prop} (hstep : ∀ s l t, I s → step s l = some t → I t)
    (h : Leads step own s t) (hs : I s) : I t := by
  obtain ⟨ls, -, hrun⟩ := h
  exact exec_invariant I hstep hs hrun

end Leads

/-- Induction over the states that a run visits, each reached by a prefix of the run. -/
theorem visited_induction (P : σ → Prop) {s t : σ} {ls : List ℓ}
    (hstep : ∀ ms l x y, ms ++ [l] <+: ls → exec step s ms = some x → step x l = some y →
      P x → P y)
    (hs : P s) (h : exec step s ls = some t) : P t := by
  induction ls generalizing s with
  | nil =>
    cases h
    exact hs
  | cons l ls ih =>
    obtain ⟨u, hu, hrest⟩ := exec_cons_some h
    refine ih (fun ms m x y hms hx hy => ?_) (hstep [] l s u (by simp) rfl hu hs) hrest
    refine hstep (l :: ms) m x y ?_ ?_ hy
    · simpa using hms
    · rw [exec_cons, hu]
      exact hx

/-- If a step keeps `J` exactly when it meets the condition, then `J` holds wherever a run comes
exactly when all of its steps meet the condition. -/
theorem visited_iff_along (I J : σ → Prop) (hnone : ∀ s l, step s l = none → ok s l)
    (hstep : ∀ s l t, I s → J s → step s l = some t → I t ∧ (J t ↔ ok s l))
    {s : σ} {ls : List ℓ} (hI : I s) (hJ : J s) :
    (∀ ms t, ms <+: ls → exec step s ms = some t → J t) ↔ Along step ok s ls := by
  induction ls generalizing s with
  | nil =>
    refine iff_of_true (fun ms t hms ht => ?_) trivial
    rw [List.prefix_nil.mp hms] at ht
    cases ht
    exact hJ
  | cons l ls ih =>
    constructor
    · intro hall
      have hok : ok s l := by
        cases ht : step s l with
        | none => exact hnone s l ht
        | some t =>
          have hJt : J t := hall [l] t (by simp) (by rw [exec_cons, ht]; rfl)
          exact (hstep s l t hI hJ ht).2.mp hJt
      refine ⟨hok, fun t ht => ?_⟩
      obtain ⟨hIt, hiff⟩ := hstep s l t hI hJ ht
      refine (ih hIt (hiff.mpr hok)).mp fun ms u hms hu => hall (l :: ms) u ?_ ?_
      · exact List.cons_prefix_cons.mpr ⟨rfl, hms⟩
      · rw [exec_cons, ht]
        exact hu
    · rintro ⟨hok, hrest⟩ ms t hms ht
      cases ms with
      | nil =>
        cases ht
        exact hJ
      | cons m ms =>
        obtain ⟨rfl, hprefix⟩ := List.cons_prefix_cons.mp hms
        obtain ⟨u, hu, htail⟩ := exec_cons_some ht
        obtain ⟨hIu, hiff⟩ := hstep s m u hI hJ hu
        exact (ih hIu (hiff.mpr hok)).mpr (hrest u hu) ms t hprefix htail

end Run
