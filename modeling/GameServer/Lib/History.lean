import Mathlib.Data.List.Induction

/-!
# Histories

A history is a list of events, the oldest first. A law says when an event may
follow the events before it; a history is lawful if each of its events was
allowed. Appending an event to a lawful history needs a look at that event only.
Events of one kind may cut a history into lives, and of the last of them a law
can say what it says of a whole history.
-/

namespace History

variable {ε : Type} {law : List ε → ε → Prop}

/-- Every event was allowed after those before it. -/
def Lawful (law : List ε → ε → Prop) (log : List ε) : Prop :=
  ∀ pre e post, log = pre ++ e :: post → law pre e

theorem lawful_nil : Lawful law [] := by
  intro pre e post h
  simp at h

theorem Lawful.append {log : List ε} (h : Lawful law log) {e : ε} (he : law log e) :
    Lawful law (log ++ [e]) := by
  intro pre x post hsplit
  rcases List.eq_nil_or_concat post with rfl | ⟨post', y, rfl⟩
  · obtain ⟨hpre, hx⟩ := List.append_inj' hsplit rfl
    cases hx
    exact hpre ▸ he
  · have hinit : log = pre ++ x :: post' := by
      have hlist : log ++ [e] = (pre ++ x :: post') ++ [y] := by simp [hsplit]
      exact (List.append_inj' hlist rfl).1
    exact h pre x post' hinit

/-- The events of a lawful history, the last one with its past. -/
theorem Lawful.of_mem {log : List ε} (h : Lawful law log) {e : ε} (he : e ∈ log) :
    ∃ pre post, log = pre ++ e :: post ∧ law pre e := by
  obtain ⟨pre, post, hsplit⟩ := List.append_of_mem he
  exact ⟨pre, post, hsplit, h pre e post hsplit⟩

/-- What a lawful history had before is lawful. -/
theorem Lawful.of_append {log rest : List ε} (h : Lawful law (log ++ rest)) : Lawful law log :=
  fun pre e post hsplit => h pre e (post ++ rest) (by simp [hsplit])

/-- Induction over a lawful history, from the oldest event on. -/
theorem Lawful.induction {log : List ε} (h : Lawful law log) (P : List ε → Prop) (hnil : P [])
    (hstep : ∀ pre e, Lawful law pre → law pre e → P pre → P (pre ++ [e])) : P log := by
  induction log using List.reverseRecOn with
  | nil => exact hnil
  | append_singleton pre e ih =>
    exact hstep pre e h.of_append (h pre e [] rfl) (ih h.of_append)

/-! ### The last life -/

variable {ends : ε → Bool} {log : List ε} {e : ε}

/-- What has happened since the last event of a kind. -/
def since (ends : ε → Bool) (log : List ε) : List ε :=
  log.foldl (fun life e => if ends e then [] else life ++ [e]) []

theorem since_append (ends : ε → Bool) (log : List ε) (e : ε) :
    since ends (log ++ [e]) = if ends e then [] else since ends log ++ [e] :=
  List.foldl_append

theorem since_of_ends (h : ends e = true) : since ends (log ++ [e]) = [] := by
  rw [since_append, if_pos h]

theorem since_of_goes (h : ends e = false) : since ends (log ++ [e]) = since ends log ++ [e] := by
  rw [since_append, if_neg (by simp [h])]

theorem since_suffix (ends : ε → Bool) (log : List ε) : since ends log <:+ log := by
  induction log using List.reverseRecOn with
  | nil => exact List.suffix_rfl
  | append_singleton log e ih =>
    rw [since_append]
    split
    · exact List.nil_suffix
    · exact List.suffix_append_self_iff.mpr ih

theorem mem_of_mem_since (h : e ∈ since ends log) : e ∈ log := (since_suffix ends log).subset h

theorem since_eq_self (h : ∀ e ∈ log, ends e = false) : since ends log = log := by
  induction log using List.reverseRecOn with
  | nil => rfl
  | append_singleton log e ih =>
    rw [since_of_goes (h e (by simp)), ih fun x hx => h x (by simp [hx])]

/-- What was before an end does not count. -/
theorem since_append_of_mem {rest : List ε} (h : ∃ e ∈ rest, ends e = true) :
    since ends (log ++ rest) = since ends rest := by
  induction rest using List.reverseRecOn with
  | nil =>
    obtain ⟨_, hmem, -⟩ := h
    cases hmem
  | append_singleton rest e ih =>
    rw [← List.append_assoc, since_append, since_append]
    split
    · rfl
    · rename_i hgoes
      rw [ih]
      obtain ⟨x, hx, hends⟩ := h
      rcases List.mem_append.mp hx with hx | hx
      · exact ⟨x, hx, hends⟩
      · rw [List.mem_singleton.mp hx] at hends
        exact absurd hends hgoes

variable {β : Type} {f : ε → Option β} {begins : ε → Bool} {n : Nat}

/-- What happens only in a life that has begun, and `n` times at most in each, happens no more often
than the lives can account for. -/
theorem Lawful.length_le_lives (h : Lawful law log)
    (hlaw : ∀ pre e, Lawful law pre → law pre e → [e].filterMap f ≠ [] →
      (∃ b ∈ since ends pre, begins b = true) ∧ ((since ends pre).filterMap f).length < n) :
    (log.filterMap f).length ≤ n * log.countP begins := by
  have hboth := h.induction (fun log => (log.filterMap f).length ≤ n * log.countP begins ∧
    ((∃ b ∈ since ends log, begins b = true) →
      (log.filterMap f).length + n ≤ n * log.countP begins + ((since ends log).filterMap f).length))
    ⟨Nat.le_refl 0, fun ⟨_, hb, _⟩ => by cases hb⟩ fun pre e hpre he ⟨hle, hbegun⟩ => ?_
  · exact hboth.1
  -- where the event counts, the life that it is in has room for it
  have hroom : (pre.filterMap f).length + ([e].filterMap f).length ≤ n * pre.countP begins := by
    rw [List.filterMap_cons]
    cases hf : f e with
    | none => simpa using hle
    | some b =>
      obtain ⟨hlife, hless⟩ := hlaw pre e hpre he (by simp [hf])
      have := hbegun hlife
      simp only [List.filterMap_nil, List.length_cons, List.length_nil]
      omega
  rw [List.filterMap_append, List.length_append, List.countP_append, Nat.mul_add]
  refine ⟨Nat.le_add_right_of_le hroom, fun ⟨b, hb, hbegins⟩ => ?_⟩
  rw [since_append] at hb ⊢
  split at hb
  · cases hb
  rename_i hgoes
  rw [if_neg hgoes, List.filterMap_append, List.length_append]
  rcases List.mem_append.mp hb with hb | hb
  · have := hbegun ⟨b, hb, hbegins⟩
    omega
  · cases List.mem_singleton.mp hb
    have : [e].countP begins = 1 := by simp [hbegins]
    rw [this]
    omega

/-- If there has been one beginning and it was in the last life, all of it has been there. -/
theorem Lawful.filterMap_since (h : Lawful law log)
    (hlaw : ∀ pre e, Lawful law pre → law pre e → [e].filterMap f ≠ [] →
      (∃ b ∈ since ends pre, begins b = true) ∧ ((since ends pre).filterMap f).length < n)
    (hone : log.countP begins ≤ 1) (hlife : ∃ b ∈ since ends log, begins b = true) :
    (since ends log).filterMap f = log.filterMap f := by
  obtain ⟨old, hsplit⟩ := since_suffix ends log
  have hnone : old.countP begins = 0 := by
    have : 0 < (since ends log).countP begins := List.countP_pos_iff.mpr hlife
    rw [← hsplit, List.countP_append] at hone
    omega
  have hold : Lawful law old := by
    rw [← hsplit] at h
    exact h.of_append
  have hempty : old.filterMap f = [] := by
    have := hold.length_le_lives hlaw
    rw [hnone, Nat.mul_zero] at this
    exact List.length_eq_zero_iff.mp (Nat.le_zero.mp this)
  have hall : (old ++ since ends log).filterMap f = (since ends log).filterMap f := by
    rw [List.filterMap_append, hempty, List.nil_append]
  rw [← hall, hsplit]

end History
