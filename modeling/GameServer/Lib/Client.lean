/-!
# Programs that call a service

A program computes and calls a service, and what it does next may depend on the answers
it gets. The service has a state of its own, which the program sees only through the
answers. So what all calls preserve the whole program preserves, and two services that
answer alike in related states cannot be told apart by any program.
-/

inductive Client (Q A α : Type) where
  | done (a : α)
  | call (q : Q) (next : A → Client Q A α)

namespace Client

variable {Q A α β σ τ : Type}

/-- Go on with the result of a program. -/
def bind : Client Q A α → (α → Client Q A β) → Client Q A β
  | .done a, f => f a
  | .call q next, f => .call q fun a => (next a).bind f

/-- The result of a program and the state it leaves the service in. -/
def run (serve : σ → Q → A × σ) : Client Q A α → σ → α × σ
  | .done a, s => (a, s)
  | .call q next, s => (next (serve s q).1).run serve (serve s q).2

variable {serve : σ → Q → A × σ} {serve' : τ → Q → A × τ}

/-- What every call preserves, every program preserves. -/
theorem run_invariant (I : σ → Prop) (hserve : ∀ s q, I s → I (serve s q).2)
    (p : Client Q A α) {s : σ} (h : I s) : I (p.run serve s).2 := by
  induction p generalizing s with
  | done a => exact h
  | call q next ih => exact ih (serve s q).1 (hserve s q h)

/-- The calls of a program with their answers. -/
def trace (serve : σ → Q → A × σ) : Client Q A α → σ → List (Q × A)
  | .done _, _ => []
  | .call q next, s =>
    (q, (serve s q).1) :: (next (serve s q).1).trace serve (serve s q).2

/-- What every call preserves beside the calls so far, every program preserves. -/
theorem run_trace_invariant (I : List (Q × A) → σ → Prop)
    (hserve : ∀ log s q, I log s → I (log ++ [(q, (serve s q).1)]) (serve s q).2)
    (p : Client Q A α) {log : List (Q × A)} {s : σ} (h : I log s) :
    I (log ++ p.trace serve s) (p.run serve s).2 := by
  induction p generalizing log s with
  | done a =>
    rw [trace, List.append_nil]
    exact h
  | call q next ih =>
    rw [trace, List.append_cons]
    exact ih (serve s q).1 (hserve log s q h)

/-- Every call of a program meets the condition in the state it is made in. -/
def Along (serve : σ → Q → A × σ) (ok : σ → Q → Prop) : Client Q A α → σ → Prop
  | .done _, _ => True
  | .call q next, s => ok s q ∧ (next (serve s q).1).Along serve ok (serve s q).2

/-- If a call keeps `J` exactly when it meets the condition, and never brings it back, then a
program keeps `J` exactly when all of its calls meet the condition. -/
theorem run_iff_along {I J : σ → Prop} {ok : σ → Q → Prop}
    (hserve : ∀ s q, I s → I (serve s q).2 ∧ (J (serve s q).2 ↔ J s ∧ ok s q))
    (p : Client Q A α) {s : σ} (h : I s) :
    I (p.run serve s).2 ∧ (J (p.run serve s).2 ↔ J s ∧ p.Along serve ok s) := by
  induction p generalizing s with
  | done a => exact ⟨h, (and_iff_left trivial).symm⟩
  | call q next ih =>
    obtain ⟨hI, hJ⟩ := hserve s q h
    obtain ⟨hrun, hiff⟩ := ih (serve s q).1 hI
    exact ⟨hrun, hiff.trans ((and_congr_left fun _ => hJ).trans and_assoc)⟩

/-- Services that answer alike lead a program to the same result, and stay related. -/
theorem run_simulates (R : σ → τ → Prop)
    (hserve : ∀ s t q, R s t →
      (serve s q).1 = (serve' t q).1 ∧ R (serve s q).2 (serve' t q).2)
    (p : Client Q A α) {s : σ} {t : τ} (h : R s t) :
    (p.run serve s).1 = (p.run serve' t).1 ∧ R (p.run serve s).2 (p.run serve' t).2 := by
  induction p generalizing s t with
  | done a => exact ⟨rfl, h⟩
  | call q next ih =>
    obtain ⟨hanswer, hstate⟩ := hserve s t q h
    simp only [run, hanswer]
    exact ih (serve' t q).1 hstate

end Client
