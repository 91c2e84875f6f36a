import StickFigureFighting.Library.Runs
import Mathlib.Logic.Basic

/-!
# Two runs in lockstep

Two machines that take their steps together stay related if each pair of steps keeps the
relation. For one machine fed with two input sequences the relation is equality, and the
runs agree at all times exactly when no pair of inputs tells the states apart.
-/

namespace StickFigureFighting.Library

variable {σ τ ε α : Type*}

/-- Simulation along two traces, the inputs of each step related as they may be. -/
theorem trace_related {φ : Type*} {step : σ → ε → σ} {step' : τ → φ → τ} {R : σ → τ → Prop} {s : σ}
    {t : τ} {input : ℕ → ε} {input' : ℕ → φ} (h : R s t)
    (hstep : ∀ n s t, R s t → R (step s (input n)) (step' t (input' n))) (n : ℕ) :
    R (trace step s input n) (trace step' t input' n) := by
  induction n with
  | zero => exact h
  | succ n ih => exact hstep n _ _ ih

/-- The two runs agree in `obs` after every number of steps. -/
def Agree (step : σ → ε → σ) (obs : σ → α) (s : σ) (es : List (ε × ε)) : Prop :=
  ∀ n, obs (run step s ((es.take n).map Prod.fst)) = obs (run step s ((es.take n).map Prod.snd))

theorem agree_iff_meets {step : σ → ε → σ} {obs : σ → α} {ok : σ → ε × ε → Prop} {es : List (ε × ε)}
    (hobs : ∀ s, ∀ e ∈ es, obs (step s e.1) = obs (step s e.2) → step s e.1 = step s e.2)
    (hok : ∀ s, ∀ e ∈ es, step s e.1 = step s e.2 ↔ ok s e) (s : σ) :
    Agree step obs s es ↔ Meets (fun s e => step s e.1) ok s es := by
  induction es generalizing s with
  | nil => simp [Agree]
  | cons e es ih =>
    have ih' := ih (fun s e he => hobs s e (List.mem_cons_of_mem _ he))
      (fun s e he => hok s e (List.mem_cons_of_mem _ he)) (step s e.1)
    have hmem : e ∈ e :: es := List.mem_cons_self
    rw [meets_cons, ← ih']
    constructor
    · intro h
      have heq := hobs s e hmem (h 1)
      refine ⟨(hok s e hmem).1 heq, ?_⟩
      intro n
      have hn := h (n + 1)
      simp only [List.take_succ_cons, List.map_cons, run_cons, ← heq] at hn
      exact hn
    · rintro ⟨he, h⟩ n
      have heq := (hok s e hmem).2 he
      cases n with
      | zero => rfl
      | succ n =>
        simp only [List.take_succ_cons, List.map_cons, run_cons, ← heq]
        exact h n

end StickFigureFighting.Library
