import StickFigureFighting.Library.Runs
import Mathlib.Algebra.Order.Monoid.Defs
import Mathlib.Algebra.Ring.Nat
import Mathlib.Tactic.Ring

/-!
# Costs along a run

Every step of a run has a cost, and `total` adds them up. The accounting rule bounds what
a run costs by what it earns, with a potential of the state as the balance. A machine that
pays for every step until it is done, and never earns anything, is done in the end.
-/

namespace StickFigureFighting.Library

variable {σ ε μ : Type*}

def total (step : σ → ε → σ) (cost : σ → ε → ℕ) : σ → List ε → ℕ
  | _, [] => 0
  | s, e :: es => cost s e + total step cost (step s e) es

variable {step : σ → ε → σ} {ok : σ → ε → Prop} {cost cost' gain : σ → ε → ℕ} {s : σ} {es : List ε}

@[simp] lemma total_cons (e : ε) :
    total step cost s (e :: es) = cost s e + total step cost (step s e) es := rfl

lemma total_add : total step (fun s e => cost s e + cost' s e) s es =
    total step cost s es + total step cost' s es := by
  induction es generalizing s with
  | nil => rfl
  | cons e es ih =>
    rw [total_cons, total_cons, total_cons, ih]
    ring

@[simp] lemma total_zero : total step (fun _ _ => 0) s es = 0 := by
  induction es generalizing s with
  | nil => rfl
  | cons e es ih => rw [total_cons, ih]

lemma total_mul (k : ℕ) : total step (fun s e => k * cost s e) s es = k * total step cost s es := by
  induction es generalizing s with
  | nil => rfl
  | cons e es ih => rw [total_cons, total_cons, ih, Nat.mul_add]

lemma total_countP (p : ε → Bool) : total step (fun _ e => if p e then 1 else 0) s es = es.countP p := by
  induction es generalizing s with
  | nil => rfl
  | cons e es ih => rw [total_cons, ih, List.countP_cons, Nat.add_comm]

/-- The accounting rule, along an invariant that may read a monitor. -/
theorem Meets.total_le_monitor {watch : μ → ε → μ} {okm : μ → ε → Prop}
    {I : σ → μ → Prop} {φ : σ → ℕ} {m : μ}
    (hstep : ∀ s m e, I s m → ok s e → okm m e → I (step s e) (watch m e))
    (hpay : ∀ s m e, I s m → ok s e → okm m e → φ (step s e) + cost s e ≤ φ s + gain s e)
    (hok : Meets step ok s es) (hm : Meets watch okm m es) (h : I s m) :
    φ (run step s es) + total step cost s es ≤ φ s + total step gain s es := by
  induction es generalizing s m with
  | nil => exact Nat.le_refl _
  | cons e es ih =>
    have hrest := ih hok.2 hm.2 (hstep s m e h hok.1 hm.1)
    have hfirst := hpay s m e h hok.1 hm.1
    simp only [run_cons, total_cons]
    omega

theorem Meets.total_le {I : σ → Prop} {φ : σ → ℕ} (hstep : ∀ s e, I s → ok s e → I (step s e))
    (hpay : ∀ s e, I s → ok s e → φ (step s e) + cost s e ≤ φ s + gain s e)
    (hok : Meets step ok s es) (h : I s) :
    φ (run step s es) + total step cost s es ≤ φ s + total step gain s es := by
  have hm : Meets (fun (_ : Unit) (_ : ε) => ()) (fun _ _ => True) () es :=
    meets_of_forall (fun _ _ => trivial) ()
  exact hok.total_le_monitor (I := fun s _ => I s) (fun s _ e hs ho _ => hstep s e hs ho)
    (fun s _ e hs ho _ => hpay s e hs ho) hm h

/-- Without earnings, a run costs no more than the first balance. -/
theorem Meets.total_le_balance_monitor {watch : μ → ε → μ} {okm : μ → ε → Prop}
    {I : σ → μ → Prop} {φ : σ → ℕ}
    {m : μ} (hstep : ∀ s m e, I s m → ok s e → okm m e → I (step s e) (watch m e))
    (hpay : ∀ s m e, I s m → ok s e → okm m e → φ (step s e) + cost s e ≤ φ s)
    (hok : Meets step ok s es) (hm : Meets watch okm m es) (h : I s m) :
    φ (run step s es) + total step cost s es ≤ φ s := by
  have hpay' : ∀ s m e, I s m → ok s e → okm m e →
      φ (step s e) + cost s e ≤ φ s + (fun _ _ => 0 : σ → ε → ℕ) s e := hpay
  have hle := hok.total_le_monitor hstep hpay' hm h
  rwa [total_zero] at hle

theorem Meets.total_le_balance {I : σ → Prop} {φ : σ → ℕ} (hstep : ∀ s e, I s → ok s e → I (step s e))
    (hpay : ∀ s e, I s → ok s e → φ (step s e) + cost s e ≤ φ s) (hok : Meets step ok s es) (h : I s) :
    φ (run step s es) + total step cost s es ≤ φ s := by
  have hm : Meets (fun (_ : Unit) (_ : ε) => ()) (fun _ _ => True) () es :=
    meets_of_forall (fun _ _ => trivial) ()
  exact hok.total_le_balance_monitor (I := fun s _ => I s) (fun s _ e hs ho _ => hstep s e hs ho)
    (fun s _ e hs ho _ => hpay s e hs ho) hm h

/-- Without costs, the balance is what has been earned. -/
theorem Meets.balance_le {I : σ → Prop} {φ : σ → ℕ} (hstep : ∀ s e, I s → ok s e → I (step s e))
    (hpay : ∀ s e, I s → ok s e → φ (step s e) ≤ φ s + gain s e) (hok : Meets step ok s es) (h : I s) :
    φ (run step s es) ≤ φ s + total step gain s es := by
  have hpay' : ∀ s e, I s → ok s e → φ (step s e) + (fun _ _ => 0 : σ → ε → ℕ) s e ≤
      φ s + gain s e := hpay
  have hle := hok.total_le hstep hpay' h
  rwa [total_zero] at hle

/-- A run that is long enough comes to its end. -/
theorem Meets.eventually {I done : σ → Prop} {φ : σ → ℕ} (hstep : ∀ s e, I s → ok s e → I (step s e))
    (hstable : ∀ s e, I s → ok s e → done s → done (step s e))
    (hpay : ∀ s e, I s → ok s e → ¬done s → ¬done (step s e) → φ (step s e) + cost s e ≤ φ s)
    (hok : Meets step ok s es) (h : I s) (hlong : φ s < total step cost s es) :
    done (run step s es) := by
  induction es generalizing s with
  | nil => exact absurd hlong (Nat.not_lt_zero _)
  | cons e es ih =>
    have hnext := hstep s e h hok.1
    by_cases hdone : done (step s e)
    · have hinv : I (step s e) ∧ done (step s e) := ⟨hnext, hdone⟩
      exact (hok.2.invariant (I := fun s => I s ∧ done s)
        (fun s e hs ho => ⟨hstep s e hs.1 ho, hstable s e hs.1 ho hs.2⟩) hinv).2
    · have hbefore : ¬done s := fun hs => hdone (hstable s e h hok.1 hs)
      have hfirst := hpay s e h hok.1 hbefore hdone
      rw [total_cons] at hlong
      exact ih hok.2 hnext (by omega)

end StickFigureFighting.Library
