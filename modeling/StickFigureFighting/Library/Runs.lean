import Mathlib.Data.Nat.Notation
import Mathlib.Tactic.Lemma
import Mathlib.Tactic.TypeStar

/-!
# Runs of deterministic machines

A machine is a step function `σ → ε → σ`. This file gives the state after a finite
sequence of events, runs whose events meet a side condition, and the induction rules
that carry an invariant along them.
-/

namespace StickFigureFighting.Library

variable {σ ε μ : Type*}

def run (step : σ → ε → σ) (s : σ) (es : List ε) : σ := es.foldl step s

/-- Every event satisfies `ok` in the state in which it is taken. -/
def Meets (step : σ → ε → σ) (ok : σ → ε → Prop) : σ → List ε → Prop
  | _, [] => True
  | s, e :: es => ok s e ∧ Meets step ok (step s e) es

def Reachable (init : σ → Prop) (step : σ → ε → σ) (s : σ) : Prop :=
  ∃ s₀ es, init s₀ ∧ run step s₀ es = s

def trace (step : σ → ε → σ) (s : σ) (input : ℕ → ε) : ℕ → σ
  | 0 => s
  | n + 1 => step (trace step s input n) (input n)

/-- The states a run passes through, each with the event taken in it. -/
def visits (step : σ → ε → σ) : σ → List ε → List (σ × ε)
  | _, [] => []
  | s, e :: es => (s, e) :: visits step (step s e) es

variable {step : σ → ε → σ} {ok : σ → ε → Prop} {s : σ} {es fs : List ε}

@[simp] lemma run_nil : run step s [] = s := rfl

@[simp] lemma run_cons (e : ε) : run step s (e :: es) = run step (step s e) es := rfl

@[simp] lemma run_append : run step s (es ++ fs) = run step (run step s es) fs :=
  List.foldl_append

@[simp] lemma visits_nil : visits step s [] = [] := rfl

@[simp] lemma visits_cons (e : ε) : visits step s (e :: es) = (s, e) :: visits step (step s e) es := rfl

@[simp] lemma visits_append :
    visits step s (es ++ fs) = visits step s es ++ visits step (run step s es) fs := by
  induction es generalizing s with
  | nil => rfl
  | cons e es ih => simp [ih]

/-- A visit splits the run: what follows it is the run from the next state. -/
lemma visits_eq_append_cons {pre post : List (σ × ε)} {x : σ × ε}
    (h : visits step s es = pre ++ x :: post) :
    ∃ es₁ es₂, es = es₁ ++ x.2 :: es₂ ∧ x.1 = run step s es₁ ∧
    post = visits step (step x.1 x.2) es₂ := by
  induction es generalizing s pre with
  | nil =>
    rw [visits_nil] at h
    exact absurd h.symm (by simp)
  | cons e es ih =>
    cases pre with
    | nil =>
      rw [visits_cons, List.nil_append, List.cons.injEq] at h
      obtain ⟨rfl, rfl⟩ := h
      exact ⟨[], es, rfl, rfl, rfl⟩
    | cons y pre =>
      rw [visits_cons, List.cons_append, List.cons.injEq] at h
      obtain ⟨es₁, es₂, hes, hx, hpost⟩ := ih h.2
      exact ⟨e :: es₁, es₂, by rw [hes, List.cons_append], hx, hpost⟩

@[simp] lemma meets_nil : Meets step ok s [] := trivial

@[simp] lemma meets_cons (e : ε) :
    Meets step ok s (e :: es) ↔ ok s e ∧ Meets step ok (step s e) es := Iff.rfl

lemma meets_append : Meets step ok s (es ++ fs) ↔
    Meets step ok s es ∧ Meets step ok (run step s es) fs := by
  induction es generalizing s with
  | nil => simp
  | cons e es ih => simp [ih, and_assoc]

theorem run_invariant {I : σ → Prop} (hstep : ∀ s e, I s → I (step s e)) (es : List ε) (h : I s) :
    I (run step s es) := by
  induction es generalizing s with
  | nil => exact h
  | cons e es ih => exact ih (hstep s e h)

theorem Meets.invariant {I : σ → Prop} (hstep : ∀ s e, I s → ok s e → I (step s e))
    (hok : Meets step ok s es) (h : I s) : I (run step s es) := by
  induction es generalizing s with
  | nil => exact h
  | cons e es ih => exact ih hok.2 (hstep s e h hok.1)

/-- The rule for an invariant that also reads a monitor, an automaton that watches the
events and has a side condition of its own. -/
theorem Meets.invariant_monitor {watch : μ → ε → μ} {okm : μ → ε → Prop} {I : σ → μ → Prop} {m : μ}
    (hstep : ∀ s m e, I s m → ok s e → okm m e → I (step s e) (watch m e))
    (hok : Meets step ok s es) (hm : Meets watch okm m es) (h : I s m) :
    I (run step s es) (run watch m es) := by
  induction es generalizing s m with
  | nil => exact h
  | cons e es ih => exact ih hok.2 hm.2 (hstep s m e h hok.1 hm.1)

lemma meets_of_forall {p : ε → Prop} (h : ∀ e ∈ es, p e) (s : σ) : Meets step (fun _ e => p e) s es := by
  induction es generalizing s with
  | nil => trivial
  | cons e es ih =>
    exact ⟨h e List.mem_cons_self, ih (fun e he => h e (List.mem_cons_of_mem _ he)) (step s e)⟩

lemma Meets.and {ok' : σ → ε → Prop} (h : Meets step ok s es) (h' : Meets step ok' s es) :
    Meets step (fun s e => ok s e ∧ ok' s e) s es := by
  induction es generalizing s with
  | nil => trivial
  | cons e es ih => exact ⟨⟨h.1, h'.1⟩, ih h.2 h'.2⟩

/-- Along an invariant of the first side condition, it may be traded for a second one. -/
theorem Meets.mono {ok' : σ → ε → Prop} {I : σ → Prop} (hstep : ∀ s e, I s → ok s e → I (step s e))
    (himp : ∀ s e, I s → ok s e → ok' s e) (hok : Meets step ok s es) (h : I s) :
    Meets step ok' s es := by
  induction es generalizing s with
  | nil => trivial
  | cons e es ih => exact ⟨himp s e h hok.1, ih hok.2 (hstep s e h hok.1)⟩

theorem Reachable.invariant {init I : σ → Prop} (hinit : ∀ s, init s → I s)
    (hstep : ∀ s e, I s → I (step s e)) (h : Reachable init step s) : I s := by
  obtain ⟨s₀, es, h₀, rfl⟩ := h
  exact run_invariant hstep es (hinit s₀ h₀)

/-- Whether a run meets a decidable side condition can be computed. -/
instance Meets.decidable [∀ s e, Decidable (ok s e)] :
    (s : σ) → (es : List ε) → Decidable (Meets step ok s es)
  | _, [] => isTrue trivial
  | s, e :: es =>
    have := Meets.decidable (step s e) es
    inferInstanceAs (Decidable (ok s e ∧ Meets step ok (step s e) es))

theorem trace_invariant {I : σ → Prop} (hstep : ∀ s e, I s → I (step s e)) (input : ℕ → ε) (h : I s)
    (n : ℕ) : I (trace step s input n) := by
  induction n with
  | zero => exact h
  | succ n ih => exact hstep _ _ ih

/-- The first step may be taken off a trace. -/
lemma trace_step (input : ℕ → ε) (n : ℕ) :
    trace step (step s (input 0)) (fun k => input (k + 1)) n = trace step s input (n + 1) := by
  induction n with
  | zero => rfl
  | succ n ih =>
    rw [trace, ih]
    rfl

/-! ### History variables -/

/-- The machine with a history variable, which reads each event and the state after it. -/
def record (step : σ → ε → σ) (watch : μ → ε → σ → μ) (s : σ × μ) (e : ε) : σ × μ :=
  (step s.1 e, watch s.2 e (step s.1 e))

section Record

variable {watch : μ → ε → σ → μ}

lemma run_record_fst (s : σ × μ) : (run (record step watch) s es).1 = run step s.1 es := by
  induction es generalizing s with
  | nil => rfl
  | cons e es ih => exact ih (record step watch s e)

lemma meets_record (s : σ × μ) :
    Meets (record step watch) (fun s e => ok s.1 e) s es ↔ Meets step ok s.1 es := by
  induction es generalizing s with
  | nil => simp
  | cons e es ih =>
    rw [meets_cons, meets_cons, ih]
    rfl

end Record

end StickFigureFighting.Library
