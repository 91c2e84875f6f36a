import StickFigureFighting.Library.Runs
import StickFigureFighting.Library.Settling
import Mathlib.Logic.Function.Iterate

/-!
# Machines with a fast and a slow clock

Every edge is an edge of the fast clock, and some are followed by one of the slow clock,
at which the machine reads an input. If the fast clock brings the machine to rest between
two slow edges, the machine is a slow one seen through its resting states: how many fast
edges there are between two slow ones does not matter.
-/

namespace StickFigureFighting.Library

variable {σ ι : Type*}

/-- The state after `n` fast edges. Fast edge `n + 1` is followed by a slow one if `due n`. -/
def twoRate (tick : σ → σ) (frame : ι → σ → σ) (due : ℕ → Prop) [DecidablePred due] (s : σ)
    (input : ℕ → ι) : ℕ → σ
  | 0 => s
  | n + 1 =>
    let t := tick (twoRate tick frame due s input n)
    if due n then frame (input n) t else t

/-- The slow machine, which rests after each of its edges. -/
def restingTrace (tick : σ → σ) (frame : ι → σ → σ) (settle : ℕ) (s : σ) (input : ℕ → ι) : ℕ → σ :=
  trace (fun t i => tick^[settle] (frame i t)) s input

/-- The slow edges are those that follow the fast edges `e 0 + 1`, `e 1 + 1`, and so on, and
there is time to settle between two of them. -/
structure Schedule (due : ℕ → Prop) (settle : ℕ) (e : ℕ → ℕ) : Prop where
  slow : ∀ k, due (e k)
  between : ∀ k n, e k < n → n < e (k + 1) → ¬due n
  room : ∀ k, e k + 1 + settle ≤ e (k + 1)

lemma Schedule.not_due {due : ℕ → Prop} {settle : ℕ} {e : ℕ → ℕ} (h : Schedule due settle e) {k i : ℕ}
    (hi : e k + 1 + i < e (k + 1)) : ¬due (e k + 1 + i) :=
  h.between k _ (by omega) hi

section

variable {tick : σ → σ} {frame : ι → σ → σ} {due : ℕ → Prop} [DecidablePred due] {s : σ} {input : ℕ → ι}

lemma twoRate_of_due {n : ℕ} (h : due n) :
    twoRate tick frame due s input (n + 1) = frame (input n) (tick (twoRate tick frame due s input n)) :=
  if_pos h

lemma twoRate_of_not_due {n : ℕ} (h : ¬due n) :
    twoRate tick frame due s input (n + 1) = tick (twoRate tick frame due s input n) :=
  if_neg h

/-- Between two slow edges the machine is an iterated function. -/
lemma twoRate_add {m j : ℕ} (h : ∀ i < j, ¬due (m + i)) :
    twoRate tick frame due s input (m + j) = tick^[j] (twoRate tick frame due s input m) := by
  induction j with
  | zero => rfl
  | succ j ih =>
    have hlast := h j (Nat.lt_succ_self j)
    rw [← Nat.add_assoc, twoRate_of_not_due hlast, ih (fun i hi => h i (Nat.lt_succ_of_lt hi)),
      Function.iterate_succ_apply']

theorem twoRate_invariant {I : σ → Prop} (htick : ∀ t, I t → I (tick t))
    (hframe : ∀ i t, I t → I (frame i t))
    (hs : I s) (n : ℕ) : I (twoRate tick frame due s input n) := by
  induction n with
  | zero => exact hs
  | succ n ih =>
    by_cases h : due n
    · rw [twoRate_of_due h]
      exact hframe _ _ (htick _ ih)
    · rw [twoRate_of_not_due h]
      exact htick _ ih

variable {settle : ℕ} {e : ℕ → ℕ}

/-- From `settle` fast edges after a slow edge until the next one, the two-rate machine is
in the resting state of the slow machine. -/
theorem Schedule.twoRate_eq_restingTrace (h : Schedule due settle e) {I : σ → Prop}
    (htick : ∀ t, I t → I (tick t)) (hframe : ∀ i t, I t → I (frame i t))
    (hsettles : ∀ t, I t → SettlesIn tick settle t)
    (hs : I s) {k n : ℕ} (hn : e k + 1 + settle ≤ n) (hn' : n ≤ e (k + 1)) :
    twoRate tick frame due s input n =
      restingTrace tick frame settle (tick^[settle] (twoRate tick frame due s input (e 0 + 1)))
        (fun k => input (e (k + 1))) k := by
  have hrest : ∀ k n, e k + 1 + settle ≤ n → n ≤ e (k + 1) → twoRate tick frame due s input n =
      tick^[settle] (twoRate tick frame due s input (e k + 1)) := by
    intro k n hn hn'
    obtain ⟨d, rfl⟩ := Nat.exists_eq_add_of_le hn
    rw [Nat.add_assoc (e k + 1), twoRate_add (fun i hi => h.not_due (by omega))]
    apply (hsettles _ _).iterate_eq (Nat.le_add_right settle d)
    exact twoRate_invariant htick hframe hs _
  induction k generalizing n with
  | zero => exact hrest 0 n hn hn'
  | succ k ih =>
    have hprev := ih (h.room k) (Nat.le_refl _)
    have hinv : I (twoRate tick frame due s input (e k + 1)) := twoRate_invariant htick hframe hs _
    have hset := hsettles _ hinv
    -- the fast edge that comes with the slow one finds the machine at rest
    have hfixed : tick (twoRate tick frame due s input (e (k + 1))) =
        twoRate tick frame due s input (e (k + 1)) := by
      rw [hrest k _ (h.room k) (Nat.le_refl _)]
      exact hset
    rw [hrest (k + 1) n hn hn', twoRate_of_due (h.slow (k + 1)), hfixed, hprev]
    rfl

end

end StickFigureFighting.Library
