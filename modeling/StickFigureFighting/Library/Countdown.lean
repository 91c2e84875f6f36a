import StickFigureFighting.Library.Counters
import Mathlib.Algebra.Order.BigOperators.Group.Finset

/-!
# Machines that count down

A machine has stages to go through, and each stage is timed by a counter that runs freely.
Unless it is asked for something new, the machine comes to rest, and the steps until then
can be read off its stage and the counter of the stage.
-/

namespace StickFigureFighting.Library

/-- `todo` is 0 at rest and 1 in the last stage. The stage `k` is left when its counter, which
runs from 0 to `top k` and round, is one step before its top. -/
structure CountedMachine (σ : Type*) where
  step : Bool → σ → σ
  todo : σ → ℕ
  top : ℕ → ℕ
  count : ℕ → σ → ℕ
  top_pos : ∀ k, 0 < top k
  counts : ∀ request k s, count k s ≤ top k →
    count k (step request s) = if count k s = top k then 0 else count k s + 1
  goes : ∀ s, todo (step false s) = if count (todo s) s + 1 = top (todo s) then todo s - 1 else todo s

namespace CountedMachine

variable {σ : Type*} (M : CountedMachine σ) {s : σ} {n : ℕ}

def InRange (s : σ) : Prop := ∀ k, M.count k s ≤ M.top k

/-- The steps that the last `n` stages take in all. -/
def length (n : ℕ) : ℕ := ∑ k ∈ Finset.range n, (M.top (k + 1) + 1)

/-- The steps until the machine is at rest. -/
def rank (s : σ) : ℕ :=
  match M.todo s with
  | 0 => 0
  | n + 1 => toGo (M.top (n + 1)) (M.count (n + 1) s) + M.length n

variable {M}

lemma rank_of_zero (h : M.todo s = 0) : M.rank s = 0 := by rw [rank, h]

lemma rank_of_succ (h : M.todo s = n + 1) :
    M.rank s = toGo (M.top (n + 1)) (M.count (n + 1) s) + M.length n := by
  rw [rank, h]

lemma length_succ : M.length (n + 1) = M.length n + (M.top (n + 1) + 1) := Finset.sum_range_succ _ n

lemma length_le {m : ℕ} (h : m ≤ n) : M.length m ≤ M.length n :=
  Finset.sum_le_sum_of_subset (Finset.range_mono h)

lemma InRange.step (h : M.InRange s) (request : Bool) : M.InRange (M.step request s) := by
  intro k
  have hk := h k
  rw [M.counts request k s hk]
  split <;> omega

lemma InRange.rank_le (h : M.InRange s) (hn : M.todo s ≤ n) : M.rank s ≤ M.length n := by
  refine le_trans ?_ (length_le hn)
  cases hs : M.todo s with
  | zero => rw [rank_of_zero hs]; exact Nat.zero_le _
  | succ k =>
    have hgo := (toGo_bounds (h (k + 1))).2
    rw [rank_of_succ hs, length_succ]
    omega

lemma InRange.one_le_rank (h : M.InRange s) (hs : M.todo s ≠ 0) : 1 ≤ M.rank s := by
  obtain ⟨k, hk⟩ := Nat.exists_eq_succ_of_ne_zero hs
  have hgo := (toGo_bounds (h (k + 1))).1
  rw [rank_of_succ hk]
  omega

lemma InRange.todo_eq_zero (h : M.InRange s) (hrank : M.rank s = 0) : M.todo s = 0 := by
  by_contra hs
  have hpos := h.one_le_rank hs
  omega

/-- Every step without a request brings the machine nearer to its rest. -/
theorem InRange.rank_step (h : M.InRange s) {request : Bool} (hr : request = false) :
    M.rank (M.step request s) ≤ M.rank s - 1 := by
  subst hr
  have hgoes := M.goes s
  cases hs : M.todo s with
  | zero =>
    rw [hs] at hgoes
    have hrest : M.todo (M.step false s) = 0 := by
      rw [hgoes]
      split <;> rfl
    rw [rank_of_zero hrest]
    exact Nat.zero_le _
  | succ k =>
    have hk := h (k + 1)
    have hgo := toGo_bounds hk
    have hpos := M.top_pos (k + 1)
    rw [hs] at hgoes
    rw [rank_of_succ hs]
    by_cases hlast : M.count (k + 1) s + 1 = M.top (k + 1)
    · -- the next stage lasts no longer than its counter
      rw [if_pos hlast] at hgoes
      have hnext := (h.step false).rank_le hgoes.le
      have hone := (toGo_eq_one_iff hpos hk).2 (by omega)
      rw [Nat.add_sub_cancel] at hnext
      omega
    · rw [if_neg hlast] at hgoes
      have hmore : toGo (M.top (k + 1)) (M.count (k + 1) s) ≠ 1 := by
        rw [Ne, toGo_eq_one_iff hpos hk]
        omega
      rw [rank_of_succ hgoes, M.counts false _ s hk, toGo_next hk, if_neg hmore]
      omega

end CountedMachine

end StickFigureFighting.Library
