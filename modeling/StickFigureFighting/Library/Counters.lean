import StickFigureFighting.Library.Runs

/-!
# Wrapping counters

A counter that is incremented up to `top` and then starts again from 0, and two of them
nested like the columns and the lines of a raster. Both hold residues of the number of
clocks that have passed.
-/

namespace StickFigureFighting.Library

variable {w v n : ℕ}

def wrapTo (top c : BitVec w) : BitVec w := if c = top then 0#w else c + 1#w

/-- The outer counter of a raster moves on when the inner one wraps. -/
def carryTo (top c : BitVec w) (top' c' : BitVec v) : BitVec v := if c = top then wrapTo top' c' else c'

lemma succ_mod_of_lt {k : ℕ} (h : n % (k + 1) < k) : (n + 1) % (k + 1) = n % (k + 1) + 1 := by
  rw [Nat.add_mod, Nat.mod_eq_of_lt (by omega : 1 < k + 1), Nat.mod_eq_of_lt (by omega)]

lemma succ_mod_of_eq {k : ℕ} (h : n % (k + 1) = k) : (n + 1) % (k + 1) = 0 := by
  rw [Nat.add_mod, h, Nat.add_mod_mod, Nat.mod_self]

lemma succ_div_of_lt {k : ℕ} (h : n % (k + 1) < k) : (n + 1) / (k + 1) = n / (k + 1) := by
  rw [Nat.succ_div, if_neg, Nat.add_zero]
  intro hd
  have hz := Nat.mod_eq_zero_of_dvd hd
  rw [succ_mod_of_lt h] at hz
  cases hz

lemma succ_div_of_eq {k : ℕ} (h : n % (k + 1) = k) : (n + 1) / (k + 1) = n / (k + 1) + 1 := by
  rw [Nat.succ_div, if_pos]
  exact Nat.dvd_of_mod_eq_zero (succ_mod_of_eq h)

variable {top c : BitVec w} {top' c' : BitVec v}

lemma mod_lt_top (hc : c.toNat = n % (top.toNat + 1)) (hne : c ≠ top) :
    n % (top.toNat + 1) < top.toNat := by
  have hle : n % (top.toNat + 1) < top.toNat + 1 := Nat.mod_lt n (by omega)
  have hneq : c.toNat ≠ top.toNat := fun h => hne (BitVec.toNat_inj.1 h)
  omega

theorem toNat_wrapTo (hc : c.toNat = n % (top.toNat + 1)) :
    (wrapTo top c).toNat = (n + 1) % (top.toNat + 1) := by
  unfold wrapTo
  split
  · rename_i heq
    rw [heq] at hc
    rw [succ_mod_of_eq hc.symm, BitVec.toNat_zero]
  · rename_i hne
    have hlt := mod_lt_top hc hne
    have hw : 0 < w := by
      cases w with
      | zero => exact absurd (BitVec.eq_of_zero_length rfl) hne
      | succ w => omega
    have hone : (1#w).toNat = 1 := BitVec.toNat_one hw
    have hbound := top.isLt
    rw [succ_mod_of_lt hlt, BitVec.toNat_add_of_lt (by omega), hone, hc]

/-- The steps after which a counter is at its top again. -/
def toGo (top c : ℕ) : ℕ := if c = top then top + 1 else top - c

lemma toGo_bounds {top c : ℕ} (hc : c ≤ top) : 1 ≤ toGo top c ∧ toGo top c ≤ top + 1 := by
  unfold toGo
  split <;> omega

lemma toGo_eq_one_iff {top c : ℕ} (htop : 1 ≤ top) (hc : c ≤ top) : toGo top c = 1 ↔ c = top - 1 := by
  unfold toGo
  split <;> omega

lemma toGo_next {top c : ℕ} (hc : c ≤ top) : toGo top (if c = top then 0 else c + 1) =
    if toGo top c = 1 then top + 1 else toGo top c - 1 := by
  unfold toGo
  repeat' split
  all_goals omega

lemma toNat_wrapTo_of_le (hc : c.toNat ≤ top.toNat) :
    (wrapTo top c).toNat = if c.toNat = top.toNat then 0 else c.toNat + 1 := by
  rw [toNat_wrapTo (n := c.toNat) (Nat.mod_eq_of_lt (by omega)).symm]
  split
  · rename_i heq
    rw [heq, Nat.mod_self]
  · rw [Nat.mod_eq_of_lt (by omega)]

theorem toGo_wrapTo (hc : c.toNat ≤ top.toNat) : (wrapTo top c).toNat ≤ top.toNat ∧
    toGo top.toNat (wrapTo top c).toNat =
      if toGo top.toNat c.toNat = 1 then top.toNat + 1 else toGo top.toNat c.toNat - 1 := by
  rw [toNat_wrapTo_of_le hc]
  refine ⟨?_, toGo_next hc⟩
  split <;> omega

/-- A counter in a machine that counts in every step reads the time modulo its period. -/
theorem toNat_trace_counter {σ ε : Type*} {step : σ → ε → σ} {s : σ} (count : σ → BitVec w)
    (top : BitVec w) (hinit : count s = 0#w)
    (hstep : ∀ s e, count (step s e) = wrapTo top (count s)) (input : ℕ → ε) (n : ℕ) :
    (count (trace step s input n)).toNat = n % (top.toNat + 1) := by
  induction n with
  | zero => rw [trace, hinit, BitVec.toNat_zero, Nat.zero_mod]
  | succ n ih =>
    rw [trace, hstep]
    exact toNat_wrapTo ih

theorem toNat_carryTo (hc : c.toNat = n % (top.toNat + 1))
    (hc' : c'.toNat = n / (top.toNat + 1) % (top'.toNat + 1)) :
    (carryTo top c top' c').toNat = (n + 1) / (top.toNat + 1) % (top'.toNat + 1) := by
  unfold carryTo
  split
  · rename_i heq
    rw [heq] at hc
    rw [toNat_wrapTo hc', succ_div_of_eq hc.symm]
  · rename_i hne
    rw [hc', succ_div_of_lt (mod_lt_top hc hne)]

end StickFigureFighting.Library
