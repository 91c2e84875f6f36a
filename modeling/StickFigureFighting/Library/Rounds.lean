import StickFigureFighting.Library.Paced

/-!
# Machines that go round

A machine rests in stage 0 until it is started in the phase of its counter. From then on it
goes round the stages 1 to `len`, one period of the counter for each, until it is told to
quit. In the phase itself it moves on rather than quit, except from the last stage.
-/

namespace StickFigureFighting.Library

/-- The stage after a frame, when the counter is in its phase (`go`) or not. -/
def nextRound (len : ℕ) (go start quit : Bool) (s : ℕ) : ℕ :=
  if s = 0 then
    if go && start then 1 else 0
  else if go && decide (s < len) then s + 1
  else if quit then 0
  else if go then 1 else s

structure Rounds (period phase len : ℕ) (start quit : ℕ → Bool) (stage : ℕ → ℕ) : Prop where
  zero : stage 0 = 0
  succ : ∀ n, stage (n + 1) = nextRound len (n % period = phase) (start n) (quit n) (stage n)

namespace Rounds

variable {period phase len : ℕ} {start quit : ℕ → Bool} {stage : ℕ → ℕ}

section

variable (h : Rounds period phase len start quit stage)
include h

lemma idle {n : ℕ} (hno : ∀ j < n, start j = false) : stage n = 0 := by
  induction n with
  | zero => exact h.zero
  | succ n ih =>
    have hn := ih (fun j hj => hno j (by omega))
    rw [h.succ, nextRound, if_pos hn, hno n (by omega), Bool.and_false]
    rfl

lemma rests {n : ℕ} (hn : stage n = 0) (hphase : n % period ≠ phase) : stage (n + 1) = 0 := by
  rw [h.succ, nextRound, if_pos hn, decide_eq_false hphase, Bool.false_and]
  rfl

/-- A machine that stands is started by a request that lasts for one period. -/
theorem starts (hphase : phase < period) {n : ℕ} (hn : stage n = 0)
    (hstart : ∀ j < period, start (n + j)) :
    ∃ e, n ≤ e ∧ e < n + period ∧ e % period = phase ∧ stage e = 0 ∧ stage (e + 1) = 1 := by
  obtain ⟨i, hi, hp⟩ := Paced.exists_lt_mod_eq hphase n
  -- until then the phase does not come up
  have hwait : ∀ j ≤ i, stage (n + j) = 0 := by
    intro j hj
    induction j with
    | zero => exact hn
    | succ j ih =>
      apply h.rests (ih (by omega))
      intro hp'
      have hdvd := (Paced.phase_iff (k := i - j) hp').1 (by rw [← hp]; congr 1; omega)
      exact Nat.not_dvd_of_pos_of_lt (by omega) (by omega) hdvd
  have he := hwait i (Nat.le_refl i)
  refine ⟨n + i, Nat.le_add_right n i, by omega, hp, he, ?_⟩
  rw [h.succ, nextRound, if_pos he, hstart i hi, hp]
  simp

/-- Where the machine is, as long as it is not told to quit. -/
theorem cycle (hlen : 0 < len) {e : ℕ} (hphase : e % period = phase) (he : stage (e + 1) = 1) {i : ℕ}
    (hquit : ∀ j < i, quit (e + 1 + j) = false) : stage (e + 1 + i) = i / period % len + 1 := by
  induction i with
  | zero =>
    rw [Nat.zero_div, Nat.zero_mod]
    exact he
  | succ i ih =>
    have hi := ih (fun j hj => hquit j (by omega))
    have hq := hquit i (Nat.lt_succ_self i)
    have hgo : (e + 1 + i) % period = phase ↔ period ∣ i + 1 := by
      rw [show e + 1 + i = e + (i + 1) by omega]
      exact Paced.phase_iff hphase
    have hlt := Nat.mod_lt (i / period) hlen
    rw [← Nat.add_assoc, h.succ, hi, nextRound, if_neg (Nat.succ_ne_zero _), hq, Nat.succ_div]
    by_cases hd : period ∣ i + 1
    · rw [if_pos hd, decide_eq_true (hgo.2 hd), Nat.add_mod (i / period) 1 len]
      by_cases hlast : i / period % len + 1 < len
      · have hone : 1 % len = 1 := Nat.mod_eq_of_lt (by omega)
        simp [hlast, hone, Nat.mod_eq_of_lt hlast]
      · have hfull : i / period % len + 1 = len := by omega
        have hsum : (i / period % len + 1 % len) % len = 0 := by
          rw [Nat.add_mod_mod, hfull, Nat.mod_self]
        simp [hlast, hsum]
    · rw [if_neg hd, decide_eq_false (fun hp => hd (hgo.1 hp))]
      simp

/-- After two frames in which it is told to quit, the machine stands. -/
theorem quits (hperiod : 2 ≤ period) (hexcl : ∀ n, quit n → start n = false)
    {n : ℕ} (hq : quit n) (hq' : quit (n + 1)) :
    stage (n + 2) = 0 := by
  have hcases : stage (n + 1) = 0 ∨ n % period = phase := by
    by_cases hphase : n % period = phase
    · exact Or.inr hphase
    · left
      rw [h.succ, nextRound, hexcl n hq, hq, decide_eq_false hphase]
      simp
  by_cases h0 : stage (n + 1) = 0
  · rw [h.succ, nextRound, if_pos h0, hexcl _ hq', Bool.and_false]
    rfl
  · -- the phase cannot come up twice in a row
    have hphase : (n + 1) % period ≠ phase := by
      intro hp
      have hdvd := (Paced.phase_iff (k := 1) (hcases.resolve_left h0)).1 hp
      exact absurd (Nat.le_of_dvd Nat.one_pos hdvd) (by omega)
    rw [h.succ, nextRound, if_neg h0, hq', decide_eq_false hphase]
    rfl

end

end Rounds

end StickFigureFighting.Library
