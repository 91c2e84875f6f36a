import StickFigureFighting.Library.Paced

/-!
# Actions that can be held

A machine rests in stage 0, begins an action like a paced one and winds up in stage 1. Its
effect is stage 2, which lasts until the phase of a second counter finds no request. After
that it recovers in stage 3 for one period of this counter, whatever is requested.
-/

namespace StickFigureFighting.Library

/-- The stage after a frame, when the counters are (`go`, `stop`) in their phases or not. -/
def nextHeld (go stop request : Bool) (s : ℕ) : ℕ :=
  if s = 0 then
    if go && request then 1 else 0
  else if s = 1 then
    if go then 2 else 1
  else if s = 2 then
    if stop && !request then 3 else 2
  else if stop then 0 else s

structure Held (period phase rest restPhase : ℕ) (request : ℕ → Bool) (stage : ℕ → ℕ) : Prop where
  zero : stage 0 = 0
  succ : ∀ n, stage (n + 1) = nextHeld (n % period = phase) (n % rest = restPhase) (request n) (stage n)

/-- What is seen of it from outside: every window of `valid` has a wind-up of fixed length,
ends in one phase of the second counter with the request, and is followed by a recovery of
fixed length, so that the next window keeps its distance. -/
structure HeldWindows (windup rest restPhase : ℕ) (request : ℕ → Bool)
    (on valid stand : ℕ → Prop) : Prop where
  windsUp : ∀ a, Opens valid a →
    ∃ s, a = s + 1 + windup ∧ request s ∧ stand s ∧ ∀ i < windup, on (s + 1 + i) ∧ ¬valid (s + 1 + i)
  lasts : ∀ a, valid a → ∀ k, (∀ i ≤ k, valid (a + i)) ↔
    ∀ i < k, (a + i) % rest = restPhase → request (a + i)
  recovers : ∀ b, valid b → ¬valid (b + 1) → stand (b + 1 + rest) ∧
    ∀ i < rest, ¬on (b + 1 + i) ∧ ¬stand (b + 1 + i)
  apart : ∀ b a, valid b → ¬valid (b + 1) → b < a → valid a → b + (rest + windup + 2) ≤ a

namespace Held

variable {period phase rest restPhase : ℕ} {request : ℕ → Bool} {stage : ℕ → ℕ}

section Stages

variable (h : Held period phase rest restPhase request stage)
include h

lemma stage_of_stand {n : ℕ} (hn : stage n = 0) :
    stage (n + 1) = if n % period = phase ∧ request n then 1 else 0 := by
  rw [h.succ, nextHeld, if_pos hn]
  simp only [Bool.and_eq_true, decide_eq_true_eq]

lemma stage_of_windup {n : ℕ} (hn : stage n = 1) :
    stage (n + 1) = if n % period = phase then 2 else 1 := by
  rw [h.succ, nextHeld, hn]
  simp only [one_ne_zero, if_false, if_true, decide_eq_true_eq]

lemma stage_of_valid {n : ℕ} (hn : stage n = 2) :
    stage (n + 1) = if n % rest = restPhase ∧ request n = false then 3 else 2 := by
  rw [h.succ, nextHeld, hn]
  simp

lemma stage_of_recovery {n : ℕ} (hn : stage n = 3) :
    stage (n + 1) = if n % rest = restPhase then 0 else 3 := by
  rw [h.succ, nextHeld, hn]
  simp

lemma stage_le (n : ℕ) : stage n ≤ 3 := by
  induction n with
  | zero => rw [h.zero]; omega
  | succ n ih =>
    rw [h.succ]
    unfold nextHeld
    repeat' split
    all_goals omega

/-- A stage that is not stage 0 comes from itself or from the stage before. -/
lemma stage_before {n k : ℕ} (hn : stage (n + 1) = k + 1) : stage n = k ∨ stage n = k + 1 := by
  have hle := h.stage_le n
  rw [h.succ] at hn
  unfold nextHeld at hn
  repeat' split at hn
  all_goals omega

lemma begins_of_windup (hperiod : 0 < period) {n : ℕ} (hn : stage n = 1) :
    ∃ s i, n = s + 1 + i ∧ i < period ∧ stage s = 0 ∧ s % period = phase ∧ request s ∧
      ∀ j ≤ i, stage (s + 1 + j) = 1 := by
  induction n with
  | zero =>
    rw [h.zero] at hn
    cases hn
  | succ n ih =>
    rcases h.stage_before hn with h0 | h1
    · rw [h.stage_of_stand h0] at hn
      have hgo : n % period = phase ∧ request n := by
        by_contra hno
        rw [if_neg hno] at hn
        cases hn
      refine ⟨n, 0, rfl, hperiod, h0, hgo.1, hgo.2, ?_⟩
      intro j hj
      rw [Nat.le_zero.1 hj, Nat.add_zero, h.stage_of_stand h0, if_pos hgo]
    · obtain ⟨s, i, rfl, hi, hs, hphase, hrequest, hwind⟩ := ih h1
      have hnext : (s + 1 + i) % period ≠ phase := by
        intro hp
        rw [h.stage_of_windup h1, if_pos hp] at hn
        cases hn
      have hlt : i + 1 < period := by
        by_contra hge
        apply hnext
        rw [show s + 1 + i = s + period by omega, Nat.add_mod_right, hphase]
      refine ⟨s, i + 1, rfl, hlt, hs, hphase, hrequest, ?_⟩
      intro j hj
      rcases Nat.lt_or_ge j (i + 1) with hlt' | hge
      · exact hwind j (by omega)
      · rw [show j = i + 1 by omega, ← Nat.add_assoc]
        exact hn

lemma begins_of_opens (hperiod : 0 < period) {a : ℕ} (ha : Opens (fun n => stage n = 2) a) :
    ∃ s, a = s + 1 + period ∧ request s ∧ stage s = 0 ∧ ∀ i < period, stage (s + 1 + i) = 1 := by
  obtain ⟨hvalid, hfirst⟩ := ha
  have hpos : a ≠ 0 := by
    rintro rfl
    rw [h.zero] at hvalid
    cases hvalid
  obtain ⟨m, rfl⟩ := Nat.exists_eq_succ_of_ne_zero hpos
  have hm : stage m = 1 := (h.stage_before hvalid).resolve_right (hfirst m rfl)
  have hphase : m % period = phase := by
    by_contra hno
    rw [Nat.succ_eq_add_one, h.stage_of_windup hm, if_neg hno] at hvalid
    cases hvalid
  obtain ⟨s, i, rfl, hi, hs, hphase', hrequest, hwind⟩ := h.begins_of_windup hperiod hm
  -- both ends of the wind-up are in the phase
  have hlast : i + 1 = period := by
    have hdvd := (Paced.phase_iff (k := i + 1) hphase').1 (by rw [← hphase]; congr 1; omega)
    exact Nat.le_antisymm hi (Nat.le_of_dvd (Nat.succ_pos i) hdvd)
  refine ⟨s, by omega, hrequest, hs, ?_⟩
  intro j hj
  exact hwind j (by omega)

lemma leaves {b : ℕ} (hb : stage b = 2) (hb' : stage (b + 1) ≠ 2) :
    b % rest = restPhase ∧ stage (b + 1) = 3 := by
  rw [h.stage_of_valid hb] at hb' ⊢
  by_cases hstop : b % rest = restPhase ∧ request b = false
  · exact ⟨hstop.1, if_pos hstop⟩
  · exact absurd (if_neg hstop) hb'

lemma recovery {b : ℕ} (hphase : b % rest = restPhase) (hb : stage (b + 1) = 3) {i : ℕ} (hi : i < rest) :
    stage (b + 1 + i) = 3 := by
  induction i with
  | zero => exact hb
  | succ i ih =>
    have hnext : (b + 1 + i) % rest ≠ restPhase := by
      intro hp
      have hdvd := (Paced.phase_iff (k := i + 1) hphase).1 (by rw [← hp]; congr 1; omega)
      exact Nat.not_dvd_of_pos_of_lt (Nat.succ_pos i) hi hdvd
    rw [← Nat.add_assoc, h.stage_of_recovery (ih (by omega)), if_neg hnext]

lemma recovered (hrest : 0 < rest) {b : ℕ} (hphase : b % rest = restPhase) (hb : stage (b + 1) = 3) :
    stage (b + 1 + rest) = 0 := by
  obtain ⟨r, rfl⟩ := Nat.exists_eq_succ_of_ne_zero hrest.ne'
  have hlast := h.recovery hphase hb (Nat.lt_succ_self r)
  have hphase' : (b + 1 + r) % r.succ = restPhase := by
    rw [show b + 1 + r = b + r.succ by omega, Nat.add_mod_right, hphase]
  rw [Nat.succ_eq_add_one, ← Nat.add_assoc, h.stage_of_recovery hlast, if_pos hphase']

end Stages

lemma exists_opens {v : ℕ → Prop} {m a : ℕ} (hm : ¬v m) (ha : v a) (hlt : m < a) :
    ∃ a₀, m < a₀ ∧ a₀ ≤ a ∧ Opens v a₀ := by
  induction a with
  | zero => cases hlt
  | succ a ih =>
    by_cases hbefore : v a
    · have hne : m ≠ a := by
        rintro rfl
        exact hm hbefore
      obtain ⟨a₀, hlow, hhigh, hopens⟩ := ih hbefore (by omega)
      exact ⟨a₀, hlow, by omega, hopens⟩
    · refine ⟨a + 1, hlt, Nat.le_refl _, ha, ?_⟩
      intro b hb
      rwa [← Nat.succ.inj hb]

theorem windows (h : Held period phase rest restPhase request stage) (hperiod : 0 < period)
    (hrest : 0 < rest) :
    HeldWindows period rest restPhase request (fun n => 1 ≤ stage n ∧ stage n ≤ 2) (fun n => stage n = 2)
      (fun n => stage n = 0) where
  windsUp a ha := by
    obtain ⟨s, hs, hrequest, hstand, hwind⟩ := h.begins_of_opens hperiod ha
    refine ⟨s, hs, hrequest, hstand, ?_⟩
    intro i hi
    rw [hwind i hi]
    decide
  lasts a ha k := by
    constructor
    · intro hvalid i hi hphase
      by_contra hno
      rw [Bool.not_eq_true] at hno
      have hnext := hvalid (i + 1) hi
      rw [← Nat.add_assoc, h.stage_of_valid (hvalid i hi.le), if_pos ⟨hphase, hno⟩] at hnext
      cases hnext
    · intro hrequest i hi
      induction i with
      | zero => exact ha
      | succ i ih =>
        rw [← Nat.add_assoc, h.stage_of_valid (ih (by omega)), if_neg]
        rintro ⟨hphase, hno⟩
        rw [hrequest i hi hphase] at hno
        cases hno
  recovers b hb hb' := by
    obtain ⟨hphase, hnext⟩ := h.leaves hb hb'
    refine ⟨h.recovered hrest hphase hnext, ?_⟩
    intro i hi
    rw [h.recovery hphase hnext hi]
    decide
  apart b a hb hb' hlt ha := by
    obtain ⟨hphase, hnext⟩ := h.leaves hb hb'
    have hne : b + 1 ≠ a := fun heq => hb' (heq ▸ ha)
    obtain ⟨a₀, hlow, hhigh, hopens⟩ := exists_opens (v := fun n => stage n = 2) hb' ha (by omega)
    obtain ⟨s, rfl, -, hstand, hwind⟩ := h.begins_of_opens hperiod hopens
    -- the next action begins when the recovery is over
    have hlate : b < s := by
      by_contra hle
      rcases Nat.eq_or_lt_of_le (Nat.not_lt.1 hle) with rfl | hlt'
      · rw [hb] at hstand
        cases hstand
      · obtain ⟨i, rfl⟩ := Nat.exists_eq_add_of_le (Nat.succ_le_of_lt hlt')
        rw [Nat.succ_eq_add_one, hwind i (by omega)] at hb
        cases hb
    have hafter : b + 1 + rest ≤ s := by
      by_contra hno
      obtain ⟨i, rfl⟩ := Nat.exists_eq_add_of_le (Nat.succ_le_of_lt hlate)
      rw [Nat.succ_eq_add_one, h.recovery hphase hnext (by omega)] at hstand
      cases hstand
    omega

end Held

end StickFigureFighting.Library
