import Mathlib.Data.Nat.ModEq
import Mathlib.Tactic.TypeStar

/-!
# Actions in stages, paced by free-running counters

A machine rests in stage 0 until a request is there in the right phase of a counter. It
then passes through the stages 1 to `len`, moving on in that phase only, and waits in
stage `len + 1` for the phase of a second counter. Neither counter is ever synchronised
with the requests, but every action lasts the same time.
-/

namespace StickFigureFighting.Library

structure Paced (period phase rest restPhase len : ℕ) (request : ℕ → Prop) (stage : ℕ → ℕ) : Prop where
  zero : stage 0 = 0
  idle : ∀ n, stage n = 0 → (stage (n + 1) = 1 ∧ n % period = phase ∧ request n) ∨ stage (n + 1) = 0
  move : ∀ n, 1 ≤ stage n → stage n ≤ len → n % period = phase → stage (n + 1) = stage n + 1
  stay : ∀ n, 1 ≤ stage n → stage n ≤ len → n % period ≠ phase → stage (n + 1) = stage n
  leave : ∀ n, stage n = len + 1 → n % rest = restPhase → stage (n + 1) = 0
  wait : ∀ n, stage n = len + 1 → n % rest ≠ restPhase → stage (n + 1) = len + 1

/-- A maximal interval on which `v` holds begins at `a`. -/
def Opens (v : ℕ → Prop) (a : ℕ) : Prop := v a ∧ ∀ b, a = b + 1 → ¬v b

def Begins (period phase : ℕ) (stage : ℕ → ℕ) (e : ℕ) : Prop :=
  stage e = 0 ∧ stage (e + 1) = 1 ∧ e % period = phase

namespace Paced

variable {period phase rest restPhase len : ℕ} {request : ℕ → Prop} {stage : ℕ → ℕ}

/-- The stage after a frame, when the counters are (`go`, `stop`) in their phases or not. -/
def nextStage (len : ℕ) (go stop request : Bool) (s : ℕ) : ℕ :=
  if s = 0 then
    if go && request then 1 else 0
  else if s ≤ len then
    if go then s + 1 else s
  else if stop then 0 else s

theorem of_nextStage {request : ℕ → Bool} (hzero : stage 0 = 0)
    (hsucc : ∀ n, stage (n + 1) =
      nextStage len (n % period = phase) (n % rest = restPhase) (request n) (stage n)) :
    Paced period phase rest restPhase len (fun n => request n = true) stage where
  zero := hzero
  idle n h0 := by
    rw [hsucc n, nextStage, if_pos h0]
    by_cases hp : n % period = phase <;> cases hr : request n <;> simp [hp]
  move n h1 hlen hp := by
    rw [hsucc n, nextStage, if_neg (by omega), if_pos hlen]
    simp [hp]
  stay n h1 hlen hp := by
    rw [hsucc n, nextStage, if_neg (by omega), if_pos hlen]
    simp [hp]
  leave n hn hp := by
    rw [hsucc n, nextStage, if_neg (by omega), if_neg (by omega)]
    simp [hp]
  wait n hn hp := by
    rw [hsucc n, nextStage, if_neg (by omega), if_neg (by omega)]
    simp [hp, hn]

lemma stage_le (h : Paced period phase rest restPhase len request stage) (n : ℕ) :
    stage n ≤ len + 1 := by
  induction n with
  | zero => rw [h.zero]; omega
  | succ n ih =>
    rcases Nat.eq_zero_or_pos (stage n) with h0 | hpos
    · rcases h.idle n h0 with ⟨h1, -⟩ | h1 <;> omega
    · by_cases hw : stage n = len + 1
      · by_cases hp : n % rest = restPhase
        · rw [h.leave n hw hp]; omega
        · rw [h.wait n hw hp]
      · by_cases hp : n % period = phase
        · rw [h.move n hpos (by omega) hp]; omega
        · rw [h.stay n hpos (by omega) hp]; omega

lemma phase_iff {e k : ℕ} (he : e % period = phase) : (e + k) % period = phase ↔ period ∣ k := by
  rw [← he]
  exact Nat.add_modEq_left_iff

/-- An action runs through its stages, `period` frames each, and ends in the wait. -/
theorem stage_of_begins (h : Paced period phase rest restPhase len request stage) {e : ℕ}
    (he : Begins period phase stage e) {i : ℕ} (hi : i ≤ period * len) :
    stage (e + 1 + i) = i / period + 1 := by
  induction i with
  | zero => rw [Nat.zero_div]; exact he.2.1
  | succ i ih =>
    have hs := ih (by omega)
    have hlt : i / period < len := Nat.div_lt_of_lt_mul hi
    have hph : (e + 1 + i) % period = phase ↔ period ∣ i + 1 := by
      rw [show e + 1 + i = e + (i + 1) by omega]
      exact phase_iff he.2.2
    have hpos : 1 ≤ stage (e + 1 + i) := hs ▸ Nat.le_add_left 1 _
    have hact : stage (e + 1 + i) ≤ len := hs ▸ hlt
    rw [Nat.succ_div, ← Nat.add_assoc]
    split
    · rename_i hd
      rw [h.move _ hpos hact (hph.2 hd), hs]
    · rename_i hd
      rw [h.stay _ hpos hact (fun hp => hd (hph.1 hp)), hs, Nat.add_zero]

/-- Whenever a stage is active, an action that has begun accounts for it. -/
theorem begins_of_stage (h : Paced period phase rest restPhase len request stage)
    (hper : 0 < period) {n : ℕ} (h1 : 1 ≤ stage n) (hlen : stage n ≤ len) :
    ∃ e i, Begins period phase stage e ∧ i < period * len ∧ n = e + 1 + i := by
  induction n with
  | zero =>
    rw [h.zero] at h1
    cases h1
  | succ n ih =>
    rcases Nat.eq_zero_or_pos (stage n) with h0 | hpos
    · rcases h.idle n h0 with ⟨hs, hp, -⟩ | hs
      · refine ⟨n, 0, ⟨h0, hs, hp⟩, ?_, rfl⟩
        exact Nat.mul_pos hper (by omega)
      · omega
    · by_cases hw : stage n = len + 1
      · by_cases hp : n % rest = restPhase
        · rw [h.leave n hw hp] at h1
          cases h1
        · rw [h.wait n hw hp] at hlen
          omega
      · have hle := h.stage_le n
        obtain ⟨e, i, he, hi, rfl⟩ := ih hpos (by omega)
        refine ⟨e, i + 1, he, ?_, rfl⟩
        by_contra hend
        have hlast : i + 1 = period * len := by omega
        have hstage := h.stage_of_begins he (i := i + 1) hlast.le
        rw [hlast, Nat.mul_div_cancel_left len hper, ← hlast] at hstage
        rw [← Nat.add_assoc] at hstage
        omega

/-- Two actions begin a whole number of periods apart, and the second only after the first
has passed through all its stages and the wait. -/
theorem begins_apart (h : Paced period phase rest restPhase len request stage) {e e' : ℕ}
    (he : Begins period phase stage e) (he' : Begins period phase stage e') (hlt : e < e') :
    period ∣ e' - e ∧ period * (len + 1) ≤ e' - e := by
  obtain ⟨d, rfl⟩ := Nat.exists_eq_add_of_lt hlt
  have hd : period ∣ d + 1 := (phase_iff he.2.2).1 he'.2.2
  rw [show e + d + 1 - e = d + 1 by omega]
  refine ⟨hd, ?_⟩
  have hlong : period * len < d + 1 := by
    by_contra hshort
    have hstage := h.stage_of_begins he (i := d) (by omega)
    rw [show e + 1 + d = e + d + 1 by omega, he'.1] at hstage
    cases hstage
  obtain ⟨k, hk⟩ := hd
  rw [hk] at hlong ⊢
  exact Nat.mul_le_mul_left period (Nat.lt_of_mul_lt_mul_left hlong)

lemma exists_lt_mod_eq {p q : ℕ} (hp : p < q) (n : ℕ) : ∃ i < q, (n + i) % q = p := by
  have hmod := Nat.mod_lt n (by omega : 0 < q)
  have hdiv := Nat.div_add_mod n q
  have hsum : n + (p + (q - n % q)) = p + q * (n / q + 1) := by
    rw [Nat.mul_add, Nat.mul_one]
    omega
  refine ⟨(p + (q - n % q)) % q, Nat.mod_lt _ (by omega), ?_⟩
  rw [Nat.add_mod_mod, hsum, Nat.add_mul_mod_self_left, Nat.mod_eq_of_lt hp]

theorem rests (h : Paced period phase rest restPhase len request stage)
    (hrest : restPhase < rest) {n : ℕ}
    (hn : stage n = len + 1) : ∃ j ≤ rest, stage (n + j) = 0 := by
  by_contra hnever
  have hwait : ∀ i ≤ rest, stage (n + i) = len + 1 := by
    intro i hi
    induction i with
    | zero => exact hn
    | succ i ih =>
      have hs := ih (by omega)
      apply h.wait _ hs
      intro hp
      exact hnever ⟨i + 1, hi, h.leave _ hs hp⟩
  obtain ⟨i, hi, hp⟩ := exists_lt_mod_eq hrest n
  exact hnever ⟨i + 1, hi, h.leave _ (hwait i hi.le) hp⟩

end Paced

/-! ### How far away the next window is -/

namespace Paced

/-- The full turns of the first counter before the last stage can be entered again. -/
def turns (len s : ℕ) : ℕ := if s < len then len - 1 - s else if s = len then len else len - 1

/-- What is already over of the least distance of two windows, when the first counter is in
its phase again in `d` steps. -/
def slack (period len d s : ℕ) : ℕ := period * (len + 1) - (d + period * turns len s)

variable {len s : ℕ} (stop request : Bool)

lemma nextStage_of_not_go (hs : s ≤ len + 1) : nextStage len false stop request s = s ∨
    s = len + 1 ∧ nextStage len false stop request s = 0 := by
  simp only [nextStage, Bool.false_and, Bool.false_eq_true, if_false]
  repeat' split
  all_goals omega

lemma turns_nextStage_of_not_go (hlen : 1 ≤ len) (hs : s ≤ len + 1) :
    turns len (nextStage len false stop request s) = turns len s ∧
      (nextStage len false stop request s = len → s = len) := by
  rcases nextStage_of_not_go stop request hs with h | ⟨rfl, h⟩
  · rw [h]
    exact ⟨rfl, id⟩
  · rw [h, turns, turns, if_pos (by omega), if_neg (by omega), if_neg (by omega)]
    omega

lemma turns_nextStage_of_go (hlen : 1 ≤ len) (hs : s ≤ len + 1) :
    if s ≠ len ∧ nextStage len true stop request s = len then
      turns len s = 0 ∧ turns len (nextStage len true stop request s) = len
    else turns len s ≤ turns len (nextStage len true stop request s) + 1 := by
  simp only [nextStage, turns, Bool.true_and, if_true]
  repeat' split
  all_goals omega

/-- A step adds one to the slack, and a window uses up all of it. -/
theorem slack_nextStage {period d : ℕ} (hlen : 1 ≤ len) (hs : s ≤ len + 1)
    (hd : 1 ≤ d) (hperiod : d ≤ period) :
    slack period len (if d = 1 then period else d - 1) (nextStage len (d = 1) stop request s) +
      (if s ≠ len ∧ nextStage len (d = 1) stop request s = len then period * (len + 1) else 0) ≤
      slack period len d s + 1 := by
  have hfull : period * (len + 1) = period * len + period := Nat.mul_succ period len
  by_cases hgo : d = 1
  · have hturns := turns_nextStage_of_go stop request hlen hs
    simp only [hgo, decide_true, if_true, slack] at hturns ⊢
    by_cases hwin : s ≠ len ∧ nextStage len true stop request s = len
    · rw [if_pos hwin] at hturns ⊢
      rw [hturns.1, hturns.2]
      omega
    · rw [if_neg hwin] at hturns ⊢
      have hmul := Nat.mul_le_mul_left period hturns
      rw [Nat.mul_succ] at hmul
      omega
  · obtain ⟨hturns, hwin⟩ := turns_nextStage_of_not_go stop request hlen hs
    simp only [hgo, decide_false, if_false, slack]
    rw [if_neg (fun h => h.1 (hwin h.2)), hturns]
    omega

end Paced

/-! ### The last stage as a window -/

/-- What the windows of `valid` have in common: their length, the wind-up before each of
them, their distance, and how soon the machine stands again after them. -/
structure RateLimited (length windup gap rest : ℕ) (on valid stand : ℕ → Prop) : Prop where
  window : ∀ a, Opens valid a → (∀ i < length, valid (a + i)) ∧ ¬valid (a + length)
  windup : ∀ a, Opens valid a →
    ∃ s, a = s + 1 + windup ∧ ¬on s ∧ ∀ i < windup, on (s + 1 + i) ∧ ¬valid (s + 1 + i)
  apart : ∀ a b, Opens valid a → Opens valid b → a < b → length ∣ b - a ∧ gap ≤ b - a
  rests : ∀ a, Opens valid a → ∃ j ≤ rest, stand (a + length + j)

namespace Paced

variable {period phase rest restPhase windup : ℕ} {request : ℕ → Prop} {stage : ℕ → ℕ}

lemma opens_last (h : Paced period phase rest restPhase (windup + 1) request stage)
    (hper : 0 < period) {a : ℕ} (ha : Opens (fun n => stage n = windup + 1) a) :
    ∃ e, Begins period phase stage e ∧ a = e + 1 + period * windup := by
  have hstage : stage a = windup + 1 := ha.1
  obtain ⟨e, i, he, hi, rfl⟩ := h.begins_of_stage hper (by omega) hstage.le
  rw [h.stage_of_begins he hi.le] at hstage
  have hle : period * windup ≤ i := by
    rw [← Nat.add_right_cancel hstage]
    exact Nat.mul_div_le i period
  refine ⟨e, he, ?_⟩
  by_contra hne
  -- one frame earlier the stage is the same
  obtain ⟨j, hj⟩ := Nat.exists_eq_add_of_lt (by omega : period * windup < i)
  apply ha.2 (e + 1 + (period * windup + j)) (by omega)
  have hdiv : (period * windup + j) / period = windup := by
    apply Nat.div_eq_of_lt_le
    · rw [Nat.mul_comm]
      exact Nat.le_add_right _ _
    · rw [Nat.mul_comm (windup + 1), Nat.mul_succ]
      rw [Nat.mul_succ] at hi
      omega
  show stage _ = windup + 1
  rw [h.stage_of_begins he (by omega), hdiv]

theorem rateLimited (h : Paced period phase rest restPhase (windup + 1) request stage)
    (hper : 0 < period) (hrest : restPhase < rest) :
    RateLimited period (period * windup) (period * (windup + 2)) rest
      (fun n => 1 ≤ stage n ∧ stage n ≤ windup + 1) (fun n => stage n = windup + 1)
        (fun n => stage n = 0) where
  window a ha := by
    obtain ⟨e, he, rfl⟩ := h.opens_last hper ha
    have hlen : period * (windup + 1) = period * windup + period := Nat.mul_succ period windup
    refine ⟨?_, ?_⟩
    · intro i hi
      rw [Nat.add_assoc, h.stage_of_begins he (by omega), Nat.mul_add_div hper, Nat.div_eq_of_lt hi]
    · rw [Nat.add_assoc, h.stage_of_begins he (by omega), Nat.mul_add_div hper, Nat.div_self hper]
      apply Nat.succ_ne_self
  windup a ha := by
    obtain ⟨e, he, rfl⟩ := h.opens_last hper ha
    refine ⟨e, rfl, ?_, ?_⟩
    · rw [he.1]
      omega
    · intro i hi
      have hlt : i / period < windup := Nat.div_lt_of_lt_mul hi
      have hle : i ≤ period * (windup + 1) :=
        hi.le.trans (Nat.mul_le_mul_left period (Nat.le_succ windup))
      rw [h.stage_of_begins he hle]
      exact ⟨⟨Nat.le_add_left 1 _, Nat.succ_le_succ hlt.le⟩, by simpa using hlt.ne⟩
  apart a b ha hb hlt := by
    obtain ⟨e, he, rfl⟩ := h.opens_last hper ha
    obtain ⟨e', he', rfl⟩ := h.opens_last hper hb
    have hdiff : e' + 1 + period * windup - (e + 1 + period * windup) = e' - e := by omega
    rw [hdiff]
    exact h.begins_apart he he' (by omega)
  rests a ha := by
    obtain ⟨e, he, rfl⟩ := h.opens_last hper ha
    rw [Nat.add_assoc]
    apply h.rests hrest
    rw [← Nat.mul_succ, h.stage_of_begins he le_rfl, Nat.mul_div_cancel_left _ hper]

end Paced

end StickFigureFighting.Library
