import StickFigureFighting.Library.Runs
import Mathlib.Data.Nat.Init
import StickFigureFighting.Model.Hp

/-!
# A match from `Reset` to the knock-out

What one cycle of `hp` can do, the invariant that ties its state, bars, codes and win
flags together, and the rules of a match for every input sequence.
-/

namespace StickFigureFighting
open Library

lemma Player.eq_or_eq_other (q q' : Player) : q = q' ∨ q = q'.other := by
  cases q <;> cases q' <;> simp [Player.other]

/-! ### One cycle -/

namespace Hp

variable {h : Hp} {p : HpPorts}

lemma step_of_hpbar2_zero (h2 : h.hpbar2 = 0#8) : h.step p = { h with p1 := true } := by
  simp [step, h2]

lemma step_of_hpbar1_zero (h2 : h.hpbar2 ≠ 0#8) (h1 : h.hpbar1 = 0#8) :
    h.step p = { h with p2 := true } := by
  simp [step, h1, h2]

lemma step_hit_one {a : Attack} (h1 : h.hpbar1 ≠ 0#8) (h2 : h.hpbar2 ≠ 0#8) (hs : h.state = .S a .one) :
    h.step p = { h with
      state := .is a .one
      hpbar2 := (takeHit a p.dodge2 h.hpbar2 h.back2).1
      back2 := (takeHit a p.dodge2 h.hpbar2 h.back2).2 } := by
  simp [step, nextState, h1, h2, hs]

lemma step_hit_two {a : Attack} (h1 : h.hpbar1 ≠ 0#8) (h2 : h.hpbar2 ≠ 0#8) (hs : h.state = .S a .two) :
    h.step p = { h with
      state := .is a .two
      hpbar1 := (takeHit a p.dodge1 h.hpbar1 h.back1).1
      back1 := (takeHit a p.dodge1 h.hpbar1 h.back1).2 } := by
  simp [step, nextState, h1, h2, hs]

lemma step_normal (h1 : h.hpbar1 ≠ 0#8) (h2 : h.hpbar2 ≠ 0#8) (hs : h.state = .normal) :
    h.step p = { h with state := h.arbitrate p, back1 := 0#2, back2 := 0#2 } := by
  simp [step, nextState, h1, h2, hs]

lemma step_is {a : Attack} {q : Player} (h1 : h.hpbar1 ≠ 0#8) (h2 : h.hpbar2 ≠ 0#8)
    (hs : h.state = .is a q) :
    h.step p = { h with state := if p.attack a q then .is a q else .normal } := by
  simp [step, nextState, h1, h2, hs]

lemma dodgedDamage_pos (a : Attack) : 0#8 < a.dodgedDamage := by cases a <;> decide

lemma dodgedDamage_le (a : Attack) : a.dodgedDamage ≤ a.damage := by cases a <;> decide

/-- A hit never raises a bar: both subtractions are guarded by the lethal test. -/
lemma takeHit_le (a : Attack) (dodge : Bool) (bar : BitVec 8) (code : BitVec 2) :
    (takeHit a dodge bar code).1 ≤ bar := by
  have hle := dodgedDamage_le a
  unfold takeHit
  split
  · dsimp only
    bv_omega
  · split
    · dsimp only
      bv_omega
    · dsimp only
      bv_omega

/-- A lethal hit leaves the code it found. -/
lemma takeHit_code_of_zero {a : Attack} {dodge : Bool} {bar : BitVec 8} {code : BitVec 2}
    (hz : (takeHit a dodge bar code).1 = 0#8) : (takeHit a dodge bar code).2 = code := by
  have hpos := dodgedDamage_pos a
  have hle := dodgedDamage_le a
  unfold takeHit at hz ⊢
  split
  · rfl
  · rename_i hlt
    exfalso
    rw [if_neg hlt] at hz
    split at hz
    · dsimp only at hz
      bv_omega
    · dsimp only at hz
      bv_omega

end Hp

/-! ### The invariant of a match -/

/-- Holds in every state reached from `Reset`: the codes are clear whenever a hit can still
be taken or a bar is at 0, so a hit sets one code only and a knock-out leaves both clear. -/
structure HpInv (h : Hp) : Prop where
  hpbar1_le : h.hpbar1 ≤ 200#8
  hpbar2_le : h.hpbar2 ≤ 200#8
  standing : h.hpbar1 ≠ 0#8 ∨ h.hpbar2 ≠ 0#8
  p1_imp : h.p1 → h.hpbar2 = 0#8
  p2_imp : h.p2 → h.hpbar1 = 0#8
  one_code : h.back1 = 0#2 ∨ h.back2 = 0#2
  clear_of_hit : ∀ a q, h.state = .S a q → h.back1 = 0#2 ∧ h.back2 = 0#2
  clear_of_zero : h.hpbar1 = 0#8 ∨ h.hpbar2 = 0#8 → h.back1 = 0#2 ∧ h.back2 = 0#2

lemma hpInv_reset : HpInv Hp.reset := by
  constructor <;> simp [Hp.reset]

lemma HpInv.step_hit_one {h : Hp} {p : HpPorts} {a : Attack} (hi : HpInv h)
    (h1 : h.hpbar1 ≠ 0#8) (h2 : h.hpbar2 ≠ 0#8) (hs : h.state = .S a .one) : HpInv (h.step p) := by
  obtain ⟨hc1, hc2⟩ := hi.clear_of_hit a .one hs
  have hle := Hp.takeHit_le a p.dodge2 h.hpbar2 h.back2
  rw [Hp.step_hit_one h1 h2 hs]
  refine ⟨hi.hpbar1_le, BitVec.le_trans hle hi.hpbar2_le, Or.inl h1, ?_, hi.p2_imp, Or.inl hc1, ?_, ?_⟩
  · intro hp
    exact absurd (hi.p1_imp hp) h2
  · intro b q hb
    cases hb
  · rintro (hz | hz)
    · exact absurd hz h1
    · exact ⟨hc1, (Hp.takeHit_code_of_zero hz).trans hc2⟩

lemma HpInv.step_hit_two {h : Hp} {p : HpPorts} {a : Attack} (hi : HpInv h)
    (h1 : h.hpbar1 ≠ 0#8) (h2 : h.hpbar2 ≠ 0#8) (hs : h.state = .S a .two) : HpInv (h.step p) := by
  obtain ⟨hc1, hc2⟩ := hi.clear_of_hit a .two hs
  have hle := Hp.takeHit_le a p.dodge1 h.hpbar1 h.back1
  rw [Hp.step_hit_two h1 h2 hs]
  refine ⟨BitVec.le_trans hle hi.hpbar1_le, hi.hpbar2_le, Or.inr h2, hi.p1_imp, ?_, Or.inr hc2, ?_, ?_⟩
  · intro hp
    exact absurd (hi.p2_imp hp) h1
  · intro b q hb
    cases hb
  · rintro (hz | hz)
    · exact ⟨(Hp.takeHit_code_of_zero hz).trans hc1, hc2⟩
    · exact absurd hz h2

lemma HpInv.step {h : Hp} (p : HpPorts) (hi : HpInv h) : HpInv (h.step p) := by
  by_cases h2 : h.hpbar2 = 0#8
  · rw [Hp.step_of_hpbar2_zero h2]
    exact { hi with p1_imp := fun _ => h2 }
  by_cases h1 : h.hpbar1 = 0#8
  · rw [Hp.step_of_hpbar1_zero h2 h1]
    exact { hi with p2_imp := fun _ => h1 }
  match hs : h.state with
  | .S a .one => exact hi.step_hit_one h1 h2 hs
  | .S a .two => exact hi.step_hit_two h1 h2 hs
  | .normal =>
    rw [Hp.step_normal h1 h2 hs]
    exact { hi with
      one_code := Or.inl rfl
      clear_of_hit := fun _ _ _ => ⟨rfl, rfl⟩
      clear_of_zero := fun _ => ⟨rfl, rfl⟩ }
  | .is a q =>
    rw [Hp.step_is h1 h2 hs]
    refine { hi with clear_of_hit := ?_ }
    intro b r hb
    dsimp only at hb
    split at hb <;> cases hb

/-! ### Bars never rise, and a bar at 0 ends the match -/

lemma Hp.step_bars_le (p : HpPorts) (h : Hp) :
    (h.step p).hpbar1 ≤ h.hpbar1 ∧ (h.step p).hpbar2 ≤ h.hpbar2 := by
  by_cases h2 : h.hpbar2 = 0#8
  · simp [Hp.step_of_hpbar2_zero h2]
  by_cases h1 : h.hpbar1 = 0#8
  · simp [Hp.step_of_hpbar1_zero h2 h1]
  match hs : h.state with
  | .S a .one => simp [Hp.step_hit_one h1 h2 hs, Hp.takeHit_le]
  | .S a .two => simp [Hp.step_hit_two h1 h2 hs, Hp.takeHit_le]
  | .normal => simp [Hp.step_normal h1 h2 hs]
  | .is a q => simp [Hp.step_is h1 h2 hs]

def hpAt (input : ℕ → HpPorts) (t : ℕ) : Hp := trace (fun h p => h.step p) Hp.reset input t

lemma hpAt_succ (input : ℕ → HpPorts) (t : ℕ) : hpAt input (t + 1) = (hpAt input t).step (input t) := rfl

lemma hpInv_hpAt (input : ℕ → HpPorts) (t : ℕ) : HpInv (hpAt input t) :=
  trace_invariant (fun _ p hi => hi.step p) input hpInv_reset t

lemma hpAt_bars_le (input : ℕ → HpPorts) {t n : ℕ} (hn : t ≤ n) :
    (hpAt input n).hpbar1 ≤ (hpAt input t).hpbar1 ∧ (hpAt input n).hpbar2 ≤ (hpAt input t).hpbar2 := by
  induction n, hn using Nat.le_induction with
  | base => simp
  | succ n hn ih =>
    have hstep := Hp.step_bars_le (input n) (hpAt input n)
    exact ⟨BitVec.le_trans hstep.1 ih.1, BitVec.le_trans hstep.2 ih.2⟩

lemma hpAt_of_hpbar2_zero (input : ℕ → HpPorts) {t n : ℕ} (hz : (hpAt input t).hpbar2 = 0#8)
    (hn : t < n) :
    hpAt input n = { hpAt input t with p1 := true } := by
  induction n, hn using Nat.le_induction with
  | base => rw [hpAt_succ, Hp.step_of_hpbar2_zero hz]
  | succ n _ ih =>
    rw [hpAt_succ, ih]
    exact Hp.step_of_hpbar2_zero hz

lemma hpAt_of_hpbar1_zero (input : ℕ → HpPorts) {t n : ℕ} (hz : (hpAt input t).hpbar1 = 0#8)
    (hn : t < n) :
    hpAt input n = { hpAt input t with p2 := true } := by
  have h2 : (hpAt input t).hpbar2 ≠ 0#8 := (hpInv_hpAt input t).standing.resolve_left (absurd hz)
  induction n, hn using Nat.le_induction with
  | base => rw [hpAt_succ, Hp.step_of_hpbar1_zero h2 hz]
  | succ n _ ih =>
    rw [hpAt_succ, ih]
    exact Hp.step_of_hpbar1_zero h2 hz

/-- The rules of a match, for every sequence of attack, valid and dodge inputs: the bars
only fall, at most one reaches 0, the win flags name the survivor, at most one player is
knocked back, and a knock-out freezes the arbiter with both codes clear. -/
theorem hp_match_rules (input : ℕ → HpPorts) (t : ℕ) :
    (hpAt input t).hpbar1 ≤ 200#8 ∧ (hpAt input t).hpbar2 ≤ 200#8 ∧
    (∀ n, t ≤ n → (hpAt input n).hpbar1 ≤ (hpAt input t).hpbar1 ∧
      (hpAt input n).hpbar2 ≤ (hpAt input t).hpbar2) ∧
    ¬((hpAt input t).hpbar1 = 0#8 ∧ (hpAt input t).hpbar2 = 0#8) ∧
    ¬((hpAt input t).p1win ∧ (hpAt input t).p2win) ∧
    ((hpAt input t).p1win → (hpAt input t).hpbar2 = 0#8) ∧
    ((hpAt input t).p2win → (hpAt input t).hpbar1 = 0#8) ∧
    ¬((hpAt input t).back1 ≠ 0#2 ∧ (hpAt input t).back2 ≠ 0#2) ∧
    ((hpAt input t).hpbar2 = 0#8 → (hpAt input t).back1 = 0#2 ∧ (hpAt input t).back2 = 0#2 ∧
      ∀ n, t < n → hpAt input n = { hpAt input t with p1 := true }) ∧
    ((hpAt input t).hpbar1 = 0#8 → (hpAt input t).back1 = 0#2 ∧ (hpAt input t).back2 = 0#2 ∧
      ∀ n, t < n → hpAt input n = { hpAt input t with p2 := true }) := by
  have hi := hpInv_hpAt input t
  refine ⟨hi.hpbar1_le, hi.hpbar2_le, fun n hn => hpAt_bars_le input hn, ?_, ?_, hi.p1_imp, hi.p2_imp,
    ?_, ?_, ?_⟩
  · rintro ⟨h1, h2⟩
    exact hi.standing.elim (absurd h1) (absurd h2)
  · rintro ⟨hp1, hp2⟩
    exact hi.standing.elim (absurd (hi.p2_imp hp2)) (absurd (hi.p1_imp hp1))
  · rintro ⟨h1, h2⟩
    exact hi.one_code.elim h1 h2
  · intro hz
    obtain ⟨hc1, hc2⟩ := hi.clear_of_zero (Or.inr hz)
    exact ⟨hc1, hc2, fun n hn => hpAt_of_hpbar2_zero input hz hn⟩
  · intro hz
    obtain ⟨hc1, hc2⟩ := hi.clear_of_zero (Or.inl hz)
    exact ⟨hc1, hc2, fun n hn => hpAt_of_hpbar1_zero input hz hn⟩

end StickFigureFighting
