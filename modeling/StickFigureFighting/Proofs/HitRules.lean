import StickFigureFighting.Library.Lockstep
import StickFigureFighting.Proofs.HitAccounting

/-!
# The rules of a hit, for both players

The damage branches of `hp` are written out six times. This file shows that exchanging
the players exchanges everything `hp` does, as long as they do not attack in the same
cycle, and compares the damage with the rule that a dodge halves it. The lethal
threshold is tested before the dodge, so the rule fails for the last hit.
-/

namespace StickFigureFighting
open Library

/-! ### Exchanging the players -/

def HpPorts.exchange (p : HpPorts) : HpPorts where
  kick1 := p.kick2
  kick2 := p.kick1
  fight1 := p.fight2
  fight2 := p.fight1
  jump1 := p.jump2
  jump2 := p.jump1
  valid1 := p.valid2
  valid2 := p.valid1
  dodge1 := p.dodge2
  dodge2 := p.dodge1

def HpState.exchange : HpState → HpState
  | .S a q => .S a q.other
  | .normal => .normal
  | .is a q => .is a q.other

def Hp.exchange (h : Hp) : Hp where
  state := h.state.exchange
  hpbar1 := h.hpbar2
  hpbar2 := h.hpbar1
  back1 := h.back2
  back2 := h.back1
  p1 := h.p2
  p2 := h.p1

/-- Some attack of player `q` is qualified. -/
def HpPorts.attacks (p : HpPorts) (q : Player) : Prop := ∃ k, p.qualified k q

section Exchange

variable {p : HpPorts} {h : Hp}

@[simp] lemma HpState.exchange_S (k : Attack) (q : Player) : (S k q).exchange = .S k q.other := rfl

@[simp] lemma HpState.exchange_normal : normal.exchange = .normal := rfl

@[simp] lemma Player.other_other (q : Player) : q.other.other = q := by cases q <;> rfl

@[simp] lemma HpPorts.attack_exchange (k : Attack) (q : Player) :
    p.exchange.attack k q = p.attack k q.other := by cases k <;> cases q <;> rfl

@[simp] lemma HpPorts.qualified_exchange (k : Attack) (q : Player) :
    p.exchange.qualified k q = p.qualified k q.other := by cases k <;> cases q <;> rfl

/-- The chain prefers player 1 in two places, which shows only when both attack. -/
lemma Hp.arbitrate_exchange (hone : ¬(p.attacks .one ∧ p.attacks .two)) :
    h.exchange.arbitrate p.exchange = (h.arbitrate p).exchange := by
  rw [not_and_or] at hone
  unfold arbitrate
  simp only [request_eq, HpPorts.qualified_exchange, Player.other]
  rcases hone with hone | hone
  · have hnone : ∀ k, p.qualified k .one = false :=
      fun k => Bool.eq_false_of_not_eq_true fun hk => hone ⟨k, hk⟩
    simp only [hnone, Bool.false_eq_true, if_false, apply_ite HpState.exchange, HpState.exchange_S,
      HpState.exchange_normal, Player.other]
  · have hnone : ∀ k, p.qualified k .two = false :=
      fun k => Bool.eq_false_of_not_eq_true fun hk => hone ⟨k, hk⟩
    simp only [hnone, Bool.false_eq_true, if_false, apply_ite HpState.exchange, HpState.exchange_S,
      HpState.exchange_normal, Player.other]

/-- The win test of player 1 comes first; no match has both bars at 0. -/
lemma Hp.step_exchange (hone : ¬(p.attacks .one ∧ p.attacks .two))
    (hstand : h.hpbar1 ≠ 0#8 ∨ h.hpbar2 ≠ 0#8) :
    h.exchange.step p.exchange = (h.step p).exchange := by
  by_cases h2 : h.hpbar2 = 0#8
  · have h1 : h.hpbar1 ≠ 0#8 := hstand.resolve_right (absurd h2)
    rw [step_of_hpbar2_zero h2, step_of_hpbar1_zero (h := h.exchange) h1 h2]
    rfl
  by_cases h1 : h.hpbar1 = 0#8
  · rw [step_of_hpbar1_zero h2 h1, step_of_hpbar2_zero (h := h.exchange) h1]
    rfl
  match hs : h.state with
  | .S a .one =>
    have hs' : h.exchange.state = .S a .two := congrArg HpState.exchange hs
    rw [step_hit_one h1 h2 hs, step_hit_two (h := h.exchange) h2 h1 hs']
    rfl
  | .S a .two =>
    have hs' : h.exchange.state = .S a .one := congrArg HpState.exchange hs
    rw [step_hit_two h1 h2 hs, step_hit_one (h := h.exchange) h2 h1 hs']
    rfl
  | .normal =>
    have hs' : h.exchange.state = .normal := congrArg HpState.exchange hs
    rw [step_normal h1 h2 hs, step_normal (h := h.exchange) h2 h1 hs', arbitrate_exchange hone]
    rfl
  | .is a q =>
    have hs' : h.exchange.state = .is a q.other := congrArg HpState.exchange hs
    rw [step_is h1 h2 hs, step_is (h := h.exchange) h2 h1 hs', HpPorts.attack_exchange,
      Player.other_other]
    cases hp : p.attack a q <;> rfl

end Exchange

/-- `hp` treats the players alike: along every input sequence in which they never attack in
the same cycle, exchanging their signals exchanges their registers. -/
theorem hp_exchange (input : ℕ → HpPorts)
    (hone : ∀ t, ¬((input t).attacks .one ∧ (input t).attacks .two)) (t : ℕ) :
    hpAt (fun t => (input t).exchange) t = (hpAt input t).exchange := by
  have hrel : HpInv (hpAt input t) ∧ hpAt (fun t => (input t).exchange) t = (hpAt input t).exchange := by
    apply trace_related (R := fun h h' => HpInv h ∧ h' = h.exchange) ⟨hpInv_reset, rfl⟩
    rintro n h _ ⟨hi, rfl⟩
    exact ⟨hi.step (input n), Hp.step_exchange (hone n) hi.standing⟩
  exact hrel.2

/-- Player 1 stands by an idle opponent and kicks in every third cycle; the opponent dodges
from cycle 39 on. -/
def kickTrain (t : ℕ) : HpPorts :=
  { kick1 := t % 3 == 0, valid1 := true, dodge2 := decide (39 ≤ t)
    kick2 := false, fight1 := false, fight2 := false, jump1 := false, jump2 := false
    valid2 := false, dodge1 := false }

theorem hp_exchange_kickTrain :
    hpAt (fun t => (kickTrain t).exchange) 50 = (hpAt kickTrain 50).exchange := by
  refine hp_exchange kickTrain ?_ 50
  rintro t ⟨-, k, hk⟩
  cases k <;> cases hk

/-! ### What a hit takes -/

def Hp.hpbar (h : Hp) : Player → BitVec 8
  | .one => h.hpbar1
  | .two => h.hpbar2

def HpPorts.dodge (p : HpPorts) : Player → Bool
  | .one => p.dodge1
  | .two => p.dodge2

/-- The rule book: 14, 8 or 20, and half of it against a dodge. -/
def Attack.rule : Attack → Bool → ℕ
  | .kick, dodge => if dodge then 7 else 14
  | .fight, dodge => if dodge then 4 else 8
  | .jump, dodge => if dodge then 10 else 20

/-- `hp` is about to execute attack `k` of player `q`, with no bar at 0. -/
def Executes (h : Hp) (k : Attack) (q : Player) : Prop :=
  h.state = .S k q ∧ h.hpbar1 ≠ 0#8 ∧ h.hpbar2 ≠ 0#8

/-- The cycle takes from the victim of player `q` what attack `k` is worth, if the bar has
as much left, and nothing from `q`. -/
def HalvesHit (p : HpPorts) (h : Hp) (k : Attack) (q : Player) : Prop :=
  ((h.step p).hpbar q.other).toNat =
    (h.hpbar q.other).toNat - min (h.hpbar q.other).toNat (k.rule (p.dodge q.other)) ∧
  (h.step p).hpbar q = h.hpbar q

/-- The victim dodges, and its bar is no higher than the whole damage but outlasts the half. -/
def DodgedAtTheEnd (p : HpPorts) (h : Hp) (k : Attack) (q : Player) : Prop :=
  p.dodge q.other ∧ k.dodgedDamage < h.hpbar q.other ∧ h.hpbar q.other ≤ k.damage

/-- A dodged hit is worth half of it, unless the bar is too low for the whole and would
outlast the half. -/
lemma takeHit_rule_iff (k : Attack) (dodge : Bool) (bar : BitVec 8) (code : BitVec 2) :
    (Hp.takeHit k dodge bar code).1.toNat = bar.toNat - min bar.toNat (k.rule dodge) ↔
      ¬(dodge ∧ k.dodgedDamage < bar ∧ bar ≤ k.damage) := by
  have hle := Hp.dodgedDamage_le k
  cases dodge with
  | false =>
    have hrule : k.rule false = k.damage.toNat := by cases k <;> rfl
    simp only [Hp.takeHit, hrule, Bool.false_eq_true, if_false, false_and, not_false_eq_true, iff_true]
    split <;> bv_omega
  | true =>
    have hrule : k.rule true = k.dodgedDamage.toNat := by cases k <;> rfl
    simp only [Hp.takeHit, hrule, if_true, true_and]
    split <;> bv_omega

lemma halvesHit_iff {p : HpPorts} {h : Hp} {k : Attack} {q : Player} (he : Executes h k q) :
    HalvesHit p h k q ↔ ¬DodgedAtTheEnd p h k q := by
  obtain ⟨hs, h1, h2⟩ := he
  unfold HalvesHit DodgedAtTheEnd
  cases q with
  | one =>
    rw [Hp.step_hit_one h1 h2 hs]
    simp only [Hp.hpbar, Player.other, HpPorts.dodge, and_true]
    exact takeHit_rule_iff k p.dodge2 h.hpbar2 h.back2
  | two =>
    rw [Hp.step_hit_two h1 h2 hs]
    simp only [Hp.hpbar, Player.other, HpPorts.dodge, and_true]
    exact takeHit_rule_iff k p.dodge1 h.hpbar1 h.back1

/-- Along every run from `Reset`, all hits follow the rule exactly if none of them is a
dodged one that finds the bar between the half and the whole damage. -/
theorem hits_halved_iff (input : ℕ → HpPorts) :
    (∀ t k q, Executes (hpAt input t) k q → HalvesHit (input t) (hpAt input t) k q) ↔
      ∀ t k q, Executes (hpAt input t) k q → ¬DodgedAtTheEnd (input t) (hpAt input t) k q := by
  constructor
  · intro h t k q he
    exact (halvesHit_iff he).1 (h t k q he)
  · intro h t k q he
    exact (halvesHit_iff he).2 (h t k q he)

/-- The fifteenth kick finds a bar of 11 and a dodging victim: it takes 11 instead of 7. -/
theorem kickTrain_not_halved :
    Executes (hpAt kickTrain 43) .kick .one ∧ (kickTrain 43).dodge2 ∧
    (hpAt kickTrain 43).hpbar2 = 11#8 ∧ (hpAt kickTrain 44).hpbar2 = 0#8 ∧
    ¬HalvesHit (kickTrain 43) (hpAt kickTrain 43) .kick .one := by
  unfold Executes HalvesHit
  decide +kernel

end StickFigureFighting
