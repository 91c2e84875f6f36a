import StickFigureFighting.Proofs.HpMatch
import Mathlib.Data.Finset.Card
import Mathlib.Order.Interval.Finset.Nat
import Mathlib.Tactic.IntervalCases

/-!
# How often an attack window is counted

An attack window is a maximal interval of cycles in which one attack input is high. The
arbiter takes at most one hit from a window, and exactly one unless the opponent holds
it: a window that lies inside the service of an opponent's hit is lost.
-/

namespace StickFigureFighting
open Library

/-! ### Windows -/

def HpPorts.qualified (p : HpPorts) (k : Attack) (q : Player) : Bool := p.attack k q && p.valid q

/-- `[a, b)` is a maximal interval of cycles in which attack `k` of player `q` is high. -/
structure AttackWindow (input : ℕ → HpPorts) (k : Attack) (q : Player) (a b : ℕ) : Prop where
  high : ∀ t, a ≤ t → t < b → (input t).attack k q
  low_before : ∀ t, t + 1 = a → ¬(input t).attack k q
  low_after : ¬(input b).attack k q

/-- The windows of one player are disjoint and at least two cycles apart. The animation
machines guarantee more: consecutive windows are whole frames apart. -/
structure Separated (input : ℕ → HpPorts) (q : Player) : Prop where
  same : ∀ t k k', (input t).attack k q → (input t).attack k' q → k = k'
  next : ∀ t k k', (input t).attack k q → (input (t + 1)).attack k' q → k = k'
  gap : ∀ t k k', (input t).attack k q → (input (t + 2)).attack k' q → (input (t + 1)).attack k' q

def HpState.serves : HpState → Option Player
  | .S _ q => some q
  | .normal => none
  | .is _ q => some q

/-- Place of an attack in the chain of state `normal`. -/
def priority : Attack → Player → ℕ
  | .kick, .one => 0
  | .fight, .one => 1
  | .kick, .two => 2
  | .fight, .two => 3
  | .jump, .one => 4
  | .jump, .two => 5

/-- In cycle `t` the opponent of `q` is being served, or has a qualified attack that comes
before attack `k` of `q`. -/
def Contended (input : ℕ → HpPorts) (k : Attack) (q : Player) (t : ℕ) : Prop :=
  (hpAt input t).state.serves = some q.other ∨
    ∃ k', (input t).qualified k' q.other ∧ priority k' q.other < priority k q

/-- How often the arbiter enters the hit state of attack `k` of `q` for the cycles `[a, b)`. -/
def hitCount (input : ℕ → HpPorts) (k : Attack) (q : Player) (a b : ℕ) : ℕ :=
  ((Finset.Ico a b).filter (fun t => (hpAt input (t + 1)).state = .S k q)).card

/-! ### Transitions of the arbiter -/

namespace Hp

variable {h : Hp} {p : HpPorts} {k : Attack} {q : Player}

lemma request_eq : h.request p k q = p.qualified k q := by
  simp [request, HpPorts.qualified, BitVec.le_def]

lemma step_state (h1 : h.hpbar1 ≠ 0#8) (h2 : h.hpbar2 ≠ 0#8) : (h.step p).state = h.nextState p := by
  match hs : h.state with
  | .S a .one => rw [step_hit_one h1 h2 hs, nextState, hs]
  | .S a .two => rw [step_hit_two h1 h2 hs, nextState, hs]
  | .normal => rw [step_normal h1 h2 hs, nextState, hs]
  | .is a r => rw [step_is h1 h2 hs, nextState, hs]

lemma arbitrate_ne_is : h.arbitrate p ≠ .is k q := by
  unfold arbitrate
  repeat' split
  all_goals simp

/-- The chain of `normal` picks a qualified attack, and none comes before it. -/
lemma first_of_arbitrate (ha : h.arbitrate p = .S k q) :
    p.qualified k q ∧ ∀ k' q', priority k' q' < priority k q → ¬p.qualified k' q' := by
  unfold arbitrate at ha
  simp only [request_eq] at ha
  repeat' split at ha
  all_goals cases ha
  all_goals
    refine ⟨by assumption, ?_⟩
    intro k' q' hlt
    cases k' <;> cases q' <;> simp_all [priority]

lemma attack_of_arbitrate (ha : h.arbitrate p = .S k q) : p.attack k q := by
  have hq := (first_of_arbitrate ha).1
  simp only [HpPorts.qualified, Bool.and_eq_true] at hq
  exact hq.1

/-- A hit state is entered from `normal` only, by the arbiter. -/
lemma arbitrate_of_nextState_S (hn : h.nextState p = .S k q) :
    h.state = .normal ∧ h.arbitrate p = .S k q := by
  unfold nextState at hn
  split at hn
  · cases hn
  · split at hn <;> cases hn
  · rename_i hs
    exact ⟨hs, hn⟩

lemma eq_of_nextState_S (hn : h.nextState p = .S k q) : h.state = .normal ∧ p.attack k q := by
  obtain ⟨hs, ha⟩ := arbitrate_of_nextState_S hn
  exact ⟨hs, attack_of_arbitrate ha⟩

/-- A wait state follows its own hit state, or itself while the attack stays high. -/
lemma eq_of_nextState_is (hn : h.nextState p = .is k q) :
    h.state = .S k q ∨ h.state = .is k q ∧ p.attack k q := by
  unfold nextState at hn
  split at hn
  · rename_i hs
    cases hn
    exact Or.inl hs
  · split at hn
    · rename_i hs hp
      cases hn
      exact Or.inr ⟨hs, hp⟩
    · cases hn
  · exact absurd hn arbitrate_ne_is

/-- The chain of `normal` picks a qualified attack when none comes before it. -/
lemma arbitrate_of_first (hq : p.qualified k q)
    (hfirst : ∀ k' q', priority k' q' < priority k q → ¬p.qualified k' q') :
    h.arbitrate p = .S k q := by
  unfold arbitrate
  simp only [request_eq]
  have hkick1 := hfirst .kick .one
  have hfight1 := hfirst .fight .one
  have hkick2 := hfirst .kick .two
  have hfight2 := hfirst .fight .two
  have hjump1 := hfirst .jump .one
  cases k <;> cases q <;> simp_all [priority]

end Hp

/-! ### Windows along a run -/

section Windows

variable {input : ℕ → HpPorts} {k : Attack} {q : Player} {a b : ℕ}

def BothStand (input : ℕ → HpPorts) (b : ℕ) : Prop :=
  ∀ t, t ≤ b → (hpAt input t).hpbar1 ≠ 0#8 ∧ (hpAt input t).hpbar2 ≠ 0#8

lemma hpAt_state_succ {t : ℕ} (hb : BothStand input b) (ht : t ≤ b) :
    (hpAt input (t + 1)).state = (hpAt input t).nextState (input t) :=
  Hp.step_state (hb t ht).1 (hb t ht).2

/-- Inside a window of `k` and `q`, the arbiter is in one of the window's own states only if
it entered the hit state inside that window. -/
lemma entered_of_serving (hsep : Separated input q) (hw : AttackWindow input k q a b)
    (hb : BothStand input b) {t : ℕ} (hat : a ≤ t) (htb : t < b)
    (hs : (hpAt input t).state = .S k q ∨ (hpAt input t).state = .is k q) :
    ∃ u, a ≤ u ∧ u < t ∧ (hpAt input (u + 1)).state = .S k q := by
  induction t using Nat.strong_induction_on with
  | _ t ih =>
    rcases t with _ | t
    · rcases hs with hs | hs <;> cases hs
    rcases hs with hs | hs
    · obtain ⟨-, hatt⟩ := Hp.eq_of_nextState_S ((hpAt_state_succ hb (by omega)).symm.trans hs)
      by_cases hta : a ≤ t
      · exact ⟨t, hta, by omega, hs⟩
      · exact absurd hatt (hw.low_before t (by omega))
    · rcases Hp.eq_of_nextState_is ((hpAt_state_succ hb (by omega)).symm.trans hs) with
        hprev | ⟨hprev, hatt⟩
      · by_cases hta : a ≤ t
        · obtain ⟨u, hau, hut, hu⟩ := ih t (by omega) hta (by omega) (Or.inl hprev)
          exact ⟨u, hau, by omega, hu⟩
        · -- The hit was entered two cycles before the window, which the gap excludes.
          exfalso
          rcases t with _ | t
          · cases hprev
          obtain ⟨-, hatt⟩ := Hp.eq_of_nextState_S ((hpAt_state_succ hb (by omega)).symm.trans hprev)
          have hopen := hw.high (t + 2) (by omega) (by omega)
          exact hw.low_before (t + 1) (by omega) (hsep.gap t k k hatt hopen)
      · by_cases hta : a ≤ t
        · obtain ⟨u, hau, hut, hu⟩ := ih t (by omega) hta (by omega) (Or.inr hprev)
          exact ⟨u, hau, by omega, hu⟩
        · exact absurd hatt (hw.low_before t (by omega))

/-- After a hit the arbiter stays in the wait state until the window closes. -/
lemma waiting_after_hit (hw : AttackWindow input k q a b) (hb : BothStand input b) {u t : ℕ}
    (hau : a ≤ u) (hu : (hpAt input (u + 1)).state = .S k q) (hut : u + 1 < t) (htb : t ≤ b) :
    (hpAt input t).state = .is k q := by
  induction t, hut using Nat.le_induction with
  | base => rw [hpAt_state_succ hb (by omega), Hp.nextState, hu]
  | succ t ht ih =>
    have hstate := ih (by omega)
    have hhigh := hw.high t (by omega) (by omega)
    rw [hpAt_state_succ hb (by omega), Hp.nextState, hstate]
    simp [hhigh]

lemma hit_unique (hw : AttackWindow input k q a b) (hb : BothStand input b) {u v : ℕ}
    (hau : a ≤ u) (hav : a ≤ v) (hub : u < b) (hvb : v < b)
    (hu : (hpAt input (u + 1)).state = .S k q) (hv : (hpAt input (v + 1)).state = .S k q) : u = v := by
  by_contra hne
  rcases Nat.lt_or_gt_of_ne hne with hlt | hlt
  · have hwait := waiting_after_hit hw hb hau hu (t := v + 1) (by omega) (by omega)
    rw [hv] at hwait
    cases hwait
  · have hwait := waiting_after_hit hw hb hav hv (t := u + 1) (by omega) (by omega)
    rw [hu] at hwait
    cases hwait

lemma hitCount_le_one (hw : AttackWindow input k q a b) (hb : BothStand input b) :
    hitCount input k q a b ≤ 1 := by
  rw [hitCount, Finset.card_le_one]
  intro u hu v hv
  simp only [Finset.mem_filter, Finset.mem_Ico] at hu hv
  exact hit_unique hw hb hu.1.1 hv.1.1 hu.1.2 hv.1.2 hu.2 hv.2

/-- An uncontended qualified cycle that finds the arbiter in `normal` is taken. -/
lemma hit_of_normal (hsep : Separated input q) (hb : BothStand input b) {t : ℕ} (htb : t ≤ b)
    (hq : (input t).qualified k q) (hfree : ¬Contended input k q t)
    (hs : (hpAt input t).state = .normal) : (hpAt input (t + 1)).state = .S k q := by
  rw [hpAt_state_succ hb htb, Hp.nextState, hs]
  apply Hp.arbitrate_of_first hq
  intro k' q' hlt hq'
  simp only [HpPorts.qualified, Bool.and_eq_true] at hq hq'
  rcases Player.eq_or_eq_other q' q with rfl | rfl
  · rw [hsep.same t k k' hq.1 hq'.1] at hlt
    exact lt_irrefl _ hlt
  · exact hfree (Or.inr ⟨k', by simp [HpPorts.qualified, hq'], hlt⟩)

/-- Two consecutive uncontended cycles with the valid flag high suffice for the hit: one may
be spent on leaving the wait state of the player's previous window. -/
lemma hit_of_uncontended (hsep : Separated input q) (hw : AttackWindow input k q a b)
    (hb : BothStand input b) {t : ℕ} (hat : a ≤ t) (htb : t + 1 < b)
    (hv : (input t).valid q) (hv' : (input (t + 1)).valid q)
    (hfree : ¬Contended input k q t) (hfree' : ¬Contended input k q (t + 1)) :
    ∃ u, a ≤ u ∧ u < b ∧ (hpAt input (u + 1)).state = .S k q := by
  have hatt := hw.high t hat (by omega)
  have hatt' := hw.high (t + 1) (by omega) htb
  have hnotother : ∀ s, (hpAt input t).state = s → s.serves ≠ some q.other := by
    rintro s rfl hs
    exact hfree (Or.inl hs)
  match hs : (hpAt input t).state with
  | .normal =>
    exact ⟨t, hat, by omega, hit_of_normal hsep hb (by omega)
      (by simp [HpPorts.qualified, hatt, hv]) hfree hs⟩
  | .S k' r =>
    have hr : r = q := by
      have hne := hnotother _ hs
      cases r <;> cases q <;> simp_all [HpState.serves, Player.other]
    subst hr
    rcases t with _ | t
    · cases hs
    obtain ⟨-, hprev⟩ := Hp.eq_of_nextState_S ((hpAt_state_succ hb (by omega)).symm.trans hs)
    have hk : k' = k := hsep.next t k' k hprev hatt
    subst hk
    obtain ⟨u, hau, hut, hu⟩ := entered_of_serving hsep hw hb hat (by omega) (Or.inl hs)
    exact ⟨u, hau, by omega, hu⟩
  | .is k' r =>
    have hr : r = q := by
      have hne := hnotother _ hs
      cases r <;> cases q <;> simp_all [HpState.serves, Player.other]
    subst hr
    by_cases hk : k' = k
    · subst hk
      obtain ⟨u, hau, hut, hu⟩ := entered_of_serving hsep hw hb hat (by omega) (Or.inr hs)
      exact ⟨u, hau, by omega, hu⟩
    · have hlow : ¬(input t).attack k' r := fun h => hk (hsep.same t k' k h hatt)
      have hnormal : (hpAt input (t + 1)).state = .normal := by
        rw [hpAt_state_succ hb (by omega), Hp.nextState, hs]
        simp [hlow]
      exact ⟨t + 1, by omega, htb, hit_of_normal hsep hb (by omega)
        (by simp [HpPorts.qualified, hatt', hv']) hfree' hnormal⟩

/-- The arbiter takes a hit only in a cycle with the player's valid flag high in which the
opponent does not hold it. -/
lemma uncontended_of_hit (hb : BothStand input b) {t : ℕ} (htb : t ≤ b)
    (hs : (hpAt input (t + 1)).state = .S k q) : (input t).valid q ∧ ¬Contended input k q t := by
  obtain ⟨hnormal, ha⟩ := Hp.arbitrate_of_nextState_S ((hpAt_state_succ hb htb).symm.trans hs)
  obtain ⟨hq, hfirst⟩ := Hp.first_of_arbitrate ha
  simp only [HpPorts.qualified, Bool.and_eq_true] at hq
  refine ⟨hq.2, ?_⟩
  rintro (hserves | ⟨k', hq', hlt⟩)
  · rw [hnormal] at hserves
    cases hserves
  · exact hfirst k' q.other hlt hq'

lemma hitCount_eq_zero (hb : BothStand input b)
    (hheld : ∀ t, a ≤ t → t < b → (input t).valid q → Contended input k q t) :
    hitCount input k q a b = 0 := by
  rw [hitCount, Finset.card_eq_zero, Finset.filter_eq_empty_iff]
  intro t ht hs
  rw [Finset.mem_Ico] at ht
  obtain ⟨hv, hfree⟩ := uncontended_of_hit hb ht.2.le hs
  exact hfree (hheld t ht.1 ht.2 hv)

end Windows

/-- Every attack window is counted at most once, exactly once if its player's valid flag is
high in two consecutive cycles in which the opponent does not hold the arbiter, and not at
all if the opponent holds it in every cycle with the flag high. -/
theorem hit_per_window (input : ℕ → HpPorts) (k : Attack) (q : Player) (a b : ℕ)
    (hsep : Separated input q) (hw : AttackWindow input k q a b) (hb : BothStand input b) :
    hitCount input k q a b ≤ 1 ∧
    (∀ t, a ≤ t → t + 1 < b → (input t).valid q → (input (t + 1)).valid q →
      ¬Contended input k q t → ¬Contended input k q (t + 1) → hitCount input k q a b = 1) ∧
    ((∀ t, a ≤ t → t < b → (input t).valid q → Contended input k q t) →
      hitCount input k q a b = 0) := by
  have hle := hitCount_le_one hw hb
  refine ⟨hle, ?_, hitCount_eq_zero hb⟩
  intro t hat htb hv hv' hfree hfree'
  obtain ⟨u, hau, hub, hu⟩ := hit_of_uncontended hsep hw hb hat htb hv hv' hfree hfree'
  have hpos : 0 < hitCount input k q a b := by
    rw [hitCount, Finset.card_pos]
    exact ⟨u, by simp [hau, hub, hu]⟩
  omega

/-! ### Two kicks at once -/

/-- Both players' kick windows cover the same four cycles, with both valid flags high. -/
def crossedKicks (t : ℕ) : HpPorts :=
  ⟨t < 4, t < 4, false, false, false, false, true, true, false, false⟩

lemma crossedKicks_attack (t : ℕ) (k : Attack) (q : Player) :
    (crossedKicks t).attack k q ↔ k = .kick ∧ t < 4 := by
  cases k <;> cases q <;> simp [crossedKicks, HpPorts.attack]

lemma crossedKicks_separated (q : Player) : Separated crossedKicks q where
  same := by
    intro t k k' hk hk'
    rw [crossedKicks_attack] at hk hk'
    exact hk.1.trans hk'.1.symm
  next := by
    intro t k k' hk hk'
    rw [crossedKicks_attack] at hk hk'
    exact hk.1.trans hk'.1.symm
  gap := by
    intro t k k' hk hk'
    rw [crossedKicks_attack] at hk hk' ⊢
    exact ⟨hk'.1, by omega⟩

lemma crossedKicks_window (q : Player) : AttackWindow crossedKicks .kick q 0 4 where
  high := fun t _ ht => (crossedKicks_attack t .kick q).mpr ⟨rfl, ht⟩
  low_before := fun t ht => absurd ht (by omega)
  low_after := fun h => absurd ((crossedKicks_attack 4 .kick q).mp h).2 (by omega)

lemma crossedKicks_bothStand : BothStand crossedKicks 4 := by
  unfold BothStand
  decide

theorem crossed_kick_counted : hitCount crossedKicks .kick .one 0 4 = 1 := by
  have hfree : ∀ t, t < 2 → ¬Contended crossedKicks .kick .one t := by
    rintro t ht (hs | ⟨k', -, hlt⟩)
    · interval_cases t <;> cases hs
    · cases hlt
  exact (hit_per_window crossedKicks .kick .one 0 4 (crossedKicks_separated .one)
    (crossedKicks_window .one)
    crossedKicks_bothStand).2.1 0 le_rfl (by omega) rfl rfl (hfree 0 (by omega)) (hfree 1 (by omega))

/-- Player 2's kick, valid in all four cycles, is not counted: the arbiter spends the whole
window on player 1's. -/
theorem crossed_kick_lost :
    Separated crossedKicks .one ∧ Separated crossedKicks .two ∧
    AttackWindow crossedKicks .kick .two 0 4 ∧ BothStand crossedKicks 4 ∧
    (∀ t, t < 4 → (crossedKicks t).valid .two) ∧ hitCount crossedKicks .kick .two 0 4 = 0 :=
  ⟨crossedKicks_separated .one, crossedKicks_separated .two, crossedKicks_window .two,
    crossedKicks_bothStand, fun _ _ => rfl, by decide⟩

end StickFigureFighting
