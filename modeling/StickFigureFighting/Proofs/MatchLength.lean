import StickFigureFighting.Library.Accounts
import StickFigureFighting.Proofs.AttackWindows
import StickFigureFighting.Proofs.Contact
import StickFigureFighting.Proofs.MatchEnd

/-!
# How many hits a match has, and how long it lasts

Every hit takes at least 4 from a bar and at most 20, which bounds the hits of a match from
both sides. An attack machine opens its window once in 33 or 55 frames and the arbiter
charges a window once, which bounds the time from below.
-/

namespace StickFigureFighting
open Library

instance (h : Hp) (k : Attack) (q : Player) : Decidable (Executes h k q) :=
  inferInstanceAs (Decidable (_ ∧ _ ∧ _))

namespace Game

/-- 1 for the edge of `Clk` at which `hp` charges attack `k` of player `q`. -/
def strikes (k : Attack) (q : Player) (g : Game) (e : Event) : ℕ :=
  if e = .tick ∧ Executes g.clk.hp k q then 1 else 0

def hits (k : Attack) (q : Player) (g : Game) (es : List Event) : ℕ := total step (strikes k q) g es

/-- All hits of a player. -/
def hitsBy (q : Player) (g : Game) (es : List Event) : ℕ :=
  hits .kick q g es + hits .fight q g es + hits .jump q g es

lemma hitsBy_eq_total (q : Player) (g : Game) (es : List Event) : hitsBy q g es =
    total step (fun g e => strikes .kick q g e + strikes .fight q g e + strikes .jump q g e) g es := by
  rw [total_add, total_add]
  rfl

/-! ### What a hit does to a bar -/

/-- How many more hits a bar can take at most. -/
def lives (bar : BitVec 8) : ℕ := if bar = 0#8 then 0 else max 1 ((bar.toNat + 3) / 4 - 1)

lemma damage_bounds (k : Attack) : 4 ≤ k.dodgedDamage.toNat ∧ k.dodgedDamage.toNat ≤ k.damage.toNat ∧
    8 ≤ k.damage.toNat ∧ k.damage.toNat ≤ 20 := by
  cases k <;> decide

lemma takeHit_loss (k : Attack) (dodge : Bool) (bar : BitVec 8) (code : BitVec 2) :
    bar.toNat ≤ (Hp.takeHit k dodge bar code).1.toNat + k.damage.toNat := by
  have hk := damage_bounds k
  unfold Hp.takeHit
  split
  · dsimp only
    bv_omega
  · split
    · dsimp only
      bv_omega
    · dsimp only
      bv_omega

lemma lives_takeHit (k : Attack) (dodge : Bool) {bar : BitVec 8} (code : BitVec 2) (hbar : bar ≠ 0#8) :
    lives (Hp.takeHit k dodge bar code).1 + 1 ≤ lives bar := by
  obtain ⟨hdodged, hle, hdamage, -⟩ := damage_bounds k
  -- a survivor has lost 4 at least, and had more than 8
  have hcases : (Hp.takeHit k dodge bar code).1 = 0#8 ∨
      (Hp.takeHit k dodge bar code).1.toNat + 4 ≤ bar.toNat ∧ 9 ≤ bar.toNat := by
    unfold Hp.takeHit
    split
    · exact Or.inl rfl
    · right
      split
      · dsimp only
        bv_omega
      · dsimp only
        bv_omega
  unfold lives
  rw [if_neg hbar]
  rcases hcases with h | h
  · rw [if_pos h]
    omega
  · split
    · omega
    · omega

variable (g : Game) (e : Event)

/-- One event, seen from the victim: either the opponent executes no attack and the bar stays,
or it executes one. -/
lemma step_struck (he : e ≠ .reset) (v : Player) :
    ((∀ k, strikes k v.other g e = 0) ∧ (g.step e).clk.hp.hpbar v = g.clk.hp.hpbar v) ∨
      ∃ k dodge, (∀ j, strikes j v.other g e = if j = k then 1 else 0) ∧ g.clk.hp.hpbar v ≠ 0#8 ∧
        (g.step e).clk.hp.hpbar v = (Hp.takeHit k dodge (g.clk.hp.hpbar v) 0#2).1 := by
  cases e with
  | reset => exact absurd rfl he
  | frame keycode keycode1 =>
    left
    refine ⟨fun k => if_neg (fun h => by cases h.1), rfl⟩
  | tick =>
    by_cases hk : ∃ k, Executes g.clk.hp k v.other
    · right
      obtain ⟨k, hexec⟩ := hk
      obtain ⟨-, -, hbar⟩ := Hp.step_of_executes (p := hpPorts g.regs g.clk) hexec
      rw [Player.other_other] at hbar
      refine ⟨k, (hpPorts g.regs g.clk).dodge v, ?_, ?_, hbar⟩
      · intro j
        have hiff : Executes g.clk.hp j v.other ↔ j = k := by
          constructor
          · intro hj
            have hs := hj.1.symm.trans hexec.1
            cases hs
            rfl
          · rintro rfl
            exact hexec
        simp only [strikes, true_and, hiff]
      · cases v with
        | one => exact hexec.2.1
        | two => exact hexec.2.2
    · left
      push Not at hk
      refine ⟨fun k => if_neg (fun h => hk k h.2), ?_⟩
      by_cases hother : ∃ k, Executes g.clk.hp k v
      · obtain ⟨k, hexec⟩ := hother
        exact (Hp.step_of_executes hexec).2.1
      · apply Hp.step_hpbar
        intro k q hexec
        rcases Player.eq_or_eq_other q v with rfl | rfl
        · exact hother ⟨k, hexec⟩
        · exact hk k hexec

lemma struck_pays (he : e ≠ .reset) (v : Player) :
    (200 - ((g.step e).clk.hp.hpbar v).toNat ≤
      200 - (g.clk.hp.hpbar v).toNat + (14 * strikes .kick v.other g e +
      8 * strikes .fight v.other g e + 20 * strikes .jump v.other g e)) ∧
    lives ((g.step e).clk.hp.hpbar v) +
      (strikes .kick v.other g e + strikes .fight v.other g e + strikes .jump v.other g e) ≤
      lives (g.clk.hp.hpbar v) := by
  rcases step_struck g e he v with ⟨hno, hbar⟩ | ⟨k, dodge, hk, hpos, hbar⟩
  · rw [hbar, hno, hno, hno]
    omega
  · have hloss := takeHit_loss k dodge (g.clk.hp.hpbar v) 0#2
    have hlives := lives_takeHit k dodge 0#2 hpos
    rw [hbar, hk, hk, hk]
    cases k with
    | kick =>
      have hd : Attack.kick.damage.toNat = 14 := rfl
      simp only [if_true, reduceCtorEq, if_false]
      omega
    | fight =>
      have hd : Attack.fight.damage.toNat = 8 := rfl
      simp only [if_true, reduceCtorEq, if_false]
      omega
    | jump =>
      have hd : Attack.jump.damage.toNat = 20 := rfl
      simp only [if_true, reduceCtorEq, if_false]
      omega

end Game

lemma Game.lives_add_hits (g : Game) {es : List Event} (hes : .reset ∉ es) (v : Player) :
    lives ((run step g.reset es).clk.hp.hpbar v) + hitsBy v.other g.reset es ≤ 49 := by
  have hpay := (meets_no_reset g.reset hes).total_le_balance (I := fun _ => True)
    (φ := fun g => lives (g.clk.hp.hpbar v)) (fun _ _ _ _ => trivial)
    (fun g e _ he => (struck_pays g e he v).2) trivial
  rw [← hitsBy_eq_total] at hpay
  have hfull : lives (g.reset.clk.hp.hpbar v) = lives 200#8 := by cases v <;> rfl
  rw [hfull, show lives 200#8 = 49 by decide] at hpay
  exact hpay

lemma Game.loss_le_hits (g : Game) {es : List Event} (hes : .reset ∉ es) (v : Player) :
    200 - ((run step g.reset es).clk.hp.hpbar v).toNat ≤ 14 * hits .kick v.other g.reset es +
      8 * hits .fight v.other g.reset es + 20 * hits .jump v.other g.reset es := by
  have hpay := (meets_no_reset g.reset hes).balance_le (I := fun _ => True)
    (φ := fun g => 200 - (g.clk.hp.hpbar v).toNat) (fun _ _ _ _ => trivial)
    (fun g e _ he => (struck_pays g e he v).1) trivial
  rw [total_add, total_add, total_mul, total_mul, total_mul] at hpay
  have hfull : 200 - (g.reset.clk.hp.hpbar v).toNat = 0 := by cases v <;> rfl
  rw [hfull, Nat.zero_add] at hpay
  exact hpay

/-- However a match goes on after `Reset`: what a player has lost is at most what the hits of
the opponent are worth, no player is hit more than 49 times, and there are at most 97 hits. -/
theorem hits_bounded (g : Game) (es : List Event) (hes : .reset ∉ es) :
    (∀ v, 200 - ((run Game.step g.reset es).clk.hp.hpbar v).toNat ≤
      14 * Game.hits .kick v.other g.reset es +
      8 * Game.hits .fight v.other g.reset es + 20 * Game.hits .jump v.other g.reset es) ∧
    (∀ v, Game.hitsBy v g.reset es ≤ 49) ∧
    Game.hitsBy .one g.reset es + Game.hitsBy .two g.reset es ≤ 97 := by
  have hlives := fun v => Game.lives_add_hits g hes v
  refine ⟨fun v => g.loss_le_hits hes v, ?_, ?_⟩
  · intro v
    have h := hlives v.other
    rw [Player.other_other] at h
    omega
  · -- one of the two is left with a life
    have h1 := hlives .one
    have h2 := hlives .two
    have hstanding := (Game.hpInv_run g es).standing
    have halive : ∀ bar : BitVec 8, bar ≠ 0#8 → 1 ≤ Game.lives bar := by
      intro bar hbar
      rw [Game.lives, if_neg hbar]
      omega
    simp only [Player.other, Hp.hpbar] at h1 h2
    rcases hstanding with h | h
    · have hpos := halive _ h
      omega
    · have hpos := halive _ h
      omega

lemma reset_notMem_firstKick : .reset ∉ firstKick := by
  simp only [firstKick, List.mem_append, not_or, reset_notMem_heldShort, not_false_eq_true, true_and]
  simp

lemma firstKick_loss :
    ((run Game.step (Game.powerUp .normal).reset (firstKick ++ [.tick])).clk.hp.hpbar .two).toNat =
      186 := by
  decide +kernel

/-- The hit that takes 14 points accounts for them. -/
theorem hits_bounded_firstKick :
    14 ≤ 14 * Game.hits .kick .one (Game.powerUp .normal).reset (firstKick ++ [.tick]) +
      8 * Game.hits .fight .one (Game.powerUp .normal).reset (firstKick ++ [.tick]) +
      20 * Game.hits .jump .one (Game.powerUp .normal).reset (firstKick ++ [.tick]) := by
  have hno : .reset ∉ firstKick ++ [.tick] := by simp [reset_notMem_firstKick]
  have hloss := (hits_bounded (Game.powerUp .normal) (firstKick ++ [.tick]) hno).1 .two
  rw [firstKick_loss, show Player.two.other = .one from rfl] at hloss
  omega

/-! ### One window, one hit -/

def Attack.length : Attack → ℕ
  | .kick | .fight => 2
  | .jump => 4

namespace Animation

def stage (m : Animation) : Attack → ℕ
  | .kick => m.kick.stage
  | .fight => m.fight.stage
  | .jump => m.jump.stage

def phase (m : Animation) : Attack → BitVec 5
  | .kick => m.kick.counter
  | .fight => m.fight.counter
  | .jump => m.jump.counter

variable (m : Animation) (a : Actions) (k : Attack)

lemma stage_step : ∃ stop request, (m.step a).stage k =
    Paced.nextStage k.length (m.phase k = 9#5) stop request (m.stage k) := by
  cases k with
  | kick => exact ⟨_, _, m.kick.stage_step a.kick⟩
  | fight => exact ⟨_, _, m.fight.stage_step a.fight⟩
  | jump => exact ⟨_, _, m.jump.stage_step a.jump⟩

lemma phase_step : (m.step a).phase k = nextCounter (m.phase k) := by
  cases k <;> rfl

lemma stage_le : m.stage k ≤ k.length + 1 := by
  cases k with
  | kick => cases h : m.kick.state <;> simp [stage, Strike.stage, Attack.length, h]
  | fight => cases h : m.fight.state <;> simp [stage, Strike.stage, Attack.length, h]
  | jump => cases h : m.jump.state <;> simp [stage, Jump.stage, Attack.length, h]

end Animation

def FrameRegs.animation (f : FrameRegs) : Player → Animation
  | .one => f.anim1
  | .two => f.anim2

lemma hpPorts_attack_iff (f : FrameRegs) (c : ClkRegs) (k : Attack) (q : Player) :
    (hpPorts f c).attack k q ↔ (f.animation q).stage k = k.length := by
  cases k with
  | kick => cases q <;> exact Strike.valid_iff _
  | fight => cases q <;> exact Strike.valid_iff _
  | jump => cases q <;> exact Jump.valid_iff _

lemma nine_iff_toGo {c : BitVec 5} (hc : c.toNat ≤ 10) :
    decide (c = 9#5) = decide (toGo 10 c.toNat = 1) := by
  rw [decide_eq_decide, ← BitVec.toNat_inj, toGo_eq_one_iff (by omega) hc]
  rfl

namespace Game

/-- The counters of all machines are in their range, as they are from power-up on. -/
def Counting (g : Game) : Prop := ∀ q k, ((g.regs.animation q).phase k).toNat ≤ 10

lemma animation_frame (g : Game) (keycode keycode1 : BitVec 16) (q : Player) :
    ∃ a, (g.frame keycode keycode1).regs.animation q = (g.regs.animation q).step a := by
  cases q <;> exact ⟨_, rfl⟩

lemma Counting.frame {g : Game} (h : g.Counting) (keycode keycode1 : BitVec 16) :
    (g.frame keycode keycode1).Counting := by
  intro q k
  obtain ⟨a, ha⟩ := g.animation_frame keycode keycode1 q
  rw [ha, Animation.phase_step]
  exact (toGo_wrapTo (h q k)).1

lemma Counting.reset {g : Game} (h : g.Counting) : g.reset.Counting := by
  rintro (_ | _) k
  · exact h .one k
  · exact h .two k

lemma Counting.step {g : Game} (h : g.Counting) (e : Event) : (g.step e).Counting := by
  cases e with
  | tick => exact h
  | frame keycode keycode1 => exact h.frame keycode keycode1
  | reset => exact h.reset

lemma Reachable.counting {g : Game} (hg : g.Reachable) : g.Counting := by
  refine hg.induction ?_ (fun g e h => h.step e)
  rintro s (_ | _) (_ | _ | _) <;> exact Nat.zero_le 10

variable (k : Attack) (q : Player) (g : Game)

/-- The present window of the attack can still be charged, or is about to be. -/
def Chargeable : Prop :=
  g.clk.hp.state = .S k q ∨ (hpPorts g.regs g.clk).attack k q ∧ g.clk.hp.state ≠ .is k q

instance : Decidable (Chargeable k q g) := inferInstanceAs (Decidable (_ ∨ _))

/-- Once a window has been charged, the arbiter waits until it is over. -/
lemma Chargeable.of_tick {k q g} (h : Chargeable k q g.tick) :
    Chargeable k q g ∧ ¬Executes g.clk.hp k q := by
  change (g.clk.hp.step (hpPorts g.regs g.clk)).state = .S k q ∨
    (hpPorts g.regs g.clk).attack k q ∧ (g.clk.hp.step (hpPorts g.regs g.clk)).state ≠ .is k q at h
  unfold Chargeable
  generalize hpPorts g.regs g.clk = p at h ⊢
  by_cases h2 : g.clk.hp.hpbar2 = 0#8
  · rw [Hp.step_of_hpbar2_zero h2] at h
    exact ⟨h, fun hexec => hexec.2.2 h2⟩
  by_cases h1 : g.clk.hp.hpbar1 = 0#8
  · rw [Hp.step_of_hpbar1_zero h2 h1] at h
    exact ⟨h, fun hexec => hexec.2.1 h1⟩
  rw [Hp.step_state h1 h2, Hp.nextState] at h
  cases hs : g.clk.hp.state with
  | S k' q' =>
    simp only [hs, reduceCtorEq, false_or] at h
    refine ⟨Or.inr ⟨h.1, by simp⟩, fun hexec => h.2 ?_⟩
    have heq := hexec.1.symm.trans hs
    rw [HpState.S.injEq] at heq
    rw [heq.1, heq.2]
  | normal =>
    simp only [hs] at h
    have hattack : p.attack k q := h.elim Hp.attack_of_arbitrate (fun h => h.1)
    exact ⟨Or.inr ⟨hattack, by simp⟩, fun hexec => by simp [hexec.1] at hs⟩
  | is k' q' =>
    have hne : ¬(k' = k ∧ q' = q) := by
      rintro ⟨rfl, rfl⟩
      simp only [hs] at h
      by_cases hattack : p.attack k' q'
      · simp [hattack] at h
      · simp [hattack] at h
    simp only [hs] at h
    have hattack : p.attack k q := by
      rcases h with h | h
      · split at h <;> cases h
      · exact h.1
    exact ⟨Or.inr ⟨hattack, by simpa using hne⟩, fun hexec => by simp [hexec.1] at hs⟩

lemma Chargeable.of_frame {k q g} {keycode keycode1 : BitVec 16}
    (h : Chargeable k q (g.frame keycode keycode1)) :
    Chargeable k q g ∨ (g.regs.animation q).stage k ≠ k.length ∧
      ((g.frame keycode keycode1).regs.animation q).stage k = k.length := by
  rcases h with hs | ⟨hattack, hs⟩
  · exact Or.inl (Or.inl hs)
  · by_cases hbefore : (g.regs.animation q).stage k = k.length
    · exact Or.inl (Or.inr ⟨(hpPorts_attack_iff _ _ _ _).2 hbefore, hs⟩)
    · exact Or.inr ⟨hbefore, (hpPorts_attack_iff _ _ _ _).1 hattack⟩

/-- The least distance of two windows is 33 or 55 frames. A hit costs as much, and what is
over of the distance, with the present window, is there to pay for it. -/
def balance : ℕ :=
  Paced.slack 11 k.length (toGo 10 ((g.regs.animation q).phase k).toNat) ((g.regs.animation q).stage k) +
    if Chargeable k q g then 11 * (k.length + 1) else 0

lemma balance_tick : balance k q g.tick + 11 * (k.length + 1) * strikes k q g .tick ≤ balance k q g := by
  have hregs : g.tick.regs = g.regs := rfl
  unfold balance strikes
  simp only [true_and, hregs]
  by_cases hnext : Chargeable k q g.tick
  · obtain ⟨hnow, hno⟩ := hnext.of_tick
    rw [if_pos hnext, if_pos hnow, if_neg hno]
    exact Nat.le_refl _
  · rw [if_neg hnext]
    by_cases hexec : Executes g.clk.hp k q
    · have hnow : Chargeable k q g := Or.inl hexec.1
      rw [if_pos hexec, if_pos hnow]
      omega
    · rw [if_neg hexec]
      omega

lemma balance_frame (hc : g.Counting) (keycode keycode1 : BitVec 16) :
    balance k q (g.frame keycode keycode1) ≤ balance k q g + 1 := by
  obtain ⟨a, ha⟩ := g.animation_frame keycode keycode1 q
  have hlow := (toGo_bounds (hc q k)).1
  have hhigh : toGo 10 ((g.regs.animation q).phase k).toNat ≤ 11 := (toGo_bounds (hc q k)).2
  have hnext : toGo 10 (((g.frame keycode keycode1).regs.animation q).phase k).toNat =
      if toGo 10 ((g.regs.animation q).phase k).toNat = 1 then 11
      else toGo 10 ((g.regs.animation q).phase k).toNat - 1 := by
    rw [ha, Animation.phase_step]
    exact (@toGo_wrapTo _ 10#5 _ (hc q k)).2
  obtain ⟨stop, request, hstage⟩ := (g.regs.animation q).stage_step a k
  have hlen : 1 ≤ k.length := by cases k <;> decide
  have hslack := Paced.slack_nextStage stop request hlen ((g.regs.animation q).stage_le k) hlow hhigh
  have hcharge := @Chargeable.of_frame k q g keycode keycode1
  rw [← nine_iff_toGo (hc q k), ← hstage, ← ha, ← hnext] at hslack
  unfold balance
  by_cases hafter : Chargeable k q (g.frame keycode keycode1)
  · rw [if_pos hafter]
    rcases hcharge hafter with hbefore | hopens
    · rw [if_pos hbefore]
      omega
    · rw [if_pos hopens] at hslack
      omega
  · rw [if_neg hafter]
    omega

end Game

/-- In every run from a state of the machines, the hits of one attack are at least 33 frames
apart, or 55 for the jump attack, on the whole. -/
theorem hits_paced (k : Attack) (q : Player) (g : Game) (hc : g.Counting)
    {es : List Event} (hes : .reset ∉ es) :
    11 * (k.length + 1) * Game.hits k q g es ≤ Game.balance k q g + es.countP Event.isFrame := by
  have hpay : ∀ g e, Game.Counting g → e ≠ .reset → Game.balance k q (g.step e) + 11 * (k.length + 1) *
      Game.strikes k q g e ≤ Game.balance k q g + if e.isFrame then 1 else 0 := by
    intro g e hc he
    cases e with
    | reset => exact absurd rfl he
    | tick => exact Game.balance_tick k q g
    | frame keycode keycode1 =>
      have hstrikes : Game.strikes k q g (.frame keycode keycode1) = 0 := if_neg (fun h => by cases h.1)
      rw [hstrikes]
      exact Game.balance_frame k q g hc keycode keycode1
  have htotal := (Game.meets_no_reset g hes).total_le (fun g e hc _ => hc.step e) hpay hc
  rw [total_mul, total_countP] at htotal
  rw [Game.hits]
  omega

/-- After `Reset`, only a window that is open already can be charged at once. -/
lemma Game.balance_reset (k : Attack) (q : Player) {g : Game} (hc : g.Counting) :
    balance k q g.reset ≤ 11 * (k.length + 1) + 10 := by
  have hlow := (toGo_bounds (hc.reset q k)).1
  unfold balance
  generalize toGo 10 ((g.reset.regs.animation q).phase k).toNat = d at hlow ⊢
  by_cases hcharge : Chargeable k q g.reset
  · have hopen : (g.reset.regs.animation q).stage k = k.length := by
      rcases hcharge with hs | ⟨hattack, -⟩
      · cases hs
      · exact (hpPorts_attack_iff _ _ _ _).1 hattack
    rw [if_pos hcharge, hopen, Paced.slack, Paced.turns, if_neg (Nat.lt_irrefl _), if_pos rfl]
    omega
  · rw [if_neg hcharge, Paced.slack]
    omega

/-- A match is not decided before frame 155 after `Reset`, and not with less than ten hits. -/
theorem match_length {g : Game} (hg : g.Reachable) {es : List Event} (hes : .reset ∉ es) (v : Player)
    (hover : (run Game.step g.reset es).clk.hp.hpbar v = 0#8) :
    155 ≤ es.countP Event.isFrame ∧ 10 ≤ Game.hitsBy v.other g.reset es := by
  have hloss := g.loss_le_hits hes v
  rw [hover, BitVec.toNat_zero] at hloss
  have hpaced := fun k => hits_paced k v.other g.reset hg.counting.reset hes
  have hreset := fun k => Game.balance_reset k v.other hg.counting
  have hkick := hpaced .kick
  have hkick' := hreset .kick
  have hfight := hpaced .fight
  have hfight' := hreset .fight
  have hjump := hpaced .jump
  have hjump' := hreset .jump
  simp only [Attack.length, Game.hitsBy] at *
  constructor
  · omega
  · omega

theorem match_length_kickMatch : ∃ es, run Game.step (Game.powerUp .normal).reset es = kickMatch ∧
    155 ≤ es.countP Event.isFrame ∧ 10 ≤ Game.hitsBy .one (Game.powerUp .normal).reset es := by
  obtain ⟨es, hno, -, hrun⟩ := kickMatch_run
  have hover : (run Game.step (Game.powerUp .normal).reset es).clk.hp.hpbar .two = 0#8 := by
    have hwin := kickMatch_won.2.2.1
    rw [hrun] at hwin
    exact (Game.hpInv_run (Game.powerUp .normal) es).p1_imp hwin
  have hlength := match_length (Game.reachable_run .normal []) hno .two hover
  exact ⟨es, hrun.symm, hlength.1, hlength.2⟩

end StickFigureFighting
