import StickFigureFighting.Proofs.Passing
import StickFigureFighting.Proofs.Stun

/-!
# Nobody keeps away from `AI`

As long as player 1 is out of its reach, `AI` attacks nothing and walks towards it, five
columns a frame, as soon as its machines let it. What can still hold it up is a hit that
was made before, with its knock-back, and what it had begun itself.
-/

namespace StickFigureFighting
open Library

lemma FrameRegs.player2_of_single {f : FrameRegs} (hmode : f.du = false ∧ f.sin) :
    f.player2 = Player2.ofMover f.ai := by
  simp [FrameRegs.player2, modeChoose, hmode.1, hmode.2]

/-! ### `AI` far from player 1 -/

/-- Out of the reach of its attacks, `AI` only reacts to a hit or walks. -/
lemma AI.branch_of_not_inRange {m : Mover} {p : MoverPorts}
    (hno : ∀ range ≤ 90#10, AI.inRange m p range = false) :
    AI.branch m p =
      if p.p1win || p.p2win then .win
      else if p.backCode = 2#2 then .back2
      else if p.backCode = 1#2 then .back1
      else if p.ballX1 ≤ m.ballXPos && !p.kickOn && !p.fightOn && !p.jumpOn &&
        !p.dodgeOn && p.free then .left
      else if p.ballX1 ≥ m.ballXPos && !p.kickOn && !p.fightOn && !p.jumpOn &&
        !p.dodgeOn && p.free then .right
      else .idle := by
  unfold AI.branch
  rw [hno 60#10 (by decide), hno 70#10 (by decide), hno 80#10 (by decide), hno 90#10 (by decide)]
  simp only [Bool.false_and, Bool.false_eq_true, if_false]

section Far

variable {m : Mover} {p : MoverPorts} (hfar : p.ballX1.toNat + 90 < m.ballXPos.toNat)
include hfar

lemma AI.not_inRange_of_far {range : BitVec 10} (hrange : range ≤ 90#10) :
    AI.inRange m p range = false := by
  simp only [AI.inRange, Bool.or_eq_false_iff, Bool.and_eq_false_iff, decide_eq_false_iff_not]
  constructor
  · left
    left
    bv_omega
  · left
    right
    bv_omega

/-- Without a knock-back code `AI` walks to the left, or waits for its machines. -/
lemma AI.branch_of_far (hwin : p.p1win = false ∧ p.p2win = false) (hcode : p.backCode = 0#2) :
    AI.branch m p = .left ∨
      AI.branch m p = .idle ∧ (p.kickOn || p.fightOn || p.jumpOn || p.dodgeOn || p.backOn) := by
  have hno : ∀ range ≤ 90#10, AI.inRange m p range = false :=
    fun _ hrange => AI.not_inRange_of_far hfar hrange
  have hside : p.ballX1 ≤ m.ballXPos := by bv_omega
  have hother : ¬p.ballX1 ≥ m.ballXPos := by bv_omega
  rw [AI.branch_of_not_inRange hno, hwin.1, hwin.2]
  simp only [hcode, hside, hother, MoverPorts.free, Bool.or_false, Bool.false_and,
    decide_true, decide_false, Bool.true_and, Bool.false_eq_true, if_false, BitVec.reduceEq]
  split
  · exact Or.inl rfl
  · rename_i hwaits
    refine Or.inr ⟨rfl, ?_⟩
    by_contra hnone
    simp only [Bool.or_eq_true, not_or, Bool.not_eq_true] at hnone
    exact hwaits (by simp [hnone])

lemma AI.motion_left_of_far : AI.motion m p .left = twosComplement 5#10 := by
  have ht : m.leftTest p = false := by
    simp only [Mover.leftTest, Mover.bumpLeft, Bool.or_eq_false_iff, Bool.and_eq_false_iff,
      decide_eq_false_iff_not]
    constructor
    · bv_omega
    · left
      right
      bv_omega
  simp [AI.motion, ht]

end Far

lemma AI.isStep_motion {m : Mover} {p : MoverPorts} {br : Branch} (hbr : br ≠ .enter) :
    IsStep (AI.motion m p br).toInt := by
  have hfirst : ∀ motion : BitVec 10, IsStep motion.toInt → IsStep (m.rightFirst p motion).toInt := by
    intro motion hmotion
    unfold Mover.rightFirst
    split
    · decide
    · split
      · decide
      · exact hmotion
  cases br with
  | enter => exact absurd rfl hbr
  | win | idle => exact (by decide : IsStep (0#10).toInt)
  | back2 | back1 | jump => exact hfirst _ (isStep_alongFacing (by decide) (by decide))
  | kick | fight | dodge => exact hfirst _ (by decide)
  | left =>
    simp only [AI.motion]
    split <;> decide
  | right =>
    simp only [AI.motion]
    split <;> decide

namespace Game

/-- A match against `AI` without a winner, with player 1 more than 90 columns to its left. -/
structure Chased (g : Game) : Prop where
  st : g.regs.st
  mode : g.regs.du = false ∧ g.regs.sin
  playing : g.clk.hp.p1win = false ∧ g.clk.hp.p2win = false
  far : g.regs.ball.x + 90 < g.regs.ai.x

instance (g : Game) : Decidable g.Chased :=
  decidable_of_iff (g.regs.st ∧ (g.regs.du = false ∧ g.regs.sin) ∧
    (g.clk.hp.p1win = false ∧ g.clk.hp.p2win = false) ∧ g.regs.ball.x + 90 < g.regs.ai.x)
    ⟨fun h => ⟨h.1, h.2.1, h.2.2.1, h.2.2.2⟩, fun h => ⟨h.st, h.mode, h.playing, h.far⟩⟩

lemma Chased.far_toNat {g : Game} (hc : g.Chased) :
    g.regs.ball.ballXPos.toNat + 90 < g.regs.ai.ballXPos.toNat := by
  have hcolumn := hc.far
  simp only [Mover.x] at hcolumn
  omega

/-- The frames that `AI` needs to walk to column 0. -/
def toWalk (g : Game) : ℕ := (g.regs.ai.x + g.regs.ai.dx).toNat / 5

/-- The frames until the machines of player 2 let `AI` walk, and those of its walk. -/
noncomputable def toArrive (g : Game) : ℕ :=
  open Classical in (if Quiet g.regs.ai.act then g.regs.anim2.rank else 75) + toWalk g

/-- The frames until `AI` arrives, the rest of a knock-back included. -/
noncomputable def chase (g : Game) : ℕ :=
  if g.Chased then if recoilLeft .two g ≠ 0 then recoilLeft .two g + 281 else toArrive g else 0

structure Pursuing (g : Game) (n : ℕ) : Prop extends Recoiling g n where
  inRange : g.InRange
  isStep : IsStep g.regs.ai.dx

namespace Pursuing

variable {g : Game} {n : ℕ} {keycode keycode1 : BitVec 16}

lemma isStep_frame (h : Pursuing g n) : IsStep (g.frame keycode keycode1).regs.ai.dx := by
  cases hst : g.regs.st with
  | false =>
    have hai : (g.frame keycode keycode1).regs.ai = g.regs.ai := FrameRegs.ai_frame_of_not_st hst
    rw [hai]
    exact h.isStep
  | true =>
    have hdx : (g.frame keycode keycode1).regs.ai.dx =
        (AI.motion g.regs.ai (player2Ports g.regs g.clk keycode keycode1)
          (AI.branch g.regs.ai (player2Ports g.regs g.clk keycode keycode1))).toInt := by
      simp [Game.frame, FrameRegs.frame, AI.step, hst, Mover.dx, Mover.advance]
    rw [hdx]
    exact AI.isStep_motion (AI.branch_ne_enter _ _)

lemma step (h : Pursuing g n) (e : Event) (hn : Spaced n e) : Pursuing (g.step e) (countTicks n e) := by
  refine ⟨h.toRecoiling.step e hn, h.inRange.step e, ?_⟩
  cases e with
  | tick => exact h.isStep
  | frame keycode keycode1 => exact h.isStep_frame
  | reset =>
    change IsStep AI.reset.dx
    decide

lemma toArrive_le (h : Pursuing g n) : toArrive g ≤ 281 := by
  have hrank := h.inRange.anim2.rank_le
  have hx := g.regs.ai.ballXPos.isLt
  have hdx := IsStep.le h.isStep
  have hwalk : toWalk g ≤ 206 := by
    have hcolumn : g.regs.ai.x = g.regs.ai.ballXPos.toNat := rfl
    unfold toWalk
    omega
  unfold toArrive
  split <;> omega

lemma chase_le (h : Pursuing g n) : chase g ≤ 292 := by
  have hleft := recoilLeft_le h.counting .two
  have harrive := h.toArrive_le
  unfold chase
  repeat' split
  all_goals omega

lemma pay_tick (h : Pursuing g n) (hc : g.Chased) :
    chase g.tick ≤ chase g + 292 * struck .two g .tick := by
  have hpay := h.toRecoiling.pay_tick .two
  have harrive : toArrive g.tick = toArrive g := rfl
  have hle := h.toArrive_le
  have hall := (h.step .tick trivial).chase_le
  change chase g.tick ≤ 292 at hall
  by_cases hno : struck .two g .tick = 0
  · rw [hno] at hpay ⊢
    unfold chase
    rw [if_pos hc, harrive]
    repeat' split
    all_goals omega
  · omega

/-- A frame with a knock-back code uses up one frame of it. -/
lemma pay_code (h : Pursuing g n) (hn : 4 ≤ n) (hc : g.Chased) (hcode : g.clk.hp.code .two ≠ 0#2) :
    chase (g.frame keycode keycode1) + 1 ≤ chase g := by
  have hpay := h.toRecoiling.pay_frame hn keycode keycode1 .two
  have hone : recoils .two g (.frame keycode keycode1) = 1 := if_pos ⟨rfl, hcode⟩
  have harrive := (h.step (.frame keycode keycode1) hn).toArrive_le
  change toArrive (g.frame keycode keycode1) ≤ 281 at harrive
  unfold chase
  rw [if_pos hc]
  repeat' split
  all_goals omega

/-! One frame without a knock-back code. -/

section Walk

variable (hc : g.Chased)
include hc

lemma x_frame (h : Pursuing g n) (hc' : (g.frame keycode keycode1).Chased) :
    (g.frame keycode keycode1).regs.ai.x = g.regs.ai.x + g.regs.ai.dx := by
  have hfar := hc.far
  have hfar' := hc'.far
  have hdx := IsStep.le h.isStep
  have hmotion : (g.frame keycode keycode1).regs.ai.ballXPos =
      g.regs.ai.ballXPos + g.regs.ai.ballXMotion := by
    simp [Game.frame, FrameRegs.frame, AI.step, show g.regs.st = true from hc.st, Mover.advance]
  have hball := (g.frame keycode keycode1).regs.ball.x_nonneg
  have hball' := g.regs.ball.x_nonneg
  have hx : (g.frame keycode keycode1).regs.ai.x =
      ((g.regs.ai.ballXPos.toNat + g.regs.ai.ballXMotion.toNat) % 1024 : ℕ) := by
    rw [Mover.x, hmotion, BitVec.toNat_add]
  have hpos := g.regs.ai.ballXPos.isLt
  have hx0 : g.regs.ai.x = g.regs.ai.ballXPos.toNat := rfl
  rw [Mover.dx, BitVec.toInt_eq_toNat_cond] at hdx ⊢
  omega

lemma branch (h : Pursuing g n) (hcode : g.clk.hp.code .two = 0#2) (keycode keycode1 : BitVec 16) :
    AI.branch g.regs.ai (player2Ports g.regs g.clk keycode keycode1) = .left ∨
      AI.branch g.regs.ai (player2Ports g.regs g.clk keycode keycode1) = .idle ∧
      g.regs.anim2.rank ≠ 0 := by
  have hbr := AI.branch_of_far
    (p := player2Ports g.regs g.clk keycode keycode1) hc.far_toNat hc.playing hcode
  refine hbr.imp_right ?_
  rintro ⟨hidle, hon⟩
  refine ⟨hidle, ?_⟩
  intro hzero
  obtain ⟨hkick, hfight, hjump, hdodge, hback⟩ := h.inRange.anim2.resting hzero
  simp [player2Ports, Strike.on, Jump.on, Dodge.on, Back.on, hkick, hfight, hjump, hdodge, hback] at hon

lemma ai_frame (h : Pursuing g n) (hcode : g.clk.hp.code .two = 0#2) (keycode keycode1 : BitVec 16) :
    Quiet (g.frame keycode keycode1).regs.ai.act ∧ ((g.frame keycode keycode1).regs.ai.dx = -5 ∨
      (g.frame keycode keycode1).regs.ai.dx = 0 ∧ g.regs.anim2.rank ≠ 0) := by
  have hst : g.regs.st = true := hc.st
  have hact : (g.frame keycode keycode1).regs.ai.act = _ := FrameRegs.ai_act_frame hst
  have hmotion : (g.frame keycode keycode1).regs.ai.ballXMotion =
      AI.motion g.regs.ai (player2Ports g.regs g.clk keycode keycode1)
        (AI.branch g.regs.ai (player2Ports g.regs g.clk keycode keycode1)) := by
    simp [Game.frame, FrameRegs.frame, AI.step, hst, Mover.advance]
  rw [Mover.dx, hact, hmotion]
  rcases branch hc h hcode keycode keycode1 with hbr | ⟨hbr, hrank⟩
  · rw [hbr, AI.motion_left_of_far (p := player2Ports g.regs g.clk keycode keycode1) hc.far_toNat]
    exact ⟨⟨rfl, fun v => by cases v <;> rfl⟩, Or.inl (by decide)⟩
  · rw [hbr]
    exact ⟨quiet_standing, Or.inr ⟨rfl, hrank⟩⟩

lemma pay_walk (h : Pursuing g n) (hcode : g.clk.hp.code .two = 0#2) :
    chase (g.frame keycode keycode1) + 1 ≤ chase g := by
  have hzero : recoilLeft .two g = 0 := recoilLeft_of_no_code hcode
  have hzero' : recoilLeft .two (g.frame keycode keycode1) = 0 := recoilLeft_of_no_code hcode
  have hball := g.regs.ball.x_nonneg
  have hfar := hc.far
  have hdx := IsStep.le h.isStep
  unfold chase
  rw [if_pos hc, hzero, hzero']
  simp only [ne_eq, not_true_eq_false, if_false]
  split
  · rename_i hc'
    obtain ⟨hquiet, hdx'⟩ := ai_frame hc h hcode keycode keycode1
    have hx' := x_frame hc h hc'
    have hanim : (g.frame keycode keycode1).regs.anim2 = g.regs.anim2.step g.regs.ai.act := by
      change g.regs.anim2.step g.regs.player2.act = _
      rw [FrameRegs.player2_of_single hc.mode]
      rfl
    unfold toArrive toWalk
    rw [if_pos hquiet, hx', hanim]
    by_cases hbefore : Quiet g.regs.ai.act
    · have hrank := h.inRange.anim2.rank_step hbefore
      rw [if_pos hbefore]
      omega
    · have hrank := (h.inRange.anim2.step g.regs.ai.act).rank_le
      rw [if_neg hbefore]
      omega
  · unfold toArrive toWalk
    omega

end Walk

lemma pay (h : Pursuing g n) (e : Event) (hn : Spaced n e) (hc : g.Chased) :
    chase (g.step e) + (if e.isFrame then 1 else 0) ≤ chase g + 292 * struck .two g e := by
  cases e with
  | tick => exact h.pay_tick hc
  | frame keycode keycode1 =>
    by_cases hcode : g.clk.hp.code .two = 0#2
    · exact (pay_walk hc h hcode).trans (Nat.le_add_right _ _)
    · exact (h.pay_code hn hc hcode).trans (Nat.le_add_right _ _)
  | reset =>
    have hno : ¬(g.step .reset).Chased := by
      intro hstarted
      have hst : g.reset.regs.st = true := hstarted.st
      cases hst
    rw [chase, if_neg hno]
    exact Nat.zero_le _

end Pursuing

/-! ### Hits from afar -/

/-- 1 if the arbiter is about to execute an attack of player 1. -/
noncomputable def pending (g : Game) : ℕ :=
  open Classical in if ∃ k, g.clk.hp.state = .S k .one then 1 else 0

namespace Pursuing

variable {g : Game} {n : ℕ}

lemma struck_le (g : Game) (e : Event) : struck .two g e ≤ pending g := by
  unfold pending
  split
  · by_cases he : e = .reset
    · subst he
      exact Nat.zero_le 1
    · rcases step_struck g e he .two with ⟨hno, -⟩ | ⟨k, -, hk, -⟩
      · rw [struck, hno, hno, hno]
        exact Nat.zero_le 1
      · rw [struck, hk, hk, hk]
        cases k <;> decide
  · rename_i hnone
    have hno : ∀ k, strikes k Player.two.other g e = 0 := fun k => if_neg (fun hs => hnone ⟨k, hs.2.1⟩)
    rw [struck, hno, hno, hno]

/-- Out of reach, the arbiter finds no attack of player 1. -/
lemma not_pending_tick (h : Pursuing g n) (hc : g.Chased) (k : Attack) :
    g.tick.clk.hp.state ≠ .S k .one := by
  intro hs
  change (g.clk.hp.step (hpPorts g.regs g.clk)).state = .S k .one at hs
  by_cases hz : g.clk.hp.hpbar1 = 0#8 ∨ g.clk.hp.hpbar2 = 0#8
  · rw [(Hp.step_of_zero hz).1] at hs
    obtain ⟨-, h1, h2⟩ := (h.taken k .one hs).1
    exact hz.elim h1 h2
  · obtain ⟨h1, h2⟩ := not_or.1 hz
    rw [Hp.step_state h1 h2] at hs
    have hnormal := (Hp.eq_of_nextState_S hs).1
    rw [Hp.nextState, hnormal] at hs
    have hreach := (inContact_of_qualified (Hp.qualified_of_arbitrate hs)).reach
    have hfar := hc.far_toNat
    simp only [FrameRegs.column, Player.other, FrameRegs.player2_of_single hc.mode,
      Player2.ofMover] at hreach
    omega

/-- Out of reach, no hit is added to the one that is about to be executed. -/
lemma pending_step (h : Pursuing g n) (hc : g.Chased) (e : Event) :
    pending (g.step e) + struck .two g e ≤ pending g := by
  cases e with
  | tick =>
    have hgone : pending g.tick = 0 := if_neg (fun hs => hs.elim (h.not_pending_tick hc))
    change pending g.tick + _ ≤ _
    rw [hgone, Nat.zero_add]
    exact struck_le g .tick
  | frame keycode keycode1 => exact Nat.le_refl _
  | reset =>
    have hgone : pending g.reset = 0 := if_neg (fun hs => hs.elim (fun k hk => by cases hk))
    change pending g.reset + _ ≤ _
    rw [hgone, Nat.zero_add]
    exact struck_le g .reset

end Pursuing

end Game

/-- In every run from `Reset` with at least four edges of `Clk` between frame edges, whatever
the player does: in a single-player match without a winner, player 1 does not stay more
than 90 columns to the left of `AI` for longer than 584 frames. -/
theorem ai_arrives {g : Game} (hg : g.Reachable) {es es' : List Event}
    (hspaced : Meets countTicks Spaced 4 (es ++ es'))
    (hchased : Meets Game.step (fun g _ => g.Chased) (run Game.step g.reset es) es') :
    es'.countP Event.isFrame ≤ 584 := by
  obtain ⟨hbefore, hafter⟩ := meets_append.1 hspaced
  have hany : Meets Game.step (fun _ _ => True) g.reset es := meets_of_forall (fun _ _ => trivial) _
  have hstart : Game.Pursuing g.reset 4 :=
    ⟨Game.Recoiling.reset hg.counting 4, hg.inRange.step .reset, by
      change IsStep AI.reset.dx
      decide⟩
  have hthen := hany.invariant_monitor (I := Game.Pursuing)
    (fun g n e h _ hn => h.step e hn) hbefore hstart
  have hhits := hchased.total_le_balance_monitor (I := Game.Pursuing) (φ := Game.pending)
    (fun g n e h _ hn => h.step e hn) (fun g n e h hc _ => h.pending_step hc e) hafter hthen
  have hframes := hchased.total_le_monitor (I := Game.Pursuing) (φ := Game.chase)
    (fun g n e h _ hn => h.step e hn) (fun g n e h hc hn => h.pay e hn hc) hafter hthen
  have hchase := hthen.chase_le
  have hone : Game.pending (run Game.step g.reset es) ≤ 1 := by
    unfold Game.pending
    split <;> omega
  rw [total_mul, total_countP] at hframes
  omega

/-- The one-player mode is chosen and the match started. -/
def chooseAndStart : List Event := heldShort 1 0x004B 0 ++ heldShort 1 0x0028 0

theorem ai_arrives_idle :
    Meets Game.step (fun g _ => g.Chased) (run Game.step (Game.powerUp .normal).reset chooseAndStart)
      (heldShort 80 0 0) ∧ (heldShort 80 0 0).countP Event.isFrame ≤ 584 := by
  have hreach : (Game.powerUp .normal).Reachable := Game.reachable_run .normal []
  have hspaced : Meets countTicks Spaced 4 (chooseAndStart ++ heldShort 80 0 0) := by decide +kernel
  have hchased : Meets Game.step (fun g _ => g.Chased)
      (run Game.step (Game.powerUp .normal).reset chooseAndStart)
      (heldShort 80 0 0) := by decide +kernel
  exact ⟨hchased, ai_arrives hreach hspaced hchased⟩

end StickFigureFighting
