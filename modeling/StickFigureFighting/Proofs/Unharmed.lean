import StickFigureFighting.Proofs.Pursuit

/-!
# A player 1 that `AI` cannot harm

`AI` attacks by the facing lines of player 1: from the right it attacks a player 1 that faces
left. So a player 1 that keeps `AI` on its right and never turns is safe from it. `AI` walks
up to such a player and steps back, and only the edges of the screen could bring it past.
The left one does not: player 1 may be pushed past column 0, to column 1022 of the ten bits,
but `AI` then walks away from it.
-/

namespace StickFigureFighting
open Library

/-! ### The room between the figures -/

namespace Mover

/-- The column of a figure that may have been pushed past column 0. -/
def column (m : Mover) : ℤ := if m.x < 1000 then m.x else m.x - 1024

variable {m o m' o' : Mover} {p : MoverPorts}

lemma column_of_nonneg (h : 0 ≤ m.column) : m.column = m.x := by
  have hx := m.ballXPos.isLt
  simp only [column, x] at h ⊢
  omega

lemma x_of_wrapped (h : m.column < 0) : m.x = m.column + 1024 := by
  simp only [column, x] at h ⊢
  omega

lemma column_advance (hl : -24 ≤ m.column + m.dx) (hr : m.column + m.dx < 1000) (ballYMotion : BitVec 10)
    (br : Branch) (motion : BitVec 10) : (m.advance ballYMotion br motion).column = m.column + m.dx := by
  have hx := m.ballXPos.isLt
  simp only [column, x, dx, advance, BitVec.toNat_add, BitVec.toInt_eq_toNat_cond] at hl hr ⊢
  omega

/-- `m` stands to the left of `o`, and still does after the motions latched. A step of more
than one column to the left is only taken from afar. -/
structure Room (m o : Mover) : Prop where
  lt : m.column < o.x
  next : m.column + m.dx + 1 < o.x + o.dx
  fast : o.dx < -1 → m.column + m.dx + 20 < o.x + o.dx
  left : 12 < o.x ∧ 12 < o.x + o.dx
  right : o.x ≤ 600 ∧ o.x + o.dx ≤ 600
  dx : -1 ≤ m.dx ∧ m.dx ≤ 5
  dx' : -5 ≤ o.dx ∧ o.dx ≤ 8
  column : -2 ≤ m.column ∧ m.column ≤ 554
  wrapped : m.column < 0 → -2 ≤ m.column + m.dx ∧ m.column + m.dx ≤ 4

/-- The next motion of a player 1 that neither turns nor jumps. -/
structure Steps (m o m' : Mover) : Prop where
  dx : -1 ≤ m'.dx ∧ m'.dx ≤ 5
  blocked : 0 ≤ m.column → o.x ≤ m.column + 40 → m'.dx ≤ 0
  edge : 0 ≤ m.column → m.column ≤ 10 → m'.dx ≤ 1
  wrapped : m.column < 0 → 0 ≤ m'.dx

/-- The next motion of an `AI` that has no attack to make. -/
structure Follows (m o o' : Mover) : Prop where
  dx : -5 ≤ o'.dx ∧ o'.dx ≤ 8
  blocked : o.x ≤ m.column + 40 → -1 ≤ o'.dx ∧ (o.x < 559 → 0 ≤ o'.dx)
  edge : 559 ≤ o.x → o'.dx ≤ 1 ∧ (0 < o'.dx → o.x ≤ m.column + 40)

lemma Room.step (h : Room m o) (hm : m.column < 550) (hmx : m'.column = m.column + m.dx)
    (hox : o'.x = o.x + o.dx) (hm' : Steps m o m') (ho' : Follows m o o') : Room m' o' := by
  obtain ⟨hlt, hnext, hfast, hleft, hright, hdx, hdx', hcolumn, hwrapped⟩ := h
  obtain ⟨hsteps, hstops, hedge, hback⟩ := hm'
  obtain ⟨hfollows, hblocked, hcorner⟩ := ho'
  constructor <;> omega

/-- In the menu `AI` waits at column 539, and player 1 does not see it. -/
lemma Room.step_menu (hm : 0 ≤ m.column ∧ m.column < 528) (hdx : 0 ≤ m.dx ∧ m.dx ≤ 5)
    (hmx : m'.column = m.column + m.dx) (hdx' : 0 ≤ m'.dx ∧ m'.dx ≤ 5) : Room m' AI.reset := by
  have hx : AI.reset.x = 539 := rfl
  have hstop : AI.reset.dx = 0 := rfl
  constructor <;> omega

/-! ### The motions of the two controllers -/

section Tests

variable (ho : p.ballX1 = o.ballXPos)
include ho

lemma not_rightTest_of_wrapped (hcolumn : -2 ≤ m.column) (hwrapped : m.column < 0) (hx : o.x ≤ 600) :
    m.rightTest p = false := by
  have hm := x_of_wrapped hwrapped
  simp only [rightTest, bumpRight, ho, Bool.or_eq_false_iff, Bool.and_eq_false_iff,
    decide_eq_false_iff_not]
  simp only [x] at hm hx
  constructor
  · bv_omega
  · left
    left
    bv_omega

lemma rightTest_of_near (hpos : 0 ≤ m.column) (hlt : m.column < o.x) (hle : o.x ≤ m.column + 40)
    (hnear : m.near1 p.ballY1) : m.rightTest p := by
  rw [column_of_nonneg hpos] at hlt hle
  have hbump : m.bumpRight p := bumpRight_of ho hlt hle hnear
  simp [rightTest, hbump]

end Tests

lemma leftTest_of_column (hpos : 0 ≤ m.column) (hle : m.column ≤ 10) : m.leftTest p := by
  have hedge : m.ballXPos ≤ 10#10 := by
    rw [column_of_nonneg hpos, x] at hle
    bv_omega
  simp [leftTest, hedge]

lemma steps_of_zero (hdx : m'.dx = 0) : Steps m o m' := by
  constructor <;> omega

lemma follows_of_zero (hdx : o'.dx = 0) : Follows m o o' := by
  constructor <;> omega

/-- Without an opponent to see, player 1 is pushed to the right at most. -/
lemma steps_of_alone (halone : p.ballX1 = 0#10) (hcolumn : 0 ≤ m.column ∧ m.column < 528) {br : Branch}
    (hbr : br ∈ [Branch.win, .kick, .fight, .dodge, .right, .enter, .idle]) (henter : br ≠ .enter)
    (hdx : m'.dx = m.step (Ball.course m p br)) : 0 ≤ m'.dx ∧ m'.dx ≤ 5 := by
  have hr : m.rightTest p = false := by
    have hx := column_of_nonneg hcolumn.1
    have hlt := hcolumn.2
    rw [hx] at hlt
    simp only [x] at hlt
    simp only [rightTest, bumpRight, halone, Bool.or_eq_false_iff, Bool.and_eq_false_iff,
      decide_eq_false_iff_not]
    exact ⟨by bv_omega, by left; left; bv_omega⟩
  have hright : ∀ motion : BitVec 10, 0 ≤ motion.toInt ∧ motion.toInt ≤ 5 →
      0 ≤ m.step (m.rightFirstCourse p motion) ∧ m.step (m.rightFirstCourse p motion) ≤ 5 := by
    intro motion hmotion
    rw [rightFirstCourse, if_neg (by simp [hr])]
    split
    · exact (by decide : (0 : ℤ) ≤ 1 ∧ (1 : ℤ) ≤ 5)
    · exact hmotion
  rw [hdx]
  cases br with
  | win | idle => exact (by decide : (0 : ℤ) ≤ 0 ∧ (0 : ℤ) ≤ 5)
  | enter => exact absurd rfl henter
  | kick | fight | dodge | right => exact hright _ (by decide)
  | back2 | back1 | jump | left => simp at hbr

variable (h : Room m o)
include h

/-- A step of player 1 that tests the right side first. -/
lemma Room.steps_rightFirst (ho : p.ballX1 = o.ballXPos) (hnear : m.near1 p.ballY1) {motion : BitVec 10}
    (hmotion : 0 ≤ motion.toInt ∧ motion.toInt ≤ 5)
    (hdx : m'.dx = m.step (m.rightFirstCourse p motion)) :
    Steps m o m' := by
  have hwrapped := fun hneg => not_rightTest_of_wrapped ho h.column.1 hneg h.right.1
  have hblocked := fun hpos hle => rightTest_of_near ho hpos h.lt hle hnear
  have hedge := fun hpos hle => leftTest_of_column (m := m) (p := p) hpos hle
  rw [rightFirstCourse] at hdx
  cases hr : m.rightTest p with
  | true =>
    rw [if_pos hr] at hdx
    have hdx' : m'.dx = -1 := hdx
    refine ⟨by omega, by omega, by omega, ?_⟩
    intro hneg
    have hno := hwrapped hneg
    rw [hr] at hno
    cases hno
  | false =>
    have hfar : 0 ≤ m.column → o.x ≤ m.column + 40 → m'.dx ≤ 0 := by
      intro hpos hle
      have hyes := hblocked hpos hle
      rw [hr] at hyes
      cases hyes
    rw [if_neg (by simp [hr])] at hdx
    cases hl : m.leftTest p with
    | true =>
      rw [if_pos hl] at hdx
      have hdx' : m'.dx = 1 := hdx
      exact ⟨by omega, hfar, by omega, by omega⟩
    | false =>
      rw [if_neg (by simp [hl])] at hdx
      have hdx' : m'.dx = motion.toInt := hdx
      refine ⟨by omega, hfar, ?_, by omega⟩
      intro hpos hle
      have hyes := hedge hpos hle
      rw [hl] at hyes
      cases hyes

lemma Room.steps (ho : p.ballX1 = o.ballXPos) (hnear : m.near1 p.ballY1) {br : Branch}
    (hbr : br ∈ [Branch.win, .kick, .fight, .dodge, .right, .enter, .idle])
    (henter : br = .enter → m.dx = 0)
    (hdx : m'.dx = m.step (Ball.course m p br)) : Steps m o m' := by
  cases br with
  | win | idle => exact steps_of_zero hdx
  | enter => exact steps_of_zero (hdx.trans (henter rfl))
  | kick | fight | dodge | right => exact h.steps_rightFirst ho hnear (by decide) hdx
  | back2 | back1 | jump | left => simp at hbr

section Ai

variable (hm : p.ballX1 = m.ballXPos)
include hm

lemma Room.behind : p.ballX1 < o.ballXPos ∧ 0 ≤ m.column ∨ 1022 ≤ m.x ∧ m.column < 0 := by
  have hcolumn := h.column.1
  have hlt := h.lt
  by_cases hpos : 0 ≤ m.column
  · rw [column_of_nonneg hpos] at hlt
    simp only [x] at hlt
    exact Or.inl ⟨by rw [hm]; bv_omega, hpos⟩
  · have hwrapped := x_of_wrapped (not_le.1 hpos)
    exact Or.inr ⟨by omega, by omega⟩

/-- `AI` finds player 1 in reach only if that turns its back to it. -/
lemma Room.not_inRange (hface : p.standLeft = false) {range : BitVec 10} (hrange : range ≤ 90#10) :
    AI.inRange o p range = false := by
  have hright := h.right.1
  simp only [AI.inRange, hface, Bool.and_false, Bool.or_false, Bool.and_eq_false_iff,
    decide_eq_false_iff_not]
  left
  rcases h.behind hm with ⟨hlt, -⟩ | ⟨hwrapped, -⟩
  · left
    bv_omega
  · right
    rw [hm]
    simp only [x] at hright hwrapped
    bv_omega

lemma Room.not_bumpRight : o.bumpRight p = false := by
  have hright := h.right.1
  simp only [bumpRight, Bool.and_eq_false_iff, decide_eq_false_iff_not]
  left
  rcases h.behind hm with ⟨hlt, -⟩ | ⟨hwrapped, -⟩
  · left
    bv_omega
  · right
    rw [hm]
    simp only [x] at hright hwrapped
    bv_omega

lemma Room.of_rightTest (ht : o.rightTest p) : 559 ≤ o.x := by
  have hright := h.right.1
  rcases Mover.of_rightTest (by omega) ht with hedge | hbump
  · exact hedge
  · rw [h.not_bumpRight hm] at hbump
    cases hbump

lemma Room.of_leftTest (ht : o.leftTest p) : o.x ≤ m.column + 40 := by
  have hleft := h.left.1
  have hright := h.right.1
  rcases StickFigureFighting.of_leftTest ht with hedge | hbump
  · omega
  · obtain ⟨hlt, hle⟩ := bumpLeft_spec hm hbump
    rcases h.behind hm with ⟨-, hpos⟩ | ⟨hwrapped, -⟩
    · have hx := column_of_nonneg hpos
      omega
    · omega

lemma Room.follows_rightFirst {motion : BitVec 10} (hmotion : 0 ≤ motion.toInt ∧ motion.toInt ≤ 8)
    (hdx : o'.dx = o.step (o.rightFirstCourse p motion)) : Follows m o o' := by
  have hright := h.right.1
  rw [rightFirstCourse] at hdx
  by_cases hr : o.rightTest p
  · have hedge := h.of_rightTest hm hr
    rw [if_pos hr] at hdx
    have hdx' : o'.dx = -1 := hdx
    exact ⟨by omega, by omega, by omega⟩
  · have hlt := lt_of_not_rightTest (by omega) hr
    rw [if_neg hr] at hdx
    by_cases hl : o.leftTest p
    · rw [if_pos hl] at hdx
      have hdx' : o'.dx = 1 := hdx
      exact ⟨by omega, by omega, by omega⟩
    · rw [if_neg hl] at hdx
      have hdx' : o'.dx = motion.toInt := hdx
      exact ⟨by omega, by omega, by omega⟩

lemma Room.follows_left (hside : p.ballX1 ≤ o.ballXPos) (hnear : o.near1 p.ballY1)
    (hdx : o'.dx = o.step (AI.course o p .left)) : Follows m o o' := by
  rw [AI.course] at hdx
  by_cases hl : o.leftTest p
  · have hnext := h.of_leftTest hm hl
    rw [if_pos hl] at hdx
    have hdx' : o'.dx = 1 := hdx
    exact ⟨by omega, by omega, by omega⟩
  · have hfar : ¬o.x ≤ m.column + 40 := by
      intro hle
      have hlt := h.lt
      have hright := h.right.1
      rcases h.behind hm with ⟨-, hpos⟩ | ⟨hwrapped, -⟩
      · rw [column_of_nonneg hpos] at hlt hle
        exact hl (leftTest_of_bumpLeft (bumpLeft_of hm hlt hle hnear))
      · rw [hm] at hside
        simp only [x] at hright hwrapped
        bv_omega
    rw [if_neg hl] at hdx
    have hdx' : o'.dx = -5 := hdx
    exact ⟨by omega, by omega, by omega⟩

lemma Room.follows_right (hside : p.ballX1 ≥ o.ballXPos)
    (hdx : o'.dx = o.step (AI.course o p .right)) : Follows m o o' := by
  have hright := h.right.1
  have hlt := h.lt
  have hwrapped : m.column < 0 := by
    rcases h.behind hm with ⟨hless, -⟩ | ⟨-, hneg⟩
    · exact absurd hless (BitVec.not_lt.2 hside)
    · exact hneg
  rw [AI.course] at hdx
  by_cases hr : o.rightTest p
  · have hedge := h.of_rightTest hm hr
    rw [if_pos hr] at hdx
    have hdx' : o'.dx = -1 := hdx
    exact ⟨by omega, by omega, by omega⟩
  · have hless := lt_of_not_rightTest (by omega) hr
    rw [if_neg hr] at hdx
    have hdx' : o'.dx = 5 := hdx
    exact ⟨by omega, by omega, by omega⟩

end Ai

end Mover

/-! ### What `AI` does -/

section Ai

variable {m o o' : Mover} {p : MoverPorts} (h : Mover.Room m o) (hm : p.ballX1 = m.ballXPos)
  (hface : p.standLeft = false)
include h hm hface

/-- `AI` has no attack to make, nor a jump or a dodge of its own. -/
lemma AI.branch_of_room : AI.branch o p ∈ [Branch.win, .back2, .back1, .idle] ∨
    AI.branch o p = .left ∧ p.ballX1 ≤ o.ballXPos ∨ AI.branch o p = .right ∧ p.ballX1 ≥ o.ballXPos := by
  have hno : ∀ range ≤ 90#10, AI.inRange o p range = false :=
    fun _ hrange => h.not_inRange hm hface hrange
  rw [AI.branch_of_not_inRange hno]
  repeat' split
  all_goals simp_all

lemma AI.follows (hnear : o.near1 p.ballY1) (hdx : o'.dx = o.step (AI.course o p (AI.branch o p))) :
    Mover.Follows m o o' := by
  have hpush : ∀ step : BitVec 10, 0 ≤ step.toInt ∧ step.toInt ≤ 8 →
      0 ≤ (p.alongFacing step).toInt ∧ (p.alongFacing step).toInt ≤ 8 := by
    intro step hstep
    simp only [MoverPorts.alongFacing, hface, Bool.false_eq_true, if_false]
    split
    · exact hstep
    · exact ⟨le_rfl, by decide⟩
  rcases AI.branch_of_room h hm hface with hbr | ⟨hbr, hside⟩ | ⟨hbr, hside⟩
  · simp only [List.mem_cons, List.not_mem_nil, or_false] at hbr
    rcases hbr with hbr | hbr | hbr | hbr
    · rw [hbr] at hdx
      exact Mover.follows_of_zero hdx
    · rw [hbr] at hdx
      exact h.follows_rightFirst hm (hpush 8#10 (by decide)) hdx
    · rw [hbr] at hdx
      exact h.follows_rightFirst hm (hpush 1#10 (by decide)) hdx
    · rw [hbr] at hdx
      exact Mover.follows_of_zero hdx
  · rw [hbr] at hdx
    exact h.follows_left hm hside hnear hdx
  · rw [hbr] at hdx
    exact h.follows_right hm hside hdx

end Ai

/-! ### A player that makes no attack -/

def Actions.attacks (a : Actions) : Attack → Bool
  | .kick => a.kick
  | .fight => a.fight
  | .jump => a.jump

lemma Animation.stage_of_quiet {m : Animation} {a : Actions} {k : Attack} (hm : m.stage k = 0)
    (ha : a.attacks k = false) : (m.step a).stage k = 0 := by
  cases k with
  | kick =>
    change (m.kick.step a.kick).stage = 0
    rw [Strike.stage_step, show m.kick.stage = 0 from hm, show a.kick = false from ha]
    simp [Paced.nextStage]
  | fight =>
    change (m.fight.step a.fight).stage = 0
    rw [Strike.stage_step, show m.fight.stage = 0 from hm, show a.fight = false from ha]
    simp [Paced.nextStage]
  | jump =>
    change (m.jump.step a.jump).stage = 0
    rw [Jump.stage_step, show m.jump.stage = 0 from hm, show a.jump = false from ha]
    simp [Paced.nextStage]

namespace Hp

variable {h : Hp} {p : HpPorts} {q : Player} (hattack : ∀ k, p.attack k q = false)
    (hno : ∀ k, h.state ≠ .S k q)

include hattack hno in
lemma state_of_unarmed (k : Attack) : (h.step p).state ≠ .S k q := by
  intro hs
  by_cases hz : h.hpbar1 = 0#8 ∨ h.hpbar2 = 0#8
  · rw [(step_of_zero hz).1] at hs
    exact hno k hs
  · obtain ⟨h1, h2⟩ := not_or.1 hz
    rw [step_state h1 h2] at hs
    have hyes := (eq_of_nextState_S hs).2
    rw [hattack k] at hyes
    cases hyes

include hno

lemma hpbar_of_unarmed : (h.step p).hpbar q.other = h.hpbar q.other := by
  by_cases hother : ∃ k, Executes h k q.other
  · obtain ⟨k, hexec⟩ := hother
    exact (step_of_executes hexec).2.1
  · apply step_hpbar
    intro k q' hexec
    rcases Player.eq_or_eq_other q' q with rfl | rfl
    · exact hno k hexec.1
    · exact hother ⟨k, hexec⟩

lemma code_of_unarmed (hcode : h.code q.other = 0#2) : (h.step p).code q.other = 0#2 := by
  by_cases hz : h.hpbar1 = 0#8 ∨ h.hpbar2 = 0#8
  · rw [(step_of_zero hz).2, hcode]
  obtain ⟨h1, h2⟩ := not_or.1 hz
  cases hs : h.state with
  | S k q' =>
    rcases Player.eq_or_eq_other q' q with rfl | rfl
    · exact absurd hs (hno k)
    · rw [code_of_executes ⟨hs, h1, h2⟩, hcode]
  | normal =>
    rw [step_normal h1 h2 hs]
    cases q <;> rfl
  | is k q' =>
    rw [step_is h1 h2 hs]
    cases q <;> exact hcode

end Hp

/-- Player `q` has no attack going on, and the arbiter has none of it to execute. -/
structure Unarmed (q : Player) (g : Game) : Prop where
  stand : ∀ k, (g.regs.animation q).stage k = 0
  state : ∀ k, g.clk.hp.state ≠ .S k q
  code : g.clk.hp.code q.other = 0#2
  bar : g.clk.hp.hpbar q.other = 200#8

namespace Unarmed

variable {g : Game} {q : Player}

lemma reset (hstand : ∀ k, (g.regs.animation q).stage k = 0) : Unarmed q g.reset := by
  refine ⟨?_, ?_, ?_, ?_⟩
  · cases q with
    | one => exact hstand
    | two => exact hstand
  · intro k hs
    cases hs
  · cases q <;> rfl
  · cases q <;> rfl

lemma tick (h : Unarmed q g) : Unarmed q g.tick := by
  have hattack : ∀ k, (hpPorts g.regs g.clk).attack k q = false := by
    intro k
    rw [← Bool.not_eq_true, hpPorts_attack_iff, h.stand k]
    cases k <;> decide
  exact ⟨h.stand, Hp.state_of_unarmed hattack h.state, Hp.code_of_unarmed h.state h.code,
    (Hp.hpbar_of_unarmed h.state).trans h.bar⟩

lemma frame (h : Unarmed q g) (hact : ∀ k, (g.regs.act q).attacks k = false)
    (keycode keycode1 : BitVec 16) :
    Unarmed q (g.frame keycode keycode1) := by
  refine ⟨?_, h.state, h.code, h.bar⟩
  intro k
  cases q with
  | one => exact Animation.stage_of_quiet (h.stand k) (hact k)
  | two => exact Animation.stage_of_quiet (h.stand k) (hact k)

end Unarmed

/-! ### The match against `AI` -/

lemma Ball.branch_of_steady {p : MoverPorts} (hcode : p.backCode = 0#2) (hleft : p.key 0x04 = false)
    (hjump : p.key 0x1A = false) :
    Ball.branch p ∈ [Branch.win, .kick, .fight, .dodge, .right, .enter, .idle] ∧
      (Ball.branch p = .enter → p.key 0x28) := by
  unfold Ball.branch
  rw [hcode, hleft, hjump]
  simp only [Bool.false_and, Bool.false_eq_true, if_false]
  repeat' split
  all_goals simp_all

/-- Player 1 neither turns left nor jumps, does not walk on under Enter and has not come to
column 550. The menu is left for the one-player mode only, and until that is chosen player 1
stays before column 528. -/
def Steady (g : Game) : Event → Prop
  | .tick => True
  | .reset => False
  | .frame keycode keycode1 =>
    0x04 ∉ slots keycode keycode1 ∧ 0x1A ∉ slots keycode keycode1 ∧
    (0x28 ∈ slots keycode keycode1 → g.regs.ball.dx = 0) ∧
    (g.regs.st = false → keycode.extractLsb' 0 8 ≠ 0x4E) ∧
    (g.regs.sin = false → 0x28 ∉ slots keycode keycode1 ∧ g.regs.ball.column < 528) ∧
    g.regs.ball.column < 550

instance (g : Game) : (e : Event) → Decidable (Steady g e)
  | .tick => isTrue trivial
  | .reset => isFalse id
  | .frame _ _ => inferInstanceAs (Decidable (_ ∧ _ ∧ _ ∧ _ ∧ _ ∧ _))

/-- `AI` stands to the right of player 1, which faces it or walks towards it. -/
structure Unreached (g : Game) (n : ℕ) : Prop where
  mode : g.regs.du = false
  menu : g.regs.sin = false → g.regs.st = false ∧ 0 ≤ g.regs.ball.column ∧ 0 ≤ g.regs.ball.dx
  room : Mover.Room g.regs.ball.toMover g.regs.ai
  floor : g.regs.ball.ballYPos = 300#10 ∧ g.regs.ai.ballYPos = 300#10
  gravity : g.clk.gravity0 = Gravity.reset ∧ g.clk.gravity2 = Gravity.reset
  ball : g.regs.ball.act.left = false ∧ g.regs.ball.act.jump = false
  ai : ∀ k, g.regs.ai.act.attacks k = false
  parked : g.regs.st = false → g.regs.ai = AI.reset
  facing : g.clk.state0.state ≠ .state2 ∧ g.clk.state0.state ≠ .state4
  seen : g.clk.state0.standLeft = false ∨ g.clk.state0.state = .reset ∧ (n = 0 ∨ g.regs.st = false)
  unarmed : Unarmed .two g

namespace Unreached

variable {g : Game} {n : ℕ}

lemma room_reset : Mover.Room Ball.reset.toMover AI.reset := by
  constructor <;> decide

lemma reset (hmode : g.regs.du = false) (hstand : ∀ k, (g.regs.animation .two).stage k = 0) (n : ℕ) :
    Unreached g.reset n where
  mode := hmode
  menu _ := by
    change _ ∧ 0 ≤ Ball.reset.toMover.column ∧ 0 ≤ Ball.reset.toMover.dx
    exact ⟨rfl, by decide, by decide⟩
  room := room_reset
  floor := ⟨rfl, rfl⟩
  gravity := ⟨rfl, rfl⟩
  ball := ⟨rfl, rfl⟩
  ai k := by cases k <;> rfl
  parked _ := rfl
  facing := by
    change FacingState.reset ≠ .state2 ∧ FacingState.reset ≠ .state4
    decide
  seen := Or.inr ⟨rfl, Or.inr rfl⟩
  unarmed := .reset hstand

lemma gravity_step {p : GravityPorts} (hjump : p.jump = false) :
    Gravity.reset.step p = Gravity.reset := by
  simp [Gravity.step, Gravity.reset, Gravity.nextState, Gravity.nextBallYMotion, hjump]

lemma facing_step {rl rr : Bool} {a : Actions} {m : Facing} (hleft : a.left = false)
    (hm : m.state ≠ .state2 ∧ m.state ≠ .state4) :
    (m.step rl rr a).state ≠ .state2 ∧ (m.step rl rr a).state ≠ .state4 := by
  obtain ⟨s, l, r⟩ := m
  cases s <;> simp_all [Facing.step, Facing.nextState] <;> repeat' split
  all_goals simp

/-- After one edge of `Clk` the facing lines of player 1 are those of its state. -/
lemma unseen_step {a : Actions} {m : Facing} (hm : m.state ≠ .state2 ∧ m.state ≠ .state4)
    (hseen : m.standLeft = false ∨ m.state = .reset) : (stateMachine a m).standLeft = false := by
  obtain ⟨s, l, r⟩ := m
  cases s with
  | state1 => exact hseen.resolve_right (by simp)
  | state4 => exact absurd rfl hm.2
  | _ => rfl

lemma tick (h : Unreached g n) : Unreached g.tick (n + 1) := by
  refine ⟨h.mode, h.menu, h.room, h.floor, ⟨?_, ?_⟩, h.ball, h.ai, h.parked, ?_, ?_, h.unarmed.tick⟩
  · change g.clk.gravity0.step _ = _
    rw [h.gravity.1]
    exact gravity_step h.ball.2
  · change g.clk.gravity2.step _ = _
    rw [h.gravity.2]
    exact gravity_step (h.ai .jump)
  · exact facing_step h.ball.1 h.facing
  · exact Or.inl (unseen_step h.facing (h.seen.imp_right (fun hs => hs.1)))

section Frame

variable {keycode keycode1 : BitVec 16}

lemma mode_frame (h : Unreached g n) (hs : Steady g (.frame keycode keycode1)) :
    (g.frame keycode keycode1).regs.du = false ∧
      (g.regs.sin → (g.frame keycode keycode1).regs.sin) := by
  change (g.regs.indicator.step g.regs.st (keycode.extractLsb' 0 8)).dual = false ∧
    (g.regs.sin → (g.regs.indicator.step g.regs.st (keycode.extractLsb' 0 8)).single = true)
  have hkey : ¬(keycode.extractLsb' 0 8 = 0x4E ∧ !g.regs.st) := by
    obtain ⟨-, -, -, hmode, -⟩ := hs
    rintro ⟨hpressed, hst⟩
    exact hmode (by simpa using hst) hpressed
  unfold Indicator.step
  rw [if_neg hkey]
  split
  · exact ⟨rfl, fun _ => rfl⟩
  · exact ⟨h.mode, id⟩

lemma ball_branch (h : Unreached g n) (hs : Steady g (.frame keycode keycode1)) :
    Ball.branch (ballPorts g.regs g.clk keycode keycode1) ∈
        [Branch.win, .kick, .fight, .dodge, .right, .enter, .idle] ∧
      (Ball.branch (ballPorts g.regs g.clk keycode keycode1) = .enter →
        0x28 ∈ slots keycode keycode1) := by
  have hkey : ∀ code, code ∉ slots keycode keycode1 →
      (ballPorts g.regs g.clk keycode keycode1).key code = false := by
    intro code hno
    rw [← Bool.not_eq_true, MoverPorts.key_iff_mem]
    exact hno
  obtain ⟨hleft, hjump, -⟩ := hs
  obtain ⟨hbr, henter⟩ := Ball.branch_of_steady h.unarmed.code (hkey _ hleft) (hkey _ hjump)
  refine ⟨hbr, fun hb => ?_⟩
  have hpressed := henter hb
  rwa [MoverPorts.key_iff_mem] at hpressed

lemma ball_dx : (g.frame keycode keycode1).regs.ball.toMover.dx =
    g.regs.ball.toMover.step (Ball.course g.regs.ball.toMover (ballPorts g.regs g.clk keycode keycode1)
      (Ball.branch (ballPorts g.regs g.clk keycode keycode1))) := by
  change (g.regs.frame g.clk keycode keycode1).ball.toMover.dx = _
  rw [EdgeInv.frame_ball, Mover.dx_advance]
  rfl

lemma ball_steps (h : Unreached g n) (hs : Steady g (.frame keycode keycode1)) (hsin : g.regs.sin) :
    Mover.Steps g.regs.ball.toMover g.regs.ai (g.frame keycode keycode1).regs.ball.toMover := by
  obtain ⟨hbr, henter⟩ := h.ball_branch hs
  have hports : (ballPorts g.regs g.clk keycode keycode1).ballX1 = g.regs.ai.ballXPos :=
    congrArg Player2.ballxsig1 (FrameRegs.player2_of_single ⟨h.mode, hsin⟩)
  have hlevel : (ballPorts g.regs g.clk keycode keycode1).ballY1 = g.regs.ai.ballYPos :=
    congrArg Player2.ballysig1 (FrameRegs.player2_of_single ⟨h.mode, hsin⟩)
  obtain ⟨-, -, hstop, -⟩ := hs
  apply h.room.steps hports _ hbr (fun hb => hstop (henter hb)) ball_dx
  rw [hlevel, h.floor.2]
  simp [Mover.near1, h.floor.1]

/-- Before a mode is chosen `mode_choose` shows no player 2. -/
lemma player2_of_none (h : Unreached g n) (hsin : g.regs.sin = false) :
    g.regs.player2 = ⟨0#10, 0#10, Actions.none⟩ := by
  simp [FrameRegs.player2, modeChoose, h.mode, hsin]

lemma ball_alone (h : Unreached g n) (hs : Steady g (.frame keycode keycode1))
    (hsin : g.regs.sin = false) :
    0 ≤ (g.frame keycode keycode1).regs.ball.dx ∧ (g.frame keycode keycode1).regs.ball.dx ≤ 5 := by
  obtain ⟨hbr, henter⟩ := h.ball_branch hs
  obtain ⟨-, -, -, -, hmenu, -⟩ := hs
  obtain ⟨hno, hlt⟩ := hmenu hsin
  have hports : (ballPorts g.regs g.clk keycode keycode1).ballX1 = 0#10 :=
    congrArg Player2.ballxsig1 (h.player2_of_none hsin)
  exact Mover.steps_of_alone hports ⟨(h.menu hsin).2.1, hlt⟩ hbr (fun hb => hno (henter hb)) ball_dx

/-- When a frame edge of the match comes, the facing lines are up to date. -/
lemma standLeft_of_st (h : Unreached g n) (hn : 4 ≤ n) (hst : g.regs.st) :
    g.clk.state0.standLeft = false := by
  apply h.seen.resolve_right
  rintro ⟨-, hzero | hmenu⟩
  · omega
  · rw [hst] at hmenu
    cases hmenu

lemma ai_frame_of_not_st (h : Unreached g n) (hst : g.regs.st = false) :
    (g.frame keycode keycode1).regs.ai = AI.reset :=
  (FrameRegs.ai_frame_of_not_st hst).trans (h.parked hst)

lemma ai_follows (h : Unreached g n) (hn : 4 ≤ n) (keycode keycode1 : BitVec 16) :
    Mover.Follows g.regs.ball.toMover g.regs.ai (g.frame keycode keycode1).regs.ai ∧
      (g.frame keycode keycode1).regs.ai.x = g.regs.ai.x + g.regs.ai.dx := by
  cases hst : g.regs.st with
  | false =>
    rw [h.ai_frame_of_not_st hst, h.parked hst]
    exact ⟨Mover.follows_of_zero rfl, rfl⟩
  | true =>
    have hface := h.standLeft_of_st hn hst
    have hai : (g.frame keycode keycode1).regs.ai = _ := EdgeInv.frame_ai hst
    have hleft := h.room.left.2
    have hright := h.room.right.2
    rw [hai]
    refine ⟨?_, Mover.x_advance_of_le (by omega) (by omega) _ _ _⟩
    apply AI.follows h.room (p := player2Ports g.regs g.clk keycode keycode1) rfl hface
    · change g.regs.ai.near1 g.regs.ball.ballYPos
      simp [Mover.near1, h.floor.1, h.floor.2]
    · exact Mover.dx_advance _ _ _

lemma ai_act (h : Unreached g n) (hn : 4 ≤ n) (k : Attack) :
    (g.frame keycode keycode1).regs.ai.act.attacks k = false := by
  cases hst : g.regs.st with
  | false =>
    rw [h.ai_frame_of_not_st hst]
    cases k <;> rfl
  | true =>
    have hface := h.standLeft_of_st hn hst
    have hact : (g.frame keycode keycode1).regs.ai.act = _ := FrameRegs.ai_act_frame hst
    rw [hact]
    have hbr := AI.branch_of_room (p := player2Ports g.regs g.clk keycode keycode1) h.room rfl hface
    simp only [List.mem_cons, List.not_mem_nil, or_false] at hbr
    rcases hbr with (hbr | hbr | hbr | hbr) | ⟨hbr, -⟩ | ⟨hbr, -⟩
    all_goals
      rw [hbr]
      cases k <;> rfl

lemma ai_floor (h : Unreached g n) : (g.frame keycode keycode1).regs.ai.ballYPos = 300#10 := by
  cases hst : g.regs.st with
  | false =>
    rw [h.ai_frame_of_not_st hst]
    rfl
  | true =>
    have hai : (g.frame keycode keycode1).regs.ai = _ := EdgeInv.frame_ai hst
    rw [hai]
    change g.regs.ai.ballYPos + g.clk.gravity2.ballYMotion = _
    rw [h.floor.2, h.gravity.2]
    rfl

lemma ball_act (h : Unreached g n) (hs : Steady g (.frame keycode keycode1)) :
    (g.frame keycode keycode1).regs.ball.act.left = false ∧
      (g.frame keycode keycode1).regs.ball.act.jump = false := by
  have hbr := (h.ball_branch hs).1
  change ((Ball.branch (ballPorts g.regs g.clk keycode keycode1)).actions g.regs.ball.act).left = false ∧
    ((Ball.branch (ballPorts g.regs g.clk keycode keycode1)).actions g.regs.ball.act).jump = false
  generalize Ball.branch (ballPorts g.regs g.clk keycode keycode1) = br at hbr ⊢
  cases br with
  | enter => exact h.ball
  | back2 | back1 | jump | left => simp at hbr
  | _ => exact ⟨rfl, rfl⟩

lemma ball_column (h : Unreached g n) :
    (g.frame keycode keycode1).regs.ball.column = g.regs.ball.column + g.regs.ball.dx := by
  have hlow := h.room.column
  have hdx := h.room.dx
  change (g.regs.frame g.clk keycode keycode1).ball.toMover.column = _
  rw [EdgeInv.frame_ball]
  exact Mover.column_advance (by omega) (by omega) _ _ _

lemma room_frame (h : Unreached g n) (hn : 4 ≤ n) (hs : Steady g (.frame keycode keycode1)) :
    Mover.Room (g.frame keycode keycode1).regs.ball.toMover (g.frame keycode keycode1).regs.ai := by
  have ⟨_, _, _, _, hmenu, hcolumn⟩ := hs
  cases hsin : g.regs.sin with
  | true =>
    obtain ⟨hfollows, hx⟩ := h.ai_follows hn keycode keycode1
    exact h.room.step hcolumn h.ball_column hx (h.ball_steps hs hsin) hfollows
  | false =>
    obtain ⟨hst, hpos, hdx⟩ := h.menu hsin
    obtain ⟨-, hlt⟩ := hmenu hsin
    rw [h.ai_frame_of_not_st hst]
    exact Mover.Room.step_menu ⟨hpos, hlt⟩ ⟨hdx, h.room.dx.2⟩ h.ball_column (h.ball_alone hs hsin)

/-- Until a mode is chosen the match does not start. -/
lemma menu_frame (h : Unreached g n) (hs : Steady g (.frame keycode keycode1))
    (hsin : (g.frame keycode keycode1).regs.sin = false) :
    (g.frame keycode keycode1).regs.st = false ∧ 0 ≤ (g.frame keycode keycode1).regs.ball.column ∧
      0 ≤ (g.frame keycode keycode1).regs.ball.dx := by
  have hbefore : g.regs.sin = false := by
    rw [← Bool.not_eq_true] at hsin ⊢
    exact mt (h.mode_frame hs).2 hsin
  obtain ⟨hst, hpos, hdx⟩ := h.menu hbefore
  have ⟨_, _, _, _, hmenu, _⟩ := hs
  refine ⟨?_, ?_, (h.ball_alone hs hbefore).1⟩
  · have hstart : g.regs.ball.start = false := hst
    have henter : Ball.branch (ballPorts g.regs g.clk keycode keycode1) ≠ .enter :=
      fun hb => (hmenu hbefore).1 ((h.ball_branch hs).2 hb)
    simp [Game.frame, FrameRegs.frame, FrameRegs.st, Ball.step, hstart, henter]
  · rw [h.ball_column]
    exact Int.add_nonneg hpos hdx

lemma player2_act (h : Unreached g n) (k : Attack) : g.regs.player2.act.attacks k = false := by
  cases hsin : g.regs.sin with
  | true =>
    rw [FrameRegs.player2_of_single ⟨h.mode, hsin⟩]
    exact h.ai k
  | false =>
    rw [h.player2_of_none hsin]
    cases k <;> rfl

lemma frame (h : Unreached g n) (hn : 4 ≤ n) (hs : Steady g (.frame keycode keycode1)) :
    Unreached (g.frame keycode keycode1) 0 := by
  refine ⟨(h.mode_frame hs).1, h.menu_frame hs, h.room_frame hn hs, ⟨?_, h.ai_floor⟩,
    h.gravity, h.ball_act hs,
    h.ai_act hn, ?_, h.facing, ?_, h.unarmed.frame h.player2_act keycode keycode1⟩
  · change g.regs.ball.ballYPos + g.clk.gravity0.ballYMotion = _
    rw [h.floor.1, h.gravity.1]
    rfl
  · exact fun hst => h.ai_frame_of_not_st (FrameRegs.not_st_of_frame hst)
  · exact h.seen.imp_right (fun hreset => ⟨hreset.1, Or.inl rfl⟩)

end Frame

lemma step (h : Unreached g n) (e : Event) (hs : Steady g e) (hn : Spaced n e) :
    Unreached (g.step e) (countTicks n e) := by
  cases e with
  | tick => exact h.tick
  | frame keycode keycode1 => exact h.frame hn hs
  | reset => exact hs.elim

end Unreached

/-- In every run from `Reset` with at least four edges of `Clk` between frame edges, with the
two-player mode not chosen and the attack machines of player 2 at rest in the beginning: as
long as player 1 neither turns left nor jumps, stays before column 550, before column 528
until the one-player mode is chosen, and does not walk on under Enter, `AI` stays to its
right, attacks in no frame, and player 1 loses nothing. -/
theorem steady_unharmed (g : Game) (hmode : g.regs.du = false) (hstand : ∀ k, g.regs.anim2.stage k = 0)
    {es : List Event} (hspaced : Meets countTicks Spaced 4 es)
    (hsteady : Meets Game.step Steady g.reset es) :
    (run Game.step g.reset es).regs.ball.column < (run Game.step g.reset es).regs.ai.x ∧
    (∀ k, (run Game.step g.reset es).regs.ai.act.attacks k = false) ∧
    (run Game.step g.reset es).clk.hp.back1 = 0#2 ∧
    (run Game.step g.reset es).clk.hp.hpbar1 = 200#8 := by
  have hend := hsteady.invariant_monitor (I := Unreached) (fun g n e h hs hn => h.step e hs hn) hspaced
    (Unreached.reset hmode hstand 4)
  exact ⟨hend.room.lt, hend.ai, hend.unarmed.code, hend.unarmed.bar⟩

/-- Player 1 comes nearer in the menu, chooses the mode and starts the match, walks up to
`AI` and kicks. -/
def faceAndKick : List Event :=
  heldShort 20 0x0007 0 ++ heldShort 1 0 0 ++ heldShort 1 0x004B 0 ++ heldShort 1 0x0028 0 ++
    heldShort 40 0x0007 0 ++ heldShort 90 0x0018 0

theorem steady_unharmed_faceAndKick :
    (run Game.step (Game.powerUp .normal).reset faceAndKick).clk.hp.hpbar1 = 200#8 := by
  have hstand : ∀ k, (Game.powerUp .normal).regs.anim2.stage k = 0 := by
    intro k
    cases k <;> rfl
  have hspaced : Meets countTicks Spaced 4 faceAndKick := by decide +kernel
  have hsteady : Meets Game.step Steady (Game.powerUp .normal).reset faceAndKick := by decide +kernel
  exact (steady_unharmed (Game.powerUp .normal) rfl hstand hspaced hsteady).2.2.2

example : (run Game.step (Game.powerUp .normal).reset faceAndKick).clk.hp.hpbar2 = 172#8 := by
  decide +kernel

end StickFigureFighting
