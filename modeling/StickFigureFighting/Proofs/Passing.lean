import StickFigureFighting.Proofs.ActionGuards
import StickFigureFighting.Proofs.ScreenEdges

/-!
# Passing each other

A controller meets the opponent as it meets an edge: a figure with the other one at most 40
columns ahead sets a motion away from it. The test reads the columns before the update, and
the edge tests come first, so a figure may still be moved towards its opponent by two
latched motions and by pushes from an edge. The invariant keeps room for all of these.
-/

namespace StickFigureFighting
open Library

/-! ### The room between the figures -/

lemma IsStep.le {d : ℤ} (h : IsStep d) : -8 ≤ d ∧ d ≤ 8 := by
  unfold IsStep at h
  omega

namespace Mover

/-- `m` stands to the left of `o`, and still does after the motions latched and after the
pushes to come: at the left edge `m` is pushed as far as column 12, and at the right edge
`o` as far back as column 557. -/
structure Apart (m o : Mover) : Prop where
  lt : m.x < o.x
  next : m.x + m.dx < o.x + o.dx
  left : 12 < o.x + o.dx
  leftPush : m.x ≤ 10 → m.x + m.dx + 1 < o.x + o.dx
  rightPush : m.x + m.dx < 557 → 559 ≤ o.x → m.x + m.dx + 1 < o.x + o.dx

/-- What a figure still does with its opponent at most 40 columns to the right. -/
def Blocked (m m' : Mover) : Prop := m'.dx ≤ 0 ∨ m.x ≤ 10 ∧ m'.dx = 1

/-- What a figure still does with its opponent `m` at most 40 columns to the left. -/
def BlockedBy (m o o' : Mover) : Prop :=
  0 ≤ o'.dx ∨ 559 ≤ o.x ∧ m.x + m.dx + 1 < o.x + o.dx ∧ o'.dx = -1

variable {m o m' o' : Mover}

lemma x_nonneg (m : Mover) : 0 ≤ m.x := by simp [x]

lemma apart_of_far (hm : m.Bounded) (ho : o.Bounded) (hfar : m.x + 40 < o.x) : Apart m o := by
  have hx := m.x_nonneg
  have hdm := hm.isStep.le
  have hdo := ho.isStep.le
  exact ⟨by omega, by omega, by omega, by omega, by omega⟩

/-- From more than 40 columns the motions latched and those of the next update leave room. -/
lemma Apart.of_far_step (hm : m.Bounded) (ho : o.Bounded) (hm' : m'.Bounded) (ho' : o'.Bounded)
    (hmx : m'.x = m.x + m.dx) (hox : o'.x = o.x + o.dx) (hfar : m.x + 40 < o.x) : Apart m' o' := by
  have hx := m.x_nonneg
  have hdm := hm.isStep.le
  have hdo := ho.isStep.le
  have hdm' := hm'.isStep.le
  have hdo' := ho'.isStep.le
  exact ⟨by omega, by omega, by omega, by omega, by omega⟩

lemma Apart.step (h : Apart m o) (hm : m.Bounded) (ho : o.Bounded) (hm' : m'.Bounded) (ho' : o'.Bounded)
    (hmx : m'.x = m.x + m.dx) (hox : o'.x = o.x + o.dx)
    (hblock : o.x ≤ m.x + 40 → Blocked m m' ∧ BlockedBy m o o') : Apart m' o' := by
  by_cases hfar : m.x + 40 < o.x
  · exact .of_far_step hm ho hm' ho' hmx hox hfar
  have hx := m.x_nonneg
  have hdm := hm.isStep.le
  obtain ⟨hlt, hnext, hleft, hleftPush, hrightPush⟩ := h
  obtain ⟨hm', ho'⟩ := hblock (not_lt.1 hfar)
  unfold Blocked at hm'
  unfold BlockedBy at ho'
  exact ⟨by omega, by omega, by omega, by omega, by omega⟩

end Mover

/-! ### The tests of a blocked figure -/

namespace Mover

variable {m o : Mover} {p : MoverPorts}

lemma near1_comm (m o : Mover) : m.near1 o.ballYPos = o.near1 m.ballYPos := by
  unfold near1
  exact Bool.or_comm _ _

lemma bumpRight_of (ho : p.ballX1 = o.ballXPos) (hlt : m.x < o.x) (hle : o.x ≤ m.x + 40)
    (hnear : m.near1 p.ballY1) : m.bumpRight p := by
  simp only [x] at hlt hle
  simp only [bumpRight, ho, hnear, Bool.and_true, Bool.and_eq_true, decide_eq_true_eq]
  bv_omega

lemma bumpLeft_of (ho : p.ballX1 = o.ballXPos) (hlt : o.x < m.x) (hle : m.x ≤ o.x + 40)
    (hnear : m.near1 p.ballY1) : m.bumpLeft p := by
  simp only [x] at hlt hle
  simp only [bumpLeft, ho, hnear, Bool.and_true, Bool.and_eq_true, decide_eq_true_eq]
  bv_omega

lemma not_bumpLeft_and_bumpRight (hl : m.bumpLeft p) (hr : m.bumpRight p) : False := by
  simp only [bumpLeft, bumpRight, Bool.and_eq_true, decide_eq_true_eq] at hl hr
  exact BitVec.lt_asymm hl.1.1 hr.1.1

lemma of_rightTest (hx : m.x ≤ 616) (ht : m.rightTest p) : 559 ≤ m.x ∨ m.bumpRight p := by
  simp only [rightTest, Bool.or_eq_true, decide_eq_true_eq] at ht
  refine ht.imp_left ?_
  intro hedge
  simp only [x] at hx ⊢
  bv_omega

section Right

variable (hbump : m.bumpRight p)
include hbump

lemma rightFirstCourse_of_bumpRight (motion : BitVec 10) : m.rightFirstCourse p motion = .pushLeft := by
  have ht : m.rightTest p := by simp [rightTest, hbump]
  simp [rightFirstCourse, ht]

lemma leftFirstCourse_of_bumpRight (motion : BitVec 10) :
    m.leftFirstCourse p motion = .pushLeft ∨ m.x ≤ 10 ∧ m.leftFirstCourse p motion = .pushRight := by
  have hr : m.rightTest p := by simp [rightTest, hbump]
  cases hl : m.leftTest p with
  | false => exact Or.inl (by simp [leftFirstCourse, hl, hr])
  | true =>
    refine Or.inr ⟨?_, by simp [leftFirstCourse, hl]⟩
    exact (of_leftTest hl).resolve_right fun hbl => not_bumpLeft_and_bumpRight hbl hbump

end Right

section Left

variable (hbump : m.bumpLeft p) (hx : m.x ≤ 616)
include hbump

lemma leftTest_of_bumpLeft : m.leftTest p := by simp [leftTest, hbump]

include hx

lemma le_of_rightTest (ht : m.rightTest p) : 559 ≤ m.x :=
  (of_rightTest hx ht).resolve_right (not_bumpLeft_and_bumpRight hbump)

lemma rightFirstCourse_of_bumpLeft (motion : BitVec 10) :
    m.rightFirstCourse p motion = .pushRight ∨ 559 ≤ m.x ∧ m.rightFirstCourse p motion = .pushLeft := by
  have hl := leftTest_of_bumpLeft hbump
  cases hr : m.rightTest p with
  | false => exact Or.inl (by simp [rightFirstCourse, hl, hr])
  | true => exact Or.inr ⟨le_of_rightTest hbump hx hr, by simp [rightFirstCourse, hr]⟩

end Left

end Mover

section Courses

variable {m : Mover} {p : MoverPorts}

/-- Before an opponent on its right player 1 steps back or stays, but for the push from the
left edge and for Enter. -/
lemma Ball.step_of_bumpRight (hbump : m.bumpRight p) (br : Branch) (henter : br = .enter → m.dx ≤ 0) :
    m.step (Ball.course m p br) ≤ 0 ∨ m.x ≤ 10 ∧ m.step (Ball.course m p br) = 1 := by
  have hpush : m.step .pushLeft ≤ 0 := by simp [Mover.step]
  cases br with
  | win | idle => exact Or.inl le_rfl
  | enter => exact Or.inl (henter rfl)
  | left =>
    rcases Mover.leftFirstCourse_of_bumpRight hbump (twosComplement 5#10) with hc | ⟨hx, hc⟩
    · exact Or.inl (by rw [Ball.course, hc]; exact hpush)
    · exact Or.inr ⟨hx, by rw [Ball.course, hc]; rfl⟩
  | _ =>
    left
    rw [Ball.course, Mover.rightFirstCourse_of_bumpRight hbump]
    exact hpush

/-- Before an opponent on its left player 2 steps back or stays, but for the push from the
right edge. -/
lemma step_of_rightFirst (hbump : m.bumpLeft p) (hx : m.x ≤ 616) (motion : BitVec 10) :
    0 ≤ m.step (m.rightFirstCourse p motion) ∨ 559 ≤ m.x ∧ m.rightFirstCourse p motion = .pushLeft := by
  refine (Mover.rightFirstCourse_of_bumpLeft hbump hx motion).imp_left ?_
  intro hc
  rw [hc]
  exact Int.one_nonneg

lemma BallSecond.step_of_bumpLeft (hbump : m.bumpLeft p) (hx : m.x ≤ 616) {br : Branch}
    (hbr : br ≠ .enter) :
    0 ≤ m.step (BallSecond.course m p br) ∨ 559 ≤ m.x ∧ BallSecond.course m p br = .pushLeft := by
  cases br with
  | win | idle => exact Or.inl le_rfl
  | enter => exact absurd rfl hbr
  | _ => exact step_of_rightFirst hbump hx _

lemma AI.step_of_bumpLeft (hbump : m.bumpLeft p) (hx : m.x ≤ 616) {br : Branch} (hbr : br ≠ .enter) :
    0 ≤ m.step (AI.course m p br) ∨ 559 ≤ m.x ∧ AI.course m p br = .pushLeft := by
  cases br with
  | win | idle => exact Or.inl le_rfl
  | enter => exact absurd rfl hbr
  | left =>
    have hl := Mover.leftTest_of_bumpLeft hbump
    left
    rw [AI.course, if_pos hl]
    exact Int.one_nonneg
  | right =>
    by_cases hr : m.rightTest p
    · exact Or.inr ⟨Mover.le_of_rightTest hbump hx hr, by rw [AI.course, if_pos hr]⟩
    · left
      rw [AI.course, if_neg hr]
      exact (by decide : (0 : ℤ) ≤ (5#10).toInt)
  | _ => exact step_of_rightFirst hbump hx _

end Courses

/-! ### The game -/

namespace FrameRegs

variable (f : FrameRegs)

/-- The registers before a frame edge with the mode that is selected after it. -/
def switch (keycode : BitVec 16) : FrameRegs :=
  { f with indicator := f.indicator.step f.st (keycode.extractLsb' 0 8) }

/-- Player 2's column exceeds player 1's by more than 40. -/
def Far : Prop := f.ball.ballXPos.toNat + 40 < f.player2.ballxsig1.toNat

def InOrder : Prop := f.ball.ballXPos < f.player2.ballxsig1

instance : Decidable f.Far := inferInstanceAs (Decidable (_ < _))

instance : Decidable f.InOrder := inferInstanceAs (Decidable (_ < _))

end FrameRegs

/-- The frame edge keeps the figures apart: it is edge-safe, a change of mode finds the other
player 2 far to the right, Enter does not prolong a step towards an opponent that is near,
and the right edge does not push `AI` from the column beside a near player 1. -/
def PassSafe (g : Game) (e : Event) : Prop :=
  EdgeSafe g e ∧
  match e with
  | .tick | .reset => True
  | .frame keycode keycode1 =>
    ((g.regs.switch keycode).du = g.regs.du ∧ (g.regs.switch keycode).sin = g.regs.sin ∨
      (g.regs.switch keycode).Far) ∧
    (Ball.branch (ballPorts g.regs g.clk keycode keycode1) = .enter →
      g.regs.ball.bumpRight (ballPorts g.regs g.clk keycode keycode1) → g.regs.ball.dx ≤ 0) ∧
    (g.regs.st ∧ g.regs.du = false ∧ g.regs.sin → g.regs.aiCourse g.clk keycode keycode1 = .pushLeft →
      g.regs.ai.bumpLeft (player2Ports g.regs g.clk keycode keycode1) →
        g.regs.ball.x + g.regs.ball.dx + 1 < g.regs.ai.x + g.regs.ai.dx)

instance (g : Game) : (e : Event) → Decidable (PassSafe g e)
  | .tick | .reset => inferInstanceAs (Decidable (EdgeSafe _ _ ∧ True))
  | .frame _ _ => inferInstanceAs (Decidable (_ ∧ _ ∧ _ ∧ _))

structure PassInv (f : FrameRegs) : Prop where
  edge : EdgeInv f
  apart : ∃ o ∈ f.selected, Mover.Apart f.ball.toMover o
  dual : f.du → f.ball.x + f.ball.dx < 557

namespace PassInv

variable {f : FrameRegs} {c : ClkRegs} {keycode keycode1 : BitVec 16}

lemma player2_of_selected {o : Mover} (ho : o ∈ f.selected) : f.player2 = Player2.ofMover o := by
  unfold FrameRegs.selected at ho
  unfold FrameRegs.player2 modeChoose
  split at ho
  · rename_i hd
    cases ho
    rw [if_pos hd]
  · rename_i hd
    split at ho
    · rename_i hs
      cases ho
      rw [if_neg hd, if_pos hs]
    · cases ho

lemma inOrder (h : PassInv f) : f.InOrder := by
  obtain ⟨o, ho, hapart⟩ := h.apart
  have hlt := hapart.lt
  unfold FrameRegs.InOrder
  rw [player2_of_selected ho]
  simp only [Player2.ofMover, Mover.x] at hlt ⊢
  bv_omega

/-- Before a mode is selected `mode_choose` reports column 0, which is not far from anything. -/
lemma selected_of_far (hfar : f.Far) : ∃ o ∈ f.selected, f.ball.x + 40 < o.x := by
  have hsel : ∀ o, f.selected = some o → ∃ o ∈ f.selected, f.ball.x + 40 < o.x := by
    intro o ho
    refine ⟨o, ho, ?_⟩
    rw [FrameRegs.Far, player2_of_selected ho] at hfar
    simp only [Mover.x]
    exact_mod_cast hfar
  cases hd : f.du with
  | true => exact hsel f.ballSecond (by simp [FrameRegs.selected, hd])
  | false =>
    cases hs : f.sin with
    | true => exact hsel f.ai (by simp [FrameRegs.selected, hd, hs])
    | false => simp [FrameRegs.Far, FrameRegs.player2, modeChoose, hd, hs] at hfar

lemma of_far (h : EdgeInv f) (hfar : f.Far) : PassInv f := by
  obtain ⟨o, ho, hlt⟩ := selected_of_far hfar
  have hbounded := h.selected_bounded ho
  refine ⟨h, ⟨o, ho, Mover.apart_of_far h.ball hbounded hlt⟩, ?_⟩
  intro hd
  have hdx := h.ball.isStep.le
  have hlow := (h.ballSecond (Or.inr hd)).2.x_le
  unfold FrameRegs.selected at ho
  rw [if_pos hd] at ho
  cases ho
  omega

section Frame

variable {o : Mover}

lemma near1_of_selected (ho : o ∈ f.selected) (hnear : f.near1) : f.ball.near1 o.ballYPos := by
  rw [FrameRegs.near1, player2_of_selected ho] at hnear
  exact hnear

lemma ball_blocked (ho : o ∈ f.selected) (hnear : f.near1) (hlt : f.ball.x < o.x)
    (hle : o.x ≤ f.ball.x + 40)
    (henter : Ball.branch (ballPorts f c keycode keycode1) = .enter →
      f.ball.bumpRight (ballPorts f c keycode keycode1) → f.ball.dx ≤ 0) :
    Mover.Blocked f.ball.toMover (f.frame c keycode keycode1).ball.toMover := by
  have hports : (ballPorts f c keycode keycode1).ballX1 = o.ballXPos := by
    rw [ballPorts, player2_of_selected ho]
    rfl
  have hbump : f.ball.bumpRight (ballPorts f c keycode keycode1) :=
    Mover.bumpRight_of hports hlt hle hnear
  unfold Mover.Blocked
  rw [EdgeInv.frame_ball, Mover.dx_advance]
  exact Ball.step_of_bumpRight hbump _ fun hbr => henter hbr hbump

lemma bumpLeft_of_selected (ho : o ∈ f.selected) (hnear : f.near1) (hlt : f.ball.x < o.x)
    (hle : o.x ≤ f.ball.x + 40) : o.bumpLeft (player2Ports f c keycode keycode1) := by
  apply Mover.bumpLeft_of (o := f.ball.toMover) rfl hlt hle
  change o.near1 f.ball.ballYPos
  rw [Mover.near1_comm]
  exact near1_of_selected ho hnear

lemma blockedBy_of_step {m o' : Mover} {course : Course} (hdx : o'.dx = o.step course)
    (hstep : 0 ≤ o.step course ∨ 559 ≤ o.x ∧ course = .pushLeft)
    (hroom : 559 ≤ o.x → course = .pushLeft → m.x + m.dx + 1 < o.x + o.dx) : Mover.BlockedBy m o o' := by
  unfold Mover.BlockedBy
  rw [hdx]
  refine hstep.imp_right ?_
  rintro ⟨hedge, rfl⟩
  exact ⟨hedge, hroom hedge rfl, rfl⟩

lemma ballSecond_blockedBy (h : EdgeInv f) (hd : f.du) (hnear : f.near1)
    (hlt : f.ball.x < f.ballSecond.x) (hle : f.ballSecond.x ≤ f.ball.x + 40)
    (hroom : 559 ≤ f.ballSecond.x → f.ball.x + f.ball.dx + 1 < f.ballSecond.x + f.ballSecond.dx) :
    Mover.BlockedBy f.ball.toMover f.ballSecond (f.frame c keycode keycode1).ballSecond := by
  have ho : f.ballSecond ∈ f.selected := by simp [FrameRegs.selected, hd]
  have hbump : f.ballSecond.bumpLeft (player2Ports f c keycode keycode1) :=
    bumpLeft_of_selected ho hnear hlt hle
  have hstep := BallSecond.step_of_bumpLeft hbump (h.selected_bounded ho).x_le
    (BallSecond.branch_ne_enter (player2Ports f c keycode keycode1))
  apply blockedBy_of_step ?_ hstep fun hedge _ => hroom hedge
  rw [EdgeInv.frame_ballSecond, Mover.dx_advance]
  rfl

lemma ai_blockedBy (h : EdgeInv f) (hd : f.du = false) (hsin : f.sin) (hnear : f.near1)
    (hlt : f.ball.x < f.ai.x) (hle : f.ai.x ≤ f.ball.x + 40)
    (hsafe : f.st ∧ f.du = false ∧ f.sin → f.aiCourse c keycode keycode1 = .pushLeft →
      f.ai.bumpLeft (player2Ports f c keycode keycode1) →
        f.ball.x + f.ball.dx + 1 < f.ai.x + f.ai.dx) :
    Mover.BlockedBy f.ball.toMover f.ai (f.frame c keycode keycode1).ai := by
  have ho : f.ai ∈ f.selected := by simp [FrameRegs.selected, hd, hsin]
  cases hst : f.st with
  | false =>
    left
    rw [FrameRegs.ai_frame_of_not_st hst, h.parked hst]
    exact le_rfl
  | true =>
    have hbump : f.ai.bumpLeft (player2Ports f c keycode keycode1) :=
      bumpLeft_of_selected ho hnear hlt hle
    have hstep := AI.step_of_bumpLeft hbump (h.selected_bounded ho).x_le
      (AI.branch_ne_enter f.ai (player2Ports f c keycode keycode1))
    apply blockedBy_of_step ?_ hstep fun _ hpush => hsafe ⟨hst, hd, hsin⟩ hpush hbump
    rw [EdgeInv.frame_ai hst, Mover.dx_advance]
    rfl

lemma edgeInv_switch (h : EdgeInv f) (keycode : BitVec 16) : EdgeInv (f.switch keycode) := by
  cases hst : f.st with
  | true =>
    have heq : f.switch keycode = f := by simp [FrameRegs.switch, Indicator.step, hst]
    rw [heq]
    exact h
  | false =>
    refine ⟨h.ball, fun _ => h.ballSecond (Or.inl hst), h.parked, ?_⟩
    intro hst'
    exact absurd (hst.symm.trans hst') Bool.false_ne_true

/-- The player 2 that is selected after the edge makes the update of the one before it. -/
lemma selected_frame (h : EdgeInv f) (c : ClkRegs) (keycode1 : BitVec 16)
    (ho : o ∈ (f.switch keycode).selected) :
    ∃ o' ∈ (f.frame c keycode keycode1).selected, o'.x = o.x + o.dx ∧
      ((f.switch keycode).du → o = f.ballSecond ∧ o' = (f.frame c keycode keycode1).ballSecond) ∧
      ((f.switch keycode).du = false →
        (f.switch keycode).sin ∧ o = f.ai ∧ o' = (f.frame c keycode keycode1).ai) := by
  have hbounded := (edgeInv_switch h keycode).selected_bounded ho
  cases hd : (f.switch keycode).du with
  | true =>
    have hsel' : (f.frame c keycode keycode1).selected =
        some (f.frame c keycode keycode1).ballSecond := by
      rw [FrameRegs.selected, if_pos (show (f.frame c keycode keycode1).du from hd)]
    rw [FrameRegs.selected, if_pos hd] at ho
    cases ho
    refine ⟨_, hsel', ?_, fun _ => ⟨rfl, rfl⟩, by simp⟩
    rw [EdgeInv.frame_ballSecond]
    exact Mover.x_advance hbounded _ _ _
  | false =>
    have hd' : ¬(f.switch keycode).du := Bool.eq_false_iff.1 hd
    cases hs : (f.switch keycode).sin with
    | false =>
      rw [FrameRegs.selected, if_neg hd', if_neg (by simp [hs])] at ho
      cases ho
    | true =>
      have hsel' : (f.frame c keycode keycode1).selected = some (f.frame c keycode keycode1).ai := by
        rw [FrameRegs.selected, if_neg (show ¬(f.frame c keycode keycode1).du from hd'),
          if_pos (show (f.frame c keycode keycode1).sin from hs)]
      rw [FrameRegs.selected, if_neg hd', if_pos hs] at ho
      cases ho
      refine ⟨_, hsel', ?_, by simp, fun _ => ⟨rfl, rfl, rfl⟩⟩
      cases hst : f.st with
      | true =>
        rw [EdgeInv.frame_ai hst]
        exact Mover.x_advance hbounded _ _ _
      | false =>
        have hdx : f.ai.dx = 0 := by
          rw [h.parked hst]
          rfl
        rw [FrameRegs.ai_frame_of_not_st hst]
        change f.ai.x = f.ai.x + f.ai.dx
        rw [hdx, add_zero]

lemma frame_ball_x (h : EdgeInv f) (c : ClkRegs) (keycode keycode1 : BitVec 16) :
    (f.frame c keycode keycode1).ball.x = f.ball.x + f.ball.dx := by
  rw [EdgeInv.frame_ball]
  exact Mover.x_advance h.ball _ _ _

/-- In two-player mode player 1 does not come to column 557: it walks there only with
player 2 beyond column 574. -/
lemma dual_of_far {m' : Mover} (h : EdgeInv f) (hd : (f.switch keycode).du)
    (ho : o ∈ (f.switch keycode).selected) (hfar : f.ball.x + 40 < o.x)
    (hmx : m'.x = f.ball.x + f.ball.dx) (hm' : m'.Bounded) : m'.x + m'.dx < 557 := by
  have hlow := ((edgeInv_switch h keycode).ballSecond (Or.inr hd)).2.x_le
  have hdx := h.ball.isStep.le
  have hdx' := hm'.isStep.le
  rw [FrameRegs.selected, if_pos hd] at ho
  cases ho
  omega

lemma frame_kept {g : Game} (h : PassInv g.regs) (hedge' : EdgeInv (g.frame keycode keycode1).regs)
    (hnear : g.regs.near1) (hs : PassSafe g (.frame keycode keycode1))
    (hd : (g.regs.switch keycode).du = g.regs.du) (hsin : (g.regs.switch keycode).sin = g.regs.sin) :
    PassInv (g.frame keycode keycode1).regs := by
  obtain ⟨-, -, henter, hai⟩ := hs
  obtain ⟨o, ho, hapart⟩ := h.apart
  have hsel : (g.regs.switch keycode).selected = g.regs.selected := by
    rw [FrameRegs.selected, FrameRegs.selected, hd, hsin]
    rfl
  have hmx := frame_ball_x h.edge g.clk keycode keycode1
  obtain ⟨o', ho', hox, hdual, hsingle⟩ := selected_frame h.edge g.clk keycode1 (hsel.symm ▸ ho)
  have hblock : o.x ≤ g.regs.ball.x + 40 →
      Mover.Blocked g.regs.ball.toMover (g.frame keycode keycode1).regs.ball.toMover ∧
      Mover.BlockedBy g.regs.ball.toMover o o' := by
    intro hle
    refine ⟨ball_blocked ho hnear hapart.lt hle henter, ?_⟩
    cases hdu : (g.regs.switch keycode).du with
    | true =>
      obtain ⟨rfl, rfl⟩ := hdual hdu
      have hnext := h.dual (hd.symm.trans hdu)
      exact ballSecond_blockedBy h.edge (hd.symm.trans hdu) hnear hapart.lt hle (hapart.rightPush hnext)
    | false =>
      obtain ⟨hs, rfl, rfl⟩ := hsingle hdu
      exact ai_blockedBy h.edge (hd.symm.trans hdu) (hsin.symm.trans hs) hnear hapart.lt hle hai
  refine ⟨hedge', ⟨o', ho', ?_⟩, ?_⟩
  · exact hapart.step h.edge.ball (h.edge.selected_bounded ho) hedge'.ball (hedge'.selected_bounded ho')
      hmx hox hblock
  · intro hdu'
    by_cases hfar : g.regs.ball.x + 40 < o.x
    · exact dual_of_far h.edge hdu' (hsel.symm ▸ ho) hfar hmx hedge'.ball
    · have hnext := h.dual (hd.symm.trans hdu')
      have hdx := h.edge.ball.isStep.le
      have hblocked := (hblock (not_lt.1 hfar)).1
      unfold Mover.Blocked at hblocked
      change (g.regs.frame g.clk keycode keycode1).ball.x + _ < 557
      omega

/-- With another player 2 after the edge, which stands far to the right. -/
lemma frame_switched {g : Game} (h : EdgeInv g.regs) (hedge' : EdgeInv (g.frame keycode keycode1).regs)
    (hfar : (g.regs.switch keycode).Far) : PassInv (g.frame keycode keycode1).regs := by
  obtain ⟨o, ho, hlt⟩ := selected_of_far hfar
  have hmx := frame_ball_x h g.clk keycode keycode1
  obtain ⟨o', ho', hox, -, -⟩ := selected_frame h g.clk keycode1 ho
  refine ⟨hedge', ⟨o', ho', ?_⟩, ?_⟩
  · exact .of_far_step h.ball ((edgeInv_switch h keycode).selected_bounded ho) hedge'.ball
      (hedge'.selected_bounded ho') hmx hox hlt
  · intro hdu'
    exact dual_of_far h hdu' ho hlt hmx hedge'.ball

lemma frame {g : Game} (h : PassInv g.regs) (hnear : g.regs.near1)
    (hs : PassSafe g (.frame keycode keycode1)) : PassInv (g.frame keycode keycode1).regs := by
  have hedge' : EdgeInv (g.frame keycode keycode1).regs := h.edge.frame hs.1
  rcases hs.2.1 with ⟨hd, hsin⟩ | hfar
  · exact h.frame_kept hedge' hnear hs hd hsin
  · exact frame_switched h.edge hedge' hfar

end Frame

/-- `Reset` keeps the mode and puts both players back to their columns 0 and 539. -/
lemma reset (h : PassInv f) : PassInv f.reset := by
  refine of_far (EdgeInv.reset f) ?_
  obtain ⟨o, ho, -⟩ := h.apart
  have hplayer2 : f.reset.player2 = Player2.ofMover AI.reset := by
    unfold FrameRegs.selected at ho
    unfold FrameRegs.player2 modeChoose
    split at ho
    · rename_i hd
      exact if_pos hd
    · rename_i hd
      split at ho
      · rename_i hs
        exact (if_neg hd).trans (if_pos hs)
      · cases ho
  unfold FrameRegs.Far
  rw [hplayer2]
  exact (by decide : (0#10).toNat + 40 < (539#10).toNat)

lemma step (g : Game) (e : Event) (h : PassInv g.regs) (hs : g.regs.near1 ∧ PassSafe g e) :
    PassInv (g.step e).regs := by
  cases e with
  | tick => exact h
  | frame keycode keycode1 => exact h.frame hs.1 hs.2
  | reset => exact h.reset

end PassInv

/-- In every run from `Reset` whose frame edges are edge-safe, from a state with player 2
more than 40 columns to the right: while the heights stay near and the frame edges keep the
figures apart, player 2 stays to the right. -/
theorem players_inOrder (g : Game) {es fs : List Event} (hedge : Meets Game.step EdgeSafe g.reset es)
    (hfar : (run Game.step g.reset es).regs.Far)
    (hnear : Meets Game.step (fun g _ => g.regs.near1) (run Game.step g.reset es) fs)
    (hsafe : Meets Game.step PassSafe (run Game.step g.reset es) fs) :
    (run Game.step g.reset (es ++ fs)).regs.InOrder := by
  have hinv : EdgeInv (run Game.step g.reset es).regs :=
    hedge.invariant (I := fun g => EdgeInv g.regs) EdgeInv.step (EdgeInv.reset g.regs)
  rw [run_append]
  exact ((hnear.and hsafe).invariant (I := fun g => PassInv g.regs) PassInv.step
    (PassInv.of_far hinv hfar)).inOrder

theorem players_inOrder_walk :
    (run Game.step (Game.powerUp .normal).reset
      ((heldShort 1 0x004E 0 ++ heldShort 55 0x5007 0) ++
        (heldShort 6 0x5007 0 ++ heldShort 2 0x0004 0))).regs.InOrder :=
  players_inOrder (Game.powerUp .normal) (by decide +kernel) (by decide +kernel) (by decide +kernel)
    (by decide +kernel)

/-- Player 2 starts far to the right and the heights stay near, but it ends up elsewhere. -/
def Passed (es fs : List Event) : Prop :=
  (run Game.step (Game.powerUp .normal).reset es).regs.Far ∧
  Meets Game.step (fun g _ => g.regs.near1) (run Game.step (Game.powerUp .normal).reset es) fs ∧
  ¬(run Game.step (Game.powerUp .normal).reset (es ++ fs)).regs.InOrder

instance (es fs : List Event) : Decidable (Passed es fs) := inferInstanceAs (Decidable (_ ∧ _ ∧ _))

/-- Player 1 follows `AI` to the right edge, hits it twice, which brings it back nearer than
it would come itself, and turns round. -/
def edgeBrawl : List Event :=
  heldShort 110 0x0007 0 ++ heldShort 1 0x0028 0 ++ heldShort 10 0 0 ++
    (List.replicate 6 (heldShort 2 0x0007 0 ++ heldShort 20 0 0)).flatten ++
    heldShort 8 0x000C 0 ++ heldShort 32 0 0 ++ heldShort 1 0x0018 0 ++ heldShort 31 0 0 ++
    heldShort 1 0x0004 0 ++ heldShort 17 0 0

/-- Enter is held while player 1 runs, a mode key in the menu puts `ball_second` for `AI`,
player 1 kicks from column 0, and `AI` steps back from the right edge into player 1. -/
theorem players_passed :
    Passed (heldShort 1 0x004E 0 ++ heldShort 50 0x5007 0) (heldShort 20 0x0028 0) ∧
    Passed (heldShort 1 0x004E 0 ++ heldShort 50 0x5000 0 ++ heldShort 1 0x004B 0)
      (heldShort 70 0x0007 0 ++ heldShort 1 0x004E 0) ∧
    Passed (heldShort 1 0x004E 0) (heldShort 120 0x0050 0 ++ heldShort 2 0x0018 0) ∧
    Passed (heldShort 1 0x004B 0) edgeBrawl :=
  ⟨by decide +kernel, by decide +kernel, by decide +kernel, by decide +kernel⟩

end StickFigureFighting
