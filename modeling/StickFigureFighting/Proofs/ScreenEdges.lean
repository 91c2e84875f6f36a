import StickFigureFighting.Proofs.Reachable
import Mathlib.Tactic.ByContra

/-!
# The edges of the screen

A controller sets the motion of the next update from the column before the current one,
so the edge tests work with one frame of lag. On the right they leave room for that, as
long as not both figures have been pushed past column 574. On the left they fail in
three ways, and `EdgeSafe` names the steps in which that happens.
-/

namespace StickFigureFighting
open Library

/-! ### Courses -/

/-- How a branch of `Move_Ball` ends: without motion, with a step away from the side that
blocks the figure, with the step of the branch, or with the motion it found. -/
inductive Course where
  | stop
  | pushLeft
  | pushRight
  | go (motion : BitVec 10)
  | keep
deriving DecidableEq, Repr

def Course.motion (old : BitVec 10) : Course → BitVec 10
  | .stop => 0#10
  | .pushLeft => twosComplement 1#10
  | .pushRight => 1#10
  | .go motion => motion
  | .keep => old

namespace Mover

variable (m : Mover) (p : MoverPorts)

def x : ℤ := m.ballXPos.toNat

def dx : ℤ := m.ballXMotion.toInt

def rightFirstCourse (motion : BitVec 10) : Course :=
  if m.rightTest p then .pushLeft else if m.leftTest p then .pushRight else .go motion

def leftFirstCourse (motion : BitVec 10) : Course :=
  if m.leftTest p then .pushRight else if m.rightTest p then .pushLeft else .go motion

lemma rightFirst_eq (old motion : BitVec 10) :
    m.rightFirst p motion = (m.rightFirstCourse p motion).motion old := by
  unfold rightFirst rightFirstCourse
  split
  · rfl
  · split <;> rfl

lemma leftFirst_eq (old motion : BitVec 10) :
    m.leftFirst p motion = (m.leftFirstCourse p motion).motion old := by
  unfold leftFirst leftFirstCourse
  split
  · rfl
  · split <;> rfl

/-- Testing both sides again under the direction keys, as `ball` does, changes nothing. -/
lemma rightFirst_rightFirst (key key' : Bool) (a b c : BitVec 10) :
    m.rightFirst p (if key then m.rightFirst p a else if key' then m.rightFirst p b else c) =
      m.rightFirst p (if key then a else if key' then b else c) := by
  unfold rightFirst
  split
  · rfl
  · split <;> rfl

end Mover

def Ball.course (m : Mover) (p : MoverPorts) : Branch → Course
  | .win | .idle => .stop
  | .back2 => m.rightFirstCourse p (p.alongFacing 8#10)
  | .back1 => m.rightFirstCourse p (p.alongFacing 1#10)
  | .kick | .fight | .dodge => m.rightFirstCourse p 0#10
  | .jump => m.rightFirstCourse p
      (if p.key 0x04 then twosComplement 5#10 else if p.key 0x07 then 5#10 else 0#10)
  | .left => m.leftFirstCourse p (twosComplement 5#10)
  | .right => m.rightFirstCourse p 5#10
  | .enter => .keep

def BallSecond.course (m : Mover) (p : MoverPorts) : Branch → Course
  | .win | .idle => .stop
  | .back2 => m.rightFirstCourse p (p.alongFacing 8#10)
  | .back1 => m.rightFirstCourse p (p.alongFacing 1#10)
  | .kick | .fight | .dodge => m.rightFirstCourse p 0#10
  | .jump => m.rightFirstCourse p
      (if p.key 0x50 then twosComplement 5#10 else if p.key 0x4F then 5#10 else 0#10)
  | .left => m.rightFirstCourse p (twosComplement 5#10)
  | .right => m.rightFirstCourse p 5#10
  | .enter => .keep

def AI.course (m : Mover) (p : MoverPorts) : Branch → Course
  | .win | .idle => .stop
  | .back2 => m.rightFirstCourse p (p.alongFacing 8#10)
  | .back1 => m.rightFirstCourse p (p.alongFacing 1#10)
  | .kick | .fight | .dodge => m.rightFirstCourse p 0#10
  | .jump => m.rightFirstCourse p (p.alongFacing 5#10)
  | .left => if m.leftTest p then .pushRight else .go (twosComplement 5#10)
  | .right => if m.rightTest p then .pushLeft else .go 5#10
  | .enter => .keep

lemma Ball.motion_eq (m : Mover) (p : MoverPorts) (br : Branch) :
    Ball.motion m p br = (Ball.course m p br).motion m.ballXMotion := by
  cases br with
  | win | idle | enter => rfl
  | left => exact m.leftFirst_eq p _ _
  | jump =>
    simp only [Ball.motion, Mover.rightFirst_rightFirst]
    exact m.rightFirst_eq p _ _
  | _ => exact m.rightFirst_eq p _ _

lemma BallSecond.motion_eq (m : Mover) (p : MoverPorts) (br : Branch) :
    BallSecond.motion m p br = (BallSecond.course m p br).motion m.ballXMotion := by
  cases br with
  | win | idle | enter => rfl
  | _ => exact m.rightFirst_eq p _ _

lemma AI.motion_eq (m : Mover) (p : MoverPorts) (br : Branch) :
    AI.motion m p br = (AI.course m p br).motion m.ballXMotion := by
  cases br with
  | win | idle | enter => rfl
  | left =>
    simp only [AI.motion, AI.course]
    split <;> rfl
  | right =>
    simp only [AI.motion, AI.course]
    split <;> rfl
  | _ => exact m.rightFirst_eq p _ _

/-! ### What the edge tests ensure -/

def IsStep (d : ℤ) : Prop := d = -8 ∨ d = -5 ∨ d = -1 ∨ d = 0 ∨ d = 1 ∨ d = 5 ∨ d = 8

instance (d : ℤ) : Decidable (IsStep d) := inferInstanceAs (Decidable (_ ∨ _))

/-- A branch steps right only from a column below 559 and left only from a column above 10;
away from the left edge it is pushed right only by an opponent. -/
def Course.Legal (m : Mover) (p : MoverPorts) : Course → Prop
  | .stop | .pushLeft | .keep => True
  | .pushRight => m.x ≤ 10 ∨ m.bumpLeft p
  | .go motion => IsStep motion.toInt ∧ (0 < motion.toInt → m.x < 559) ∧ (motion.toInt < 0 → 10 < m.x)

section Tests

variable {m : Mover} {p : MoverPorts} {motion : BitVec 10}

lemma lt_of_not_rightTest (hx : m.x ≤ 616) (ht : ¬m.rightTest p) : m.x < 559 := by
  simp only [Mover.rightTest, Bool.or_eq_true, decide_eq_true_eq, not_or] at ht
  have hedge := ht.1
  simp only [Mover.x] at hx ⊢
  bv_omega

lemma lt_of_not_leftTest (ht : ¬m.leftTest p) : 10 < m.x := by
  simp only [Mover.leftTest, Bool.or_eq_true, decide_eq_true_eq, not_or] at ht
  have hedge := ht.1
  simp only [Mover.x]
  bv_omega

lemma of_leftTest (ht : m.leftTest p) : m.x ≤ 10 ∨ m.bumpLeft p := by
  simp only [Mover.leftTest, Bool.or_eq_true, decide_eq_true_eq] at ht
  refine ht.imp_left ?_
  intro hedge
  simp only [Mover.x]
  bv_omega

lemma rightFirstCourse_legal (hx : m.x ≤ 616) (hd : IsStep motion.toInt) :
    (m.rightFirstCourse p motion).Legal m p := by
  unfold Mover.rightFirstCourse
  split
  · trivial
  · rename_i hr
    split
    · rename_i hl
      exact of_leftTest hl
    · rename_i hl
      exact ⟨hd, fun _ => lt_of_not_rightTest hx hr, fun _ => lt_of_not_leftTest hl⟩

lemma leftFirstCourse_legal (hx : m.x ≤ 616) (hd : IsStep motion.toInt) :
    (m.leftFirstCourse p motion).Legal m p := by
  unfold Mover.leftFirstCourse
  split
  · rename_i hl
    exact of_leftTest hl
  · rename_i hl
    split
    · trivial
    · rename_i hr
      exact ⟨hd, fun _ => lt_of_not_rightTest hx hr, fun _ => lt_of_not_leftTest hl⟩

lemma rightFirstCourse_pushRight (hx : m.x ≤ 616) (hc : m.rightFirstCourse p motion = .pushRight) :
    m.x < 559 := by
  unfold Mover.rightFirstCourse at hc
  split at hc
  · cases hc
  · rename_i hr
    exact lt_of_not_rightTest hx hr

lemma isStep_alongFacing {step : BitVec 10} (hs : IsStep step.toInt)
    (hn : IsStep (twosComplement step).toInt) :
    IsStep (p.alongFacing step).toInt := by
  unfold MoverPorts.alongFacing
  split
  · exact hn
  · split
    · exact hs
    · simp [IsStep]

lemma isStep_keys (key key' : Bool) :
    IsStep (if key then twosComplement 5#10 else if key' then 5#10 else 0#10).toInt := by
  cases key <;> cases key' <;> simp [IsStep, twosComplement]

lemma Ball.course_legal (hx : m.x ≤ 616) (br : Branch) : (Ball.course m p br).Legal m p := by
  cases br with
  | win | idle | enter => trivial
  | back2 | back1 => exact rightFirstCourse_legal hx (isStep_alongFacing (by decide) (by decide))
  | kick | fight | dodge | right => exact rightFirstCourse_legal hx (by decide)
  | jump => exact rightFirstCourse_legal hx (isStep_keys _ _)
  | left => exact leftFirstCourse_legal hx (by decide)

lemma BallSecond.course_legal (hx : m.x ≤ 616) (br : Branch) : (BallSecond.course m p br).Legal m p := by
  cases br with
  | win | idle | enter => trivial
  | back2 | back1 => exact rightFirstCourse_legal hx (isStep_alongFacing (by decide) (by decide))
  | kick | fight | dodge | left | right => exact rightFirstCourse_legal hx (by decide)
  | jump => exact rightFirstCourse_legal hx (isStep_keys _ _)

lemma BallSecond.course_pushRight (hx : m.x ≤ 616) {br : Branch}
    (hc : BallSecond.course m p br = .pushRight) : m.x < 559 := by
  cases br with
  | win | idle | enter => cases hc
  | _ => exact rightFirstCourse_pushRight hx hc

lemma AI.course_legal (hx : m.x ≤ 616) (br : Branch) : (AI.course m p br).Legal m p := by
  cases br with
  | win | idle | enter => trivial
  | back2 | back1 | jump =>
    exact rightFirstCourse_legal hx (isStep_alongFacing (by decide) (by decide))
  | kick | fight | dodge => exact rightFirstCourse_legal hx (by decide)
  | left =>
    simp only [AI.course]
    split
    · rename_i hl
      exact of_leftTest hl
    · rename_i hl
      exact ⟨by decide, fun h => absurd h (by decide), fun _ => lt_of_not_leftTest hl⟩
  | right =>
    simp only [AI.course]
    split
    · trivial
    · rename_i hr
      exact ⟨by decide, fun _ => lt_of_not_rightTest hx hr, fun h => absurd h (by decide)⟩

end Tests

/-! ### One update -/

/-- The steps that keep a figure on the screen, read off its registers before the frame
edge: it is not pushed left while its next column is 0, a knock-back of 8 columns and the
step before or after it fit into the columns left, and so does a motion that Enter
prolongs, which it does not do at the right edge. -/
def Course.Safe (m : Mover) : Course → Prop
  | .stop | .pushRight => True
  | .pushLeft => m.x + m.dx ≠ 0
  | .go motion => m.dx = -8 ∨ motion.toInt = -8 → -(m.dx + motion.toInt) ≤ m.x
  | .keep => (m.dx < 0 → -(m.dx + m.dx) ≤ m.x) ∧ (0 < m.dx → m.x < 559)

instance (m : Mover) : (c : Course) → Decidable (c.Safe m)
  | .stop | .pushRight => isTrue trivial
  | .pushLeft => inferInstanceAs (Decidable (_ ≠ _))
  | .go _ => inferInstanceAs (Decidable (_ → _))
  | .keep => inferInstanceAs (Decidable (_ ∧ _))

namespace Mover

/-- The update neither wraps nor leaves the screen, and the figure is on it. -/
structure OnScreen (m : Mover) : Prop where
  x_le : m.x ≤ 639
  left : 0 ≤ m.x + m.dx
  right : m.x + m.dx ≤ 639

/-- The invariant of one figure. A fast step never leads past column 574, so only pushes
of one column do. -/
structure Bounded (m : Mover) : Prop where
  isStep : IsStep m.dx
  left : 0 ≤ m.x + m.dx
  x_le : m.x ≤ 616
  right : m.x + m.dx ≤ 616
  fast : 1 < m.dx → m.x + m.dx ≤ 574

structure Low (m : Mover) : Prop where
  x_le : m.x ≤ 574
  right : m.x + m.dx ≤ 574

variable {m : Mover} {p : MoverPorts}

lemma Bounded.onScreen (hb : m.Bounded) : m.OnScreen :=
  ⟨by have := hb.x_le; omega, hb.left, by have := hb.right; omega⟩

lemma Bounded.low_of_lt (hb : m.Bounded) (hx : m.x < 574) : m.Low := by
  have hfast := hb.fast
  exact ⟨by omega, by omega⟩

lemma bounded_reset (column : BitVec 10) (hc : column ≤ 574#10) : (reset column).Bounded := by
  have hx : (reset column).x ≤ 574 := by
    simp only [x, reset]
    bv_omega
  have hx' : 0 ≤ (reset column).x := by simp [x]
  have hdx : (reset column).dx = 0 := rfl
  exact ⟨by simp [IsStep, hdx], by omega, by omega, by omega, by omega⟩

/-- Without wrapping, the ten-bit sum is the sum of column and motion. -/
lemma x_advance_of_le (hl : 0 ≤ m.x + m.dx) (hr : m.x + m.dx ≤ 1023)
    (ballYMotion : BitVec 10) (br : Branch)
    (motion : BitVec 10) : (m.advance ballYMotion br motion).x = m.x + m.dx := by
  simp only [x, dx, advance, BitVec.toNat_add, BitVec.toInt_eq_toNat_cond] at hl hr ⊢
  split at hl
  all_goals omega

lemma x_advance (hb : m.Bounded) (ballYMotion : BitVec 10) (br : Branch) (motion : BitVec 10) :
    (m.advance ballYMotion br motion).x = m.x + m.dx :=
  x_advance_of_le hb.left (by have := hb.right; omega) ballYMotion br motion

def step (m : Mover) : Course → ℤ
  | .stop => 0
  | .pushLeft => -1
  | .pushRight => 1
  | .go motion => motion.toInt
  | .keep => m.dx

section Advance

variable {c : Course} (ballYMotion : BitVec 10) (br : Branch)

lemma dx_advance (c : Course) : (m.advance ballYMotion br (c.motion m.ballXMotion)).dx = m.step c := by
  cases c <;> rfl

/-- A safe update keeps the invariant, if an opponent that pushes the figure to the right
stands at column 574 or before. -/
lemma Bounded.advance (hb : m.Bounded) (hl : c.Legal m p) (hs : c.Safe m)
    (hpush : m.bumpLeft p → m.x ≤ 614) :
    (m.advance ballYMotion br (c.motion m.ballXMotion)).Bounded := by
  obtain ⟨hstep, hleft, hx, hright, hfast⟩ := id hb
  have hx' := x_advance hb ballYMotion br (c.motion m.ballXMotion)
  have hdx' := dx_advance (m := m) ballYMotion br c
  unfold IsStep at hstep
  cases c with
  | stop =>
    simp only [step] at hdx'
    exact ⟨by simp [hdx', IsStep], by omega, by omega, by omega, by omega⟩
  | pushLeft =>
    simp only [step] at hdx'
    have hne : m.x + m.dx ≠ 0 := hs
    exact ⟨by simp [hdx', IsStep], by omega, by omega, by omega, by omega⟩
  | pushRight =>
    simp only [step] at hdx'
    have hle : m.x ≤ 614 := by
      rcases hl with hl | hl
      · omega
      · exact hpush hl
    exact ⟨by simp [hdx', IsStep], by omega, by omega, by omega, by omega⟩
  | go motion =>
    simp only [step] at hdx'
    obtain ⟨hd, hpos, hneg⟩ := hl
    have hlag : m.dx = -8 ∨ motion.toInt = -8 → -(m.dx + motion.toInt) ≤ m.x := hs
    have hd' : IsStep (m.advance ballYMotion br ((Course.go motion).motion m.ballXMotion)).dx := by
      rw [hdx']
      exact hd
    unfold IsStep at hd
    exact ⟨hd', by omega, by omega, by omega, by omega⟩
  | keep =>
    simp only [step] at hdx'
    obtain ⟨hneg, hpos⟩ := hs
    have hd' : IsStep (m.advance ballYMotion br (Course.keep.motion m.ballXMotion)).dx := by
      rw [hdx']
      exact hb.isStep
    exact ⟨hd', by omega, by omega, by omega, by omega⟩

lemma isStep_step (hstep : IsStep m.dx) (hl : c.Legal m p) : IsStep (m.step c) := by
  cases c with
  | go motion => exact hl.1
  | keep => exact hstep
  | stop | pushLeft | pushRight => simp [step, IsStep]

/-- Only a push of one column to the right leads past column 574, and only from there. -/
lemma Low.advance_of_left (hlow : m.Low) (hstep : IsStep m.dx) (hleft : 0 ≤ m.x + m.dx)
    (hl : c.Legal m p)
    (hkeep : c = .keep → 0 < m.dx → m.x < 559) (hpush : c = .pushRight → m.x + m.dx < 574) :
    (m.advance ballYMotion br (c.motion m.ballXMotion)).Low := by
  obtain ⟨hx, hright⟩ := hlow
  have hx' := x_advance_of_le hleft (by omega) ballYMotion br (c.motion m.ballXMotion)
  have hdx' := dx_advance (m := m) ballYMotion br c
  unfold IsStep at hstep
  refine ⟨by omega, ?_⟩
  rw [hx', hdx']
  cases c with
  | stop =>
    simp only [step]
    omega
  | pushLeft =>
    simp only [step]
    omega
  | pushRight =>
    simp only [step]
    have hlt := hpush rfl
    omega
  | go motion =>
    simp only [step]
    obtain ⟨hd, hpos, -⟩ := hl
    unfold IsStep at hd
    omega
  | keep =>
    simp only [step]
    have hpos := hkeep rfl
    omega

lemma Low.advance (hlow : m.Low) (hb : m.Bounded) (hl : c.Legal m p) (hs : c.Safe m)
    (hpush : c = .pushRight → m.x < 559) : (m.advance ballYMotion br (c.motion m.ballXMotion)).Low := by
  have hstep := hb.isStep
  apply hlow.advance_of_left _ _ hstep hb.left hl
  · rintro rfl
    exact hs.2
  · intro hc
    have hlt := hpush hc
    unfold IsStep at hstep
    omega

end Advance

lemma bumpLeft_spec {o : Mover} (ho : p.ballX1 = o.ballXPos) (hbump : m.bumpLeft p) :
    o.x < m.x ∧ m.x ≤ o.x + 40 := by
  simp only [bumpLeft, ho, Bool.and_eq_true, decide_eq_true_eq] at hbump
  obtain ⟨⟨hlt, hle⟩, -⟩ := hbump
  simp only [x]
  bv_omega

end Mover

/-- Two figures that see each other: they are not both pushed past column 574, since the
one that is pushed has the other on its left. -/
lemma low_or_low {m o : Mover} {p q : MoverPorts} {c d : Course} (hm : m.Bounded) (ho : o.Bounded)
    (hp : p.ballX1 = o.ballXPos) (hq : q.ballX1 = m.ballXPos) (hcl : c.Legal m p) (hdl : d.Legal o q)
    (hcs : c.Safe m) (hds : d.Safe o) (ym yo : BitVec 10) (bm bo : Branch) (hlow : m.Low) :
    (m.advance ym bm (c.motion m.ballXMotion)).Low ∨ (o.advance yo bo (d.motion o.ballXMotion)).Low := by
  by_cases hbump : m.bumpLeft p
  · -- `o` stands to the left of a low figure, so it is low and nobody pushes it to the right
    obtain ⟨hlt, -⟩ := Mover.bumpLeft_spec hp hbump
    have holow := ho.low_of_lt (by have := hlow.x_le; omega)
    refine Or.inr (holow.advance yo bo ho hdl hds ?_)
    rintro rfl
    rcases hdl with hx | hbump'
    · omega
    · obtain ⟨hlt', -⟩ := Mover.bumpLeft_spec hq hbump'
      omega
  · refine Or.inl (hlow.advance ym bm hm hcl hcs ?_)
    rintro rfl
    rcases hcl with hx | hbump'
    · omega
    · exact absurd hbump' hbump

/-! ### The game -/

namespace FrameRegs

variable (f : FrameRegs) (c : ClkRegs) (keycode keycode1 : BitVec 16)

def ballCourse : Course :=
  let p := ballPorts f c keycode keycode1
  Ball.course f.ball.toMover p (Ball.branch p)

def ballSecondCourse : Course :=
  let p := player2Ports f c keycode keycode1
  BallSecond.course f.ballSecond p (BallSecond.branch p)

def aiCourse : Course :=
  let p := player2Ports f c keycode keycode1
  AI.course f.ai p (AI.branch f.ai p)

def selected : Option Mover :=
  if f.du then some f.ballSecond else if f.sin then some f.ai else none

/-- Both players are on the screen and stay there with the next update. -/
def OnScreen : Prop := f.ball.OnScreen ∧ ∀ m ∈ f.selected, m.OnScreen

end FrameRegs

/-- The frame edge is safe for player 1, for `ball_second` while it drives player 2 or may
still be selected, and for `AI` while it drives player 2. -/
def EdgeSafe (g : Game) : Event → Prop
  | .tick | .reset => True
  | .frame keycode keycode1 =>
    (g.regs.ballCourse g.clk keycode keycode1).Safe g.regs.ball.toMover ∧
    (g.regs.st = false ∨ g.regs.du →
      (g.regs.ballSecondCourse g.clk keycode keycode1).Safe g.regs.ballSecond) ∧
    (g.regs.st ∧ g.regs.du = false ∧ g.regs.sin →
      (g.regs.aiCourse g.clk keycode keycode1).Safe g.regs.ai)

instance (g : Game) : (e : Event) → Decidable (EdgeSafe g e)
  | .tick | .reset => isTrue trivial
  | .frame _ _ => inferInstanceAs (Decidable (_ ∧ _ ∧ _))

structure EdgeInv (f : FrameRegs) : Prop where
  ball : f.ball.Bounded
  ballSecond : f.st = false ∨ f.du → f.ballSecond.Bounded ∧ f.ballSecond.Low
  parked : f.st = false → f.ai = AI.reset
  ai : f.st → f.du = false → f.sin → f.ai.Bounded ∧ (f.ball.Low ∨ f.ai.Low)

namespace EdgeInv

variable {f : FrameRegs} {c : ClkRegs} {keycode keycode1 : BitVec 16}

lemma ai_reset : AI.reset.Bounded ∧ AI.reset.Low :=
  ⟨Mover.bounded_reset _ (by decide), ⟨by decide, by decide⟩⟩

lemma ai_bounded (h : EdgeInv f) (hd : f.du = false) (hs : f.sin) : f.ai.Bounded := by
  cases hst : f.st with
  | false =>
    rw [h.parked hst]
    exact ai_reset.1
  | true => exact (h.ai hst hd hs).1

/-- Whoever is behind `mode_choose`, player 1 is pushed right from column 614 at most. -/
lemma ball_bumpLeft (h : EdgeInv f) (hbump : f.ball.bumpLeft (ballPorts f c keycode keycode1)) :
    f.ball.x ≤ 614 := by
  cases hd : f.du with
  | true =>
    have hlow := (h.ballSecond (Or.inr hd)).2.x_le
    have hspec := Mover.bumpLeft_spec (o := f.ballSecond)
      (by simp [ballPorts, FrameRegs.player2, modeChoose, Player2.ofMover, hd]) hbump
    omega
  | false =>
    cases hs : f.sin with
    | true =>
      have hspec := Mover.bumpLeft_spec (o := f.ai)
        (by simp [ballPorts, FrameRegs.player2, modeChoose, Player2.ofMover, hd, hs]) hbump
      cases hst : f.st with
      | false =>
        have hx := ai_reset.2.x_le
        rw [← h.parked hst] at hx
        omega
      | true =>
        rcases (h.ai hst hd hs).2 with hlow | hlow
        · have hx := hlow.x_le
          omega
        · have hx := hlow.x_le
          omega
    | false =>
      have hspec := Mover.bumpLeft_spec (o := Mover.powerUp)
        (by simp [ballPorts, FrameRegs.player2, modeChoose, Mover.powerUp, hd, hs]) hbump
      have hx : Mover.powerUp.x = 0 := rfl
      omega

lemma frame_ball (f : FrameRegs) (c : ClkRegs) (keycode keycode1 : BitVec 16) :
    (f.frame c keycode keycode1).ball.toMover = f.ball.advance c.gravity0.ballYMotion
      (Ball.branch (ballPorts f c keycode keycode1))
      ((f.ballCourse c keycode keycode1).motion f.ball.ballXMotion) := by
  rw [FrameRegs.ballCourse, ← Ball.motion_eq]
  rfl

lemma frame_ballSecond (f : FrameRegs) (c : ClkRegs) (keycode keycode1 : BitVec 16) :
    (f.frame c keycode keycode1).ballSecond = f.ballSecond.advance c.gravity1.ballYMotion
      (BallSecond.branch (player2Ports f c keycode keycode1))
      ((f.ballSecondCourse c keycode keycode1).motion f.ballSecond.ballXMotion) := by
  rw [FrameRegs.ballSecondCourse, ← BallSecond.motion_eq]
  rfl

lemma frame_ai (hst : f.st) :
    (f.frame c keycode keycode1).ai = f.ai.advance c.gravity2.ballYMotion
      (AI.branch f.ai (player2Ports f c keycode keycode1))
      ((f.aiCourse c keycode keycode1).motion f.ai.ballXMotion) := by
  rw [FrameRegs.aiCourse, ← AI.motion_eq]
  simp [FrameRegs.frame, AI.step, hst]

lemma frame_ball_bounded (h : EdgeInv f) (hs : (f.ballCourse c keycode keycode1).Safe f.ball.toMover) :
    (f.frame c keycode keycode1).ball.Bounded := by
  rw [frame_ball]
  exact h.ball.advance _ _ (Ball.course_legal h.ball.x_le _) hs h.ball_bumpLeft

lemma frame_ballSecond_low (h : EdgeInv f) (hsel : f.st = false ∨ f.du)
    (hs : (f.ballSecondCourse c keycode keycode1).Safe f.ballSecond) :
    (f.frame c keycode keycode1).ballSecond.Bounded ∧ (f.frame c keycode keycode1).ballSecond.Low := by
  obtain ⟨hb, hlow⟩ := h.ballSecond hsel
  have hx := hlow.x_le
  have hlegal := BallSecond.course_legal (p := player2Ports f c keycode keycode1) hb.x_le
    (BallSecond.branch (player2Ports f c keycode keycode1))
  rw [frame_ballSecond]
  exact ⟨hb.advance _ _ hlegal hs (fun _ => by omega),
    hlow.advance _ _ hb hlegal hs (BallSecond.course_pushRight hb.x_le)⟩

lemma frame_single (h : EdgeInv f) (hst : f.st) (hd : f.du = false) (hsin : f.sin)
    (hs : (f.ballCourse c keycode keycode1).Safe f.ball.toMover)
    (hs' : (f.aiCourse c keycode keycode1).Safe f.ai) :
    (f.frame c keycode keycode1).ai.Bounded ∧
      ((f.frame c keycode keycode1).ball.Low ∨ (f.frame c keycode keycode1).ai.Low) := by
  obtain ⟨hb, hlow⟩ := h.ai hst hd hsin
  have hball := h.ball
  have hopp : (ballPorts f c keycode keycode1).ballX1 = f.ai.ballXPos := by
    simp [ballPorts, FrameRegs.player2, modeChoose, Player2.ofMover, hd, hsin]
  have hlegal := Ball.course_legal (p := ballPorts f c keycode keycode1) hball.x_le
    (Ball.branch (ballPorts f c keycode keycode1))
  have hlegal' := AI.course_legal (p := player2Ports f c keycode keycode1) hb.x_le
    (AI.branch f.ai (player2Ports f c keycode keycode1))
  rw [frame_ball, frame_ai hst]
  constructor
  · refine hb.advance _ _ hlegal' hs' ?_
    intro hbump
    have hspec := Mover.bumpLeft_spec (o := f.ball.toMover) rfl hbump
    rcases hlow with hlow | hlow
    · have hx := hlow.x_le
      omega
    · have hx := hlow.x_le
      omega
  · rcases hlow with hlow | hlow
    · exact low_or_low hball hb hopp rfl hlegal hlegal' hs hs' _ _ _ _ hlow
    · exact (low_or_low hb hball rfl hopp hlegal' hlegal hs' hs _ _ _ _ hlow).symm

lemma frame {g : Game} (h : EdgeInv g.regs) (hs : EdgeSafe g (.frame keycode keycode1)) :
    EdgeInv (g.frame keycode keycode1).regs where
  ball := h.frame_ball_bounded hs.1
  ballSecond := by
    intro hsel
    have hsel' : g.regs.st = false ∨ g.regs.du := FrameRegs.selectable_of_frame hsel
    exact h.frame_ballSecond_low hsel' (hs.2.1 hsel')
  parked := by
    intro hst'
    have hst := FrameRegs.not_st_of_frame hst'
    exact (FrameRegs.ai_frame_of_not_st hst).trans (h.parked hst)
  ai := by
    intro _ hd' hsin'
    cases hst : g.regs.st with
    | false =>
      -- `start` rises at this edge, at which `AI` still holds its reset registers
      have hai : (g.frame keycode keycode1).regs.ai = AI.reset :=
        (FrameRegs.ai_frame_of_not_st hst).trans (h.parked hst)
      rw [hai]
      exact ⟨ai_reset.1, Or.inr ai_reset.2⟩
    | true =>
      rw [Game.frame, FrameRegs.du, FrameRegs.indicator_frame hst] at hd'
      rw [Game.frame, FrameRegs.sin, FrameRegs.indicator_frame hst] at hsin'
      exact h.frame_single hst hd' hsin' hs.1 (hs.2.2 ⟨hst, hd', hsin'⟩)

lemma reset (f : FrameRegs) : EdgeInv f.reset where
  ball := Mover.bounded_reset _ (by decide)
  ballSecond := fun _ => ai_reset
  parked := fun _ => rfl
  ai := fun hst => absurd hst Bool.false_ne_true

lemma step (g : Game) (e : Event) (h : EdgeInv g.regs) (hs : EdgeSafe g e) :
    EdgeInv (g.step e).regs := by
  cases e with
  | tick => exact h
  | frame keycode keycode1 => exact h.frame hs
  | reset => exact reset g.regs

lemma selected_bounded (h : EdgeInv f) {m : Mover} (hm : m ∈ f.selected) : m.Bounded := by
  unfold FrameRegs.selected at hm
  split at hm
  · rename_i hd
    cases hm
    exact (h.ballSecond (Or.inr hd)).1
  · rename_i hd
    split at hm
    · rename_i hs
      cases hm
      exact h.ai_bounded (Bool.eq_false_of_not_eq_true hd) hs
    · cases hm

lemma onScreen (h : EdgeInv f) : f.OnScreen :=
  ⟨h.ball.onScreen, fun _ hm => (h.selected_bounded hm).onScreen⟩

end EdgeInv

/-- In every run from `Reset` whose frame edges are edge-safe, in either mode, both players
stay on the screen and no position update wraps. -/
theorem players_onScreen (g : Game) (es : List Event) (hsafe : Meets Game.step EdgeSafe g.reset es) :
    (run Game.step g.reset es).regs.OnScreen :=
  (hsafe.invariant (I := fun g => EdgeInv g.regs) EdgeInv.step (EdgeInv.reset g.regs)).onScreen

theorem players_onScreen_fight :
    (run Game.step (Game.powerUp .normal).reset (held 1 0x004E 0 ++ held 1 0x0028 0 ++
      held 59 0x5007 0 ++ held 20 0x1859 0)).regs.OnScreen :=
  players_onScreen (Game.powerUp .normal) _ (by decide +kernel)

lemma not_onScreen {f : FrameRegs} (hx : 639 < f.ball.x) : ¬f.OnScreen := by
  rintro ⟨hball, -⟩
  have hle := hball.x_le
  omega

/-- Player 1 runs to the left and Enter is held instead of the direction key. -/
def slidOff : List Event :=
  held 1 0x004E 0 ++ held 15 0x0007 0 ++ held 2 0x0004 0 ++ held 5 0x0028 0

/-- Player 1 kicks from column 0 with the opponent in front of it. -/
def pushedOff : List Event := held 1 0x004E 0 ++ held 120 0x0050 0 ++ held 2 0x0018 0

/-- Player 1 is kicked a few steps from the left edge. -/
def kickedOff : List Event :=
  held 1 0x004E 0 ++ held 1 0x0028 0 ++ held 14 0x0750 0 ++ held 78 0x0050 0 ++ held 20 0x0059 0

/-- Each clause of `Course.Safe` is needed: in these runs the column of player 1 wraps. -/
theorem players_offScreen :
    ¬(run Game.step (Game.powerUp .normal).reset slidOff).regs.OnScreen ∧
    ¬(run Game.step (Game.powerUp .normal).reset pushedOff).regs.OnScreen ∧
    ¬(run Game.step (Game.powerUp .normal).reset kickedOff).regs.OnScreen :=
  ⟨not_onScreen (by decide +kernel), not_onScreen (by decide +kernel), not_onScreen (by decide +kernel)⟩

end StickFigureFighting
