import StickFigureFighting.Proofs.ActionGuards
import StickFigureFighting.Proofs.ScreenEdges

/-!
# The right edge

Player 2 alone keeps left of column 575, as long as its column has not wrapped below 0.
All branches of `ball_second` test the right side first, so that it is pushed to the right
far from the edge only. The left branch of `AI` tests the left side only: an opponent
beside it can push it on at the edge.
-/

namespace StickFigureFighting
open Library

/-! ### Courses that keep the motion -/

lemma rightFirstCourse_ne_keep (m : Mover) (p : MoverPorts) (motion : BitVec 10) :
    m.rightFirstCourse p motion ≠ .keep := by
  unfold Mover.rightFirstCourse
  split
  · exact Course.noConfusion
  · split <;> exact Course.noConfusion

lemma BallSecond.course_ne_keep (m : Mover) (p : MoverPorts) :
    BallSecond.course m p (BallSecond.branch p) ≠ .keep := by
  have hne := BallSecond.branch_ne_enter p
  cases hbr : BallSecond.branch p with
  | enter => exact absurd hbr hne
  | win | idle => exact Course.noConfusion
  | _ => exact rightFirstCourse_ne_keep m p _

lemma AI.course_ne_keep (m : Mover) (p : MoverPorts) : AI.course m p (AI.branch m p) ≠ .keep := by
  have hne := AI.branch_ne_enter m p
  cases hbr : AI.branch m p with
  | enter => exact absurd hbr hne
  | win | idle => exact Course.noConfusion
  | left =>
    simp only [AI.course]
    split <;> exact Course.noConfusion
  | right =>
    simp only [AI.course]
    split <;> exact Course.noConfusion
  | _ => exact rightFirstCourse_ne_keep m p _

structure RightInv (m : Mover) : Prop where
  isStep : IsStep m.dx
  low : m.Low

lemma rightInv_reset : RightInv (Mover.reset 539#10) := ⟨by decide, ⟨by decide, by decide⟩⟩

/-- A figure that does not keep its motion stays left of column 575 unless it is pushed
on from column 574. -/
lemma RightInv.advance {m : Mover} {p : MoverPorts} {c : Course} (h : RightInv m)
    (hleft : 0 ≤ m.x + m.dx)
    (hl : c.Legal m p) (hkeep : c ≠ .keep) (hpush : c = .pushRight → m.x + m.dx < 574)
    (ballYMotion : BitVec 10) (br : Branch) :
    RightInv (m.advance ballYMotion br (c.motion m.ballXMotion)) := by
  refine ⟨?_, ?_⟩
  · rw [Mover.dx_advance]
    exact Mover.isStep_step h.isStep hl
  · apply h.low.advance_of_left _ _ h.isStep hleft hl
    · intro hc
      exact absurd hc hkeep
    · exact hpush

lemma RightInv.x_le {m : Mover} (h : RightInv m) : m.x ≤ 616 := by
  have hle := h.low.x_le
  omega

/-! ### `ball_second` -/

namespace BallSecond

/-- The registers after each frame edge from `Reset` on, under any ports and vertical
motions. -/
def frames (input : ℕ → MoverPorts × BitVec 10) : ℕ → Mover :=
  trace (fun m i => step i.1 i.2 m) reset input

def unwrapped (input : ℕ → MoverPorts × BitVec 10) : ℕ → ℤ
  | 0 => reset.x
  | n + 1 => unwrapped input n + (frames input n).dx

lemma rightInv_step {m : Mover} (h : RightInv m) (hleft : 0 ≤ m.x + m.dx) (p : MoverPorts)
    (ballYMotion : BitVec 10) : RightInv (step p ballYMotion m) := by
  have hstep := h.isStep
  rw [step, motion_eq]
  apply h.advance hleft (course_legal (p := p) h.x_le (branch p)) (course_ne_keep m p)
  intro hpush
  have hlt := course_pushRight h.x_le hpush
  unfold IsStep at hstep
  omega

lemma frames_eq_unwrapped {input : ℕ → MoverPorts × BitVec 10} {n : ℕ}
    (h : ∀ k ≤ n, 0 ≤ unwrapped input k) :
    RightInv (frames input n) ∧ (frames input n).x = unwrapped input n := by
  induction n with
  | zero => exact ⟨rightInv_reset, rfl⟩
  | succ n ih =>
    obtain ⟨hinv, hx⟩ := ih (fun k hk => h k (by omega))
    have hleft : 0 ≤ (frames input n).x + (frames input n).dx := by
      rw [hx]
      exact h (n + 1) le_rfl
    refine ⟨rightInv_step hinv hleft _ _, ?_⟩
    rw [unwrapped, ← hx]
    exact Mover.x_advance_of_le hleft (by have := hinv.low.right; omega) _ _ _

/-- As long as player 2 has not been carried below column 0, it is at most at column 574
and the sum in its right-edge test does not wrap. -/
theorem right_edge (input : ℕ → MoverPorts × BitVec 10) (n : ℕ) (h : ∀ k ≤ n, 0 ≤ unwrapped input k) :
    (frames input n).ballXPos ≤ 574#10 ∧
    ((frames input n).ballXPos + 80#10).toNat = (frames input n).ballXPos.toNat + 80 ∧
    ((frames input n).ballXPos.toNat : ℤ) = unwrapped input n := by
  obtain ⟨hinv, hx⟩ := frames_eq_unwrapped h
  have hle := hinv.low.x_le
  simp only [Mover.x] at hle
  refine ⟨?_, ?_, hx⟩
  · bv_omega
  · bv_omega

def holdsRight (_ : ℕ) : MoverPorts × BitVec 10 :=
  (⟨false, false, false, false, false, true, false, false, false, 0#10, 300#10,
    0#2, 0x004F#16, 0#16⟩, 0#10)

theorem right_edge_held : (frames holdsRight 9).ballXPos ≤ 574#10 := by
  have h := right_edge holdsRight 9 (by decide)
  exact h.1

end BallSecond

/-! ### `AI` -/

namespace AI

/-- Away from column 10 only an opponent on the left pushes `AI` to the right, and close to
the right edge only out of its left branch. -/
lemma course_pushRight {m : Mover} {p : MoverPorts} (hx : m.x ≤ 616) {br : Branch}
    (hc : course m p br = .pushRight) : m.x < 559 ∨ br = .left ∧ m.bumpLeft p := by
  cases br with
  | win | idle | enter => cases hc
  | left =>
    simp only [course] at hc
    split at hc
    · rename_i hl
      rcases of_leftTest hl with hlow | hbump
      · exact Or.inl (by omega)
      · exact Or.inr ⟨rfl, hbump⟩
    · cases hc
  | right =>
    simp only [course] at hc
    split at hc <;> cases hc
  | _ => exact Or.inl (rightFirstCourse_pushRight hx hc)

end AI

def NoUnderflow (g : Game) : Event → Prop
  | .tick | .reset => True
  | .frame _ _ => 0 ≤ g.regs.ball.x + g.regs.ball.dx ∧ (g.regs.st → 0 ≤ g.regs.ai.x + g.regs.ai.dx)

/-- `AI` does not walk left into player 1 while its next column is 574. -/
def NotPushedOut (g : Game) : Event → Prop
  | .tick | .reset => True
  | .frame keycode keycode1 =>
    g.regs.st → AI.branch g.regs.ai (player2Ports g.regs g.clk keycode keycode1) = .left →
      g.regs.ai.bumpLeft (player2Ports g.regs g.clk keycode keycode1) → g.regs.ai.x + g.regs.ai.dx ≠ 574

instance (g : Game) : (e : Event) → Decidable (NoUnderflow g e)
  | .tick | .reset => isTrue trivial
  | .frame _ _ => inferInstanceAs (Decidable (_ ∧ _))

instance (g : Game) : (e : Event) → Decidable (NotPushedOut g e)
  | .tick | .reset => isTrue trivial
  | .frame _ _ => inferInstanceAs (Decidable (_ → _))

/-- `AI` waits at its reset column until `start`, and is in range from then on. -/
structure AiRightInv (f : FrameRegs) : Prop where
  ai : RightInv f.ai
  parked : f.st = false → f.ai = AI.reset

namespace AiRightInv

lemma frame {g : Game} {keycode keycode1 : BitVec 16} (h : AiRightInv g.regs)
    (hleft : NoUnderflow g (.frame keycode keycode1))
    (hpush : NotPushedOut g (.frame keycode keycode1)) :
    AiRightInv (g.frame keycode keycode1).regs := by
  cases hst : g.regs.st with
  | false =>
    have hai : (g.frame keycode keycode1).regs.ai = AI.reset :=
      (FrameRegs.ai_frame_of_not_st hst).trans (h.parked hst)
    refine ⟨?_, fun _ => hai⟩
    rw [hai]
    exact rightInv_reset
  | true =>
    refine ⟨?_, ?_⟩
    · show RightInv (g.regs.frame g.clk keycode keycode1).ai
      rw [EdgeInv.frame_ai hst]
      apply h.ai.advance (hleft.2 hst) (AI.course_legal h.ai.x_le _) (AI.course_ne_keep _ _)
      intro hc
      have hstep := h.ai.isStep
      have hlow := h.ai.low.right
      rcases AI.course_pushRight h.ai.x_le hc with hlt | ⟨hbr, hbump⟩
      · unfold IsStep at hstep
        omega
      · have hne := hpush hst hbr hbump
        omega
    · intro hst'
      have hst'' : (g.regs.frame g.clk keycode keycode1).st = false := hst'
      rw [FrameRegs.st_frame hst] at hst''
      cases hst''

lemma step (g : Game) (e : Event) (h : AiRightInv g.regs) (hok : NoUnderflow g e ∧ NotPushedOut g e) :
    AiRightInv (g.step e).regs := by
  cases e with
  | tick => exact h
  | frame keycode keycode1 => exact h.frame hok.1 hok.2
  | reset => exact ⟨rightInv_reset, fun _ => rfl⟩

end AiRightInv

/-- In every run from `Reset` in which no player is carried below column 0 and `AI` does
not walk left into player 1 at column 574, `AI` stays left of column 575. -/
theorem ai_right_edge (g : Game) (es : List Event)
    (hok : Meets Game.step (fun g e => NoUnderflow g e ∧ NotPushedOut g e) g.reset es) :
    (run Game.step g.reset es).regs.ai.ballXPos ≤ 574#10 := by
  have h := hok.invariant (I := fun g => AiRightInv g.regs) AiRightInv.step
    ⟨rightInv_reset, fun _ => rfl⟩
  have hle := h.ai.low.x_le
  simp only [Mover.x] at hle
  bv_omega

/-- Player 1 runs up to `AI` after the start of the match. -/
theorem ai_right_edge_approach :
    (run Game.step (Game.powerUp .normal).reset (heldShort 1 0x004B 0 ++ heldShort 1 0x0028 0 ++
      heldShort 40 0x0007 0)).regs.ai.ballXPos ≤ 574#10 :=
  ai_right_edge (Game.powerUp .normal) _ (by decide +kernel)

/-- In the menu player 1 runs up to `AI`, and in the match it follows the steps with which
`AI` evades it. -/
def cornered : List Event :=
  heldShort 1 0x004B 0 ++ heldShort 110 0x0007 0 ++ heldShort 1 0x0028 0 ++ heldShort 10 0 0 ++
    heldShort 2 0x0007 0 ++ heldShort 20 0 0 ++ heldShort 2 0x0007 0 ++ heldShort 20 0 0 ++
    heldShort 2 0x0007 0 ++ heldShort 17 0 0

/-- `AI` walks to the left and is pushed to the right all the same, out over column 574. -/
theorem cornered_pushed : ¬∀ (g : Game) (es : List Event), Meets Game.step NoUnderflow g.reset es →
    (run Game.step g.reset es).regs.sin → (run Game.step g.reset es).regs.ai.ballXPos ≤ 574#10 := by
  intro h
  have hle := h (Game.powerUp .normal) cornered (by decide +kernel) (by decide +kernel)
  exact absurd hle (by decide +kernel)

end StickFigureFighting
