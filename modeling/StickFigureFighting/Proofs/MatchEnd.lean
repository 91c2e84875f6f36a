import StickFigureFighting.Library.Runs
import StickFigureFighting.Proofs.Heights
import StickFigureFighting.Proofs.HpMatch

/-!
# `AI` after the match

The win branch of `AI` assigns column 439 and line 300, but the update at the end of the
block assigns both positions again, and the last assignment counts. So the match leaves
`AI` where its latched motion takes it, and `gravity` goes on with the jump it is in.
-/

namespace StickFigureFighting
open Library

/-! ### The match stays over -/

/-- Nothing but `Reset` takes a win flag back. -/
lemma Hp.step_wins (h : Hp) (p : HpPorts) : (h.p1 → (h.step p).p1) ∧ (h.p2 → (h.step p).p2) := by
  by_cases h2 : h.hpbar2 = 0#8
  · simp [Hp.step_of_hpbar2_zero h2]
  by_cases h1 : h.hpbar1 = 0#8
  · simp [Hp.step_of_hpbar1_zero h2 h1]
  match hs : h.state with
  | .S a .one => simp [Hp.step_hit_one h1 h2 hs]
  | .S a .two => simp [Hp.step_hit_two h1 h2 hs]
  | .normal => simp [Hp.step_normal h1 h2 hs]
  | .is a q => simp [Hp.step_is h1 h2 hs]

namespace Game

structure Over (g : Game) : Prop where
  st : g.regs.st
  win : g.clk.hp.p1win ∨ g.clk.hp.p2win

lemma Over.tick {g : Game} (h : g.Over) : g.tick.Over := by
  have hwins := g.clk.hp.step_wins (hpPorts g.regs g.clk)
  exact ⟨h.st, h.win.imp hwins.1 hwins.2⟩

lemma Over.frame {g : Game} (h : g.Over) (keycode keycode1 : BitVec 16) :
    (g.frame keycode keycode1).Over :=
  ⟨FrameRegs.st_frame h.st, h.win⟩

/-- A frame edge after the match: the positions advance by the motions they are left with. -/
lemma Over.ai_frame {g : Game} (h : g.Over) (keycode keycode1 : BitVec 16) :
    (g.frame keycode keycode1).regs.ai = ⟨g.regs.ai.ballXPos + g.regs.ai.ballXMotion, 0#10,
      g.regs.ai.ballYPos + g.clk.gravity2.ballYMotion, Actions.standing⟩ := by
  have hst : g.regs.ball.start = true := h.st
  have hbr : AI.branch g.regs.ai (player2Ports g.regs g.clk keycode keycode1) = .win := by
    have hwin := h.win
    simp [AI.branch, player2Ports, hwin]
  simp [Game.frame, FrameRegs.frame, AI.step, FrameRegs.st, hst, hbr, Mover.advance,
    AI.motion, Branch.actions]

end Game

/-! ### Parking -/

def AiParked (m : Mover) : Prop :=
  m.ballXPos = 439#10 ∧ m.ballYPos = 300#10 ∧ m.act = Actions.standing

/-- The condition before the first frame edge that sees a win flag: the motions latched
take `AI` to column 439 and line 300, and its machine is not in the rising state. -/
structure Arriving (g : Game) : Prop where
  column : g.regs.ai.ballXPos + g.regs.ai.ballXMotion = 439#10
  line : g.regs.ai.ballYPos + g.clk.gravity2.ballYMotion = 300#10
  state : g.clk.gravity2.state ≠ .state1

namespace Gravity

variable {p : GravityPorts} {g : Gravity}

/-- On the floor the first edge of `Clk` ends a fall, and the second one the motion. -/
lemma landed_step (hline : p.ballYPos = 300#10) (hjump : p.jump = false) (hs : g.state ≠ .state1) :
    (g.step p).state = .state0 ∨ (g.step p).state = .state3 := by
  simp only [step, nextState]
  cases h : g.state with
  | state0 => simp [hjump]
  | state1 => exact absurd h hs
  | state2 => simp [hline]
  | state3 => simp

lemma rests_step (hjump : p.jump = false) (hs : g.state = .state0 ∨ g.state = .state3) :
    g.step p = reset := by
  rcases hs with hs | hs <;> simp [step, nextState, nextBallYMotion, reset, hs, hjump]

/-- In the rising state a figure on the floor does not stay there. -/
lemma rising_step (hline : p.ballYPos = 300#10) (hs : g.state = .state1) :
    (g.step p).state = .state1 ∧ (g.step p).ballYMotion ≠ 0#10 := by
  refine ⟨?_, ?_⟩
  · simp [step, nextState, hs, hline]
  · simp only [step, nextBallYMotion, hs]
    split <;> decide

end Gravity

/-- `n` edges of `Clk` after a frame edge that left `AI` at its place. -/
structure ParkedInv (g : Game) (n : ℕ) : Prop where
  ended : g.Over
  ai : g.regs.ai = ⟨439#10, 0#10, 300#10, Actions.standing⟩
  state : g.clk.gravity2.state ≠ .state1
  landed : 1 ≤ n → g.clk.gravity2.state = .state0 ∨ g.clk.gravity2.state = .state3
  rests : 2 ≤ n → g.clk.gravity2 = Gravity.reset

namespace ParkedInv

lemma of_arriving {g : Game} (ho : g.Over) (h : Arriving g) (keycode keycode1 : BitVec 16) :
    ParkedInv (g.frame keycode keycode1) 0 := by
  refine ⟨ho.frame keycode keycode1, ?_, h.state, fun hn => absurd hn (by omega),
    fun hn => absurd hn (by omega)⟩
  rw [ho.ai_frame, h.column, h.line]

lemma tick {g : Game} {n : ℕ} (h : ParkedInv g n) : ParkedInv g.tick (n + 1) := by
  have hline : (g.regs.ai.gravityPorts g.regs.ball.ballXPos g.regs.ball.ballYPos).ballYPos = 300#10 := by
    rw [h.ai]
    rfl
  have hjump : (g.regs.ai.gravityPorts g.regs.ball.ballXPos g.regs.ball.ballYPos).jump = false := by
    rw [h.ai]
    rfl
  have hlanded := Gravity.landed_step hline hjump h.state
  refine ⟨h.ended.tick, h.ai, ?_, fun _ => hlanded, ?_⟩
  · intro hs
    change (g.clk.gravity2.step _).state = .state1 at hs
    rw [hs] at hlanded
    simp at hlanded
  · intro hn
    exact Gravity.rests_step hjump (h.landed (by omega))

lemma frame {g : Game} {n : ℕ} (h : ParkedInv g n) (hn : 4 ≤ n) (keycode keycode1 : BitVec 16) :
    ParkedInv (g.frame keycode keycode1) 0 := by
  have hrests := h.rests (by omega)
  apply of_arriving h.ended
  constructor
  · rw [h.ai]
    rfl
  · rw [h.ai, hrests]
    rfl
  · exact h.state

lemma step {g : Game} {n : ℕ} (h : ParkedInv g n) (e : Event) (he : e ≠ .reset) (hn : Spaced n e) :
    ParkedInv (g.step e) (countTicks n e) := by
  cases e with
  | tick => exact h.tick
  | frame keycode keycode1 => exact h.frame hn keycode keycode1
  | reset => exact absurd rfl he

lemma aiParked {g : Game} {n : ℕ} (h : ParkedInv g n) : AiParked g.regs.ai := by
  rw [h.ai]
  exact ⟨rfl, rfl, rfl⟩

end ParkedInv

/-- `AI` stands at its place from the frame edge that samples the key bytes to `Reset`,
with at least four edges of `Clk` between the frame edges. -/
def StaysParked (g : Game) (keycode keycode1 : BitVec 16) : Prop :=
  ∀ es, Event.reset ∉ es → Meets countTicks Spaced 0 es →
    AiParked (run Game.step (g.frame keycode keycode1) es).regs.ai

/-- `AI` on the floor, with its machine in the rising state. -/
structure Rising (g : Game) : Prop where
  line : g.regs.ai.ballYPos = 300#10
  state : g.clk.gravity2.state = .state1

lemma Rising.tick {g : Game} (h : Rising g) : Rising g.tick ∧ g.tick.clk.gravity2.ballYMotion ≠ 0#10 := by
  have hline : (g.regs.ai.gravityPorts g.regs.ball.ballXPos g.regs.ball.ballYPos).ballYPos = 300#10 := h.line
  obtain ⟨hstate, hmotion⟩ := Gravity.rising_step hline h.state
  exact ⟨⟨h.line, hstate⟩, hmotion⟩

lemma arriving_of_parked {g : Game} (ho : g.Over) {keycode keycode1 : BitVec 16}
    (h : StaysParked g keycode keycode1) : Arriving g := by
  have h0 := h [] (by simp) trivial
  rw [run_nil, ho.ai_frame] at h0
  refine ⟨h0.1, h0.2.1, ?_⟩
  intro hs
  have hrising : Rising (g.frame keycode keycode1) := by
    refine ⟨?_, hs⟩
    rw [ho.ai_frame]
    exact h0.2.1
  have hmotion := hrising.tick.1.tick.1.tick.1.tick.2
  -- the next frame edge takes `AI` off the floor
  have h1 := h [.tick, .tick, .tick, .tick, .frame 0 0] (by simp) (by decide)
  simp only [run_nil, run_cons, Game.step] at h1
  rw [(ho.frame keycode keycode1).tick.tick.tick.tick.ai_frame] at h1
  have hmoved : (g.frame keycode keycode1).regs.ai.ballYPos +
      ((g.frame keycode keycode1).tick.tick.tick.tick).clk.gravity2.ballYMotion = 300#10 := h1.2.1
  rw [hrising.line] at hmoved
  exact hmotion (BitVec.add_right_eq_self.1 hmoved)

/-- Whatever the state in which a frame edge sees the end of the match: `AI` stands at
column 439 and line 300 from then on until `Reset` if and only if this edge takes it there
and its machine is not about to rise. -/
theorem ai_parked_iff (g : Game) (hst : g.regs.st) (hwin : g.clk.hp.p1win ∨ g.clk.hp.p2win)
    (keycode keycode1 : BitVec 16) : StaysParked g keycode keycode1 ↔ Arriving g := by
  constructor
  · exact arriving_of_parked ⟨hst, hwin⟩
  · intro h es hes hspaced
    have hend := (Game.meets_no_reset _ hes).invariant_monitor (I := ParkedInv)
      (fun g n e hp he hn => hp.step e he hn) hspaced (.of_arriving ⟨hst, hwin⟩ h keycode keycode1)
    exact hend.aiParked

/-! ### A match -/

/-- The key byte held, frame by frame, until a win flag is up or `n` frames have passed. -/
def heldUntilWin (keycode : BitVec 16) : ℕ → Game → Game
  | 0, g => g
  | n + 1, g =>
    if g.clk.hp.p1win || g.clk.hp.p2win then g
    else heldUntilWin keycode n (run Game.step g (heldShort 1 keycode 0))

lemma heldUntilWin_run (keycode : BitVec 16) (n : ℕ) (g : Game) :
    ∃ es, Event.reset ∉ es ∧ Meets countTicks Spaced 4 es ∧
    heldUntilWin keycode n g = run Game.step g es := by
  induction n generalizing g with
  | zero => exact ⟨[], by simp, trivial, rfl⟩
  | succ n ih =>
    unfold heldUntilWin
    split
    · exact ⟨[], by simp, trivial, rfl⟩
    · obtain ⟨es, hno, hspaced, hes⟩ := ih (run Game.step g (heldShort 1 keycode 0))
      obtain ⟨hshort, hready⟩ := heldShort_spaced 1 keycode 0
      refine ⟨heldShort 1 keycode 0 ++ es, ?_, ?_, by rw [hes, run_append]⟩
      · rw [List.mem_append, not_or]
        exact ⟨reset_notMem_heldShort 1 keycode 0, hno⟩
      · rw [meets_append, hready]
        exact ⟨hshort, hspaced⟩

/-- Player 1 walks up to `AI` and kicks until the match is won. -/
def kickMatch : Game :=
  heldUntilWin 0x0018 800 (run Game.step (Game.powerUp .normal).reset
    (heldShort 1 0x004B 0 ++ heldShort 1 0x0028 0 ++ heldShort 42 0x0007 0))

lemma kickMatch_won : kickMatch.regs.st ∧ kickMatch.regs.sin ∧ kickMatch.clk.hp.p1win ∧
    kickMatch.regs.ai.ballXPos + kickMatch.regs.ai.ballXMotion ≠ 439#10 := by
  decide +kernel

lemma kickMatch_run : ∃ es, Event.reset ∉ es ∧ Meets countTicks Spaced 4 es ∧
    kickMatch = run Game.step (Game.powerUp .normal).reset es := by
  obtain ⟨es, hno, hspaced, hes⟩ :=
    heldUntilWin_run 0x0018 800 (run Game.step (Game.powerUp .normal).reset
    (heldShort 1 0x004B 0 ++ heldShort 1 0x0028 0 ++ heldShort 42 0x0007 0))
  refine ⟨_, ?_, ?_, hes.trans run_append.symm⟩
  · simp only [List.mem_append, not_or, reset_notMem_heldShort, not_false_eq_true, true_and]
    exact hno
  · simp only [meets_append, run_append, (heldShort_spaced _ _ _).2,
      (heldShort_spaced _ _ _).1, true_and]
    exact hspaced

/-- Player 1 comes nearer in the menu, and its last kick finds `AI` one column short of its
place. -/
def parkedMatch : Game :=
  heldUntilWin 0x0018 860 (run Game.step (Game.powerUp .normal).reset
    (heldShort 1 0x004B 0 ++ heldShort 99 0x0007 0 ++ heldShort 1 0x0028 0 ++ heldShort 5 0x0007 0))

lemma parkedMatch_arriving : parkedMatch.regs.st ∧ parkedMatch.clk.hp.p1win ∧
    parkedMatch.regs.ai.ballXPos + parkedMatch.regs.ai.ballXMotion = 439#10 ∧
    parkedMatch.regs.ai.ballYPos + parkedMatch.clk.gravity2.ballYMotion = 300#10 ∧
    parkedMatch.clk.gravity2.state ≠ .state1 := by
  decide +kernel

theorem ai_parked_iff_parkedMatch : StaysParked parkedMatch 0 0 := by
  obtain ⟨hst, hwin, hcolumn, hline, hstate⟩ := parkedMatch_arriving
  exact (ai_parked_iff parkedMatch hst (Or.inl hwin) 0 0).2 ⟨hcolumn, hline, hstate⟩

/-- The first frame edge after the last kick already leaves it somewhere else. -/
theorem kickMatch_not_parked : ¬∀ (g : Game) (es : List Event) (keycode keycode1 : BitVec 16),
    Event.reset ∉ es → Meets countTicks Spaced 4 es → (run Game.step g.reset es).regs.sin →
    (run Game.step g.reset es).Over → StaysParked (run Game.step g.reset es) keycode keycode1 := by
  intro h
  obtain ⟨hst, hsin, hwin, hcolumn⟩ := kickMatch_won
  obtain ⟨es, hno, hspaced, hrun⟩ := kickMatch_run
  have hover : kickMatch.Over := ⟨hst, Or.inl hwin⟩
  have hparked := h (Game.powerUp .normal) es 0 0 hno hspaced
  rw [← hrun] at hparked
  have hx := (hparked hsin hover [] (by simp) trivial).1
  rw [run_nil, hover.ai_frame] at hx
  exact hcolumn hx

end StickFigureFighting
