import StickFigureFighting.Proofs.Orientation

/-!
# What `AI` attacks

The attack tests of `AI` ask for an opponent in range on the side given by `stand_left`
and `stand_right`. In the wiring of `mode_choose` these are the facing lines of player 1,
while `valid2` counts a hit by the lines of player 2. So `AI` attacks a player 1 that
turns its back, and faces it only if its own lines happen to be the same.
-/

namespace StickFigureFighting
open Library

/-! ### A facing machine shows one side -/

/-- Neither facing machine shows both sides. -/
structure OneSided (c : ClkRegs) : Prop where
  state0 : ¬(c.state0.standLeft ∧ c.state0.standRight)
  state1 : ¬(c.state1.standLeft ∧ c.state1.standRight)

namespace OneSided

lemma facing_step {rl rr : Bool} (hr : ¬(rl ∧ rr)) {m : Facing} (a : Actions)
    (h : ¬(m.standLeft ∧ m.standRight)) :
    ¬((m.step rl rr a).standLeft ∧ (m.step rl rr a).standRight) := by
  obtain ⟨s, l, r⟩ := m
  cases s with
  | reset => exact hr
  | state1 => exact h
  | _ => simp [Facing.step, Facing.nextOutputs]

lemma step (g : Game) (e : Event) (h : OneSided g.clk) : OneSided (g.step e).clk := by
  cases e with
  | tick => exact ⟨facing_step (by simp) _ h.state0, facing_step (by simp) _ h.state1⟩
  | frame keycode keycode1 => exact h
  | reset => exact ⟨h.state0, h.state1⟩

lemma powerUp (s : HpState) : OneSided (Game.powerUp s).clk :=
  ⟨by simp [Game.powerUp, ClkRegs.powerUp], by simp [Game.powerUp, ClkRegs.powerUp]⟩

end OneSided

/-! ### The attack branches -/

lemma AI.attack_side {m : Mover} {p : MoverPorts} (h : AI.branch m p ∈ [Branch.fight, .kick, .jump]) :
    (m.ballXPos ≤ p.ballX1 ∧ p.standRight) ∨ (p.ballX1 ≤ m.ballXPos ∧ p.standLeft) := by
  have hrange : ∀ range rest, (AI.inRange m p range && rest) = true →
      (m.ballXPos ≤ p.ballX1 ∧ p.standRight) ∨ (p.ballX1 ≤ m.ballXPos ∧ p.standLeft) := by
    intro range rest hr
    simp only [AI.inRange, Bool.and_eq_true, Bool.or_eq_true, decide_eq_true_eq] at hr
    rcases hr.1 with ⟨⟨hx, -⟩, hs⟩ | ⟨⟨hx, -⟩, hs⟩
    · exact Or.inl ⟨hx, hs⟩
    · exact Or.inr ⟨hx, hs⟩
  simp only [AI.branch, Bool.and_assoc] at h
  repeat' split at h
  all_goals
    first
    | (rename_i hr; exact hrange _ _ hr)
    | simp at h

/-- In a single-player match without a winner, `AI` takes an attack branch. -/
def AiAttacks (g : Game) (keycode keycode1 : BitVec 16) : Prop :=
  g.regs.st ∧ g.regs.sin ∧ g.clk.hp.p1win = false ∧ g.clk.hp.p2win = false ∧
    AI.branch g.regs.ai (player2Ports g.regs g.clk keycode keycode1) ∈ [Branch.fight, .kick, .jump]

instance (g : Game) (keycode keycode1 : BitVec 16) : Decidable (AiAttacks g keycode keycode1) :=
  inferInstanceAs (Decidable (_ ∧ _ ∧ _ ∧ _ ∧ _))

/-- At a frame edge at which `AI` attacks, it faces player 1. -/
def AttackFaced (g : Game) : Event → Prop
  | .tick | .reset => True
  | .frame keycode keycode1 => AiAttacks g keycode keycode1 →
    (g.regs.ai.ballXPos < g.regs.ball.ballXPos → g.clk.state1.standRight) ∧
    (g.regs.ball.ballXPos < g.regs.ai.ballXPos → g.clk.state1.standLeft)

/-- At a frame edge at which `AI` attacks, the two figures face the same way, unless they
stand in one column. -/
def FacingAlike (g : Game) : Event → Prop
  | .tick | .reset => True
  | .frame keycode keycode1 => AiAttacks g keycode keycode1 →
    g.regs.ball.ballXPos = g.regs.ai.ballXPos ∨
      g.clk.state0.standLeft = g.clk.state1.standLeft ∧ g.clk.state0.standRight = g.clk.state1.standRight

lemma attackFaced_iff {g : Game} (h : OneSided g.clk) (e : Event) :
    AttackFaced g e ↔ FacingAlike g e := by
  cases e with
  | tick | reset => rfl
  | frame keycode keycode1 =>
    simp only [AttackFaced, FacingAlike]
    refine imp_congr_right ?_
    intro hattack
    have hside := AI.attack_side hattack.2.2.2.2
    change (g.regs.ai.ballXPos ≤ g.regs.ball.ballXPos ∧ g.clk.state0.standRight) ∨
      (g.regs.ball.ballXPos ≤ g.regs.ai.ballXPos ∧ g.clk.state0.standLeft) at hside
    have h0 := h.state0
    have h1 := h.state1
    by_cases hright : g.regs.ai.ballXPos < g.regs.ball.ballXPos
    · have hline := (hside.resolve_right (fun hs => by bv_omega)).2
      have hne : ¬g.regs.ball.ballXPos < g.regs.ai.ballXPos := by bv_omega
      have hcol : g.regs.ball.ballXPos ≠ g.regs.ai.ballXPos := by bv_omega
      grind
    by_cases hleft : g.regs.ball.ballXPos < g.regs.ai.ballXPos
    · have hline := (hside.resolve_left (fun hs => by bv_omega)).2
      have hcol : g.regs.ball.ballXPos ≠ g.regs.ai.ballXPos := by bv_omega
      grind
    · have hcol : g.regs.ball.ballXPos = g.regs.ai.ballXPos := by bv_omega
      simp [hcol]

/-- In every run from power-up, `AI` faces what it attacks exactly if, whenever it attacks,
the figures face the same way or stand in one column. -/
theorem ai_attacks_faced_iff (s : HpState) (es : List Event) :
    Meets Game.step AttackFaced (Game.powerUp s) es ↔
      Meets Game.step FacingAlike (Game.powerUp s) es := by
  constructor
  · intro h
    exact h.mono (fun g e hg _ => OneSided.step g e hg) (fun g e hg he => (attackFaced_iff hg e).1 he)
      (OneSided.powerUp s)
  · intro h
    exact h.mono (fun g e hg _ => OneSided.step g e hg) (fun g e hg he => (attackFaced_iff hg e).2 he)
      (OneSided.powerUp s)

/-- `AI` jumps over a player 1 that has turned its back, and player 1 turns away again. -/
def turnAway : List Event :=
  heldShort 1 0x284B 0 ++ heldShort 30 0x0007 0 ++ heldShort 1 0x0004 0 ++ heldShort 60 0 0 ++
    heldShort 1 0x0007 0 ++ heldShort 1 0 0

/-- Player 1 is on the right of `AI`, which faces left and attacks. -/
theorem turnAway_attack :
    AiAttacks (run Game.step (Game.powerUp .normal) (.reset :: turnAway)) 0 0 ∧
    (run Game.step (Game.powerUp .normal) (.reset :: turnAway)).clk.state1.standLeft ∧
    ¬AttackFaced (run Game.step (Game.powerUp .normal) (.reset :: turnAway)) (.frame 0 0) := by
  have hattack :
      AiAttacks (run Game.step (Game.powerUp .normal) (.reset :: turnAway)) 0 0 := by decide +kernel
  have hright : (run Game.step (Game.powerUp .normal) (.reset :: turnAway)).regs.ai.ballXPos <
      (run Game.step (Game.powerUp .normal) (.reset :: turnAway)).regs.ball.ballXPos := by decide +kernel
  have hline : (run Game.step (Game.powerUp .normal) (.reset :: turnAway)).clk.state1.standRight =
      false := by
    decide +kernel
  refine ⟨hattack, by decide +kernel, ?_⟩
  intro h
  have hfaces := (h hattack).1 hright
  rw [hline] at hfaces
  cases hfaces

end StickFigureFighting
