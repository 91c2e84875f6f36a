import StickFigureFighting.Proofs.Picture

/-!
# The bars on the monitor

The DAC gets the colours with the late box tests. So the bars on the monitor are not those
of the colour block: the first has a column more, except when it is full, and shows one
even when it is empty, and the second has one less.
-/

namespace StickFigureFighting
open Library

/-- The columns of the bars as the DAC latches them. -/
def latchedBar1 (bar : ℕ) : Finset ℕ := Finset.Icc (max 76 (275 - bar)) 275

def latchedBar2 (bar : ℕ) : Finset ℕ := Finset.Ico 366 (365 + bar)

lemma card_latchedBar1 (bar : ℕ) : (latchedBar1 bar).card = min bar 199 + 1 := by
  rw [latchedBar1, Nat.card_Icc]
  omega

lemma card_latchedBar2 (bar : ℕ) : (latchedBar2 bar).card = bar - 1 := by
  rw [latchedBar2, Nat.card_Ico]
  omega

namespace Scene

variable {bar x y : ℕ}

lemma inBar1_latched (hy : 29 ≤ y ∧ y < 39) : inBar1 bar 1 x y = decide (x ∈ latchedBar1 bar) := by
  rw [inBar1, latchedBar1, decide_eq_decide, Finset.mem_Icc]
  omega

lemma inBar2_latched (hbar : bar ≤ 200) (hy : 29 ≤ y ∧ y < 39) :
    inBar2 bar 1 x y = decide (x ∈ latchedBar2 bar) := by
  rw [inBar2, latchedBar2, decide_eq_decide, Finset.mem_Ico]
  omega

end Scene

/-- In every frame of a match, with no figure as high as the bars: what the DAC latches along
a line of the bars. -/
theorem bars_latched (b : Board) (c : Console) (keys : ℕ → Keys) (k y : ℕ) (hy : 29 ≤ y ∧ y < 39)
    (hst : (Console.after b c keys (frameEdge k + 10)).game.regs.st)
    (hclear : 39 ≤ (Console.after b c keys (frameEdge k + 10)).game.regs.ball.ballYPos.toNat ∧
      39 ≤ (Console.after b c keys (frameEdge k + 10)).game.regs.player2.ballysig1.toNat) :
    ∃ bar1 bar2, bar1 = (Console.after b c keys (frameEdge k + 10)).game.clk.hp.hpbar1.toNat ∧
      bar2 = (Console.after b c keys (frameEdge k + 10)).game.clk.hp.hpbar2.toNat ∧
      (latchedBar1 bar1).card = min bar1 199 + 1 ∧ (latchedBar2 bar2).card = bar2 - 1 ∧
      ∀ x < 640, (Console.after b c keys (2 * (420000 * k + 800 * y + x))).display.blitter.rgb =
        if x ∈ latchedBar1 bar1 then ⟨0xff, Blitter.barGreen1 (BitVec.ofNat 10 x), 0x00⟩
        else if x ∈ latchedBar2 bar2 then ⟨0xff, Blitter.barGreen2 (BitVec.ofNat 10 x), 0x00⟩
        else (Console.after b c keys (frameEdge k + 10)).ground b x y := by
  refine ⟨_, _, rfl, rfl, card_latchedBar1 _, card_latchedBar2 _, ?_⟩
  intro x hx
  have hcol : (420000 * k + 800 * y + x) % 800 = x := by omega
  have hline : (420000 * k + 800 * y + x) / 800 % 525 = y := by omega
  have hframe : (420000 * k + 800 * y + x) / 420000 = k := by omega
  have hblank : (Vga.pixels (420000 * k + 800 * y + x)).blank := by
    rw [Vga.blank_pixels, hcol, hline]
    omega
  have hbounded := Console.scene_bounded b c keys (frameEdge k + 10)
  rw [Console.latched_eq b c keys (by omega) hblank, hcol, hline, Console.shown, hframe]
  generalize Console.after b c keys (frameEdge k + 10) = s at hst hclear hbounded ⊢
  have hscene := Console.scene_of_st b s hst
  rw [hscene] at hbounded
  obtain ⟨hfigure, hfigure1⟩ := Console.figures_below b s 1 x (y := y) (by omega) (by omega)
  rw [Console.picture, hscene]
  simp only [Scene.picture, Scene.layers, paint_region, paint_nil, hfigure,
    hfigure1, Scene.inBar1_latched hy,
    Scene.inBar2_latched hbounded hy, Bool.false_eq_true, if_false, decide_eq_true_eq]

theorem bars_latched_start : (Console.after emptyBoard (Console.powerUp .normal) startKeys
      (2 * (420000 * 1 + 800 * 29 + 275))).display.blitter.rgb =
    ⟨0xff, Blitter.barGreen1 (BitVec.ofNat 10 275), 0x00⟩ := by
  have hgame : (Console.after emptyBoard (Console.powerUp .normal) startKeys (frameEdge 1 + 10)).game =
      (Console.powerUp .normal).game.frames startKeys 1 :=
    Console.game_at_rest _ _ _ (Nat.le_refl _) (by decide)
  have hplayed : ((Console.powerUp .normal).game.frames startKeys 1).regs.st ∧
      39 ≤ ((Console.powerUp .normal).game.frames startKeys 1).regs.ball.ballYPos.toNat ∧
      39 ≤ ((Console.powerUp .normal).game.frames startKeys 1).regs.player2.ballysig1.toNat := by
    decide +kernel
  rw [← hgame] at hplayed
  obtain ⟨bar1, bar2, -, -, -, -, hrgb⟩ :=
    bars_latched emptyBoard (Console.powerUp .normal) startKeys 1 29 (by decide)
    hplayed.1 hplayed.2
  rw [hrgb 275 (by decide), if_pos]
  rw [latchedBar1, Finset.mem_Icc]
  omega

end StickFigureFighting
