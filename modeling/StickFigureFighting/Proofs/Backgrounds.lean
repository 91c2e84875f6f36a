import StickFigureFighting.Proofs.Picture

/-!
# The backgrounds in the SRAM

`address` reads three pictures of 640 by 480 words, column by column: the menu, and the
arenas for two players and for one. They lie one after the other, so that the memory holds
any three pictures, and every point of the screen finds its own word.
-/

namespace StickFigureFighting
open Library

/-- The picture before which the game is played: 0 is the menu. -/
def FrameRegs.screen (f : FrameRegs) : ℕ := if f.st && f.du then 1 else if f.st && f.sin then 2 else 0

lemma FrameRegs.screen_le (f : FrameRegs) : f.screen ≤ 2 := by
  unfold screen
  split
  · omega
  · split <;> omega

lemma backgroundBase_screen (f : FrameRegs) :
    (backgroundBase f.st f.du f.sin).toNat = 307200 * f.screen := by
  unfold backgroundBase FrameRegs.screen
  split
  · rfl
  · split <;> rfl

/-- The address stays below 921600 and is not cut off. -/
lemma sramAddr_toNat (f : FrameRegs) {x y : ℕ} (hx : x < 640) (hy : y < 480) :
    (Console.sramAddr (BitVec.ofNat 10 x) (BitVec.ofNat 10 y) f).toNat =
      307200 * f.screen + (480 * x + y) := by
  have hbase := backgroundBase_screen f
  have hle := f.screen_le
  unfold Console.sramAddr address
  generalize backgroundBase f.st f.du f.sin = base at hbase ⊢
  generalize f.screen = screen at hbase hle ⊢
  have hcol : x % 2 ^ 10 = x := Nat.mod_eq_of_lt (by omega)
  have hline : y % 2 ^ 10 = y := Nat.mod_eq_of_lt (by omega)
  simp only [BitVec.toNat_setWidth, BitVec.toNat_add, BitVec.toNat_mul,
    BitVec.toNat_ofNat, hcol, hline, hbase]
  omega

/-- The words of the SRAM when picture `k` has the word `pictures k x y` at its point `(x, y)`. -/
def sramOf (pictures : ℕ → ℕ → ℕ → BitVec 16) (a : BitVec 20) : BitVec 16 :=
  pictures (a.toNat / 307200) (a.toNat % 307200 / 480) (a.toNat % 480)

lemma sramOf_sramAddr (pictures : ℕ → ℕ → ℕ → BitVec 16) (f : FrameRegs) {x y : ℕ}
    (hx : x < 640) (hy : y < 480) :
    sramOf pictures (Console.sramAddr (BitVec.ofNat 10 x) (BitVec.ofNat 10 y) f) =
      pictures f.screen x y := by
  have haddr := sramAddr_toNat f hx hy
  have hle := f.screen_le
  have hscreen : (307200 * f.screen + (480 * x + y)) / 307200 = f.screen := by omega
  have hcol : (307200 * f.screen + (480 * x + y)) % 307200 / 480 = x := by omega
  have hline : (307200 * f.screen + (480 * x + y)) % 480 = y := by omega
  rw [sramOf, haddr, hscreen, hcol, hline]

/-- Whatever three pictures are in the SRAM: from the seventh pixel after `Reset` on, the video
DAC latches the scene of the frame before the picture of the present screen. -/
theorem backgrounds_shown (t : Tables) (pictures : ℕ → ℕ → ℕ → BitVec 16)
    (c : Console) (keys : ℕ → Keys) (m : ℕ) (hm : 6 ≤ m) (hblank : (Vga.pixels m).blank) :
    (Console.after ⟨t, sramOf pictures⟩ c keys (2 * m)).display.blitter.rgb =
      ((Console.shown ⟨t, sramOf pictures⟩ c keys m).scene ⟨t, sramOf pictures⟩).picture 1
        (fun x y => Blitter.background
          ((pictures (Console.shown ⟨t, sramOf pictures⟩ c keys m).game.regs.screen x y).setWidth 15))
        (m % 800) (m / 800 % 525) := by
  obtain ⟨hx, hy⟩ := (Vga.blank_pixels m).1 hblank
  rw [Console.latched_eq _ c keys hm hblank, Console.picture, Scene.picture, Scene.picture]
  apply paint_congr
  · exact List.forall₂_same.2 (fun _ _ => rfl)
  · have hword := sramOf_sramAddr pictures (Console.shown ⟨t, sramOf pictures⟩ c keys m).game.regs hx hy
    exact congrArg (fun w => Blitter.background (BitVec.setWidth 15 w)) hword

/-- Three pictures in which a word changes with the column and with the line. -/
def gradients (screen x y : ℕ) : BitVec 16 := BitVec.ofNat 16 (9973 * screen + 31 * x + y)

/-- A point beside the figures in the first frame of a match against `AI`. -/
theorem backgrounds_shown_arena :
    (Console.after ⟨emptyBoard.tables, sramOf gradients⟩ (Console.powerUp .normal) startKeys
      (2 * (420000 * 1 + 800 * 100 + 300))).display.blitter.rgb =
    Blitter.background ((gradients 2 300 100).setWidth 15) := by
  have hgame : (Console.after ⟨emptyBoard.tables, sramOf gradients⟩ (Console.powerUp .normal) startKeys
      (frameEdge 1 + 10)).game = (Console.powerUp .normal).game.frames startKeys 1 :=
    Console.game_at_rest _ _ _ (Nat.le_refl _) (by decide)
  have hplayed : ((Console.powerUp .normal).game.frames startKeys 1).regs.st ∧
      ((Console.powerUp .normal).game.frames startKeys 1).regs.screen = 2 ∧
      100 < ((Console.powerUp .normal).game.frames startKeys 1).regs.ball.ballYPos.toNat ∧
      100 < ((Console.powerUp .normal).game.frames startKeys 1).regs.player2.ballysig1.toNat := by
    decide +kernel
  rw [← hgame] at hplayed
  have hblank : (Vga.pixels (420000 * 1 + 800 * 100 + 300)).blank := (Vga.blank_pixels _).2 (by decide)
  rw [backgrounds_shown emptyBoard.tables gradients (Console.powerUp .normal) startKeys _
    (by decide) hblank, Console.shown, show (420000 * 1 + 800 * 100 + 300) / 420000 = 1 by decide,
    show (420000 * 1 + 800 * 100 + 300) % 800 = 300 by decide,
    show (420000 * 1 + 800 * 100 + 300) / 800 % 525 = 100 by decide]
  generalize Console.after _ _ startKeys (frameEdge 1 + 10) = s at hplayed ⊢
  obtain ⟨hst, hscreen, hball, hplayer2⟩ := hplayed
  obtain ⟨hfigure, hfigure1⟩ :=
    Console.figures_below ⟨emptyBoard.tables, sramOf gradients⟩ s 1 300 hball hplayer2
  rw [Console.scene_of_st _ s hst]
  simp [Scene.picture, Scene.layers, Scene.inBar1, Scene.inBar2, hfigure, hfigure1, hscreen]

end StickFigureFighting
