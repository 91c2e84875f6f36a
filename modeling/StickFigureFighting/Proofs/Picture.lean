import StickFigureFighting.Proofs.FrameClock
import StickFigureFighting.Proofs.Poses

/-!
# The picture on the screen

While the raster is in the visible lines, the game and the machines that draw hold still,
so that all points of a picture show one scene. Each point is painted twice. The first
colour still uses the answers of the box tests for the column before, and it is this one
that is there when `VGA_CLK` rises and the video DAC takes it over.
-/

namespace StickFigureFighting
open Library

lemma Vga.blank_pixels (n : ℕ) : (pixels n).blank = true ↔ n % 800 < 640 ∧ n / 800 % 525 < 480 := by
  have hx := drawX_pixels n
  have hy := drawY_pixels n
  rw [drawX] at hx
  rw [drawY] at hy
  rw [blank, Bool.not_eq_true', Bool.or_eq_false_iff, decide_eq_false_iff_not, decide_eq_false_iff_not]
  bv_omega

namespace Console

variable (b : Board) (c : Console) (keys : ℕ → Keys)

/-- What the console shows, in its present state. -/
def scene : Scene := (c.blitterPorts b).scene c.game.clk.hp.hpbar1.toNat c.game.clk.hp.hpbar2.toNat

lemma scene_of_st (hst : c.game.regs.st) :
    c.scene b = .arena (c.blitterPorts b).sprite (c.blitterPorts b).sprite1
      c.game.clk.hp.hpbar1.toNat c.game.clk.hp.hpbar2.toNat :=
  if_pos hst

lemma figures_below (lag x : ℕ) {y : ℕ} (hball : y < c.game.regs.ball.ballYPos.toNat)
    (hplayer2 : y < c.game.regs.player2.ballysig1.toNat) :
    (c.blitterPorts b).sprite.covers lag x y = false ∧
    (c.blitterPorts b).sprite1.covers lag x y = false := by
  have habove : ∀ s : Sprite, y < s.top → s.covers lag x y = false := by
    intro s hy
    rw [Sprite.covers, decide_eq_false (by omega), Bool.false_and]
  exact ⟨habove _ hball, habove _ hplayer2⟩

def ground (x y : ℕ) : Rgb :=
  Blitter.background
    ((b.sram (sramAddr (BitVec.ofNat 10 x) (BitVec.ofNat 10 y) c.game.regs)).setWidth 15)

def picture (lag : ℕ) : ℕ → ℕ → Rgb := (c.scene b).picture lag (c.ground b)

/-! ### Two consoles that show the same -/

structure Alike (c c' : Console) : Prop where
  game : c.game = c'.game
  pictures : c.pictures = c'.pictures
  pictures1 : c.pictures1 = c'.pictures1

namespace Alike

variable {c c' : Console}

/-- Only the word from the SRAM depends on the place of the raster. -/
lemma blitterPorts (h : Alike c c') :
    c.blitterPorts b = { c'.blitterPorts b with data0 := (c.blitterPorts b).data0 } := by
  obtain ⟨g, m, m1, d⟩ := c
  obtain ⟨g', m', m1', d'⟩ := c'
  obtain ⟨rfl, rfl, rfl⟩ := h
  simp only [Console.blitterPorts, figurePorts, figure1Ports]

lemma picture (h : Alike c c') : c.picture b = c'.picture b := by
  have hscene : c.scene b = c'.scene b := by
    rw [scene, h.blitterPorts b, h.game]
    rfl
  have hground : c.ground b = c'.ground b := by
    unfold ground
    rw [h.game]
  funext lag
  rw [Console.picture, hscene, hground]
  rfl

end Alike

/-! ### Between two frame edges -/

lemma pictures_after {k n : ℕ} (hn : frameEdge k + 1 ≤ n) (hn' : n ≤ frameEdge (k + 1)) :
    (after b c keys n).pictures = (after b c keys (frameEdge k + 1)).pictures ∧
      (after b c keys n).pictures1 = (after b c keys (frameEdge k + 1)).pictures1 := by
  induction n, hn using Nat.le_induction with
  | base => exact ⟨rfl, rfl⟩
  | succ n hn ih =>
    rw [step_of_not_due b c keys (frameEdge_schedule.between k n (by omega) (by omega))]
    exact ih (by omega)

/-- From the tenth edge of `Clk` after a frame edge to the next one, the console shows the
same scene. -/
theorem alike_after {k n : ℕ} (hn : frameEdge k + 10 ≤ n) (hn' : n ≤ frameEdge (k + 1)) :
    Alike (after b c keys n) (after b c keys (frameEdge k + 10)) := by
  have hroom : frameEdge k + 10 ≤ frameEdge (k + 1) := frameEdge_schedule.room k
  obtain ⟨hp, hp1⟩ := pictures_after b c keys (k := k) (n := n) (by omega) hn'
  obtain ⟨hq, hq1⟩ := pictures_after b c keys (k := k) (n := frameEdge k + 10) (by omega) hroom
  have hgame := game_at_rest b c keys hn hn'
  have hfirst := game_at_rest b c keys (Nat.le_refl (frameEdge k + 10)) hroom
  exact ⟨hgame.trans hfirst.symm, hp.trans hq.symm, hp1.trans hq1.symm⟩

/-! ### Two edges of `Clk` -/

lemma display_step (k : Keys) : (c.step b k).display = c.display.step (c.blitterPorts b) := by
  rw [step]
  split <;> rfl

lemma display_after (n : ℕ) : (after b c keys (n + 1)).display =
    (after b c keys n).display.step ((after b c keys n).blitterPorts b) :=
  display_step b _ _

lemma drawX_after (n : ℕ) : (after b c keys n).display.vga.drawX = (Vga.pixels ((n + 1) / 2)).drawX := by
  rw [vga_after, Vga.step_iterate_reset]
  rfl

lemma drawY_after (n : ℕ) : (after b c keys n).display.vga.drawY = (Vga.pixels ((n + 1) / 2)).drawY := by
  rw [vga_after, Vga.step_iterate_reset]
  rfl

/-- The registers set at one edge answer for its point of the raster. -/
lemma answers_after {n : ℕ} (h : Alike (after b c keys n) (after b c keys (n + 1))) :
    Blitter.Answers ((after b c keys (n + 1)).blitterPorts b) (after b c keys (n + 1)).display.blitter
      (after b c keys (n + 1)).game.clk.hp.hpbar1.toNat (after b c keys (n + 1)).game.clk.hp.hpbar2.toNat
      (Vga.pixels ((n + 1) / 2)).drawX (Vga.pixels ((n + 1) / 2)).drawY := by
  have hports := h.blitterPorts b
  have hinv : HpInv (after b c keys (n + 1)).game.clk.hp := by
    rw [game_after_eq_run]
    exact Game.hpInv_run c.game _
  have hle : (after b c keys (n + 1)).game.clk.hp.hpbar1 ≤ 200#8 := hinv.hpbar1_le
  have hregs : (after b c keys (n + 1)).display.blitter = (after b c keys n).display.blitter.step
      ((after b c keys n).blitterPorts b) (Vga.pixels ((n + 1) / 2)).drawX
      (Vga.pixels ((n + 1) / 2)).drawY := by
    rw [display_after, ← drawX_after b c keys, ← drawY_after b c keys]
    rfl
  rw [hregs, hports]
  refine ⟨rfl, rfl, rfl, rfl, ?_, ?_, Hp.toNat_hp1x hle, Hp.toNat_hp2x _⟩
  · rintro ⟨h1, h2⟩
    exact hinv.standing.elim (fun hne => hne (hinv.p2_imp h2)) (fun hne => hne (hinv.p1_imp h1))
  · rw [BitVec.le_def] at hle
    exact hle

/-- The colour that an edge registers, when the edge before it answered for a point behind. -/
lemma colour_after {n : ℕ} (lag : ℕ) (h : Alike (after b c keys n) (after b c keys (n + 1)))
    (hb : Blitter.Behind lag (Vga.pixels ((n + 1) / 2)).drawX (Vga.pixels ((n + 1) / 2)).drawY
      (Vga.pixels ((n + 2) / 2)).drawX (Vga.pixels ((n + 2) / 2)).drawY) :
    (after b c keys (n + 2)).display.blitter.rgb = (after b c keys (n + 1)).picture b lag
      (Vga.pixels ((n + 2) / 2)).drawX.toNat (Vga.pixels ((n + 2) / 2)).drawY.toNat := by
  have hrgb : (after b c keys (n + 2)).display.blitter.rgb =
      Blitter.colour ((after b c keys (n + 1)).blitterPorts b)
      (after b c keys (n + 1)).display.blitter (Vga.pixels ((n + 2) / 2)).drawX
        (Vga.pixels ((n + 2) / 2)).drawY := by
    rw [display_after, ← drawX_after b c keys (n + 1), ← drawY_after b c keys (n + 1)]
    rfl
  rw [hrgb, Blitter.colour_eq_picture hb (answers_after b c keys h)]
  apply paint_congr (List.forall₂_same.2 fun _ _ => rfl)
  rw [ground, BitVec.ofNat_toNat, BitVec.setWidth_eq, BitVec.ofNat_toNat, BitVec.setWidth_eq,
    ← drawX_after b c keys (n + 1), ← drawY_after b c keys (n + 1)]
  rfl

end Console

lemma Vga.behind_zero {m : ℕ} (hblank : (pixels m).blank) :
    Blitter.Behind 0 (pixels m).drawX (pixels m).drawY (pixels m).drawX (pixels m).drawY := by
  obtain ⟨hx, hy⟩ := (blank_pixels m).1 hblank
  rw [← drawX_pixels] at hx
  rw [← drawY_pixels] at hy
  exact ⟨hx, hy, Or.inl ⟨rfl, rfl, rfl⟩⟩

/-- The pixel clock before belongs to the column to the left, or to the end of a line. -/
lemma Vga.behind_one {m : ℕ} (hblank : (pixels (m + 1)).blank) :
    Blitter.Behind 1 (pixels m).drawX (pixels m).drawY (pixels (m + 1)).drawX
      (pixels (m + 1)).drawY := by
  have hx := drawX_pixels m
  have hy := drawY_pixels m
  have hx' := drawX_pixels (m + 1)
  have hy' := drawY_pixels (m + 1)
  obtain ⟨hcol, hline⟩ := (blank_pixels (m + 1)).1 hblank
  refine ⟨by omega, by omega, Or.inr ⟨rfl, ?_⟩⟩
  by_cases hend : m % 800 = 799
  · right
    omega
  · left
    refine ⟨by omega, ?_⟩
    rw [← BitVec.toNat_inj]
    omega

/-! ### The two colours of a point -/

namespace Console

variable (b : Board) (c : Console) (keys : ℕ → Keys) {m : ℕ}

/-- The console whose scene is on the screen at pixel `m`. -/
def shown (m : ℕ) : Console := after b c keys (frameEdge (m / 420000) + 10)

lemma alike_shown (hm : 6 ≤ m) (hblank : (Vga.pixels m).blank) {n : ℕ}
    (hn : 2 * m - 2 ≤ n) (hn' : n ≤ 2 * m + 1) :
    Alike (after b c keys n) (shown b c keys m) := by
  obtain ⟨-, hline⟩ := (Vga.blank_pixels m).1 hblank
  apply alike_after b c keys
  · cases hk : m / 420000 with
    | zero =>
      rw [frameEdge]
      omega
    | succ k =>
      rw [frameEdge]
      omega
  · rw [frameEdge]
    omega

lemma Alike.symm_trans {c c' d : Console} (h : Alike c d) (h' : Alike c' d) : Alike c c' :=
  ⟨h.game.trans h'.game.symm, h.pictures.trans h'.pictures.symm, h.pictures1.trans h'.pictures1.symm⟩

/-- The colour that `VGA_CLK` finds when it rises for a point. -/
lemma latched_eq (hm : 6 ≤ m) (hblank : (Vga.pixels m).blank) :
    (after b c keys (2 * m)).display.blitter.rgb =
    (shown b c keys m).picture b 1 (m % 800) (m / 800 % 525) := by
  have hshown := fun n => alike_shown b c keys hm hblank (n := n)
  rw [← Vga.drawX_pixels m, ← Vga.drawY_pixels m]
  obtain ⟨n, rfl⟩ := Nat.exists_eq_add_of_le' (by omega : 1 ≤ m)
  have halike := (hshown (2 * n) (by omega) (by omega)).symm_trans
    (hshown (2 * n + 1) (by omega) (by omega))
  have hcolour := colour_after b c keys 1 halike
  rw [show (2 * n + 1) / 2 = n by omega, show (2 * n + 2) / 2 = n + 1 by omega] at hcolour
  rw [show 2 * (n + 1) = 2 * n + 2 by omega, hcolour (Vga.behind_one hblank),
    (hshown (2 * n + 1) (by omega) (by omega)).picture b]

/-- The colour by which it is replaced at this edge. -/
lemma replaced_eq (hm : 6 ≤ m) (hblank : (Vga.pixels m).blank) :
    (after b c keys (2 * m + 1)).display.blitter.rgb =
    (shown b c keys m).picture b 0 (m % 800) (m / 800 % 525) := by
  have hshown := fun n => alike_shown b c keys hm hblank (n := n)
  rw [← Vga.drawX_pixels m, ← Vga.drawY_pixels m]
  obtain ⟨n, hn⟩ := Nat.exists_eq_add_of_le' (by omega : 1 ≤ 2 * m)
  have halike := (hshown n (by omega) (by omega)).symm_trans (hshown (n + 1) (by omega) (by omega))
  have hcolour := colour_after b c keys 0 halike
  rw [show (n + 1) / 2 = m by omega, show (n + 2) / 2 = m by omega] at hcolour
  rw [show 2 * m + 1 = n + 2 by omega, hcolour (Vga.behind_zero hblank),
    (hshown (n + 1) (by omega) (by omega)).picture b]

end Console

namespace Scene

/-- The columns in which it matters that the box tests are a column late. -/
def edgeColumns : Scene → List ℕ
  | .menu _ _ => []
  | .arena figure figure1 _ _ => [figure.left, figure1.left, 75, 275, 365]

lemma covers_lag {s : Sprite} {x y : ℕ} (hx : x ≠ s.left) : s.covers 1 x y = s.covers 0 x y := by
  have hbox : ((s.left + 1 ≤ x ∧ x < s.left + 100) ∧ s.top ≤ y ∧ y < s.top + 100) ↔
      ((s.left + 0 ≤ x ∧ x < s.left + 100) ∧ s.top ≤ y ∧ y < s.top + 100) := by
    omega
  rw [Sprite.covers, Sprite.covers, decide_eq_decide.2 hbox]

lemma inBar1_lag {bar x y : ℕ} (hx : x ≠ 75) (hx' : x ≠ 275) : inBar1 bar 1 x y = inBar1 bar 0 x y := by
  rw [inBar1, inBar1, decide_eq_decide]
  omega

lemma inBar2_lag {bar x y : ℕ} (hbar : bar ≤ 200) (hx : x ≠ 365) :
    inBar2 bar 1 x y = inBar2 bar 0 x y := by
  rw [inBar2, inBar2, decide_eq_decide]
  omega

/-- The bars are no longer than 200 columns. -/
def Bounded : Scene → Prop
  | .menu _ _ => True
  | .arena _ _ _ bar2 => bar2 ≤ 200

lemma picture_lag {s : Scene} (hs : s.Bounded) (ground : ℕ → ℕ → Rgb) {x : ℕ}
    (hx : x ∉ s.edgeColumns) (y : ℕ) :
    s.picture 1 ground x y = s.picture 0 ground x y := by
  cases s with
  | menu cursorX cursorY => rfl
  | arena figure figure1 bar1 bar2 =>
    simp only [edgeColumns, List.mem_cons, List.not_mem_nil, or_false, not_or] at hx
    obtain ⟨hfigure, hfigure1, h75, h275, h365⟩ := hx
    simp only [picture, layers, paint_region, paint_nil, covers_lag hfigure,
      covers_lag hfigure1, inBar1_lag h75 h275, inBar2_lag hs h365]

end Scene

lemma Console.scene_bounded (b : Board) (c : Console) (keys : ℕ → Keys) (n : ℕ) :
    ((after b c keys n).scene b).Bounded := by
  have hinv := Game.hpInv_run c.game (Game.eventsOf keys n)
  rw [← game_after_eq_run b] at hinv
  have hle := hinv.hpbar2_le
  rw [BitVec.le_def] at hle
  rw [scene, BlitterPorts.scene]
  split
  · exact hle
  · trivial

/-- From the seventh pixel after `Reset` on, all visible points of a frame show one scene.
The colour that `VGA_CLK` finds when it rises for a point is the one with box tests a column
late; the colour that replaces it at this edge has them right. The two differ in the first
columns of the figures and at the ends of the bars only. -/
theorem picture_shown (b : Board) (c : Console) (keys : ℕ → Keys) (m : ℕ) (hm : 6 ≤ m)
    (hblank : (Vga.pixels m).blank) :
    (Console.after b c keys (2 * m)).display.blitter.rgb =
      (Console.shown b c keys m).picture b 1 (m % 800) (m / 800 % 525) ∧
    (Console.after b c keys (2 * m + 1)).display.blitter.rgb =
      (Console.shown b c keys m).picture b 0 (m % 800) (m / 800 % 525) ∧
    (m % 800 ∉ ((Console.shown b c keys m).scene b).edgeColumns →
      (Console.after b c keys (2 * m)).display.blitter.rgb =
        (Console.after b c keys (2 * m + 1)).display.blitter.rgb) := by
  have hlatched := Console.latched_eq b c keys hm hblank
  have hreplaced := Console.replaced_eq b c keys hm hblank
  refine ⟨hlatched, hreplaced, ?_⟩
  intro hx
  rw [hlatched, hreplaced]
  exact Scene.picture_lag (Console.scene_bounded b c keys _) _ hx _

theorem picture_shown_enter :
    (Console.after emptyBoard (Console.powerUp .normal) (fun _ => ⟨0x0028, 0⟩)
      (2 * 23300)).display.blitter.rgb =
      (Console.shown emptyBoard (Console.powerUp .normal) (fun _ => ⟨0x0028, 0⟩) 23300).picture
        emptyBoard 1 (23300 % 800) (23300 / 800 % 525) :=
  (picture_shown emptyBoard (Console.powerUp .normal) (fun _ => ⟨0x0028, 0⟩) 23300 (by decide)
    ((Vga.blank_pixels 23300).2 (by decide))).1

end StickFigureFighting
