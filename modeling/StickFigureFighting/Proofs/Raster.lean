import StickFigureFighting.Library.Counters
import StickFigureFighting.Model.Vga
import Mathlib.Logic.ExistsUnique
import Mathlib.Logic.Function.Iterate
import Mathlib.Tactic.ByContra

/-!
# The raster and its sync pulses

Both sync outputs are registers, and both tests look one count ahead to make up for that.
For `hs` this is right, since the columns advance with every pixel clock. The lines
advance once in 800, so the same test begins and ends `vs` almost a line early.
-/

namespace StickFigureFighting
open Library

namespace Vga

/-- The registers `n` pixel clocks after `Reset` is released. -/
def pixels (n : ℕ) : Vga := pixelClock^[n] reset

lemma pixels_succ (n : ℕ) : pixels (n + 1) = (pixels n).pixelClock :=
  Function.iterate_succ_apply' pixelClock n reset

/-- Every second edge of `Clk`, the first one included, is a pixel clock. -/
theorem step_iterate_reset (c : ℕ) :
    step^[c] reset = { pixels ((c + 1) / 2) with clkdiv := decide (c % 2 = 1) } := by
  induction c with
  | zero => rfl
  | succ c ih =>
    rw [Function.iterate_succ_apply', ih]
    rcases Nat.mod_two_eq_zero_or_one c with hc | hc
    · have hhalf : (c + 1 + 1) / 2 = (c + 1) / 2 + 1 := by omega
      have hodd : (c + 1) % 2 = 1 := by omega
      rw [hhalf, pixels_succ]
      simp [step, hc, hodd, pixelClock]
    · have hhalf : (c + 1 + 1) / 2 = (c + 1) / 2 := by omega
      have heven : (c + 1) % 2 = 0 := by omega
      rw [hhalf]
      simp [step, hc, heven]

/-! ### The counters -/

lemma hpixels_period : hpixels.toNat + 1 = 800 := rfl

lemma vlines_period : vlines.toNat + 1 = 525 := rfl

lemma hc_pixelClock (v : Vga) : v.pixelClock.hc = wrapTo hpixels v.hc := rfl

lemma vc_pixelClock (v : Vga) : v.pixelClock.vc = carryTo hpixels v.hc vlines v.vc := rfl

theorem drawX_pixels (n : ℕ) : (pixels n).drawX.toNat = n % 800 := by
  induction n with
  | zero => rfl
  | succ n ih =>
    rw [pixels_succ, drawX, hc_pixelClock, ← hpixels_period]
    exact toNat_wrapTo ih

theorem drawY_pixels (n : ℕ) : (pixels n).drawY.toNat = n / 800 % 525 := by
  induction n with
  | zero => rfl
  | succ n ih =>
    rw [pixels_succ, drawY, vc_pixelClock, ← hpixels_period, ← vlines_period]
    exact toNat_carryTo (drawX_pixels n) ih

/-! ### The sync outputs -/

lemma hs_pixels_succ (n : ℕ) : (pixels (n + 1)).hs = false ↔ 655 ≤ n % 800 ∧ n % 800 < 751 := by
  rw [pixels_succ, pixelClock, ← drawX_pixels n, drawX]
  simp only [Bool.not_eq_eq_eq_not, Bool.not_false, Bool.and_eq_true, decide_eq_true_eq]
  omega

lemma vs_pixels_succ (n : ℕ) : (pixels (n + 1)).vs = false ↔
    n / 800 % 525 = 489 ∨ n / 800 % 525 = 490 := by
  rw [pixels_succ, pixelClock, ← drawY_pixels n, drawY]
  simp only [Bool.not_eq_eq_eq_not, Bool.not_false, Bool.or_eq_true, beq_iff_eq]
  omega

/-- What the comments of the module say about the outputs `n` pixel clocks after `Reset`. -/
structure Timing (v : Vga) (n : ℕ) : Prop where
  drawX : v.drawX.toNat = n % 800
  drawY : v.drawY.toNat = n / 800 % 525
  hs : v.hs = false ↔ 656 ≤ v.drawX.toNat ∧ v.drawX.toNat ≤ 751
  vs : v.vs = false ↔ v.drawY.toNat = 490 ∨ v.drawY.toNat = 491

/-- Pixel clock `k + 1` is a rising edge of the frame clock. -/
def FrameEdge (k : ℕ) : Prop := (pixels k).vs = false ∧ (pixels (k + 1)).vs = true

lemma timing_succ_iff (n : ℕ) : Timing (pixels (n + 1)) (n + 1) ↔
    ¬(((n + 1) / 800 % 525 = 489 ∨ (n + 1) / 800 % 525 = 491) ∧ (n + 1) % 800 ≠ 0) := by
  constructor
  · intro h
    have hvs := h.vs
    rw [vs_pixels_succ, drawY_pixels] at hvs
    omega
  · intro h
    refine ⟨drawX_pixels _, drawY_pixels _, ?_, ?_⟩
    · rw [hs_pixels_succ, drawX_pixels]
      omega
    · rw [vs_pixels_succ, drawY_pixels]
      omega

lemma frameEdge_zero : FrameEdge 0 := ⟨rfl, rfl⟩

lemma frameEdge_succ_iff (k : ℕ) : FrameEdge (k + 1) ↔ (k + 1) % 420000 = 392800 := by
  rw [FrameEdge, vs_pixels_succ, ← Bool.not_eq_false, vs_pixels_succ]
  omega

lemma existsUnique_frameEdge_iff (m : ℕ) :
    (∃! k, (m ≤ k ∧ k < m + 420000) ∧ FrameEdge k) ↔ 1 ≤ m := by
  constructor
  · rintro ⟨k, -, hk⟩
    by_contra hm
    have hfirst : 0 = k := hk 0 ⟨by omega, frameEdge_zero⟩
    have hsecond : 392800 = k := hk 392800 ⟨by omega, (frameEdge_succ_iff 392799).2 rfl⟩
    omega
  · intro hm
    -- the only number in the window that leaves 392800
    refine ⟨m + (812800 - m % 420000) % 420000, ⟨⟨by omega, by omega⟩, ?_⟩, ?_⟩
    · obtain ⟨k, hk⟩ := Nat.exists_eq_add_of_le' (by omega : 1 ≤ m + (812800 - m % 420000) % 420000)
      rw [hk, frameEdge_succ_iff, ← hk]
      omega
    · rintro k ⟨⟨hlow, hhigh⟩, hedge⟩
      obtain ⟨k, rfl⟩ := Nat.exists_eq_add_of_le' (by omega : 1 ≤ k)
      rw [frameEdge_succ_iff] at hedge
      omega

/-- The outputs are as specified except on the lines 489 and 491, where `vs` differs in
every column but the first. It still rises once a frame; `Reset` itself leaves `vs` low, so
that one more edge ends the reset. -/
theorem timing_iff (n m : ℕ) (hn : 1 ≤ n) :
    (Timing (pixels n) n ↔ ¬((n / 800 % 525 = 489 ∨ n / 800 % 525 = 491) ∧ n % 800 ≠ 0)) ∧
    ((∃! k, (m ≤ k ∧ k < m + 420000) ∧ FrameEdge k) ↔ 1 ≤ m) := by
  refine ⟨?_, existsUnique_frameEdge_iff m⟩
  obtain ⟨n, rfl⟩ := Nat.exists_eq_add_of_le' hn
  exact timing_succ_iff n

/-- The second line starts as specified, and the frame clock rises once in the frame after
its first pixel. -/
theorem timing_line_1 :
    Timing (pixels 800) 800 ∧ ∃! k, (1 ≤ k ∧ k < 1 + 420000) ∧ FrameEdge k := by
  have h := timing_iff 800 1 (by decide)
  exact ⟨h.1.2 (by decide), h.2.2 (Nat.le_refl 1)⟩

/-- In the second column of line 489 `vs` is already low. -/
theorem timing_fails_line_489 : ¬∀ n, 1 ≤ n → Timing (pixels n) n := by
  intro h
  have hn := (timing_succ_iff 391200).1 (h 391201 (by decide))
  exact hn ⟨Or.inl rfl, by decide⟩

end Vga

end StickFigureFighting
