import StickFigureFighting.Model.Blitter
import StickFigureFighting.Proofs.HpMatch
import Mathlib.Order.Interval.Finset.Nat

/-!
# The HP bars on the screen

`hp` turns its bars into two column bounds, `blitter` compares the raster with them inside
two boxes of 200 columns. One comparison is strict at the far end and the other is not,
and the bounds differ by one to match.
-/

namespace StickFigureFighting
open Library

namespace Hp

/-- Every state of the arbiter from power-up or `Reset` on, whatever the other modules do. -/
def Reachable : Hp → Prop :=
  Library.Reachable (fun h => h = reset ∨ ∃ s, h = { reset with state := s }) (fun h p => h.step p)

lemma Reachable.bars_le {h : Hp} (hr : h.Reachable) : h.hpbar1 ≤ 200#8 ∧ h.hpbar2 ≤ 200#8 := by
  refine Library.Reachable.invariant (I := fun h => h.hpbar1 ≤ 200#8 ∧ h.hpbar2 ≤ 200#8) ?_ ?_ hr
  · rintro h (rfl | ⟨s, rfl⟩) <;> exact ⟨BitVec.le_refl _, BitVec.le_refl _⟩
  · intro h p hb
    have hstep := h.step_bars_le p
    exact ⟨BitVec.le_trans hstep.1 hb.1, BitVec.le_trans hstep.2 hb.2⟩

def barColumns1 (h : Hp) (y : BitVec 10) : Finset ℕ :=
  {x ∈ Finset.range 1024 | Blitter.inBar1 (BitVec.ofNat 10 x) y ∧ BitVec.ofNat 10 x ≥ h.hp1x}

def barColumns2 (h : Hp) (y : BitVec 10) : Finset ℕ :=
  {x ∈ Finset.range 1024 | Blitter.inBar2 (BitVec.ofNat 10 x) y ∧ BitVec.ofNat 10 x ≤ h.hp2x}

variable {h : Hp} {y : BitVec 10}

lemma toNat_hp1x (hb : h.hpbar1 ≤ 200#8) : h.hp1x.toNat = 275 - h.hpbar1.toNat := by
  rw [BitVec.le_def] at hb
  simp only [hp1x, BitVec.toNat_add, BitVec.toNat_sub, BitVec.toNat_setWidth, BitVec.toNat_ofNat] at hb ⊢
  omega

lemma toNat_hp2x (h : Hp) : h.hp2x.toNat = 364 + h.hpbar2.toNat := by
  have hlt := h.hpbar2.isLt
  simp only [hp2x, BitVec.toNat_add, BitVec.toNat_setWidth, BitVec.toNat_ofNat]
  omega

lemma inBar1_iff (x y : BitVec 10) : Blitter.inBar1 x y = true ↔
    (75 ≤ x.toNat ∧ x.toNat < 275) ∧ 29 ≤ y.toNat ∧ y.toNat < 39 := by
  simp only [Blitter.inBar1, Bool.and_eq_true, decide_eq_true_eq]
  simp only [Blitter.hpX, Blitter.hpSize, Blitter.hpY, Blitter.hpY1]
  bv_omega

lemma inBar2_iff (x y : BitVec 10) : Blitter.inBar2 x y = true ↔
    (365 ≤ x.toNat ∧ x.toNat < 565) ∧ 29 ≤ y.toNat ∧ y.toNat < 39 := by
  simp only [Blitter.inBar2, Bool.and_eq_true, decide_eq_true_eq]
  simp only [Blitter.hpX1, Blitter.hpSize, Blitter.hpY, Blitter.hpY1]
  bv_omega

lemma barColumns1_eq (hb : h.hpbar1 ≤ 200#8) (hy : 29 ≤ y.toNat ∧ y.toNat < 39) :
    h.barColumns1 y = Finset.Ico (275 - h.hpbar1.toNat) 275 := by
  have hx := toNat_hp1x hb
  rw [BitVec.le_def, BitVec.toNat_ofNat] at hb
  ext x
  simp only [barColumns1, inBar1_iff, BitVec.le_def, BitVec.toNat_ofNat, hx, Finset.mem_filter,
    Finset.mem_range, Finset.mem_Ico, ge_iff_le]
  omega

/-- The bound of the second bar is its last column, one before the next. -/
lemma barColumns2_eq (hb : h.hpbar2 ≤ 200#8) (hy : 29 ≤ y.toNat ∧ y.toNat < 39) :
    h.barColumns2 y = Finset.Ico 365 (365 + h.hpbar2.toNat) := by
  have hx := toNat_hp2x h
  rw [BitVec.le_def, BitVec.toNat_ofNat] at hb
  ext x
  simp only [barColumns2, inBar2_iff, BitVec.le_def, BitVec.toNat_ofNat, hx, Finset.mem_filter,
    Finset.mem_range, Finset.mem_Ico]
  omega

/-- The gradients leave the eight bits of `Green` nowhere in their boxes. -/
lemma barGreen1_eq {x : ℕ} (hx : 75 ≤ x ∧ x < 275) :
    (Blitter.barGreen1 (BitVec.ofNat 10 x)).toNat = 123 + (x - 75) / 2 := by
  simp only [Blitter.barGreen1, BitVec.toNat_setWidth, BitVec.toNat_add,
    BitVec.toNat_udiv, BitVec.toNat_sub, BitVec.toNat_ofNat, Nat.reducePow, Nat.reduceMod]
  omega

lemma barGreen2_eq {x : ℕ} (hx : 365 ≤ x ∧ x < 565) :
    (Blitter.barGreen2 (BitVec.ofNat 10 x)).toNat = 233 - (x - 365) / 2 := by
  simp only [Blitter.barGreen2, BitVec.toNat_setWidth, BitVec.toNat_udiv, BitVec.toNat_sub,
    BitVec.toNat_ofNat, Nat.reducePow, Nat.reduceMod]
  omega

/-- On every line of the bars each bar takes as many columns as it has points, the first
one growing to the left and the second to the right, and neither the bounds nor the
gradients wrap. -/
theorem bars_shown (hr : h.Reachable) (hy : 29 ≤ y.toNat ∧ y.toNat < 39) :
    (h.barColumns1 y = Finset.Ico (275 - h.hpbar1.toNat) 275 ∧ (h.barColumns1 y).card = h.hpbar1.toNat) ∧
    (h.barColumns2 y = Finset.Ico 365 (365 + h.hpbar2.toNat) ∧ (h.barColumns2 y).card = h.hpbar2.toNat) ∧
    (Disjoint (h.barColumns1 y) (h.barColumns2 y) ∧
      (∀ x ∈ h.barColumns1 y ∪ h.barColumns2 y, x < 640) ∧ y.toNat < 480) ∧
    (0 ≤ 200 - (h.hpbar1.toNat : ℤ) ∧ (h.hp1x.toNat : ℤ) = 75 + (200 - h.hpbar1.toNat) ∧
      (h.hp2x.toNat : ℤ) = 364 + h.hpbar2.toNat) ∧
    (∀ x ∈ h.barColumns1 y, 0 ≤ (x : ℤ) - 75 ∧
      ((Blitter.barGreen1 (BitVec.ofNat 10 x)).toNat : ℤ) = 123 + ((x : ℤ) - 75) / 2) ∧
    (∀ x ∈ h.barColumns2 y, 0 ≤ (x : ℤ) - 365 ∧
      ((Blitter.barGreen2 (BitVec.ofNat 10 x)).toNat : ℤ) = 233 - ((x : ℤ) - 365) / 2) := by
  obtain ⟨hb1, hb2⟩ := hr.bars_le
  have h1x := toNat_hp1x hb1
  have h2x := toNat_hp2x h
  rw [barColumns1_eq hb1 hy, barColumns2_eq hb2 hy]
  rw [BitVec.le_def, BitVec.toNat_ofNat] at hb1 hb2
  refine ⟨⟨rfl, ?_⟩, ⟨rfl, ?_⟩, ⟨?_, ?_, ?_⟩, ?_, ?_, ?_⟩
  · rw [Nat.card_Ico]
    omega
  · rw [Nat.card_Ico]
    omega
  · rw [Finset.disjoint_left]
    intro x h1 h2
    rw [Finset.mem_Ico] at h1 h2
    omega
  · intro x hx
    rw [Finset.mem_union, Finset.mem_Ico, Finset.mem_Ico] at hx
    omega
  · omega
  · omega
  · intro x hx
    rw [Finset.mem_Ico] at hx
    rw [barGreen1_eq (by omega)]
    omega
  · intro x hx
    rw [Finset.mem_Ico] at hx
    rw [barGreen2_eq (by omega)]
    omega

/-- A kick of player 1 in its window and a jump attack of player 2 that waits for it. -/
def kickAndJump : HpPorts := ⟨true, false, false, false, false, true, true, true, false, false⟩

/-- The two hits one after the other. -/
def damaged : Hp :=
  run (fun h p => h.step p) reset [kickAndJump, kickAndJump, { kickAndJump with kick1 := false },
    { kickAndJump with kick1 := false }, kickAndJump]

/-- Line 38 after both hits. -/
theorem bars_shown_damaged :
    (damaged.barColumns1 38#10).card = 180 ∧ (damaged.barColumns2 38#10).card = 186 := by
  have hr : damaged.Reachable := ⟨reset, _, Or.inl rfl, rfl⟩
  have hs := bars_shown (y := 38#10) hr (by decide)
  exact ⟨hs.1.2, hs.2.1.2⟩

end Hp

end StickFigureFighting
