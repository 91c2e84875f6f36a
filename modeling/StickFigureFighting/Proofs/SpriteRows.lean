import StickFigureFighting.Library.Runs
import StickFigureFighting.Model.Blitter
import StickFigureFighting.Proofs.Raster

/-!
# The bit selects of the sprite lines

The colour block tests the registered `shape_on` and indexes with the present column. The
row address is registered with the flag and always in range. The column may have moved on:
at the first edge after the last column of a box the flag is still set.
-/

namespace StickFigureFighting
open Library

namespace Display

/-- The display just before edge `n + 1` of `Clk`; edge 0 is the last one under `Reset`,
and `inputs n` are the ports of `blitter` at edge `n`. -/
def beforeEdge (b : Blitter) (inputs : ℕ → BlitterPorts) (n : ℕ) : Display :=
  trace step (underReset (inputs 0) b) (fun k => inputs (k + 1)) n

variable (b : Blitter) (inputs : ℕ → BlitterPorts) (n : ℕ)

lemma vga_beforeEdge : (beforeEdge b inputs n).vga = Vga.step^[n] Vga.reset := by
  induction n with
  | zero => rfl
  | succ n ih =>
    rw [Function.iterate_succ_apply', ← ih]
    rfl

/-- Every column is present for two edges, counting the last one under `Reset`. -/
lemma drawX_beforeEdge : (beforeEdge b inputs n).vga.drawX = (Vga.pixels ((n + 1) / 2)).drawX := by
  rw [vga_beforeEdge, Vga.step_iterate_reset]
  rfl

lemma drawY_beforeEdge : (beforeEdge b inputs n).vga.drawY = (Vga.pixels ((n + 1) / 2)).drawY := by
  rw [vga_beforeEdge, Vga.step_iterate_reset]
  rfl

lemma blitter_beforeEdge : ∃ b' : Blitter, (beforeEdge b inputs n).blitter =
    b'.step (inputs n) (Vga.pixels (n / 2)).drawX (Vga.pixels (n / 2)).drawY := by
  cases n with
  | zero => exact ⟨b, rfl⟩
  | succ n =>
    refine ⟨(beforeEdge b inputs n).blitter, ?_⟩
    rw [← drawX_beforeEdge b inputs n, ← drawY_beforeEdge b inputs n]
    rfl

lemma figure_beforeEdge : (beforeEdge b inputs n).blitter.figure =
    Blitter.figureRegs (inputs n).figure (Vga.pixels (n / 2)).drawX (Vga.pixels (n / 2)).drawY := by
  obtain ⟨b', hb⟩ := blitter_beforeEdge b inputs n
  rw [hb]
  rfl

lemma figure1_beforeEdge : (beforeEdge b inputs n).blitter.figure1 =
    Blitter.figureRegs (inputs n).figure1 (Vga.pixels (n / 2)).drawX (Vga.pixels (n / 2)).drawY := by
  obtain ⟨b', hb⟩ := blitter_beforeEdge b inputs n
  rw [hb]
  rfl

end Display

namespace Blitter

/-! ### One figure -/

variable {f : FigurePorts} {x y : BitVec 10}

lemma inShape_iff : inShape f x y = true ↔ ((f.positionX ≤ x ∧ x < f.positionX + 100#10) ∧
    f.positionY ≤ y) ∧ y < f.positionY + 100#10 := by
  simp only [inShape, Bool.and_eq_true, decide_eq_true_eq]
  rfl

lemma shapeOn_figureRegs : (figureRegs f x y).shapeOn = inShape f x y := by
  unfold figureRegs
  split
  · rename_i h
    exact h.symm
  · rename_i h
    exact (Bool.eq_false_iff.2 h).symm

theorem addr_figureRegs_le : (figureRegs f x y).addr.toNat ≤ 99 := by
  unfold figureRegs
  split
  · rename_i h
    obtain ⟨⟨-, hlow⟩, hhigh⟩ := inShape_iff.1 h
    dsimp only
    bv_omega
  · decide

/-- A box that wraps in ten bits is empty, so a column in the box is less than 100 columns
to the right of the position. -/
lemma inShape_columns (h : inShape f x y) :
    f.positionX.toNat ≤ x.toNat ∧ x.toNat < f.positionX.toNat + 100 ∧
    f.positionX.toNat + 100 < 1024 := by
  obtain ⟨⟨⟨hlow, hhigh⟩, -⟩, -⟩ := inShape_iff.1 h
  bv_omega

/-- Both forms of the index are in range for the columns of the box and for no others. -/
lemma index_le_iff {positionX : BitVec 10} (hpos : positionX.toNat + 100 < 1024)
    (a : Arm) (drawX : BitVec 10) :
    (a.index positionX drawX).toNat ≤ 99 ↔
      positionX.toNat ≤ drawX.toNat ∧ drawX.toNat < positionX.toNat + 100 := by
  unfold Arm.index
  split <;> bv_omega

/-! ### Which selects are evaluated -/

lemma mem_selects {positionX drawX i : BitVec 10} {arms : List Arm}
    (hi : i ∈ selects positionX drawX arms) :
    ∃ a ∈ arms, a.guard ∧ i = a.index positionX drawX := by
  induction arms with
  | nil => cases hi
  | cons a arms ih =>
    unfold selects at hi
    split at hi
    · rename_i hg
      rcases List.mem_cons.1 hi with rfl | hi
      · exact ⟨a, List.mem_cons_self, hg, rfl⟩
      · split at hi
        · cases hi
        · obtain ⟨a', ha', hsel⟩ := ih hi
          exact ⟨a', List.mem_cons_of_mem a ha', hsel⟩
    · obtain ⟨a', ha', hsel⟩ := ih hi
      exact ⟨a', List.mem_cons_of_mem a ha', hsel⟩

lemma shapeOn_of_facingArms {shapeOn on rest : Bool} {line : BitVec 100} {a : Arm}
    (ha : a ∈ facingArms f shapeOn on line rest) (hg : a.guard) : shapeOn := by
  simp only [facingArms, List.mem_cons, List.not_mem_nil, or_false] at ha
  rcases ha with rfl | rfl <;> exact (Bool.and_eq_true_iff.1 hg).2

lemma shapeOn_of_fightingArms {shapeOn : Bool} {rows : SpriteRows} {a : Arm}
    (ha : a ∈ fightingArms f shapeOn rows) (hg : a.guard) : shapeOn := by
  simp only [fightingArms, List.mem_append] at ha
  rcases ha with ((((ha | ha) | ha) | ha) | ha) | ha <;> exact shapeOn_of_facingArms ha hg

lemma mem_scene {P : Arm → Prop} {on on' on'' : Bool} {as : List Arm} {a' a'' : Arm}
    (has : ∀ a ∈ as, P a) (ha' : P a') (ha'' : P a'') :
    ∀ a ∈ (if on then as else if on' then [a'] else if on'' then [a''] else []), P a := by
  intro a ha
  cases on with
  | true => exact has a ha
  | false =>
    cases on' with
    | true => exact (List.mem_singleton.1 ha) ▸ ha'
    | false =>
      cases on'' with
      | true => exact (List.mem_singleton.1 ha) ▸ ha''
      | false => cases ha

variable {p : BlitterPorts} {b : Blitter} {drawX i : BitVec 10}

/-- A bit select is only evaluated behind the flag of its figure. -/
lemma of_mem_figureSelects (hi : i ∈ figureSelects p b drawX) :
    b.figure.shapeOn ∧ ∃ a : Arm, i = a.index p.figure.positionX drawX := by
  obtain ⟨a, ha, hg, rfl⟩ := mem_selects hi
  have hscene : ∀ a ∈ arms p b, a.guard → b.figure.shapeOn :=
    mem_scene (fun _ => shapeOn_of_fightingArms) id id
  exact ⟨hscene a ha hg, a, rfl⟩

lemma of_mem_figure1Selects (hi : i ∈ figure1Selects p b drawX) :
    b.figure1.shapeOn ∧ ∃ a : Arm, i = a.index p.figure1.positionX drawX := by
  have hscene : ∀ a ∈ arms1 p b, a.guard → b.figure1.shapeOn :=
    mem_scene (fun _ => shapeOn_of_fightingArms) id id
  unfold figure1Selects at hi
  split at hi
  · cases hi
  · obtain ⟨a, ha, hg, rfl⟩ := mem_selects hi
    exact ⟨hscene a ha hg, a, rfl⟩

/-- A fighting figure that faces right always has its first bit select evaluated. -/
lemma mem_figureSelects (hp : fighting p) (hs : p.figure.standRight) (hon : b.figure.shapeOn) :
    drawX - p.figure.positionX ∈ figureSelects p b drawX := by
  simp [figureSelects, arms, hp, fightingArms, facingArms, selects, hs, hon, Arm.index]

end Blitter

namespace Display

open Blitter

/-- Edge `n + 1` is the first one after the last column of the box, or of the line. -/
def LeavesBox (positionX : BitVec 10) (n : ℕ) : Prop :=
  n % 2 = 1 ∧ (n / 2 % 800 = positionX.toNat + 99 ∨ n / 2 % 800 = 799)

instance (positionX : BitVec 10) (n : ℕ) : Decidable (LeavesBox positionX n) :=
  inferInstanceAs (Decidable (_ ∧ _))

lemma index_le_iff_not_leavesBox {f f' : FigurePorts} {n : ℕ} {y : BitVec 10}
    (hheld : f.positionX = f'.positionX) (hin : inShape f (Vga.pixels (n / 2)).drawX y) (a : Arm) :
    (a.index f'.positionX (Vga.pixels ((n + 1) / 2)).drawX).toNat ≤ 99 ↔ ¬LeavesBox f'.positionX n := by
  obtain ⟨hlow, hhigh, hpos⟩ := inShape_columns hin
  rw [hheld, Vga.drawX_pixels] at hlow hhigh
  rw [hheld] at hpos
  rw [index_le_iff hpos, Vga.drawX_pixels, LeavesBox]
  omega

/-- At every edge of `Clk` under held positions, a bit select is in range unless the raster
has just left the box of its figure. The row address always is. -/
theorem selects_in_range_iff (b : Blitter) (inputs : ℕ → BlitterPorts) (n : ℕ) :
    ((inputs n).figure.positionX = (inputs (n + 1)).figure.positionX →
      ∀ i ∈ figureSelects (inputs (n + 1)) (beforeEdge b inputs n).blitter
        (beforeEdge b inputs n).vga.drawX,
        (i.toNat ≤ 99 ↔ ¬LeavesBox (inputs (n + 1)).figure.positionX n)) ∧
    ((inputs n).figure1.positionX = (inputs (n + 1)).figure1.positionX →
      ∀ i ∈ figure1Selects (inputs (n + 1)) (beforeEdge b inputs n).blitter
        (beforeEdge b inputs n).vga.drawX,
        (i.toNat ≤ 99 ↔ ¬LeavesBox (inputs (n + 1)).figure1.positionX n)) ∧
    (beforeEdge b inputs n).blitter.figure.addr.toNat ≤ 99 ∧
    (beforeEdge b inputs n).blitter.figure1.addr.toNat ≤ 99 := by
  refine ⟨?_, ?_, ?_, ?_⟩
  · intro hheld i hi
    obtain ⟨hon, a, rfl⟩ := of_mem_figureSelects hi
    rw [figure_beforeEdge, shapeOn_figureRegs] at hon
    rw [drawX_beforeEdge]
    exact index_le_iff_not_leavesBox hheld hon a
  · intro hheld i hi
    obtain ⟨hon, a, rfl⟩ := of_mem_figure1Selects hi
    rw [figure1_beforeEdge, shapeOn_figureRegs] at hon
    rw [drawX_beforeEdge]
    exact index_le_iff_not_leavesBox hheld hon a
  · rw [figure_beforeEdge]
    exact addr_figureRegs_le
  · rw [figure1_beforeEdge]
    exact addr_figureRegs_le

/-- Player 1 where `Reset` puts it, facing right, in a match that has begun. -/
def atReset : BlitterPorts where
  figure := ⟨0#10, 300#10, false, false, true, false, false, false, false, false, false⟩
  figure1 := ⟨539#10, 300#10, false, false, false, true, false, false, false, false, false⟩
  sprites _ := ⟨0, 0, 0, 0, 0, 0, 0, 0⟩
  sprites1 _ := ⟨0, 0, 0, 0, 0, 0, 0, 0⟩
  start := true
  p1win := false
  p2win := false
  hp1x := 75#10
  hp2x := 564#10
  data0 := 0#15
  ballX := 0#10
  ballY := 0#10

lemma shapeOn_atReset (b : Blitter) {n : ℕ} (hx : n / 2 % 800 < 100) (hy : n / 2 / 800 % 525 = 300) :
    (beforeEdge b (fun _ => atReset) n).blitter.figure.shapeOn = true := by
  rw [← Vga.drawX_pixels] at hx
  rw [← Vga.drawY_pixels] at hy
  rw [figure_beforeEdge, shapeOn_figureRegs, inShape_iff]
  simp only [atReset]
  bv_omega

/-- The first line of player 1 at `Reset`, at the second edge in its last column. -/
theorem select_in_range_last_column : ((Vga.pixels 240099).drawX - 0#10).toNat ≤ 99 := by
  have hsel := (selects_in_range_iff Blitter.powerUp (fun _ => atReset) 480198).1 rfl
    ((Vga.pixels 240099).drawX - 0#10) ?_
  · exact hsel.2 (by decide)
  · rw [drawX_beforeEdge]
    exact mem_figureSelects rfl rfl (shapeOn_atReset _ (by decide) (by decide))

/-- One edge later the raster is in column 100, the flag of player 1 is still set, and its
index is 100. -/
theorem selects_out_of_range : ¬∀ (b : Blitter) (inputs : ℕ → BlitterPorts) (n : ℕ),
    (∀ m, inputs m = inputs n) →
    (∀ i ∈ figureSelects (inputs (n + 1)) (beforeEdge b inputs n).blitter
      (beforeEdge b inputs n).vga.drawX, i.toNat ≤ 99) ∧
    (∀ i ∈ figure1Selects (inputs (n + 1)) (beforeEdge b inputs n).blitter
      (beforeEdge b inputs n).vga.drawX, i.toNat ≤ 99) := by
  intro h
  have hall := (h Blitter.powerUp (fun _ => atReset) 480199 (fun _ => rfl)).1
  have hle := hall ((Vga.pixels 240100).drawX - 0#10) ?_
  · have hx : (Vga.pixels 240100).drawX.toNat = 100 := Vga.drawX_pixels 240100
    rw [BitVec.sub_zero, hx] at hle
    exact absurd hle (by decide)
  · rw [drawX_beforeEdge]
    exact mem_figureSelects rfl rfl (shapeOn_atReset _ (by decide) (by decide))

end Display

end StickFigureFighting
