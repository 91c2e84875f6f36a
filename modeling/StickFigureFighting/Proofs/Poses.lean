import StickFigureFighting.Model.Scene
import StickFigureFighting.Proofs.HpBars
import StickFigureFighting.Proofs.SpriteRows

/-!
# What a chain of draw guards draws

The twelve guards of a figure come to this: with no animation flag up it is drawn upright,
with one flag up in that action, and with two it is not drawn at all; it is drawn for every
side that it faces. Behind the flag of the box, no index outside of the line draws anything.
-/

namespace StickFigureFighting
open Library

inductive Pose where
  | upright
  | kick
  | fight
  | jump
  | dodge
  | back
deriving DecidableEq, Repr

namespace FigurePorts

variable (f : FigurePorts)

def pose : Option Pose :=
  match f.kickOn, f.fightOn, f.jumpOn, f.dodgeOn, f.backOn with
  | false, false, false, false, false => some .upright
  | true, false, false, false, false => some .kick
  | false, true, false, false, false => some .fight
  | false, false, true, false, false => some .jump
  | false, false, false, true, false => some .dodge
  | false, false, false, false, true => some .back
  | _, _, _, _, _ => none

end FigurePorts

def SpriteRows.line (rows : SpriteRows) : Pose → BitVec 100
  | .upright => rows.data
  | .kick => rows.dataKick
  | .fight => rows.dataFight
  | .jump => rows.dataJump
  | .dodge => rows.dataDodge
  | .back => rows.dataBack

/-- The line is drawn as it is to the right, and from its end to the left. -/
def FigurePorts.shows (f : FigurePorts) (line : BitVec 100) (col : ℕ) : Bool :=
  ((f.right || f.standRight) && !line.getMsbD col) ||
  ((f.left || f.standLeft) && !line.getMsbD (99 - col))

def FigurePorts.ink (f : FigurePorts) (rows : SpriteRows) (col : ℕ) : Bool :=
  f.pose.any fun q => f.shows (rows.line q) col

namespace Blitter

variable {f : FigurePorts} {rows : SpriteRows} {positionX drawX : BitVec 10}

/-! ### Bit selects in the coordinates of the screen -/

/-- The columns of a figure's box. -/
def InColumns (positionX drawX : BitVec 10) : Prop :=
  positionX.toNat ≤ drawX.toNat ∧ drawX.toNat < positionX.toNat + 100

instance (positionX drawX : BitVec 10) : Decidable (InColumns positionX drawX) :=
  inferInstanceAs (Decidable (_ ∧ _))

/-- The bit select of an arm without its guards: the point is black in the sprite. -/
def selected (line : BitVec 100) (mirrored : Bool) (positionX drawX : BitVec 10) : Bool :=
  Arm.bitSelect line (Arm.index positionX drawX ⟨true, line, mirrored, true⟩) == some false

lemma taken_eq (a : Arm) : a.taken positionX drawX =
    (a.guard && selected a.line a.mirrored positionX drawX && a.rest) := rfl

lemma selected_eq (hpos : positionX.toNat + 100 < 1024) (line : BitVec 100) (mirrored : Bool) :
    selected line mirrored positionX drawX = (decide (InColumns positionX drawX) &&
      !line.getMsbD (if mirrored then 99 - (drawX.toNat - positionX.toNat)
        else drawX.toNat - positionX.toNat)) := by
  have hrange := index_le_iff hpos ⟨true, line, mirrored, true⟩ drawX
  by_cases hin : InColumns positionX drawX
  · have hle : (Arm.index positionX drawX ⟨true, line, mirrored, true⟩) ≤ 99#10 := hrange.2 hin
    have hindex : (Arm.index positionX drawX ⟨true, line, mirrored, true⟩).toNat =
        if mirrored then 99 - (drawX.toNat - positionX.toNat) else drawX.toNat - positionX.toNat := by
      obtain ⟨hlow, hhigh⟩ := hin
      unfold Arm.index
      cases mirrored <;> simp only [Bool.false_eq_true, if_true, if_false] <;> bv_omega
    rw [selected, Arm.bitSelect, if_pos hle, hindex]
    simp [hin]
  · have hgt : ¬(Arm.index positionX drawX ⟨true, line, mirrored, true⟩) ≤ 99#10 :=
      fun h => hin (hrange.1 h)
    rw [selected, Arm.bitSelect, if_neg hgt]
    simp [hin]

/-! ### The chains -/

/-- Of all guards at most two can hold at once, those of the pose for the two sides. -/
theorem any_fightingArms (shapeOn : Bool) :
    (fightingArms f shapeOn rows).any (Arm.taken positionX drawX) = (shapeOn && f.pose.any fun q =>
      (f.right || f.standRight) && selected (rows.line q) false positionX drawX ||
        (f.left || f.standLeft) && selected (rows.line q) true positionX drawX) := by
  obtain ⟨px, py, right, left, standRight, standLeft, kickOn, fightOn, jumpOn, dodgeOn, backOn⟩ := f
  simp only [fightingArms, facingArms, List.any_append, List.any_cons, List.any_nil, taken_eq]
  cases kickOn <;> cases fightOn <;> cases jumpOn <;> cases dodgeOn <;> cases backOn <;>
    cases shapeOn <;> simp [FigurePorts.pose, SpriteRows.line]

lemma any_fightingArms_ink {shapeOn : Bool} (hpos : shapeOn → positionX.toNat + 100 < 1024) :
    (fightingArms f shapeOn rows).any (Arm.taken positionX drawX) =
      (shapeOn && (decide (InColumns positionX drawX) &&
        f.ink rows (drawX.toNat - positionX.toNat))) := by
  rw [any_fightingArms]
  cases shapeOn with
  | false => rfl
  | true =>
    have hsel := @selected_eq positionX drawX (hpos rfl)
    cases hpose : f.pose with
    | none => simp [FigurePorts.ink, hpose]
    | some q =>
      simp only [Option.any_some, hsel, FigurePorts.ink, FigurePorts.shows, hpose,
        Bool.true_and, if_true, Bool.false_eq_true, if_false]
      cases decide (InColumns positionX drawX) <;> simp

lemma any_single_ink {shapeOn : Bool} (hpos : shapeOn → positionX.toNat + 100 < 1024)
    (line : BitVec 100) (mirrored : Bool) :
    [(⟨shapeOn, line, mirrored, true⟩ : Arm)].any (Arm.taken positionX drawX) =
      (shapeOn && (decide (InColumns positionX drawX) &&
        !line.getMsbD (if mirrored then 99 - (drawX.toNat - positionX.toNat)
          else drawX.toNat - positionX.toNat))) := by
  rw [List.any_cons, List.any_nil, taken_eq, Bool.or_false, Bool.and_true]
  cases shapeOn with
  | false => rfl
  | true => rw [selected_eq (hpos rfl)]

/-! ### Flags of the column before -/

/-- The tests for the boxes were answered for the point `(x', y')` when `(x, y)` is painted:
the same point, or the one that the raster visits before it. -/
structure Behind (lag : ℕ) (x' y' x y : BitVec 10) : Prop where
  column : x.toNat < 640
  line : y.toNat < 480
  point : lag = 0 ∧ x' = x ∧ y' = y ∨
    lag = 1 ∧ (x.toNat = x'.toNat + 1 ∧ y' = y ∨ x.toNat = 0 ∧ x'.toNat = 799)

variable {lag : ℕ} {x' y' x y : BitVec 10}

lemma inShape_iff_nat (hx : x.toNat < 900) (hy : y.toNat < 900) : inShape f x y = true ↔
    (f.positionX.toNat ≤ x.toNat ∧ x.toNat < f.positionX.toNat + 100) ∧
      f.positionY.toNat ≤ y.toNat ∧ y.toNat < f.positionY.toNat + 100 := by
  rw [inShape_iff]
  bv_omega

lemma flag_iff (h : Behind lag x' y' x y) :
    (figureRegs f x' y').shapeOn = true ∧ InColumns f.positionX x ↔
      (f.positionX.toNat + lag ≤ x.toNat ∧ x.toNat < f.positionX.toNat + 100) ∧
        f.positionY.toNat ≤ y.toNat ∧ y.toNat < f.positionY.toNat + 100 := by
  have hx := h.column
  have hy := h.line
  rw [shapeOn_figureRegs, InColumns]
  rcases h.point with ⟨rfl, rfl, rfl⟩ | ⟨rfl, ⟨hprev, rfl⟩ | ⟨hzero, hlast⟩⟩
  · rw [inShape_iff_nat (by omega) (by omega)]
    omega
  · rw [inShape_iff_nat (by omega) (by omega)]
    omega
  · -- a box that reaches the last column of a line does not reach the first one
    constructor
    · rintro ⟨hin, hcol⟩
      have hcols := inShape_columns hin
      omega
    · omega

/-- A drawing behind the flag of its box, in the coordinates of the screen. -/
lemma drawn_eq_covers (h : Behind lag x' y' x y) (sprites : BitVec 10 → SpriteRows)
    (ink : SpriteRows → ℕ → Bool) :
    ((figureRegs f x' y').shapeOn && (decide (InColumns f.positionX x) &&
        ink (sprites (figureRegs f x' y').addr) (x.toNat - f.positionX.toNat))) =
      Sprite.covers ⟨f.positionX.toNat, f.positionY.toNat,
        fun row col => ink (sprites (BitVec.ofNat 10 row)) col⟩ lag x.toNat y.toNat := by
  have hflag := flag_iff (f := f) h
  rw [Sprite.covers, ← Bool.and_assoc]
  by_cases hin : (figureRegs f x' y').shapeOn = true ∧ InColumns f.positionX x
  · have haddr : (figureRegs f x' y').addr = BitVec.ofNat 10 (y.toNat - f.positionY.toNat) := by
      have hbox := hflag.1 hin
      have hyy : y' = y := by
        rcases h.point with ⟨-, -, hy⟩ | ⟨-, ⟨-, hy⟩ | ⟨hzero, -⟩⟩
        · exact hy
        · exact hy
        · rcases h.point with ⟨-, -, hy⟩ | ⟨rfl, -⟩
          · exact hy
          · omega
      have hon := hin.1
      rw [shapeOn_figureRegs] at hon
      rw [figureRegs, if_pos hon, hyy]
      bv_omega
    rw [haddr, decide_eq_true (hflag.1 hin), hin.1, decide_eq_true hin.2]
    rfl
  · rw [decide_eq_false (fun hbox => hin (hflag.2 hbox))]
    rw [not_and, ← decide_eq_false_iff_not] at hin
    cases hon : (figureRegs f x' y').shapeOn with
    | false => rfl
    | true =>
      rw [hin hon]
      rfl

end Blitter

/-! ### The colour block -/

/-- What a figure shows in a row and a column of its box: itself in a match, then the
picture `won` when player 1 has won and the picture `lost` when player 2 has. -/
def FigurePorts.endInk (f : FigurePorts) (p1win p2win : Bool) (won lost : SpriteRows → BitVec 100)
    (mirrored : Bool) (rows : SpriteRows) (col : ℕ) : Bool :=
  if p1win then !(won rows).getMsbD (if mirrored then 99 - col else col)
  else if p2win then !(lost rows).getMsbD (if mirrored then 99 - col else col)
  else f.ink rows col

namespace BlitterPorts

variable (p : BlitterPorts)

def sprite : Sprite where
  left := p.figure.positionX.toNat
  top := p.figure.positionY.toNat
  ink row := p.figure.endInk p.p1win p.p2win SpriteRows.dataHappy SpriteRows.dataSad false
    (p.sprites (BitVec.ofNat 10 row))

/-- After the match player 2 is drawn facing left. -/
def sprite1 : Sprite where
  left := p.figure1.positionX.toNat
  top := p.figure1.positionY.toNat
  ink row := p.figure1.endInk p.p1win p.p2win SpriteRows.dataSad SpriteRows.dataHappy true
    (p.sprites1 (BitVec.ofNat 10 row))

def scene (bar1 bar2 : ℕ) : Scene :=
  if p.start then .arena p.sprite p.sprite1 bar1 bar2 else .menu p.ballX.toNat p.ballY.toNat

end BlitterPorts

namespace Blitter

variable {p : BlitterPorts} {b : Blitter} {lag bar1 bar2 : ℕ} {x' y' x y : BitVec 10}

/-- The registers were set for the point `(x', y')`, and the ports show the bars of `hp`. -/
structure Answers (p : BlitterPorts) (b : Blitter) (bar1 bar2 : ℕ) (x' y' : BitVec 10) : Prop where
  figure : b.figure = figureRegs p.figure x' y'
  figure1 : b.figure1 = figureRegs p.figure1 x' y'
  shapeOn2 : b.shapeOn2 = inBar1 x' y'
  shapeOn3 : b.shapeOn3 = inBar2 x' y'
  oneWinner : ¬(p.p1win ∧ p.p2win)
  bar1_le : bar1 ≤ 200
  hp1x : p.hp1x.toNat = 275 - bar1
  hp2x : p.hp2x.toNat = 364 + bar2

lemma columns_of_shapeOn {f : FigurePorts} (h : (figureRegs f x' y').shapeOn) :
    f.positionX.toNat + 100 < 1024 := by
  rw [shapeOn_figureRegs] at h
  exact (inShape_columns h).2.2

/-- The arms of one figure in the three parts of the colour block that draw it. -/
lemma any_matchArms {f : FigurePorts} {rows : SpriteRows} {shapeOn mirrored : Bool}
    {positionX : BitVec 10}
    (hstart : p.start) (hone : ¬(p.p1win ∧ p.p2win)) (hpos : shapeOn → positionX.toNat + 100 < 1024)
    (won lost : SpriteRows → BitVec 100) :
    (if fighting p then fightingArms f shapeOn rows
      else if won1 p then [⟨shapeOn, won rows, mirrored, true⟩]
      else if won2 p then [⟨shapeOn, lost rows, mirrored, true⟩] else []).any (Arm.taken positionX x) =
    (shapeOn && (decide (InColumns positionX x) &&
      f.endInk p.p1win p.p2win won lost mirrored rows (x.toNat - positionX.toNat))) := by
  unfold FigurePorts.endInk
  cases h1 : p.p1win with
  | true =>
    have h2 : p.p2win = false := by simpa [h1] using hone
    simp only [fighting, won1, hstart, h1, h2, Bool.not_true, Bool.not_false,
      Bool.and_true, Bool.and_false, Bool.false_eq_true, if_true, if_false]
    exact any_single_ink hpos _ _
  | false =>
    cases h2 : p.p2win with
    | true =>
      simp only [fighting, won1, won2, hstart, h1, h2, Bool.not_true, Bool.not_false,
        Bool.and_true, Bool.and_false, Bool.false_eq_true, if_true, if_false]
      exact any_single_ink hpos _ _
    | false =>
      simp only [fighting, hstart, h1, h2, Bool.not_false, Bool.and_true,
        Bool.false_eq_true, if_true, if_false]
      exact any_fightingArms_ink hpos

lemma drawn_eq (h : Behind lag x' y' x y) (ha : Answers p b bar1 bar2 x' y') (hstart : p.start) :
    drawn p b x = p.sprite.covers lag x.toNat y.toNat := by
  rw [drawn, arms, ha.figure, any_matchArms hstart ha.oneWinner columns_of_shapeOn]
  exact drawn_eq_covers h p.sprites _

lemma drawn1_eq (h : Behind lag x' y' x y) (ha : Answers p b bar1 bar2 x' y') (hstart : p.start) :
    drawn1 p b x = p.sprite1.covers lag x.toNat y.toNat := by
  rw [drawn1, arms1, ha.figure1, any_matchArms hstart ha.oneWinner columns_of_shapeOn]
  exact drawn_eq_covers h p.sprites1 _

lemma bar1_eq (h : Behind lag x' y' x y) (ha : Answers p b bar1 bar2 x' y') :
    (b.shapeOn2 && decide (x ≥ p.hp1x)) = Scene.inBar1 bar1 lag x.toNat y.toNat := by
  have hx := h.column
  have hbound := ha.hp1x
  have hle := ha.bar1_le
  rw [ha.shapeOn2, Scene.inBar1, Bool.eq_iff_iff, Bool.and_eq_true, Hp.inBar1_iff, decide_eq_true_eq,
    decide_eq_true_eq, ge_iff_le, BitVec.le_def]
  rcases h.point with ⟨rfl, rfl, rfl⟩ | ⟨rfl, ⟨hprev, rfl⟩ | ⟨hzero, hlast⟩⟩ <;> omega

lemma bar2_eq (h : Behind lag x' y' x y) (ha : Answers p b bar1 bar2 x' y') :
    (b.shapeOn3 && decide (x ≤ p.hp2x)) = Scene.inBar2 bar2 lag x.toNat y.toNat := by
  have hx := h.column
  have hbound := ha.hp2x
  rw [ha.shapeOn3, Scene.inBar2, Bool.eq_iff_iff, Bool.and_eq_true, Hp.inBar2_iff, decide_eq_true_eq,
    decide_eq_true_eq, BitVec.le_def]
  rcases h.point with ⟨rfl, rfl, rfl⟩ | ⟨rfl, ⟨hprev, rfl⟩ | ⟨hzero, hlast⟩⟩ <;> omega

/-- The colour block paints the scene of its ports. -/
theorem colour_eq_picture (h : Behind lag x' y' x y) (ha : Answers p b bar1 bar2 x' y') :
    colour p b x y =
    (p.scene bar1 bar2).picture lag (fun _ _ => background p.data0) x.toNat y.toNat := by
  have hone := ha.oneWinner
  have hx : BitVec.ofNat 10 x.toNat = x := by rw [BitVec.ofNat_toNat, BitVec.setWidth_eq]
  rw [colour, BlitterPorts.scene]
  cases hstart : p.start with
  | false =>
    simp only [fighting, won1, won2, hstart, Bool.false_and, Bool.or_self, Bool.false_eq_true, if_false,
      Scene.picture, Scene.layers, paint_region, paint_nil]
    rfl
  | true =>
    have hany : (fighting p || won1 p || won2 p) = true := by
      simp only [fighting, won1, won2, hstart, Bool.true_and]
      cases h1 : p.p1win <;> cases h2 : p.p2win <;> simp_all
    rw [if_pos hany, drawn_eq h ha hstart, drawn1_eq h ha hstart, bar1_eq h ha, bar2_eq h ha]
    simp only [if_true, Scene.picture, Scene.layers, paint_region, paint_nil, hx]
    rfl

end Blitter

end StickFigureFighting
