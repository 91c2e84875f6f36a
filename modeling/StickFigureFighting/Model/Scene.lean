import StickFigureFighting.Library.Painting
import StickFigureFighting.Model.Blitter

/-!
# What the picture is meant to show

A scene is the content of a picture in the coordinates of the screen, apart from the
background: the menu with the disc beside the selected entry, or the arena with two figures
and two bars. `layers` also says what the picture becomes when the tests for the boxes are
answered for a column `lag` to the left of the one that is painted.
-/

namespace StickFigureFighting
open Library

/-- A drawing of 100 by 100 points and where its upper left corner is. -/
structure Sprite where
  left : ℕ
  top : ℕ
  ink : ℕ → ℕ → Bool

namespace Sprite

def covers (s : Sprite) (lag x y : ℕ) : Bool :=
  decide ((s.left + lag ≤ x ∧ x < s.left + 100) ∧ s.top ≤ y ∧ y < s.top + 100) &&
  s.ink (y - s.top) (x - s.left)

end Sprite

inductive Scene where
  | menu (cursorX cursorY : ℕ)
  | arena (figure figure1 : Sprite) (bar1 bar2 : ℕ)

namespace Scene

/-- Bar 1 ends at column 275 and grows to the left. -/
def inBar1 (bar lag x y : ℕ) : Bool :=
  decide ((75 + lag ≤ x ∧ x < 275 + lag) ∧ (29 ≤ y ∧ y < 39) ∧ 275 ≤ x + bar)

/-- Bar 2 begins at column 365 and grows to the right. -/
def inBar2 (bar lag x y : ℕ) : Bool :=
  decide ((365 + lag ≤ x ∧ x < 565 + lag) ∧ (29 ≤ y ∧ y < 39) ∧ x < 365 + bar)

def inDisc (cursorX cursorY x y : ℕ) : Bool :=
  decide (((x : Int) - cursorX) * (x - cursorX) + (y - cursorY) * (y - cursorY) ≤ 100)

def black : Rgb := ⟨0x00, 0x00, 0x00⟩
def white : Rgb := ⟨0xff, 0xff, 0xff⟩

def layers (lag : ℕ) : Scene → List (Layer Rgb)
  | .menu cursorX cursorY => [region (inDisc cursorX cursorY) fun _ _ => white]
  | .arena figure figure1 bar1 bar2 =>
    [region (figure.covers lag) fun _ _ => black,
      region (figure1.covers lag) fun _ _ => white,
      region (inBar1 bar1 lag) fun x _ => ⟨0xff, Blitter.barGreen1 (BitVec.ofNat 10 x), 0x00⟩,
      region (inBar2 bar2 lag) fun x _ => ⟨0xff, Blitter.barGreen2 (BitVec.ofNat 10 x), 0x00⟩]

/-- The picture of a scene before a background. -/
def picture (s : Scene) (lag : ℕ) (ground : ℕ → ℕ → Rgb) : ℕ → ℕ → Rgb := paint (s.layers lag) ground

end Scene

end StickFigureFighting
