import Mathlib.Data.List.Forall2
import Mathlib.Data.Nat.Notation
import Mathlib.Tactic.Lemma
import Mathlib.Tactic.TypeStar

/-!
# Pictures painted in layers

A layer has a colour at some points of the screen and is clear at the others. A picture is
a list of layers, the foremost first, before a ground that has a colour everywhere.
-/

namespace StickFigureFighting.Library

variable {κ : Type*}

abbrev Layer (κ : Type*) := ℕ → ℕ → Option κ

/-- The layer that is painted inside a region. -/
def region (inside : ℕ → ℕ → Bool) (colour : ℕ → ℕ → κ) : Layer κ :=
  fun x y => if inside x y then some (colour x y) else none

def paint (layers : List (Layer κ)) (ground : ℕ → ℕ → κ) (x y : ℕ) : κ :=
  match layers with
  | [] => ground x y
  | layer :: layers => (layer x y).getD (paint layers ground x y)

variable {layers layers' : List (Layer κ)} {ground ground' : ℕ → ℕ → κ} {x y : ℕ}

@[simp] lemma paint_nil : paint [] ground x y = ground x y := rfl

/-- A chain of `else if` that mixes a colour is a picture, link by link. -/
@[simp] lemma paint_region (inside : ℕ → ℕ → Bool) (colour : ℕ → ℕ → κ) :
    paint (region inside colour :: layers) ground x y =
      if inside x y then colour x y else paint layers ground x y := by
  rw [paint, region]
  split <;> rfl

/-- Two pictures agree at a point if their layers do. -/
theorem paint_congr (hlayers : List.Forall₂ (fun l l' => l x y = l' x y) layers layers')
    (hground : ground x y = ground' x y) : paint layers ground x y = paint layers' ground' x y := by
  induction hlayers with
  | nil => exact hground
  | cons h _ ih => rw [paint, paint, h, ih]

end StickFigureFighting.Library
