/-!
# Action flags of a controller
-/

namespace StickFigureFighting

/-- The eight registered action outputs of `ball`, `ball_second` and `AI`. -/
structure Actions where
  right : Bool
  left : Bool
  stand : Bool
  kick : Bool
  fight : Bool
  jump : Bool
  dodge : Bool
  back : Bool
deriving DecidableEq, Repr

namespace Actions

/-- All flags low: the registers at power-up, and `mode_choose` without a mode. -/
def none : Actions := ⟨false, false, false, false, false, false, false, false⟩

/-- `stand` alone: the registers after `Reset`. -/
def standing : Actions := { none with stand := true }

def AtMostOne (a : Actions) : Prop :=
  [a.right, a.left, a.stand, a.kick, a.fight, a.jump, a.dodge, a.back].count true ≤ 1

instance (a : Actions) : Decidable a.AtMostOne := inferInstanceAs (Decidable (_ ≤ _))

end Actions

end StickFigureFighting
