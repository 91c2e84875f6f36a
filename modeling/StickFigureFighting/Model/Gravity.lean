/-!
# The vertical machine `gravity`

One instance runs in each controller, on the 50 MHz clock. It turns the controller's
registered `jump` flag and the two heights into the vertical motion that the
controller adds once a frame. Screen heights grow downwards.
-/

namespace StickFigureFighting

/-- `~x + 1'b1`, the two's complement with which the sources write a negative step. -/
def twosComplement (x : BitVec 10) : BitVec 10 := ~~~x + 1#10

inductive GravityState where
  | state0
  | state1
  | state2
  | state3
deriving DecidableEq, Repr

structure GravityPorts where
  ballYPos : BitVec 10
  ballY1 : BitVec 10
  jump : Bool
  near : Bool
deriving DecidableEq, Repr

structure Gravity where
  state : GravityState
  ballYMotion : BitVec 10
deriving DecidableEq, Repr

namespace Gravity

def reset : Gravity := ⟨.state0, 0#10⟩

def nextState (g : Gravity) (p : GravityPorts) : GravityState :=
  match g.state with
  | .state0 => if p.jump ∧ p.ballYPos ≥ 284#10 then .state1 else .state0
  | .state1 => if p.ballYPos ≤ 120#10 then .state2 else .state1
  | .state2 => if p.ballYPos ≥ 300#10 then .state3 else .state2
  | .state3 => .state0

/-- The test that turns a rising figure round: the opponent is near and at most 50
lines below it. -/
def riseReversed (p : GravityPorts) : Prop :=
  p.near ∧ p.ballY1 ≥ p.ballYPos ∧ p.ballY1 - p.ballYPos ≤ 50#10

/-- The test that turns a falling figure round: the opponent is near and at most 50
lines above it. -/
def fallReversed (p : GravityPorts) : Prop :=
  p.near ∧ p.ballY1 ≤ p.ballYPos ∧ p.ballYPos - p.ballY1 ≤ 50#10

instance (p : GravityPorts) : Decidable (riseReversed p) :=
  inferInstanceAs (Decidable (_ ∧ _ ∧ _))

instance (p : GravityPorts) : Decidable (fallReversed p) :=
  inferInstanceAs (Decidable (_ ∧ _ ∧ _))

def nextBallYMotion (g : Gravity) (p : GravityPorts) : BitVec 10 :=
  match g.state with
  | .state0 => 0#10
  | .state1 => if riseReversed p then 8#10 else twosComplement 8#10
  | .state2 => if fallReversed p then twosComplement 8#10 else 8#10
  | .state3 => 0#10

def step (p : GravityPorts) (g : Gravity) : Gravity :=
  ⟨g.nextState p, g.nextBallYMotion p⟩

end Gravity

end StickFigureFighting
