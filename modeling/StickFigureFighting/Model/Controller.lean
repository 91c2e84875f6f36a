import StickFigureFighting.Model.Actions
import StickFigureFighting.Model.Gravity

/-!
# What the three controllers share

`ball` (player 1), `ball_second` and `AI` (player 2) each hold one block `Move_Ball`,
clocked by the frame clock: a chain of `else if` branches that writes the eight action
flags and the horizontal motion, followed by the position update. The branches have
the same bodies throughout; each controller has its own chain of tests.
-/

namespace StickFigureFighting

/-- The registers of a `Move_Ball` block. `Ball_Y_Motion` belongs to `gravity`. -/
structure Mover where
  ballXPos : BitVec 10
  ballXMotion : BitVec 10
  ballYPos : BitVec 10
  act : Actions
deriving DecidableEq, Repr

/-- Input ports of a `Move_Ball` block. The names drop the player's index: for `ball`
`kickOn` is `kick_1` and `backCode` is `back1`, for the others `kick_2` and `back2`.
`standLeft` and `standRight` are the facing lines wired to the controller. -/
structure MoverPorts where
  kickOn : Bool
  fightOn : Bool
  jumpOn : Bool
  dodgeOn : Bool
  backOn : Bool
  standLeft : Bool
  standRight : Bool
  p1win : Bool
  p2win : Bool
  ballX1 : BitVec 10
  ballY1 : BitVec 10
  backCode : BitVec 2
  keycode : BitVec 16
  keycode1 : BitVec 16
deriving DecidableEq, Repr

namespace MoverPorts

/-- `code` is in one of the four key slots. -/
def key (p : MoverPorts) (code : BitVec 8) : Bool :=
  p.keycode.extractLsb' 0 8 == code || p.keycode.extractLsb' 8 8 == code ||
    p.keycode1.extractLsb' 0 8 == code || p.keycode1.extractLsb' 8 8 == code

/-- No knock-back is reported and none is being drawn. -/
def free (p : MoverPorts) : Bool := p.backCode == 0#2 && !p.backOn

def alongFacing (p : MoverPorts) (step : BitVec 10) : BitVec 10 :=
  if p.standLeft then twosComplement step else if p.standRight then step else 0#10

end MoverPorts

inductive Branch where
  | win
  | back2
  | back1
  | kick
  | fight
  | dodge
  | jump
  | left
  | right
  | enter
  | idle
deriving DecidableEq, Repr

/-- The action flags written by a branch. The Enter branch writes none. -/
def Branch.actions (a : Actions) : Branch → Actions
  | .win => Actions.standing
  | .back2 => { Actions.none with back := true }
  | .back1 => { Actions.none with dodge := true }
  | .kick => { Actions.none with kick := true }
  | .fight => { Actions.none with fight := true }
  | .dodge => { Actions.none with dodge := true }
  | .jump => { Actions.none with jump := true }
  | .left => { Actions.none with left := true }
  | .right => { Actions.none with right := true }
  | .enter => a
  | .idle => Actions.standing

namespace Mover

def reset (ballXPos : BitVec 10) : Mover := ⟨ballXPos, 0#10, 300#10, Actions.standing⟩

def powerUp : Mover := ⟨0#10, 0#10, 0#10, Actions.none⟩

variable (m : Mover) (p : MoverPorts)

def near (ballX1 : BitVec 10) : Bool :=
  ballX1 ≥ m.ballXPos && ballX1 - m.ballXPos ≤ 40#10 ||
    ballX1 ≤ m.ballXPos && m.ballXPos - ballX1 ≤ 40#10

def near1 (ballY1 : BitVec 10) : Bool :=
  ballY1 ≥ m.ballYPos && ballY1 - m.ballYPos ≤ 50#10 ||
    ballY1 ≤ m.ballYPos && m.ballYPos - ballY1 ≤ 50#10

def gravityPorts (ballX1 ballY1 : BitVec 10) : GravityPorts :=
  ⟨m.ballYPos, ballY1, m.act.jump, m.near ballX1⟩

def bumpRight : Bool :=
  p.ballX1 > m.ballXPos && p.ballX1 - m.ballXPos ≤ 40#10 && m.near1 p.ballY1

def bumpLeft : Bool :=
  p.ballX1 < m.ballXPos && m.ballXPos - p.ballX1 ≤ 40#10 && m.near1 p.ballY1

/-- `(Ball_X_Pos + 80) >= Ball_X_Max || ...`, the sum taken in ten bits. -/
def rightTest : Bool := m.ballXPos + 80#10 ≥ 639#10 || m.bumpRight p

def leftTest : Bool := m.ballXPos ≤ 10#10 || m.bumpLeft p

def rightFirst (motion : BitVec 10) : BitVec 10 :=
  if m.rightTest p then twosComplement 1#10 else if m.leftTest p then 1#10 else motion

def leftFirst (motion : BitVec 10) : BitVec 10 :=
  if m.leftTest p then 1#10 else if m.rightTest p then twosComplement 1#10 else motion

/-- One `posedge frame_clk` of a block whose chain takes `branch` and then sets `motion`:
the positions advance by the motions latched before the edge. -/
def advance (ballYMotion : BitVec 10) (branch : Branch) (motion : BitVec 10) : Mover where
  ballXPos := m.ballXPos + m.ballXMotion
  ballXMotion := motion
  ballYPos := m.ballYPos + ballYMotion
  act := branch.actions m.act

end Mover

end StickFigureFighting
