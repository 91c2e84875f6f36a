import StickFigureFighting.Model.Controller

/-!
# The controllers `ball`, `ball_second` and `AI`
-/

namespace StickFigureFighting

/-- `ball`: the registers of player 1, which also owns the start latch. -/
structure Ball extends Mover where
  start : Bool
deriving DecidableEq, Repr

namespace Ball

def reset : Ball := ⟨Mover.reset 0#10, false⟩

def powerUp : Ball := ⟨Mover.powerUp, false⟩

def branch (p : MoverPorts) : Branch :=
  if p.p1win || p.p2win then .win
  else if p.backCode = 2#2 then .back2
  else if p.backCode = 1#2 then .back1
  else if p.key 0x18 && !p.fightOn && !p.kickOn && !p.jumpOn && !p.dodgeOn && p.free then .kick
  else if p.key 0x0C && !p.kickOn && !p.fightOn && !p.dodgeOn && !p.jumpOn && p.free then .fight
  else if p.key 0x1C && !p.kickOn && !p.fightOn && !p.jumpOn && p.free then .dodge
  else if p.key 0x1A && !p.kickOn && !p.fightOn && !p.dodgeOn && p.free then .jump
  else if p.key 0x04 && !p.kickOn && !p.fightOn && !p.jumpOn && !p.dodgeOn && p.free then .left
  else if p.key 0x07 && !p.kickOn && !p.fightOn && !p.jumpOn && !p.dodgeOn && p.free then .right
  else if p.key 0x28 then .enter
  else .idle

/-- `Ball_X_Motion` after each branch. The jump branch repeats its two tests under the
direction keys; the Enter branch keeps the old motion. -/
def motion (m : Mover) (p : MoverPorts) : Branch → BitVec 10
  | .win => 0#10
  | .back2 => m.rightFirst p (p.alongFacing 8#10)
  | .back1 => m.rightFirst p (p.alongFacing 1#10)
  | .kick => m.rightFirst p 0#10
  | .fight => m.rightFirst p 0#10
  | .dodge => m.rightFirst p 0#10
  | .jump => m.rightFirst p
      (if p.key 0x04 then m.rightFirst p (twosComplement 5#10)
        else if p.key 0x07 then m.rightFirst p 5#10 else 0#10)
  | .left => m.leftFirst p (twosComplement 5#10)
  | .right => m.rightFirst p 5#10
  | .enter => m.ballXMotion
  | .idle => 0#10

def step (p : MoverPorts) (ballYMotion : BitVec 10) (b : Ball) : Ball :=
  let br := branch p
  ⟨b.toMover.advance ballYMotion br (motion b.toMover p br), b.start || br == .enter⟩

end Ball

namespace BallSecond

def reset : Mover := Mover.reset 539#10

def branch (p : MoverPorts) : Branch :=
  if p.p1win || p.p2win then .win
  else if p.backCode = 2#2 then .back2
  else if p.backCode = 1#2 then .back1
  else if p.key 0x59 && !p.fightOn && !p.kickOn && !p.jumpOn && !p.dodgeOn && p.free then .kick
  else if p.key 0x5A && !p.fightOn && !p.kickOn && !p.jumpOn && !p.dodgeOn && p.free then .fight
  else if p.key 0x62 && !p.kickOn && !p.fightOn && !p.jumpOn && p.free then .dodge
  else if p.key 0x52 && !p.kickOn && !p.fightOn && !p.dodgeOn && p.free then .jump
  else if p.key 0x50 && !p.kickOn && !p.fightOn && !p.jumpOn && !p.dodgeOn && p.free then .left
  else if p.key 0x4F && !p.kickOn && !p.fightOn && !p.jumpOn && !p.dodgeOn && p.free then .right
  else .idle

/-- Unlike `ball`, the left branch tests the right side first. -/
def motion (m : Mover) (p : MoverPorts) : Branch → BitVec 10
  | .win => 0#10
  | .back2 => m.rightFirst p (p.alongFacing 8#10)
  | .back1 => m.rightFirst p (p.alongFacing 1#10)
  | .kick => m.rightFirst p 0#10
  | .fight => m.rightFirst p 0#10
  | .dodge => m.rightFirst p 0#10
  | .jump => m.rightFirst p
      (if p.key 0x50 then twosComplement 5#10 else if p.key 0x4F then 5#10 else 0#10)
  | .left => m.rightFirst p (twosComplement 5#10)
  | .right => m.rightFirst p 5#10
  | .enter => m.ballXMotion
  | .idle => 0#10

def step (p : MoverPorts) (ballYMotion : BitVec 10) (m : Mover) : Mover :=
  let br := branch p
  m.advance ballYMotion br (motion m p br)

end BallSecond

namespace AI

def reset : Mover := Mover.reset 539#10

def inRange (m : Mover) (p : MoverPorts) (range : BitVec 10) : Bool :=
  p.ballX1 ≥ m.ballXPos && p.ballX1 - m.ballXPos ≤ range && p.standRight ||
    p.ballX1 ≤ m.ballXPos && m.ballXPos - p.ballX1 ≤ range && p.standLeft

def branch (m : Mover) (p : MoverPorts) : Branch :=
  if p.p1win || p.p2win then .win
  else if p.backCode = 2#2 then .back2
  else if p.backCode = 1#2 then .back1
  else if inRange m p 60#10 && !p.kickOn && !p.jumpOn && !p.dodgeOn && p.free then .fight
  else if inRange m p 70#10 && !p.fightOn && !p.jumpOn && !p.dodgeOn && p.free then .kick
  else if inRange m p 80#10 && !p.kickOn && !p.fightOn && !p.jumpOn && p.free then .dodge
  else if inRange m p 90#10 && !p.kickOn && !p.fightOn && !p.dodgeOn && p.free then .jump
  else if p.ballX1 ≤ m.ballXPos && !p.kickOn && !p.fightOn && !p.jumpOn &&
    !p.dodgeOn && p.free then .left
  else if p.ballX1 ≥ m.ballXPos && !p.kickOn && !p.fightOn && !p.jumpOn &&
    !p.dodgeOn && p.free then .right
  else .idle

/-- The left and right branches make one of the two edge tests only. -/
def motion (m : Mover) (p : MoverPorts) : Branch → BitVec 10
  | .win => 0#10
  | .back2 => m.rightFirst p (p.alongFacing 8#10)
  | .back1 => m.rightFirst p (p.alongFacing 1#10)
  | .kick => m.rightFirst p 0#10
  | .fight => m.rightFirst p 0#10
  | .dodge => m.rightFirst p 0#10
  | .jump => m.rightFirst p (p.alongFacing 5#10)
  | .left => if m.leftTest p then 1#10 else twosComplement 5#10
  | .right => if m.rightTest p then twosComplement 1#10 else 5#10
  | .enter => m.ballXMotion
  | .idle => 0#10

def step (st : Bool) (p : MoverPorts) (ballYMotion : BitVec 10) (m : Mover) : Mover :=
  if st then
    let br := branch m p
    m.advance ballYMotion br (motion m p br)
  else m

end AI

end StickFigureFighting
