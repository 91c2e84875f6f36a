import StickFigureFighting.Model.Animation
import StickFigureFighting.Model.Facing
import StickFigureFighting.Model.Hp
import StickFigureFighting.Model.Menu
import StickFigureFighting.Model.Players
import Mathlib.Logic.Function.Iterate

/-!
# The composed game

The wiring of `lab8` and `blitter`. The registers fall into two clock domains: those
clocked by the frame clock `VGA_VS` and those clocked by the 50 MHz `Clk`. A run is a
sequence of `Clk` edges, frame edges with the key bytes they sample, and assertions of
`Reset`. A `Reset` held over several `Clk` edges is a `reset` after each of them.
-/

namespace StickFigureFighting

structure FrameRegs where
  ball : Ball
  ballSecond : Mover
  ai : Mover
  anim1 : Animation
  anim2 : Animation
  indicator : Indicator
deriving DecidableEq, Repr

/-- Registers clocked by `Clk`: the `gravity` instances of `ball`, `ball_second` and `AI`,
the facing machines and `hp`. -/
structure ClkRegs where
  gravity0 : Gravity
  gravity1 : Gravity
  gravity2 : Gravity
  state0 : Facing
  state1 : Facing
  hp : Hp
deriving DecidableEq, Repr

namespace FrameRegs

variable (f : FrameRegs)

def st : Bool := f.ball.start

def du : Bool := f.indicator.dual

def sin : Bool := f.indicator.single

def player2 : Player2 := modeChoose f.du f.sin f.ballSecond f.ai

end FrameRegs

/-- Ports of `ball`. Its facing lines are player 2's. -/
def ballPorts (f : FrameRegs) (c : ClkRegs) (keycode keycode1 : BitVec 16) : MoverPorts where
  kickOn := f.anim1.kick.on
  fightOn := f.anim1.fight.on
  jumpOn := f.anim1.jump.on
  dodgeOn := f.anim1.dodge.on
  backOn := f.anim1.back.on
  standLeft := c.state1.standLeft
  standRight := c.state1.standRight
  p1win := c.hp.p1win
  p2win := c.hp.p2win
  ballX1 := f.player2.ballxsig1
  ballY1 := f.player2.ballysig1
  backCode := c.hp.back1
  keycode := keycode
  keycode1 := keycode1

/-- Ports of `ball_second` and of `AI`. Both get the lines `stand_left` and `stand_right`
of `lab8`, which are player 1's facing. -/
def player2Ports (f : FrameRegs) (c : ClkRegs) (keycode keycode1 : BitVec 16) : MoverPorts where
  kickOn := f.anim2.kick.on
  fightOn := f.anim2.fight.on
  jumpOn := f.anim2.jump.on
  dodgeOn := f.anim2.dodge.on
  backOn := f.anim2.back.on
  standLeft := c.state0.standLeft
  standRight := c.state0.standRight
  p1win := c.hp.p1win
  p2win := c.hp.p2win
  ballX1 := f.ball.ballXPos
  ballY1 := f.ball.ballYPos
  backCode := c.hp.back2
  keycode := keycode
  keycode1 := keycode1

def FrameRegs.near1 (f : FrameRegs) : Bool := f.ball.near1 f.player2.ballysig1

/-- Player 1 stands within 70 columns of player 2 and faces it. -/
def valid1 (f : FrameRegs) (c : ClkRegs) : Bool :=
  let positionX := f.ball.ballXPos
  let positionX1 := f.player2.ballxsig1
  (positionX1 > positionX && positionX1 - positionX ≤ 70#10 && f.near1 && c.state0.standRight) ||
    (positionX > positionX1 && positionX - positionX1 ≤ 70#10 && f.near1 && c.state0.standLeft)

def valid2 (f : FrameRegs) (c : ClkRegs) : Bool :=
  let positionX := f.ball.ballXPos
  let positionX1 := f.player2.ballxsig1
  (positionX1 > positionX && positionX1 - positionX ≤ 70#10 && f.near1 && c.state1.standLeft) ||
    (positionX > positionX1 && positionX - positionX1 ≤ 70#10 && f.near1 && c.state1.standRight)

def hpPorts (f : FrameRegs) (c : ClkRegs) : HpPorts where
  kick1 := f.anim1.kick.valid
  kick2 := f.anim2.kick.valid
  fight1 := f.anim1.fight.valid
  fight2 := f.anim2.fight.valid
  jump1 := f.anim1.jump.valid
  jump2 := f.anim2.jump.valid
  valid1 := valid1 f c
  valid2 := valid2 f c
  dodge1 := f.anim1.dodge.valid
  dodge2 := f.anim2.dodge.valid

namespace ClkRegs

def tick (f : FrameRegs) (c : ClkRegs) : ClkRegs where
  gravity0 := c.gravity0.step (f.ball.gravityPorts f.player2.ballxsig1 f.player2.ballysig1)
  gravity1 := c.gravity1.step (f.ballSecond.gravityPorts f.ball.ballXPos f.ball.ballYPos)
  gravity2 := c.gravity2.step (f.ai.gravityPorts f.ball.ballXPos f.ball.ballYPos)
  state0 := stateMachine f.ball.act c.state0
  state1 := stateMachine1 f.player2.act c.state1
  hp := c.hp.step (hpPorts f c)

def reset (c : ClkRegs) : ClkRegs where
  gravity0 := Gravity.reset
  gravity1 := Gravity.reset
  gravity2 := Gravity.reset
  state0 := c.state0.reset
  state1 := c.state1.reset
  hp := Hp.reset

/-- All registers 0 but for the declared initial bars. The encoding of `hp`'s state
register decides in which state it wakes up, so that state is a parameter. -/
def powerUp (s : HpState) : ClkRegs where
  gravity0 := ⟨.state0, 0#10⟩
  gravity1 := ⟨.state0, 0#10⟩
  gravity2 := ⟨.state0, 0#10⟩
  state0 := ⟨.reset, false, false⟩
  state1 := ⟨.reset, false, false⟩
  hp := ⟨s, 200#8, 200#8, 0#2, 0#2, false, false⟩

end ClkRegs

namespace FrameRegs

/-- One `posedge VGA_VS`, sampling the key bytes and the `Clk` domain. -/
def frame (c : ClkRegs) (keycode keycode1 : BitVec 16) (f : FrameRegs) : FrameRegs where
  ball := f.ball.step (ballPorts f c keycode keycode1) c.gravity0.ballYMotion
  ballSecond := BallSecond.step (player2Ports f c keycode keycode1) c.gravity1.ballYMotion f.ballSecond
  ai := AI.step f.st (player2Ports f c keycode keycode1) c.gravity2.ballYMotion f.ai
  anim1 := f.anim1.step f.ball.act
  anim2 := f.anim2.step f.player2.act
  indicator := f.indicator.step f.st (keycode.extractLsb' 0 8)

/-- The animation machines have no reset. -/
def reset (f : FrameRegs) : FrameRegs where
  ball := Ball.reset
  ballSecond := BallSecond.reset
  ai := AI.reset
  anim1 := f.anim1
  anim2 := f.anim2
  indicator := f.indicator.reset

def powerUp : FrameRegs where
  ball := Ball.powerUp
  ballSecond := Mover.powerUp
  ai := Mover.powerUp
  anim1 := Animation.powerUp
  anim2 := Animation.powerUp
  indicator := Indicator.powerUp

end FrameRegs

structure Game where
  regs : FrameRegs
  clk : ClkRegs
deriving DecidableEq, Repr

inductive Event where
  | tick
  | frame (keycode keycode1 : BitVec 16)
  | reset
deriving DecidableEq, Repr

namespace Game

def tick (g : Game) : Game := ⟨g.regs, g.clk.tick g.regs⟩

def frame (keycode keycode1 : BitVec 16) (g : Game) : Game :=
  ⟨g.regs.frame g.clk keycode keycode1, g.clk⟩

def reset (g : Game) : Game := ⟨g.regs.reset, g.clk.reset⟩

def powerUp (s : HpState) : Game := ⟨FrameRegs.powerUp, ClkRegs.powerUp s⟩

def step (g : Game) : Event → Game
  | .tick => g.tick
  | .frame keycode keycode1 => g.frame keycode keycode1
  | .reset => g.reset

/-- A clock edge while `Reset` is high: only the registers without a reset follow their
inputs. A frame edge selects no mode, so its keys do not matter. -/
def underReset (g : Game) : Event → Game
  | .tick => g.tick.reset
  | .frame _ _ => (g.frame 0#16 0#16).reset
  | .reset => g.reset

/-- A `Reset` pulse that is held over the given clock edges. -/
def resetPulse (es : List Event) (g : Game) : Game := es.foldl underReset g.reset

end Game

end StickFigureFighting
