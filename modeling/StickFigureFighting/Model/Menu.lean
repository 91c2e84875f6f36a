import StickFigureFighting.Model.Controller

/-!
# Mode selection: `indicator`, `mode_choose` and `address`
-/

namespace StickFigureFighting

/-- The menu cursor and the two mode flags. The one-bit registers written by the reset
branch of `indicator` are read by nothing and are left out. -/
structure Indicator where
  ballXCenter : BitVec 10
  ballYCenter : BitVec 10
  dual : Bool
  single : Bool
deriving DecidableEq, Repr

namespace Indicator

/-- The centre has declared initial values; the flags power up low. -/
def powerUp : Indicator := ⟨155#10, 276#10, false, false⟩

/-- `Reset` writes neither the cursor nor the flags. -/
def reset (i : Indicator) : Indicator := i

/-- One `posedge frame_clk`; `key` is the first key slot only. -/
def step (st : Bool) (key : BitVec 8) (i : Indicator) : Indicator :=
  if key = 0x4E ∧ !st then { i with ballYCenter := 340#10, dual := true, single := false }
  else if key = 0x4B ∧ !st then { i with ballYCenter := 276#10, dual := false, single := true }
  else i

end Indicator

structure Player2 where
  ballxsig1 : BitVec 10
  ballysig1 : BitVec 10
  act : Actions
deriving DecidableEq, Repr

def Player2.ofMover (m : Mover) : Player2 := ⟨m.ballXPos, m.ballYPos, m.act⟩

/-- The multiplexer of `mode_choose`: `ball_second` for two players, `AI` for one, and
all zero before a mode is selected. -/
def modeChoose (du sin : Bool) (ballSecond ai : Mover) : Player2 :=
  if du then Player2.ofMover ballSecond
  else if sin then Player2.ofMover ai
  else ⟨0#10, 0#10, Actions.none⟩

/-- First address of the background picture selected by `address`. -/
def backgroundBase (start dual single : Bool) : BitVec 32 :=
  if start && dual then 0x4b000#32 else if start && single then 0x96000#32 else 0#32

def address (drawx drawy : BitVec 10) (start dual single : Bool) : BitVec 32 :=
  backgroundBase start dual single + (drawx.setWidth 32 * 480#32 + drawy.setWidth 32)

end StickFigureFighting
