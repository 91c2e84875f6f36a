import StickFigureFighting.Model.Game
import StickFigureFighting.Model.Pictures

/-!
# The console

`lab8` as a whole, on the 50 MHz clock: the game, the raster that makes its frame clock,
the picture, and the SRAM with the backgrounds, which is read only. A frame edge comes with
an edge of `Clk`, two registers later, so that the registers of the frame clock sample
those of `Clk` after that edge.
-/

namespace StickFigureFighting

/-- What does not change: the sprite tables and the words of the SRAM, whose write enable is
tied high. -/
structure Board where
  tables : Tables
  sram : BitVec 20 → BitVec 16

structure Console where
  game : Game
  pictures : Pictures
  pictures1 : Pictures
  display : Display
deriving DecidableEq, Repr

/-- The four key bytes at an edge. -/
structure Keys where
  keycode : BitVec 16
  keycode1 : BitVec 16
deriving DecidableEq, Repr

namespace Console

variable (b : Board) (c : Console)

/-- `SRAM_ADDR` takes the low bits of the address. -/
def sramAddr (drawX drawY : BitVec 10) (f : FrameRegs) : BitVec 20 :=
  (address drawX drawY f.st f.du f.sin).setWidth 20

def figurePorts : FigurePorts where
  positionX := c.game.regs.ball.ballXPos
  positionY := c.game.regs.ball.ballYPos
  right := c.game.regs.ball.act.right
  left := c.game.regs.ball.act.left
  standRight := c.game.clk.state0.standRight
  standLeft := c.game.clk.state0.standLeft
  kickOn := c.game.regs.anim1.kick.on
  fightOn := c.game.regs.anim1.fight.on
  jumpOn := c.game.regs.anim1.jump.on
  dodgeOn := c.game.regs.anim1.dodge.on
  backOn := c.game.regs.anim1.back.on

def figure1Ports : FigurePorts where
  positionX := c.game.regs.player2.ballxsig1
  positionY := c.game.regs.player2.ballysig1
  right := c.game.regs.player2.act.right
  left := c.game.regs.player2.act.left
  standRight := c.game.clk.state1.standRight
  standLeft := c.game.clk.state1.standLeft
  kickOn := c.game.regs.anim2.kick.on
  fightOn := c.game.regs.anim2.fight.on
  jumpOn := c.game.regs.anim2.jump.on
  dodgeOn := c.game.regs.anim2.dodge.on
  backOn := c.game.regs.anim2.back.on

def blitterPorts : BlitterPorts where
  figure := c.figurePorts
  figure1 := c.figure1Ports
  sprites := c.pictures.rows b.tables c.game.regs.anim1
  sprites1 := c.pictures1.rows b.tables c.game.regs.anim2
  start := c.game.regs.st
  p1win := c.game.clk.hp.p1win
  p2win := c.game.clk.hp.p2win
  hp1x := c.game.clk.hp.hp1x
  hp2x := c.game.clk.hp.hp2x
  data0 := (b.sram (sramAddr c.display.vga.drawX c.display.vga.drawY c.game.regs)).setWidth 15
  ballX := c.game.regs.indicator.ballXCenter
  ballY := c.game.regs.indicator.ballYCenter

/-- One `posedge VGA_VS`. -/
def frame (k : Keys) : Console where
  game := c.game.frame k.keycode k.keycode1
  pictures := c.pictures.step c.game.regs.ball.act.stand c.game.clk.hp.p1win c.game.clk.hp.p2win
  pictures1 := c.pictures1.step c.game.regs.player2.act.stand c.game.clk.hp.p2win c.game.clk.hp.p1win
  display := c.display

/-- What an edge of `Clk` does to the registers that are clocked by it or by the raster. -/
def tick : Console where
  game := c.game.tick
  pictures := c.pictures
  pictures1 := c.pictures1
  display := c.display.step (c.blitterPorts b)

/-- One `posedge Clk`, with the frame edge it may bring. -/
def step (c : Console) (k : Keys) : Console :=
  if !c.display.vga.vs && (c.tick b).display.vga.vs then (c.tick b).frame k else c.tick b

/-- `KEY[0]`. Neither the picture nor the machines that draw have a reset. -/
def reset : Console where
  game := c.game.reset
  pictures := c.pictures
  pictures1 := c.pictures1
  display := ⟨Vga.reset, c.display.blitter⟩

/-- All registers 0, see `ClkRegs.powerUp`. -/
def powerUp (s : HpState) : Console where
  game := Game.powerUp s
  pictures := Pictures.powerUp
  pictures1 := Pictures.powerUp
  display := ⟨Vga.reset, Blitter.powerUp⟩

end Console

end StickFigureFighting
