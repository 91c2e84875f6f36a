import StickFigureFighting.Model.Vga

/-!
# The picture `blitter`

Two blocks run on `Clk`. The first tests whether the raster is in the box of a figure or
of an HP bar and registers the answers, together with the row of the sprites to be shown.
The second mixes the colour of the pixel and reads those registers, so it combines the
answers for the coordinates of one edge with the coordinates of the next. The arbiter and
the machines instantiated in `blitter` are modelled elsewhere. The flag `background` is
written and never read.
-/

namespace StickFigureFighting

/-- What `blitter` reads about one figure: `kickOn` is `kick_1` or `kick_2`. -/
structure FigurePorts where
  positionX : BitVec 10
  positionY : BitVec 10
  right : Bool
  left : Bool
  standRight : Bool
  standLeft : Bool
  kickOn : Bool
  fightOn : Bool
  jumpOn : Bool
  dodgeOn : Bool
  backOn : Bool
deriving DecidableEq, Repr

/-- The lines of the sprites of one figure in one row. -/
structure SpriteRows where
  data : BitVec 100
  dataKick : BitVec 100
  dataFight : BitVec 100
  dataJump : BitVec 100
  dataDodge : BitVec 100
  dataBack : BitVec 100
  dataHappy : BitVec 100
  dataSad : BitVec 100
deriving DecidableEq, Repr

/-- The sprite tables are read by row address; which of its pictures a sprite module shows
depends on its own state, so the tables may change at every edge. -/
structure BlitterPorts where
  figure : FigurePorts
  figure1 : FigurePorts
  sprites : BitVec 10 → SpriteRows
  sprites1 : BitVec 10 → SpriteRows
  start : Bool
  p1win : Bool
  p2win : Bool
  hp1x : BitVec 10
  hp2x : BitVec 10
  data0 : BitVec 15
  ballX : BitVec 10
  ballY : BitVec 10

structure Rgb where
  red : BitVec 8
  green : BitVec 8
  blue : BitVec 8
deriving DecidableEq, Repr

structure FigureRegs where
  addr : BitVec 10
  shapeOn : Bool
deriving DecidableEq, Repr

structure Blitter where
  figure : FigureRegs
  figure1 : FigureRegs
  shapeOn2 : Bool
  shapeOn3 : Bool
  rgb : Rgb
deriving DecidableEq, Repr

namespace Blitter

def powerUp : Blitter := ⟨⟨0#10, false⟩, ⟨0#10, false⟩, false, false, ⟨0#8, 0#8, 0#8⟩⟩

def shapeSize : BitVec 10 := 100#10
def hpY : BitVec 10 := 29#10
def hpY1 : BitVec 10 := 39#10
def hpX : BitVec 10 := 75#10
def hpX1 : BitVec 10 := 565#10
def hpSize : BitVec 10 := 200#10

/-! ### The boxes -/

def inShape (f : FigurePorts) (drawX drawY : BitVec 10) : Bool :=
  drawX ≥ f.positionX && drawX < f.positionX + shapeSize && drawY ≥ f.positionY &&
    drawY < f.positionY + shapeSize

def figureRegs (f : FigurePorts) (drawX drawY : BitVec 10) : FigureRegs :=
  if inShape f drawX drawY then ⟨drawY - f.positionY, true⟩ else ⟨0#10, false⟩

def inBar1 (drawX drawY : BitVec 10) : Bool :=
  drawX ≥ hpX && drawX < hpX + hpSize && drawY ≥ hpY && drawY < hpY1

def inBar2 (drawX drawY : BitVec 10) : Bool :=
  drawX ≥ hpX1 - hpSize && drawX < hpX1 && drawY ≥ hpY && drawY < hpY1

/-! ### The colour of a pixel -/

/-- One `else if` of the colour block that draws a figure: the tests before its bit select,
the sprite line, whether it is read from the right, and the tests after the bit select. -/
structure Arm where
  guard : Bool
  line : BitVec 100
  mirrored : Bool
  rest : Bool
deriving DecidableEq, Repr

namespace Arm

/-- `DrawX-positionX` or `10'd99+positionX-DrawX`. -/
def index (positionX drawX : BitVec 10) (a : Arm) : BitVec 10 :=
  if a.mirrored then 99#10 + positionX - drawX else drawX - positionX

/-- A bit select of a `[0:99]` line. Out of range it gives `x`, which is not equal to 0. -/
def bitSelect (line : BitVec 100) (i : BitVec 10) : Option Bool :=
  if i ≤ 99#10 then some (line.getMsbD i.toNat) else none

def taken (positionX drawX : BitVec 10) (a : Arm) : Bool :=
  a.guard && bitSelect a.line (a.index positionX drawX) == some false && a.rest

end Arm

def facingArms (f : FigurePorts) (shapeOn on : Bool) (line : BitVec 100) (rest : Bool) : List Arm :=
  [⟨on && (f.right || f.standRight) && shapeOn, line, false, rest⟩,
    ⟨on && (f.left || f.standLeft) && shapeOn, line, true, rest⟩]

def fightingArms (f : FigurePorts) (shapeOn : Bool) (rows : SpriteRows) : List Arm :=
  facingArms f shapeOn true rows.data
    (!f.kickOn && !f.fightOn && !f.jumpOn && !f.dodgeOn && !f.backOn) ++
  facingArms f shapeOn f.kickOn rows.dataKick (!f.fightOn && !f.jumpOn && !f.dodgeOn && !f.backOn) ++
  facingArms f shapeOn f.fightOn rows.dataFight (!f.kickOn && !f.jumpOn && !f.dodgeOn && !f.backOn) ++
  facingArms f shapeOn f.jumpOn rows.dataJump (!f.kickOn && !f.fightOn && !f.dodgeOn && !f.backOn) ++
  facingArms f shapeOn f.dodgeOn rows.dataDodge (!f.kickOn && !f.fightOn && !f.jumpOn && !f.backOn) ++
  facingArms f shapeOn f.backOn rows.dataBack (!f.kickOn && !f.fightOn && !f.jumpOn && !f.dodgeOn)

def fighting (p : BlitterPorts) : Bool := p.start && !p.p1win && !p.p2win

def won1 (p : BlitterPorts) : Bool := p.start && p.p1win && !p.p2win

def won2 (p : BlitterPorts) : Bool := p.start && !p.p1win && p.p2win

/-- The arms that draw player 1. After the match it is drawn facing right. -/
def arms (p : BlitterPorts) (b : Blitter) : List Arm :=
  let rows := p.sprites b.figure.addr
  if fighting p then fightingArms p.figure b.figure.shapeOn rows
  else if won1 p then [⟨b.figure.shapeOn, rows.dataHappy, false, true⟩]
  else if won2 p then [⟨b.figure.shapeOn, rows.dataSad, false, true⟩]
  else []

def arms1 (p : BlitterPorts) (b : Blitter) : List Arm :=
  let rows := p.sprites1 b.figure1.addr
  if fighting p then fightingArms p.figure1 b.figure1.shapeOn rows
  else if won1 p then [⟨b.figure1.shapeOn, rows.dataSad, true, true⟩]
  else if won2 p then [⟨b.figure1.shapeOn, rows.dataHappy, true, true⟩]
  else []

def drawn (p : BlitterPorts) (b : Blitter) (drawX : BitVec 10) : Bool :=
  (arms p b).any (Arm.taken p.figure.positionX drawX)

def drawn1 (p : BlitterPorts) (b : Blitter) (drawX : BitVec 10) : Bool :=
  (arms1 p b).any (Arm.taken p.figure1.positionX drawX)

def barGreen1 (drawX : BitVec 10) : BitVec 8 := (123#10 + (drawX - 75#10) / 2#10).setWidth 8

def barGreen2 (drawX : BitVec 10) : BitVec 8 := (233#10 - (drawX - 365#10) / 2#10).setWidth 8

def background (data0 : BitVec 15) : Rgb where
  red := (data0.extractLsb' 10 5).setWidth 8 * 8#8
  green := (data0.extractLsb' 5 5).setWidth 8 * 8#8
  blue := (data0.extractLsb' 0 5).setWidth 8 * 8#8

def ballOn (p : BlitterPorts) (drawX drawY : BitVec 10) : Bool :=
  let distX : Int := drawX.toNat - p.ballX.toNat
  let distY : Int := drawY.toNat - p.ballY.toNat
  distX * distX + distY * distY ≤ 10 * 10

def colour (p : BlitterPorts) (b : Blitter) (drawX drawY : BitVec 10) : Rgb :=
  if fighting p || won1 p || won2 p then
    if drawn p b drawX then ⟨0x00, 0x00, 0x00⟩
    else if drawn1 p b drawX then ⟨0xff, 0xff, 0xff⟩
    else if b.shapeOn2 && drawX ≥ p.hp1x then ⟨0xff, barGreen1 drawX, 0x00⟩
    else if b.shapeOn3 && drawX ≤ p.hp2x then ⟨0xff, barGreen2 drawX, 0x00⟩
    else background p.data0
  else if ballOn p drawX drawY then ⟨0xff, 0xff, 0xff⟩
  else background p.data0

/-- One `posedge Clk` of both blocks. -/
def step (p : BlitterPorts) (drawX drawY : BitVec 10) (b : Blitter) : Blitter where
  figure := figureRegs p.figure drawX drawY
  figure1 := figureRegs p.figure1 drawX drawY
  shapeOn2 := inBar1 drawX drawY
  shapeOn3 := inBar2 drawX drawY
  rgb := colour p b drawX drawY

/-! ### Bit selects -/

/-- The indices at which a chain of arms evaluates its bit selects: `&&` stops at a test
that fails, and an arm is reached if none before it is taken. -/
def selects (positionX drawX : BitVec 10) : List Arm → List (BitVec 10)
  | [] => []
  | a :: as =>
    if a.guard then
      a.index positionX drawX :: (if a.taken positionX drawX then [] else selects positionX drawX as)
    else selects positionX drawX as

def figureSelects (p : BlitterPorts) (b : Blitter) (drawX : BitVec 10) : List (BitVec 10) :=
  selects p.figure.positionX drawX (arms p b)

def figure1Selects (p : BlitterPorts) (b : Blitter) (drawX : BitVec 10) : List (BitVec 10) :=
  if drawn p b drawX then [] else selects p.figure1.positionX drawX (arms1 p b)

end Blitter

structure Display where
  vga : Vga
  blitter : Blitter
deriving DecidableEq, Repr

namespace Display

/-- Both read the registers from before the edge. -/
def step (d : Display) (p : BlitterPorts) : Display :=
  ⟨d.vga.step, d.blitter.step p d.vga.drawX d.vga.drawY⟩

/-- After an edge of `Clk` under `Reset`, which `blitter` does not have. -/
def underReset (p : BlitterPorts) (b : Blitter) : Display :=
  ⟨Vga.reset, b.step p Vga.reset.drawX Vga.reset.drawY⟩

end Display

end StickFigureFighting
