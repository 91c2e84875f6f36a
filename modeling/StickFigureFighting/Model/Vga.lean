/-!
# The raster `vga_controller`

`clkdiv` halves the 50 MHz `Clk`; its rising edges are the pixel clock, on which the two
counters and the registered sync outputs run. `vs` is the frame clock of the game. The
output `sync` is tied low and left out.
-/

namespace StickFigureFighting

structure Vga where
  clkdiv : Bool
  hc : BitVec 10
  vc : BitVec 10
  hs : Bool
  vs : Bool
deriving DecidableEq, Repr

namespace Vga

def hpixels : BitVec 10 := 799#10
def vlines : BitVec 10 := 524#10

def reset : Vga := ⟨false, 0#10, 0#10, false, false⟩

def drawX (v : Vga) : BitVec 10 := v.hc

def drawY (v : Vga) : BitVec 10 := v.vc

/-- Low outside of the picture of 640 by 480 points. -/
def blank (v : Vga) : Bool := !(decide (v.hc ≥ 640#10) || decide (v.vc ≥ 480#10))

/-- One `posedge clkdiv`. The sums under the sync tests are as wide as their unsized
literal 1, so they do not wrap. -/
def pixelClock (v : Vga) : Vga where
  clkdiv := v.clkdiv
  hc := if v.hc = hpixels then 0#10 else v.hc + 1#10
  vc :=
    if v.hc = hpixels then
      if v.vc = vlines then 0#10 else v.vc + 1#10
    else v.vc
  hs := !(decide (v.hc.toNat + 1 ≥ 656) && decide (v.hc.toNat + 1 < 752))
  vs := !(v.vc.toNat + 1 == 490 || v.vc.toNat + 1 == 491)

/-- One `posedge Clk`. -/
def step (v : Vga) : Vga :=
  let next := { v with clkdiv := !v.clkdiv }
  if next.clkdiv then next.pixelClock else next

end Vga

end StickFigureFighting
