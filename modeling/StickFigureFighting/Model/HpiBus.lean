/-!
# The bus to the USB controller

The firmware reaches the host port of the CY7C67200 through five PIO cores. Their outputs
go to `hpi_io_intf`, which registers address and strobes on their way to the pins and the
data bus on its way back. The bus itself is driven by `OTG_DATA = from_sw_w ? Z : tmp_data`,
with the enable taken from the PIO output, not from the registered strobe.
-/

namespace StickFigureFighting

/-- Output registers of the cores `otg_hpi_address`, `_data`, `_r`, `_w` and `_cs`. -/
structure Pio where
  address : BitVec 2
  data : BitVec 16
  r : Bool
  w : Bool
  cs : Bool
deriving DecidableEq, Repr

/-- Registers of `hpi_io_intf`. `from_sw_int` is read by nothing and is left out. -/
structure HpiIoIntf where
  tmpData : BitVec 16
  otgAddr : BitVec 2
  otgRdN : Bool
  otgWrN : Bool
  otgCsN : Bool
  fromSwDataIn : BitVec 16
deriving DecidableEq, Repr

/-- `readdata` is the register in which the data core samples its input port. -/
structure HpiBus where
  pio : Pio
  readdata : BitVec 16
  intf : HpiIoIntf
deriving DecidableEq, Repr

/-- A store of the firmware to one of the cores, or its load from the data core. -/
inductive Access where
  | address (value : BitVec 8)
  | data (value : BitVec 16)
  | r (value : Bool)
  | w (value : Bool)
  | cs (value : Bool)
  | load
deriving DecidableEq, Repr

/-- One `Clk` cycle: the access that takes effect at its end, what the chip puts on the bus
if it drives it, and what the pins read if nobody drives it or both do. -/
structure Cycle where
  access : Option Access
  chip : BitVec 16
  floating : BitVec 16
deriving DecidableEq, Repr

/-- The address core has two bits. -/
def Pio.access (p : Pio) : Access → Pio
  | .address value => { p with address := value.setWidth 2 }
  | .data value => { p with data := value }
  | .r value => { p with r := value }
  | .w value => { p with w := value }
  | .cs value => { p with cs := value }
  | .load => p

namespace HpiBus

/-- The cores reset to 0, which asserts all three strobes, and `hpi_io_intf` to none. -/
def reset : HpiBus :=
  ⟨⟨0#2, 0#16, false, false, false⟩, 0#16, ⟨0#16, 0#2, true, true, true, 0#16⟩⟩

/-- `hpi_io_intf` drives `OTG_DATA`. -/
def drives (b : HpiBus) : Bool := !b.pio.w

/-- The chip drives `OTG_DATA`. -/
def chipDrives (b : HpiBus) : Bool := !b.intf.otgCsN && !b.intf.otgRdN

def otgData (b : HpiBus) (c : Cycle) : BitVec 16 :=
  if b.drives && !b.chipDrives then b.intf.tmpData
  else if b.chipDrives && !b.drives then c.chip
  else c.floating

/-- One `posedge Clk`. -/
def step (b : HpiBus) (c : Cycle) : HpiBus where
  pio := match c.access with
    | some a => b.pio.access a
    | none => b.pio
  readdata := b.intf.fromSwDataIn
  intf :=
    { tmpData := b.pio.data
      otgAddr := b.pio.address
      otgRdN := b.pio.r
      otgWrN := b.pio.w
      otgCsN := b.pio.cs
      fromSwDataIn := b.otgData c }

end HpiBus

/-! ### `io_handler.c` -/

def ioInit : List Access := [.cs true, .r true, .w true, .address 0, .data 0]

def ioWrite (address : BitVec 8) (data : BitVec 16) : List Access :=
  [.address address, .r true, .cs false, .w false, .data data, .w true, .cs true]

/-- The value loaded is returned. -/
def ioRead (address : BitVec 8) : List Access :=
  [.address address, .w true, .cs false, .r false, .load, .r true, .cs true]

inductive Call where
  | write (address : BitVec 8) (data : BitVec 16)
  | read (address : BitVec 8)
deriving DecidableEq, Repr

def Call.accesses : Call → List Access
  | .write address data => ioWrite address data
  | .read address => ioRead address

end StickFigureFighting
