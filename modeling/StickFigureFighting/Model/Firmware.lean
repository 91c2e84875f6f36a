import StickFigureFighting.Model.Game

/-!
# The firmware beside the game

`main` of `usb_kb` runs on its own processor: it enumerates the keyboard and then polls it
for ever, and for each transfer that the USB controller reports as done it copies two words
of the controller's memory to the two PIO cores whose outputs are the `keycode` and
`keycode1` of the game. A system is that processor, the controller's memory and the game,
each of which steps when it likes. The bus between the first two is not part of it: a read
returns what the controller holds.
-/

namespace StickFigureFighting

/-- The keys of a HID report, stored from `0x051E` on. The modifiers before them and the
last two keys are read by nothing and are left out. -/
structure HidReport where
  key0 : BitVec 8
  key1 : BitVec 8
  key2 : BitVec 8
  key3 : BitVec 8
deriving DecidableEq, Repr

namespace HidReport

/-- The word at `0x051E`. -/
def first (r : HidReport) : BitVec 16 := r.key1 ++ r.key0

/-- The word at `0x0520`. -/
def second (r : HidReport) : BitVec 16 := r.key3 ++ r.key2

end HidReport

/-- The next access to the bus or to a PIO core that `main` waits for. -/
inductive LoopPc where
  | enumerate
  | pollStatus
  | waitDone
  | readFirst
  | storeFirst
  | readSecond
  | storeSecond
  | readCtl
  | hotPlug (count : ℕ)
  | removed (reads : ℕ)
deriving DecidableEq, Repr

/-- The processor with the variables `keycode` and `keycode1` of `main`, which hold what the
16-bit reads returned, the report in the controller's memory and the outputs of the two
PIO cores. -/
structure Host where
  pc : LoopPc
  keycode : BitVec 16
  keycode1 : BitVec 16
  buffer : HidReport
  keycodeExport : BitVec 16
  keycode1Export : BitVec 16
deriving DecidableEq, Repr

namespace Host

/-- `IO_read(HPI_STATUS) & HPI_STATUS_SIE1msg_FLAG` -/
def sie1msg (value : BitVec 16) : Bool := value &&& 0x0010#16 != 0#16

/-- `HUSB_TDListDone` -/
def tdListDone : BitVec 16 := 0x1000#16

/-- `usb_ctl_val & no_device` -/
def attached (value : BitVec 16) : Bool := value &&& 0x3000#16 != 0#16

/-- The cores reset to 0 and `main` starts over. The controller keeps its memory. -/
def reset (buffer : HidReport) : Host := ⟨.enumerate, 0#16, 0#16, buffer, 0#16, 0#16⟩

/-- One step of `main`, where `value` is what a read of a status register returns. -/
def advance (value : BitVec 16) (h : Host) : Host :=
  match h.pc with
  | .enumerate => h
  -- without the message the transfer is submitted again
  | .pollStatus => if sie1msg value then { h with pc := .waitDone } else h
  | .waitDone => if value = tdListDone then { h with pc := .readFirst } else h
  | .readFirst => { h with pc := .storeFirst, keycode := h.buffer.first }
  | .storeFirst => { h with pc := .readSecond, keycodeExport := h.keycode }
  | .readSecond => { h with pc := .storeSecond, keycode1 := h.buffer.second }
  | .storeSecond => { h with pc := .readCtl, keycode1Export := h.keycode1 }
  | .readCtl => { h with pc := if attached value then .pollStatus else .hotPlug 0 }
  | .hotPlug count =>
    if attached value then { h with pc := .pollStatus }
    else if count + 1 < 7 then { h with pc := .hotPlug (count + 1) }
    else { h with pc := .removed 0 }
  -- of three reads only the last is tested
  | .removed reads =>
    if reads < 2 then { h with pc := .removed (reads + 1) }
    else if attached value then { h with pc := .enumerate }
    else { h with pc := .removed 0 }

/-- The enumeration ends, however it went. Its transfers use the memory of the report, and
it stores to neither core. -/
def enumerated (buffer : HidReport) (h : Host) : Host :=
  match h.pc with
  | .enumerate => { h with pc := .pollStatus, buffer := buffer }
  | _ => h

end Host

structure System where
  host : Host
  game : Game
deriving DecidableEq, Repr

/-- A report is delivered when the controller likes: `main` may have submitted the transfer
more than once. `restart` is `KEY[1]`, which resets the processor and its cores, and
`reset` is `KEY[0]`, which resets the game. -/
inductive SystemEvent where
  | loop (value : BitVec 16)
  | enumerated (buffer : HidReport)
  | deliver (r : HidReport)
  | restart
  | tick
  | frame
  | reset
deriving DecidableEq, Repr

namespace System

def step (s : System) : SystemEvent → System
  | .loop value => { s with host := s.host.advance value }
  | .enumerated buffer => { s with host := s.host.enumerated buffer }
  | .deliver r => { s with host := { s.host with buffer := r } }
  | .restart => { s with host := Host.reset s.host.buffer }
  | .tick => { s with game := s.game.tick }
  | .frame => { s with game := s.game.frame s.host.keycodeExport s.host.keycode1Export }
  | .reset => { s with game := s.game.reset }

/-- What the frame edge that comes next hands to `ball`. -/
def sampled (s : System) : MoverPorts :=
  ballPorts s.game.regs s.game.clk s.host.keycodeExport s.host.keycode1Export

end System

end StickFigureFighting
