import StickFigureFighting.Model.Animation
import StickFigureFighting.Model.Blitter

/-!
# The sprite modules

Each module shows one row of one of its tables, chosen by its state. The tables are
parameters of the model: they hold the drawings, and a row address beyond their last row
never occurs. Next to the five machines of `Animation`, each figure has a `standpic`, which
draws it standing and walking, and two endings. These run on the frame clock, too, and have
no reset.
-/

namespace StickFigureFighting

abbrev Rom := BitVec 10 → BitVec 100

/-- The tables of a module: number 0 is its `ROM` and number `k` its `ROMk`. -/
abbrev Roms := Nat → Rom

inductive StandpicState where
  | stand
  | run1
  | run2
  | run3
deriving DecidableEq, Repr

structure Standpic where
  state : StandpicState
  counter : BitVec 5
deriving DecidableEq, Repr

namespace Standpic

def powerUp : Standpic := ⟨.stand, 0#5⟩

/-- In the phase of the counter, the first two pictures of a walk do not look at `stand1`. -/
def nextState (m : Standpic) (stand1 : Bool) : StandpicState :=
  match m.state with
  | .stand => if m.counter = 9#5 ∧ !stand1 then .run1 else .stand
  | .run1 => if m.counter = 9#5 then .run2 else if stand1 then .stand else .run1
  | .run2 => if m.counter = 9#5 then .run3 else if stand1 then .stand else .run2
  | .run3 => if m.counter = 9#5 ∧ !stand1 then .run1 else if stand1 then .stand else .run3

def step (stand1 : Bool) (m : Standpic) : Standpic := ⟨m.nextState stand1, nextCounter m.counter⟩

def data (roms : Roms) (m : Standpic) : Rom :=
  match m.state with
  | .stand => roms 0
  | .run1 => roms 1
  | .run2 => roms 2
  | .run3 => roms 3

end Standpic

inductive EndingState where
  | stand
  | ending1
  | ending2
deriving DecidableEq, Repr

/-- The machine of `happy_ending.sv` and of `sad_ending.sv`; the two files differ in names
and tables only. -/
structure Ending where
  state : EndingState
  counter : BitVec 5
deriving DecidableEq, Repr

namespace Ending

def powerUp : Ending := ⟨.stand, 0#5⟩

def nextState (m : Ending) (win : Bool) : EndingState :=
  match m.state with
  | .stand => if m.counter = 9#5 ∧ win then .ending1 else .stand
  | .ending1 => if m.counter = 9#5 then .ending2 else .ending1
  | .ending2 => if m.counter = 9#5 then .ending1 else .ending2

def step (win : Bool) (m : Ending) : Ending := ⟨m.nextState win, nextCounter m.counter⟩

def data (roms : Roms) (m : Ending) : Rom :=
  match m.state with
  | .stand => roms 0
  | .ending1 => roms 1
  | .ending2 => roms 2

end Ending

/-! ### The pictures of the animation machines -/

def Strike.data (roms : Roms) (m : Strike) : Rom :=
  match m.state with
  | .stand | .wait => roms 0
  | .strike1 => roms 1
  | .strike2 => roms 2

def Jump.data (roms : Roms) (m : Jump) : Rom :=
  match m.state with
  | .stand | .wait => roms 0
  | .jump1 => roms 1
  | .jump2 => roms 2
  | .jump3 => roms 3
  | .jump4 => roms 4

def Dodge.data (roms : Roms) (m : Dodge) : Rom :=
  match m.state with
  | .stand | .wait => roms 0
  | .dodge1 => roms 1
  | .dodge2 => roms 2

def Back.data (roms : Roms) (m : Back) : Rom :=
  match m.state with
  | .stand => roms 0
  | .back1 => roms 1
  | .back2 => roms 2

/-! ### The pictures of a figure -/

/-- The tables of the eight modules; both figures have the same. -/
structure Tables where
  standpic : Roms
  kick : Roms
  fight : Roms
  jump : Roms
  dodge : Roms
  back : Roms
  happyEnding : Roms
  sadEnding : Roms

/-- The machines of a figure that have a picture and no flag. -/
structure Pictures where
  standpic : Standpic
  happyEnding : Ending
  sadEnding : Ending
deriving DecidableEq, Repr

namespace Pictures

def powerUp : Pictures := ⟨Standpic.powerUp, Ending.powerUp, Ending.powerUp⟩

/-- The happy ending is for the winner: `won` is the win flag of the figure itself and `lost`
that of its opponent. -/
def step (stand won lost : Bool) (m : Pictures) : Pictures where
  standpic := m.standpic.step stand
  happyEnding := m.happyEnding.step won
  sadEnding := m.sadEnding.step lost

def rows (t : Tables) (a : Animation) (m : Pictures) (addr : BitVec 10) : SpriteRows where
  data := m.standpic.data t.standpic addr
  dataKick := a.kick.data t.kick addr
  dataFight := a.fight.data t.fight addr
  dataJump := a.jump.data t.jump addr
  dataDodge := a.dodge.data t.dodge addr
  dataBack := a.back.data t.back addr
  dataHappy := m.happyEnding.data t.happyEnding addr
  dataSad := m.sadEnding.data t.sadEnding addr

end Pictures

end StickFigureFighting
