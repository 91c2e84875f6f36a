import StickFigureFighting.Model.Actions

/-!
# The animation machines

Each figure owns one `kick`, `fight`, `jump`, `dodge` and `back` machine. They run on
the frame clock, have no reset, and each counts frames for itself: `counter` has
period 11 and `counter1` period 30 (41 in `back`). `on` is the flag for which a figure
is drawn in the action (`kick_1`, `fight_1`, ...), `valid` its window (`kick_valid`, ...).
The sprite rows that the machines select are with the `Pictures`.
-/

namespace StickFigureFighting

/-- The counter shared by all machines: 0 to 10 and round. -/
def nextCounter (counter : BitVec 5) : BitVec 5 :=
  if counter = 10#5 then 0#5 else counter + 1#5

def nextCounter1 (counter1 : BitVec 5) : BitVec 5 :=
  if counter1 = 29#5 then 0#5 else counter1 + 1#5

inductive StrikeState where
  | stand
  | strike1
  | strike2
  | wait
deriving DecidableEq, Repr

/-- The machine of `kick.sv` and of `fight.sv`; the two files differ in names only. -/
structure Strike where
  state : StrikeState
  counter : BitVec 5
  counter1 : BitVec 5
deriving DecidableEq, Repr

namespace Strike

def powerUp : Strike := ⟨.stand, 0#5, 0#5⟩

def nextState (m : Strike) (request : Bool) : StrikeState :=
  match m.state with
  | .stand => if m.counter = 9#5 ∧ request then .strike1 else .stand
  | .strike1 => if m.counter = 9#5 then .strike2 else .strike1
  | .strike2 => if m.counter = 9#5 then .wait else .strike2
  | .wait => if m.counter1 = 28#5 then .stand else .wait

def step (request : Bool) (m : Strike) : Strike :=
  ⟨m.nextState request, nextCounter m.counter, nextCounter1 m.counter1⟩

def on (m : Strike) : Bool :=
  match m.state with
  | .strike1 | .strike2 => true
  | .stand | .wait => false

def valid (m : Strike) : Bool :=
  match m.state with
  | .strike2 => true
  | .stand | .strike1 | .wait => false

end Strike

inductive JumpState where
  | stand
  | jump1
  | jump2
  | jump3
  | jump4
  | wait
deriving DecidableEq, Repr

structure Jump where
  state : JumpState
  counter : BitVec 5
  counter1 : BitVec 5
deriving DecidableEq, Repr

namespace Jump

def powerUp : Jump := ⟨.stand, 0#5, 0#5⟩

def nextState (m : Jump) (jump : Bool) : JumpState :=
  match m.state with
  | .stand => if m.counter = 9#5 ∧ jump then .jump1 else .stand
  | .jump1 => if m.counter = 9#5 then .jump2 else .jump1
  | .jump2 => if m.counter = 9#5 then .jump3 else .jump2
  | .jump3 => if m.counter = 9#5 then .jump4 else .jump3
  | .jump4 => if m.counter = 9#5 then .wait else .jump4
  | .wait => if m.counter1 = 28#5 then .stand else .wait

def step (jump : Bool) (m : Jump) : Jump :=
  ⟨m.nextState jump, nextCounter m.counter, nextCounter1 m.counter1⟩

def on (m : Jump) : Bool :=
  match m.state with
  | .jump1 | .jump2 | .jump3 | .jump4 => true
  | .stand | .wait => false

def valid (m : Jump) : Bool :=
  match m.state with
  | .jump4 => true
  | .stand | .jump1 | .jump2 | .jump3 | .wait => false

end Jump

inductive DodgeState where
  | stand
  | dodge1
  | dodge2
  | wait
deriving DecidableEq, Repr

structure Dodge where
  state : DodgeState
  counter : BitVec 5
  counter1 : BitVec 5
deriving DecidableEq, Repr

namespace Dodge

def powerUp : Dodge := ⟨.stand, 0#5, 0#5⟩

/-- Unlike a strike, a dodge is held as long as it is requested. -/
def nextState (m : Dodge) (dodge : Bool) : DodgeState :=
  match m.state with
  | .stand => if m.counter = 9#5 ∧ dodge then .dodge1 else .stand
  | .dodge1 => if m.counter = 9#5 then .dodge2 else .dodge1
  | .dodge2 => if m.counter1 = 28#5 ∧ !dodge then .wait else .dodge2
  | .wait => if m.counter1 = 28#5 then .stand else .wait

def step (dodge : Bool) (m : Dodge) : Dodge :=
  ⟨m.nextState dodge, nextCounter m.counter, nextCounter1 m.counter1⟩

def on (m : Dodge) : Bool :=
  match m.state with
  | .dodge1 | .dodge2 => true
  | .stand | .wait => false

def valid (m : Dodge) : Bool :=
  match m.state with
  | .dodge2 => true
  | .stand | .dodge1 | .wait => false

end Dodge

inductive BackState where
  | stand
  | back1
  | back2
deriving DecidableEq, Repr

structure Back where
  state : BackState
  counter : BitVec 5
  counter1 : BitVec 6
deriving DecidableEq, Repr

namespace Back

def powerUp : Back := ⟨.stand, 0#5, 0#6⟩

/-- Knock-back starts at once, in any phase of the counters. -/
def nextState (m : Back) (back : Bool) : BackState :=
  match m.state with
  | .stand => if back then .back1 else .stand
  | .back1 => if m.counter = 9#5 then .back2 else .back1
  | .back2 => if m.counter1 = 39#6 ∧ !back then .stand else .back2

def step (back : Bool) (m : Back) : Back :=
  ⟨m.nextState back, nextCounter m.counter, if m.counter1 = 40#6 then 0#6 else m.counter1 + 1#6⟩

def on (m : Back) : Bool :=
  match m.state with
  | .back1 | .back2 => true
  | .stand => false

end Back

/-- The five machines of one figure, driven by the action flags of its controller. -/
structure Animation where
  kick : Strike
  fight : Strike
  jump : Jump
  dodge : Dodge
  back : Back
deriving DecidableEq, Repr

namespace Animation

def powerUp : Animation :=
  ⟨Strike.powerUp, Strike.powerUp, Jump.powerUp, Dodge.powerUp, Back.powerUp⟩

def step (a : Actions) (m : Animation) : Animation where
  kick := m.kick.step a.kick
  fight := m.fight.step a.fight
  jump := m.jump.step a.jump
  dodge := m.dodge.step a.dodge
  back := m.back.step a.back

end Animation

end StickFigureFighting
