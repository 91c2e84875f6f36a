import StickFigureFighting.Model.Actions

/-!
# The facing machines `state_machine` and `state_machine1`

The two modules are one machine with different outputs in state `reset`: player 1
starts facing right, player 2 facing left. The outputs are registers without a reset
of their own; they follow the state one `Clk` edge later.
-/

namespace StickFigureFighting

inductive FacingState where
  | reset
  | state1
  | state2
  | state3
  | state4
  | state5
deriving DecidableEq, Repr

structure Facing where
  state : FacingState
  standLeft : Bool
  standRight : Bool
deriving DecidableEq, Repr

namespace Facing

/-- `Reset` reaches the state register only. -/
def reset (m : Facing) : Facing := { m with state := .reset }

def nextState (m : Facing) (a : Actions) : FacingState :=
  match m.state with
  | .reset => if a.left || a.right then .state1 else .reset
  | .state1 => if a.left then .state2 else if a.right then .state3 else .state1
  | .state2 =>
    if a.stand || a.kick || a.fight || a.jump || a.dodge then .state4
    else if a.right then .state1 else .state2
  | .state3 =>
    if a.stand || a.kick || a.fight || a.jump || a.dodge then .state5
    else if a.left then .state1 else .state3
  | .state4 => if a.right then .state1 else .state4
  | .state5 => if a.left then .state1 else .state5

/-- The clocked outputs; `resetLeft` and `resetRight` are the values of state `reset`. -/
def nextOutputs (resetLeft resetRight : Bool) (m : Facing) : Bool × Bool :=
  match m.state with
  | .reset => (resetLeft, resetRight)
  | .state1 => (m.standLeft, m.standRight)
  | .state2 => (false, false)
  | .state3 => (false, false)
  | .state4 => (true, false)
  | .state5 => (false, true)

def step (resetLeft resetRight : Bool) (a : Actions) (m : Facing) : Facing :=
  let outputs := m.nextOutputs resetLeft resetRight
  ⟨m.nextState a, outputs.1, outputs.2⟩

end Facing

/-- `state_machine`, instance `state0` of the blitter, follows player 1. -/
def stateMachine : Actions → Facing → Facing := Facing.step false true

/-- `state_machine1`, instance `state1` of the blitter, follows player 2. -/
def stateMachine1 : Actions → Facing → Facing := Facing.step true false

end StickFigureFighting
