/-!
# The hit arbiter `hp`

`hp` runs on the 50 MHz clock. It serialises the hits of the two players, takes each
hit from the victim's bar and reports it to the victim's controller as a knock-back
code: 2 for a full hit, 1 for a dodged one.
-/

namespace StickFigureFighting

inductive Player where
  | one
  | two
deriving DecidableEq, Repr

def Player.other : Player → Player
  | .one => .two
  | .two => .one

inductive Attack where
  | kick
  | fight
  | jump
deriving DecidableEq, Repr

namespace Attack

/-- What an undodged hit takes; it is also the threshold of the lethal test. -/
def damage : Attack → BitVec 8
  | .kick => 14#8
  | .fight => 8#8
  | .jump => 20#8

def dodgedDamage : Attack → BitVec 8
  | .kick => 7#8
  | .fight => 4#8
  | .jump => 10#8

end Attack

/-- The thirteen states: `S .kick .one` is `S_kick1` and `is .kick .one` is `is_kick1`. -/
inductive HpState where
  | S (attack : Attack) (player : Player)
  | normal
  | is (attack : Attack) (player : Player)
deriving DecidableEq, Repr

structure HpPorts where
  kick1 : Bool
  kick2 : Bool
  fight1 : Bool
  fight2 : Bool
  jump1 : Bool
  jump2 : Bool
  valid1 : Bool
  valid2 : Bool
  dodge1 : Bool
  dodge2 : Bool
deriving DecidableEq, Repr

namespace HpPorts

def attack (p : HpPorts) : Attack → Player → Bool
  | .kick, .one => p.kick1
  | .kick, .two => p.kick2
  | .fight, .one => p.fight1
  | .fight, .two => p.fight2
  | .jump, .one => p.jump1
  | .jump, .two => p.jump2

def valid (p : HpPorts) : Player → Bool
  | .one => p.valid1
  | .two => p.valid2

end HpPorts

structure Hp where
  state : HpState
  hpbar1 : BitVec 8
  hpbar2 : BitVec 8
  back1 : BitVec 2
  back2 : BitVec 2
  p1 : Bool
  p2 : Bool
deriving DecidableEq, Repr

namespace Hp

def reset : Hp := ⟨.normal, 200#8, 200#8, 0#2, 0#2, false, false⟩

def p1win (h : Hp) : Bool := h.p1

def p2win (h : Hp) : Bool := h.p2

def hp1x (h : Hp) : BitVec 10 := 75#10 + (200#10 - h.hpbar1.setWidth 10)

def hp2x (h : Hp) : BitVec 10 := 364#10 + h.hpbar2.setWidth 10

/-- The attack test of state `normal`. Both comparisons with 0 are in the source. -/
def request (h : Hp) (p : HpPorts) (a : Attack) (q : Player) : Bool :=
  p.attack a q && p.valid q && decide (h.hpbar1 ≥ 0#8) && decide (h.hpbar2 ≥ 0#8)

def arbitrate (h : Hp) (p : HpPorts) : HpState :=
  if h.request p .kick .one then .S .kick .one
  else if h.request p .fight .one then .S .fight .one
  else if h.request p .kick .two then .S .kick .two
  else if h.request p .fight .two then .S .fight .two
  else if h.request p .jump .one then .S .jump .one
  else if h.request p .jump .two then .S .jump .two
  else .normal

def nextState (h : Hp) (p : HpPorts) : HpState :=
  match h.state with
  | .S a q => .is a q
  | .is a q => if p.attack a q then .is a q else .normal
  | .normal => h.arbitrate p

/-- The body of a hit state: the victim's bar and knock-back code after the hit. -/
def takeHit (a : Attack) (dodge : Bool) (bar : BitVec 8) (code : BitVec 2) : BitVec 8 × BitVec 2 :=
  if bar ≤ a.damage then (0#8, code)
  else if dodge then (bar - a.dodgedDamage, 1#2)
  else (bar - a.damage, 2#2)

/-- One `posedge Clk`. A bar at 0 raises the win flag and holds everything else. -/
def step (p : HpPorts) (h : Hp) : Hp :=
  if h.hpbar2 ≤ 0#8 then { h with p1 := true }
  else if h.hpbar1 ≤ 0#8 then { h with p2 := true }
  else
    match h.state with
    | .S a .one =>
      let hit := takeHit a p.dodge2 h.hpbar2 h.back2
      { h with state := h.nextState p, hpbar2 := hit.1, back2 := hit.2 }
    | .S a .two =>
      let hit := takeHit a p.dodge1 h.hpbar1 h.back1
      { h with state := h.nextState p, hpbar1 := hit.1, back1 := hit.2 }
    | .normal => { h with state := h.nextState p, back1 := 0#2, back2 := 0#2 }
    | .is _ _ => { h with state := h.nextState p }

end Hp

end StickFigureFighting
