import StickFigureFighting.Library.Held
import StickFigureFighting.Proofs.AttackWindows
import StickFigureFighting.Proofs.FrameClock
import StickFigureFighting.Proofs.MatchLength

/-!
# How a dodge protects

The arbiter halves a hit as long as the `dodge` machine of the victim is in its second
picture. A dodge is held, unlike an attack, but the machine looks at the request in one
frame in thirty only, and before and after it the figure stands unprotected.
-/

namespace StickFigureFighting
open Library

namespace Dodge

def stage (m : Dodge) : ℕ :=
  match m.state with
  | .stand => 0
  | .dodge1 => 1
  | .dodge2 => 2
  | .wait => 3

lemma on_iff (m : Dodge) : m.on = true ↔ 1 ≤ m.stage ∧ m.stage ≤ 2 := by
  cases h : m.state <;> simp [on, stage, h]

lemma valid_iff (m : Dodge) : m.valid = true ↔ m.stage = 2 := by
  cases h : m.state <;> simp [valid, stage, h]

lemma state_stand_iff (m : Dodge) : m.state = .stand ↔ m.stage = 0 := by
  cases h : m.state <;> simp [stage, h]

lemma stage_step (m : Dodge) (dodge : Bool) : (m.step dodge).stage =
    nextHeld (m.counter = 9#5) (m.counter1 = 28#5) dodge m.stage := by
  cases h : m.state with
  | stand =>
    by_cases hc : m.counter = 9#5 <;> cases dodge <;> simp [step, nextState, stage, nextHeld, h, hc]
  | dodge1 => by_cases hc : m.counter = 9#5 <;> simp [step, nextState, stage, nextHeld, h, hc]
  | dodge2 =>
    by_cases hc : m.counter1 = 28#5 <;> cases dodge <;> simp [step, nextState, stage, nextHeld, h, hc]
  | wait => by_cases hc : m.counter1 = 28#5 <;> simp [step, nextState, stage, nextHeld, h, hc]

def frames (dodge : ℕ → Bool) : ℕ → Dodge := trace (fun m d => step d m) powerUp dodge

variable (dodge : ℕ → Bool)

lemma counter_frames (n : ℕ) : (frames dodge n).counter.toNat = n % 11 :=
  toNat_trace_counter Dodge.counter 10#5 rfl (fun _ _ => rfl) dodge n

lemma counter1_frames (n : ℕ) : (frames dodge n).counter1.toNat = n % 30 :=
  toNat_trace_counter Dodge.counter1 29#5 rfl (fun _ _ => rfl) dodge n

lemma held : Held 11 9 30 28 dodge (fun n => (frames dodge n).stage) where
  zero := rfl
  succ n := by
    rw [← decide_counter_eq (counter_frames dodge n) (by decide),
      ← decide_counter_eq (counter1_frames dodge n) (by decide)]
    exact stage_step _ _

lemma windows : HeldWindows 11 30 28 dodge (fun n => (frames dodge n).on = true)
    (fun n => (frames dodge n).valid = true) (fun n => (frames dodge n).state = .stand) := by
  simp only [on_iff, valid_iff, state_stand_iff]
  exact (held dodge).windows (by decide) (by decide)

end Dodge

/-! ### In the game -/

def FrameRegs.act (f : FrameRegs) : Player → Actions
  | .one => f.ball.act
  | .two => f.player2.act

lemma hpPorts_dodge (f : FrameRegs) (c : ClkRegs) (q : Player) :
    (hpPorts f c).dodge q = (f.animation q).dodge.valid := by
  cases q <;> rfl

namespace Game

/-- The game that has played `n` frames since `Reset`. -/
def afterFrames (g : Game) (keys : ℕ → Keys) : ℕ → Game :=
  trace playFrame g.reset.tick (fun k => keys (frameEdge k))

lemma animation_playFrame (g : Game) (k : Keys) (q : Player) :
    (g.playFrame k).regs.animation q = (g.regs.animation q).step (g.regs.act q) := by
  rw [playFrame, tick_iterate]
  cases q <;> rfl

/-- The machines of a game that is switched on count its frames. -/
lemma dodge_afterFrames (s : HpState) (keys : ℕ → Keys) (q : Player) (n : ℕ) :
    (((powerUp s).afterFrames keys n).regs.animation q).dodge =
      Dodge.frames (fun n => (((powerUp s).afterFrames keys n).regs.act q).dodge) n := by
  induction n with
  | zero => cases q <;> rfl
  | succ n ih =>
    rw [afterFrames, trace, animation_playFrame]
    exact congrArg (Dodge.step _) ih

end Game

/-- In the console, from when it is switched on: a player is protected only after eleven
frames of the dodge, until the dodge is not asked for in a frame of number 28 in thirty, and
not before 43 frames after its protection before. The requests are those of the
controller, which asks for a dodge also as long as it sees a dodged hit. -/
theorem dodge_windows (b : Board) (s : HpState) (keys : ℕ → Keys) (q : Player) :
    ∃ game : ℕ → Game, (∀ k n, frameEdge k + 10 ≤ n → n ≤ frameEdge (k + 1) →
        (Console.after b (Console.powerUp s) keys n).game = game (k + 1)) ∧
      HeldWindows 11 30 28 (fun n => ((game n).regs.act q).dodge)
        (fun n => ((game n).regs.animation q).dodge.on = true)
        (fun n => (hpPorts (game n).regs (game n).clk).dodge q = true)
        (fun n => ((game n).regs.animation q).dodge.state = .stand) := by
  refine ⟨(Game.powerUp s).afterFrames keys, ?_, ?_⟩
  · intro k n hn hn'
    exact Console.game_at_rest b (Console.powerUp s) keys hn hn'
  · simp only [hpPorts_dodge, Game.dodge_afterFrames]
    exact Dodge.windows _

end StickFigureFighting
