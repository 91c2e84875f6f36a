import StickFigureFighting.Proofs.Reachable

/-!
# What `Reset` erases

Two states that go through the same `Reset` pulse agree afterwards in every register that
a reset or the clock reaches while `Reset` is high: positions, motions, action flags and
`start`, the `gravity` machines, the arbiter, and the facing machines with their outputs.
The animation machines have no reset. They keep running, and are history.
-/

namespace StickFigureFighting
open Library

structure SameHistory (f f' : FrameRegs) : Prop where
  anim1 : f.anim1 = f'.anim1
  anim2 : f.anim2 = f'.anim2
  indicator : f.indicator = f'.indicator

structure SameMatch (g h : Game) : Prop where
  ball : g.regs.ball = h.regs.ball
  ballSecond : g.regs.ballSecond = h.regs.ballSecond
  ai : g.regs.ai = h.regs.ai
  clk : g.clk = h.clk

lemma eq_of_same {g h : Game} (hm : SameMatch g h) (hh : SameHistory g.regs h.regs) : g = h := by
  obtain ⟨⟨_, _, _, _, _, _⟩, _⟩ := g
  obtain ⟨⟨_, _, _, _, _, _⟩, _⟩ := h
  obtain ⟨h1, h2, h3, h4⟩ := hm
  obtain ⟨h5, h6, h7⟩ := hh
  simp only at h1 h2 h3 h4 h5 h6 h7
  rw [h1, h2, h3, h4, h5, h6, h7]

/-! ### While `Reset` is high -/

structure HeldRegs (f : FrameRegs) : Prop where
  ball : f.ball = Ball.reset
  ballSecond : f.ballSecond = BallSecond.reset
  ai : f.ai = AI.reset

/-- The `Clk` domain of a game held in reset, once its outputs have been clocked. -/
def heldClk : ClkRegs :=
  ⟨Gravity.reset, Gravity.reset, Gravity.reset, ⟨.reset, false, true⟩, ⟨.reset, true, false⟩, Hp.reset⟩

namespace Game

variable {g h : Game}

lemma heldRegs_reset (g : Game) : HeldRegs g.reset.regs := ⟨rfl, rfl, rfl⟩

lemma heldRegs_underReset (g : Game) (e : Event) : HeldRegs (g.underReset e).regs := by
  cases e <;> exact heldRegs_reset _

lemma heldRegs_run (h : HeldRegs g.regs) (es : List Event) : HeldRegs (run underReset g es).regs :=
  run_invariant (I := fun g => HeldRegs g.regs) (fun g e _ => heldRegs_underReset g e) es h

/-- The facing machines are not clocked by a frame edge. -/
lemma state_underReset (g : Game) (e : Event) :
    (g.underReset e).clk.state0.state = .reset ∧ (g.underReset e).clk.state1.state = .reset := by
  cases e <;> exact ⟨rfl, rfl⟩

/-- One edge of `Clk` is enough to bring the facing lines to their reset values. -/
lemma clk_tick_underReset (h0 : g.clk.state0.state = .reset) (h1 : g.clk.state1.state = .reset) :
    (g.underReset .tick).clk = heldClk := by
  simp [underReset, tick, reset, ClkRegs.reset, ClkRegs.tick, stateMachine, stateMachine1, Facing.step,
    Facing.reset, Facing.nextOutputs, h0, h1, heldClk]

lemma clk_underReset (h : g.clk = heldClk) (e : Event) : (g.underReset e).clk = heldClk := by
  cases e with
  | tick => exact clk_tick_underReset (by rw [h]; rfl) (by rw [h]; rfl)
  | frame keycode keycode1 =>
    simp only [underReset, reset, frame, h]
    rfl
  | reset =>
    simp only [underReset, reset, h]
    rfl

lemma clk_run_underReset (h : g.clk = heldClk) (es : List Event) : (run underReset g es).clk = heldClk :=
  run_invariant (I := fun g : Game => g.clk = heldClk) (fun _ e h => clk_underReset h e) es h

lemma clk_run_of_tick (h0 : g.clk.state0.state = .reset) (h1 : g.clk.state1.state = .reset)
    {es : List Event} (hes : .tick ∈ es) : (run underReset g es).clk = heldClk := by
  induction es generalizing g with
  | nil => cases hes
  | cons e es ih =>
    rw [run_cons]
    by_cases he : e = .tick
    · subst he
      exact clk_run_underReset (clk_tick_underReset h0 h1) es
    · obtain ⟨hs0, hs1⟩ := state_underReset g e
      exact ih hs0 hs1 ((List.mem_cons.mp hes).resolve_left (Ne.symm he))

/-- Held in reset, the animation machines see no request, whatever the mode is. -/
lemma sameHistory_underReset (hg : HeldRegs g.regs) (hh : HeldRegs h.regs)
    (hs : SameHistory g.regs h.regs) (e : Event) :
    SameHistory (g.underReset e).regs (h.underReset e).regs := by
  obtain ⟨hb, hbs, hai⟩ := hg
  obtain ⟨hb', hbs', hai'⟩ := hh
  obtain ⟨h1, h2, hi⟩ := hs
  cases e with
  | tick => exact ⟨h1, h2, hi⟩
  | frame keycode keycode1 =>
    have hp : g.regs.player2 = h.regs.player2 := by
      simp only [FrameRegs.player2, FrameRegs.du, FrameRegs.sin, hi, hbs, hai, hbs', hai']
    have hst : g.regs.st = h.regs.st := by rw [FrameRegs.st, FrameRegs.st, hb, hb']
    refine ⟨?_, ?_, ?_⟩
    · simp only [underReset, reset, FrameRegs.reset, frame, FrameRegs.frame, h1, hb, hb']
    · simp only [underReset, reset, FrameRegs.reset, frame, FrameRegs.frame, h2, hp]
    · simp only [underReset, reset, FrameRegs.reset, frame, FrameRegs.frame, hi, hst]
  | reset => exact ⟨h1, h2, hi⟩

lemma sameHistory_run (hg : HeldRegs g.regs) (hh : HeldRegs h.regs) (hs : SameHistory g.regs h.regs)
    (es : List Event) : SameHistory (run underReset g es).regs (run underReset h es).regs := by
  induction es generalizing g h with
  | nil => exact hs
  | cons e es ih =>
    exact ih (heldRegs_underReset g e) (heldRegs_underReset h e) (sameHistory_underReset hg hh hs e)

end Game

/-- After the same `Reset` pulse, of at least one edge of `Clk`, any two states agree in
everything that has a reset and in the facing lines. If they also agreed in the animation
machines and the menu, they are equal, and the same events make the same match. -/
theorem reset_erases (g h : Game) (es : List Event) (hes : .tick ∈ es) :
    SameMatch (g.resetPulse es) (h.resetPulse es) ∧
    (SameHistory g.regs h.regs → g.resetPulse es = h.resetPulse es ∧
      ∀ fs, run Game.step (g.resetPulse es) fs = run Game.step (h.resetPulse es) fs) := by
  obtain ⟨hb, hbs, hai⟩ := Game.heldRegs_run (Game.heldRegs_reset g) es
  obtain ⟨hb', hbs', hai'⟩ := Game.heldRegs_run (Game.heldRegs_reset h) es
  have hclk : (g.resetPulse es).clk = heldClk := Game.clk_run_of_tick rfl rfl hes
  have hclk' : (h.resetPulse es).clk = heldClk := Game.clk_run_of_tick rfl rfl hes
  have hm : SameMatch (g.resetPulse es) (h.resetPulse es) :=
    ⟨hb.trans hb'.symm, hbs.trans hbs'.symm, hai.trans hai'.symm, hclk.trans hclk'.symm⟩
  refine ⟨hm, ?_⟩
  intro hs
  have heq := eq_of_same hm (Game.sameHistory_run (Game.heldRegs_reset g) (Game.heldRegs_reset h)
    ⟨hs.anim1, hs.anim2, hs.indicator⟩ es)
  exact ⟨heq, fun fs => by rw [heq]⟩

/-- Twelve frames from `Reset` on with one key held. -/
def afterTwelve (keycode : BitVec 16) : Game :=
  run Game.step (Game.powerUp .normal) (.reset :: heldShort 12 keycode 0)

lemma afterTwelve_history : (afterTwelve 0x0007).regs.anim1 = (afterTwelve 0).regs.anim1 ∧
    (afterTwelve 0x0007).regs.anim2 = (afterTwelve 0).regs.anim2 ∧
    (afterTwelve 0x0007).regs.indicator = (afterTwelve 0).regs.indicator :=
  ⟨by decide +kernel, by decide +kernel, by decide +kernel⟩

/-- Kicking leaves a trace, walking does not: the next match is then the same. -/
theorem reset_erases_match :
    SameMatch ((afterTwelve 0x0018).resetPulse [.tick]) ((afterTwelve 0x0007).resetPulse [.tick]) ∧
    run Game.step ((afterTwelve 0x0007).resetPulse [.tick]) (heldShort 40 0x0018 0) =
      run Game.step ((afterTwelve 0).resetPulse [.tick]) (heldShort 40 0x0018 0) := by
  obtain ⟨hanim1, hanim2, hindicator⟩ := afterTwelve_history
  refine ⟨(reset_erases (afterTwelve 0x0018) (afterTwelve 0x0007) [.tick] (by decide)).1, ?_⟩
  exact ((reset_erases (afterTwelve 0x0007) (afterTwelve 0) [.tick] (by decide)).2
    ⟨hanim1, hanim2, hindicator⟩).2 (heldShort 40 0x0018 0)

def kicking : Game := run Game.step (Game.powerUp .normal) (.reset :: held 12 0x0018 0)

/-- The kick goes on after `Reset`: the flag tells the two states apart. -/
theorem kick_survives_reset :
    kicking.Reachable ∧ (Game.powerUp .normal).Reachable ∧
    (kicking.resetPulse [.tick]).regs.anim1.kick.on = true ∧
    ((Game.powerUp .normal).resetPulse [.tick]).regs.anim1.kick.on = false :=
  ⟨Game.reachable_run .normal _, Game.reachable_run .normal [], by decide +kernel, by decide +kernel⟩

end StickFigureFighting
