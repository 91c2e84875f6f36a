import StickFigureFighting.Library.Runs
import StickFigureFighting.Library.Settling
import StickFigureFighting.Model.Game
import StickFigureFighting.Proofs.HitAccounting

/-!
# The `Clk` domain settles within a frame

While no frame edge comes, every input of the `Clk` domain that is clocked by the frame
clock is constant. The three `gravity` machines and the two facing machines then come to
rest after four edges. They drive the valid flags of `hp`, which rests five edges later.
-/

namespace StickFigureFighting
open Library

/-! ### The single machines -/

lemma gravity_settles (p : GravityPorts) (g : Gravity) : SettlesIn (Gravity.step p) 4 g := by
  obtain ⟨s, m⟩ := g
  have hup : p.ballYPos ≥ 284#10 → ¬p.ballYPos ≤ 120#10 := by bv_omega
  have hdown : p.ballYPos ≥ 300#10 → ¬p.ballYPos ≤ 120#10 := by bv_omega
  by_cases hstart : p.jump ∧ p.ballYPos ≥ 284#10 <;> by_cases htop : p.ballYPos ≤ 120#10 <;>
    by_cases hfloor : p.ballYPos ≥ 300#10 <;>
    first
    | exact absurd htop (hup hstart.2)
    | exact absurd htop (hdown hfloor)
    | cases s <;> simp [settlesIn_iff, Gravity.step, Gravity.nextState,
        Gravity.nextBallYMotion, hstart, htop, hfloor]

/-- What the facing machines read of a one-hot action: a step left, a step right and the
five other flags they see exclude each other. -/
lemma atMostOne_steps {a : Actions} (h : a.AtMostOne) :
    (a.left → ¬a.right) ∧
    (a.left ∨ a.right → ¬(a.stand || a.kick || a.fight || a.jump || a.dodge)) := by
  obtain ⟨right, left, stand, kick, fight, jump, dodge, back⟩ := a
  revert right left stand kick fight jump dodge back
  decide

lemma facing_settles (resetLeft resetRight : Bool) {a : Actions} (ha : a.AtMostOne) (m : Facing) :
    SettlesIn (Facing.step resetLeft resetRight a) 4 m := by
  obtain ⟨s, l, r⟩ := m
  obtain ⟨hlr, hsteps⟩ := atMostOne_steps ha
  by_cases hl : a.left
  · have hr := hlr hl
    have ho := hsteps (Or.inl hl)
    cases s <;> simp [settlesIn_iff, Facing.step, Facing.nextState,
      Facing.nextOutputs, hl, hr, ho]
  · by_cases hr : a.right
    · have ho := hsteps (Or.inr hr)
      cases s <;> simp [settlesIn_iff, Facing.step, Facing.nextState,
        Facing.nextOutputs, hl, hr, ho]
    · by_cases ho : (a.stand || a.kick || a.fight || a.jump || a.dodge) = true <;>
        cases s <;> simp [settlesIn_iff, Facing.step, Facing.nextState,
          Facing.nextOutputs, hl, hr, ho]

section Hp

variable {p : HpPorts} {h : Hp}

lemma hp_settles_of_zero (hz : h.hpbar1 = 0#8 ∨ h.hpbar2 = 0#8) : SettlesIn (Hp.step p) 1 h := by
  apply SettlesIn.of_step
  apply SettlesIn.of_fixed
  by_cases h2 : h.hpbar2 = 0#8
  · rw [Hp.step_of_hpbar2_zero h2]
    exact Hp.step_of_hpbar2_zero h2
  · have h1 := hz.resolve_right h2
    rw [Hp.step_of_hpbar1_zero h2 h1]
    exact Hp.step_of_hpbar1_zero h2 h1

/-- The wait state of an attack that stays high is left only for the win flag. -/
lemma hp_settles_of_waiting {k : Attack} {q : Player} (hk : p.attack k q) (hs : h.state = .is k q) :
    SettlesIn (Hp.step p) 1 h := by
  by_cases hz : h.hpbar1 = 0#8 ∨ h.hpbar2 = 0#8
  · exact hp_settles_of_zero hz
  · rw [not_or] at hz
    refine SettlesIn.mono (k := 0) (SettlesIn.of_fixed ?_) (by omega)
    rw [Hp.step_is hz.1 hz.2 hs, if_pos hk, ← hs]

lemma hp_state_after_hit {k : Attack} {q : Player} (h1 : h.hpbar1 ≠ 0#8) (h2 : h.hpbar2 ≠ 0#8)
    (hs : h.state = .S k q) : (h.step p).state = .is k q := by
  rw [Hp.step_state h1 h2, Hp.nextState, hs]

lemma hp_settles_of_hit {k : Attack} {q : Player} (hk : p.attack k q) (hs : h.state = .S k q) :
    SettlesIn (Hp.step p) 2 h := by
  by_cases hz : h.hpbar1 = 0#8 ∨ h.hpbar2 = 0#8
  · exact (hp_settles_of_zero hz).mono (by omega)
  · rw [not_or] at hz
    exact SettlesIn.of_step (hp_settles_of_waiting hk (hp_state_after_hit hz.1 hz.2 hs))

/-- From `normal` the chain takes at most one hit, and that attack stays high. -/
lemma hp_settles_of_normal (hs : h.state = .normal) : SettlesIn (Hp.step p) 3 h := by
  by_cases hz : h.hpbar1 = 0#8 ∨ h.hpbar2 = 0#8
  · exact (hp_settles_of_zero hz).mono (by omega)
  rw [not_or] at hz
  match ha : h.arbitrate p with
  | .S k q =>
    apply SettlesIn.of_step
    rw [Hp.step_normal hz.1 hz.2 hs, ha]
    exact hp_settles_of_hit (Hp.attack_of_arbitrate ha) rfl
  | .normal =>
    refine SettlesIn.mono (k := 1) (SettlesIn.of_step (SettlesIn.of_fixed ?_)) (by omega)
    have ha' : ({ h with state := .normal, back1 := 0#2, back2 := 0#2 } : Hp).arbitrate p = .normal := ha
    rw [Hp.step_normal hz.1 hz.2 hs, ha]
    nth_rewrite 2 [← ha']
    exact Hp.step_normal hz.1 hz.2 rfl
  | .is k q => exact absurd ha Hp.arbitrate_ne_is

lemma hp_settles_of_is {k : Attack} {q : Player} (hs : h.state = .is k q) :
    SettlesIn (Hp.step p) 4 h := by
  by_cases hz : h.hpbar1 = 0#8 ∨ h.hpbar2 = 0#8
  · exact (hp_settles_of_zero hz).mono (by omega)
  rw [not_or] at hz
  by_cases hk : p.attack k q
  · exact (hp_settles_of_waiting hk hs).mono (by omega)
  · apply SettlesIn.of_step
    apply hp_settles_of_normal
    rw [Hp.step_is hz.1 hz.2 hs, if_neg hk]

/-- Whatever its state, `hp` takes at most two hits under constant inputs and then rests. -/
lemma hp_settles (p : HpPorts) (h : Hp) : SettlesIn (Hp.step p) 5 h := by
  by_cases hz : h.hpbar1 = 0#8 ∨ h.hpbar2 = 0#8
  · exact (hp_settles_of_zero hz).mono (by omega)
  rw [not_or] at hz
  match hs : h.state with
  | .S k q => exact SettlesIn.of_step (hp_settles_of_is (hp_state_after_hit hz.1 hz.2 hs))
  | .normal => exact (hp_settles_of_normal hs).mono (by omega)
  | .is k q => exact (hp_settles_of_is hs).mono (by omega)

end Hp

/-! ### The domain as a cascade -/

abbrev Upper := Gravity × Gravity × Gravity × Facing × Facing

namespace ClkRegs

def upper (c : ClkRegs) : Upper := (c.gravity0, c.gravity1, c.gravity2, c.state0, c.state1)

def ofUpper (u : Upper) (h : Hp) : ClkRegs := ⟨u.1, u.2.1, u.2.2.1, u.2.2.2.1, u.2.2.2.2, h⟩

def tickUpper (f : FrameRegs) : Upper → Upper :=
  Prod.map (Gravity.step (f.ball.gravityPorts f.player2.ballxsig1 f.player2.ballysig1))
    (Prod.map (Gravity.step (f.ballSecond.gravityPorts f.ball.ballXPos f.ball.ballYPos))
      (Prod.map (Gravity.step (f.ai.gravityPorts f.ball.ballXPos f.ball.ballYPos))
        (Prod.map (stateMachine f.ball.act) (stateMachine1 f.player2.act))))

/-- The valid flags read the facing outputs only, so the ports of `hp` are a function of
the upper machines. -/
lemma hpPorts_ofUpper (f : FrameRegs) (c : ClkRegs) (h : Hp) :
    hpPorts f (ofUpper c.upper h) = hpPorts f c := rfl

lemma tickUpper_settles {f : FrameRegs} (h1 : f.ball.act.AtMostOne) (h2 : f.player2.act.AtMostOne)
    (u : Upper) : SettlesIn (tickUpper f) 4 u := by
  obtain ⟨g0, g1, g2, s0, s1⟩ := u
  exact (gravity_settles _ g0).prod ((gravity_settles _ g1).prod ((gravity_settles _ g2).prod
    ((facing_settles false true h1 s0).prod (facing_settles true false h2 s1))))

theorem settles {f : FrameRegs} (h1 : f.ball.act.AtMostOne) (h2 : f.player2.act.AtMostOne)
    (c : ClkRegs) : SettlesIn (tick f) 9 c := by
  refine SettlesIn.cascade upper ClkRegs.hp (f := tickUpper f) (k := 4) (m := 5)
    (g := fun u => Hp.step (hpPorts f (ofUpper u Hp.reset))) ?_ (fun _ => rfl) ?_
    (tickUpper_settles h1 h2 _) (fun h => hp_settles _ h)
  · rintro ⟨_, _, _, _, _, _⟩ ⟨_, _, _, _, _, _⟩ hup hhp
    cases hup
    cases hhp
    rfl
  · intro x
    rw [hpPorts_ofUpper]
    rfl

end ClkRegs

lemma Game.tick_iterate (g : Game) (n : ℕ) :
    Game.tick^[n] g = ⟨g.regs, (ClkRegs.tick g.regs)^[n] g.clk⟩ := by
  induction n with
  | zero => rfl
  | succ n ih => rw [Function.iterate_succ_apply', ih, Function.iterate_succ_apply']; rfl

/-- Clock-domain refinement: with the frame-clocked registers held, every number of `Clk`
edges from 16 on leaves the same state, and the next frame edge samples the same values. -/
theorem clk_domain_settles (g : Game) (h1 : g.regs.ball.act.AtMostOne)
    (h2 : g.regs.player2.act.AtMostOne) (n : ℕ) (hn : 16 ≤ n) :
    Game.tick^[n] g = Game.tick^[16] g ∧
    ∀ keycode keycode1, (Game.tick^[n] g).frame keycode keycode1 =
      (Game.tick^[16] g).frame keycode keycode1 := by
  have hs := (ClkRegs.settles h1 h2 g.clk).mono (n := 16) (by omega)
  have heq : Game.tick^[n] g = Game.tick^[16] g := by
    rw [Game.tick_iterate, Game.tick_iterate, hs.iterate_eq hn]
  exact ⟨heq, fun keycode keycode1 => by rw [heq]⟩

/-- The key byte held for `n` frames of four `Clk` edges each. -/
def Game.hold (keycode : BitVec 16) (n : ℕ) (g : Game) : Game :=
  (fun g => Game.tick^[4] (g.frame keycode 0))^[n] g

/-- Player 1 has walked up to `AI`, and its kick has just come into the valid window. -/
def kickPending : Game :=
  (((((Game.powerUp .normal).reset.hold 0x004B 1).hold 0x0028 1).hold 0x0007 42).hold
    0x0018 20).frame 0x0018 0

lemma kickPending_actions :
    kickPending.regs.ball.act.AtMostOne ∧ kickPending.regs.player2.act.AtMostOne ∧
    kickPending.clk.hp.hpbar2 = 200#8 ∧ (Game.tick^[16] kickPending).clk.hp.hpbar2 = 186#8 := by
  decide +kernel

/-- The hit is taken within the sixteen edges, and only once in a thousand. -/
theorem clk_domain_settles_kick : Game.tick^[1000] kickPending = Game.tick^[16] kickPending ∧
    kickPending.clk.hp.hpbar2 = 200#8 ∧ (Game.tick^[1000] kickPending).clk.hp.hpbar2 = 186#8 := by
  obtain ⟨h1, h2, hbar, hbar'⟩ := kickPending_actions
  have hs := (clk_domain_settles kickPending h1 h2 1000 (by omega)).1
  exact ⟨hs, hbar, by rw [hs, hbar']⟩

end StickFigureFighting
