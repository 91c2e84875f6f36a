import StickFigureFighting.Proofs.Reachable

/-!
# Heights of the two players

`gravity` moves a figure by 8 lines a frame between the floor at 300 and line 116. The
two tests that turn a figure round near its opponent compare the heights the wrong way:
two figures side by side on the floor turn a rise into a fall through the floor, and at
the top a fall into a rise. Away from these two edges the heights stay in range.
-/

namespace StickFigureFighting
open Library

/-! ### One gravity machine -/

namespace Gravity

variable {p p' : GravityPorts} {g : Gravity}

/-- At the next frame edge the machine turns the figure round at the end of its range. -/
def Overshoots (p : GravityPorts) (g : Gravity) : Prop :=
  (g.state = .state1 ∧ riseReversed p ∧ p.ballYPos = 300#10) ∨
    (g.state = .state2 ∧ fallReversed p ∧ p.ballYPos = 116#10)

instance (p : GravityPorts) (g : Gravity) : Decidable (Overshoots p g) :=
  inferInstanceAs (Decidable (_ ∨ _))

/-- The machine has settled and its figure is on a line it can be on in this state. Lines
are 8 apart, counted from the floor at 300. -/
structure Settled (p : GravityPorts) (g : Gravity) : Prop where
  fixed : g.step p = g
  top : 116 ≤ p.ballYPos.toNat
  floor : p.ballYPos.toNat ≤ 300
  grid : p.ballYPos.toNat % 8 = 4
  standing : g.state = .state0 → p.ballYPos.toNat = 300
  rising : g.state = .state1 → 120 < p.ballYPos.toNat
  falling : g.state = .state2 → p.ballYPos.toNat < 300

lemma Settled.nextState_eq (h : Settled p g) : g.nextState p = g.state := congrArg Gravity.state h.fixed

lemma Settled.ballYMotion_eq (h : Settled p g) : g.ballYMotion = g.nextBallYMotion p :=
  (congrArg Gravity.ballYMotion h.fixed).symm

/-- `state3` lasts for one edge of `Clk` only. -/
lemma Settled.ne_state3 (h : Settled p g) : g.state ≠ .state3 := by
  intro hs
  have hn := h.nextState_eq
  rw [nextState, hs] at hn
  cases hn

/-- The line after the frame edge is in range again, unless the machine overshoots. -/
lemma Settled.next_line (h : Settled p g) (hsafe : ¬Overshoots p g) :
    116 ≤ (p.ballYPos + g.ballYMotion).toNat ∧ (p.ballYPos + g.ballYMotion).toNat ≤ 300 ∧
    (p.ballYPos + g.ballYMotion).toNat % 8 = 4 ∧
    (g.state = .state0 → (p.ballYPos + g.ballYMotion).toNat = 300) := by
  have htop := h.top
  have hfloor := h.floor
  have hgrid := h.grid
  simp only [Overshoots, not_or, not_and] at hsafe
  rw [h.ballYMotion_eq, nextBallYMotion]
  cases hs : g.state with
  | state0 =>
    have hline := h.standing hs
    simp only [BitVec.add_zero]
    exact ⟨htop, hfloor, hgrid, fun _ => hline⟩
  | state1 =>
    have hline := h.rising hs
    have hturn := hsafe.1 hs
    dsimp only
    split
    · rename_i hr
      have hne := hturn hr
      refine ⟨?_, ?_, ?_, fun h0 => by cases h0⟩ <;> bv_omega
    · refine ⟨?_, ?_, ?_, fun h0 => by cases h0⟩ <;> simp only [twosComplement] <;> bv_omega
  | state2 =>
    have hline := h.falling hs
    have hturn := hsafe.2 hs
    dsimp only
    split
    · rename_i hr
      have hne := hturn hr
      refine ⟨?_, ?_, ?_, fun h0 => by cases h0⟩ <;> simp only [twosComplement] <;> bv_omega
    · refine ⟨?_, ?_, ?_, fun h0 => by cases h0⟩ <;> bv_omega
  | state3 => exact absurd hs h.ne_state3

/-- Four edges of `Clk` settle the machine on the new line, whatever the jump flag and the
opponent do. -/
lemma settled_of_line (htop : 116 ≤ p.ballYPos.toNat) (hfloor : p.ballYPos.toNat ≤ 300)
    (hgrid : p.ballYPos.toNat % 8 = 4) (hstanding : g.state = .state0 → p.ballYPos.toNat = 300)
    (hne : g.state ≠ .state3) : Settled p ((step p)^[4] g) := by
  have hlow : p.ballYPos ≤ 120#10 ↔ p.ballYPos.toNat ≤ 120 := by bv_omega
  have hhigh : p.ballYPos ≥ 300#10 ↔ 300 ≤ p.ballYPos.toNat := by bv_omega
  have hjump : p.ballYPos ≥ 284#10 ↔ 284 ≤ p.ballYPos.toNat := by bv_omega
  have hfixed := gravity_settles p g
  obtain ⟨s, m⟩ := g
  have hstate : ((step p)^[4] ⟨s, m⟩).state = match s with
      | .state0 => if p.jump then .state1 else .state0
      | .state1 => if p.ballYPos.toNat ≤ 120 then .state2 else .state1
      | .state2 => if 300 ≤ p.ballYPos.toNat then (if p.jump then .state1 else .state0) else .state2
      | .state3 => .state3 := by
    cases s with
    | state0 =>
      have hline := hstanding rfl
      by_cases hj : p.jump <;> simp [step, nextState, hlow, hjump, hline, hj]
    | state1 =>
      by_cases hy : p.ballYPos.toNat ≤ 120
      · have hn : ¬300 ≤ p.ballYPos.toNat := by omega
        simp [step, nextState, hlow, hhigh, hy, hn]
      · simp [step, nextState, hlow, hy]
    | state2 =>
      by_cases hy : 300 ≤ p.ballYPos.toNat
      · -- landed: through `state3` to `state0`, and straight on if `jump` is still high
        have hline : p.ballYPos.toNat = 300 := by omega
        by_cases hj : p.jump <;> simp [step, nextState, hlow, hhigh, hjump, hline, hj]
      · simp [step, nextState, hhigh, hy]
    | state3 => exact absurd rfl hne
  refine ⟨hfixed, htop, hfloor, hgrid, ?_, ?_, ?_⟩
  all_goals
    rw [hstate]
    cases s <;> dsimp only at hstanding hne ⊢ <;> grind

lemma Settled.frame (h : Settled p g) (hsafe : ¬Overshoots p g)
    (hline : p'.ballYPos = p.ballYPos + g.ballYMotion) : Settled p' ((step p')^[4] g) := by
  obtain ⟨htop, hfloor, hgrid, hstanding⟩ := h.next_line hsafe
  rw [← hline] at htop hfloor hgrid hstanding
  exact settled_of_line htop hfloor hgrid hstanding h.ne_state3

/-- `g` will have settled when `n` edges of `Clk` have become four. -/
def Settling (p : GravityPorts) (g : Gravity) (n : ℕ) : Prop := Settled p ((step p)^[4 - n] g)

lemma Settling.tick {n : ℕ} (h : Settling p g n) : Settling p (g.step p) (n + 1) := by
  unfold Settling at h ⊢
  by_cases hn : n < 4
  · rw [show 4 - n = (4 - (n + 1)) + 1 by omega, Function.iterate_succ_apply] at h
    exact h
  · rw [show 4 - n = 0 by omega] at h
    rw [show 4 - (n + 1) = 0 by omega]
    have hfixed : g.step p = g := h.fixed
    rw [hfixed]
    exact h

lemma Settling.settled {n : ℕ} (h : Settling p g n) (hn : 4 ≤ n) : Settled p g := by
  unfold Settling at h
  rw [show 4 - n = 0 by omega] at h
  exact h

lemma settling_reset (n : ℕ) (hline : p.ballYPos = 300#10) (hjump : p.jump = false) :
    Settling p reset n := by
  have hfixed : reset.step p = reset := by simp [reset, step, nextState, nextBallYMotion, hjump]
  rw [Settling, Function.iterate_fixed hfixed]
  exact ⟨hfixed, by simp [hline], by simp [hline], by simp [hline], fun _ => by simp [hline],
    fun hs => (by cases hs), fun hs => (by cases hs)⟩

def InRange (p : GravityPorts) (g : Gravity) : Prop :=
  116#10 ≤ p.ballYPos ∧ p.ballYPos ≤ 300#10 ∧ (g.step p = g → g.state = .state0 → p.ballYPos = 300#10)

lemma Settling.inRange {n : ℕ} (h : Settling p g n) : InRange p g := by
  have htop := h.top
  have hfloor := h.floor
  refine ⟨by bv_omega, by bv_omega, ?_⟩
  intro hfixed hs
  have hg : (step p)^[4 - n] g = g := Function.iterate_fixed hfixed _
  have hstanding := h.standing
  rw [hg] at hstanding
  have hline := hstanding hs
  bv_omega

end Gravity

/-! ### The two players -/

namespace FrameRegs

def gravityPorts0 (f : FrameRegs) : GravityPorts :=
  f.ball.gravityPorts f.player2.ballxsig1 f.player2.ballysig1

def gravityPorts1 (f : FrameRegs) : GravityPorts :=
  f.ballSecond.gravityPorts f.ball.ballXPos f.ball.ballYPos

end FrameRegs

/-- Neither player is turned round at the end of its range. -/
def HeightSafe (g : Game) : Event → Prop
  | .tick | .reset => True
  | .frame _ _ => ¬g.clk.gravity0.Overshoots g.regs.gravityPorts0 ∧
      ¬g.clk.gravity1.Overshoots g.regs.gravityPorts1

instance (g : Game) : (e : Event) → Decidable (HeightSafe g e)
  | .tick | .reset => isTrue trivial
  | .frame _ _ => inferInstanceAs (Decidable (_ ∧ _))

def countTicks (n : ℕ) : Event → ℕ
  | .tick => n + 1
  | .frame _ _ => 0
  | .reset => n

def Spaced (n : ℕ) : Event → Prop
  | .tick | .reset => True
  | .frame _ _ => 4 ≤ n

instance (n : ℕ) : (e : Event) → Decidable (Spaced n e)
  | .tick | .reset => isTrue trivial
  | .frame _ _ => inferInstanceAs (Decidable (_ ≤ _))

/-- Frames of four edges of `Clk` each, one after the other. -/
lemma heldShort_spaced (n : ℕ) (keycode keycode1 : BitVec 16) :
    Meets countTicks Spaced 4 (heldShort n keycode keycode1) ∧
      run countTicks 4 (heldShort n keycode keycode1) = 4 := by
  induction n with
  | zero => exact ⟨trivial, rfl⟩
  | succ n ih =>
    have hsplit : heldShort (n + 1) keycode keycode1 =
        (.frame keycode keycode1 :: List.replicate 4 .tick) ++ heldShort n keycode keycode1 := rfl
    have hframe : Meets countTicks Spaced 4 (.frame keycode keycode1 :: List.replicate 4 .tick) :=
      ⟨le_rfl, trivial, trivial, trivial, trivial, trivial⟩
    rw [hsplit, meets_append, run_append]
    exact ⟨⟨hframe, ih.1⟩, ih.2⟩

def HeightsInRange (g : Game) : Prop :=
  g.clk.gravity0.InRange g.regs.gravityPorts0 ∧ g.clk.gravity1.InRange g.regs.gravityPorts1

/-- `n` edges of `Clk` after a frame edge, both machines settle within `4 - n` more. -/
structure HeightInv (g : Game) (n : ℕ) : Prop where
  ball : g.clk.gravity0.Settling g.regs.gravityPorts0 n
  ballSecond : g.clk.gravity1.Settling g.regs.gravityPorts1 n

namespace HeightInv

lemma reset (g : Game) (n : ℕ) : HeightInv g.reset n :=
  ⟨Gravity.settling_reset n rfl rfl, Gravity.settling_reset n rfl rfl⟩

lemma step (g : Game) (n : ℕ) (e : Event) (h : HeightInv g n) (hsafe : HeightSafe g e)
    (hn : Spaced n e) :
    HeightInv (g.step e) (countTicks n e) := by
  cases e with
  | tick => exact ⟨h.ball.tick, h.ballSecond.tick⟩
  | frame keycode keycode1 =>
    exact ⟨(h.ball.settled hn).frame hsafe.1 rfl, (h.ballSecond.settled hn).frame hsafe.2 rfl⟩
  | reset => exact reset g n

end HeightInv

/-- In every run from `Reset` with at least four edges of `Clk` between frame edges, in
which no frame edge turns a figure round at the end of its range, both players stay
between line 116 and the floor and land on the floor. -/
theorem heights_in_range (g : Game) (es : List Event) (hspaced : Meets countTicks Spaced 4 es)
    (hsafe : Meets Game.step HeightSafe g.reset es) : HeightsInRange (run Game.step g.reset es) := by
  have h := hsafe.invariant_monitor HeightInv.step hspaced (HeightInv.reset g 4)
  exact ⟨h.ball.inRange, h.ballSecond.inRange⟩

/-- Player 1 jumps alone, and then both jump with the screen between them. -/
theorem heights_in_range_jumps :
    HeightsInRange (run Game.step (Game.powerUp .normal).reset
      (held 1 0x004E 0 ++ held 1 0x0028 0 ++ held 90 0x001A 0 ++ held 60 0x1A52 0)) :=
  heights_in_range (Game.powerUp .normal) _ (by decide +kernel) (by decide +kernel)

/-- The players walk up to each other and jump together. -/
def jumpTogether : List Event :=
  held 1 0x004E 0 ++ held 1 0x0028 0 ++ held 59 0x5007 0 ++ held 3 0x1A52 0

lemma not_heightsInRange {g : Game} (hline : 300#10 < g.regs.ball.ballYPos) : ¬HeightsInRange g := by
  rintro ⟨⟨-, hfloor, -⟩, -⟩
  have hfloor' : g.regs.ball.ballYPos ≤ 300#10 := hfloor
  bv_omega

/-- Player 1 sinks below the floor, although its frame edges are sixteen edges of `Clk` apart. -/
theorem jumpTogether_sinks :
    Meets countTicks Spaced 4 jumpTogether ∧
    ¬HeightsInRange (run Game.step (Game.powerUp .normal).reset jumpTogether) :=
  ⟨by decide +kernel, not_heightsInRange (by decide +kernel)⟩

end StickFigureFighting
