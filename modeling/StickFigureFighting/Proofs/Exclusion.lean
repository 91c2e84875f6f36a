import StickFigureFighting.Proofs.ActionGuards

/-!
# Player 2 performs one action at a time

The guards of `ball_second` and `AI` see the animation flags of the frame before, and a
dodged hit forces a dodge past all guards. What excludes two actions is the phase of the
machines: a flag is raised in one frame out of eleven, from a request made in the frame
before, and in that frame the guards have seen every flag that is still up.
-/

namespace StickFigureFighting
open Library

/-- The requests of a controller of player 2 against the drawn actions. -/
structure Disciplined (a : Actions) (m : Animation) (code : BitVec 2) : Prop where
  oneHot : a.AtMostOne
  /-- Except in the frame after a start, a request excludes every other flag. -/
  waits : ∀ v w, m.counter v ≠ 10#5 → a.request v → m.on w → w = v
  dodging : m.dodge.valid → ∀ v, a.request v → v = .dodge
  dodged : code = 1#2 → ∀ v, a.request v → v = .dodge

namespace Disciplined

variable {a r : Actions} {m : Animation} {code : BitVec 2} {p : MoverPorts} {br : Branch}

lemma of_quiet (ha : a.AtMostOne) (hq : ∀ v, a.request v = false) : Disciplined a m code where
  oneHot := ha
  waits := fun v _ _ h => by rw [hq v] at h; cases h
  dodging := fun _ v h => by rw [hq v] at h; cases h
  dodged := fun _ v h => by rw [hq v] at h; cases h

lemma standing : Disciplined Actions.standing m code :=
  of_quiet atMostOne_standing (fun v => by cases v <;> rfl)

lemma none : Disciplined Actions.none m code :=
  of_quiet atMostOne_none (fun v => by cases v <;> rfl)

/-- A request made at a frame edge comes from a branch whose guard holds, or from a dodged
hit, whose victim draws nothing but its dodge. -/
lemma alone_of_request (hg : Guarded p br) (hne : br ≠ .enter) (hp : ∀ w, p.on w = m.on w)
    (hc : p.backCode = code) (hdodged : code = 1#2 → ∀ w, m.on w → w = .dodge) {v w : Voluntary}
    (hv : (br.actions a).request v) (hw : m.on w) : w = v := by
  rcases Branch.request_actions hv with hbr | ⟨hbr, rfl⟩ | ⟨hbr, -⟩
  · exact hg.alone v w hbr (by rw [hp]; exact hw)
  · exact hdodged (hc.symm.trans (hg.code_one hbr)) w hw
  · exact absurd hbr hne

lemma frame (h : Disciplined a m code) (hg : Guarded p br) (hne : br ≠ .enter)
    (hp : ∀ w, p.on w = m.on w) (hc : p.backCode = code) (hphase : ∀ v w, m.counter v = m.counter w)
    (hdodged : code = 1#2 → ∀ w, m.on w → w = .dodge) : Disciplined (br.actions a) (m.step r) code where
  oneHot := Branch.actions_atMostOne h.oneHot br
  waits := by
    intro v w hcount hv hw
    rcases Animation.on_step hw with hon | ⟨hstart, -⟩
    · exact alone_of_request hg hne hp hc hdodged hv hon
    · -- `w` starts at this edge, which leads to the one phase left out
      rw [hphase w v] at hstart
      rw [Animation.counter_step, nextCounter_eq_ten hstart] at hcount
      exact absurd rfl hcount
  dodging := by
    intro hvalid v hv
    have hon : m.on .dodge := Dodge.on_of_valid_step hvalid
    exact (alone_of_request hg hne hp hc hdodged hv hon).symm
  dodged := by
    intro hcode v hv
    rcases hg.of_code_one (hc.trans hcode) with rfl | rfl
    · cases v <;> cases hv
    · cases v <;> first | rfl | cases hv

end Disciplined

/-- The flags of player 2, the requests of both its controllers and the code of `hp`. -/
structure ExclusionInv (g : Game) : Prop where
  phase : ∀ v w, g.regs.anim2.counter v = g.regs.anim2.counter w
  alone : ∀ v w, g.regs.anim2.on v → g.regs.anim2.on w → v = w
  dodged : g.clk.hp.back2 = 1#2 → ∀ v, g.regs.anim2.on v → v = .dodge
  ballSecond : Disciplined g.regs.ballSecond.act g.regs.anim2 g.clk.hp.back2
  ai : Disciplined g.regs.ai.act g.regs.anim2 g.clk.hp.back2
  parked : g.regs.st = false → ∀ v, g.regs.ai.act.request v = false

namespace ExclusionInv

variable {g : Game}

lemma player2 (h : ExclusionInv g) : Disciplined g.regs.player2.act g.regs.anim2 g.clk.hp.back2 := by
  unfold FrameRegs.player2 modeChoose
  split
  · exact h.ballSecond
  · split
    · exact h.ai
    · exact Disciplined.none

/-- Two flags are never up together: one that starts was requested while the others were
seen to be down, and two do not start at once. -/
lemma frame_alone (h : ExclusionInv g) {v w : Voluntary}
    (hv : (g.regs.anim2.step g.regs.player2.act).on v)
    (hw : (g.regs.anim2.step g.regs.player2.act).on w) :
    v = w := by
  have hstart : ∀ u, g.regs.anim2.counter u = 9#5 → g.regs.anim2.counter u ≠ 10#5 := by
    intro u hu
    rw [hu]
    decide
  rcases Animation.on_step hv with hv | ⟨hcv, hv⟩ <;> rcases Animation.on_step hw with hw | ⟨hcw, hw⟩
  · exact h.alone v w hv hw
  -- one flag is up and the other starts: its request has seen the flag
  · exact h.player2.waits w v (hstart w hcw) hw hv
  · exact (h.player2.waits v w (hstart v hcv) hv hw).symm
  · exact h.player2.oneHot.request_eq hv hw

lemma frame_dodged (h : ExclusionInv g) (hc : g.clk.hp.back2 = 1#2) {v : Voluntary}
    (hv : (g.regs.anim2.step g.regs.player2.act).on v) : v = .dodge := by
  rcases Animation.on_step hv with hv | ⟨-, hv⟩
  · exact h.dodged hc v hv
  · exact h.player2.dodged hc v hv

lemma player2Ports_on (g : Game) (keycode keycode1 : BitVec 16) (v : Voluntary) :
    (player2Ports g.regs g.clk keycode keycode1).on v = g.regs.anim2.on v := by
  cases v <;> rfl

lemma frame (h : ExclusionInv g) (keycode keycode1 : BitVec 16) :
    ExclusionInv (g.frame keycode keycode1) where
  phase := by
    intro v w
    change (g.regs.anim2.step g.regs.player2.act).counter v =
      (g.regs.anim2.step g.regs.player2.act).counter w
    rw [Animation.counter_step, Animation.counter_step, h.phase v w]
  alone := fun v w => h.frame_alone
  dodged := fun hc v => h.frame_dodged hc
  ballSecond := h.ballSecond.frame (BallSecond.branch_guarded _) (BallSecond.branch_ne_enter _)
    (player2Ports_on g keycode keycode1) rfl h.phase h.dodged
  ai := by
    cases hst : g.regs.st with
    | false =>
      have hai : (g.frame keycode keycode1).regs.ai = g.regs.ai := FrameRegs.ai_frame_of_not_st hst
      rw [hai]
      exact Disciplined.of_quiet h.ai.oneHot (h.parked hst)
    | true =>
      have hai : (g.frame keycode keycode1).regs.ai.act = _ := FrameRegs.ai_act_frame hst
      rw [hai]
      exact h.ai.frame (AI.branch_guarded _ _) (AI.branch_ne_enter _ _)
        (player2Ports_on g keycode keycode1) rfl h.phase h.dodged
  parked := by
    intro hst'
    have hst := FrameRegs.not_st_of_frame hst'
    have hai : (g.frame keycode keycode1).regs.ai = g.regs.ai := FrameRegs.ai_frame_of_not_st hst
    rw [hai]
    exact h.parked hst

/-- A code that appears at a `Clk` edge finds the victim in its dodge. -/
lemma tick (h : ExclusionInv g) : ExclusionInv g.tick := by
  have hcode : g.tick.clk.hp.back2 = 1#2 → g.clk.hp.back2 = 1#2 ∨ g.regs.anim2.dodge.valid :=
    (Hp.code_one_step _ _).2
  have hdisc : ∀ a, Disciplined a g.regs.anim2 g.clk.hp.back2 →
      Disciplined a g.regs.anim2 g.tick.clk.hp.back2 := by
    intro a ha
    refine { ha with dodged := ?_ }
    intro hc
    exact (hcode hc).elim ha.dodged ha.dodging
  refine ⟨h.phase, h.alone, ?_, hdisc _ h.ballSecond, hdisc _ h.ai, h.parked⟩
  intro hc v hv
  rcases hcode hc with hc | hvalid
  · exact h.dodged hc v hv
  · exact h.alone v .dodge hv (Dodge.on_of_valid hvalid)

lemma reset (h : ExclusionInv g) : ExclusionInv g.reset where
  phase := h.phase
  alone := h.alone
  dodged := nofun
  ballSecond := Disciplined.standing
  ai := Disciplined.standing
  parked := fun _ v => by cases v <;> rfl

lemma powerUp (s : HpState) : ExclusionInv (Game.powerUp s) where
  phase := fun v w => by cases v <;> cases w <;> rfl
  alone := fun v _ hv => by cases v <;> cases hv
  dodged := nofun
  ballSecond := Disciplined.none
  ai := Disciplined.none
  parked := fun _ v => by cases v <;> rfl

lemma step (g : Game) (e : Event) (h : ExclusionInv g) : ExclusionInv (g.step e) := by
  cases e with
  | tick => exact h.tick
  | frame keycode keycode1 => exact h.frame keycode keycode1
  | reset => exact h.reset

end ExclusionInv

/-- In every run from power-up, at most one of the flags `kick_2`, `fight_2`, `jump_2` and
`dodge_2` is up, whichever controller drives player 2. -/
theorem player2_one_action (s : HpState) (es : List Event) (v w : Voluntary) :
    ¬((run Game.step (Game.powerUp s) es).regs.anim2.on v ∧
      (run Game.step (Game.powerUp s) es).regs.anim2.on w ∧ v ≠ w) := by
  have h := run_invariant ExclusionInv.step es (ExclusionInv.powerUp s)
  rintro ⟨hv, hw, hne⟩
  exact hne (h.alone v w hv hw)

end StickFigureFighting
