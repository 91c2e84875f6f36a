import StickFigureFighting.Library.Runs
import StickFigureFighting.Proofs.ClockSettling

/-!
# Reachable states

The states of the composed game from power-up, under every order of `Clk` edges, frame
edges, key bytes and `Reset`. The first invariant is that no controller ever raises two
action flags, which is what the facing machines and the animation machines rely on.
-/

namespace StickFigureFighting
open Library

namespace Game

/-- The state `hp` wakes up in is left open, see `ClkRegs.powerUp`. -/
def Reachable : Game → Prop := Library.Reachable (fun g => ∃ s, g = powerUp s) step

lemma Reachable.induction {I : Game → Prop} (hpower : ∀ s, I (powerUp s))
    (hstep : ∀ g e, I g → I (g.step e)) {g : Game} (hg : g.Reachable) : I g := by
  refine Library.Reachable.invariant ?_ hstep hg
  rintro _ ⟨s, rfl⟩
  exact hpower s

lemma reachable_run (s : HpState) (es : List Event) : (run step (powerUp s) es).Reachable :=
  ⟨powerUp s, es, ⟨s, rfl⟩, rfl⟩

lemma meets_no_reset (g : Game) {es : List Event} (hes : .reset ∉ es) :
    Meets step (fun _ e => e ≠ .reset) g es := by
  apply meets_of_forall (p := fun e : Event => e ≠ .reset)
  rintro e he rfl
  exact hes he

/-- The rules of a match hold in every run from `Reset`. -/
lemma hpInv_run (g : Game) (es : List Event) : HpInv (run step g.reset es).clk.hp := by
  apply run_invariant (I := fun g : Game => HpInv g.clk.hp) _ es hpInv_reset
  rintro g (_ | _ | _) h
  · exact h.step _
  · exact h
  · exact hpInv_reset

end Game

/-- The key bytes held for `n` frames of sixteen `Clk` edges each. -/
def held (n : ℕ) (keycode keycode1 : BitVec 16) : List Event :=
  (List.replicate n (.frame keycode keycode1 :: List.replicate 16 .tick)).flatten

/-- The key bytes held for `n` frames of four `Clk` edges each. -/
def heldShort (n : ℕ) (keycode keycode1 : BitVec 16) : List Event :=
  (List.replicate n (.frame keycode keycode1 :: List.replicate 4 .tick)).flatten

lemma reset_notMem_heldShort (n : ℕ) (keycode keycode1 : BitVec 16) :
    .reset ∉ heldShort n keycode keycode1 := by
  simp [heldShort]

/-! ### What `start` gates -/

namespace FrameRegs

variable {f : FrameRegs} {c : ClkRegs} {keycode keycode1 : BitVec 16}

lemma ai_frame_of_not_st (hst : f.st = false) : (f.frame c keycode keycode1).ai = f.ai := by
  simp [FrameRegs.frame, AI.step, hst]

lemma ai_act_frame (hst : f.st) : (f.frame c keycode keycode1).ai.act =
    (AI.branch f.ai (player2Ports f c keycode keycode1)).actions f.ai.act := by
  simp [FrameRegs.frame, AI.step, hst, Mover.advance]

lemma st_frame (hst : f.st) : (f.frame c keycode keycode1).st := by
  have hstart : f.ball.start = true := hst
  simp [FrameRegs.frame, FrameRegs.st, Ball.step, hstart]

lemma not_st_of_frame (hst : (f.frame c keycode keycode1).st = false) : f.st = false := by
  by_contra hne
  rw [Bool.not_eq_false] at hne
  rw [st_frame hne] at hst
  cases hst

lemma indicator_frame (hst : f.st) : (f.frame c keycode keycode1).indicator = f.indicator := by
  simp [FrameRegs.frame, Indicator.step, hst]

/-- `ball_second` drives player 2 or may still be selected: a frame edge does not make this
true. -/
lemma selectable_of_frame
    (h : (f.frame c keycode keycode1).st = false ∨ (f.frame c keycode keycode1).du) :
    f.st = false ∨ f.du := by
  cases hst : f.st with
  | false => exact Or.inl rfl
  | true =>
    rw [st_frame hst, FrameRegs.du, indicator_frame hst] at h
    exact Or.inr (h.resolve_left Bool.true_eq_false_eq_False)

end FrameRegs

/-! ### Action flags are one-hot -/

lemma atMostOne_none : Actions.none.AtMostOne := by decide

lemma atMostOne_standing : Actions.standing.AtMostOne := by decide

lemma Branch.actions_atMostOne {a : Actions} (ha : a.AtMostOne) (br : Branch) :
    (br.actions a).AtMostOne := by
  cases br with
  | enter => exact ha
  | _ => simp [Branch.actions, Actions.AtMostOne, Actions.standing, Actions.none]

structure OneHot (f : FrameRegs) : Prop where
  ball : f.ball.act.AtMostOne
  ballSecond : f.ballSecond.act.AtMostOne
  ai : f.ai.act.AtMostOne

namespace OneHot

lemma player2 {f : FrameRegs} (h : OneHot f) : f.player2.act.AtMostOne := by
  unfold FrameRegs.player2 modeChoose
  split
  · exact h.ballSecond
  · split
    · exact h.ai
    · exact atMostOne_none

lemma frame {f : FrameRegs} (h : OneHot f) (c : ClkRegs) (keycode keycode1 : BitVec 16) :
    OneHot (f.frame c keycode keycode1) where
  ball := Branch.actions_atMostOne h.ball _
  ballSecond := Branch.actions_atMostOne h.ballSecond _
  ai := by
    simp only [FrameRegs.frame, AI.step]
    split
    · exact Branch.actions_atMostOne h.ai _
    · exact h.ai

lemma reset (f : FrameRegs) : OneHot f.reset :=
  ⟨atMostOne_standing, atMostOne_standing, atMostOne_standing⟩

theorem of_reachable {g : Game} (hg : g.Reachable) : OneHot g.regs := by
  refine Game.Reachable.induction (I := fun g => OneHot g.regs) ?_ ?_ hg
  · intro s
    exact ⟨atMostOne_none, atMostOne_none, atMostOne_none⟩
  · rintro g (_ | ⟨keycode, keycode1⟩ | _) h
    · exact h
    · exact h.frame g.clk keycode keycode1
    · exact reset g.regs

end OneHot

/-- In a reachable state nothing more happens between frame edges after nine edges of `Clk`. -/
theorem reachable_settles {g : Game} (hg : g.Reachable) : SettlesIn Game.tick 9 g := by
  have hone := OneHot.of_reachable hg
  have hs := ClkRegs.settles hone.ball hone.player2 g.clk
  rw [settlesIn_iff] at hs ⊢
  rw [Game.tick_iterate, Game.tick, hs]

end StickFigureFighting
