import StickFigureFighting.Proofs.ActionGuards
import StickFigureFighting.Proofs.Guard
import StickFigureFighting.Proofs.KeySets
import StickFigureFighting.Proofs.Recoil
import StickFigureFighting.Proofs.Rest

/-!
# How long a hit stuns its victim

As long as a figure is drawn knocked back, its controller takes no action. The `back` machine
is set off by the code of a hit and then runs on for up to 52 frames after the code has
gone. Only the Enter key keeps it going, since it freezes the action flags.
-/

namespace StickFigureFighting
open Library

lemma Back.todo_of_on {m : Back} (h : m.on) : m.todo ≠ 0 := by
  cases hs : m.state with
  | stand => simp [on, hs] at h
  | back1 | back2 => simp [todo, hs]

/-! ### What asks for a knock-back -/

lemma Ball.back_of_branch {p : MoverPorts} {a : Actions} (hkey : p.key 0x28 = false)
    (h : ((Ball.branch p).actions a).back) : p.backCode = 2#2 := by
  rcases Branch.back_actions h with hbr | ⟨hbr, -⟩
  · unfold Ball.branch at hbr
    repeat' split at hbr
    all_goals first | assumption | cases hbr
  · simp only [Ball.branch, hkey, Bool.false_eq_true, if_false] at hbr
    repeat' split at hbr
    all_goals cases hbr

lemma BallSecond.back_of_branch {p : MoverPorts} {a : Actions}
    (h : ((BallSecond.branch p).actions a).back) :
    p.backCode = 2#2 := by
  have hbr := (Branch.back_actions h).resolve_right (fun h => BallSecond.branch_ne_enter p h.1)
  unfold BallSecond.branch at hbr
  repeat' split at hbr
  all_goals first | assumption | cases hbr

lemma AI.back_of_branch {m : Mover} {p : MoverPorts} {a : Actions}
    (h : ((AI.branch m p).actions a).back) :
    p.backCode = 2#2 := by
  have hbr := (Branch.back_actions h).resolve_right (fun h => AI.branch_ne_enter m p h.1)
  unfold AI.branch at hbr
  repeat' split at hbr
  all_goals first | assumption | cases hbr

/-- The Enter key is down. -/
def Event.enter : Event → Bool
  | .tick | .reset => false
  | .frame keycode keycode1 => (slots keycode keycode1).contains 0x28

namespace Game

/-- Before the match, `AI` stands as `Reset` has left it. -/
def AiIdle (g : Game) : Prop := g.regs.st = false → g.regs.ai.act.back = false

lemma AiIdle.step {g : Game} (h : g.AiIdle) (e : Event) : (g.step e).AiIdle := by
  cases e with
  | tick => exact h
  | frame keycode keycode1 =>
    intro hst
    have hbefore := FrameRegs.not_st_of_frame hst
    change (g.regs.frame g.clk keycode keycode1).ai.act.back = false
    rw [FrameRegs.ai_frame_of_not_st hbefore]
    exact h hbefore
  | reset => exact fun _ => rfl

/-- Without Enter, a frame edge asks for a knock-back only if it sees the code of a hit. -/
lemma code_of_act_back {g : Game} (hai : g.AiIdle) {keycode keycode1 : BitVec 16}
    (henter : Event.enter (.frame keycode keycode1) = false) {v : Player}
    (h : ((g.frame keycode keycode1).regs.act v).back) : g.clk.hp.code v ≠ 0#2 := by
  have htwo : g.clk.hp.code v = 2#2 := by
    cases v with
    | one =>
      have hkey : (ballPorts g.regs g.clk keycode keycode1).key 0x28 = false := by
        rw [← Bool.not_eq_true, MoverPorts.key_iff_mem]
        intro (hmem : (0x28 : BitVec 8) ∈ slots keycode keycode1)
        have hpressed : Event.enter (.frame keycode keycode1) = true := List.contains_iff_mem.2 hmem
        rw [henter] at hpressed
        cases hpressed
      exact Ball.back_of_branch hkey h
    | two =>
      change (g.regs.frame g.clk keycode keycode1).player2.act.back at h
      unfold FrameRegs.player2 modeChoose at h
      split at h
      · exact BallSecond.back_of_branch (p := player2Ports g.regs g.clk keycode keycode1) h
      · split at h
        · cases hst : g.regs.st with
          | true =>
            rw [Player2.ofMover, FrameRegs.ai_act_frame hst] at h
            exact AI.back_of_branch (p := player2Ports g.regs g.clk keycode keycode1) h
          | false =>
            rw [Player2.ofMover, FrameRegs.ai_frame_of_not_st hst, hai hst] at h
            cases h
        · cases h
  rw [htwo]
  decide

/-- 1 for a frame edge at which the controller of a player finds its figure knocked back. -/
def stuns (v : Player) (g : Game) (e : Event) : ℕ :=
  if e.isFrame ∧ (g.regs.animation v).back.on then 1 else 0

lemma recoilLeft_of_no_code {v : Player} {g : Game} (hcode : g.clk.hp.code v = 0#2) :
    recoilLeft v g = 0 := by
  rcases recoilLeft_cases v g with hzero | ⟨k, -, -, hne, -⟩
  · exact hzero
  · exact absurd hcode hne

/-- How much longer a figure can be knocked back without another hit. -/
def stunLeft (v : Player) (g : Game) : ℕ :=
  if recoilLeft v g ≠ 0 then recoilLeft v g + 53
  else if (g.regs.act v).back then 53 else Back.counted.rank (g.regs.animation v).back

structure Stunning (g : Game) (n : ℕ) : Prop extends Recoiling g n where
  inRange : g.InRange
  aiIdle : g.AiIdle

namespace Stunning

variable {g : Game} {n : ℕ} (v : Player)

lemma back_inRange (h : Stunning g n) : Back.counted.InRange (g.regs.animation v).back := by
  cases v with
  | one => exact h.inRange.anim1.back
  | two => exact h.inRange.anim2.back

lemma back_rank_le (h : Stunning g n) : Back.counted.rank (g.regs.animation v).back ≤ 52 :=
  (h.back_inRange v).rank_le (Back.todo_le _)

lemma step (h : Stunning g n) (e : Event) (hn : Spaced n e) : Stunning (g.step e) (countTicks n e) :=
  ⟨h.toRecoiling.step e hn, h.inRange.step e, h.aiIdle.step e⟩

lemma stunLeft_le (h : Stunning g n) : stunLeft v g ≤ 64 := by
  have hrecoil := recoilLeft_le h.counting v
  have hrank := h.back_rank_le v
  unfold stunLeft
  repeat' split
  all_goals omega

lemma pay_tick (h : Stunning g n) : stunLeft v g.tick ≤ stunLeft v g + 64 * struck v g .tick := by
  have hpay := h.toRecoiling.pay_tick v
  have hrank := h.back_rank_le v
  have hle := recoilLeft_le h.tick.counting v
  have hregs : g.tick.regs = g.regs := rfl
  unfold stunLeft
  rw [hregs]
  repeat' split
  all_goals omega

lemma pay_frame (h : Stunning g n) (hn : 4 ≤ n) {keycode keycode1 : BitVec 16}
    (henter : Event.enter (.frame keycode keycode1) = false) :
    stunLeft v (g.frame keycode keycode1) + stuns v g (.frame keycode keycode1) ≤ stunLeft v g := by
  have hpay := h.toRecoiling.pay_frame hn keycode keycode1 v
  have hnext : (g.frame keycode keycode1).InRange := h.inRange.step (.frame keycode keycode1)
  have hrank := h.back_rank_le v
  have hstun : stuns v g (.frame keycode keycode1) ≤ 1 := by
    unfold stuns
    split <;> omega
  have hback : Back.counted.step (g.regs.act v).back (g.regs.animation v).back =
      ((g.frame keycode keycode1).regs.animation v).back := by
    cases v <;> rfl
  have hrank' := ((h.back_inRange v).step (g.regs.act v).back).rank_le (Back.todo_le _)
  have hidle := fun hreq : (g.regs.act v).back = false => (h.back_inRange v).rank_step hreq
  rw [hback] at hrank' hidle
  change Back.counted.rank _ ≤ 52 at hrank'
  by_cases hcode : g.clk.hp.code v = 0#2
  · -- nothing asks for a knock-back any more
    have hzero : recoilLeft v g = 0 := recoilLeft_of_no_code hcode
    have hzero' : recoilLeft v (g.frame keycode keycode1) = 0 := recoilLeft_of_no_code hcode
    have hact : ((g.frame keycode keycode1).regs.act v).back = false := by
      by_contra hno
      rw [Bool.not_eq_false] at hno
      exact code_of_act_back h.aiIdle henter hno hcode
    unfold stunLeft
    rw [hzero, hzero', hact]
    cases hreq : (g.regs.act v).back with
    | true =>
      simp only [ne_eq, not_true_eq_false, if_false, if_true, Bool.false_eq_true]
      omega
    | false =>
      have hdown := hidle hreq
      simp only [ne_eq, not_true_eq_false, if_false, Bool.false_eq_true]
      by_cases hon : (g.regs.animation v).back.on
      · have hpos := (h.back_inRange v).one_le_rank (Back.todo_of_on hon)
        omega
      · have hno : stuns v g (.frame keycode keycode1) = 0 := if_neg (fun h => hon h.2)
        omega
  · have hone : recoils v g (.frame keycode keycode1) = 1 := if_pos ⟨rfl, hcode⟩
    rw [hone] at hpay
    unfold stunLeft
    repeat' split
    all_goals omega

lemma pay_reset (h : Stunning g n) : stunLeft v g.reset ≤ stunLeft v g := by
  have hzero : recoilLeft v g.reset = 0 := rfl
  have hact : (g.reset.regs.act v).back = false := by
    cases v with
    | one => rfl
    | two =>
      change (FrameRegs.player2 g.reset.regs).act.back = false
      unfold FrameRegs.player2 modeChoose
      repeat' split
      all_goals rfl
  have hback : (g.reset.regs.animation v).back = (g.regs.animation v).back := by cases v <;> rfl
  have hrank := h.back_rank_le v
  unfold stunLeft
  rw [hzero, hact, hback]
  repeat' split
  all_goals first | omega | contradiction

lemma pay (h : Stunning g n) (e : Event) (hn : Spaced n e) (he : e.enter = false) :
    stunLeft v (g.step e) + stuns v g e ≤ stunLeft v g + 64 * struck v g e := by
  cases e with
  | tick =>
    have hno : stuns v g .tick = 0 := if_neg (fun h => by cases h.1)
    rw [hno]
    exact h.pay_tick v
  | frame keycode keycode1 =>
    exact (h.pay_frame v hn he).trans (Nat.le_add_right _ _)
  | reset =>
    have hno : stuns v g .reset = 0 := if_neg (fun h => by cases h.1)
    rw [hno]
    exact (h.pay_reset v).trans (Nat.le_add_right _ _)

end Stunning

end Game

/-- In any stretch, without Enter, of a run from `Reset` with at least four edges of `Clk`
between frame edges: a player is drawn knocked back in at most 64 frames for each hit in
this stretch, and in 64 more. -/
theorem stun_bounded {g : Game} (hg : g.Reachable) {es es' : List Event}
    (hspaced : Meets countTicks Spaced 4 (es ++ es')) (henter : ∀ e ∈ es', e.enter = false)
    (v : Player) :
    total Game.step (Game.stuns v) (run Game.step g.reset es) es' ≤
      64 * (Game.hitsBy v.other (run Game.step g.reset es) es' + 1) := by
  obtain ⟨hbefore, hafter⟩ := meets_append.1 hspaced
  have hany : Meets Game.step (fun _ _ => True) g.reset es := meets_of_forall (fun _ _ => trivial) _
  have hstart : Game.Stunning g.reset 4 :=
    ⟨Game.Recoiling.reset hg.counting 4, hg.inRange.step .reset, fun _ => rfl⟩
  have hthen := hany.invariant_monitor (I := Game.Stunning)
    (fun g n e h _ hn => h.step e hn) hbefore hstart
  have hok : Meets Game.step (fun _ e => e.enter = false) (run Game.step g.reset es) es' :=
    meets_of_forall henter _
  have htotal := hok.total_le_monitor (I := Game.Stunning) (φ := Game.stunLeft v)
    (fun g n e h _ hn => h.step e hn)
    (fun g n e h he hn => h.pay v e hn he) hafter hthen
  have hleft := hthen.stunLeft_le v
  rw [total_mul] at htotal
  rw [Game.hitsBy_eq_total]
  change _ ≤ 64 * (total Game.step (Game.struck v) _ _ + 1)
  omega

theorem stun_bounded_firstKick :
    total Game.step (Game.stuns .two) (run Game.step (Game.powerUp .normal).reset firstKick) restOfKick ≤
      64 * (Game.hitsBy (Player.other .two)
        (run Game.step (Game.powerUp .normal).reset firstKick) restOfKick + 1) := by
  have hreach : (Game.powerUp .normal).Reachable := Game.reachable_run .normal []
  have hspaced : Meets countTicks Spaced 4 (firstKick ++ restOfKick) := by decide +kernel
  have henter : ∀ e ∈ restOfKick, e.enter = false := by decide +kernel
  exact stun_bounded hreach hspaced henter .two

end StickFigureFighting
