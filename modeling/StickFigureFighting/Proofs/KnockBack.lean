import StickFigureFighting.Proofs.ActionGuards

/-!
# Knock-back and the victim's own actions

A knock-back clears the victim's action register, but the animation machines have no
input that ends an action early. So the two overlap when the hit lands on a victim in
action, and when the victim starts an action in the one frame in which the knock-back is
requested but not yet drawn. Without these two, nobody is knocked back and in action.
-/

namespace StickFigureFighting
open Library

instance Voluntary.decidableForall (P : Voluntary → Prop) [DecidablePred P] : Decidable (∀ v, P v) :=
  decidable_of_iff (P .kick ∧ P .fight ∧ P .jump ∧ P .dodge)
    ⟨fun h v => by cases v <;> simp only [h], fun h => ⟨h _, h _, h _, h _⟩⟩

/-- The knock-back branch finds no action drawn or starting, and the frame after it starts
none. `a` is the victim's action register and `r` the one that drives its machines. -/
def CleanHit (a r : Actions) (m : Animation) (br : Branch) : Prop :=
  (br = .back2 → ∀ v, m.on v = false ∧ ¬(m.counter v = 9#5 ∧ r.request v)) ∧
    (a.back ∧ m.back.on = false → ∀ v : Voluntary, br ≠ v.branch)

instance (a r : Actions) (m : Animation) (br : Branch) : Decidable (CleanHit a r m br) :=
  inferInstanceAs (Decidable (_ ∧ _))

structure Quiet (a : Actions) : Prop where
  back : a.back = false
  request : ∀ v, a.request v = false

lemma quiet_none : Quiet Actions.none := ⟨rfl, fun v => by cases v <;> rfl⟩

lemma quiet_standing : Quiet Actions.standing := ⟨rfl, fun v => by cases v <;> rfl⟩

/-- The flags of one figure: knocked back or in action. -/
def Apart (m : Animation) : Prop := m.back.on → ∀ v, m.on v = false

/-- A requested or drawn knock-back excludes actions and their requests, and a dodged hit
finds none of it. -/
structure Interrupted (a : Actions) (m : Animation) (code : BitVec 2) : Prop where
  flags : a.back ∨ m.back.on → ∀ v, m.on v = false
  requests : a.back ∨ m.back.on → ∀ v, a.request v = false
  dodged : code = 1#2 → a.back = false ∧ m.back.on = false

namespace Interrupted

variable {a r : Actions} {m : Animation} {code code' : BitVec 2} {p : MoverPorts} {br : Branch}

lemma apart (h : Interrupted a m code) : Apart m := fun hon => h.flags (Or.inr hon)

lemma of_quiet (ha : Quiet a) (hm : Apart m) (hc : code = 1#2 → m.back.on = false) :
    Interrupted a m code where
  flags := by
    rintro (hb | hb)
    · rw [ha.back] at hb
      cases hb
    · exact hm hb
  requests := fun _ => ha.request
  dodged := fun h => ⟨ha.back, hc h⟩

/-- Between two frame edges only the code changes, to 1 only for a victim in its dodge. -/
lemma tick (h : Interrupted a m code) (hc : code' = 1#2 → code = 1#2 ∨ m.dodge.valid) :
    Interrupted a m code' := by
  refine { h with dodged := ?_ }
  intro hcode
  rcases hc hcode with hcode | hvalid
  · exact h.dodged hcode
  · have hon : m.on .dodge := Dodge.on_of_valid hvalid
    have hflags := fun hb => h.flags hb .dodge
    rw [hon] at hflags
    simpa using hflags

/-- The machines are driven by the register itself or by a quiet one. -/
lemma back_of_step (hr : r = a ∨ Quiet r) (hon : (m.step r).back.on) : a.back ∨ m.back.on := by
  rcases Back.on_step hon with hon | hb
  · exact Or.inr hon
  · rcases hr with rfl | hr
    · exact Or.inl hb
    · rw [hr.back] at hb
      cases hb

lemma off_step (h : Interrupted a m code) (hr : r = a ∨ Quiet r) (hb : a.back ∨ m.back.on)
    (v : Voluntary) :
    (m.step r).on v = false := by
  have hreq : r.request v = false := by
    rcases hr with rfl | hr
    · exact h.requests hb v
    · exact hr.request v
  by_contra hon
  rw [Bool.not_eq_false] at hon
  rcases Animation.on_step hon with hon | ⟨-, hreq'⟩
  · rw [h.flags hb v] at hon
    cases hon
  · rw [hreq] at hreq'
    cases hreq'

lemma frame (h : Interrupted a m code) (hr : r = a ∨ Quiet r) (hg : Guarded p br)
    (hclean : CleanHit a r m br) (hback : p.backOn = m.back.on) (hc : p.backCode = code) :
    Interrupted (br.actions a) (m.step r) code := by
  have hcause : (br.actions a).back ∨ (m.step r).back.on → br = .back2 ∨ a.back ∨ m.back.on := by
    rintro (hb | hon)
    · exact (Branch.back_actions hb).imp_right (fun he => Or.inl he.2)
    · exact Or.inr (back_of_step hr hon)
  refine ⟨?_, ?_, ?_⟩
  · intro hb v
    rcases hcause hb with hbr | hb
    · obtain ⟨hoff, hstart⟩ := hclean.1 hbr v
      by_contra hon
      rw [Bool.not_eq_false] at hon
      rcases Animation.on_step hon with hon | hs
      · rw [hoff] at hon
        cases hon
      · exact hstart hs
    · exact h.off_step hr hb v
  · intro hb v
    by_contra hreq
    rw [Bool.not_eq_false] at hreq
    rcases hcause hb with rfl | hb
    · cases v <;> cases hreq
    · rcases Branch.request_actions hreq with hbr | ⟨hbr, -⟩ | ⟨-, hreq⟩
      · -- the guard sees no knock-back flag, so only its request is up
        have hfree := hg.free v hbr
        simp only [MoverPorts.free, hback, Bool.and_eq_true, Bool.not_eq_true'] at hfree
        have hab : a.back := hb.resolve_right (by rw [hfree.2]; exact Bool.false_ne_true)
        exact hclean.2 ⟨hab, hfree.2⟩ v hbr
      · obtain ⟨hab, hon⟩ := h.dodged (hc.symm.trans (hg.code_one hbr))
        rw [hab, hon] at hb
        simp at hb
      · rw [h.requests hb v] at hreq
        cases hreq
  · intro hcode
    obtain ⟨hab, hon⟩ := h.dodged hcode
    constructor
    · rcases hg.of_code_one (hc.trans hcode) with rfl | rfl <;> rfl
    · by_contra hon'
      rw [Bool.not_eq_false] at hon'
      have hb := back_of_step hr hon'
      rw [hab, hon] at hb
      simp at hb

end Interrupted

/-! ### The game -/

/-- The frame edge is clean for player 1, for `ball_second` while it drives player 2 or may
still be selected, and for `AI` while it drives player 2. -/
def HitSafe (g : Game) : Event → Prop
  | .tick | .reset => True
  | .frame keycode keycode1 =>
    CleanHit g.regs.ball.act g.regs.ball.act g.regs.anim1
      (Ball.branch (ballPorts g.regs g.clk keycode keycode1)) ∧
    (g.regs.st = false ∨ g.regs.du →
      CleanHit g.regs.ballSecond.act g.regs.player2.act g.regs.anim2
        (BallSecond.branch (player2Ports g.regs g.clk keycode keycode1))) ∧
    (g.regs.st ∧ g.regs.du = false ∧ g.regs.sin →
      CleanHit g.regs.ai.act g.regs.player2.act g.regs.anim2
        (AI.branch g.regs.ai (player2Ports g.regs g.clk keycode keycode1)))

instance (g : Game) : (e : Event) → Decidable (HitSafe g e)
  | .tick | .reset => isTrue trivial
  | .frame _ _ => inferInstanceAs (Decidable (_ ∧ _ ∧ _))

structure KnockBackInv (g : Game) : Prop where
  ball : Interrupted g.regs.ball.act g.regs.anim1 g.clk.hp.back1
  ballSecond : g.regs.st = false ∨ g.regs.du →
    Interrupted g.regs.ballSecond.act g.regs.anim2 g.clk.hp.back2
  ai : g.regs.st → g.regs.du = false → g.regs.sin →
    Interrupted g.regs.ai.act g.regs.anim2 g.clk.hp.back2
  parked : g.regs.st = false → Quiet g.regs.ai.act
  player2 : Apart g.regs.anim2

namespace KnockBackInv

variable {g : Game} {keycode keycode1 : BitVec 16}

/-- Before the start, or with two players, the machines of player 2 follow `ball_second` or
nobody. -/
lemma driver (h : KnockBackInv g) (hsel : g.regs.st = false ∨ g.regs.du) :
    g.regs.player2.act = g.regs.ballSecond.act ∨ Quiet g.regs.player2.act := by
  unfold FrameRegs.player2 modeChoose
  split
  · exact Or.inl rfl
  · rename_i hd
    split
    · exact Or.inr (h.parked (hsel.resolve_right hd))
    · exact Or.inr quiet_none

lemma player2_act_single (hd : g.regs.du = false) (hs : g.regs.sin) :
    g.regs.player2.act = g.regs.ai.act := by
  simp [FrameRegs.player2, modeChoose, Player2.ofMover, hd, hs]

lemma frame_ballSecond (h : KnockBackInv g) (hsel : g.regs.st = false ∨ g.regs.du)
    (hs : HitSafe g (.frame keycode keycode1)) :
    Interrupted (g.frame keycode keycode1).regs.ballSecond.act (g.frame keycode keycode1).regs.anim2
      g.clk.hp.back2 :=
  (h.ballSecond hsel).frame (h.driver hsel) (BallSecond.branch_guarded _) (hs.2.1 hsel) rfl rfl

lemma frame_ai (h : KnockBackInv g) (hst : g.regs.st) (hd : g.regs.du = false) (hsin : g.regs.sin)
    (hs : HitSafe g (.frame keycode keycode1)) :
    Interrupted (g.frame keycode keycode1).regs.ai.act (g.frame keycode keycode1).regs.anim2
      g.clk.hp.back2 := by
  have hai : (g.frame keycode keycode1).regs.ai.act = _ := FrameRegs.ai_act_frame hst
  rw [hai]
  exact (h.ai hst hd hsin).frame (Or.inl (player2_act_single hd hsin)) (AI.branch_guarded _ _)
    (hs.2.2 ⟨hst, hd, hsin⟩) rfl rfl

lemma frame_unselected (h : KnockBackInv g) (hd : g.regs.du = false) (hsin : g.regs.sin = false) :
    Apart (g.frame keycode keycode1).regs.anim2 := by
  have hq : g.regs.player2.act = Actions.none := by simp [FrameRegs.player2, modeChoose, hd, hsin]
  intro hon v
  change (g.regs.anim2.step g.regs.player2.act).back.on = true at hon
  change (g.regs.anim2.step g.regs.player2.act).on v = false
  rw [hq] at hon ⊢
  have hb : g.regs.anim2.back.on :=
    (Interrupted.back_of_step (Or.inl rfl) hon).resolve_left Bool.false_ne_true
  have hi : Interrupted Actions.none g.regs.anim2 0#2 :=
    Interrupted.of_quiet quiet_none h.player2 nofun
  exact hi.off_step (Or.inl rfl) (Or.inr hb) v

lemma frame_player2 (h : KnockBackInv g) (hs : HitSafe g (.frame keycode keycode1)) :
    Apart (g.frame keycode keycode1).regs.anim2 := by
  by_cases hsel : g.regs.st = false ∨ g.regs.du
  · exact (h.frame_ballSecond hsel hs).apart
  · rw [not_or, Bool.not_eq_false, Bool.not_eq_true] at hsel
    cases hsin : g.regs.sin with
    | true => exact (h.frame_ai hsel.1 hsel.2 hsin hs).apart
    | false => exact h.frame_unselected hsel.2 hsin

lemma frame (h : KnockBackInv g) (hs : HitSafe g (.frame keycode keycode1)) :
    KnockBackInv (g.frame keycode keycode1) where
  ball := h.ball.frame (Or.inl rfl) (Ball.branch_guarded _) hs.1 rfl rfl
  ballSecond := by
    intro hsel'
    exact h.frame_ballSecond (FrameRegs.selectable_of_frame hsel') hs
  ai := by
    intro _ hd' hsin'
    cases hst : g.regs.st with
    | false =>
      -- the match starts at this edge: `AI` takes over machines that followed `ball_second`
      have hai : (g.frame keycode keycode1).regs.ai = g.regs.ai := FrameRegs.ai_frame_of_not_st hst
      rw [hai]
      exact Interrupted.of_quiet (h.parked hst) (h.frame_player2 hs)
        (fun hc => ((h.frame_ballSecond (Or.inl hst) hs).dodged hc).2)
    | true =>
      rw [Game.frame, FrameRegs.du, FrameRegs.indicator_frame hst] at hd'
      rw [Game.frame, FrameRegs.sin, FrameRegs.indicator_frame hst] at hsin'
      exact h.frame_ai hst hd' hsin' hs
  parked := by
    intro hst'
    have hst := FrameRegs.not_st_of_frame hst'
    have hai : (g.frame keycode keycode1).regs.ai = g.regs.ai := FrameRegs.ai_frame_of_not_st hst
    rw [hai]
    exact h.parked hst
  player2 := h.frame_player2 hs

lemma tick (h : KnockBackInv g) : KnockBackInv g.tick where
  ball := h.ball.tick (Hp.code_one_step _ _).1
  ballSecond := fun hsel => (h.ballSecond hsel).tick (Hp.code_one_step _ _).2
  ai := fun hst hd hs => (h.ai hst hd hs).tick (Hp.code_one_step _ _).2
  parked := h.parked
  player2 := h.player2

lemma reset (h : KnockBackInv g) : KnockBackInv g.reset where
  ball := Interrupted.of_quiet quiet_standing h.ball.apart nofun
  ballSecond := fun _ => Interrupted.of_quiet quiet_standing h.player2 nofun
  ai := fun _ _ _ => Interrupted.of_quiet quiet_standing h.player2 nofun
  parked := fun _ => quiet_standing
  player2 := h.player2

lemma powerUp (s : HpState) : KnockBackInv (Game.powerUp s) where
  ball := Interrupted.of_quiet quiet_none nofun nofun
  ballSecond := fun _ => Interrupted.of_quiet quiet_none nofun nofun
  ai := fun hst => absurd hst Bool.false_ne_true
  parked := fun _ => quiet_none
  player2 := nofun

lemma step (g : Game) (e : Event) (h : KnockBackInv g) (hs : HitSafe g e) : KnockBackInv (g.step e) := by
  cases e with
  | tick => exact h.tick
  | frame keycode keycode1 => exact h.frame hs
  | reset => exact h.reset

end KnockBackInv

/-- In every run from power-up in which hits land on victims out of action, and no victim
starts an action before its knock-back is drawn, a player whose knock-back flag is up has
none of its four action flags up. -/
theorem knockBack_interrupts (s : HpState) (es : List Event)
    (hsafe : Meets Game.step HitSafe (Game.powerUp s) es) :
    Apart (run Game.step (Game.powerUp s) es).regs.anim1 ∧
    Apart (run Game.step (Game.powerUp s) es).regs.anim2 := by
  have h := hsafe.invariant KnockBackInv.step (KnockBackInv.powerUp s)
  exact ⟨h.ball.apart, h.player2⟩

def walkUp : List Event :=
  .reset :: (held 1 0x004E 0 ++ held 1 0x0028 0 ++ held 59 0x5007 0)

/-- Player 1 kicks an opponent who does nothing. -/
theorem knockBack_interrupts_idle :
    (run Game.step (Game.powerUp .normal) (walkUp ++ held 24 0x0018 0)).regs.anim2.back.on ∧
    Apart (run Game.step (Game.powerUp .normal) (walkUp ++ held 24 0x0018 0)).regs.anim2 :=
  ⟨by decide +kernel, (knockBack_interrupts .normal (walkUp ++ held 24 0x0018 0) (by decide +kernel)).2⟩

/-- Both kick at once: player 2 is knocked back and goes on kicking. -/
theorem knockBack_during_kick :
    (run Game.step (Game.powerUp .normal) (walkUp ++ held 18 0x1859 0)).regs.anim2.back.on ∧
    (run Game.step (Game.powerUp .normal) (walkUp ++ held 18 0x1859 0)).regs.anim2.on .kick := by
  decide +kernel

end StickFigureFighting
