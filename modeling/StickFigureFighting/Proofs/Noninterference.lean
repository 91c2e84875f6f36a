import StickFigureFighting.Proofs.KeySets

/-!
# What a match depends on

`ball_second` and `AI` both run all the time, and every controller gets all four key slots.
But once a match is started, the controller of the other mode has no influence on it, and
from the keyboard it takes only which of the keys of its players are pressed.
-/

namespace StickFigureFighting
open Library

def player1Keys : List (BitVec 8) := [0x18, 0x0C, 0x1C, 0x1A, 0x04, 0x07, 0x28]

def player2Keys : List (BitVec 8) := [0x59, 0x5A, 0x62, 0x52, 0x50, 0x4F]

namespace Game

variable (g : Game)

/-- The game without the controller that `mode_choose` does not select. -/
def played : Game :=
  if g.regs.du then ⟨{ g.regs with ai := AI.reset }, { g.clk with gravity2 := Gravity.reset }⟩
  else ⟨{ g.regs with ballSecond := BallSecond.reset }, { g.clk with gravity1 := Gravity.reset }⟩

/-- The keys of those who play. -/
def keys : List (BitVec 8) := if g.regs.du then player1Keys ++ player2Keys else player1Keys

end Game

/-- A pair of events, with the same of the given keys pressed. -/
inductive SameKeys (keys : List (BitVec 8)) : Event × Event → Prop where
  | tick : SameKeys keys (.tick, .tick)
  | frame {keycode keycode1 keycode' keycode1' : BitVec 16}
      (pressed : ∀ code ∈ keys, code ∈ slots keycode keycode1 ↔ code ∈ slots keycode' keycode1') :
      SameKeys keys (.frame keycode keycode1, .frame keycode' keycode1')

/-! ### The controllers and their keys -/

section Keys

variable {p : MoverPorts} {m : Mover} {keycode keycode1 : BitVec 16}

lemma Ball.step_sameKeys
    (hk : ∀ code ∈ player1Keys, (p.withKeys keycode keycode1).key code = p.key code) (b : Ball)
    (ballYMotion : BitVec 10) :
    b.step (p.withKeys keycode keycode1) ballYMotion = b.step p ballYMotion := by
  simp only [player1Keys, List.forall_mem_cons, List.not_mem_nil, false_implies,
    implies_true, and_true] at hk
  obtain ⟨hkick, hfight, hdodge, hjump, hleft, hright, henter⟩ := hk
  have hbr : Ball.branch (p.withKeys keycode keycode1) = Ball.branch p := by
    unfold Ball.branch
    rw [hkick, hfight, hdodge, hjump, hleft, hright, henter]
    rfl
  have hmotion : ∀ br, Ball.motion b.toMover (p.withKeys keycode keycode1) br =
      Ball.motion b.toMover p br := by
    intro br
    cases br with
    | jump =>
      simp only [Ball.motion, hleft, hright]
      rfl
    | _ => rfl
  simp only [Ball.step, hbr, hmotion]

lemma BallSecond.step_sameKeys
    (hk : ∀ code ∈ player2Keys, (p.withKeys keycode keycode1).key code = p.key code)
    (ballYMotion : BitVec 10) :
    BallSecond.step (p.withKeys keycode keycode1) ballYMotion m = BallSecond.step p ballYMotion m := by
  simp only [player2Keys, List.forall_mem_cons, List.not_mem_nil, false_implies,
    implies_true, and_true] at hk
  obtain ⟨hkick, hfight, hdodge, hjump, hleft, hright⟩ := hk
  have hbr : BallSecond.branch (p.withKeys keycode keycode1) = BallSecond.branch p := by
    unfold BallSecond.branch
    rw [hkick, hfight, hdodge, hjump, hleft, hright]
    rfl
  have hmotion : ∀ br, BallSecond.motion m (p.withKeys keycode keycode1) br =
      BallSecond.motion m p br := by
    intro br
    cases br with
    | jump =>
      simp only [BallSecond.motion, hleft, hright]
      rfl
    | _ => rfl
  simp only [BallSecond.step, hbr, hmotion]

lemma MoverPorts.key_withKeys {keycode' keycode1' : BitVec 16} {code : BitVec 8}
    (h : code ∈ slots keycode keycode1 ↔ code ∈ slots keycode' keycode1') :
    (p.withKeys keycode keycode1).key code = (p.withKeys keycode' keycode1').key code := by
  rw [Bool.eq_iff_iff, MoverPorts.key_iff_mem, MoverPorts.key_iff_mem]
  exact h

end Keys

namespace Game

variable {g g' : Game}

/-! ### One player -/

/-- The game with another state of `ball_second` and its `gravity`. -/
def withSecond (g : Game) (m : Mover) (v : Gravity) : Game :=
  ⟨{ g.regs with ballSecond := m }, { g.clk with gravity1 := v }⟩

lemma player2_withSecond (hdu : g.regs.du = false) (m : Mover) (v : Gravity) :
    (g.withSecond m v).regs.player2 = g.regs.player2 := by
  have hdu' : (g.withSecond m v).regs.du = false := hdu
  rw [FrameRegs.player2, FrameRegs.player2, hdu, hdu', modeChoose, modeChoose]
  rfl

lemma tick_withSecond (hdu : g.regs.du = false) (m : Mover) (v : Gravity) :
    ∃ v', (g.withSecond m v).tick = g.tick.withSecond m v' := by
  have hplayer2 := player2_withSecond hdu m v
  refine ⟨(g.withSecond m v).tick.clk.gravity1, ?_⟩
  simp only [tick, ClkRegs.tick, hpPorts, valid1, valid2, FrameRegs.near1, hplayer2]
  rfl

lemma indicator_step_started (i : Indicator) (key : BitVec 8) : i.step true key = i := by
  simp [Indicator.step]

lemma frame_withSecond (hst : g.regs.st) (hdu : g.regs.du = false) (m : Mover) (v : Gravity)
    {keycode keycode1 keycode' keycode1' : BitVec 16}
    (hk : ∀ code ∈ player1Keys, code ∈ slots keycode' keycode1' ↔ code ∈ slots keycode keycode1) :
    ∃ m', (g.withSecond m v).frame keycode' keycode1' = (g.frame keycode keycode1).withSecond m' v := by
  have hplayer2 := player2_withSecond hdu m v
  have hball : g.regs.ball.step ((ballPorts g.regs g.clk keycode keycode1).withKeys keycode' keycode1')
        g.clk.gravity0.ballYMotion =
      g.regs.ball.step (ballPorts g.regs g.clk keycode keycode1) g.clk.gravity0.ballYMotion :=
    Ball.step_sameKeys (fun code hc => MoverPorts.key_withKeys (hk code hc)) _ _
  have hports : ballPorts (g.withSecond m v).regs (g.withSecond m v).clk keycode' keycode1' =
      (ballPorts g.regs g.clk keycode keycode1).withKeys keycode' keycode1' := by
    simp only [ballPorts, hplayer2]
    rfl
  have hst' : (g.withSecond m v).regs.st = true := hst
  rw [FrameRegs.st] at hst
  refine ⟨((g.withSecond m v).frame keycode' keycode1').regs.ballSecond, ?_⟩
  simp only [frame, FrameRegs.frame, hports, hplayer2, hst', indicator_step_started]
  simp only [withSecond, Game.mk.injEq, FrameRegs.mk.injEq, FrameRegs.st, hst,
    indicator_step_started, and_true, true_and]
  exact ⟨hball, rfl⟩

/-! ### Two players -/

/-- The game with another state of `AI` and its `gravity`. -/
def withAi (g : Game) (m : Mover) (v : Gravity) : Game :=
  ⟨{ g.regs with ai := m }, { g.clk with gravity2 := v }⟩

lemma player2_withAi (hdu : g.regs.du) (m : Mover) (v : Gravity) :
    (g.withAi m v).regs.player2 = g.regs.player2 := by
  have hdu' : (g.withAi m v).regs.du = true := hdu
  rw [FrameRegs.player2, FrameRegs.player2, hdu, hdu', modeChoose, modeChoose]
  rfl

lemma tick_withAi (hdu : g.regs.du) (m : Mover) (v : Gravity) :
    ∃ v', (g.withAi m v).tick = g.tick.withAi m v' := by
  have hplayer2 := player2_withAi hdu m v
  refine ⟨(g.withAi m v).tick.clk.gravity2, ?_⟩
  simp only [tick, ClkRegs.tick, hpPorts, valid1, valid2, FrameRegs.near1, hplayer2]
  rfl

lemma frame_withAi (hst : g.regs.st) (hdu : g.regs.du) (m : Mover) (v : Gravity)
    {keycode keycode1 keycode' keycode1' : BitVec 16}
    (hk : ∀ code ∈ player1Keys ++ player2Keys, code ∈ slots keycode' keycode1' ↔
      code ∈ slots keycode keycode1) :
    ∃ m', (g.withAi m v).frame keycode' keycode1' = (g.frame keycode keycode1).withAi m' v := by
  have hplayer2 := player2_withAi hdu m v
  have hball : g.regs.ball.step ((ballPorts g.regs g.clk keycode keycode1).withKeys keycode' keycode1')
        g.clk.gravity0.ballYMotion =
      g.regs.ball.step (ballPorts g.regs g.clk keycode keycode1) g.clk.gravity0.ballYMotion :=
    Ball.step_sameKeys (fun code hc => MoverPorts.key_withKeys (hk code (List.mem_append_left _ hc))) _ _
  have hsecond :
      BallSecond.step ((player2Ports g.regs g.clk keycode keycode1).withKeys keycode' keycode1')
        g.clk.gravity1.ballYMotion g.regs.ballSecond =
      BallSecond.step (player2Ports g.regs g.clk keycode keycode1)
        g.clk.gravity1.ballYMotion g.regs.ballSecond :=
    BallSecond.step_sameKeys
      (fun code hc => MoverPorts.key_withKeys (hk code (List.mem_append_right _ hc))) _
  have hports : ballPorts (g.withAi m v).regs (g.withAi m v).clk keycode' keycode1' =
      (ballPorts g.regs g.clk keycode keycode1).withKeys keycode' keycode1' := by
    simp only [ballPorts, hplayer2]
    rfl
  have hst' : (g.withAi m v).regs.st = true := hst
  rw [FrameRegs.st] at hst
  refine ⟨((g.withAi m v).frame keycode' keycode1').regs.ai, ?_⟩
  simp only [frame, FrameRegs.frame, hports, hplayer2, hst', indicator_step_started]
  simp only [withAi, Game.mk.injEq, FrameRegs.mk.injEq, FrameRegs.st, hst,
    indicator_step_started, and_true]
  exact ⟨hball, hsecond⟩

/-! ### The part that is played -/

lemma played_withSecond (hdu : g.regs.du = false) (m : Mover) (v : Gravity) :
    (g.withSecond m v).played = g.played := by
  have hdu' : (g.withSecond m v).regs.du = false := hdu
  rw [played, played, hdu, hdu']
  rfl

lemma played_withAi (hdu : g.regs.du) (m : Mover) (v : Gravity) : (g.withAi m v).played = g.played := by
  have hdu' : (g.withAi m v).regs.du = true := hdu
  rw [played, played, hdu, hdu']
  rfl

lemma du_played (g : Game) : g.played.regs.du = g.regs.du := by
  rw [played]
  split <;> rfl

lemma eq_withSecond (h : g'.played = g.played) (hdu : g.regs.du = false) :
    g' = g.withSecond g'.regs.ballSecond g'.clk.gravity1 := by
  have hdu' : g'.regs.du = false := by rw [← du_played, h, du_played, hdu]
  rw [played, played, hdu, hdu'] at h
  obtain ⟨⟨_, _, _, _, _, _⟩, ⟨_, _, _, _, _, _⟩⟩ := g
  obtain ⟨⟨_, _, _, _, _, _⟩, ⟨_, _, _, _, _, _⟩⟩ := g'
  simpa [withSecond] using h

lemma eq_withAi (h : g'.played = g.played) (hdu : g.regs.du) :
    g' = g.withAi g'.regs.ai g'.clk.gravity2 := by
  have hdu' : g'.regs.du = true := by rw [← du_played, h, du_played, hdu]
  rw [played, played, hdu, hdu'] at h
  obtain ⟨⟨_, _, _, _, _, _⟩, ⟨_, _, _, _, _, _⟩⟩ := g
  obtain ⟨⟨_, _, _, _, _, _⟩, ⟨_, _, _, _, _, _⟩⟩ := g'
  simpa [withAi] using h

/-- One event of a started match, seen by two games that differ in the hidden controller. -/
lemma played_step (hst : g.regs.st) (h : g'.played = g.played) {e : Event × Event}
    (he : SameKeys g.keys e) :
    (g'.step e.2).played = (g.step e.1).played := by
  cases hdu : g.regs.du with
  | false =>
    rw [eq_withSecond h hdu]
    cases he with
    | tick =>
      obtain ⟨v, hv⟩ := tick_withSecond hdu g'.regs.ballSecond g'.clk.gravity1
      exact (congrArg played hv).trans (played_withSecond (g := g.tick) hdu _ _)
    | frame pressed =>
      rw [keys, hdu] at pressed
      obtain ⟨m, hm⟩ := frame_withSecond hst hdu g'.regs.ballSecond g'.clk.gravity1
        (fun code hc => (pressed code hc).symm)
      refine (congrArg played hm).trans (played_withSecond ?_ _ _)
      rw [frame, FrameRegs.du, FrameRegs.indicator_frame hst]
      exact hdu
  | true =>
    rw [eq_withAi h hdu]
    cases he with
    | tick =>
      obtain ⟨v, hv⟩ := tick_withAi hdu g'.regs.ai g'.clk.gravity2
      exact (congrArg played hv).trans (played_withAi (g := g.tick) hdu _ _)
    | frame pressed =>
      rw [keys, hdu] at pressed
      obtain ⟨m, hm⟩ := frame_withAi hst hdu g'.regs.ai g'.clk.gravity2
        (fun code hc => (pressed code hc).symm)
      refine (congrArg played hm).trans (played_withAi ?_ _ _)
      rw [frame, FrameRegs.du, FrameRegs.indicator_frame hst]
      exact hdu

lemma keys_step (hst : g.regs.st) {e : Event × Event} (he : SameKeys g.keys e) :
    (g.step e.1).regs.st ∧ (g.step e.1).keys = g.keys := by
  cases he with
  | tick => exact ⟨hst, rfl⟩
  | frame pressed =>
    refine ⟨FrameRegs.st_frame hst, ?_⟩
    simp only [step, keys, frame, FrameRegs.du, FrameRegs.indicator_frame hst]
    rfl

end Game

/-- Two runs of a started match agree in everything that is played, at all times, if they
begin alike and the same keys of its players are pressed: nothing else on the keyboard, no
order of the keys and nothing in the hidden controller matters. -/
theorem match_depends_on_keys (g g' : Game) (hst : g.regs.st) (hsame : g'.played = g.played)
    (es : List (Event × Event)) (hes : ∀ e ∈ es, SameKeys g.keys e) :
    (run Game.step g' (es.map Prod.snd)).played = (run Game.step g (es.map Prod.fst)).played := by
  induction es generalizing g g' with
  | nil => exact hsame
  | cons e es ih =>
    have he := hes e List.mem_cons_self
    obtain ⟨hst', hkeys⟩ := Game.keys_step hst he
    apply ih _ _ hst' (Game.played_step hst hsame he)
    intro d hd
    rw [hkeys]
    exact hes d (List.mem_cons_of_mem _ hd)

def startedMatch : Game :=
  run Game.step (Game.powerUp .normal).reset (heldShort 1 0x004B 0 ++ heldShort 1 0x0028 0)

/-- The events of `heldShort` twice, with other key bytes in the second run. -/
def heldTwice (n : ℕ) (keycode keycode1 keycode' keycode1' : BitVec 16) : List (Event × Event) :=
  (List.replicate n ((.frame keycode keycode1, .frame keycode' keycode1') ::
    List.replicate 4 (.tick, .tick))).flatten

lemma sameKeys_heldTwice {keys : List (BitVec 8)} {n : ℕ}
    {keycode keycode1 keycode' keycode1' : BitVec 16}
    (pressed : ∀ code ∈ keys, code ∈ slots keycode keycode1 ↔ code ∈ slots keycode' keycode1') :
    ∀ e ∈ heldTwice n keycode keycode1 keycode' keycode1', SameKeys keys e := by
  simp only [heldTwice, List.mem_flatten, List.mem_replicate]
  rintro e ⟨es, ⟨-, rfl⟩, he⟩
  rcases List.mem_cons.1 he with rfl | htick
  · exact .frame pressed
  · rw [List.eq_of_mem_replicate htick]
    exact .tick

/-- Player 1 walks up to `AI`, kicks and jumps. In the second run its keys are in other slots,
and player 2 presses keys all the while. -/
def walkAndKick : List (Event × Event) :=
  heldTwice 42 0x0007 0 0x5059 0x0752 ++ (heldTwice 40 0x0018 0 0x1850 0x5A62 ++
    heldTwice 12 0x071A 0 0x4F1A 0x0007)

theorem match_depends_on_keys_walk :
    (run Game.step (startedMatch.frame 0x0707 0x5059) (walkAndKick.map Prod.snd)).played =
      (run Game.step (startedMatch.frame 0x0007 0) (walkAndKick.map Prod.fst)).played := by
  have hsame : (startedMatch.frame 0x0707 0x5059).played = (startedMatch.frame 0x0007 0).played := by
    decide +kernel
  have hkeys : (startedMatch.frame 0x0007 0).keys = player1Keys := by decide +kernel
  apply match_depends_on_keys _ _ (by decide +kernel) hsame walkAndKick
  rw [hkeys]
  simp only [walkAndKick, List.forall_mem_append]
  exact ⟨sameKeys_heldTwice (by decide), sameKeys_heldTwice (by decide), sameKeys_heldTwice (by decide)⟩

end StickFigureFighting
