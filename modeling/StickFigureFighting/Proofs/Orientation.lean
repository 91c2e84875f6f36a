import StickFigureFighting.Proofs.Heights
import StickFigureFighting.Proofs.ActionGuards

/-!
# Which way the players face

A figure is drawn by its walking flags or by the lines of its facing machine. The machine
resolves a walk into a line at the next action it sees, and it does not see `back`: a
player that is knocked back while walking has no direction until the next action. The
attack tests of `AI` read the facing lines of player 1, so they agree with its own
direction only when both players face the same way.
-/

namespace StickFigureFighting
open Library

inductive Direction where
  | left
  | right
deriving DecidableEq, Repr

/-- The direction of the most recent walk, when `d` was the one before. -/
def Actions.latest (a : Actions) (d : Option Direction) : Option Direction :=
  if a.left then some .left else if a.right then some .right else d

/-- Exactly one side is set, by walking or by the facing line, and it is `d`. -/
def Oriented (a : Actions) (m : Facing) (d : Direction) : Prop :=
  (a.right || m.standRight) = decide (d = .right) ∧ (a.left || m.standLeft) = decide (d = .left)

def Actions.ExactlyOne (a : Actions) : Prop :=
  [a.right, a.left, a.stand, a.kick, a.fight, a.jump, a.dodge, a.back].count true = 1

instance (a : Actions) : Decidable a.ExactlyOne := inferInstanceAs (Decidable (_ = _))

lemma Actions.ExactlyOne.atMostOne {a : Actions} (h : a.ExactlyOne) : a.AtMostOne := h.le

lemma Actions.ExactlyOne.sees {a : Actions} (h : a.ExactlyOne) (hb : a.back = false) (hl : ¬a.left)
    (hr : ¬a.right) : (a.stand || a.kick || a.fight || a.jump || a.dodge) = true := by
  obtain ⟨right, left, stand, kick, fight, jump, dodge, back⟩ := a
  revert right left stand kick fight jump dodge back
  decide

lemma Actions.ExactlyOne.not_back {a : Actions} (h : a.ExactlyOne) (hwalks : a.left ∨ a.right) :
    a.back = false := by
  obtain ⟨right, left, stand, kick, fight, jump, dodge, back⟩ := a
  revert right left stand kick fight jump dodge back
  decide

lemma exactlyOne_standing : Actions.standing.ExactlyOne := by decide

lemma Branch.actions_exactlyOne {a : Actions} (ha : a.ExactlyOne) (br : Branch) :
    (br.actions a).ExactlyOne := by
  cases br with
  | enter => exact ha
  | _ => simp [Branch.actions, Actions.ExactlyOne, Actions.standing, Actions.none]

/-! ### One facing machine -/

namespace Facing

variable {rl rr : Bool} {a a' : Actions} {d : Option Direction} {m : Facing} {n : ℕ}

/-- The machine waits for an action to turn a walk into a line. -/
def Walking (m : Facing) : Prop := m.state = .state2 ∨ m.state = .state3

instance (m : Facing) : Decidable m.Walking := inferInstanceAs (Decidable (_ ∨ _))

/-- The state register has followed the action flags and remembers `d`. -/
def Heading (a : Actions) (d : Option Direction) (m : Facing) : Prop :=
  match m.state with
  | .reset => d = none ∧ a.left = false ∧ a.right = false
  | .state1 => False
  | .state2 => d = some .left ∧ a.left
  | .state3 => d = some .right ∧ a.right
  | .state4 => d = some .left ∧ a.right = false
  | .state5 => d = some .right ∧ a.left = false

lemma heading_congr {m' : Facing} (h : m'.state = m.state) : Heading a d m' ↔ Heading a d m := by
  unfold Heading
  rw [h]

lemma Heading.state_step (h : Heading a d m) (ha : a.AtMostOne) : (m.step rl rr a).state = m.state := by
  obtain ⟨s, l, r⟩ := m
  obtain ⟨hlr, hsteps⟩ := atMostOne_steps ha
  simp only [step, nextState]
  cases s with
  | reset =>
    obtain ⟨-, hl, hr⟩ := h
    simp [hl, hr]
  | state1 => exact h.elim
  | state2 =>
    have hl : a.left := h.2
    simp [hlr hl, hsteps (Or.inl hl)]
  | state3 =>
    have hr : a.right := h.2
    have hl : a.left = false := Bool.eq_false_of_not_eq_true fun hl => by simp [hlr hl] at hr
    simp [hl, hsteps (Or.inr hr)]
  | state4 =>
    have hr : a.right = false := h.2
    simp [hr]
  | state5 =>
    have hl : a.left = false := h.2
    simp [hl]

lemma Heading.step (h : Heading a d m) (ha : a.AtMostOne) : Heading a d (m.step rl rr a) :=
  (heading_congr (h.state_step ha)).2 h

lemma Heading.iterate (h : Heading a d m) (ha : a.AtMostOne) (n : ℕ) :
    Heading a d ((Facing.step rl rr a)^[n] m) := by
  induction n with
  | zero => exact h
  | succ n ih =>
    rw [Function.iterate_succ_apply']
    exact ih.step ha

/-- The lines follow the state one edge later. -/
lemma Heading.oriented {dflt : Direction} (h : Heading a d m) (ha : a.AtMostOne) :
    Oriented a (m.step (dflt = .left) (dflt = .right) a) (d.getD dflt) := by
  obtain ⟨s, l, r⟩ := m
  obtain ⟨hlr, -⟩ := atMostOne_steps ha
  cases s with
  | reset =>
    obtain ⟨rfl, hl, hr⟩ := h
    simp [Oriented, Facing.step, nextOutputs, hl, hr]
  | state1 => exact h.elim
  | state2 =>
    obtain ⟨rfl, hl⟩ := h
    simp [Oriented, Facing.step, nextOutputs, hl, hlr hl]
  | state3 =>
    obtain ⟨rfl, hr⟩ := h
    have hl : a.left = false := Bool.eq_false_of_not_eq_true fun hl => by simp [hlr hl] at hr
    simp [Oriented, Facing.step, nextOutputs, hl, hr]
  | state4 =>
    obtain ⟨rfl, hr⟩ := h
    simp [Oriented, Facing.step, nextOutputs, hr]
  | state5 =>
    obtain ⟨rfl, hl⟩ := h
    simp [Oriented, Facing.step, nextOutputs, hl]

lemma Heading.walks (h : Heading a d m) (hwalk : m.Walking) : a.left ∨ a.right := by
  unfold Heading at h
  rcases hwalk with hs | hs
  · rw [hs] at h
    exact Or.inl h.2
  · rw [hs] at h
    exact Or.inr h.2

/-- Three edges take the machine from one set of action flags to the next, unless the new
action follows a walk and is one the machine does not see. -/
lemma Heading.frame (h : Heading a d m) (ha' : a'.AtMostOne)
    (hwalk : m.Walking → a'.ExactlyOne ∧ a'.back = false) :
    Heading a' (a'.latest d) ((Facing.step rl rr a')^[3] m) := by
  obtain ⟨s, l, r⟩ := m
  obtain ⟨hlr, hsteps⟩ := atMostOne_steps ha'
  by_cases hl : a'.left
  · have hr := hlr hl
    have ho := hsteps (Or.inl hl)
    cases s <;> simp_all [Heading, Facing.step, nextState, Actions.latest]
  by_cases hr : a'.right
  · have ho := hsteps (Or.inr hr)
    cases s <;> simp_all [Heading, Facing.step, nextState, Actions.latest]
  · cases s with
    | state1 => exact h.elim
    | state2 | state3 =>
      -- a walk ends in an action the machine sees
      have ho : (a'.stand || a'.kick || a'.fight || a'.jump || a'.dodge) = true :=
        (hwalk (by simp [Walking])).1.sees (hwalk (by simp [Walking])).2 hl hr
      simp_all [Heading, Facing.step, nextState, Actions.latest]
    | _ => simp_all [Heading, Facing.step, nextState, Actions.latest]

/-- The machine will have followed the flags when `n` edges of `Clk` have become three. -/
def Following (rl rr : Bool) (a : Actions) (d : Option Direction) (n : ℕ) (m : Facing) : Prop :=
  Heading a d ((Facing.step rl rr a)^[3 - n] m)

lemma Following.tick (h : Following rl rr a d n m) (ha : a.AtMostOne) :
    Following rl rr a d (n + 1) (m.step rl rr a) := by
  unfold Following at h ⊢
  by_cases hn : n < 3
  · rw [show 3 - n = (3 - (n + 1)) + 1 by omega, Function.iterate_succ_apply] at h
    exact h
  · rw [show 3 - n = 0 by omega] at h
    rw [show 3 - (n + 1) = 0 by omega]
    exact h.step ha

/-- The flags of an edge of `Clk` are the ones the direction was read from. -/
lemma Following.latest (h : Following rl rr a d n m) (ha : a.AtMostOne) : a.latest d = d := by
  obtain ⟨hlr, -⟩ := atMostOne_steps ha
  unfold Following Heading at h
  unfold Actions.latest
  cases hs : ((Facing.step rl rr a)^[3 - n] m).state <;> rw [hs] at h <;> dsimp only at h <;> grind

lemma Following.heading (h : Following rl rr a d n m) (hn : 3 ≤ n) : Heading a d m := by
  unfold Following at h
  rw [show 3 - n = 0 by omega] at h
  exact h

/-- After `Reset` the state register is right at once, only the lines are a `Clk` edge late. -/
lemma following_reset (ha : a.AtMostOne) (hl : a.left = false) (hr : a.right = false) :
    Following rl rr a none n m.reset :=
  Heading.iterate (m := m.reset) ⟨rfl, hl, hr⟩ ha _

lemma Following.oriented (dflt : Direction) {k : ℕ} (ha : a.AtMostOne) (hk : 4 ≤ k)
    (h : Following (dflt = .left) (dflt = .right) a d n m) :
    Oriented a ((Facing.step (dflt = .left) (dflt = .right) a)^[k] m) (d.getD dflt) := by
  have hsplit : k = (k - 1 - (3 - n) + (3 - n)) + 1 := by omega
  rw [hsplit, Function.iterate_succ_apply', Function.iterate_add_apply]
  exact (Heading.iterate h ha _).oriented ha

end Facing

/-! ### Both players -/

namespace FrameRegs

def Selected (f : FrameRegs) : Prop := f.du ∨ f.sin

instance (f : FrameRegs) : Decidable f.Selected := inferInstanceAs (Decidable (_ ∨ _))

/-- The controllers perform one action each, and `AI` stands until the match starts. -/
structure Acting (f : FrameRegs) : Prop where
  ball : f.ball.act.ExactlyOne
  ballSecond : f.ballSecond.act.ExactlyOne
  ai : f.ai.act.ExactlyOne
  parked : f.st = false → f.ai.act = Actions.standing

namespace Acting

variable {f : FrameRegs} {c : ClkRegs} {keycode keycode1 : BitVec 16}

lemma reset (f : FrameRegs) : Acting f.reset :=
  ⟨exactlyOne_standing, exactlyOne_standing, exactlyOne_standing, fun _ => rfl⟩

lemma frame (h : Acting f) : Acting (f.frame c keycode keycode1) where
  ball := Branch.actions_exactlyOne h.ball _
  ballSecond := Branch.actions_exactlyOne h.ballSecond _
  ai := by
    cases hst : f.st with
    | false =>
      rw [ai_frame_of_not_st hst]
      exact h.ai
    | true =>
      rw [ai_act_frame hst]
      exact Branch.actions_exactlyOne h.ai _
  parked := by
    intro hst'
    have hst := not_st_of_frame hst'
    rw [ai_frame_of_not_st hst]
    exact h.parked hst

lemma player2 (h : Acting f) (hsel : f.Selected) : f.player2.act.ExactlyOne := by
  unfold FrameRegs.player2 modeChoose
  split
  · exact h.ballSecond
  · rename_i hd
    rw [if_pos (hsel.resolve_left hd)]
    exact h.ai

end Acting

lemma selected_frame {f : FrameRegs} {c : ClkRegs} {keycode keycode1 : BitVec 16} (hsel : f.Selected) :
    (f.frame c keycode keycode1).Selected := by
  unfold Selected du sin at hsel ⊢
  simp only [frame, Indicator.step]
  split
  · exact Or.inl rfl
  · split
    · exact Or.inr rfl
    · exact hsel

lemma player2_act_of_not_selected {f : FrameRegs} (hsel : ¬f.Selected) :
    f.player2.act = Actions.none := by
  rw [Selected, not_or] at hsel
  simp [player2, modeChoose, hsel]

end FrameRegs

/-- The directions in which the two players walked last, since the last `Reset`. -/
def watchHeadings (d : Option Direction × Option Direction) (e : Event) (g : Game) :
    Option Direction × Option Direction :=
  if e = .reset then (none, none)
  else (g.regs.ball.act.latest d.1, g.regs.player2.act.latest d.2)

/-- Both players face the way they walked last; at first player 1 faces right and player 2
left. -/
def PlayersOriented (g : Game) (d : Option Direction × Option Direction) : Prop :=
  Oriented g.regs.ball.act g.clk.state0 (d.1.getD .right) ∧
    (g.regs.Selected → Oriented g.regs.player2.act g.clk.state1 (d.2.getD .left))

/-- At the frame edge no player that walks is knocked back. -/
def WalkSafe (g : Game) : Event → Prop
  | .tick | .reset => True
  | .frame keycode keycode1 =>
    (g.clk.state0.Walking → Ball.branch (ballPorts g.regs g.clk keycode keycode1) ≠ .back2) ∧
    (g.clk.state1.Walking → g.regs.du →
      BallSecond.branch (player2Ports g.regs g.clk keycode keycode1) ≠ .back2) ∧
    (g.clk.state1.Walking → g.regs.st → g.regs.du = false →
      AI.branch g.regs.ai (player2Ports g.regs g.clk keycode keycode1) ≠ .back2)

instance (g : Game) : (e : Event) → Decidable (WalkSafe g e)
  | .tick | .reset => isTrue trivial
  | .frame _ _ => inferInstanceAs (Decidable (_ ∧ _ ∧ _))

structure HeadingInv (s : Game × (Option Direction × Option Direction)) (n : ℕ) : Prop where
  ball : Facing.Following false true s.1.regs.ball.act s.2.1 n s.1.clk.state0
  player2 : Facing.Following true false s.1.regs.player2.act s.2.2 n s.1.clk.state1
  acting : s.1.regs.Acting
  waiting : ¬s.1.regs.Selected → s.1.clk.state1.state = .reset

namespace HeadingInv

variable {s : Game × (Option Direction × Option Direction)} {n : ℕ} {keycode keycode1 : BitVec 16}

lemma player2_atMostOne (h : s.1.regs.Acting) : s.1.regs.player2.act.AtMostOne := by
  by_cases hsel : s.1.regs.Selected
  · exact (h.player2 hsel).atMostOne
  · rw [FrameRegs.player2_act_of_not_selected hsel]
    exact atMostOne_none

/-- A walking player 1 starts no knock-back at a safe frame edge. -/
lemma frame_ball (h : HeadingInv s n) (hn : 3 ≤ n) (hsafe : WalkSafe s.1 (.frame keycode keycode1))
    (hwalk : s.1.clk.state0.Walking) : (s.1.frame keycode keycode1).regs.ball.act.back = false := by
  by_contra hback
  rw [Bool.not_eq_false] at hback
  rcases Branch.back_actions hback with hbr | ⟨-, hb⟩
  · exact hsafe.1 hwalk hbr
  · rw [h.acting.ball.not_back ((h.ball.heading hn).walks hwalk)] at hb
    cases hb

/-- Nor does a walking player 2. Before the start `AI` stands, so a player 2 that walks is
`ball_second`, and a change of the mode makes it stand. -/
lemma frame_player2 (h : HeadingInv s n) (hn : 3 ≤ n) (hsafe : WalkSafe s.1 (.frame keycode keycode1))
    (hwalk : s.1.clk.state1.Walking) (hsel : s.1.regs.Selected) :
    (s.1.frame keycode keycode1).regs.player2.act.back = false := by
  have hsel' : (s.1.frame keycode keycode1).regs.Selected := FrameRegs.selected_frame hsel
  have hwalks := (h.player2.heading hn).walks hwalk
  cases hd : s.1.regs.du with
  | true =>
    cases hd' : (s.1.frame keycode keycode1).regs.du with
    | true =>
      have hact : (s.1.frame keycode keycode1).regs.player2.act =
          (s.1.frame keycode keycode1).regs.ballSecond.act := by
        simp [FrameRegs.player2, modeChoose, Player2.ofMover, hd']
      rw [hact]
      by_contra hback
      rw [Bool.not_eq_false] at hback
      rcases Branch.back_actions hback with hbr | ⟨hbr, -⟩
      · exact hsafe.2.1 hwalk hd hbr
      · exact BallSecond.branch_ne_enter _ hbr
    | false =>
      have hst : s.1.regs.st = false := by
        by_contra hst
        rw [Bool.not_eq_false] at hst
        rw [Game.frame, FrameRegs.du, FrameRegs.indicator_frame hst, ← FrameRegs.du, hd] at hd'
        cases hd'
      have hsin' : (s.1.frame keycode keycode1).regs.sin := hsel'.resolve_left (by simp [hd'])
      have hact : (s.1.frame keycode keycode1).regs.player2.act = s.1.regs.ai.act := by
        have hai : (s.1.frame keycode keycode1).regs.ai = s.1.regs.ai := FrameRegs.ai_frame_of_not_st hst
        simp [FrameRegs.player2, modeChoose, Player2.ofMover, hd', hsin', hai]
      rw [hact, h.acting.parked hst]
      rfl
  | false =>
    have hsin : s.1.regs.sin := hsel.resolve_left (by simp [hd])
    have hact : s.1.regs.player2.act = s.1.regs.ai.act := by
      simp [FrameRegs.player2, modeChoose, Player2.ofMover, hd, hsin]
    cases hst : s.1.regs.st with
    | false =>
      rw [hact, h.acting.parked hst] at hwalks
      simp [Actions.standing, Actions.none] at hwalks
    | true =>
      have hact' : (s.1.frame keycode keycode1).regs.player2.act =
          (AI.branch s.1.regs.ai (player2Ports s.1.regs s.1.clk keycode keycode1)).actions
            s.1.regs.ai.act := by
        rw [← FrameRegs.ai_act_frame hst]
        have hind : (s.1.frame keycode keycode1).regs.indicator = s.1.regs.indicator :=
          FrameRegs.indicator_frame hst
        have hd' : (s.1.frame keycode keycode1).regs.du = false := by rw [FrameRegs.du, hind]; exact hd
        have hsin' : (s.1.frame keycode keycode1).regs.sin = true := by
          rw [FrameRegs.sin, hind]
          exact hsin
        simp only [FrameRegs.player2, modeChoose, hd', hsin', Bool.false_eq_true, if_false, if_true]
        rfl
      rw [hact']
      by_contra hback
      rw [Bool.not_eq_false] at hback
      rcases Branch.back_actions hback with hbr | ⟨hbr, -⟩
      · exact hsafe.2.2 hwalk hst hd hbr
      · exact AI.branch_ne_enter _ _ hbr

lemma frame (h : HeadingInv s n) (hn : 3 ≤ n) (hsafe : WalkSafe s.1 (.frame keycode keycode1)) :
    HeadingInv (record Game.step watchHeadings s (.frame keycode keycode1)) 0 where
  ball := by
    apply (h.ball.heading hn).frame h.acting.frame.ball.atMostOne
    intro hwalk
    exact ⟨h.acting.frame.ball, h.frame_ball hn hsafe hwalk⟩
  player2 := by
    apply (h.player2.heading hn).frame
      (player2_atMostOne (s := (s.1.frame keycode keycode1, s.2)) h.acting.frame)
    intro hwalk
    have hsel : s.1.regs.Selected := by
      by_contra hsel
      simp [Facing.Walking, h.waiting hsel] at hwalk
    exact ⟨h.acting.frame.player2 (FrameRegs.selected_frame hsel), h.frame_player2 hn hsafe hwalk hsel⟩
  acting := h.acting.frame
  waiting := by
    intro hsel'
    exact h.waiting (fun hsel => hsel' (FrameRegs.selected_frame hsel))

lemma tick (h : HeadingInv s n) : HeadingInv (record Game.step watchHeadings s .tick) (n + 1) where
  ball := by
    have ha := h.acting.ball.atMostOne
    have htick := h.ball.tick ha
    rw [← h.ball.latest ha] at htick
    exact htick
  player2 := by
    have ha := player2_atMostOne h.acting
    have htick := h.player2.tick ha
    rw [← h.player2.latest ha] at htick
    exact htick
  acting := h.acting
  waiting := by
    intro hsel
    change ¬s.1.regs.Selected at hsel
    have hs := h.waiting hsel
    change (stateMachine1 s.1.regs.player2.act s.1.clk.state1).state = .reset
    rw [FrameRegs.player2_act_of_not_selected hsel]
    simp [stateMachine1, Facing.step, Facing.nextState, hs, Actions.none]

lemma reset (g : Game) (d : Option Direction × Option Direction) (n : ℕ) :
    HeadingInv (record Game.step watchHeadings (g, d) .reset) n where
  ball := Facing.following_reset atMostOne_standing rfl rfl
  player2 := by
    have hact : g.regs.reset.player2.act = Actions.standing ∨
        g.regs.reset.player2.act = Actions.none := by
      unfold FrameRegs.player2 modeChoose
      split
      · exact Or.inl rfl
      · split
        · exact Or.inl rfl
        · exact Or.inr rfl
    change Facing.Following true false g.regs.reset.player2.act none n g.clk.state1.reset
    rcases hact with hact | hact
    · rw [hact]
      exact Facing.following_reset atMostOne_standing rfl rfl
    · rw [hact]
      exact Facing.following_reset atMostOne_none rfl rfl
  acting := FrameRegs.Acting.reset g.regs
  waiting := fun _ => rfl

lemma step (s : Game × (Option Direction × Option Direction)) (n : ℕ) (e : Event) (h : HeadingInv s n)
    (hsafe : WalkSafe s.1 e) (hn : Spaced n e) :
    HeadingInv (record Game.step watchHeadings s e) (countTicks n e) := by
  cases e with
  | tick => exact h.tick
  | frame keycode keycode1 =>
    have hn' : 4 ≤ n := hn
    exact h.frame (by omega) hsafe
  | reset => exact reset s.1 s.2 n

lemma oriented (h : HeadingInv s n) {k : ℕ} (hk : 4 ≤ k) : PlayersOriented (Game.tick^[k] s.1) s.2 := by
  have h0 : Function.Semiconj ClkRegs.state0 (ClkRegs.tick s.1.regs) (stateMachine s.1.regs.ball.act) :=
    fun _ => rfl
  have h1 : Function.Semiconj ClkRegs.state1 (ClkRegs.tick s.1.regs)
      (stateMachine1 s.1.regs.player2.act) :=
    fun _ => rfl
  unfold PlayersOriented
  rw [Game.tick_iterate, h0.iterate_right k s.1.clk, h1.iterate_right k s.1.clk]
  exact ⟨Facing.Following.oriented .right h.acting.ball.atMostOne hk h.ball,
    fun _ => Facing.Following.oriented .left (player2_atMostOne h.acting) hk h.player2⟩

end HeadingInv

/-- In every run from `Reset` with at least four edges of `Clk` between frame edges, in
which nobody is knocked back while walking, both players face the way they walked last,
in every state four or more edges of `Clk` after the last frame edge. -/
theorem players_oriented (g : Game) (es : List Event) (hspaced : Meets countTicks Spaced 4 es)
    (hsafe : Meets Game.step WalkSafe g.reset es) (k : ℕ) (hk : 4 ≤ k) :
    PlayersOriented (Game.tick^[k] (run Game.step g.reset es))
      (run (record Game.step watchHeadings) (g.reset, none, none) es).2 := by
  have hsafe' : Meets (record Game.step watchHeadings) (fun s e => WalkSafe s.1 e)
      (g.reset, none, none) es := (meets_record _).2 hsafe
  have h := hsafe'.invariant_monitor HeadingInv.step hspaced (HeadingInv.reset g (none, none) 4)
  have hrun : (run (record Game.step watchHeadings) (g.reset, none, none) es).1 =
      run Game.step g.reset es := run_record_fst _
  rw [← hrun]
  exact h.oriented hk

/-- Player 1 walks up to the opponent, turns round and kicks. -/
def turnAndKick : List Event :=
  heldShort 1 0x004E 0 ++ heldShort 45 0x5007 0 ++ heldShort 3 0x0004 0 ++ heldShort 12 0x0018 0

theorem players_oriented_turnAndKick :
    PlayersOriented (Game.tick^[4] (run Game.step (Game.powerUp .normal).reset turnAndKick))
      (run (record Game.step watchHeadings) ((Game.powerUp .normal).reset, none, none) turnAndKick).2 :=
  players_oriented (Game.powerUp .normal) turnAndKick (by decide +kernel) (by decide +kernel) 4 le_rfl

/-- Player 1 walks on while player 2 kicks it. -/
def kickedWalking : List Event :=
  heldShort 1 0x004E 0 ++ heldShort 45 0x5007 0 ++ heldShort 21 0x5907 0

lemma not_playersOriented {g : Game} {d : Option Direction × Option Direction}
    (hr : g.regs.ball.act.right = false) (hl : g.regs.ball.act.left = false)
    (hright : g.clk.state0.standRight = false) (hleft : g.clk.state0.standLeft = false) :
    ¬PlayersOriented g d := by
  rintro ⟨⟨hor, hol⟩, -⟩
  rw [hr, hright] at hor
  rw [hl, hleft] at hol
  cases hd : d.1.getD .right <;> simp [hd] at hor hol

/-- Knocked back out of a walk, player 1 has no direction. -/
theorem kickedWalking_not_oriented :
    Meets countTicks Spaced 4 kickedWalking ∧
    (run Game.step (Game.powerUp .normal).reset kickedWalking).regs.ball.act.back ∧
    ∀ d, ¬PlayersOriented (Game.tick^[4] (run Game.step (Game.powerUp .normal).reset kickedWalking)) d :=
  ⟨by decide +kernel, by decide +kernel, fun _ => not_playersOriented (by decide +kernel)
    (by decide +kernel) (by decide +kernel) (by decide +kernel)⟩

end StickFigureFighting
