import StickFigureFighting.Library.Accounts
import StickFigureFighting.Library.Countdown
import StickFigureFighting.Proofs.Contact
import StickFigureFighting.Proofs.KnockBack
import StickFigureFighting.Proofs.MatchEnd

/-!
# After the knock-out

The controllers then take their win branch at every frame edge, so that nothing is requested
any more. Every machine runs through what it has begun and rests; the longest way is that
of a jump with its wait. From then on no figure moves to the side.
-/

namespace StickFigureFighting
open Library

/-! ### The machines without a request -/

/-- The last `n` stages of a machine are timed by its second counter, the others by the first. -/
def timer {α : Type} (n : ℕ) (counter counter1 : α) (k : ℕ) : α := if k ≤ n then counter1 else counter

lemma timer_wrapTo {w v n k : ℕ} (top : BitVec w) (top1 : BitVec v) {c : BitVec w} {c1 : BitVec v}
    (h : timer n c.toNat c1.toNat k ≤ timer n top.toNat top1.toNat k) :
    timer n (wrapTo top c).toNat (wrapTo top1 c1).toNat k =
      if timer n c.toNat c1.toNat k = timer n top.toNat top1.toNat k then 0
      else timer n c.toNat c1.toNat k + 1 := by
  unfold timer at h ⊢
  by_cases hk : k ≤ n
  · simp only [if_pos hk] at h ⊢
    exact toNat_wrapTo_of_le h
  · simp only [if_neg hk] at h ⊢
    exact toNat_wrapTo_of_le h

lemma timer_zero (n k : ℕ) : timer n 0 0 k = 0 := ite_self 0

lemma timer_pos {n counter counter1 : ℕ} (h : 0 < counter) (h1 : 0 < counter1) (k : ℕ) :
    0 < timer n counter counter1 k := by
  unfold timer
  split
  · exact h1
  · exact h

section Goes

variable {c : BitVec 5} {c1 : BitVec 6}

lemma succ_eq_ten : c.toNat + 1 = 10 ↔ c = 9#5 := by bv_omega

lemma succ_eq_twentyNine : c.toNat + 1 = 29 ↔ c = 28#5 := by bv_omega

lemma succ_eq_forty : c1.toNat + 1 = 40 ↔ c1 = 39#6 := by bv_omega

end Goes

def Strike.todo (m : Strike) : ℕ :=
  match m.state with
  | .stand => 0
  | .strike1 => 3
  | .strike2 => 2
  | .wait => 1

lemma Strike.todo_le (m : Strike) : m.todo ≤ 3 := by
  cases h : m.state <;> simp [todo, h]

lemma Strike.stand_of_todo {m : Strike} (h : m.todo = 0) : m.state = .stand := by
  cases hs : m.state <;> simp [todo, hs] at h ⊢

def Strike.counted : CountedMachine Strike where
  step := Strike.step
  todo := Strike.todo
  top := timer 1 10 29
  count k m := timer 1 m.counter.toNat m.counter1.toNat k
  top_pos := timer_pos (by decide) (by decide)
  counts _ _ _ h := timer_wrapTo 10#5 29#5 h
  goes := by
    rintro ⟨s, c, c1⟩
    cases s with
    | stand => simp [step, nextState, todo]
    | strike1 | strike2 => by_cases hc : c = 9#5 <;> simp [step, nextState, todo, timer, succ_eq_ten, hc]
    | wait => by_cases hc : c1 = 28#5 <;> simp [step, nextState, todo, timer, succ_eq_twentyNine, hc]

def Jump.todo (m : Jump) : ℕ :=
  match m.state with
  | .stand => 0
  | .jump1 => 5
  | .jump2 => 4
  | .jump3 => 3
  | .jump4 => 2
  | .wait => 1

lemma Jump.todo_le (m : Jump) : m.todo ≤ 5 := by
  cases h : m.state <;> simp [todo, h]

lemma Jump.stand_of_todo {m : Jump} (h : m.todo = 0) : m.state = .stand := by
  cases hs : m.state <;> simp [todo, hs] at h ⊢

def Jump.counted : CountedMachine Jump where
  step := Jump.step
  todo := Jump.todo
  top := timer 1 10 29
  count k m := timer 1 m.counter.toNat m.counter1.toNat k
  top_pos := timer_pos (by decide) (by decide)
  counts _ _ _ h := timer_wrapTo 10#5 29#5 h
  goes := by
    rintro ⟨s, c, c1⟩
    cases s with
    | stand => simp [step, nextState, todo]
    | jump1 | jump2 | jump3 | jump4 =>
      by_cases hc : c = 9#5 <;> simp [step, nextState, todo, timer, succ_eq_ten, hc]
    | wait => by_cases hc : c1 = 28#5 <;> simp [step, nextState, todo, timer, succ_eq_twentyNine, hc]

def Dodge.todo (m : Dodge) : ℕ :=
  match m.state with
  | .stand => 0
  | .dodge1 => 3
  | .dodge2 => 2
  | .wait => 1

lemma Dodge.todo_le (m : Dodge) : m.todo ≤ 3 := by
  cases h : m.state <;> simp [todo, h]

lemma Dodge.stand_of_todo {m : Dodge} (h : m.todo = 0) : m.state = .stand := by
  cases hs : m.state <;> simp [todo, hs] at h ⊢

/-- The dodge itself ends in the phase in which the wait ends. -/
def Dodge.counted : CountedMachine Dodge where
  step := Dodge.step
  todo := Dodge.todo
  top := timer 2 10 29
  count k m := timer 2 m.counter.toNat m.counter1.toNat k
  top_pos := timer_pos (by decide) (by decide)
  counts _ _ _ h := timer_wrapTo 10#5 29#5 h
  goes := by
    rintro ⟨s, c, c1⟩
    cases s with
    | stand => simp [step, nextState, todo]
    | dodge1 => by_cases hc : c = 9#5 <;> simp [step, nextState, todo, timer, succ_eq_ten, hc]
    | dodge2 | wait =>
      by_cases hc : c1 = 28#5 <;> simp [step, nextState, todo, timer, succ_eq_twentyNine, hc]

def Back.todo (m : Back) : ℕ :=
  match m.state with
  | .stand => 0
  | .back1 => 2
  | .back2 => 1

lemma Back.todo_le (m : Back) : m.todo ≤ 2 := by
  cases h : m.state <;> simp [todo, h]

lemma Back.stand_of_todo {m : Back} (h : m.todo = 0) : m.state = .stand := by
  cases hs : m.state <;> simp [todo, hs] at h ⊢

def Back.counted : CountedMachine Back where
  step := Back.step
  todo := Back.todo
  top := timer 1 10 40
  count k m := timer 1 m.counter.toNat m.counter1.toNat k
  top_pos := timer_pos (by decide) (by decide)
  counts _ _ _ h := timer_wrapTo 10#5 40#6 h
  goes := by
    rintro ⟨s, c, c1⟩
    cases s with
    | stand => simp [step, nextState, todo]
    | back1 => by_cases hc : c = 9#5 <;> simp [step, nextState, todo, timer, succ_eq_ten, hc]
    | back2 => by_cases hc : c1 = 39#6 <;> simp [step, nextState, todo, timer, succ_eq_forty, hc]

/-! ### The machines of a figure -/

namespace Animation

structure InRange (m : Animation) : Prop where
  kick : Strike.counted.InRange m.kick
  fight : Strike.counted.InRange m.fight
  jump : Jump.counted.InRange m.jump
  dodge : Dodge.counted.InRange m.dodge
  back : Back.counted.InRange m.back

/-- The frames until all five machines rest. -/
def rank (m : Animation) : ℕ :=
  max (Strike.counted.rank m.kick) (max (Strike.counted.rank m.fight)
    (max (Jump.counted.rank m.jump) (max (Dodge.counted.rank m.dodge) (Back.counted.rank m.back))))

/-- No machine is in the middle of an action or of the wait after it. -/
structure Resting (m : Animation) : Prop where
  kick : m.kick.state = .stand
  fight : m.fight.state = .stand
  jump : m.jump.state = .stand
  dodge : m.dodge.state = .stand
  back : m.back.state = .stand

variable {m : Animation}

lemma InRange.rank_le (h : m.InRange) : m.rank ≤ 74 := by
  have hkick : Strike.counted.rank m.kick ≤ 52 := h.kick.rank_le (Strike.todo_le _)
  have hfight : Strike.counted.rank m.fight ≤ 52 := h.fight.rank_le (Strike.todo_le _)
  have hjump : Jump.counted.rank m.jump ≤ 74 := h.jump.rank_le (Jump.todo_le _)
  have hdodge : Dodge.counted.rank m.dodge ≤ 71 := h.dodge.rank_le (Dodge.todo_le _)
  have hback : Back.counted.rank m.back ≤ 52 := h.back.rank_le (Back.todo_le _)
  unfold rank
  omega

lemma InRange.step (h : m.InRange) (a : Actions) : (m.step a).InRange :=
  ⟨h.kick.step _, h.fight.step _, h.jump.step _, h.dodge.step _, h.back.step _⟩

/-- A frame without a request brings every machine nearer to its rest. -/
lemma InRange.rank_step (h : m.InRange) {a : Actions} (ha : Quiet a) : (m.step a).rank ≤ m.rank - 1 := by
  have hkick := h.kick.rank_step (ha.request .kick)
  have hfight := h.fight.rank_step (ha.request .fight)
  have hjump := h.jump.rank_step (ha.request .jump)
  have hdodge := h.dodge.rank_step (ha.request .dodge)
  have hback := h.back.rank_step ha.back
  have hmax : ∀ {x y x' y' : ℕ}, x' ≤ x - 1 → y' ≤ y - 1 → max x' y' ≤ max x y - 1 := by
    intro x y x' y' hx hy
    omega
  exact hmax hkick (hmax hfight (hmax hjump (hmax hdodge hback)))

lemma InRange.resting (h : m.InRange) (hrank : m.rank = 0) : m.Resting := by
  unfold rank at hrank
  exact ⟨Strike.stand_of_todo (h.kick.todo_eq_zero (by omega)),
    Strike.stand_of_todo (h.fight.todo_eq_zero (by omega)),
    Jump.stand_of_todo (h.jump.todo_eq_zero (by omega)),
      Dodge.stand_of_todo (h.dodge.todo_eq_zero (by omega)),
    Back.stand_of_todo (h.back.todo_eq_zero (by omega))⟩

end Animation

/-! ### The game after the match -/

namespace Game

/-- No controller requests or moves anything. -/
def Calm (g : Game) : Prop :=
  (g.regs.ball.act = Actions.standing ∧ g.regs.ball.ballXMotion = 0#10) ∧
    (g.regs.ballSecond.act = Actions.standing ∧ g.regs.ballSecond.ballXMotion = 0#10) ∧
    g.regs.ai.act = Actions.standing ∧ g.regs.ai.ballXMotion = 0#10

instance (g : Game) : Decidable g.Calm := inferInstanceAs (Decidable (_ ∧ _))

lemma Calm.player2_act {g : Game} (h : g.Calm) : Quiet g.regs.player2.act := by
  obtain ⟨-, ⟨hsecond, -⟩, hai, -⟩ := h
  unfold FrameRegs.player2 modeChoose
  split
  · rw [Player2.ofMover, hsecond]
    exact quiet_standing
  · split
    · rw [Player2.ofMover, hai]
      exact quiet_standing
    · exact quiet_none

lemma Over.calm_frame {g : Game} (h : g.Over) (keycode keycode1 : BitVec 16) :
    (g.frame keycode keycode1).Calm := by
  have hwin := h.win
  have hball : Ball.branch (ballPorts g.regs g.clk keycode keycode1) = .win := by
    simp [Ball.branch, ballPorts, hwin]
  have hsecond : BallSecond.branch (player2Ports g.regs g.clk keycode keycode1) = .win := by
    simp [BallSecond.branch, player2Ports, hwin]
  refine ⟨?_, ?_, ?_⟩
  · simp [Game.frame, FrameRegs.frame, Ball.step, hball, Mover.advance, Ball.motion, Branch.actions]
  · simp [Game.frame, FrameRegs.frame, BallSecond.step, hsecond, Mover.advance,
      BallSecond.motion, Branch.actions]
  · rw [h.ai_frame]
    exact ⟨rfl, rfl⟩

structure InRange (g : Game) : Prop where
  anim1 : g.regs.anim1.InRange
  anim2 : g.regs.anim2.InRange

lemma InRange.step {g : Game} (h : g.InRange) (e : Event) : (g.step e).InRange := by
  cases e with
  | tick | reset => exact ⟨h.anim1, h.anim2⟩
  | frame keycode keycode1 => exact ⟨h.anim1.step _, h.anim2.step _⟩

lemma Reachable.inRange {g : Game} (hg : g.Reachable) : g.InRange := by
  refine hg.induction ?_ (fun g e h => h.step e)
  intro s
  refine ⟨⟨?_, ?_, ?_, ?_, ?_⟩, ⟨?_, ?_, ?_, ?_, ?_⟩⟩ <;>
    exact fun k => (timer_zero _ k).trans_le (Nat.zero_le _)

/-- The frames until all is at rest. The first one may still start a requested action. -/
def unrest (g : Game) : ℕ := if g.Calm then max g.regs.anim1.rank g.regs.anim2.rank else 75

def AtRest (g : Game) : Prop := g.Calm ∧ g.regs.anim1.rank = 0 ∧ g.regs.anim2.rank = 0

lemma Calm.rank_frame {g : Game} (h : g.Calm) (hr : g.InRange) (keycode keycode1 : BitVec 16) :
    (g.frame keycode keycode1).regs.anim1.rank ≤ g.regs.anim1.rank - 1 ∧
      (g.frame keycode keycode1).regs.anim2.rank ≤ g.regs.anim2.rank - 1 := by
  have hball : Quiet g.regs.ball.act := by
    rw [h.1.1]
    exact quiet_standing
  exact ⟨hr.anim1.rank_step hball, hr.anim2.rank_step h.player2_act⟩

/-- What a step of the game keeps, once the match is over. -/
def OverInv (g : Game) : Prop := g.Over ∧ g.InRange

lemma OverInv.step {g : Game} (h : g.OverInv) {e : Event} (he : e ≠ .reset) : (g.step e).OverInv := by
  cases e with
  | reset => exact absurd rfl he
  | tick => exact ⟨h.1.tick, h.2.step .tick⟩
  | frame keycode keycode1 => exact ⟨h.1.frame keycode keycode1, h.2.step (.frame keycode keycode1)⟩

lemma AtRest.step {g : Game} (h : g.AtRest) (hi : g.OverInv) {e : Event} (he : e ≠ .reset) :
    (g.step e).AtRest := by
  cases e with
  | reset => exact absurd rfl he
  | tick => exact h
  | frame keycode keycode1 =>
    obtain ⟨hrank1, hrank2⟩ := h.1.rank_frame hi.2 keycode keycode1
    rw [h.2.1] at hrank1
    rw [h.2.2] at hrank2
    exact ⟨hi.1.calm_frame keycode keycode1, Nat.le_zero.1 hrank1, Nat.le_zero.1 hrank2⟩

lemma unrest_step {g : Game} (hi : g.OverInv) {e : Event} (he : e ≠ .reset) (hno : ¬g.AtRest) :
    (g.step e).unrest + (if e.isFrame then 1 else 0) ≤ g.unrest := by
  cases e with
  | reset => exact absurd rfl he
  | tick => exact Nat.le_refl _
  | frame keycode keycode1 =>
    have hcalm := hi.1.calm_frame keycode keycode1
    change (g.frame keycode keycode1).unrest + 1 ≤ _
    rw [unrest, if_pos hcalm, unrest]
    by_cases hnow : g.Calm
    · obtain ⟨hrank1, hrank2⟩ := hnow.rank_frame hi.2 keycode keycode1
      have hpos : ¬(g.regs.anim1.rank = 0 ∧ g.regs.anim2.rank = 0) := fun h => hno ⟨hnow, h⟩
      rw [if_pos hnow]
      omega
    · have hle1 := (hi.2.anim1.step g.regs.ball.act).rank_le
      have hle2 := (hi.2.anim2.step g.regs.player2.act).rank_le
      change (g.frame keycode keycode1).regs.anim1.rank ≤ 74 at hle1
      change (g.frame keycode keycode1).regs.anim2.rank ≤ 74 at hle2
      rw [if_neg hnow]
      omega

lemma modeChoose_column (du sin : Bool) {m m' a a' : Mover} (hm : m.ballXPos = m'.ballXPos)
    (ha : a.ballXPos = a'.ballXPos) :
    (modeChoose du sin m a).ballxsig1 = (modeChoose du sin m' a').ballxsig1 := by
  cases du with
  | true => exact hm
  | false =>
    cases sin with
    | true => exact ha
    | false => rfl

/-- At rest the figures stay in their columns. -/
lemma AtRest.column_step {g : Game} (h : g.AtRest) (hi : g.OverInv) {e : Event}
    (he : e ≠ .reset) (q : Player) :
    (g.step e).regs.column q = g.regs.column q := by
  cases e with
  | reset => exact absurd rfl he
  | tick => rfl
  | frame keycode keycode1 =>
    obtain ⟨⟨hball, hsecond, hai⟩, -⟩ := h
    have hball' : (g.frame keycode keycode1).regs.ball.ballXPos = g.regs.ball.ballXPos := by
      show g.regs.ball.ballXPos + g.regs.ball.ballXMotion = _
      rw [hball.2, BitVec.add_zero]
    have hsecond' : (g.frame keycode keycode1).regs.ballSecond.ballXPos =
        g.regs.ballSecond.ballXPos := by
      show g.regs.ballSecond.ballXPos + g.regs.ballSecond.ballXMotion = _
      rw [hsecond.2, BitVec.add_zero]
    have hai' : (g.frame keycode keycode1).regs.ai.ballXPos = g.regs.ai.ballXPos := by
      rw [hi.1.ai_frame]
      show g.regs.ai.ballXPos + g.regs.ai.ballXMotion = _
      rw [hai.2, BitVec.add_zero]
    have hmode : (g.frame keycode keycode1).regs.indicator = g.regs.indicator :=
      FrameRegs.indicator_frame hi.1.st
    cases q with
    | one => exact congrArg BitVec.toNat hball'
    | two =>
      have hdu : (g.frame keycode keycode1).regs.du = g.regs.du := congrArg Indicator.dual hmode
      have hsin : (g.frame keycode keycode1).regs.sin = g.regs.sin := congrArg Indicator.single hmode
      show ((g.frame keycode keycode1).regs.player2.ballxsig1).toNat = g.regs.player2.ballxsig1.toNat
      rw [FrameRegs.player2, FrameRegs.player2, hdu, hsin,
        modeChoose_column g.regs.du g.regs.sin hsecond' hai']

end Game

/-- From frame 76 after the end of a match to the next `Reset`, whatever is pressed: no
machine of the two figures is in an action or in the wait after it, and the figures stay in
their columns. -/
theorem rests_after_match {g : Game} (hg : g.Reachable) (ho : g.Over) {es : List Event}
    (hes : .reset ∉ es)
    (hlong : 76 ≤ es.countP Event.isFrame) {es' : List Event} (hes' : .reset ∉ es') :
    (run Game.step g (es ++ es')).regs.anim1.Resting ∧ (run Game.step g (es ++ es')).regs.anim2.Resting ∧
      ∀ q, (run Game.step g (es ++ es')).regs.column q = (run Game.step g es).regs.column q := by
  have hok := Game.meets_no_reset g hes
  have hinv : g.OverInv := ⟨ho, hg.inRange⟩
  have hunrest : g.unrest ≤ 75 := by
    have hle1 := hg.inRange.anim1.rank_le
    have hle2 := hg.inRange.anim2.rank_le
    unfold Game.unrest
    split <;> omega
  have hover := hok.invariant (I := Game.OverInv) (fun g e hi he => Game.OverInv.step hi he) hinv
  have hrest : (run Game.step g es).AtRest := by
    apply hok.eventually (I := Game.OverInv) (φ := Game.unrest)
      (fun g e hi he => Game.OverInv.step hi he)
      (fun g e hi he hr => Game.AtRest.step hr hi he)
        (fun g e hi he hno _ => Game.unrest_step hi he hno) hinv
    rw [total_countP]
    omega
  rw [run_append]
  generalize run Game.step g es = s at hover hrest ⊢
  have hend := (Game.meets_no_reset s hes').invariant
    (I := fun t => t.OverInv ∧ t.AtRest ∧ ∀ q, t.regs.column q = s.regs.column q)
    (fun t e ht he => ⟨ht.1.step he, ht.2.1.step ht.1 he,
      fun q => (ht.2.1.column_step ht.1 he q).trans (ht.2.2 q)⟩)
    ⟨hover, hrest, fun _ => rfl⟩
  obtain ⟨hi, hr, hcolumn⟩ := hend
  exact ⟨hi.2.anim1.resting hr.2.1, hi.2.anim2.resting hr.2.2, hcolumn⟩

/-- The left key held down after the kick that decides the match. -/
theorem rests_after_kickMatch :
    (run Game.step kickMatch (heldShort 76 0x0004 0 ++ heldShort 9 0x0018 0)).regs.anim2.Resting := by
  obtain ⟨es, -, -, hrun⟩ := kickMatch_run
  have hreach : kickMatch.Reachable := by
    rw [hrun]
    exact Game.reachable_run .normal (.reset :: es)
  have hover : kickMatch.Over := ⟨kickMatch_won.1, Or.inl kickMatch_won.2.2.1⟩
  have hlong : 76 ≤ (heldShort 76 0x0004 0).countP Event.isFrame := by rw [countP_heldShort]
  exact (rests_after_match hreach hover (reset_notMem_heldShort 76 0x0004 0) hlong
    (reset_notMem_heldShort 9 0x0018 0)).2.1

end StickFigureFighting
