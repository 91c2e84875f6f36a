import StickFigureFighting.Proofs.ActionGuards

/-!
# Commands are not latched

What a controller does next is read off the positions and the inputs. Of its own motion
and action flags a chain sees nothing, and all branches but one write both anew: Enter,
which only player 1 has, leaves them as they are.
-/

namespace StickFigureFighting

namespace Mover

def SamePosition (m m' : Mover) : Prop := m.ballXPos = m'.ballXPos ∧ m.ballYPos = m'.ballYPos

def SameCommand (m m' : Mover) : Prop := m.ballXMotion = m'.ballXMotion ∧ m.act = m'.act

lemma SamePosition.congr {α : Type} {m m' : Mover} (h : m.SamePosition m') {f : Mover → α}
    (hf : ∀ m dx a, f { m with ballXMotion := dx, act := a } = f m) : f m = f m' := by
  have hm : m = { m' with ballXMotion := m.ballXMotion, act := m.act } := by
    rw [← h.1, ← h.2]
  rw [hm, hf]

end Mover

/-- The tests that lead `ball` to its Enter branch: no win flag, no knock-back code, and
every command key that is down blocked by an animation or a knock-back. -/
def Ball.EnterRead (p : MoverPorts) : Prop :=
  p.key 0x28 ∧ ¬(p.p1win ∨ p.p2win) ∧ p.backCode ≠ 2#2 ∧ p.backCode ≠ 1#2 ∧
    (p.free →
      (p.key 0x18 ∨ p.key 0x0C ∨ p.key 0x04 ∨ p.key 0x07 → p.kickOn ∨ p.fightOn ∨ p.jumpOn ∨ p.dodgeOn) ∧
      (p.key 0x1C → p.kickOn ∨ p.fightOn ∨ p.jumpOn) ∧ (p.key 0x1A → p.kickOn ∨ p.fightOn ∨ p.dodgeOn))

lemma ite_eq_enter_iff {c : Prop} [Decidable c] {br br' : Branch} (hbr : br ≠ .enter) :
    (if c then br else br') = .enter ↔ ¬c ∧ br' = .enter := by
  split
  · rename_i hc
    exact ⟨fun h => absurd h hbr, fun h => absurd hc h.1⟩
  · rename_i hc
    exact ⟨fun h => ⟨hc, h⟩, And.right⟩

lemma Ball.branch_eq_enter_iff (p : MoverPorts) : Ball.branch p = .enter ↔ Ball.EnterRead p := by
  unfold Ball.branch
  iterate 9 rw [ite_eq_enter_iff (by decide)]
  have hlast : (if p.key 0x28 then Branch.enter else .idle) = .enter ↔ p.key 0x28 := by
    cases p.key 0x28 <;> simp
  rw [hlast, Ball.EnterRead]
  simp only [Bool.or_eq_true, Bool.and_eq_true, Bool.not_eq_true']
  grind

lemma Branch.actions_eq {br : Branch} (hbr : br ≠ .enter) (a a' : Actions) :
    br.actions a = br.actions a' := by
  cases br with
  | enter => exact absurd rfl hbr
  | _ => rfl

section Motions

variable {m m' : Mover} (h : m.SamePosition m') (p : MoverPorts) {br : Branch}

include h

lemma Ball.motion_congr (hbr : br ≠ .enter) : Ball.motion m p br = Ball.motion m' p br := by
  apply h.congr (f := fun m => Ball.motion m p br)
  intro m dx a
  cases br with
  | enter => exact absurd rfl hbr
  | _ => rfl

lemma BallSecond.motion_congr (hbr : br ≠ .enter) :
    BallSecond.motion m p br = BallSecond.motion m' p br := by
  apply h.congr (f := fun m => BallSecond.motion m p br)
  intro m dx a
  cases br with
  | enter => exact absurd rfl hbr
  | _ => rfl

lemma AI.motion_congr (hbr : br ≠ .enter) : AI.motion m p br = AI.motion m' p br := by
  apply h.congr (f := fun m => AI.motion m p br)
  intro m dx a
  cases br with
  | enter => exact absurd rfl hbr
  | _ => rfl

/-- `AI` has no keys: its chain reads its own column, but nothing else of its registers. -/
lemma AI.branch_congr : AI.branch m p = AI.branch m' p := by
  apply h.congr (f := fun m => AI.branch m p)
  intro m dx a
  rfl

end Motions

lemma Ball.sameCommand_step_iff {b b' : Ball} (h : b.toMover.SamePosition b'.toMover) (p : MoverPorts)
    (ballYMotion : BitVec 10) :
    (b.step p ballYMotion).toMover.SameCommand (b'.step p ballYMotion).toMover ↔
      ¬Ball.EnterRead p ∨ b.toMover.SameCommand b'.toMover := by
  rw [← Ball.branch_eq_enter_iff]
  by_cases hbr : Ball.branch p = .enter
  · have hkept : (b.step p ballYMotion).toMover.SameCommand (b'.step p ballYMotion).toMover ↔
        b.toMover.SameCommand b'.toMover := by
      simp [Ball.step, Mover.advance, Mover.SameCommand, hbr, Ball.motion, Branch.actions]
    rw [hkept]
    exact ⟨Or.inr, fun hc => hc.resolve_left (fun hne => hne hbr)⟩
  · refine ⟨fun _ => Or.inl hbr, fun _ => ⟨?_, ?_⟩⟩
    · exact Ball.motion_congr h p hbr
    · exact Branch.actions_eq hbr _ _

lemma BallSecond.sameCommand_step {m m' : Mover} (h : m.SamePosition m') (p : MoverPorts)
    (ballYMotion : BitVec 10) :
    (BallSecond.step p ballYMotion m).SameCommand (BallSecond.step p ballYMotion m') :=
  ⟨BallSecond.motion_congr h p (BallSecond.branch_ne_enter p),
    Branch.actions_eq (BallSecond.branch_ne_enter p) _ _⟩

lemma AI.sameCommand_step {m m' : Mover} (h : m.SamePosition m') (p : MoverPorts)
    (ballYMotion : BitVec 10) :
    (AI.step true p ballYMotion m).SameCommand (AI.step true p ballYMotion m') := by
  have hbr := AI.branch_ne_enter m p
  have hsame := AI.branch_congr h p
  simp only [AI.step, if_pos, Mover.SameCommand, Mover.advance, ← hsame]
  exact ⟨AI.motion_congr h p hbr, Branch.actions_eq hbr _ _⟩

/-! ### Released keys -/

structure Released (p : MoverPorts) : Prop where
  keycode : p.keycode = 0#16
  keycode1 : p.keycode1 = 0#16
  back2 : p.backCode ≠ 2#2
  back1 : p.backCode ≠ 1#2

namespace Released

variable {p : MoverPorts} (h : Released p)

include h

lemma key {code : BitVec 8} (hcode : code ≠ 0#8) : p.key code = false := by
  simp [MoverPorts.key, h.keycode, h.keycode1, hcode.symm]

lemma ball_branch : Ball.branch p = .win ∨ Ball.branch p = .idle := by
  unfold Ball.branch
  split
  · exact Or.inl rfl
  · simp [h.back2, h.back1, h.key]

lemma ballSecond_branch : BallSecond.branch p = .win ∨ BallSecond.branch p = .idle := by
  unfold BallSecond.branch
  split
  · exact Or.inl rfl
  · simp [h.back2, h.back1, h.key]

lemma ball_stops (b : Ball) (ballYMotion : BitVec 10) :
    (b.step p ballYMotion).ballXMotion = 0#10 ∧ (b.step p ballYMotion).act = Actions.standing := by
  rcases h.ball_branch with hbr | hbr <;>
    simp [Ball.step, Mover.advance, hbr, Ball.motion, Branch.actions]

lemma ballSecond_stops (m : Mover) (ballYMotion : BitVec 10) :
    (BallSecond.step p ballYMotion m).ballXMotion = 0#10 ∧
      (BallSecond.step p ballYMotion m).act = Actions.standing := by
  rcases h.ballSecond_branch with hbr | hbr <;>
    simp [BallSecond.step, Mover.advance, hbr, BallSecond.motion, Branch.actions]

end Released

/-- The motion and the flags a frame edge leaves behind do not depend on those it finds,
for `ball` exactly when it does not take its Enter branch (or the two agree already), for
`ball_second` and `AI` always. With all keys up both keyboard figures stop and stand. -/
theorem commands_not_latched_iff (b b' : Ball) (m m' : Mover) (p : MoverPorts) (ballYMotion : BitVec 10)
    (hb : b.toMover.SamePosition b'.toMover) (hm : m.SamePosition m') :
    ((b.step p ballYMotion).toMover.SameCommand (b'.step p ballYMotion).toMover ↔
      ¬Ball.EnterRead p ∨ b.toMover.SameCommand b'.toMover) ∧
    (BallSecond.step p ballYMotion m).SameCommand (BallSecond.step p ballYMotion m') ∧
    (AI.step true p ballYMotion m).SameCommand (AI.step true p ballYMotion m') ∧
    (Released p →
      ((b.step p ballYMotion).ballXMotion = 0#10 ∧ (b.step p ballYMotion).act = Actions.standing) ∧
      (BallSecond.step p ballYMotion m).ballXMotion = 0#10 ∧
        (BallSecond.step p ballYMotion m).act = Actions.standing) := by
  refine ⟨?_, ?_, ?_, ?_⟩
  · exact Ball.sameCommand_step_iff hb p ballYMotion
  · exact BallSecond.sameCommand_step hm p ballYMotion
  · exact AI.sameCommand_step hm p ballYMotion
  · intro h
    exact ⟨h.ball_stops b ballYMotion, h.ballSecond_stops m ballYMotion⟩

def runner : Mover := ⟨100#10, 5#10, 300#10, { Actions.none with right := true }⟩

def stander : Mover := ⟨100#10, 0#10, 300#10, Actions.standing⟩

def keysOnly (keycode : BitVec 16) : MoverPorts :=
  ⟨false, false, false, false, false, false, false, false, false, 539#10, 300#10, 0#2, keycode, 0#16⟩

/-- With all keys up nothing of the difference is left, and the runner stops. -/
theorem commands_not_latched_released :
    ((Ball.mk runner true).step (keysOnly 0#16) 0#10).toMover.SameCommand
      ((Ball.mk stander true).step (keysOnly 0#16) 0#10).toMover ∧
    (BallSecond.step (keysOnly 0#16) 0#10 runner).SameCommand
      (BallSecond.step (keysOnly 0#16) 0#10 stander) ∧
    (AI.step true (keysOnly 0#16) 0#10 runner).SameCommand (AI.step true (keysOnly 0#16) 0#10 stander) ∧
    ((Ball.mk runner true).step (keysOnly 0#16) 0#10).ballXMotion = 0#10 := by
  have hpos : runner.SamePosition stander := ⟨rfl, rfl⟩
  have hup : Released (keysOnly 0#16) := ⟨rfl, rfl, by decide, by decide⟩
  have h := commands_not_latched_iff ⟨runner, true⟩ ⟨stander, true⟩ runner stander
    (keysOnly 0#16) 0#10 hpos hpos
  refine ⟨h.1.2 (Or.inl ?_), h.2.1, h.2.2.1, (h.2.2.2 hup).1.1⟩
  rintro ⟨hkey, -⟩
  exact absurd hkey (by decide)

/-- With Enter held the runner runs on, and the other one still stands. -/
theorem commands_latched : ¬∀ (b b' : Ball) (p : MoverPorts) (ballYMotion : BitVec 10),
    b.toMover.SamePosition b'.toMover →
    (b.step p ballYMotion).toMover.SameCommand (b'.step p ballYMotion).toMover := by
  intro h
  have hsame := h ⟨runner, true⟩ ⟨stander, true⟩ (keysOnly 0x0028#16) 0#10 ⟨rfl, rfl⟩
  exact absurd hsame.1 (by decide)

end StickFigureFighting
