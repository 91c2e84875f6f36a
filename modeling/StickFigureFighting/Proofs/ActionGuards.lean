import StickFigureFighting.Proofs.Reachable

/-!
# Guards of the voluntary actions

A player starts four actions itself: kick, fight, jump and dodge. Each has an animation
machine, a request in the action register and a branch in the controllers. This file
states once what a frame edge does to flag and request, and what the guards of the three
controllers have in common.
-/

namespace StickFigureFighting
open Library

/-- The actions a player starts itself. -/
inductive Voluntary where
  | kick
  | fight
  | jump
  | dodge
deriving DecidableEq, Repr

def Actions.request (a : Actions) : Voluntary → Bool
  | .kick => a.kick
  | .fight => a.fight
  | .jump => a.jump
  | .dodge => a.dodge

/-- The animation flag `kick_1`, `fight_1`, `jump_1` or `dodge_1` of a figure. -/
def Animation.on (m : Animation) : Voluntary → Bool
  | .kick => m.kick.on
  | .fight => m.fight.on
  | .jump => m.jump.on
  | .dodge => m.dodge.on

def Animation.counter (m : Animation) : Voluntary → BitVec 5
  | .kick => m.kick.counter
  | .fight => m.fight.counter
  | .jump => m.jump.counter
  | .dodge => m.dodge.counter

def MoverPorts.on (p : MoverPorts) : Voluntary → Bool
  | .kick => p.kickOn
  | .fight => p.fightOn
  | .jump => p.jumpOn
  | .dodge => p.dodgeOn

def Voluntary.branch : Voluntary → Branch
  | .kick => .kick
  | .fight => .fight
  | .jump => .jump
  | .dodge => .dodge

/-! ### One frame edge of the animation machines -/

section Machines

lemma Strike.on_step {m : Strike} {request : Bool} (h : (m.step request).on) :
    m.on ∨ m.counter = 9#5 ∧ request := by
  obtain ⟨s, c, c1⟩ := m
  cases s <;> simp only [Strike.step, Strike.on, Strike.nextState] at h ⊢ <;> grind

lemma Jump.on_step {m : Jump} {request : Bool} (h : (m.step request).on) :
    m.on ∨ m.counter = 9#5 ∧ request := by
  obtain ⟨s, c, c1⟩ := m
  cases s <;> simp only [Jump.step, Jump.on, Jump.nextState] at h ⊢ <;> grind

lemma Dodge.on_step {m : Dodge} {request : Bool} (h : (m.step request).on) :
    m.on ∨ m.counter = 9#5 ∧ request := by
  obtain ⟨s, c, c1⟩ := m
  cases s <;> simp only [Dodge.step, Dodge.on, Dodge.nextState] at h ⊢ <;> grind

/-- A dodge is valid only when it has been drawn for some frames. -/
lemma Dodge.on_of_valid_step {m : Dodge} {request : Bool} (h : (m.step request).valid) : m.on := by
  obtain ⟨s, c, c1⟩ := m
  cases s <;> simp only [Dodge.step, Dodge.valid, Dodge.on, Dodge.nextState] at h ⊢ <;> grind

lemma Dodge.on_of_valid {m : Dodge} (h : m.valid) : m.on := by
  obtain ⟨s, c, c1⟩ := m
  cases s <;> simp [Dodge.valid, Dodge.on] at h ⊢

lemma Back.on_step {m : Back} {request : Bool} (h : (m.step request).on) : m.on ∨ request := by
  obtain ⟨s, c, c1⟩ := m
  cases s <;> simp only [Back.step, Back.on, Back.nextState] at h ⊢ <;> grind

variable {m : Animation} {a : Actions} {v : Voluntary}

/-- A flag is raised in one phase of the counter only, by its request. -/
lemma Animation.on_step (h : (m.step a).on v) : m.on v ∨ m.counter v = 9#5 ∧ a.request v := by
  cases v with
  | kick => exact Strike.on_step h
  | fight => exact Strike.on_step h
  | jump => exact Jump.on_step h
  | dodge => exact Dodge.on_step h

lemma Animation.counter_step : (m.step a).counter v = nextCounter (m.counter v) := by
  cases v <;> rfl

end Machines

lemma nextCounter_eq_ten {c : BitVec 5} (h : c = 9#5) : nextCounter c = 10#5 := by
  rw [h]
  rfl

/-! ### What the guards of the controllers ensure -/

/-- A branch taken under ports `p`: an action is requested only while no other is drawn and
the figure is not knocked back, and a code 1 leaves no other branch than its own. -/
structure Guarded (p : MoverPorts) (br : Branch) : Prop where
  alone : ∀ v w, br = v.branch → p.on w → w = v
  free : ∀ v : Voluntary, br = v.branch → p.free
  code_one : br = .back1 → p.backCode = 1#2
  of_code_one : p.backCode = 1#2 → br = .win ∨ br = .back1

namespace Guarded

variable {p : MoverPorts}

lemma ite {c : Prop} [Decidable c] {br br' : Branch} (h : c → Guarded p br) (h' : ¬c → Guarded p br') :
    Guarded p (if c then br else br') := by
  split
  · rename_i hc
    exact h hc
  · rename_i hc
    exact h' hc

lemma win : Guarded p .win where
  alone := fun v _ h => by cases v <;> cases h
  free := fun v h => by cases v <;> cases h
  code_one := nofun
  of_code_one := fun _ => Or.inl rfl

lemma back2 (hc : p.backCode = 2#2) : Guarded p .back2 where
  alone := fun v _ h => by cases v <;> cases h
  free := fun v h => by cases v <;> cases h
  code_one := nofun
  of_code_one := fun h => by rw [hc] at h; cases h

lemma back1 (hc : p.backCode = 1#2) : Guarded p .back1 where
  alone := fun v _ h => by cases v <;> cases h
  free := fun v h => by cases v <;> cases h
  code_one := fun _ => hc
  of_code_one := fun _ => Or.inr rfl

lemma other {br : Branch} (hbr : br ∈ [Branch.left, .right, .enter, .idle]) (hc : p.backCode ≠ 1#2) :
    Guarded p br where
  alone := fun v _ h => by subst h; cases v <;> exact absurd hbr (by decide)
  free := fun v h => by subst h; cases v <;> exact absurd hbr (by decide)
  code_one := fun h => by subst h; exact absurd hbr (by decide)
  of_code_one := fun h => absurd h hc

lemma voluntary (v : Voluntary) (halone : ∀ w, w ≠ v → p.on w = false) (hfree : p.free) :
    Guarded p v.branch where
  alone := by
    intro v' w hv hw
    have hvv : v = v' := by cases v <;> cases v' <;> first | rfl | cases hv
    subst hvv
    by_contra hne
    rw [halone w hne] at hw
    cases hw
  free := fun _ _ => hfree
  code_one := fun h => by cases v <;> cases h
  of_code_one := by
    intro hc
    simp only [MoverPorts.free, Bool.and_eq_true, beq_iff_eq] at hfree
    rw [hc] at hfree
    exact absurd hfree.1 (by decide)

lemma action (v : Voluntary) {guard : Bool} {br : Branch}
    (hguard : guard → (∀ w, w ≠ v → p.on w = false) ∧ p.free) (h : Guarded p br) :
    Guarded p (if guard then v.branch else br) :=
  ite (fun hg => voluntary v (hguard hg).1 (hguard hg).2) fun _ => h

/-- The links all three chains begin with. -/
lemma knockBack {br : Branch} (h : p.backCode ≠ 1#2 → Guarded p br) :
    Guarded p (if p.p1win || p.p2win then .win else if p.backCode = 2#2 then .back2
      else if p.backCode = 1#2 then .back1 else br) :=
  ite (fun _ => win) fun _ => ite back2 fun _ => ite back1 h

end Guarded

lemma Ball.branch_guarded (p : MoverPorts) : Guarded p (Ball.branch p) := by
  refine Guarded.knockBack fun hc => ?_
  refine Guarded.action .kick ?_ (Guarded.action .fight ?_ (Guarded.action .dodge ?_
    (Guarded.action .jump ?_ ?_)))
  case refine_5 =>
    refine Guarded.ite (fun _ => Guarded.other (by decide) hc) fun _ => ?_
    refine Guarded.ite (fun _ => Guarded.other (by decide) hc) fun _ => ?_
    exact Guarded.ite (fun _ => Guarded.other (by decide) hc) fun _ => Guarded.other (by decide) hc
  all_goals
    intro hguard
    simp only [Bool.and_eq_true, Bool.not_eq_true'] at hguard
    refine ⟨fun w hw => ?_, hguard.2⟩
    cases w <;> simp_all [MoverPorts.on]

lemma BallSecond.branch_guarded (p : MoverPorts) : Guarded p (BallSecond.branch p) := by
  refine Guarded.knockBack fun hc => ?_
  refine Guarded.action .kick ?_ (Guarded.action .fight ?_ (Guarded.action .dodge ?_
    (Guarded.action .jump ?_ ?_)))
  case refine_5 =>
    refine Guarded.ite (fun _ => Guarded.other (by decide) hc) fun _ => ?_
    exact Guarded.ite (fun _ => Guarded.other (by decide) hc) fun _ => Guarded.other (by decide) hc
  all_goals
    intro hguard
    simp only [Bool.and_eq_true, Bool.not_eq_true'] at hguard
    refine ⟨fun w hw => ?_, hguard.2⟩
    cases w <;> simp_all [MoverPorts.on]

lemma AI.branch_guarded (m : Mover) (p : MoverPorts) : Guarded p (AI.branch m p) := by
  refine Guarded.knockBack fun hc => ?_
  refine Guarded.action .fight ?_ (Guarded.action .kick ?_ (Guarded.action .dodge ?_
    (Guarded.action .jump ?_ ?_)))
  case refine_5 =>
    refine Guarded.ite (fun _ => Guarded.other (by decide) hc) fun _ => ?_
    exact Guarded.ite (fun _ => Guarded.other (by decide) hc) fun _ => Guarded.other (by decide) hc
  all_goals
    intro hguard
    simp only [Bool.and_eq_true, Bool.not_eq_true'] at hguard
    refine ⟨fun w hw => ?_, hguard.2⟩
    cases w <;> simp_all [MoverPorts.on]

/-- Only `ball` reads the Enter key. -/
lemma BallSecond.branch_ne_enter (p : MoverPorts) : BallSecond.branch p ≠ .enter := by
  unfold BallSecond.branch
  repeat' split
  all_goals simp

lemma AI.branch_ne_enter (m : Mover) (p : MoverPorts) : AI.branch m p ≠ .enter := by
  unfold AI.branch
  repeat' split
  all_goals simp

/-! ### The action registers after a frame edge -/

lemma Branch.request_actions {a : Actions} {br : Branch} {v : Voluntary} (h : (br.actions a).request v) :
    br = v.branch ∨ br = .back1 ∧ v = .dodge ∨ br = .enter ∧ a.request v := by
  cases br <;> cases v <;>
    simp_all [Branch.actions, Actions.request, Voluntary.branch, Actions.none, Actions.standing]

lemma Branch.back_actions {a : Actions} {br : Branch} (h : (br.actions a).back) :
    br = .back2 ∨ br = .enter ∧ a.back := by
  cases br <;> simp_all [Branch.actions, Actions.none, Actions.standing]

lemma Actions.AtMostOne.request_eq {a : Actions} (h : a.AtMostOne) {v w : Voluntary} (hv : a.request v)
    (hw : a.request w) : v = w := by
  obtain ⟨right, left, stand, kick, fight, jump, dodge, back⟩ := a
  cases v <;> cases w <;> first
    | rfl
    | simp only [Actions.request] at hv hw
      subst hv hw
      simp only [Actions.AtMostOne, List.count_cons, beq_self_eq_true, if_true] at h
      omega

/-! ### The code of a dodged hit -/

namespace Hp

lemma takeHit_code_one {a : Attack} {dodge : Bool} {bar : BitVec 8} {code : BitVec 2}
    (hc : (takeHit a dodge bar code).2 = 1#2) : code = 1#2 ∨ dodge := by
  unfold takeHit at hc
  split at hc
  · exact Or.inl hc
  · split at hc
    · rename_i hd
      exact Or.inr hd
    · cases hc

/-- A code 1 is only given to a player whose dodge is valid. -/
lemma code_one_step (p : HpPorts) (h : Hp) :
    ((h.step p).back1 = 1#2 → h.back1 = 1#2 ∨ p.dodge1) ∧
    ((h.step p).back2 = 1#2 → h.back2 = 1#2 ∨ p.dodge2) := by
  by_cases h2 : h.hpbar2 = 0#8
  · rw [step_of_hpbar2_zero h2]
    exact ⟨Or.inl, Or.inl⟩
  by_cases h1 : h.hpbar1 = 0#8
  · rw [step_of_hpbar1_zero h2 h1]
    exact ⟨Or.inl, Or.inl⟩
  match hs : h.state with
  | .S a .one =>
    rw [step_hit_one h1 h2 hs]
    exact ⟨Or.inl, takeHit_code_one⟩
  | .S a .two =>
    rw [step_hit_two h1 h2 hs]
    exact ⟨takeHit_code_one, Or.inl⟩
  | .normal =>
    rw [step_normal h1 h2 hs]
    constructor
    · intro hc
      cases hc
    · intro hc
      cases hc
  | .is a q =>
    rw [step_is h1 h2 hs]
    exact ⟨Or.inl, Or.inl⟩

end Hp

end StickFigureFighting
