import StickFigureFighting.Proofs.HitRules
import StickFigureFighting.Proofs.Reachable

/-!
# Where damage comes from

A bar falls two edges of `Clk` after the arbiter has found an attack that reaches, and it
falls by what this attack takes. What is between the two edges can only be a frame edge, so
no hit is left over from an earlier attack, and none comes from an attack that was out of
reach when the arbiter looked.
-/

namespace StickFigureFighting
open Library

def FrameRegs.column (f : FrameRegs) : Player → ℕ
  | .one => f.ball.ballXPos.toNat
  | .two => f.player2.ballxsig1.toNat

def FrameRegs.line (f : FrameRegs) : Player → ℕ
  | .one => f.ball.ballYPos.toNat
  | .two => f.player2.ballysig1.toNat

def ClkRegs.facing (c : ClkRegs) : Player → Facing
  | .one => c.state0
  | .two => c.state1

def Event.isFrame : Event → Bool
  | .tick | .reset => false
  | .frame _ _ => true

/-- Player `q` is in the window of attack `k`, faces its opponent, and is at most 70 columns
and 50 lines away from it. -/
structure InContact (g : Game) (k : Attack) (q : Player) : Prop where
  window : (hpPorts g.regs g.clk).attack k q
  reach : (g.regs.column q < g.regs.column q.other ∧ g.regs.column q.other ≤ g.regs.column q + 70 ∧
      (g.clk.facing q).standRight) ∨
    (g.regs.column q.other < g.regs.column q ∧ g.regs.column q ≤ g.regs.column q.other + 70 ∧
      (g.clk.facing q).standLeft)
  level : g.regs.line q ≤ g.regs.line q.other + 50 ∧ g.regs.line q.other ≤ g.regs.line q + 50

/-! ### What the arbiter looks at -/

lemma FrameRegs.near1_iff (f : FrameRegs) :
    f.near1 ↔ f.line .one ≤ f.line .two + 50 ∧ f.line .two ≤ f.line .one + 50 := by
  simp only [FrameRegs.near1, Mover.near1, line, Bool.or_eq_true, Bool.and_eq_true, decide_eq_true_eq]
  bv_omega

lemma inContact_of_qualified {g : Game} {k : Attack} {q : Player}
    (h : (hpPorts g.regs g.clk).qualified k q) :
    InContact g k q := by
  rw [HpPorts.qualified, Bool.and_eq_true] at h
  obtain ⟨hattack, hvalid⟩ := h
  have hlevel := g.regs.near1_iff
  cases q with
  | one =>
    change valid1 g.regs g.clk = true at hvalid
    simp only [valid1, Bool.or_eq_true, Bool.and_eq_true, decide_eq_true_eq, hlevel] at hvalid
    refine ⟨hattack, ?_, ?_⟩
    · apply hvalid.imp
      · rintro ⟨⟨⟨hlt, hle⟩, -⟩, hright⟩
        simp only [FrameRegs.column, Player.other]
        exact ⟨by bv_omega, by bv_omega, hright⟩
      · rintro ⟨⟨⟨hlt, hle⟩, -⟩, hleft⟩
        simp only [FrameRegs.column, Player.other]
        exact ⟨by bv_omega, by bv_omega, hleft⟩
    · exact hvalid.elim (fun h => h.1.2) (fun h => h.1.2)
  | two =>
    change valid2 g.regs g.clk = true at hvalid
    simp only [valid2, Bool.or_eq_true, Bool.and_eq_true, decide_eq_true_eq, hlevel] at hvalid
    refine ⟨hattack, ?_, ?_⟩
    · apply hvalid.symm.imp
      · rintro ⟨⟨⟨hlt, hle⟩, -⟩, hright⟩
        simp only [FrameRegs.column, Player.other]
        exact ⟨by bv_omega, by bv_omega, hright⟩
      · rintro ⟨⟨⟨hlt, hle⟩, -⟩, hleft⟩
        simp only [FrameRegs.column, Player.other]
        exact ⟨by bv_omega, by bv_omega, hleft⟩
    · exact hvalid.elim (fun h => h.1.2.symm) (fun h => h.1.2.symm)

namespace Hp

variable {h : Hp} {p : HpPorts} {k : Attack} {q : Player}

lemma qualified_of_arbitrate (ha : h.arbitrate p = .S k q) : p.qualified k q := by
  unfold arbitrate at ha
  simp only [request_eq] at ha
  repeat' split at ha
  all_goals
    first
    | cases ha
      assumption
    | cases ha

/-! ### One edge of `Clk` -/

/-- The bar after a hit does not depend on the knock-back code before it. -/
lemma takeHit_bar (k : Attack) (dodge : Bool) (bar : BitVec 8) (code code' : BitVec 2) :
    (takeHit k dodge bar code).1 = (takeHit k dodge bar code').1 := by
  unfold takeHit
  split
  · rfl
  · split <;> rfl

lemma step_of_executes (he : Executes h k q) :
    (h.step p).state = .is k q ∧ (h.step p).hpbar q = h.hpbar q ∧
    (h.step p).hpbar q.other = (takeHit k (p.dodge q.other) (h.hpbar q.other) 0#2).1 := by
  obtain ⟨hs, h1, h2⟩ := he
  cases q with
  | one =>
    rw [step_hit_one h1 h2 hs]
    exact ⟨rfl, rfl, takeHit_bar ..⟩
  | two =>
    rw [step_hit_two h1 h2 hs]
    exact ⟨rfl, rfl, takeHit_bar ..⟩

/-- A hit state without a bar at 0 is the only one that touches the bars. -/
lemma step_bars (hno : ∀ k q, ¬Executes h k q) :
    (h.step p).hpbar1 = h.hpbar1 ∧ (h.step p).hpbar2 = h.hpbar2 := by
  by_cases h2 : h.hpbar2 = 0#8
  · rw [step_of_hpbar2_zero h2]
    exact ⟨rfl, rfl⟩
  by_cases h1 : h.hpbar1 = 0#8
  · rw [step_of_hpbar1_zero h2 h1]
    exact ⟨rfl, rfl⟩
  match hs : h.state with
  | .S k q => exact absurd ⟨hs, h1, h2⟩ (hno k q)
  | .normal =>
    rw [step_normal h1 h2 hs]
    exact ⟨rfl, rfl⟩
  | .is k q =>
    rw [step_is h1 h2 hs]
    exact ⟨rfl, rfl⟩

lemma step_hpbar (hno : ∀ k q, ¬Executes h k q) (v : Player) : (h.step p).hpbar v = h.hpbar v := by
  cases v with
  | one => exact (step_bars hno).1
  | two => exact (step_bars hno).2

end Hp

/-! ### Back to the contact -/

/-- The event before which the arbiter found the attack: only frame edges can follow it. -/
def Traced (g : Game) (es : List Event) (k : Attack) (q : Player) : Prop :=
  ∃ es₁ mid, es = es₁ ++ .tick :: mid ∧ (∀ e ∈ mid, e.isFrame) ∧ InContact (run Game.step g es₁) k q

lemma Traced.frame {g : Game} {es : List Event} {k : Attack} {q : Player} (h : Traced g es k q)
    (keycode keycode1 : BitVec 16) : Traced g (es ++ [.frame keycode keycode1]) k q := by
  obtain ⟨es₁, mid, rfl, hmid, hcontact⟩ := h
  refine ⟨es₁, mid ++ [.frame keycode keycode1], by simp, ?_, hcontact⟩
  intro e he
  rw [List.mem_append, List.mem_singleton] at he
  rcases he with he | rfl
  · exact hmid e he
  · rfl

/-- In a hit state both players stand, and the attack has been found just before. -/
lemma traced_of_S (g : Game) (es : List Event) {k : Attack} {q : Player}
    (hs : (run Game.step g.reset es).clk.hp.state = .S k q) :
    Executes (run Game.step g.reset es).clk.hp k q ∧ Traced g.reset es k q := by
  induction es using List.reverseRecOn generalizing k q with
  | nil => cases hs
  | append_singleton es e ih =>
    rw [run_append, run_cons, run_nil] at hs ⊢
    generalize hg : run Game.step g.reset es = g' at hs ih ⊢
    cases e with
    | reset => cases hs
    | frame keycode keycode1 =>
      obtain ⟨hexec, htraced⟩ := ih hs
      exact ⟨hexec, htraced.frame keycode keycode1⟩
    | tick =>
      change (g'.clk.hp.step (hpPorts g'.regs g'.clk)).state = .S k q at hs
      by_cases h2 : g'.clk.hp.hpbar2 = 0#8
      · rw [Hp.step_of_hpbar2_zero h2] at hs
        exact absurd h2 (ih hs).1.2.2
      by_cases h1 : g'.clk.hp.hpbar1 = 0#8
      · rw [Hp.step_of_hpbar1_zero h2 h1] at hs
        exact absurd h1 (ih hs).1.2.1
      have hstate := hs
      rw [Hp.step_state h1 h2] at hs
      obtain ⟨hnormal, -⟩ := Hp.eq_of_nextState_S hs
      rw [Hp.nextState, hnormal] at hs
      have hbars : ∀ k q, ¬Executes g'.clk.hp k q := by
        rintro k q ⟨hk, -⟩
        rw [hnormal] at hk
        cases hk
      obtain ⟨hbar1, hbar2⟩ := Hp.step_bars (p := hpPorts g'.regs g'.clk) hbars
      refine ⟨⟨hstate, ?_, ?_⟩, es, [], rfl, by simp, ?_⟩
      · show (g'.clk.hp.step _).hpbar1 ≠ 0#8
        rwa [hbar1]
      · show (g'.clk.hp.step _).hpbar2 ≠ 0#8
        rwa [hbar2]
      · rw [hg]
        exact inContact_of_qualified (Hp.qualified_of_arbitrate hs)

/-- Whatever the run: when an event other than `Reset` changes a bar, it is an edge of `Clk`,
and at the last edge of `Clk` before it the opponent had an attack in contact. The bar falls
by what this attack takes. -/
theorem damage_traced (g : Game) (es : List Event) (e : Event) (v : Player) (he : e ≠ .reset)
    (hloss : (run Game.step g.reset (es ++ [e])).clk.hp.hpbar v ≠
      (run Game.step g.reset es).clk.hp.hpbar v) :
    e = .tick ∧ ∃ k es₁ mid, es = es₁ ++ .tick :: mid ∧ (∀ e ∈ mid, e.isFrame) ∧
      InContact (run Game.step g.reset es₁) k v.other ∧
      (run Game.step g.reset (es ++ [e])).clk.hp.hpbar v =
        (Hp.takeHit k ((hpPorts (run Game.step g.reset es).regs (run Game.step g.reset es).clk).dodge v)
          ((run Game.step g.reset es).clk.hp.hpbar v) 0#2).1 := by
  rw [run_append, run_cons, run_nil] at hloss ⊢
  have htraced := fun k q => traced_of_S g es (k := k) (q := q)
  generalize run Game.step g.reset es = g' at hloss htraced ⊢
  cases e with
  | reset => exact absurd rfl he
  | frame keycode keycode1 => exact absurd rfl hloss
  | tick =>
    refine ⟨rfl, ?_⟩
    change (g'.clk.hp.step (hpPorts g'.regs g'.clk)).hpbar v ≠ g'.clk.hp.hpbar v at hloss
    have hexec : ∃ k q, Executes g'.clk.hp k q := by
      by_contra hno
      push Not at hno
      exact hloss (Hp.step_hpbar hno v)
    obtain ⟨k, q, hexec⟩ := hexec
    obtain ⟨-, hsame, hbar⟩ := Hp.step_of_executes (p := hpPorts g'.regs g'.clk) hexec
    obtain rfl : q = v.other := by
      cases q <;> cases v <;> first | rfl | exact absurd hsame hloss
    rw [Player.other_other] at hbar
    obtain ⟨es₁, mid, hes, hmid, hcontact⟩ := (htraced k v.other hexec.1).2
    exact ⟨k, es₁, mid, hes, hmid, hcontact, hbar⟩

lemma countP_heldShort (n : ℕ) (keycode keycode1 : BitVec 16) :
    (heldShort n keycode keycode1).countP Event.isFrame = n := by
  induction n with
  | zero => rfl
  | succ n ih =>
    have hsplit : heldShort (n + 1) keycode keycode1 =
        (.frame keycode keycode1 :: List.replicate 4 .tick) ++ heldShort n keycode keycode1 := rfl
    rw [hsplit, List.countP_append, ih]
    exact Nat.add_comm 1 n

/-- Player 1 walks up to `AI` and kicks; the events up to the edge before the bar falls. -/
def firstKick : List Event :=
  heldShort 1 0x004B 0 ++ heldShort 1 0x0028 0 ++ heldShort 42 0x0007 0 ++ heldShort 20 0x0018 0 ++
    [.frame 0x0018 0, .tick]

theorem damage_traced_firstKick : ∃ k es₁ mid, firstKick = es₁ ++ .tick :: mid ∧ (∀ e ∈ mid, e.isFrame) ∧
    InContact (run Game.step (Game.powerUp .normal).reset es₁) k .one := by
  have hloss : (run Game.step (Game.powerUp .normal).reset (firstKick ++ [.tick])).clk.hp.hpbar .two ≠
      (run Game.step (Game.powerUp .normal).reset firstKick).clk.hp.hpbar .two := by
    decide +kernel
  obtain ⟨-, k, es₁, mid, hes, hmid, hcontact, -⟩ :=
    damage_traced (Game.powerUp .normal) firstKick .tick .two (by decide) hloss
  exact ⟨k, es₁, mid, hes, hmid, hcontact⟩

end StickFigureFighting
