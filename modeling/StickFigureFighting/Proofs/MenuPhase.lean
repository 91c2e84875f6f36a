import StickFigureFighting.Proofs.Reachable

/-!
# The menu phase

Before `start` rises, `AI` holds its registers, but `ball`, `ball_second` and `hp` run as
in a match. The bars are untouched until the first attack in range, and a hit in the menu
phase counts.
-/

namespace StickFigureFighting
open Library

instance Attack.decidableForall (P : Attack → Prop) [DecidablePred P] : Decidable (∀ k, P k) :=
  decidable_of_iff (P .kick ∧ P .fight ∧ P .jump)
    ⟨fun h k => by cases k <;> simp only [h], fun h => ⟨h _, h _, h _⟩⟩

instance Player.decidableForall (P : Player → Prop) [DecidablePred P] : Decidable (∀ q, P q) :=
  decidable_of_iff (P .one ∧ P .two) ⟨fun h q => by cases q <;> simp only [h], fun h => ⟨h _, h _⟩⟩

/-- While the menu is shown, `hp` sees no attack of a player in range and facing the other. -/
def MenuSafe (g : Game) : Event → Prop
  | .frame _ _ | .reset => True
  | .tick => g.regs.st = false → ∀ k q, (hpPorts g.regs g.clk).qualified k q = false

instance (g : Game) : (e : Event) → Decidable (MenuSafe g e)
  | .frame _ _ | .reset => isTrue trivial
  | .tick => inferInstanceAs (Decidable (_ → _))

structure Untouched (h : Hp) : Prop where
  hpbar1 : h.hpbar1 = 200#8
  hpbar2 : h.hpbar2 = 200#8
  p1win : h.p1win = false
  p2win : h.p2win = false
  back1 : h.back1 = 0#2
  back2 : h.back2 = 0#2

lemma untouched_reset : Untouched Hp.reset := ⟨rfl, rfl, rfl, rfl, rfl, rfl⟩

/-- After `Reset`, the arbiter rests until it sees a qualified attack. -/
lemma Hp.step_reset {p : HpPorts} (hq : ∀ k q, p.qualified k q = false) :
    Hp.reset.step p = Hp.reset := by
  rw [Hp.step_normal (by decide) (by decide) rfl, Hp.arbitrate]
  simp only [Hp.request_eq, hq]
  rfl

def MenuInv (g : Game) : Prop := g.regs.st = false → g.clk.hp = Hp.reset

lemma MenuInv.step (g : Game) (e : Event) (h : MenuInv g) (hs : MenuSafe g e) : MenuInv (g.step e) := by
  cases e with
  | tick =>
    intro hst
    have hhp := h hst
    change g.clk.hp.step (hpPorts g.regs g.clk) = Hp.reset
    rw [hhp]
    exact Hp.step_reset (hs hst)
  | frame keycode keycode1 =>
    intro hst'
    exact h (FrameRegs.not_st_of_frame hst')
  | reset => exact fun _ => rfl

/-- In every run from `Reset` in which no qualified attack is seen before the start, the
bars are full and nobody has won or is knocked back as long as the menu is shown, and also
after the frame edge that starts the match. -/
theorem menu_untouched (g : Game) (es : List Event) (hsafe : Meets Game.step MenuSafe g.reset es)
    (hst : (run Game.step g.reset es).regs.st = false) :
    Untouched (run Game.step g.reset es).clk.hp ∧
    ∀ keycode keycode1, Untouched ((run Game.step g.reset es).frame keycode keycode1).clk.hp := by
  have hhp := hsafe.invariant MenuInv.step (fun _ => rfl) hst
  have hu : Untouched (run Game.step g.reset es).clk.hp := by
    rw [hhp]
    exact untouched_reset
  exact ⟨hu, fun _ _ => hu⟩

theorem menu_untouched_apart :
    Untouched (run Game.step (Game.powerUp .normal).reset
      (held 1 0x004E 0 ++ held 40 0x5218 0)).clk.hp :=
  (menu_untouched (Game.powerUp .normal) _ (by decide +kernel) (by decide +kernel)).1

/-- In the menu for two players, the players walk up to each other and player 1 kicks: the
match starts with a hit taken. -/
theorem menu_hit :
    (run Game.step (Game.powerUp .normal).reset
      (held 1 0x004E 0 ++ held 59 0x5007 0 ++ held 20 0x0018 0)).regs.st = false ∧
    (run Game.step (Game.powerUp .normal).reset
      (held 1 0x004E 0 ++ held 59 0x5007 0 ++ held 20 0x0018 0)).clk.hp.hpbar2 = 186#8 := by
  decide +kernel

end StickFigureFighting
