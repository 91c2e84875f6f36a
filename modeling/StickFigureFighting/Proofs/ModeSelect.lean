import StickFigureFighting.Proofs.Reachable

/-!
# The mode of a match

`start` is set by the Enter branch of `ball`, the mode flags by `indicator` as long as
`start` is low. Nothing makes Enter wait for a mode: the menu cursor stands at the entry
for one player from power-up on, but neither flag is set until a key selects a mode.
-/

namespace StickFigureFighting
open Library

/-- The Enter branch starts a match only after, or together with, the selection of a mode. -/
def ModeSafe (g : Game) : Event → Prop
  | .tick | .reset => True
  | .frame keycode keycode1 =>
    g.regs.st = false ∧ Ball.branch (ballPorts g.regs g.clk keycode keycode1) = .enter →
      g.regs.du ∨ g.regs.sin ∨ keycode.extractLsb' 0 8 = 0x4E#8 ∨ keycode.extractLsb' 0 8 = 0x4B#8

/-- Opponent and background both belong to the one mode that is selected. -/
structure OneMode (f : FrameRegs) : Prop where
  one : f.du = !f.sin
  dual : f.du → f.player2 = Player2.ofMover f.ballSecond ∧ backgroundBase f.st f.du f.sin = 0x4b000#32
  single : f.sin → f.player2 = Player2.ofMover f.ai ∧ backgroundBase f.st f.du f.sin = 0x96000#32

/-- If the match has started, it has one mode and keeps it until the next `Reset`. -/
def ModeFixed (g : Game) : Prop :=
  g.regs.st → OneMode g.regs ∧
    ∀ es, .reset ∉ es → (run Game.step g es).regs.du = g.regs.du ∧
      (run Game.step g es).regs.sin = g.regs.sin ∧ OneMode (run Game.step g es).regs

lemma oneMode_of_flags {f : FrameRegs} (hst : f.st) (h : f.du = !f.sin) : OneMode f where
  one := h
  dual := by
    intro hd
    simp [FrameRegs.player2, modeChoose, backgroundBase, hst, hd]
  single := by
    intro hs
    rw [hs] at h
    simp [FrameRegs.player2, modeChoose, backgroundBase, hst, hs, show f.du = false from h]

lemma started_run {g : Game} (hst : g.regs.st) (es : List Event) (hes : .reset ∉ es) :
    (run Game.step g es).regs.st ∧ (run Game.step g es).regs.indicator = g.regs.indicator := by
  induction es generalizing g with
  | nil => exact ⟨hst, rfl⟩
  | cons e es ih =>
    rw [List.mem_cons, not_or] at hes
    rw [run_cons]
    cases e with
    | tick => exact ih (g := g.tick) hst hes.2
    | frame keycode keycode1 =>
      have hst' : (g.frame keycode keycode1).regs.st := FrameRegs.st_frame hst
      have hi : (g.frame keycode keycode1).regs.indicator = g.regs.indicator :=
        FrameRegs.indicator_frame hst
      obtain ⟨hrun, hind⟩ := ih hst' hes.2
      exact ⟨hrun, hind.trans hi⟩
    | reset => exact absurd rfl hes.1

lemma modeFixed_of_flags {g : Game} (h : g.regs.st → g.regs.du = !g.regs.sin) : ModeFixed g := by
  intro hst
  refine ⟨oneMode_of_flags hst (h hst), ?_⟩
  intro es hes
  obtain ⟨hst', hi⟩ := started_run hst es hes
  have hd : (run Game.step g es).regs.du = g.regs.du := congrArg Indicator.dual hi
  have hs : (run Game.step g es).regs.sin = g.regs.sin := congrArg Indicator.single hi
  refine ⟨hd, hs, oneMode_of_flags hst' ?_⟩
  rw [hd, hs]
  exact h hst

structure ModeInv (f : FrameRegs) : Prop where
  notBoth : f.du → f.sin = false
  chosen : f.st → f.du = !f.sin

namespace ModeInv

variable {g : Game} {keycode keycode1 : BitVec 16}

/-- What a frame edge leaves in the mode flags before the start. -/
lemma flags_frame (hst : g.regs.st = false) (keycode keycode1 : BitVec 16) :
    (g.frame keycode keycode1).regs.du =
      (decide (keycode.extractLsb' 0 8 = 0x4E#8) ||
        !decide (keycode.extractLsb' 0 8 = 0x4B#8) && g.regs.du) ∧
    (g.frame keycode keycode1).regs.sin =
      (decide (keycode.extractLsb' 0 8 = 0x4B#8) ||
        !decide (keycode.extractLsb' 0 8 = 0x4E#8) && g.regs.sin) := by
  simp only [Game.frame, FrameRegs.frame, FrameRegs.du, FrameRegs.sin, Indicator.step, hst]
  generalize keycode.extractLsb' 0 8 = key
  by_cases hd : key = 0x4E#8
  · simp [hd]
  · by_cases hs : key = 0x4B#8 <;> simp [hd, hs]

lemma notBoth_frame (h : ModeInv g.regs) (hd : (g.frame keycode keycode1).regs.du) :
    (g.frame keycode keycode1).regs.sin = false := by
  cases hst : g.regs.st with
  | true =>
    rw [Game.frame, FrameRegs.du, FrameRegs.indicator_frame hst] at hd
    rw [Game.frame, FrameRegs.sin, FrameRegs.indicator_frame hst]
    exact h.notBoth hd
  | false =>
    obtain ⟨hdu, hsin⟩ := flags_frame hst keycode keycode1
    rw [hdu] at hd
    rw [hsin]
    generalize keycode.extractLsb' 0 8 = key at hd ⊢
    have hboth := h.notBoth
    by_cases hkd : key = 0x4E#8 <;> by_cases hks : key = 0x4B#8 <;> simp_all

lemma enter_of_start (hst : g.regs.st = false) (hst' : (g.frame keycode keycode1).regs.st) :
    Ball.branch (ballPorts g.regs g.clk keycode keycode1) = .enter := by
  have hstart : g.regs.ball.start = false := hst
  simpa [Game.frame, FrameRegs.frame, FrameRegs.st, Ball.step, hstart] using hst'

lemma chosen_frame (h : ModeInv g.regs) (hs : ModeSafe g (.frame keycode keycode1))
    (hst' : (g.frame keycode keycode1).regs.st) :
    (g.frame keycode keycode1).regs.du = !(g.frame keycode keycode1).regs.sin := by
  cases hst : g.regs.st with
  | true =>
    rw [Game.frame, FrameRegs.du, FrameRegs.sin, FrameRegs.indicator_frame hst]
    exact h.chosen hst
  | false =>
    have hsel := hs ⟨hst, enter_of_start hst hst'⟩
    obtain ⟨hdu, hsin⟩ := flags_frame hst keycode keycode1
    rw [hdu, hsin]
    have hboth := h.notBoth
    generalize keycode.extractLsb' 0 8 = key at hsel ⊢
    by_cases hkd : key = 0x4E#8 <;> by_cases hks : key = 0x4B#8 <;> cases hd : g.regs.du <;> simp_all

lemma reset (h : ModeInv g.regs) : ModeInv g.reset.regs :=
  ⟨h.notBoth, fun hst => absurd hst Bool.false_ne_true⟩

lemma step (g : Game) (e : Event) (h : ModeInv g.regs) (hs : ModeSafe g e) :
    ModeInv (g.step e).regs := by
  cases e with
  | tick => exact h
  | frame keycode keycode1 => exact ⟨h.notBoth_frame, h.chosen_frame hs⟩
  | reset => exact h.reset

lemma modeSafe_of_modeFixed (e : Event) (hfixed : ModeFixed (g.step e)) : ModeSafe g e := by
  cases e with
  | tick => trivial
  | reset => trivial
  | frame keycode keycode1 =>
    rintro ⟨hst, hbr⟩
    have hst' : (g.frame keycode keycode1).regs.st := by
      simp [Game.frame, FrameRegs.frame, FrameRegs.st, Ball.step, hbr]
    have hone := (hfixed hst').1.one
    obtain ⟨hdu, hsin⟩ := flags_frame hst keycode keycode1
    change (g.frame keycode keycode1).regs.du = !(g.frame keycode keycode1).regs.sin at hone
    rw [hdu, hsin] at hone
    generalize keycode.extractLsb' 0 8 = key at hone ⊢
    by_contra hnone
    simp only [not_or, Bool.not_eq_true] at hnone
    simp [hnone] at hone

lemma powerUp (s : HpState) : ModeInv (Game.powerUp s).regs :=
  ⟨fun hd => absurd hd Bool.false_ne_true, fun hst => absurd hst Bool.false_ne_true⟩

end ModeInv

/-- In a run from power-up, every match has one mode and keeps it, if and only if no match
is started without one. -/
theorem mode_fixed_iff (s : HpState) (es : List Event) :
    Meets Game.step (fun g e => ModeFixed (g.step e)) (Game.powerUp s) es ↔
      Meets Game.step ModeSafe (Game.powerUp s) es := by
  constructor
  · intro h
    exact h.mono (I := fun _ => True) (fun _ _ _ _ => trivial)
      (fun _ e _ hfixed => ModeInv.modeSafe_of_modeFixed e hfixed) trivial
  · intro h
    exact h.mono (I := fun g => ModeInv g.regs) ModeInv.step
      (fun g e hi hs => modeFixed_of_flags (ModeInv.step g e hi hs).chosen) (ModeInv.powerUp s)

/-- Enter at the menu as it stands after power-up and `Reset` starts a match without a mode,
against an opponent parked in the corner of the screen. -/
theorem start_without_mode :
    (run Game.step (Game.powerUp .normal) [.reset, .frame 0x0028 0]).regs.st ∧
    (run Game.step (Game.powerUp .normal) [.reset, .frame 0x0028 0]).regs.du = false ∧
    (run Game.step (Game.powerUp .normal) [.reset, .frame 0x0028 0]).regs.sin = false ∧
    (run Game.step (Game.powerUp .normal) [.reset, .frame 0x0028 0]).regs.player2 =
      ⟨0, 0, Actions.none⟩ ∧
    ¬ModeFixed (run Game.step (Game.powerUp .normal) [.reset, .frame 0x0028 0]) := by
  refine ⟨by decide, by decide, by decide, by decide, ?_⟩
  intro h
  exact absurd (h (by decide)).1.one (by decide)

end StickFigureFighting
