import StickFigureFighting.Library.Lockstep
import StickFigureFighting.Proofs.ScreenEdges
import Mathlib.Data.List.Perm.Basic

/-!
# The keyboard as a set of keys

Two contracts of the controllers about the keys they sample. The first relates the two
human controllers: with the keys of player 2 for those of player 1, `ball_second` does
what `ball` does, up to one branch that makes its two tests in another order. The second
relates two runs with the keys of every report in another order: only `indicator` reads
a slot instead of the set.
-/

namespace StickFigureFighting
open Library

def slots (keycode keycode1 : BitVec 16) : List (BitVec 8) :=
  [keycode.extractLsb' 0 8, keycode.extractLsb' 8 8, keycode1.extractLsb' 0 8, keycode1.extractLsb' 8 8]

namespace MoverPorts

/-- The same lines with other keys. -/
def withKeys (p : MoverPorts) (keycode keycode1 : BitVec 16) : MoverPorts :=
  { p with keycode := keycode, keycode1 := keycode1 }

lemma key_iff_mem (p : MoverPorts) (code : BitVec 8) :
    p.key code ↔ code ∈ slots p.keycode p.keycode1 := by
  simp only [key, slots, Bool.or_eq_true, beq_iff_eq, List.mem_cons, List.not_mem_nil,
    or_false, or_assoc, eq_comm (b := code)]

end MoverPorts

/-! ### One set of rules for both players -/

/-- The keys of player 1, each with the key of player 2 for the same action. -/
def keyPairs : List (BitVec 8 × BitVec 8) :=
  [(0x18, 0x59), (0x0C, 0x5A), (0x1C, 0x62), (0x1A, 0x52), (0x04, 0x50), (0x07, 0x4F)]

/-- Player 2 presses in `q` the keys that player 1 presses in `p`. -/
def Translated (p q : MoverPorts) : Prop := ∀ c ∈ keyPairs, q.key c.2 = p.key c.1

/-- A translation of whole reports: it exchanges the two keys of each pair. -/
def translate (code : BitVec 8) : BitVec 8 :=
  match keyPairs.find? (fun c => code == c.1 || code == c.2) with
  | some c => if code == c.1 then c.2 else c.1
  | none => code

def translateWord (keycode : BitVec 16) : BitVec 16 :=
  translate (keycode.extractLsb' 8 8) ++ translate (keycode.extractLsb' 0 8)

instance (p q : MoverPorts) : Decidable (Translated p q) :=
  List.decidableBAll (fun c : BitVec 8 × BitVec 8 => q.key c.2 = p.key c.1) keyPairs

lemma translate_translate : ∀ code, translate (translate code) = code := by decide +kernel

lemma translate_beq (a b : BitVec 8) : (translate a == translate b) = (a == b) := by
  have hinj : translate a = translate b ↔ a = b :=
    (Function.Involutive.injective translate_translate).eq_iff
  rw [Bool.eq_iff_iff, beq_iff_eq, beq_iff_eq, hinj]

lemma translated_translateWord (p : MoverPorts) :
    Translated p (p.withKeys (translateWord p.keycode) (translateWord p.keycode1)) := by
  have hkey : ∀ code, (p.withKeys (translateWord p.keycode) (translateWord p.keycode1)).key
      (translate code) = p.key code := by
    intro code
    simp only [MoverPorts.key, MoverPorts.withKeys, translateWord, BitVec.extractLsb'_append_eq_left,
      BitVec.extractLsb'_append_eq_right, translate_beq]
  have hpairs : keyPairs.all (fun c => translate c.1 == c.2) = true := by decide
  intro c hc
  have hc' : translate c.1 = c.2 := beq_iff_eq.1 (List.all_eq_true.1 hpairs c hc)
  rw [← hkey c.1, hc']

section Rules

variable {p : MoverPorts} {m : Mover} {keycode keycode1 : BitVec 16}

lemma BallSecond.branch_translated (ht : Translated p (p.withKeys keycode keycode1))
    (henter : p.key 0x28 = false) : BallSecond.branch (p.withKeys keycode keycode1) = Ball.branch p := by
  have hkick := ht (0x18, 0x59) (by decide)
  have hfight := ht (0x0C, 0x5A) (by decide)
  have hdodge := ht (0x1C, 0x62) (by decide)
  have hjump := ht (0x1A, 0x52) (by decide)
  have hleft := ht (0x04, 0x50) (by decide)
  have hright := ht (0x07, 0x4F) (by decide)
  have hguard : ∀ a b c d e f : Bool,
      (e && !a && !b && !c && !d && f) = (e && !b && !a && !d && !c && f) := by decide
  dsimp only at hkick hfight hdodge hjump hleft hright
  unfold BallSecond.branch Ball.branch
  rw [hkick, hfight, hdodge, hjump, hleft, hright, henter]
  simp only [Bool.false_eq_true, if_false]
  rw [hguard p.kickOn p.fightOn]
  rfl

/-- The two orders of the side tests differ only where both sides are blocked. -/
lemma Mover.leftFirst_eq_rightFirst_iff (motion : BitVec 10) :
    m.leftFirst p motion = m.rightFirst p motion ↔ ¬(m.leftTest p ∧ m.rightTest p) := by
  unfold leftFirst rightFirst
  by_cases hl : m.leftTest p
  · by_cases hr : m.rightTest p
    · simp [hl, hr, twosComplement]
    · simp [hl, hr]
  · by_cases hr : m.rightTest p
    · simp [hl, hr]
    · simp [hl, hr]

lemma Mover.advance_inj {ballYMotion : BitVec 10} {br : Branch} {d d' : BitVec 10} :
    m.advance ballYMotion br d = m.advance ballYMotion br d' ↔ d = d' :=
  ⟨fun h => congrArg Mover.ballXMotion h, fun h => by rw [h]⟩

lemma Ball.motion_translated (ht : Translated p (p.withKeys keycode keycode1)) {br : Branch}
    (hbr : br ≠ .left) : BallSecond.motion m (p.withKeys keycode keycode1) br = Ball.motion m p br := by
  cases br with
  | left => exact absurd rfl hbr
  | jump =>
    have hleft := ht (0x04, 0x50) (by decide)
    have hright := ht (0x07, 0x4F) (by decide)
    dsimp only at hleft hright
    simp only [BallSecond.motion, Ball.motion, hleft, hright, Mover.rightFirst_rightFirst]
    rfl
  | _ => rfl

end Rules

/-- From equal registers and equal lines, one frame of `ball` without Enter is one frame of
`ball_second` with the translated keys, exactly if `ball` does not walk left between an
obstacle on its left and one on its right. -/
theorem ball_ballSecond_step_iff {p : MoverPorts} {keycode keycode1 : BitVec 16}
    (ht : Translated p (p.withKeys keycode keycode1)) (henter : p.key 0x28 = false) (b : Ball)
    (ballYMotion : BitVec 10) :
    (b.step p ballYMotion).toMover =
        BallSecond.step (p.withKeys keycode keycode1) ballYMotion b.toMover ↔
      ¬(Ball.branch p = .left ∧ b.leftTest p ∧ b.rightTest p) := by
  have hball : (b.step p ballYMotion).toMover =
      b.advance ballYMotion (Ball.branch p) (Ball.motion b.toMover p (Ball.branch p)) := rfl
  have hsecond : BallSecond.step (p.withKeys keycode keycode1) ballYMotion b.toMover =
      b.advance ballYMotion (Ball.branch p)
        (BallSecond.motion b.toMover (p.withKeys keycode keycode1) (Ball.branch p)) := by
    rw [← BallSecond.branch_translated ht henter]
    rfl
  rw [hball, hsecond, Mover.advance_inj]
  by_cases hbr : Ball.branch p = .left
  · rw [hbr]
    have hsides := Mover.leftFirst_eq_rightFirst_iff (p := p) (m := b.toMover) (twosComplement 5#10)
    simp only [true_and]
    exact hsides
  · rw [Ball.motion_translated ht hbr]
    simp [hbr]

/-- Lines of a figure that is free to act, with an opponent on the floor at column 30. -/
def idlePorts (keycode keycode1 : BitVec 16) : MoverPorts where
  kickOn := false
  fightOn := false
  jumpOn := false
  dodgeOn := false
  backOn := false
  standLeft := false
  standRight := false
  p1win := false
  p2win := false
  ballX1 := 30#10
  ballY1 := 300#10
  backCode := 0#2
  keycode := keycode
  keycode1 := keycode1

theorem ball_ballSecond_step_kick :
    (Ball.reset.step (idlePorts 0x0718 0) 0#10).toMover =
      BallSecond.step (idlePorts 0x4F59 0) 0#10 Ball.reset.toMover :=
  (ball_ballSecond_step_iff
    (show Translated (idlePorts 0x0718 0) ((idlePorts 0x0718 0).withKeys 0x4F59 0)
    by decide) (by decide) Ball.reset 0#10).2 (by decide)

/-- At column 0 with the opponent in reach on the right, left leads to column 1 as player 1
and over the edge as player 2. -/
theorem ball_ballSecond_left :
    Translated (idlePorts 0x0004 0) (idlePorts 0x0050 0) ∧ (idlePorts 0x0004 0).key 0x28 = false ∧
    (Ball.reset.step (idlePorts 0x0004 0) 0#10).ballXMotion = 1#10 ∧
    (BallSecond.step (idlePorts 0x0050 0) 0#10 Ball.reset.toMover).ballXMotion = -1#10 := by
  decide

/-! ### The order of the keys in a report -/

/-- A pair of events, equal but for the order of the four key bytes. -/
inductive Permuted : Event × Event → Prop where
  | tick : Permuted (.tick, .tick)
  | reset : Permuted (.reset, .reset)
  | frame {keycode keycode1 keycode' keycode1' : BitVec 16}
      (bytes : (slots keycode keycode1).Perm (slots keycode' keycode1')) :
      Permuted (.frame keycode keycode1, .frame keycode' keycode1')

/-- All registers of `ball`, `ball_second`, `AI` and `indicator`. -/
def FrameRegs.controllers (f : FrameRegs) : Ball × Mover × Mover × Indicator :=
  (f.ball, f.ballSecond, f.ai, f.indicator)

/-- The menu already shows what `key` selects, if it selects anything. -/
def Indicator.Shows (i : Indicator) (key : BitVec 8) : Prop :=
  (key = 0x4E → i.ballYCenter = 340#10 ∧ i.dual = true ∧ i.single = false) ∧
    (key = 0x4B → i.ballYCenter = 276#10 ∧ i.dual = false ∧ i.single = true)

/-- The first slots of the two reports select the same mode, or the menu shows it already. -/
def SameChoice (i : Indicator) (key key' : BitVec 8) : Prop :=
  ((key = 0x4E ↔ key' = 0x4E) ∧ (key = 0x4B ↔ key' = 0x4B)) ∨ (i.Shows key ∧ i.Shows key')

def OrderSafe (g : Game) : Event × Event → Prop
  | (.frame keycode _, .frame keycode' _) =>
    g.regs.st ∨ SameChoice g.regs.indicator (keycode.extractLsb' 0 8) (keycode'.extractLsb' 0 8)
  | _ => True

instance (i : Indicator) (key : BitVec 8) : Decidable (i.Shows key) :=
  inferInstanceAs (Decidable (_ ∧ _))

instance (i : Indicator) (key key' : BitVec 8) : Decidable (SameChoice i key key') :=
  inferInstanceAs (Decidable (_ ∨ _))

instance (g : Game) : (e : Event × Event) → Decidable (OrderSafe g e)
  | (.frame _ _, .frame _ _) => inferInstanceAs (Decidable (_ ∨ _))
  | (.frame _ _, .tick) | (.frame _ _, .reset) | (.tick, _) | (.reset, _) => isTrue trivial

section Order

variable {p : MoverPorts} {m : Mover} {keycode keycode1 : BitVec 16}

lemma Ball.step_withKeys (hk : ∀ code, (p.withKeys keycode keycode1).key code = p.key code) (b : Ball)
    (ballYMotion : BitVec 10) :
    b.step (p.withKeys keycode keycode1) ballYMotion = b.step p ballYMotion := by
  have hbr : Ball.branch (p.withKeys keycode keycode1) = Ball.branch p := by
    unfold Ball.branch
    simp only [hk]
    rfl
  have hmotion : ∀ br, Ball.motion b.toMover (p.withKeys keycode keycode1) br =
      Ball.motion b.toMover p br := by
    intro br
    cases br with
    | jump =>
      simp only [Ball.motion, hk]
      rfl
    | _ => rfl
  simp only [Ball.step, hbr, hmotion]

lemma BallSecond.step_withKeys (hk : ∀ code, (p.withKeys keycode keycode1).key code = p.key code)
    (ballYMotion : BitVec 10) :
    BallSecond.step (p.withKeys keycode keycode1) ballYMotion m = BallSecond.step p ballYMotion m := by
  have hbr : BallSecond.branch (p.withKeys keycode keycode1) = BallSecond.branch p := by
    unfold BallSecond.branch
    simp only [hk]
    rfl
  have hmotion : ∀ br, BallSecond.motion m (p.withKeys keycode keycode1) br =
      BallSecond.motion m p br := by
    intro br
    cases br with
    | jump =>
      simp only [BallSecond.motion, hk]
      rfl
    | _ => rfl
  simp only [BallSecond.step, hbr, hmotion]

lemma Indicator.step_eq_iff (i : Indicator) (key key' : BitVec 8) :
    i.step false key = i.step false key' ↔ SameChoice i key key' := by
  obtain ⟨x, y, dual, single⟩ := i
  have hne : (0x4E#8 : BitVec 8) ≠ 0x4B#8 := by decide
  by_cases h : key = 0x4E <;> by_cases h' : key' = 0x4E <;>
    by_cases hb : key = 0x4B <;> by_cases hb' : key' = 0x4B <;>
      simp_all [Indicator.step, SameChoice, Indicator.Shows, eq_comm]

variable {f : FrameRegs} {c : ClkRegs} {keycode' keycode1' : BitVec 16}

/-- Apart from `indicator`, a frame edge sees the report as a set. -/
lemma FrameRegs.frame_permuted (hbytes : (slots keycode keycode1).Perm (slots keycode' keycode1')) :
    f.frame c keycode keycode1 =
      { f.frame c keycode' keycode1' with
        indicator := (f.frame c keycode keycode1).indicator } := by
  have hk : ∀ p : MoverPorts, ∀ code,
      (p.withKeys keycode keycode1).key code = (p.withKeys keycode' keycode1').key code := by
    intro p code
    rw [Bool.eq_iff_iff, MoverPorts.key_iff_mem, MoverPorts.key_iff_mem]
    exact hbytes.mem_iff
  have hball := Ball.step_withKeys (p := ballPorts f c keycode' keycode1') (hk _) f.ball
    c.gravity0.ballYMotion
  have hsecond := BallSecond.step_withKeys (p := player2Ports f c keycode' keycode1') (m := f.ballSecond)
    (hk _) c.gravity1.ballYMotion
  simp only [FrameRegs.frame, FrameRegs.mk.injEq, and_true]
  exact ⟨hball, hsecond, rfl⟩

end Order

namespace Permuted

variable {e : Event × Event}

lemma step_eq_iff_indicator (he : Permuted e) (g : Game) :
    g.step e.1 = g.step e.2 ↔ (g.step e.1).regs.indicator = (g.step e.2).regs.indicator := by
  refine ⟨fun h => by rw [h], fun h => ?_⟩
  cases he with
  | tick | reset => rfl
  | frame hbytes =>
    have hframe := FrameRegs.frame_permuted (f := g.regs) (c := g.clk) hbytes
    simp only [Game.step, Game.frame] at h ⊢
    rw [hframe, h]

lemma step_eq_iff (he : Permuted e) (g : Game) : g.step e.1 = g.step e.2 ↔ OrderSafe g e := by
  rw [he.step_eq_iff_indicator]
  cases he with
  | tick | reset => simp [OrderSafe]
  | frame hbytes =>
    simp only [Game.step, Game.frame, FrameRegs.frame, OrderSafe]
    cases hst : g.regs.st with
    | true => simp [Indicator.step]
    | false => simp [Indicator.step_eq_iff]

end Permuted

/-- Two runs that see the same reports in other key orders agree in all controllers at
every time, exactly if no frame edge of the menu phase finds different choices in the
first slots. -/
theorem controllers_agree_iff (g : Game) (es : List (Event × Event)) (hperm : ∀ e ∈ es, Permuted e) :
    Agree Game.step (fun g => g.regs.controllers) g es ↔
      Meets (fun g e => g.step e.1) OrderSafe g es := by
  apply agree_iff_meets
  · intro g e he h
    rw [(hperm e he).step_eq_iff_indicator]
    exact congrArg (fun r => r.2.2.2) h
  · intro g e he
    exact (hperm e he).step_eq_iff g

/-- The match is chosen and started with the keys in place, then two keys change places. -/
def shuffled : List (Event × Event) :=
  [(.frame 0x004E 0, .frame 0x004E 0), (.frame 0x0028 0, .frame 0x2800 0),
    (.frame 0x4E07 0, .frame 0x074E 0)]

theorem controllers_agree_shuffled :
    Agree Game.step (fun g => g.regs.controllers) (Game.powerUp .normal).reset shuffled := by
  refine (controllers_agree_iff (Game.powerUp .normal).reset shuffled ?_).2 (by decide)
  intro e he
  simp only [shuffled, List.mem_cons, List.not_mem_nil, or_false] at he
  rcases he with rfl | rfl | rfl
  · exact .frame (by decide)
  · exact .frame (by decide)
  · exact .frame (by decide)

/-- The key that selects two players is not read behind a walking key. -/
theorem controllers_disagree :
    Permuted (.frame 0x4E07 0, .frame 0x074E 0) ∧
    ¬Agree Game.step (fun g => g.regs.controllers) (Game.powerUp .normal).reset
      [(.frame 0x4E07 0, .frame 0x074E 0)] := by
  refine ⟨.frame (by decide), ?_⟩
  intro h
  exact absurd (h 1) (by decide)

end StickFigureFighting
