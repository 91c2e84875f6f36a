import StickFigureFighting.Library.Rounds
import StickFigureFighting.Proofs.Guard
import StickFigureFighting.Proofs.MatchEnd
import StickFigureFighting.Proofs.Picture

/-!
# Walking, cheering and mourning

The pictures of a walk and those of the two endings follow each other in the phase of a
counter that no `Reset` reaches. A walk stops with the figure, within two frames. An ending
never stops, and since the counters of both figures are in phase, the two endings of a
match change their pictures in the same frames.
-/

namespace StickFigureFighting
open Library

namespace Standpic

def stage (m : Standpic) : ℕ :=
  match m.state with
  | .stand => 0
  | .run1 => 1
  | .run2 => 2
  | .run3 => 3

lemma data_eq (roms : Roms) (m : Standpic) : m.data roms = roms m.stage := by
  cases h : m.state <;> simp [data, stage, h]

lemma stage_step (m : Standpic) (stand : Bool) :
    (m.step stand).stage = nextRound 3 (m.counter = 9#5) (!stand) stand m.stage := by
  cases h : m.state <;> by_cases hc : m.counter = 9#5 <;> cases stand <;>
    simp [step, nextState, stage, nextRound, h, hc]

def frames (stand : ℕ → Bool) : ℕ → Standpic := trace (fun m s => step s m) powerUp stand

variable (stand : ℕ → Bool)

lemma counter_frames (n : ℕ) : (frames stand n).counter.toNat = n % 11 :=
  toNat_trace_counter Standpic.counter 10#5 rfl (fun _ _ => rfl) stand n

lemma rounds : Rounds 11 9 3 (fun n => !stand n) stand (fun n => (frames stand n).stage) where
  zero := rfl
  succ n := by
    rw [← decide_counter_eq (counter_frames stand n) (by decide)]
    exact stage_step _ _

end Standpic

namespace Ending

def stage (m : Ending) : ℕ :=
  match m.state with
  | .stand => 0
  | .ending1 => 1
  | .ending2 => 2

lemma data_eq (roms : Roms) (m : Ending) : m.data roms = roms m.stage := by
  cases h : m.state <;> simp [data, stage, h]

lemma stage_step (m : Ending) (win : Bool) :
    (m.step win).stage = nextRound 2 (m.counter = 9#5) win false m.stage := by
  cases h : m.state <;> by_cases hc : m.counter = 9#5 <;> cases win <;>
    simp [step, nextState, stage, nextRound, h, hc]

def frames (win : ℕ → Bool) : ℕ → Ending := trace (fun m w => step w m) powerUp win

variable (win : ℕ → Bool)

lemma counter_frames (n : ℕ) : (frames win n).counter.toNat = n % 11 :=
  toNat_trace_counter Ending.counter 10#5 rfl (fun _ _ => rfl) win n

lemma rounds : Rounds 11 9 2 win (fun _ => false) (fun n => (frames win n).stage) where
  zero := rfl
  succ n := by
    rw [← decide_counter_eq (counter_frames win n) (by decide)]
    exact stage_step _ _

/-- Once there is a win that stays, the ending goes on for ever. -/
lemma goes_on (hstays : ∀ n, win n → win (n + 1)) {n : ℕ} (hn : win n) :
    ∃ e < n + 11, ∀ i, (frames win (e + 1 + i)).stage = i / 11 % 2 + 1 := by
  -- the first win
  obtain ⟨m, hm, hfirst⟩ : ∃ m, win m = true ∧ ∀ j < m, win j = false := by
    have hex : ∃ m, win m = true := ⟨n, hn⟩
    refine ⟨Nat.find hex, Nat.find_spec hex, ?_⟩
    intro j hj
    rw [← Bool.not_eq_true]
    exact Nat.find_min hex hj
  have hle : m ≤ n := by
    by_contra hlt
    rw [hfirst n (by omega)] at hn
    cases hn
  have hafter : ∀ j, win (m + j) = true := by
    intro j
    induction j with
    | zero => exact hm
    | succ j ih => exact hstays _ ih
  obtain ⟨e, -, hlt, hphase, -, he⟩ :=
    (rounds win).starts (by decide) ((rounds win).idle hfirst) (fun j _ => hafter j)
  refine ⟨e, by omega, ?_⟩
  intro i
  exact (rounds win).cycle (by decide) hphase he (fun _ _ => rfl)

end Ending

/-- The pictures of a walk: none after two frames in which the figure stands, and three in
turns, eleven frames each, from when it begins to as long as it does not stand. -/
structure Walks (stand : ℕ → Bool) (walk : ℕ → Standpic) : Prop where
  stops : ∀ n, stand n → stand (n + 1) → ∀ roms, (walk (n + 2)).data roms = roms 0
  begins : ∀ n, (walk n).state = .stand → (∀ j < 11, stand (n + j) = false) →
    ∃ e, n ≤ e ∧ e < n + 11 ∧ ∀ i, (∀ j < i, stand (e + 1 + j) = false) →
      ∀ roms, (walk (e + 1 + i)).data roms = roms (i / 11 % 3 + 1)

/-- The pictures of the winner and of the loser after a win: two in turns, eleven frames
each, and at the same time. -/
structure Celebrates (win : ℕ → Bool) (happy sad : ℕ → Ending) : Prop where
  begins : ∀ n, win n → ∃ e < n + 11, ∀ i roms,
    (happy (e + 1 + i)).data roms = roms (i / 11 % 2 + 1) ∧
    (sad (e + 1 + i)).data roms = roms (i / 11 % 2 + 1)

lemma Standpic.walks (stand : ℕ → Bool) : Walks stand (frames stand) where
  stops n hstand hstand' roms := by
    rw [data_eq, (rounds stand).quits (by decide) (fun n hq => by rw [hq]; rfl) hstand hstand']
  begins n hn hwalk := by
    have h0 : (frames stand n).stage = 0 := by rw [stage, hn]
    have hstart : ∀ j < 11, (!stand (n + j)) = true := by
      intro j hj
      rw [hwalk j hj]
      rfl
    obtain ⟨e, hlow, hhigh, hphase, -, he⟩ := (rounds stand).starts (by decide) h0 hstart
    refine ⟨e, hlow, hhigh, ?_⟩
    intro i hquit roms
    rw [data_eq, (rounds stand).cycle (by decide) hphase he hquit]

lemma Ending.celebrates {win : ℕ → Bool} (hstays : ∀ n, win n → win (n + 1)) :
    Celebrates win (frames win) (frames win) where
  begins n hn := by
    obtain ⟨e, he, hcycle⟩ := goes_on win hstays hn
    refine ⟨e, he, ?_⟩
    intro i roms
    rw [data_eq, hcycle]
    exact ⟨rfl, rfl⟩

/-! ### In the console -/

def Hp.win (h : Hp) : Player → Bool
  | .one => h.p1win
  | .two => h.p2win

lemma Hp.win_step {h : Hp} (p : HpPorts) {q : Player} (hw : h.win q) : (h.step p).win q := by
  cases q with
  | one => exact (h.step_wins p).1 hw
  | two => exact (h.step_wins p).2 hw

namespace Console

variable (b : Board) (c : Console) (keys : ℕ → Keys)

def picturesOf (c : Console) : Player → Pictures
  | .one => c.pictures
  | .two => c.pictures1

/-- What the registers of the frame clock find at frame edge `k`. -/
def atFrame (k : ℕ) : Console := (after b c keys (frameEdge k)).tick b

/-- The picture machines of a player after `k` frames. -/
def picturesAfter (q : Player) : ℕ → Pictures
  | 0 => c.picturesOf q
  | k + 1 => (after b c keys (frameEdge k + 1)).picturesOf q

lemma picturesAfter_succ (q : Player) (k : ℕ) : picturesAfter b c keys q (k + 1) =
    (picturesAfter b c keys q k).step ((atFrame b c keys k).game.regs.act q).stand
      ((atFrame b c keys k).game.clk.hp.win q) ((atFrame b c keys k).game.clk.hp.win q.other) := by
  have hbefore : (after b c keys (frameEdge k)).picturesOf q = picturesAfter b c keys q k := by
    cases k with
    | zero => cases q <;> rfl
    | succ k =>
      obtain ⟨hp, hp1⟩ := pictures_after b c keys (k := k) (n := frameEdge (k + 1))
        (by have hroom := frameEdge_schedule.room k; omega) (Nat.le_refl _)
      cases q with
      | one => exact hp
      | two => exact hp1
  rw [picturesAfter, step_of_due b c keys (frameEdge_schedule.slow k), ← hbefore]
  cases q <;> rfl

lemma win_after {q : Player} {m n : ℕ} (hmn : m ≤ n) (hw : (after b c keys m).game.clk.hp.win q) :
    (after b c keys n).game.clk.hp.win q := by
  induction n, hmn using Nat.le_induction with
  | base => exact hw
  | succ n _ ih =>
    by_cases h : FrameDue n
    · rw [step_of_due b c keys h]
      exact Hp.win_step _ ih
    · rw [step_of_not_due b c keys h]
      exact Hp.win_step _ ih

lemma win_atFrame {q : Player} {k : ℕ} (hw : (atFrame b c keys k).game.clk.hp.win q) :
    (atFrame b c keys (k + 1)).game.clk.hp.win q := by
  have hnext : (after b c keys (frameEdge k + 1)).game.clk.hp.win q := by
    rw [step_of_due b c keys (frameEdge_schedule.slow k)]
    exact hw
  have hroom := frameEdge_schedule.room k
  exact Hp.win_step _ (win_after b c keys (by omega) hnext)

/-- The machines of a console that is switched on count its frames. -/
lemma picturesAfter_powerUp (s : HpState) (q : Player) (n : ℕ) : picturesAfter b (powerUp s) keys q n =
    ⟨Standpic.frames (fun k => ((atFrame b (powerUp s) keys k).game.regs.act q).stand) n,
      Ending.frames (fun k => (atFrame b (powerUp s) keys k).game.clk.hp.win q) n,
      Ending.frames (fun k => (atFrame b (powerUp s) keys k).game.clk.hp.win q.other) n⟩ := by
  induction n with
  | zero => cases q <;> rfl
  | succ n ih =>
    rw [picturesAfter_succ, ih]
    rfl

end Console

/-- In the console, from when it is switched on: both figures walk and stop as above, and
after a win of either player its figure is the one that cheers, and the other one mourns. -/
theorem pictures_cycle (b : Board) (s : HpState) (keys : ℕ → Keys) (q : Player) :
    Walks (fun k => ((Console.atFrame b (Console.powerUp s) keys k).game.regs.act q).stand)
      (fun n => (Console.picturesAfter b (Console.powerUp s) keys q n).standpic) ∧
    Celebrates (fun k => (Console.atFrame b (Console.powerUp s) keys k).game.clk.hp.win q)
      (fun n => (Console.picturesAfter b (Console.powerUp s) keys q n).happyEnding)
      (fun n => (Console.picturesAfter b (Console.powerUp s) keys q.other n).sadEnding) := by
  simp only [Console.picturesAfter_powerUp, Player.other_other]
  exact ⟨Standpic.walks _, Ending.celebrates (fun _ hw => Console.win_atFrame b _ keys hw)⟩

end StickFigureFighting
