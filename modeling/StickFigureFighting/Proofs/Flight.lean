import StickFigureFighting.Proofs.Heights

/-!
# An undisturbed jump

A figure's height and its `gravity` machine form a system of their own, which reads the
jump flag, the opponent's height and the distance. With the opponent away, a jump rises 8
lines a frame until line 116 and falls back at the same rate, whatever the flag does.
-/

namespace StickFigureFighting
open Library

/-! ### Height and gravity of one figure -/

structure Jumper where
  ballYPos : BitVec 10
  gravity : Gravity
deriving DecidableEq, Repr

namespace Jumper

/-- One edge of `Clk`. Of the ports, the figure's own height is its register. -/
def tick (j : Jumper) (p : GravityPorts) : Jumper :=
  ⟨j.ballYPos, j.gravity.step { p with ballYPos := j.ballYPos }⟩

def frame (j : Jumper) : Jumper := ⟨j.ballYPos + j.gravity.ballYMotion, j.gravity⟩

/-- The edges of `Clk` between two frame edges, and the second of these. -/
def segment (j : Jumper) (ticks : List GravityPorts) : Jumper := (run tick j ticks).frame

/-- On the floor, with the machine at rest. -/
def standing : Jumper := ⟨300#10, Gravity.reset⟩

def flight (ticks : ℕ → List GravityPorts) : ℕ → Jumper := trace segment standing ticks

variable {y : BitVec 10} {p q : GravityPorts} {ps : List GravityPorts}

/-! ### What the machine does between two frames -/

lemma run_tick_of_fixed {j : Jumper} (h : ∀ p ∈ ps, j.tick p = j) : run tick j ps = j := by
  induction ps with
  | nil => rfl
  | cons p ps ih =>
    rw [run_cons, h p List.mem_cons_self]
    exact ih (fun q hq => h q (List.mem_cons_of_mem p hq))

lemma tick_rising (hy : 120 < y.toNat) (hnear : p.near = false) :
    tick ⟨y, .state1, twosComplement 8#10⟩ p = ⟨y, .state1, twosComplement 8#10⟩ := by
  have hlow : ¬y ≤ 120#10 := by bv_omega
  simp [tick, Gravity.step, Gravity.nextState, Gravity.nextBallYMotion,
    Gravity.riseReversed, hnear, hlow]

lemma tick_falling (hy : y.toNat < 300) (hnear : p.near = false) :
    tick ⟨y, .state2, 8#10⟩ p = ⟨y, .state2, 8#10⟩ := by
  have hhigh : ¬y ≥ 300#10 := by bv_omega
  simp [tick, Gravity.step, Gravity.nextState, Gravity.nextBallYMotion,
    Gravity.fallReversed, hnear, hhigh]

lemma tick_takeoff (hjump : p.jump) (hnear : q.near = false) :
    (standing.tick p).tick q = ⟨300#10, .state1, twosComplement 8#10⟩ := by
  simp [standing, Gravity.reset, tick, Gravity.step, Gravity.nextState, Gravity.nextBallYMotion,
    Gravity.riseReversed, hjump, hnear]

lemma tick_turn (hy : y.toNat ≤ 120) (hnear : p.near = false) (hnear' : q.near = false) :
    ((tick ⟨y, .state1, twosComplement 8#10⟩ p).tick q) = ⟨y, .state2, 8#10⟩ := by
  have hlow : y ≤ 120#10 := by bv_omega
  have hhigh : ¬y ≥ 300#10 := by bv_omega
  simp [tick, Gravity.step, Gravity.nextState, Gravity.nextBallYMotion, Gravity.riseReversed,
    Gravity.fallReversed, hnear, hnear', hlow, hhigh]

/-! ### The flight -/

/-- The figure `k` frame edges after the jump flag was raised. -/
def phase (k : ℕ) : Jumper where
  ballYPos := BitVec.ofNat 10 (300 - 8 * min k (46 - k))
  gravity :=
    if k = 0 then Gravity.reset
    else if k ≤ 23 then ⟨.state1, twosComplement 8#10⟩
    else ⟨.state2, 8#10⟩

lemma phase_rising {k : ℕ} (h0 : k ≠ 0) (hk : k ≤ 23) :
    phase k = ⟨BitVec.ofNat 10 (300 - 8 * k), .state1, twosComplement 8#10⟩ := by
  rw [phase, if_neg h0, if_pos hk, Nat.min_eq_left (by omega)]

lemma phase_falling {k : ℕ} (hk : 23 < k) :
    phase k = ⟨BitVec.ofNat 10 (300 - 8 * (46 - k)), .state2, 8#10⟩ := by
  rw [phase, if_neg (by omega), if_neg (by omega), Nat.min_eq_right (by omega)]

lemma frame_rising {k : ℕ} (hk : k < 23) :
    frame ⟨BitVec.ofNat 10 (300 - 8 * k), .state1, twosComplement 8#10⟩ = phase (k + 1) := by
  rw [phase_rising (by omega) (by omega), frame, Jumper.mk.injEq]
  refine ⟨?_, rfl⟩
  simp only [twosComplement]
  bv_omega

lemma frame_falling {k : ℕ} (hlow : 23 ≤ k) (hk : k < 46) :
    frame ⟨BitVec.ofNat 10 (300 - 8 * (46 - k)), .state2, 8#10⟩ = phase (k + 1) := by
  rw [phase_falling (by omega), frame, Jumper.mk.injEq]
  refine ⟨?_, rfl⟩
  bv_omega

lemma segment_phase {k : ℕ} (hk : k < 46) (hlen : 4 ≤ ps.length) (hnear : ∀ p ∈ ps, p.near = false)
    (hjump : k = 0 → ∀ p ∈ ps.head?, p.jump) : (phase k).segment ps = phase (k + 1) := by
  match ps, hlen with
  | p :: q :: ps, _ =>
    have hp := hnear p (by simp)
    have hq := hnear q (by simp)
    have hps : ∀ r ∈ ps, r.near = false := fun r hr => hnear r (by simp [hr])
    rw [segment, run_cons, run_cons]
    by_cases h0 : k = 0
    · subst h0
      have hfirst : p.jump := hjump rfl p rfl
      show (run tick ((standing.tick p).tick q) ps).frame = phase 1
      rw [tick_takeoff hfirst hq, run_tick_of_fixed (fun r hr => tick_rising (by decide) (hps r hr))]
      exact frame_rising (k := 0) (by omega)
    by_cases hrise : k < 23
    · have hy : 120 < (BitVec.ofNat 10 (300 - 8 * k)).toNat := by
        rw [BitVec.toNat_ofNat]
        omega
      rw [phase_rising h0 hrise.le, tick_rising hy hp, tick_rising hy hq,
        run_tick_of_fixed (fun r hr => tick_rising hy (hps r hr))]
      exact frame_rising hrise
    by_cases htop : k = 23
    · subst htop
      rw [phase_rising (by omega) le_rfl, tick_turn (by decide) hp hq,
        run_tick_of_fixed (fun r hr => tick_falling (by decide) (hps r hr))]
      exact frame_falling (k := 23) le_rfl (by omega)
    · have hy : (BitVec.ofNat 10 (300 - 8 * (46 - k))).toNat < 300 := by
        rw [BitVec.toNat_ofNat]
        omega
      rw [phase_falling (by omega), tick_falling hy hp, tick_falling hy hq,
        run_tick_of_fixed (fun r hr => tick_falling hy (hps r hr))]
      exact frame_falling (by omega) hk

lemma flight_eq_phase {ticks : ℕ → List GravityPorts} {k : ℕ} (hk : k ≤ 46)
    (hlen : ∀ i < k, 4 ≤ (ticks i).length) (hnear : ∀ i < k, ∀ p ∈ ticks i, p.near = false)
    (hjump : ∀ p ∈ (ticks 0).head?, p.jump) : flight ticks k = phase k := by
  induction k with
  | zero => rfl
  | succ k ih =>
    have hprev := ih (by omega) (fun i hi => hlen i (by omega)) (fun i hi => hnear i (by omega))
    show (flight ticks k).segment (ticks k) = phase (k + 1)
    rw [hprev]
    refine segment_phase (by omega) (hlen k (by omega)) (hnear k (by omega)) ?_
    rintro rfl
    exact hjump

/-- With at least four edges of `Clk` to a frame, the jump flag high at the first of them
and the opponent away, the heights of a jump are the same in every run. -/
theorem jump_height (ticks : ℕ → List GravityPorts) (k : ℕ) (hk : k ≤ 46)
    (hlen : ∀ i < k, 4 ≤ (ticks i).length) (hnear : ∀ i < k, ∀ p ∈ ticks i, p.near = false)
    (hjump : ∀ p ∈ (ticks 0).head?, p.jump) :
    (flight ticks k).ballYPos.toNat = 300 - 8 * min k (46 - k) := by
  rw [flight_eq_phase hk hlen hnear hjump, phase, BitVec.toNat_ofNat]
  omega

/-- The flag is raised for one edge only, and the frames are of different lengths. -/
theorem jump_height_top :
    (flight (fun i => ⟨0#10, 300#10, true, false⟩ :: List.replicate (i + 3) ⟨0#10, 0#10, false, false⟩)
      23).ballYPos.toNat = 116 := by
  apply jump_height
  · decide
  · intro i _
    simp
  · intro i _ p hp
    rcases List.mem_cons.1 hp with rfl | hp
    · rfl
    · rw [List.eq_of_mem_replicate hp]
  · intro p hp
    rw [← Option.mem_some_iff.1 hp]

end Jumper

/-! ### The two players -/

namespace Game

def jumper0 (g : Game) : Jumper := ⟨g.regs.ball.ballYPos, g.clk.gravity0⟩

def jumper1 (g : Game) : Jumper := ⟨g.regs.ballSecond.ballYPos, g.clk.gravity1⟩

/-- The game after each of a sequence of frames, given by their edges of `Clk` and their
key bytes. -/
def play (g : Game) (frames : ℕ → ℕ × BitVec 16 × BitVec 16) : ℕ → Game :=
  trace (fun g s => run step g (List.replicate s.1 .tick ++ [.frame s.2.1 s.2.2])) g frames

variable {figure : Game → Jumper} (ports : FrameRegs → GravityPorts)

lemma run_ticks (htick : ∀ g : Game, figure g.tick = (figure g).tick (ports g.regs)) (g : Game) (n : ℕ) :
    figure (run step g (List.replicate n .tick)) =
      run Jumper.tick (figure g) (List.replicate n (ports g.regs)) := by
  induction n generalizing g with
  | zero => rfl
  | succ n ih =>
    rw [List.replicate_succ, List.replicate_succ, run_cons, run_cons, ← htick]
    exact ih g.tick

lemma play_eq_phase (htick : ∀ g : Game, figure g.tick = (figure g).tick (ports g.regs))
    (hframe : ∀ g keycode keycode1, figure (frame keycode keycode1 g) = (figure g).frame) {g : Game}
    {frames : ℕ → ℕ × BitVec 16 × BitVec 16} {k : ℕ} (hk : k ≤ 46) (hstand : figure g = Jumper.standing)
    (hjump : (ports g.regs).jump) (hlen : ∀ i < k, 4 ≤ (frames i).1)
    (hnear : ∀ i < k, (ports (g.play frames i).regs).near = false) :
    figure (g.play frames k) = Jumper.phase k := by
  have hflight : ∀ n, figure (g.play frames n) =
      Jumper.flight (fun i => List.replicate (frames i).1 (ports (g.play frames i).regs)) n := by
    intro n
    induction n with
    | zero => exact hstand
    | succ n ih =>
      show figure (run step (g.play frames n) (List.replicate _ .tick ++ [.frame _ _])) = _
      rw [run_append, run_cons, run_nil, step, hframe, run_ticks ports htick, ih]
      rfl
  rw [hflight]
  apply Jumper.flight_eq_phase hk
  · intro i hi
    rw [List.length_replicate]
    exact hlen i hi
  · intro i hi p hp
    rw [List.eq_of_mem_replicate hp]
    exact hnear i hi
  · intro p hp
    rw [List.eq_of_mem_replicate (List.mem_of_mem_head? hp)]
    exact hjump

theorem ball_play_eq_phase {g : Game} {frames : ℕ → ℕ × BitVec 16 × BitVec 16} {k : ℕ} (hk : k ≤ 46)
    (hstand : g.jumper0 = Jumper.standing) (hjump : g.regs.ball.act.jump)
    (hlen : ∀ i < k, 4 ≤ (frames i).1)
    (hnear : ∀ i < k, (g.play frames i).regs.gravityPorts0.near = false) :
    (g.play frames k).jumper0 = Jumper.phase k :=
  play_eq_phase FrameRegs.gravityPorts0 (fun _ => rfl) (fun _ _ _ => rfl) hk hstand hjump hlen hnear

theorem ballSecond_play_eq_phase {g : Game} {frames : ℕ → ℕ × BitVec 16 × BitVec 16}
    {k : ℕ} (hk : k ≤ 46)
    (hstand : g.jumper1 = Jumper.standing) (hjump : g.regs.ballSecond.act.jump)
    (hlen : ∀ i < k, 4 ≤ (frames i).1)
    (hnear : ∀ i < k, (g.play frames i).regs.gravityPorts1.near = false) :
    (g.play frames k).jumper1 = Jumper.phase k :=
  play_eq_phase FrameRegs.gravityPorts1 (fun _ => rfl) (fun _ _ _ => rfl) hk hstand hjump hlen hnear

end Game

end StickFigureFighting
