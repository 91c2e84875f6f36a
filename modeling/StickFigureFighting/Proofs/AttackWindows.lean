import StickFigureFighting.Library.Counters
import StickFigureFighting.Library.Paced
import StickFigureFighting.Library.Runs
import StickFigureFighting.Model.Animation

/-!
# The attack windows

A kick, a punch and a jump attack are valid in the last stage of their animation. The
stages change in one phase of `counter`, and the wait after them ends in one phase of
`counter1`. Neither counter ever restarts on a request, so that requests are answered
late, but what they start takes the same time in every run.
-/

namespace StickFigureFighting
open Library

lemma decide_counter_eq {c : BitVec 5} {n k : ℕ} (hc : c.toNat = n) (hk : k < 32) :
    decide (c = BitVec.ofNat 5 k) = decide (n = k) := by
  rw [decide_eq_decide, ← hc, ← BitVec.toNat_inj, BitVec.toNat_ofNat, Nat.mod_eq_of_lt hk]

namespace Strike

def stage (m : Strike) : ℕ :=
  match m.state with
  | .stand => 0
  | .strike1 => 1
  | .strike2 => 2
  | .wait => 3

lemma on_iff (m : Strike) : m.on = true ↔ 1 ≤ m.stage ∧ m.stage ≤ 2 := by
  cases h : m.state <;> simp [on, stage, h]

lemma valid_iff (m : Strike) : m.valid = true ↔ m.stage = 2 := by
  cases h : m.state <;> simp [valid, stage, h]

lemma state_stand_iff (m : Strike) : m.state = .stand ↔ m.stage = 0 := by
  cases h : m.state <;> simp [stage, h]

lemma stage_step (m : Strike) (request : Bool) : (m.step request).stage =
    Paced.nextStage 2 (m.counter = 9#5) (m.counter1 = 28#5) request m.stage := by
  cases h : m.state with
  | stand =>
    by_cases hc : m.counter = 9#5 <;> cases request <;>
      simp [step, nextState, stage, Paced.nextStage, h, hc]
  | strike1 | strike2 =>
    by_cases hc : m.counter = 9#5 <;> simp [step, nextState, stage, Paced.nextStage, h, hc]
  | wait => by_cases hc : m.counter1 = 28#5 <;> simp [step, nextState, stage, Paced.nextStage, h, hc]

/-- The states of the machine after each frame, under any requests. -/
def frames (request : ℕ → Bool) : ℕ → Strike := trace (fun m r => step r m) powerUp request

variable (request : ℕ → Bool)

lemma counter_frames (n : ℕ) : (frames request n).counter.toNat = n % 11 :=
  toNat_trace_counter Strike.counter 10#5 rfl (fun _ _ => rfl) request n

lemma counter1_frames (n : ℕ) : (frames request n).counter1.toNat = n % 30 :=
  toNat_trace_counter Strike.counter1 29#5 rfl (fun _ _ => rfl) request n

lemma paced : Paced 11 9 30 28 2 (fun n => request n = true) (fun n => (frames request n).stage) := by
  apply Paced.of_nextStage
  · rfl
  · intro n
    rw [← decide_counter_eq (counter_frames request n) (by decide),
      ← decide_counter_eq (counter1_frames request n) (by decide)]
    exact stage_step _ _

end Strike

namespace Jump

def stage (m : Jump) : ℕ :=
  match m.state with
  | .stand => 0
  | .jump1 => 1
  | .jump2 => 2
  | .jump3 => 3
  | .jump4 => 4
  | .wait => 5

lemma on_iff (m : Jump) : m.on = true ↔ 1 ≤ m.stage ∧ m.stage ≤ 4 := by
  cases h : m.state <;> simp [on, stage, h]

lemma valid_iff (m : Jump) : m.valid = true ↔ m.stage = 4 := by
  cases h : m.state <;> simp [valid, stage, h]

lemma state_stand_iff (m : Jump) : m.state = .stand ↔ m.stage = 0 := by
  cases h : m.state <;> simp [stage, h]

lemma stage_step (m : Jump) (jump : Bool) : (m.step jump).stage =
    Paced.nextStage 4 (m.counter = 9#5) (m.counter1 = 28#5) jump m.stage := by
  cases h : m.state with
  | stand =>
    by_cases hc : m.counter = 9#5 <;> cases jump <;>
      simp [step, nextState, stage, Paced.nextStage, h, hc]
  | jump1 | jump2 | jump3 | jump4 =>
    by_cases hc : m.counter = 9#5 <;> simp [step, nextState, stage, Paced.nextStage, h, hc]
  | wait => by_cases hc : m.counter1 = 28#5 <;> simp [step, nextState, stage, Paced.nextStage, h, hc]

def frames (jump : ℕ → Bool) : ℕ → Jump := trace (fun m j => step j m) powerUp jump

variable (jump : ℕ → Bool)

lemma counter_frames (n : ℕ) : (frames jump n).counter.toNat = n % 11 :=
  toNat_trace_counter Jump.counter 10#5 rfl (fun _ _ => rfl) jump n

lemma counter1_frames (n : ℕ) : (frames jump n).counter1.toNat = n % 30 :=
  toNat_trace_counter Jump.counter1 29#5 rfl (fun _ _ => rfl) jump n

lemma paced : Paced 11 9 30 28 4 (fun n => jump n = true) (fun n => (frames jump n).stage) := by
  apply Paced.of_nextStage
  · rfl
  · intro n
    rw [← decide_counter_eq (counter_frames jump n) (by decide),
      ← decide_counter_eq (counter1_frames jump n) (by decide)]
    exact stage_step _ _

end Jump

/-- The windows of the kick and punch machines and those of the jump machine, under any
requests. -/
theorem attacks_rateLimited (request : ℕ → Bool) :
    RateLimited 11 11 33 30 (fun n => (Strike.frames request n).on = true)
        (fun n => (Strike.frames request n).valid = true)
          (fun n => (Strike.frames request n).state = .stand) ∧
      RateLimited 11 33 55 30 (fun n => (Jump.frames request n).on = true)
        (fun n => (Jump.frames request n).valid = true)
          (fun n => (Jump.frames request n).state = .stand) := by
  refine ⟨?_, ?_⟩
  · simp only [Strike.on_iff, Strike.valid_iff, Strike.state_stand_iff]
    exact (Strike.paced request).rateLimited (by decide) (by decide)
  · simp only [Jump.on_iff, Jump.valid_iff, Jump.state_stand_iff]
    exact (Jump.paced request).rateLimited (by decide) (by decide)

example : (Strike.frames (fun _ => true) 21).valid = true ∧
    (Jump.frames (fun _ => true) 43).valid = true := by
  decide

end StickFigureFighting
