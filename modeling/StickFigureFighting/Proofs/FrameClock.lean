import StickFigureFighting.Library.TwoRate
import StickFigureFighting.Model.Console
import StickFigureFighting.Proofs.Heights
import StickFigureFighting.Proofs.Raster

/-!
# The frame clock of the console

The raster makes the frame edges: one with the first edge of `Clk` after `Reset`, and then
one every 840000 edges, in line 491, below the picture. The machines on `Clk` settle within
nine edges, so that the console plays the game frame by frame: from the tenth edge of `Clk`
on, nothing in it changes until the next frame edge.
-/

namespace StickFigureFighting
open Library

/-! ### When the frame clock rises -/

/-- Edge `n + 1` of `Clk` after `Reset` brings a frame edge. -/
def FrameDue (n : ℕ) : Prop := n = 0 ∨ n % 840000 = 785600

instance : DecidablePred FrameDue := fun _ => inferInstanceAs (Decidable (_ ∨ _))

/-- The frame edges in their order. -/
def frameEdge : ℕ → ℕ
  | 0 => 0
  | k + 1 => 785600 + 840000 * k

lemma Vga.vs_rises_iff (n : ℕ) :
    (step^[n] reset).vs = false ∧ (step^[n + 1] reset).vs = true ↔ FrameDue n := by
  have hvs : ∀ n, (step^[n] reset).vs = (pixels ((n + 1) / 2)).vs := by
    intro n
    rw [step_iterate_reset]
  rw [hvs, hvs, FrameDue]
  rcases Nat.mod_two_eq_zero_or_one n with hn | hn
  · -- the pixel clock rises with this edge
    have hhalf : (n + 1) / 2 = n / 2 := by omega
    have hnext : (n + 1 + 1) / 2 = n / 2 + 1 := by omega
    rw [hhalf, hnext]
    change FrameEdge (n / 2) ↔ _
    by_cases h0 : n / 2 = 0
    · rw [h0]
      apply iff_of_true frameEdge_zero
      omega
    · obtain ⟨k, hk⟩ := Nat.exists_eq_succ_of_ne_zero h0
      rw [hk, Nat.succ_eq_add_one, frameEdge_succ_iff]
      omega
  · have hsame : (n + 1 + 1) / 2 = (n + 1) / 2 := by omega
    rw [hsame]
    apply iff_of_false
    · rintro ⟨hlow, hhigh⟩
      rw [hlow] at hhigh
      cases hhigh
    · omega

lemma frameEdge_schedule : Schedule FrameDue 9 frameEdge where
  slow k := by
    cases k with
    | zero => exact Or.inl rfl
    | succ k =>
      right
      rw [frameEdge]
      omega
  between k n hlow hhigh := by
    rw [frameEdge] at hhigh
    rintro (h0 | hn)
    · omega
    · cases k with
      | zero => omega
      | succ k =>
        rw [frameEdge] at hlow
        omega
  room k := by
    cases k with
    | zero => decide
    | succ k =>
      rw [frameEdge, frameEdge]
      omega

/-! ### Frame by frame -/

namespace Game

/-- A frame edge and what the machines on `Clk` make of it. -/
def playFrame (g : Game) (k : Keys) : Game := tick^[9] (g.frame k.keycode k.keycode1)

/-- The game after each frame edge since `Reset`, when `keys n` are the key bytes at edge
`n + 1` of `Clk`. -/
def frames (g : Game) (keys : ℕ → Keys) (k : ℕ) : Game :=
  trace playFrame g.reset.tick (fun k => keys (frameEdge k)) (k + 1)

/-- What `n` edges of `Clk` make the game do. -/
def eventsOf (keys : ℕ → Keys) : ℕ → List Event
  | 0 => []
  | n + 1 =>
    eventsOf keys n ++ (.tick :: if FrameDue n then [.frame (keys n).keycode (keys n).keycode1] else [])

end Game

namespace Console

variable (b : Board) (c : Console) (keys : ℕ → Keys)

/-- The console `n` edges of `Clk` after `Reset` is released. -/
def after (n : ℕ) : Console := trace (step b) c.reset keys n

lemma vga_after (n : ℕ) : (after b c keys n).display.vga = Vga.step^[n] Vga.reset := by
  induction n with
  | zero => rfl
  | succ n ih =>
    rw [Function.iterate_succ_apply', ← ih, after, trace, step]
    split <;> rfl

lemma step_of_due {n : ℕ} (h : FrameDue n) :
    after b c keys (n + 1) = ((after b c keys n).tick b).frame (keys n) := by
  obtain ⟨hlow, hhigh⟩ := (Vga.vs_rises_iff n).2 h
  rw [← vga_after b c keys] at hlow
  have hnext : ((after b c keys n).tick b).display.vga.vs = true := by
    rw [← hhigh, Function.iterate_succ_apply', ← vga_after b c keys]
    rfl
  show step b (after b c keys n) (keys n) = _
  rw [step, hlow, hnext]
  rfl

lemma step_of_not_due {n : ℕ} (h : ¬FrameDue n) :
    after b c keys (n + 1) = (after b c keys n).tick b := by
  rw [← Vga.vs_rises_iff, ← vga_after b c keys, Function.iterate_succ_apply', ← vga_after b c keys] at h
  show step b (after b c keys n) (keys n) = _
  rw [step, if_neg]
  rw [Bool.and_eq_true, Bool.not_eq_true']
  exact h

/-- The game in the console is a two-rate machine. -/
lemma game_after (n : ℕ) : (after b c keys n).game =
    twoRate Game.tick (fun (k : Keys) g => g.frame k.keycode k.keycode1) FrameDue
      c.game.reset keys n := by
  induction n with
  | zero => rfl
  | succ n ih =>
    by_cases h : FrameDue n
    · rw [step_of_due b c keys h, twoRate_of_due h, ← ih]
      rfl
    · rw [step_of_not_due b c keys h, twoRate_of_not_due h, ← ih]
      rfl

lemma game_after_eq_run (n : ℕ) :
    (after b c keys n).game = run Game.step c.game.reset (Game.eventsOf keys n) := by
  induction n with
  | zero => rfl
  | succ n ih =>
    rw [Game.eventsOf, run_append, ← ih]
    by_cases h : FrameDue n
    · rw [step_of_due b c keys h, if_pos h]
      rfl
    · rw [step_of_not_due b c keys h, if_neg h]
      rfl

end Console

/-! ### The distance of the frame edges -/

/-- The edges of `Clk` since the last frame edge, which the spacing of the events counts. -/
lemma eventsOf_spaced (keys : ℕ → Keys) (n : ℕ) : Meets countTicks Spaced 4 (Game.eventsOf keys n) ∧
    run countTicks 4 (Game.eventsOf keys n) =
      if n = 0 then 4 else if n ≤ 785600 then n - 1 else (n - 785601) % 840000 := by
  induction n with
  | zero => exact ⟨trivial, rfl⟩
  | succ n ih =>
    obtain ⟨hmeets, hcount⟩ := ih
    rw [Game.eventsOf, meets_append, run_append, hcount]
    by_cases h : FrameDue n
    · rw [if_pos h]
      refine ⟨⟨hmeets, trivial, ?_, trivial⟩, ?_⟩
      · show 4 ≤ countTicks _ .tick
        simp only [countTicks]
        rcases h with h | h <;> split <;> try split
        all_goals omega
      · simp only [run_cons, run_nil, countTicks]
        rcases h with h | h <;> split <;> try split
        all_goals omega
    · rw [if_neg h]
      rw [FrameDue] at h
      refine ⟨⟨hmeets, trivial, trivial⟩, ?_⟩
      simp only [run_cons, run_nil, countTicks]
      repeat' split
      all_goals omega

lemma reset_notMem_eventsOf (keys : ℕ → Keys) (n : ℕ) : .reset ∉ Game.eventsOf keys n := by
  induction n with
  | zero => simp [Game.eventsOf]
  | succ n ih =>
    rw [Game.eventsOf]
    split <;> simp [ih]

/-! ### The console plays the game -/

lemma OneHot.tick {g : Game} (h : OneHot g.regs) : OneHot g.tick.regs := h

lemma oneHot_settles {g : Game} (h : OneHot g.regs) : SettlesIn Game.tick 9 g := by
  have hs := ClkRegs.settles h.ball h.player2 g.clk
  rw [settlesIn_iff] at hs ⊢
  rw [Game.tick_iterate, Game.tick, hs]

lemma Console.game_at_rest (b : Board) (c : Console) (keys : ℕ → Keys) {k n : ℕ}
    (hn : frameEdge k + 10 ≤ n)
    (hn' : n ≤ frameEdge (k + 1)) : (after b c keys n).game = c.game.frames keys k := by
  rw [game_after, frameEdge_schedule.twoRate_eq_restingTrace (I := fun g => OneHot g.regs)
    (fun _ h => h.tick) (fun _ g h => h.frame g.clk _ _) (fun _ h => oneHot_settles h)
    (OneHot.reset _) hn hn', Game.frames, ← trace_step]
  rfl

/-- After every number of edges of `Clk`, the game of the console is the state of a run of
the game with all its frame edges apart; and from the tenth edge after frame edge `k` to the
next frame edge it is the game that has played `k + 1` frames. -/
theorem console_plays_frames (b : Board) (c : Console) (keys : ℕ → Keys) (n : ℕ) :
    (∃ es, (Console.after b c keys n).game = run Game.step c.game.reset es ∧ .reset ∉ es ∧
      Meets countTicks Spaced 4 es) ∧
    ∀ k, frameEdge k + 10 ≤ n → n ≤ frameEdge (k + 1) →
    (Console.after b c keys n).game = c.game.frames keys k := by
  constructor
  · exact ⟨_, Console.game_after_eq_run b c keys n, reset_notMem_eventsOf keys n,
      (eventsOf_spaced keys n).1⟩
  · intro k hn hn'
    exact Console.game_at_rest b c keys hn hn'

/-- The mode is chosen with the first frame and the match started with the second. -/
def startKeys (n : ℕ) : Keys := if n = 0 then ⟨0x004B, 0⟩ else ⟨0x0028, 0⟩

/-- A console with empty pictures. -/
def emptyBoard : Board where
  tables := ⟨fun _ _ => 0, fun _ _ => 0, fun _ _ => 0, fun _ _ => 0, fun _ _ => 0,
    fun _ _ => 0, fun _ _ => 0, fun _ _ => 0⟩
  sram _ := 0

theorem console_plays_frames_enter :
    (Console.after emptyBoard (Console.powerUp .normal) (fun _ => ⟨0x0028, 0⟩) 785600).game =
      (Console.powerUp .normal).game.frames (fun _ => ⟨0x0028, 0⟩) 0 :=
  (console_plays_frames emptyBoard (Console.powerUp .normal) (fun _ => ⟨0x0028, 0⟩) 785600).2 0
    (by decide) (by decide)

end StickFigureFighting
