import StickFigureFighting.Proofs.MatchLength
import StickFigureFighting.Proofs.Heights

/-!
# How long a hit throws its victim back

The arbiter holds the knock-back code of a hit until the window of the attack is over. A
window lasts 11 frames, so no hit throws its victim back in more than 11 frames. This needs
the edges of `Clk` between two frame edges: the arbiter takes three of them to withdraw the
code, and in a faster frame clock the victim would see it again.
-/

namespace StickFigureFighting
open Library

def Hp.code (h : Hp) : Player → BitVec 2
  | .one => h.back1
  | .two => h.back2

lemma HpInv.code_of_hit {h : Hp} (hi : HpInv h) {k : Attack} {q : Player}
    (hs : h.state = .S k q) (v : Player) :
    h.code v = 0#2 := by
  cases v with
  | one => exact (hi.clear_of_hit k q hs).1
  | two => exact (hi.clear_of_hit k q hs).2

lemma HpInv.code_of_zero {h : Hp} (hi : HpInv h) (hz : h.hpbar1 = 0#8 ∨ h.hpbar2 = 0#8) (v : Player) :
    h.code v = 0#2 := by
  cases v with
  | one => exact (hi.clear_of_zero hz).1
  | two => exact (hi.clear_of_zero hz).2

namespace Hp

variable {h : Hp} {p : HpPorts}

/-- A finished match changes only the win flags. -/
lemma step_of_zero (hz : h.hpbar1 = 0#8 ∨ h.hpbar2 = 0#8) :
    (h.step p).state = h.state ∧ ∀ v, (h.step p).code v = h.code v := by
  by_cases h2 : h.hpbar2 = 0#8
  · rw [step_of_hpbar2_zero h2]
    exact ⟨rfl, fun v => by cases v <;> rfl⟩
  · rw [step_of_hpbar1_zero h2 (hz.resolve_right h2)]
    exact ⟨rfl, fun v => by cases v <;> rfl⟩

/-- Only the victim of a hit gets a code. -/
lemma code_of_executes {k : Attack} {q : Player} (he : Executes h k q) :
    (h.step p).code q = h.code q := by
  obtain ⟨hs, h1, h2⟩ := he
  cases q with
  | one =>
    rw [step_hit_one h1 h2 hs]
    rfl
  | two =>
    rw [step_hit_two h1 h2 hs]
    rfl

/-- A code that is up after an edge of `Clk` comes from a hit at this edge, or it was up before
and the arbiter waits for the end of the attack. -/
lemma code_of_step (hi : HpInv h) (htaken : ∀ k q, h.state = .S k q → Executes h k q) {v : Player}
    (hcode : (h.step p).code v ≠ 0#2) :
    (∃ k, Executes h k v.other ∧ (h.step p).state = .is k v.other) ∨
      h.code v ≠ 0#2 ∧ ∃ k q, h.state = .is k q ∧
      (h.step p).state = if p.attack k q then .is k q else .normal := by
  by_cases hz : h.hpbar1 = 0#8 ∨ h.hpbar2 = 0#8
  · rw [(step_of_zero hz).2 v] at hcode
    exact absurd (hi.code_of_zero hz v) hcode
  obtain ⟨h1, h2⟩ := not_or.1 hz
  cases hs : h.state with
  | S k q =>
    have hexec := htaken k q hs
    rcases Player.eq_or_eq_other q v with rfl | rfl
    · rw [code_of_executes hexec] at hcode
      exact absurd (hi.code_of_hit hs q) hcode
    · exact Or.inl ⟨k, hexec, (step_of_executes hexec).1⟩
  | normal =>
    rw [step_normal h1 h2 hs] at hcode
    cases v <;> exact absurd rfl hcode
  | is k q =>
    right
    rw [step_is h1 h2 hs] at hcode ⊢
    exact ⟨by cases v <;> exact hcode, k, q, rfl, rfl⟩

end Hp

namespace Game

/-- 1 for a frame edge at which the controller of a player sees a knock-back code. -/
def recoils (v : Player) (g : Game) (e : Event) : ℕ := if e.isFrame ∧ g.clk.hp.code v ≠ 0#2 then 1 else 0

/-- The frames in which a player is thrown back. -/
def recoilsOf (v : Player) (g : Game) (es : List Event) : ℕ := total step (recoils v) g es

/-- `n` edges of `Clk` after a frame edge: a code belongs to a window that is open, or it is
withdrawn before the next frame edge. -/
structure Recoiling (g : Game) (n : ℕ) : Prop where
  hp : HpInv g.clk.hp
  counting : g.Counting
  taken : ∀ k q, g.clk.hp.state = .S k q → Executes g.clk.hp k q ∧
    ((hpPorts g.regs g.clk).attack k q ∨ n = 0)
  served : ∀ v, g.clk.hp.code v ≠ 0#2 →
    (∃ k, g.clk.hp.state = .is k v.other ∧ ((hpPorts g.regs g.clk).attack k v.other ∨ n ≤ 1)) ∨
      g.clk.hp.state = .normal ∧ n ≤ 2

namespace Recoiling

variable {g : Game} {n : ℕ}

lemma reset (hc : g.Counting) (n : ℕ) : Recoiling g.reset n where
  hp := hpInv_reset
  counting := hc.reset
  taken k q hs := by cases hs
  served v hcode := by cases v <;> exact absurd rfl hcode

lemma tick_taken (h : Recoiling g n) {k : Attack} {q : Player} (hs : g.tick.clk.hp.state = .S k q) :
    Executes g.tick.clk.hp k q ∧ (hpPorts g.regs g.clk).attack k q := by
  have hpair : Executes g.tick.clk.hp k q ↔ g.tick.clk.hp.hpbar1 ≠ 0#8 ∧ g.tick.clk.hp.hpbar2 ≠ 0#8 :=
    ⟨fun he => he.2, fun hb => ⟨hs, hb⟩⟩
  rw [hpair]
  have htaken := h.taken
  change (g.clk.hp.step (hpPorts g.regs g.clk)).state = .S k q at hs
  show ((g.clk.hp.step (hpPorts g.regs g.clk)).hpbar1 ≠ 0#8 ∧
    (g.clk.hp.step (hpPorts g.regs g.clk)).hpbar2 ≠ 0#8) ∧ _
  generalize hpPorts g.regs g.clk = p at *
  by_cases h2 : g.clk.hp.hpbar2 = 0#8
  · rw [Hp.step_of_hpbar2_zero h2] at hs
    exact absurd h2 (htaken k q hs).1.2.2
  by_cases h1 : g.clk.hp.hpbar1 = 0#8
  · rw [Hp.step_of_hpbar1_zero h2 h1] at hs
    exact absurd h1 (htaken k q hs).1.2.1
  rw [Hp.step_state h1 h2, Hp.nextState] at hs
  cases hstate : g.clk.hp.state with
  | S k' q' => simp [hstate] at hs
  | normal =>
    rw [hstate] at hs
    rw [Hp.step_normal h1 h2 hstate]
    exact ⟨⟨h1, h2⟩, Hp.attack_of_arbitrate hs⟩
  | is k' q' =>
    simp only [hstate] at hs
    split at hs <;> cases hs

lemma tick_served (h : Recoiling g n) {v : Player} (hcode : g.tick.clk.hp.code v ≠ 0#2) :
    (∃ k, g.tick.clk.hp.state = .is k v.other ∧ ((hpPorts g.regs g.clk).attack k v.other ∨ n = 0)) ∨
      g.tick.clk.hp.state = .normal ∧ n ≤ 1 := by
  rcases Hp.code_of_step h.hp (fun k q hs => (h.taken k q hs).1) hcode with
    ⟨k, hexec, hs⟩ | ⟨hbefore, k, q, hs, hs'⟩
  · exact Or.inl ⟨k, hs, (h.taken k v.other hexec.1).2⟩
  · change g.tick.clk.hp.state = _ at hs'
    rcases h.served v hbefore with ⟨k', hk, hattack⟩ | ⟨hnormal, -⟩
    · rw [hs, HpState.is.injEq] at hk
      obtain ⟨rfl, rfl⟩ := hk
      by_cases hopen : (hpPorts g.regs g.clk).attack k v.other
      · rw [if_pos hopen] at hs'
        exact Or.inl ⟨k, hs', Or.inl hopen⟩
      · rw [if_neg hopen] at hs'
        exact Or.inr ⟨hs', hattack.resolve_left hopen⟩
    · rw [hs] at hnormal
      cases hnormal

lemma tick (h : Recoiling g n) : Recoiling g.tick (n + 1) := by
  refine ⟨h.hp.step _, h.counting, ?_, ?_⟩
  · intro k q hs
    exact ⟨(h.tick_taken hs).1, Or.inl (h.tick_taken hs).2⟩
  · intro v hcode
    apply (h.tick_served hcode).imp
    · rintro ⟨k, hs, hattack⟩
      exact ⟨k, hs, hattack.imp_right (fun hn => by omega)⟩
    · rintro ⟨hs, hn⟩
      exact ⟨hs, by omega⟩

/-- At a frame edge, only the code of an open window is left. -/
lemma open_of_code (h : Recoiling g n) (hn : 4 ≤ n) {v : Player} (hcode : g.clk.hp.code v ≠ 0#2) :
    ∃ k, g.clk.hp.state = .is k v.other ∧ (hpPorts g.regs g.clk).attack k v.other := by
  rcases h.served v hcode with ⟨k, hs, hattack⟩ | ⟨-, hlate⟩
  · exact ⟨k, hs, hattack.resolve_right (by omega)⟩
  · omega

lemma frame (h : Recoiling g n) (hn : 4 ≤ n) (keycode keycode1 : BitVec 16) :
    Recoiling (g.frame keycode keycode1) 0 := by
  refine ⟨h.hp, h.counting.frame keycode keycode1, ?_, ?_⟩
  · intro k q hs
    exact ⟨(h.taken k q hs).1, Or.inr rfl⟩
  · intro v hcode
    obtain ⟨k, hs, -⟩ := h.open_of_code hn hcode
    exact Or.inl ⟨k, hs, Or.inr (Nat.zero_le 1)⟩

lemma step (h : Recoiling g n) (e : Event) (hn : Spaced n e) :
    Recoiling (g.step e) (countTicks n e) := by
  cases e with
  | tick => exact h.tick
  | frame keycode keycode1 => exact h.frame hn keycode keycode1
  | reset => exact reset h.counting n

end Recoiling

/-- How much longer the code of a player can be up: for the rest of the window it belongs to. -/
def recoilLeft (v : Player) (g : Game) : ℕ :=
  match g.clk.hp.state with
  | .is k q =>
    if q = v.other ∧ (hpPorts g.regs g.clk).attack k q ∧ g.clk.hp.code v ≠ 0#2 then
      toGo 10 ((g.regs.animation q).phase k).toNat
    else 0
  | .S _ _ | .normal => 0

lemma recoilLeft_le {g : Game} (hc : g.Counting) (v : Player) : recoilLeft v g ≤ 11 := by
  unfold recoilLeft
  split
  · rename_i k q hs
    have hle : toGo 10 ((g.regs.animation q).phase k).toNat ≤ 11 := (toGo_bounds (hc q k)).2
    split <;> omega
  all_goals exact Nat.zero_le 11

/-- With a rest to go, the player sees the code of an attack in its window. -/
lemma recoilLeft_cases (v : Player) (g : Game) : recoilLeft v g = 0 ∨
    ∃ k, g.clk.hp.state = .is k v.other ∧ (hpPorts g.regs g.clk).attack k v.other ∧
    g.clk.hp.code v ≠ 0#2 ∧
      recoilLeft v g = toGo 10 ((g.regs.animation v.other).phase k).toNat := by
  cases hs : g.clk.hp.state with
  | S k q => exact Or.inl (by simp [recoilLeft, hs])
  | normal => exact Or.inl (by simp [recoilLeft, hs])
  | is k q =>
    by_cases hif : q = v.other ∧ (hpPorts g.regs g.clk).attack k q ∧ g.clk.hp.code v ≠ 0#2
    · obtain ⟨rfl, hattack, hcode⟩ := hif
      exact Or.inr ⟨k, rfl, hattack, hcode, by simp [recoilLeft, hs, hattack, hcode]⟩
    · exact Or.inl (by simp only [recoilLeft, hs, if_neg hif])

lemma recoilLeft_of_window {g : Game} {v : Player} {k : Attack} (hs : g.clk.hp.state = .is k v.other)
    (hattack : (hpPorts g.regs g.clk).attack k v.other) (hcode : g.clk.hp.code v ≠ 0#2) :
    recoilLeft v g = toGo 10 ((g.regs.animation v.other).phase k).toNat := by
  simp only [recoilLeft, hs]
  exact if_pos ⟨trivial, hattack, hcode⟩

/-- The hits on a player at one event. -/
def struck (v : Player) (g : Game) (e : Event) : ℕ :=
  strikes .kick v.other g e + strikes .fight v.other g e + strikes .jump v.other g e

lemma one_le_struck {g : Game} {k : Attack} {v : Player} (h : Executes g.clk.hp k v.other) :
    1 ≤ struck v g .tick := by
  have hk : strikes k v.other g .tick = 1 := if_pos ⟨rfl, h⟩
  unfold struck
  cases k <;> omega

namespace Recoiling

variable {g : Game} {n : ℕ}

/-- A hit pays for the window it is made in. -/
lemma pay_tick (h : Recoiling g n) (v : Player) :
    recoilLeft v g.tick ≤ recoilLeft v g + 11 * struck v g .tick := by
  rcases recoilLeft_cases v g.tick with hzero | ⟨k, hs, hattack, hcode, hleft⟩
  · omega
  rcases Hp.code_of_step h.hp (fun k q hs => (h.taken k q hs).1) hcode with
    ⟨k', hexec, -⟩ | ⟨hbefore, k', q, hs', hs''⟩
  · have hle := recoilLeft_le h.tick.counting v
    have hpaid := one_le_struck hexec
    omega
  · -- the arbiter waits for the same window as before
    change g.tick.clk.hp.state = _ at hs''
    rw [hs] at hs''
    split at hs''
    · rw [HpState.is.injEq] at hs''
      obtain ⟨rfl, rfl⟩ := hs''
      rw [hleft, recoilLeft_of_window hs' hattack hbefore]
      exact Nat.le_add_right _ _
    · cases hs''

/-- A frame in which the code is up uses up one frame of the window. -/
lemma pay_frame (h : Recoiling g n) (hn : 4 ≤ n) (keycode keycode1 : BitVec 16) (v : Player) :
    recoilLeft v (g.frame keycode keycode1) + recoils v g (.frame keycode keycode1) ≤
      recoilLeft v g := by
  by_cases hcode : g.clk.hp.code v = 0#2
  · have hno : recoils v g (.frame keycode keycode1) = 0 := if_neg (fun h => h.2 hcode)
    rcases recoilLeft_cases v (g.frame keycode keycode1) with hzero | ⟨k, -, -, hcode', -⟩
    · omega
    · exact absurd hcode hcode'
  · have hone : recoils v g (.frame keycode keycode1) = 1 := if_pos ⟨rfl, hcode⟩
    obtain ⟨k, hs, hattack⟩ := h.open_of_code hn hcode
    rw [hone, recoilLeft_of_window hs hattack hcode]
    have hlow := (toGo_bounds (h.counting v.other k)).1
    change 1 ≤ toGo 10 _ at hlow
    rcases recoilLeft_cases v (g.frame keycode keycode1) with hzero | ⟨k', hs', hattack', -, hleft⟩
    · omega
    · -- the window is still open, so its counter is not at its end
      have hk : k' = k := by
        have heq := hs'.symm.trans hs
        rw [HpState.is.injEq] at heq
        exact heq.1
      subst hk
      obtain ⟨a, ha⟩ := g.animation_frame keycode keycode1 v.other
      obtain ⟨stop, request, hstage⟩ := (g.regs.animation v.other).stage_step a k'
      rw [hpPorts_attack_iff] at hattack hattack'
      rw [ha, hstage, hattack, nine_iff_toGo (h.counting v.other k')] at hattack'
      rw [hleft, ha, Animation.phase_step]
      have hnext := (@toGo_wrapTo _ 10#5 _ (h.counting v.other k')).2
      change toGo 10 (nextCounter _).toNat = if toGo 10 _ = 1 then 11 else toGo 10 _ - 1 at hnext
      rw [hnext]
      by_cases hlast : toGo 10 ((g.regs.animation v.other).phase k').toNat = 1
      · exfalso
        rw [hlast, Paced.nextStage] at hattack'
        cases k' <;> simp [Attack.length] at hattack'
      · rw [if_neg hlast]
        omega

lemma pay (h : Recoiling g n) (e : Event) (hn : Spaced n e) (v : Player) :
    recoilLeft v (g.step e) + recoils v g e ≤ recoilLeft v g + 11 * struck v g e := by
  cases e with
  | tick =>
    have hno : recoils v g .tick = 0 := if_neg (fun h => by cases h.1)
    have hpay := h.pay_tick v
    rw [hno]
    exact hpay
  | frame keycode keycode1 =>
    have hpay := h.pay_frame hn keycode keycode1 v
    exact hpay.trans (Nat.le_add_right _ _)
  | reset =>
    have hno : recoils v g .reset = 0 := if_neg (fun h => by cases h.1)
    rw [hno]
    exact Nat.zero_le _

lemma paid (h : Recoiling g n) {es : List Event} (hspaced : Meets countTicks Spaced n es) (v : Player) :
    recoilsOf v g es ≤ recoilLeft v g + 11 * hitsBy v.other g es := by
  have hany : Meets Game.step (fun _ _ => True) g es := meets_of_forall (fun _ _ => trivial) g
  have htotal := hany.total_le_monitor (I := Recoiling) (φ := recoilLeft v)
    (fun g n e h _ hn => h.step e hn)
    (fun g n e h _ hn => h.pay e hn v) hspaced h
  rw [total_mul] at htotal
  rw [hitsBy_eq_total]
  exact (Nat.le_add_left _ _).trans htotal

end Recoiling

end Game

/-- In every run from `Reset` with at least four edges of `Clk` between frame edges, a player
is thrown back in at most 11 frames for each hit. In any stretch of the run, all but 11 of
these frames are paid for by the hits within it: the others are left over from a hit before. -/
theorem recoil_bounded {g : Game} (hg : g.Reachable) {es es' : List Event}
    (hspaced : Meets countTicks Spaced 4 (es ++ es')) (v : Player) :
    Game.recoilsOf v g.reset (es ++ es') ≤ 11 * Game.hitsBy v.other g.reset (es ++ es') ∧
    Game.recoilsOf v (run Game.step g.reset es) es' ≤
      11 * (Game.hitsBy v.other (run Game.step g.reset es) es' + 1) := by
  have hstart := Game.Recoiling.reset hg.counting 4
  constructor
  · have hpaid := hstart.paid hspaced v
    have hzero : Game.recoilLeft v g.reset = 0 := rfl
    rwa [hzero, Nat.zero_add] at hpaid
  · obtain ⟨hbefore, hafter⟩ := meets_append.1 hspaced
    have hany : Meets Game.step (fun _ _ => True) g.reset es := meets_of_forall (fun _ _ => trivial) _
    have hthen := hany.invariant_monitor (I := Game.Recoiling)
      (fun g n e h _ hn => h.step e hn) hbefore hstart
    have hpaid := hthen.paid hafter v
    have hleft := Game.recoilLeft_le hthen.counting v
    omega

/-- What follows the first kick until its window is over. -/
def restOfKick : List Event := .tick :: .tick :: .tick :: heldShort 12 0 0

theorem recoil_bounded_firstKick :
    Game.recoilsOf .two (Game.powerUp .normal).reset (firstKick ++ restOfKick) ≤
      11 * Game.hitsBy (Player.other .two) (Game.powerUp .normal).reset (firstKick ++ restOfKick) := by
  have hreach : (Game.powerUp .normal).Reachable := Game.reachable_run .normal []
  have hspaced : Meets countTicks Spaced 4 (firstKick ++ restOfKick) := by decide +kernel
  exact (recoil_bounded hreach hspaced .two).1

example : Game.recoilsOf .two (Game.powerUp .normal).reset (firstKick ++ restOfKick) = 11 ∧
    Game.hitsBy .one (Game.powerUp .normal).reset (firstKick ++ restOfKick) = 1 :=
  ⟨by decide +kernel, by decide +kernel⟩

end StickFigureFighting
