import StickFigureFighting.Library.Accounts
import StickFigureFighting.Proofs.KeyReports

/-!
# Keys that are held down

A frame edge between the two stores samples halves of two reports, but not for long. While
the report in memory stays the same, every pass of the loop carries its words, apart from
the pass that the loop is in at the beginning. So after two passes the game sees the keys
that are held, and nothing else until they change.
-/

namespace StickFigureFighting
open Library

/-- After the event, memory holds report `r` if it held it before; the processor goes on. -/
def SystemEvent.Keeps (r : HidReport) : SystemEvent → Prop
  | .deliver r' => r' = r
  | .enumerated buffer => buffer = r
  | .restart => False
  | .loop _ | .tick | .frame | .reset => True

namespace Host

/-- The words on their way to the cores are those of report `r`. -/
structure Carries (r : HidReport) (h : Host) : Prop where
  storeFirst : h.pc = .storeFirst → h.keycode = r.first
  halfway : h.halfway → h.keycodeExport = r.first
  storeSecond : h.pc = .storeSecond → h.keycode1 = r.second

/-- So are the words in the cores. -/
structure Shows (r : HidReport) (h : Host) : Prop extends Carries r h where
  first : h.keycodeExport = r.first
  second : h.keycode1Export = r.second

variable {r : HidReport} {h : Host}

lemma carries_of_waiting {pc : LoopPc} (hpc : pc.waiting) : Carries r { h with pc := pc } := by
  obtain ⟨hfirst, hread, hsecond⟩ := hpc
  refine ⟨fun hp => absurd hp hfirst, ?_, fun hp => absurd hp hsecond⟩
  simp [Host.halfway, hread, hsecond]

lemma advance_of_storeSecond (hpc : h.pc = .storeSecond) (value : BitVec 16) :
    h.advance value = { h with pc := .readCtl, keycode1Export := h.keycode1 } := by
  simp [advance, hpc]

/-- The five kinds of steps of the loop: only four of them touch more than `pc`. -/
lemma advance_cases (value : BitVec 16) (h : Host) :
    (h.pc = .readFirst ∧ h.advance value = { h with pc := .storeFirst, keycode := h.buffer.first }) ∨
    (h.pc = .storeFirst ∧ h.advance value = { h with pc := .readSecond, keycodeExport := h.keycode }) ∨
    (h.pc = .readSecond ∧ h.advance value = { h with pc := .storeSecond, keycode1 := h.buffer.second }) ∨
    (h.pc = .storeSecond ∧ h.advance value = { h with pc := .readCtl, keycode1Export := h.keycode1 }) ∨
    (h.pc ≠ .storeSecond ∧ ∃ pc, pc.waiting ∧ h.advance value = { h with pc := pc }) := by
  by_cases hread : h.pc = .readFirst
  · exact Or.inl ⟨hread, by simp [advance, hread]⟩
  by_cases hstore : h.pc = .storeFirst
  · exact Or.inr (Or.inl ⟨hstore, by simp [advance, hstore]⟩)
  by_cases hread' : h.pc = .readSecond
  · exact Or.inr (Or.inr (Or.inl ⟨hread', by simp [advance, hread']⟩))
  by_cases hstore' : h.pc = .storeSecond
  · exact Or.inr (Or.inr (Or.inr (Or.inl ⟨hstore', advance_of_storeSecond hstore' value⟩)))
  obtain ⟨pc, hadv, hwaiting, -⟩ := h.advance_status value ⟨hstore, hread', hstore'⟩ hread
  exact Or.inr (Or.inr (Or.inr (Or.inr ⟨hstore', pc, hwaiting, hadv⟩)))

/-- After the second store nothing is on its way. -/
lemma carries_of_storeSecond (hpc : h.pc = .storeSecond) (value : BitVec 16) :
    (h.advance value).Carries r := by
  rw [advance_of_storeSecond hpc]
  refine ⟨?_, ?_, ?_⟩ <;> simp [Host.halfway]

lemma Carries.advance (hc : h.Carries r) (hbuf : h.buffer = r) (value : BitVec 16) :
    (h.advance value).Carries r := by
  rcases advance_cases value h with ⟨-, ha⟩ | ⟨hpc, ha⟩ | ⟨hpc, ha⟩ | ⟨hpc, -⟩ | ⟨-, pc, hwaiting, ha⟩
  · rw [ha]
    refine ⟨fun _ => congrArg HidReport.first hbuf, ?_, ?_⟩ <;> simp [Host.halfway]
  · rw [ha]
    exact ⟨by simp, fun _ => hc.storeFirst hpc, by simp⟩
  · have hhalf : h.halfway := by simp [Host.halfway, hpc]
    rw [ha]
    exact ⟨by simp, fun _ => hc.halfway hhalf, fun _ => congrArg HidReport.second hbuf⟩
  · exact carries_of_storeSecond hpc value
  · rw [ha]
    exact carries_of_waiting hwaiting

lemma Shows.advance (hs : h.Shows r) (hbuf : h.buffer = r) (value : BitVec 16) :
    (h.advance value).Shows r := by
  have hc := hs.toCarries.advance hbuf value
  rcases advance_cases value h with ⟨-, ha⟩ | ⟨hpc, ha⟩ | ⟨-, ha⟩ | ⟨hpc, ha⟩ | ⟨-, pc, -, ha⟩
  · exact ⟨hc, by rw [ha]; exact hs.first, by rw [ha]; exact hs.second⟩
  · exact ⟨hc, by rw [ha]; exact hs.storeFirst hpc, by rw [ha]; exact hs.second⟩
  · exact ⟨hc, by rw [ha]; exact hs.first, by rw [ha]; exact hs.second⟩
  · exact ⟨hc, by rw [ha]; exact hs.first, by rw [ha]; exact hs.storeSecond hpc⟩
  · exact ⟨hc, by rw [ha]; exact hs.first, by rw [ha]; exact hs.second⟩

lemma Carries.shows_of_storeSecond (hc : h.Carries r) (hpc : h.pc = .storeSecond) (value : BitVec 16) :
    (h.advance value).Shows r := by
  have hhalf : h.halfway := by simp [Host.halfway, hpc]
  have hnext : (h.advance value).Carries r := carries_of_storeSecond hpc value
  rw [advance_of_storeSecond hpc] at hnext ⊢
  exact ⟨hnext, hc.halfway hhalf, hc.storeSecond hpc⟩

end Host

namespace System

variable {r : HidReport} {s : System} {e : SystemEvent}

/-- 1 for the second store of the loop. -/
def published (s : System) : SystemEvent → ℕ
  | .loop _ => if s.host.pc = .storeSecond then 1 else 0
  | _ => 0

/-- The passes of the loop that are completed in a run. -/
def passes (s : System) (es : List SystemEvent) : ℕ := total step published s es

lemma buffer_step (hbuf : s.host.buffer = r) (he : e.Keeps r) : (s.step e).host.buffer = r := by
  cases e with
  | loop value =>
    rcases s.host.advance_cases value with ⟨-, ha⟩ | ⟨-, ha⟩ | ⟨-, ha⟩ | ⟨-, ha⟩ | ⟨-, pc, -, ha⟩
    all_goals
      show (s.host.advance value).buffer = r
      rw [ha]
      exact hbuf
  | enumerated buffer =>
    show (s.host.enumerated buffer).buffer = r
    unfold Host.enumerated
    split
    · exact he
    · exact hbuf
  | deliver r' => exact he
  | restart => exact he.elim
  | tick => exact hbuf
  | frame => exact hbuf
  | reset => exact hbuf

lemma enumerated_host (buffer : HidReport) (h : Host) : h.enumerated buffer = h ∨
    h.enumerated buffer = { h with pc := .pollStatus, buffer := buffer } := by
  unfold Host.enumerated
  split
  · exact Or.inr rfl
  · exact Or.inl rfl

lemma carries_step (hc : s.host.Carries r) (hbuf : s.host.buffer = r) (he : e.Keeps r) :
    (s.step e).host.Carries r := by
  cases e with
  | loop value => exact hc.advance hbuf value
  | enumerated buffer =>
    show (s.host.enumerated buffer).Carries r
    rcases enumerated_host buffer s.host with h | h
    · rw [h]
      exact hc
    · rw [h]
      refine ⟨?_, ?_, ?_⟩ <;> simp [Host.halfway]
  | deliver r' => exact ⟨hc.storeFirst, hc.halfway, hc.storeSecond⟩
  | restart => exact he.elim
  | tick => exact hc
  | frame => exact hc
  | reset => exact hc

lemma shows_step (hs : s.host.Shows r) (hbuf : s.host.buffer = r) (he : e.Keeps r) :
    (s.step e).host.Shows r := by
  cases e with
  | loop value => exact hs.advance hbuf value
  | enumerated buffer =>
    have hc := carries_step hs.toCarries hbuf he
    change (s.host.enumerated buffer).Carries r at hc
    show (s.host.enumerated buffer).Shows r
    rcases enumerated_host buffer s.host with h | h
    · rw [h]
      exact hs
    · rw [h] at hc ⊢
      exact ⟨hc, hs.first, hs.second⟩
  | deliver r' => exact ⟨carries_step hs.toCarries hbuf he, hs.first, hs.second⟩
  | restart => exact he.elim
  | tick => exact hs
  | frame => exact hs
  | reset => exact hs

/-- The passes to go before the next one is a pass with the words of `r` alone. -/
noncomputable def stale (r : HidReport) (s : System) : ℕ :=
  open Classical in if s.host.Carries r then 0 else 1

lemma stale_step (hbuf : s.host.buffer = r) (he : e.Keeps r) (hno : ¬(s.step e).host.Shows r) :
    stale r (s.step e) + published s e ≤ stale r s := by
  unfold stale
  by_cases hstore : published s e = 0
  · rw [hstore]
    by_cases hc : s.host.Carries r
    · rw [if_pos hc, if_pos (carries_step hc hbuf he)]
    · rw [if_neg hc]
      split <;> omega
  · cases e with
    | loop value =>
      have hpc : s.host.pc = .storeSecond := by
        by_contra hne
        exact hstore (if_neg hne)
      have hone : published s (.loop value) = 1 := if_pos hpc
      have hnext : (s.step (.loop value)).host.Carries r := Host.carries_of_storeSecond hpc value
      have hc : ¬s.host.Carries r := fun hc => hno (hc.shows_of_storeSecond hpc value)
      rw [if_pos hnext, if_neg hc, hone]
    | _ => exact absurd rfl hstore

end System

/-- Whatever the system is doing: while memory holds report `r`, and from the second pass of
the loop on, every frame of the game is played with the two words of `r`. -/
theorem keys_settle {s : System} {r : HidReport} (hbuf : s.host.buffer = r) {es es' : List SystemEvent}
    (hes : ∀ e ∈ es ++ es', e.Keeps r) (hpasses : 2 ≤ System.passes s es) :
    ((run System.step s (es ++ es')).step .frame).game =
      (run System.step s (es ++ es')).game.frame r.first r.second := by
  have hok : Meets System.step (fun _ e => e.Keeps r) s (es ++ es') := meets_of_forall hes s
  obtain ⟨hfirst, hthen⟩ := meets_append.1 hok
  have hbuffer : ∀ s e, s.host.buffer = r → e.Keeps r → (System.step s e).host.buffer = r :=
    fun s e hb he => System.buffer_step hb he
  have hbuf' := hfirst.invariant hbuffer hbuf
  have hshows : (run System.step s es).host.Shows r := by
    apply hfirst.eventually (I := fun s => s.host.buffer = r) (φ := System.stale r) hbuffer
      (fun s e hb he hs => System.shows_step hs hb he)
      (fun s e hb he _ hno => System.stale_step hb he hno) hbuf
    have hle : System.stale r s ≤ 1 := by
      unfold System.stale
      split <;> omega
    exact Nat.lt_of_le_of_lt hle hpasses
  have hlast := hthen.invariant (I := fun s => s.host.buffer = r ∧ s.host.Shows r)
    (fun s e hs he => ⟨System.buffer_step hs.1 he, System.shows_step hs.2 hs.1 he⟩) ⟨hbuf', hshows⟩
  rw [run_append, ← hlast.2.first, ← hlast.2.second]
  rfl

/-- The cores hold halves of two reports. -/
def tornSystem : System :=
  run System.step ⟨Host.reset ⟨0, 0, 0, 0⟩, Game.powerUp .normal⟩ (keySession ⟨0x50, 0x59, 0, 0⟩)

theorem keys_settle_torn :
    ((run System.step tornSystem
        (publish ⟨0x50, 0x59, 0, 0⟩ ++ publish ⟨0x50, 0x59, 0, 0⟩ ++ [.frame])).step .frame).game =
      (run System.step tornSystem
        (publish ⟨0x50, 0x59, 0, 0⟩ ++ publish ⟨0x50, 0x59, 0, 0⟩ ++ [.frame])).game.frame
          0x5950 0x0000 := by
  have hkeeps : ∀ e ∈ publish ⟨0x50, 0x59, 0, 0⟩ ++ publish ⟨0x50, 0x59, 0, 0⟩ ++ [.frame],
      SystemEvent.Keeps ⟨0x50, 0x59, 0, 0⟩ e := by
    simp [publish, halfPublish, SystemEvent.Keeps]
  exact keys_settle (s := tornSystem) (by decide) hkeeps (by decide)

end StickFigureFighting
