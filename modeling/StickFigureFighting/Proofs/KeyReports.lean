import StickFigureFighting.Model.Firmware
import StickFigureFighting.Proofs.KeySets

/-!
# Key reports in the game

The firmware publishes a report by two stores, with a read of the bus between them, and the
frame clock asks neither. A frame edge between the two stores samples one half of the new
report and one half of the old one. Two history variables tell which halves these are: the
report from which `main` read its first word, and the words that it last published in full.
-/

namespace StickFigureFighting
open Library

def HidReport.keys (r : HidReport) : List (BitVec 8) := [r.key0, r.key1, r.key2, r.key3]

lemma HidReport.slots_eq_keys (r : HidReport) : slots r.first r.second = r.keys := by
  simp only [slots, first, second, keys, BitVec.extractLsb'_append_eq_left,
    BitVec.extractLsb'_append_eq_right]

/-- A run of the system moves the game by a run of its own. -/
theorem run_system_game (s : System) (es : List SystemEvent) :
    ∃ gs, (run System.step s es).game = run Game.step s.game gs := by
  induction es generalizing s with
  | nil => exact ⟨[], rfl⟩
  | cons e es ih =>
    obtain ⟨gs, hgs⟩ := ih (s.step e)
    rw [run_cons, hgs]
    cases e with
    | tick => exact ⟨.tick :: gs, rfl⟩
    | frame => exact ⟨.frame s.host.keycodeExport s.host.keycode1Export :: gs, rfl⟩
    | reset => exact ⟨.reset :: gs, rfl⟩
    | loop value => exact ⟨gs, rfl⟩
    | enumerated buffer => exact ⟨gs, rfl⟩
    | deliver r => exact ⟨gs, rfl⟩
    | restart => exact ⟨gs, rfl⟩

/-! ### The history of a run -/

/-- The reports received, the one in memory at the last first read, and the words last
published in full. -/
structure KeyHistory where
  received : List HidReport
  read : HidReport
  shown : Option (BitVec 16 × BitVec 16)
deriving DecidableEq, Repr

namespace KeyHistory

def start (buffer : HidReport) : KeyHistory := ⟨[], buffer, none⟩

/-- After a step of the loop. The step into `storeFirst` is the first read, and the step
into `readCtl` the second store. -/
def loop (k : KeyHistory) (h : Host) : KeyHistory :=
  if h.pc = .storeFirst then { k with read := h.buffer }
  else if h.pc = .readCtl then { k with shown := some (h.keycodeExport, h.keycode1Export) }
  else k

def watch (k : KeyHistory) (e : SystemEvent) (s : System) : KeyHistory :=
  match e with
  | .deliver r => { k with received := r :: k.received }
  | .loop _ => k.loop s.host
  | .restart => { k with shown := none }
  | _ => k

end KeyHistory

/-- The next frame edge lies between the two stores. -/
def Host.halfway (h : Host) : Bool := h.pc == .readSecond || h.pc == .storeSecond

/-- One of the two words has been read. -/
def Host.reading (h : Host) : Bool := h.pc == .storeFirst || h.pc == .readSecond

/-- The second word of the report that is being published. -/
def secondPending (h : Host) (k : KeyHistory) : BitVec 16 :=
  if h.pc = .storeSecond then h.keycode1 else k.read.second

/-- What is read first is a report, not what the enumeration left. A report that overwrites
it between the two reads keeps one of the two words. A frame edge comes after the first
report was published, and one between the two stores finds reports that agree in a word. -/
def ReportSafe (s : System × KeyHistory) : SystemEvent → Prop
  | .loop _ =>
    (s.1.host.pc = .readFirst → s.1.host.buffer ∈ s.2.received) ∧
    (s.1.host.pc = .readSecond →
      s.1.host.buffer.first = s.2.read.first ∨ s.1.host.buffer.second = s.2.read.second)
  | .frame => ∃ w ∈ s.2.shown, s.1.host.halfway →
      w.1 = s.1.host.keycode ∨ w.2 = secondPending s.1.host s.2
  | _ => True

instance (s : System × KeyHistory) (e : SystemEvent) : Decidable (ReportSafe s e) :=
  match e with
  | .loop _ => inferInstanceAs (Decidable (_ ∧ _))
  | .frame => inferInstanceAs (Decidable (∃ w ∈ s.2.shown, _))
  | .enumerated _ | .deliver _ | .restart | .tick | .reset => isTrue trivial

/-- The keys sampled are those of one report. -/
def Untorn (s : System × KeyHistory) (e : SystemEvent) : Prop :=
  e = .frame → ∃ r ∈ s.2.received, slots s.1.sampled.keycode s.1.sampled.keycode1 = r.keys

instance (s : System × KeyHistory) (e : SystemEvent) : Decidable (Untorn s e) :=
  inferInstanceAs (Decidable (e = .frame → _))

/-- The two words are those of one report. -/
def FromReport (received : List HidReport) (first second : BitVec 16) : Prop :=
  ∃ r ∈ received, r.first = first ∧ r.second = second

section Origin

variable {received : List HidReport} {first second : BitVec 16} {r : HidReport}

lemma FromReport.of_mem (h : r ∈ received) : FromReport received r.first r.second := ⟨r, h, rfl, rfl⟩

lemma FromReport.cons (h : FromReport received first second) :
    FromReport (r :: received) first second := by
  obtain ⟨r', hr', hwords⟩ := h
  exact ⟨r', List.mem_cons_of_mem r hr', hwords⟩

lemma FromReport.mix {first' second' : BitVec 16} (h : FromReport received first second)
    (h' : FromReport received first' second') (hword : first = first' ∨ second = second') :
    FromReport received first second' := by
  rcases hword with hfirst | hsecond
  · rw [hfirst]
    exact h'
  · rw [← hsecond]
    exact h

end Origin

structure KeyInv (h : Host) (k : KeyHistory) : Prop where
  shown : ∀ w ∈ k.shown, FromReport k.received w.1 w.2
  settled : h.halfway = false → ∀ w ∈ k.shown, w.1 = h.keycodeExport ∧ w.2 = h.keycode1Export
  stored : h.halfway → h.keycodeExport = h.keycode ∧ ∀ w ∈ k.shown, w.2 = h.keycode1Export
  memory : h.reading → h.buffer ∈ k.received
  read : h.reading → k.read ∈ k.received ∧ k.read.first = h.keycode
  pending : h.pc = .storeSecond → FromReport k.received h.keycode h.keycode1

/-- The loop holds no word that is not published yet. -/
def LoopPc.waiting (pc : LoopPc) : Prop := pc ≠ .storeFirst ∧ pc ≠ .readSecond ∧ pc ≠ .storeSecond

section Steps

variable {h : Host} {k : KeyHistory}

lemma keyInv_reset (buffer : HidReport) (hshown : k.shown = none) : KeyInv (Host.reset buffer) k where
  shown := by simp [hshown]
  settled := by simp [hshown]
  stored := by simp [Host.halfway, Host.reset]
  memory := by simp [Host.reading, Host.reset]
  read := by simp [Host.reading, Host.reset]
  pending := by simp [Host.reset]

/-- Between two publications the loop changes neither a core nor what it has read. -/
lemma KeyInv.idle {pc : LoopPc} (hinv : KeyInv h k) (hhalf : h.halfway = false)
    (hpc : pc.waiting) : KeyInv { h with pc := pc } k := by
  have hsettled := hinv.settled hhalf
  obtain ⟨hfirst, hsecond, hstore⟩ := hpc
  refine ⟨hinv.shown, fun _ => hsettled, ?_, ?_, ?_, ?_⟩
  · simp [Host.halfway, hsecond, hstore]
  · simp [Host.reading, hfirst, hsecond]
  · simp [Host.reading, hfirst, hsecond]
  · simp [hstore]

lemma KeyInv.readFirst (hinv : KeyInv h k) (hhalf : h.halfway = false) (hmem : h.buffer ∈ k.received) :
    KeyInv { h with pc := .storeFirst, keycode := h.buffer.first } { k with read := h.buffer } where
  shown := hinv.shown
  settled := fun _ => hinv.settled hhalf
  stored := by simp [Host.halfway]
  memory := fun _ => hmem
  read := fun _ => ⟨hmem, rfl⟩
  pending := by simp

lemma KeyInv.storeFirst (hinv : KeyInv h k) (hpc : h.pc = .storeFirst) :
    KeyInv { h with pc := .readSecond, keycodeExport := h.keycode } k := by
  have hhalf : h.halfway = false := by simp [Host.halfway, hpc]
  have hreading : h.reading := by simp [Host.reading, hpc]
  refine ⟨hinv.shown, by simp [Host.halfway], ?_, fun _ => hinv.memory hreading,
    fun _ => hinv.read hreading, by simp⟩
  intro _
  exact ⟨rfl, fun w hw => (hinv.settled hhalf w hw).2⟩

lemma KeyInv.readSecond (hinv : KeyInv h k) (hpc : h.pc = .readSecond)
    (hsafe : h.buffer.first = k.read.first ∨ h.buffer.second = k.read.second) :
    KeyInv { h with pc := .storeSecond, keycode1 := h.buffer.second } k := by
  have hhalf : h.halfway := by simp [Host.halfway, hpc]
  have hreading : h.reading := by simp [Host.reading, hpc]
  obtain ⟨hread, hkeycode⟩ := hinv.read hreading
  refine ⟨hinv.shown, by simp [Host.halfway], fun _ => hinv.stored hhalf, by simp [Host.reading],
    by simp [Host.reading], ?_⟩
  intro _
  rw [← hkeycode]
  exact (FromReport.of_mem hread).mix (.of_mem (hinv.memory hreading)) (hsafe.imp Eq.symm Eq.symm)

lemma KeyInv.storeSecond (hinv : KeyInv h k) (hpc : h.pc = .storeSecond) :
    KeyInv { h with pc := .readCtl, keycode1Export := h.keycode1 }
      { k with shown := some (h.keycodeExport, h.keycode1) } := by
  have hhalf : h.halfway := by simp [Host.halfway, hpc]
  obtain ⟨hstored, -⟩ := hinv.stored hhalf
  refine ⟨?_, ?_, by simp [Host.halfway], by simp [Host.reading], by simp [Host.reading], by simp⟩
  · simp only [Option.mem_some_iff, forall_eq', hstored]
    exact hinv.pending hpc
  · simp

/-- A status read moves on to neither a store nor the second read, nor to `readCtl`. -/
lemma Host.advance_status (value : BitVec 16) (h : Host) (hpc : h.pc.waiting)
    (hread : h.pc ≠ .readFirst) :
    ∃ pc, h.advance value = { h with pc := pc } ∧ pc.waiting ∧ pc ≠ .readCtl := by
  unfold Host.advance
  split <;> rename_i hcase
  · exact ⟨h.pc, rfl, hpc, by simp [hcase]⟩
  · split
    · exact ⟨.waitDone, rfl, by simp [LoopPc.waiting], by simp⟩
    · exact ⟨h.pc, rfl, hpc, by simp [hcase]⟩
  · split
    · exact ⟨.readFirst, rfl, by simp [LoopPc.waiting], by simp⟩
    · exact ⟨h.pc, rfl, hpc, by simp [hcase]⟩
  · exact absurd hcase hread
  · exact absurd hcase hpc.1
  · exact absurd hcase hpc.2.1
  · exact absurd hcase hpc.2.2
  · exact ⟨_, rfl, by split <;> simp [LoopPc.waiting], by split <;> simp⟩
  · split
    · exact ⟨.pollStatus, rfl, by simp [LoopPc.waiting], by simp⟩
    · split <;> exact ⟨_, rfl, by simp [LoopPc.waiting], by simp⟩
  · split
    · exact ⟨_, rfl, by simp [LoopPc.waiting], by simp⟩
    · split <;> exact ⟨_, rfl, by simp [LoopPc.waiting], by simp⟩

lemma KeyInv.loop (hinv : KeyInv h k) (value : BitVec 16)
    (hmem : h.pc = .readFirst → h.buffer ∈ k.received)
    (hsafe : h.pc = .readSecond → h.buffer.first = k.read.first ∨ h.buffer.second = k.read.second) :
    KeyInv (h.advance value) (k.loop (h.advance value)) := by
  by_cases hread : h.pc = .readFirst
  · have hinv' := hinv.readFirst (by simp [Host.halfway, hread]) (hmem hread)
    simpa [Host.advance, hread, KeyHistory.loop] using hinv'
  by_cases hstore : h.pc = .storeFirst
  · simpa [Host.advance, hstore, KeyHistory.loop] using hinv.storeFirst hstore
  by_cases hread' : h.pc = .readSecond
  · simpa [Host.advance, hread', KeyHistory.loop] using hinv.readSecond hread' (hsafe hread')
  by_cases hstore' : h.pc = .storeSecond
  · simpa [Host.advance, hstore', KeyHistory.loop] using hinv.storeSecond hstore'
  obtain ⟨pc, hadv, hwaiting, hctl⟩ := h.advance_status value ⟨hstore, hread', hstore'⟩ hread
  have hloop : k.loop (h.advance value) = k := by
    simp [KeyHistory.loop, hadv, hwaiting.1, hctl]
  rw [hloop, hadv]
  exact hinv.idle (by simp [Host.halfway, hread', hstore']) hwaiting

lemma KeyInv.deliver (hinv : KeyInv h k) (r : HidReport) :
    KeyInv { h with buffer := r } { k with received := r :: k.received } where
  shown := fun w hw => (hinv.shown w hw).cons
  settled := hinv.settled
  stored := hinv.stored
  memory := fun _ => List.mem_cons_self
  read := fun hreading => (hinv.read hreading).imp (List.mem_cons_of_mem r) id
  pending := fun hpc => (hinv.pending hpc).cons

lemma KeyInv.enumerated (hinv : KeyInv h k) (buffer : HidReport) : KeyInv (h.enumerated buffer) k := by
  unfold Host.enumerated
  split <;> rename_i hpc
  · have hhalf : h.halfway = false := by simp [Host.halfway, hpc]
    have hsettled := hinv.settled hhalf
    exact ⟨hinv.shown, fun _ => hsettled, by simp [Host.halfway], by simp [Host.reading],
      by simp [Host.reading], by simp⟩
  · exact hinv

lemma KeyInv.sampled (hinv : KeyInv h k) {w : BitVec 16 × BitVec 16} (hw : w ∈ k.shown)
    (hsafe : h.halfway → w.1 = h.keycode ∨ w.2 = secondPending h k) :
    FromReport k.received h.keycodeExport h.keycode1Export := by
  have hshown := hinv.shown w hw
  cases hhalf : h.halfway with
  | false =>
    obtain ⟨hfirst, hsecond⟩ := hinv.settled hhalf w hw
    rw [← hfirst, ← hsecond]
    exact hshown
  | true =>
    obtain ⟨hstored, hsecond⟩ := hinv.stored hhalf
    have hpending : FromReport k.received h.keycode (secondPending h k) := by
      unfold secondPending
      split <;> rename_i hpc
      · exact hinv.pending hpc
      · have hreading : h.reading := by
          simpa [Host.halfway, Host.reading, hpc] using Or.inr hhalf
        obtain ⟨hread, hkeycode⟩ := hinv.read hreading
        rw [← hkeycode]
        exact .of_mem hread
    rw [hstored, ← hsecond w hw]
    exact hpending.mix hshown ((hsafe hhalf).imp Eq.symm Eq.symm)

end Steps

section Runs

variable {s : System × KeyHistory}

lemma keyInv_step (e : SystemEvent) (hinv : KeyInv s.1.host s.2) (hsafe : ReportSafe s e) :
    KeyInv (record System.step KeyHistory.watch s e).1.host
      (record System.step KeyHistory.watch s e).2 := by
  cases e with
  | loop value => exact hinv.loop value hsafe.1 hsafe.2
  | enumerated buffer => exact hinv.enumerated buffer
  | deliver r => exact hinv.deliver r
  | restart => exact keyInv_reset s.1.host.buffer rfl
  | tick => exact hinv
  | frame => exact hinv
  | reset => exact hinv

lemma untorn_of_reportSafe (e : SystemEvent) (hinv : KeyInv s.1.host s.2) (hsafe : ReportSafe s e) :
    Untorn s e := by
  rintro rfl
  obtain ⟨w, hw, hhalfway⟩ := hsafe
  obtain ⟨r, hr, hfirst, hsecond⟩ := hinv.sampled hw hhalfway
  refine ⟨r, hr, ?_⟩
  rw [← r.slots_eq_keys, hfirst, hsecond]
  rfl

end Runs

/-- In every run whose steps are safe, every frame edge samples the keys of one report. -/
theorem keys_of_one_report (buffer : HidReport) (g : Game) {es : List SystemEvent}
    (hsafe : Meets (record System.step KeyHistory.watch) ReportSafe
      (⟨Host.reset buffer, g⟩, .start buffer) es) :
    Meets (record System.step KeyHistory.watch) Untorn (⟨Host.reset buffer, g⟩, .start buffer) es :=
  hsafe.mono (I := fun s => KeyInv s.1.host s.2) (fun _ e => keyInv_step e)
    (fun _ e => untorn_of_reportSafe e) (keyInv_reset buffer rfl)

/-- `main` finds a report in memory and stores its first word. -/
def halfPublish (r : HidReport) : List SystemEvent :=
  [.deliver r, .loop 0x0010, .loop 0x1000, .loop 0, .loop 0]

def publish (r : HidReport) : List SystemEvent := halfPublish r ++ [.loop 0, .loop 0, .loop 0x2000]

/-- The second report, `r`, is published up to its first word. -/
def keySession (r : HidReport) : List SystemEvent :=
  .enumerated ⟨0, 0, 0, 0⟩ :: publish ⟨0x07, 0x50, 0x59, 0⟩ ++ [.frame] ++ halfPublish r

theorem keys_of_one_report_session :
    Meets (record System.step KeyHistory.watch) Untorn
      (⟨Host.reset ⟨0, 0, 0, 0⟩, Game.powerUp .normal⟩, .start ⟨0, 0, 0, 0⟩)
      (keySession ⟨0x50, 0x07, 0x59, 0⟩ ++ [.frame]) :=
  keys_of_one_report ⟨0, 0, 0, 0⟩ (Game.powerUp .normal) (by decide)

/-- Player 1 lets go of `0x07`, and the two keys of player 2 that are still down move up by
one slot. Between the two stores one of them is sampled twice. -/
theorem keySession_torn :
    Meets (record System.step KeyHistory.watch) Untorn
      (⟨Host.reset ⟨0, 0, 0, 0⟩, Game.powerUp .normal⟩, .start ⟨0, 0, 0, 0⟩)
      (keySession ⟨0x50, 0x59, 0, 0⟩) ∧
    ¬Meets (record System.step KeyHistory.watch) Untorn
      (⟨Host.reset ⟨0, 0, 0, 0⟩, Game.powerUp .normal⟩, .start ⟨0, 0, 0, 0⟩)
      (keySession ⟨0x50, 0x59, 0, 0⟩ ++ [.frame]) := by
  decide

end StickFigureFighting
