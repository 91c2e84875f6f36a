import StickFigureFighting.Library.Runs
import StickFigureFighting.Model.HpiBus
import Mathlib.Data.List.Basic

/-!
# What the calls of `io_handler.c` do on the bus

The pins follow the PIO cores one cycle later, so a strobe on the pins is the interval in
which the cores hold it, one cycle late. The data bus is released by the core itself: in
the last cycle of every write strobe nobody drives the data. A read takes its value from a
cycle of its strobe, and the two sides never drive the bus together.
-/

namespace StickFigureFighting
open Library

/-! ### Calls in time -/

/-- The cycles up to and including one access, at least `k` of them. -/
def Waits (k : ℕ) (a : Access) (cycles : List Cycle) : Prop :=
  ∃ idle c, cycles = idle ++ [c] ∧ k ≤ cycles.length ∧ (∀ x ∈ idle, x.access = none) ∧ c.access = some a

/-- The accesses are made in order, each at least `k` cycles after the one before. -/
def Performs (k : ℕ) : List Access → List Cycle → Prop
  | [], cycles => cycles = []
  | a :: as, cycles => ∃ first rest, cycles = first ++ rest ∧ Waits k a first ∧ Performs k as rest

lemma performs_append {k : ℕ} {as bs : List Access} {cycles : List Cycle} :
    Performs k (as ++ bs) cycles ↔
      ∃ first rest, cycles = first ++ rest ∧ Performs k as first ∧ Performs k bs rest := by
  induction as generalizing cycles with
  | nil =>
    constructor
    · intro h
      exact ⟨[], cycles, rfl, rfl, h⟩
    · rintro ⟨_, rest, rfl, rfl, h⟩
      exact h
  | cons a as ih =>
    simp only [List.cons_append, Performs, ih]
    constructor
    · rintro ⟨first, _, rfl, ha, mid, rest, rfl, has, hbs⟩
      exact ⟨first ++ mid, rest, by rw [List.append_assoc], ⟨first, mid, rfl, ha, has⟩, hbs⟩
    · rintro ⟨_, rest, rfl, ⟨first, mid, rfl, ha, has⟩, hbs⟩
      exact ⟨first, mid ++ rest, by rw [List.append_assoc], ha, mid, rest, rfl, has, hbs⟩

/-! ### Pins -/

/-- The pins `OTG_ADDR`, `OTG_RD_N`, `OTG_WR_N` and `OTG_CS_N`. -/
structure Pins where
  addr : BitVec 2
  rdN : Bool
  wrN : Bool
  csN : Bool
deriving DecidableEq

namespace Pins

def Writing (p : Pins) : Prop := p.csN = false ∧ p.wrN = false

def Reading (p : Pins) : Prop := p.csN = false ∧ p.rdN = false

end Pins

def Pio.pins (p : Pio) : Pins := ⟨p.address, p.r, p.w, p.cs⟩

def HpiBus.pins (b : HpiBus) : Pins := ⟨b.intf.otgAddr, b.intf.otgRdN, b.intf.otgWrN, b.intf.otgCsN⟩

/-- What the cores hold while each of the accesses is waited for. -/
def pioValues (p : Pio) : List Access → List Pio
  | [] => []
  | a :: as => p :: pioValues (p.access a) as

lemma foldl_dropLast_mem (p : Pio) (a : Access) (as : List Access) :
    (a :: as).dropLast.foldl Pio.access p ∈ pioValues p (a :: as) := by
  induction as generalizing p a with
  | nil => exact List.mem_cons_self
  | cons a' as ih => exact List.mem_cons_of_mem _ (ih (p.access a) a')

section Lag

variable {k : ℕ} {a : Access} {as : List Access} {b : HpiBus} {cycles : List Cycle}

@[simp] lemma pins_step (c : Cycle) : (b.step c).pins = b.pio.pins := rfl

/-- Between accesses the cores hold their values and the pins have followed them. -/
lemma visits_idle (hidle : ∀ c ∈ cycles, c.access = none) (hb : b.pins = b.pio.pins) :
    (∀ x ∈ visits HpiBus.step b cycles, x.1.pio = b.pio ∧ x.1.pins = b.pio.pins) ∧
      (run HpiBus.step b cycles).pio = b.pio ∧ (run HpiBus.step b cycles).pins = b.pio.pins := by
  induction cycles generalizing b with
  | nil => exact ⟨by simp, rfl, hb⟩
  | cons c cycles ih =>
    have hc : c.access = none := hidle c List.mem_cons_self
    have hpio : (b.step c).pio = b.pio := by simp [HpiBus.step, hc]
    have ih' := ih (b := b.step c) (fun c hc => hidle c (List.mem_cons_of_mem _ hc)) (by rw [hpio]; rfl)
    rw [hpio] at ih'
    refine ⟨?_, ih'.2⟩
    intro x hx
    rcases List.mem_cons.1 hx with rfl | hx
    · exact ⟨rfl, hb⟩
    · exact ih'.1 x hx

/-- In the cycles up to an access the pins lag behind in the first one only. -/
lemma visits_waits (h : Waits k a cycles) (b : HpiBus) :
    ∃ c rest, visits HpiBus.step b cycles = (b, c) :: rest ∧
      (∀ x ∈ rest, x.1.pio = b.pio ∧ x.1.pins = b.pio.pins) ∧
      (run HpiBus.step b cycles).pio = b.pio.access a ∧
      (run HpiBus.step b cycles).pins = b.pio.pins := by
  obtain ⟨idle, c, rfl, -, hidle, hc⟩ := h
  cases idle with
  | nil => exact ⟨c, [], rfl, by simp, by simp [HpiBus.step, hc], rfl⟩
  | cons i idle =>
    have hi : i.access = none := hidle i List.mem_cons_self
    have hpio : (b.step i).pio = b.pio := by simp [HpiBus.step, hi]
    have hrest := visits_idle (b := b.step i) (fun c hc => hidle c (List.mem_cons_of_mem _ hc))
      (by rw [hpio]; rfl)
    rw [hpio] at hrest
    obtain ⟨hvisits, hrun, hpins⟩ := hrest
    refine ⟨i, visits HpiBus.step (b.step i) (idle ++ [c]), rfl, ?_, ?_, ?_⟩
    · intro x hx
      rw [visits_append, List.mem_append] at hx
      rcases hx with hx | hx
      · exact hvisits x hx
      · rw [visits_cons, visits_nil, List.mem_singleton] at hx
        rw [hx]
        exact ⟨hrun, hpins⟩
    · simp only [List.cons_append, run_cons, run_append, run_nil]
      rw [← hrun]
      simp [HpiBus.step, hc]
    · simp only [List.cons_append, run_cons, run_append, run_nil, pins_step]
      rw [hrun]

/-- Over several accesses the first pins are the ones found and the later ones those of the
values held; the last value held is still on the pins at the end. -/
lemma visits_performs (h : Performs k (a :: as) cycles) (b : HpiBus) :
    ∃ c rest, visits HpiBus.step b cycles = (b, c) :: rest ∧
      (∀ x ∈ rest, ∃ p ∈ pioValues b.pio (a :: as), x.1.pins = p.pins) ∧
      (∀ x ∈ (b, c) :: rest, x.1.pio ∈ pioValues b.pio (a :: as)) ∧ (as ≠ [] → rest ≠ []) ∧
      (run HpiBus.step b cycles).pio = (a :: as).foldl Pio.access b.pio ∧
      (run HpiBus.step b cycles).pins = ((a :: as).dropLast.foldl Pio.access b.pio).pins := by
  induction as generalizing a b cycles with
  | nil =>
    obtain ⟨first, _, rfl, ha, rfl⟩ := h
    obtain ⟨c, held, hvisits, hheld, hpio, hpins⟩ := visits_waits ha b
    rw [List.append_nil, hvisits]
    refine ⟨c, held, rfl, ?_, ?_, by simp, hpio, hpins⟩
    · intro x hx
      exact ⟨b.pio, List.mem_cons_self, (hheld x hx).2⟩
    · intro x hx
      rcases List.mem_cons.1 hx with rfl | hx
      · exact List.mem_cons_self
      · rw [(hheld x hx).1]
        exact List.mem_cons_self
  | cons a' as ih =>
    obtain ⟨first, rest, rfl, ha, has⟩ := h
    obtain ⟨c, held, hvisits, hheld, hpio, hpins⟩ := visits_waits ha b
    obtain ⟨c', rest', hvisits', hrest', hpios', -, hpio', hpins'⟩ := ih has (run HpiBus.step b first)
    rw [hpio] at hrest' hpios' hpio' hpins'
    refine ⟨c, held ++ (run HpiBus.step b first, c') :: rest', ?_, ?_, ?_, by simp, ?_, ?_⟩
    · rw [visits_append, hvisits, hvisits', List.cons_append]
    · intro x hx
      rcases List.mem_append.1 hx with hx | hx
      · exact ⟨b.pio, List.mem_cons_self, (hheld x hx).2⟩
      · rcases List.mem_cons.1 hx with rfl | hx
        · exact ⟨b.pio, List.mem_cons_self, hpins⟩
        · obtain ⟨p, hp, hx'⟩ := hrest' x hx
          exact ⟨p, List.mem_cons_of_mem _ hp, hx'⟩
    · intro x hx
      rcases List.mem_cons.1 hx with rfl | hx
      · exact List.mem_cons_self
      · rcases List.mem_append.1 hx with hx | hx
        · rw [(hheld x hx).1]
          exact List.mem_cons_self
        · exact List.mem_cons_of_mem _ (hpios' x hx)
    · rw [run_append]
      exact hpio'
    · rw [run_append]
      exact hpins'

end Lag

/-! ### Strobes -/

/-- The cycles of `strobe` are the only ones in which the pins are active, without a gap. -/
def OneStrobe (active : Pins → Prop) (strobe cycles : List (HpiBus × Cycle)) : Prop :=
  ∃ pre post, cycles = pre ++ strobe ++ post ∧ strobe ≠ [] ∧ (∀ x ∈ pre, ¬active x.1.pins) ∧
    (∀ x ∈ strobe, active x.1.pins) ∧ ∀ x ∈ post, ¬active x.1.pins

lemma OneStrobe.mem {active : Pins → Prop} {strobe cycles : List (HpiBus × Cycle)}
    (h : OneStrobe active strobe cycles) {x : HpiBus × Cycle} (hx : x ∈ cycles) (ha : active x.1.pins) :
    x ∈ strobe := by
  obtain ⟨pre, post, rfl, -, hpre, -, hpost⟩ := h
  rcases List.mem_append.1 hx with hx | hx
  · exact (List.mem_append.1 hx).resolve_left (fun hx => hpre x hx ha)
  · exact absurd ha (hpost x hx)

/-- If the cores are active exactly while two or more accesses in the middle are waited for,
the pins show one strobe, with the values held in these cycles. -/
lemma oneStrobe_of_performs {k : ℕ} {a z m₁ m₂ : Access} {as ms : List Access} (active : Pins → Prop)
    (b : HpiBus) {cycles : List Cycle}
    (h : Performs k ((a :: as) ++ ((m₁ :: m₂ :: ms) ++ [z])) cycles) (hfirst : ¬active b.pins)
    (hbefore : ∀ p ∈ pioValues b.pio (a :: as), ¬active p.pins)
    (hduring : ∀ p ∈ pioValues ((a :: as).foldl Pio.access b.pio) (m₁ :: m₂ :: ms), active p.pins)
    (hafter : ¬active ((m₁ :: m₂ :: ms).foldl Pio.access ((a :: as).foldl Pio.access b.pio)).pins) :
    ∃ strobe, OneStrobe active strobe (visits HpiBus.step b cycles) ∧
      ∀ x ∈ strobe, ∃ p ∈ pioValues ((a :: as).foldl Pio.access b.pio) (m₁ :: m₂ :: ms),
        x.1.pins = p.pins := by
  obtain ⟨before, _, rfl, hp, hrest⟩ := performs_append.1 h
  obtain ⟨during, after, rfl, hp', hp''⟩ := performs_append.1 hrest
  obtain ⟨c, held, hvisits, hheld, -, -, hpio, hpins⟩ := visits_performs hp b
  obtain ⟨c', held', hvisits', hheld', -, hne, hpio', hpins'⟩ :=
    visits_performs hp' (run HpiBus.step b before)
  obtain ⟨c'', held'', hvisits'', hheld'', -, -, -, -⟩ :=
    visits_performs hp'' (run HpiBus.step (run HpiBus.step b before) during)
  have hlast : ∃ p ∈ pioValues ((a :: as).foldl Pio.access b.pio) (m₁ :: m₂ :: ms),
      (run HpiBus.step (run HpiBus.step b before) during).pins = p.pins := by
    rw [hpins', hpio]
    exact ⟨_, foldl_dropLast_mem _ _ _, rfl⟩
  rw [hpio] at hheld'
  rw [hpio', hpio] at hheld''
  have hstrobe : ∀ x ∈ held' ++ [(run HpiBus.step (run HpiBus.step b before) during, c'')],
      ∃ p ∈ pioValues ((a :: as).foldl Pio.access b.pio) (m₁ :: m₂ :: ms), x.1.pins = p.pins := by
    intro x hx
    rcases List.mem_append.1 hx with hx | hx
    · exact hheld' x hx
    · rw [List.mem_singleton.1 hx]
      exact hlast
  refine ⟨_, ⟨(b, c) :: held ++ [(run HpiBus.step b before, c')], held'', ?_, by simp, ?_, ?_, ?_⟩,
    hstrobe⟩
  · simp only [visits_append, hvisits, hvisits', hvisits'', List.cons_append, List.append_assoc,
      List.nil_append]
  · intro x hx
    rcases List.mem_append.1 hx with hx | hx
    · rcases List.mem_cons.1 hx with rfl | hx
      · exact hfirst
      · obtain ⟨p, hp, hx'⟩ := hheld x hx
        rw [hx']
        exact hbefore p hp
    · rw [List.mem_singleton.1 hx, hpins]
      exact hbefore _ (foldl_dropLast_mem _ _ _)
  · intro x hx
    obtain ⟨p, hp, hx'⟩ := hstrobe x hx
    rw [hx']
    exact hduring p hp
  · intro x hx
    obtain ⟨p, hp, hx'⟩ := hheld'' x hx
    rw [hx']
    obtain rfl : p = _ := List.mem_singleton.1 hp
    exact hafter

/-! ### The calls -/

/-- No strobe is on the pins or on its way to them. -/
structure Ready (b : HpiBus) : Prop where
  r : b.pio.r = true
  w : b.pio.w = true
  cs : b.pio.cs = true
  rdN : b.pins.rdN = true
  wrN : b.pins.wrN = true

section Calls

variable {k : ℕ} {b : HpiBus} {cycles : List Cycle} {address : BitVec 8} {data : BitVec 16} {call : Call}

lemma ready_ioInit (h : Performs k ioInit cycles) (b : HpiBus) : Ready (run HpiBus.step b cycles) := by
  obtain ⟨-, -, -, -, -, -, hpio, hpins⟩ := visits_performs h b
  constructor <;> simp only [hpio, hpins] <;> rfl

lemma ready_call (h : Performs k call.accesses cycles) (b : HpiBus) :
    Ready (run HpiBus.step b cycles) := by
  cases call with
  | write address data =>
    obtain ⟨-, -, -, -, -, -, hpio, hpins⟩ := visits_performs h b
    constructor <;> simp only [hpio, hpins] <;> rfl
  | read address =>
    obtain ⟨-, -, -, -, -, -, hpio, hpins⟩ := visits_performs h b
    constructor <;> simp only [hpio, hpins] <;> rfl

lemma pins_mem {a : Access} {as : List Access} (h : Performs k (a :: as) cycles) {x : HpiBus × Cycle}
    (hx : x ∈ visits HpiBus.step b cycles) :
    x.1.pins = b.pins ∨ ∃ p ∈ pioValues b.pio (a :: as), x.1.pins = p.pins := by
  obtain ⟨c, rest, hvisits, hrest, -⟩ := visits_performs h b
  rw [hvisits] at hx
  rcases List.mem_cons.1 hx with rfl | hx
  · exact Or.inl rfl
  · exact Or.inr (hrest x hx)

lemma pio_mem {a : Access} {as : List Access} (h : Performs k (a :: as) cycles) {x : HpiBus × Cycle}
    (hx : x ∈ visits HpiBus.step b cycles) : x.1.pio ∈ pioValues b.pio (a :: as) := by
  obtain ⟨c, rest, hvisits, -, hpios, -⟩ := visits_performs h b
  rw [hvisits] at hx
  exact hpios x hx

/-- A call that strobes with `active`: the pins show one strobe, with the address of the
call, and never the strobe of the other kind. -/
lemma call_strobe {a z m₁ m₂ : Access} {as ms : List Access} {addr : BitVec 2}
    (active other : Pins → Prop) (h : Performs k ((a :: as) ++ ((m₁ :: m₂ :: ms) ++ [z])) cycles)
    (hfirst : ¬active b.pins) (hbefore : ∀ p ∈ pioValues b.pio (a :: as), ¬active p.pins)
    (hduring : ∀ p ∈ pioValues ((a :: as).foldl Pio.access b.pio) (m₁ :: m₂ :: ms),
      active p.pins ∧ p.pins.addr = addr)
    (hafter : ¬active ((m₁ :: m₂ :: ms).foldl Pio.access ((a :: as).foldl Pio.access b.pio)).pins)
    (hother : ¬other b.pins)
    (hothers : ∀ p ∈ pioValues b.pio ((a :: as) ++ ((m₁ :: m₂ :: ms) ++ [z])), ¬other p.pins) :
    ∃ strobe, OneStrobe active strobe (visits HpiBus.step b cycles) ∧
      (∀ x ∈ strobe, x.1.pins.addr = addr) ∧ ∀ x ∈ visits HpiBus.step b cycles, ¬other x.1.pins := by
  obtain ⟨strobe, hone, hstrobe⟩ := oneStrobe_of_performs active b h hfirst hbefore
    (fun p hp => (hduring p hp).1) hafter
  refine ⟨strobe, hone, ?_, ?_⟩
  · intro x hx
    obtain ⟨p, hp, hx'⟩ := hstrobe x hx
    rw [hx']
    exact (hduring p hp).2
  · intro x hx
    rcases pins_mem h hx with hx' | ⟨p, hp, hx'⟩
    · rw [hx']
      exact hother
    · rw [hx']
      exact hothers p hp

lemma ioWrite_strobe (h : Performs k (ioWrite address data) cycles) (hb : Ready b) :
    ∃ strobe, OneStrobe Pins.Writing strobe (visits HpiBus.step b cycles) ∧
      (∀ x ∈ strobe, x.1.pins.addr = address.setWidth 2) ∧
      ∀ x ∈ visits HpiBus.step b cycles, ¬x.1.pins.Reading := by
  have hparts : Performs k ((.address address :: [.r true, .cs false, .w false]) ++
      ((.data data :: .w true :: []) ++ [.cs true])) cycles := h
  apply call_strobe Pins.Writing Pins.Reading hparts
  · simp [Pins.Writing, hb.wrN]
  · simp [Pins.Writing, pioValues, Pio.access, Pio.pins, hb.w]
  · simp [Pins.Writing, pioValues, Pio.access, Pio.pins]
  · simp [Pins.Writing, Pio.access, Pio.pins]
  · simp [Pins.Reading, hb.rdN]
  · simp [Pins.Reading, pioValues, Pio.access, Pio.pins, hb.r]

lemma ioRead_strobe (h : Performs k (ioRead address) cycles) (hb : Ready b) :
    ∃ strobe, OneStrobe Pins.Reading strobe (visits HpiBus.step b cycles) ∧
      (∀ x ∈ strobe, x.1.pins.addr = address.setWidth 2) ∧
      ∀ x ∈ visits HpiBus.step b cycles, ¬x.1.pins.Writing := by
  have hparts : Performs k ((.address address :: [.w true, .cs false, .r false]) ++
      ((.load :: .r true :: []) ++ [.cs true])) cycles := h
  apply call_strobe Pins.Reading Pins.Writing hparts
  · simp [Pins.Reading, hb.rdN]
  · simp [Pins.Reading, pioValues, Pio.access, Pio.pins, hb.r]
  · simp [Pins.Reading, pioValues, Pio.access, Pio.pins]
  · simp [Pins.Reading, Pio.access, Pio.pins]
  · simp [Pins.Writing, hb.wrN]
  · simp [Pins.Writing, pioValues, Pio.access, Pio.pins, hb.w]

end Calls

/-! ### Writes -/

/-- The cycles hold one write strobe for `address` and no read strobe, and in the last cycle
of the strobe, where the chip latches, the bus is driven to `data`. -/
def WriteLatched (address : BitVec 2) (data : BitVec 16) (cycles : List (HpiBus × Cycle)) : Prop :=
  ∃ strobe, OneStrobe Pins.Writing strobe cycles ∧ (∀ x ∈ strobe, x.1.pins.addr = address) ∧
    (∀ x ∈ cycles, ¬x.1.pins.Reading) ∧
    ∃ before last, strobe = before ++ [last] ∧ last.1.drives ∧ last.1.intf.tmpData = data

/-- A whole call as one step. -/
def callStep (b : HpiBus) (w : Call × List Cycle) : HpiBus := run HpiBus.step b w.2

/-- If the call is a write, the chip latches its data. -/
def CallLatched (b : HpiBus) (w : Call × List Cycle) : Prop :=
  ∀ address data, w.1 = .write address data →
    WriteLatched (address.setWidth 2) data (visits HpiBus.step b w.2)

/-- The pins show the strobe one cycle after the core that also enables the bus, so a driven
cycle of the strobe is never its last. -/
lemma not_writeLatched {k : ℕ} {b : HpiBus} {cycles : List Cycle} {address : BitVec 8} {data : BitVec 16}
    (h : Performs k (ioWrite address data) cycles) (hb : Ready b) :
    ¬WriteLatched (address.setWidth 2) data (visits HpiBus.step b cycles) := by
  rintro ⟨strobe, ⟨pre, post, hvisits, -, -, -, hpost⟩, -, -, before, last, rfl, hdrives, -⟩
  have hsplit : visits HpiBus.step b cycles = (pre ++ before) ++ last :: post := by
    rw [hvisits]
    simp
  have hmem : last ∈ visits HpiBus.step b cycles := by
    rw [hsplit]
    exact List.mem_append_right _ List.mem_cons_self
  have hw : last.1.pio.w = false := by simpa [HpiBus.drives] using hdrives
  have hheld : ∀ p ∈ pioValues b.pio (ioWrite address data), p.w = false → p.cs = false := by
    simp [ioWrite, pioValues, Pio.access, hb.w]
  have hcs : last.1.pio.cs = false := hheld _ (pio_mem h hmem) hw
  have hnext : (last.1.step last.2).pins.Writing := ⟨hcs, hw⟩
  obtain ⟨es₁, es₂, hes, hlast, hafter⟩ := visits_eq_append_cons hsplit
  cases es₂ with
  | nil =>
    have hcall : Performs k (Call.write address data).accesses cycles := h
    have hend := (ready_call hcall b).wrN
    rw [hes, run_append, run_cons, run_nil, ← hlast, hnext.2] at hend
    cases hend
  | cons e es₂ =>
    rw [visits_cons] at hafter
    exact hpost _ (by rw [hafter]; exact List.mem_cons_self) hnext

/-- For every sequence of calls after `IO_init`, with any number of cycles between the stores:
the chip latches the data of every write only if there is no write. -/
theorem writes_latched_iff (b : HpiBus) {init : List Cycle} (hinit : Performs 1 ioInit init)
    {ws : List (Call × List Cycle)} (hws : ∀ w ∈ ws, Performs 1 w.1.accesses w.2) :
    Meets callStep CallLatched (run HpiBus.step b init) ws ↔
      ∀ w ∈ ws, ∀ address data, w.1 ≠ .write address data := by
  have hready := ready_ioInit hinit b
  generalize run HpiBus.step b init = b' at hready
  induction ws generalizing b' with
  | nil => simp
  | cons w ws ih =>
    have hw := hws w List.mem_cons_self
    have ih' := ih (fun w hw => hws w (List.mem_cons_of_mem _ hw)) (callStep b' w) (ready_call hw b')
    rw [meets_cons, List.forall_mem_cons]
    refine and_congr ?_ ih'
    constructor
    · intro hlatched address data hcall
      rw [hcall] at hw
      exact not_writeLatched hw hready (hlatched address data hcall)
    · intro hread address data hcall
      exact absurd hcall (hread address data)

/-! ### Reads -/

/-- The values returned by the loads. -/
def loads (cycles : List (HpiBus × Cycle)) : List (BitVec 16) :=
  (cycles.filter (fun x => x.2.access = some .load)).map (fun x => x.1.readdata)

/-- The cycles hold one read strobe for `address` and no write strobe, and the one value
loaded is what the chip drives in a cycle of the strobe. -/
def ReadReturned (address : BitVec 2) (cycles : List (HpiBus × Cycle)) : Prop :=
  ∃ strobe, OneStrobe Pins.Reading strobe cycles ∧ (∀ x ∈ strobe, x.1.pins.addr = address) ∧
    (∀ x ∈ cycles, ¬x.1.pins.Writing) ∧ ∃ x ∈ strobe, loads cycles = [x.2.chip]

def CallReturned (b : HpiBus) (w : Call × List Cycle) : Prop :=
  ∀ address, w.1 = .read address → ReadReturned (address.setWidth 2) (visits HpiBus.step b w.2)

/-- Both sides drive `OTG_DATA`. -/
def Contention (b : HpiBus) : Prop := b.drives ∧ b.chipDrives

section Reads

variable {k : ℕ} {a : Access} {as : List Access} {b : HpiBus} {cycles : List Cycle} {address : BitVec 8}

lemma loads_append (x y : List (HpiBus × Cycle)) : loads (x ++ y) = loads x ++ loads y := by
  simp [loads]

lemma loads_eq_nil (h : ∀ c ∈ cycles, c.access ≠ some .load) (b : HpiBus) :
    loads (visits HpiBus.step b cycles) = [] := by
  induction cycles generalizing b with
  | nil => rfl
  | cons c cycles ih =>
    have hc := h c List.mem_cons_self
    have ih' := ih (fun c hc => h c (List.mem_cons_of_mem _ hc)) (b.step c)
    simpa [loads, hc] using ih'

lemma Waits.access_ne_load (h : Waits k a cycles) (ha : a ≠ .load) :
    ∀ c ∈ cycles, c.access ≠ some .load := by
  obtain ⟨idle, c, rfl, -, hidle, hc⟩ := h
  intro x hx
  rcases List.mem_append.1 hx with hx | hx
  · rw [hidle x hx]
    simp
  · rw [List.mem_singleton.1 hx, hc]
    simpa using ha

lemma Performs.access_ne_load (h : Performs k as cycles) (has : .load ∉ as) :
    ∀ c ∈ cycles, c.access ≠ some .load := by
  induction as generalizing cycles with
  | nil =>
    obtain rfl : cycles = [] := h
    simp
  | cons a as ih =>
    obtain ⟨first, rest, rfl, ha, hrest⟩ := h
    rw [List.mem_cons, not_or] at has
    intro c hc
    rcases List.mem_append.1 hc with hc | hc
    · exact ha.access_ne_load (Ne.symm has.1) c hc
    · exact ih hrest has.2 c hc

/-- The load returns what was on the bus two cycles before, and by then the strobe has been
on the pins for a cycle at least. -/
lemma loads_waits (h : Waits 4 .load cycles) (hw : b.pio.w = true) (hcs : b.pio.cs = false)
    (hr : b.pio.r = false) :
    ∃ x ∈ visits HpiBus.step b cycles, x.1.pins.Reading ∧
    loads (visits HpiBus.step b cycles) = [x.2.chip] := by
  obtain ⟨idle, c, rfl, hlen, hidle, hc⟩ := h
  rw [List.length_append, List.length_singleton] at hlen
  rcases List.eq_nil_or_concat' idle with rfl | ⟨front, y, rfl⟩
  · simp at hlen
  rcases List.eq_nil_or_concat' front with rfl | ⟨front, x, rfl⟩
  · simp at hlen
  cases front with
  | nil => simp at hlen
  | cons i is =>
    have hi : i.access = none := hidle i (by simp)
    have hpio : (b.step i).pio = b.pio := by simp [HpiBus.step, hi]
    have his := visits_idle (b := b.step i) (fun c (hc : c ∈ is) => hidle c (by simp [hc]))
      (by rw [hpio]; rfl)
    rw [hpio] at his
    obtain ⟨-, hrun, hpins⟩ := his
    -- two cycles before the load the pins show the strobe, and the chip alone drives the bus
    have hvisit : (run HpiBus.step (b.step i) is, x) ∈ visits HpiBus.step b
        (i :: is ++ [x] ++ [y] ++ [c]) := by
      simp [visits_append]
    have hreading : (run HpiBus.step (b.step i) is).pins.Reading := by
      rw [hpins]
      exact ⟨hcs, hr⟩
    have hbus : (run HpiBus.step (b.step i) is).otgData x = x.chip := by
      have hcsN : (run HpiBus.step (b.step i) is).intf.otgCsN = false := hreading.1
      have hrdN : (run HpiBus.step (b.step i) is).intf.otgRdN = false := hreading.2
      simp [HpiBus.otgData, HpiBus.drives, HpiBus.chipDrives, hrun, hw, hcsN, hrdN]
    have hbefore : loads (visits HpiBus.step b (i :: is ++ [x] ++ [y])) = [] :=
      loads_eq_nil (fun c hc => by rw [hidle c hc]; simp) b
    refine ⟨_, hvisit, hreading, ?_⟩
    rw [visits_append, loads_append, hbefore, List.nil_append]
    simp only [visits_cons, visits_nil, loads, hc, decide_true, List.filter_cons_of_pos, List.filter_nil,
      List.map_cons, List.map_nil, List.cons.injEq, and_true]
    simp only [run_append, List.cons_append, run_cons, run_nil]
    exact hbus

lemma ioRead_returned (h : Performs 4 (ioRead address) cycles) (hb : Ready b) :
    ReadReturned (address.setWidth 2) (visits HpiBus.step b cycles) := by
  obtain ⟨strobe, hone, haddr, hwriting⟩ := ioRead_strobe h hb
  refine ⟨strobe, hone, haddr, hwriting, ?_⟩
  have hparts :
      Performs 4 ([.address address, .w true, .cs false, .r false] ++ [.load, .r true, .cs true])
      cycles := h
  obtain ⟨before, _, rfl, hbefore, load, after, rfl, hload, hafter⟩ := performs_append.1 hparts
  obtain ⟨-, -, -, -, -, -, hpio, -⟩ := visits_performs hbefore b
  obtain ⟨x, hx, hreading, hvalue⟩ := loads_waits (b := run HpiBus.step b before) hload
    (by rw [hpio]; rfl) (by rw [hpio]; rfl) (by rw [hpio]; rfl)
  refine ⟨x, hone.mem ?_ hreading, ?_⟩
  · rw [visits_append, visits_append]
    exact List.mem_append_right _ (List.mem_append_left _ hx)
  · rw [visits_append, visits_append, loads_append, loads_append, hvalue,
      loads_eq_nil (hbefore.access_ne_load (by simp)), loads_eq_nil (hafter.access_ne_load (by simp))]
    rfl

/-- A write never has the read strobe on the pins, and a read never enables the bus. -/
lemma call_not_contention {call : Call} (h : Performs k call.accesses cycles) (hb : Ready b) :
    ∀ x ∈ visits HpiBus.step b cycles, ¬Contention x.1 := by
  rintro x hx ⟨hdrives, hchip⟩
  simp only [HpiBus.drives, HpiBus.chipDrives, Bool.and_eq_true, Bool.not_eq_true'] at hdrives hchip
  cases call with
  | write address data =>
    obtain ⟨-, -, -, hreading⟩ := ioWrite_strobe h hb
    exact hreading x hx hchip
  | read address =>
    have hheld : ∀ p ∈ pioValues b.pio (ioRead address), p.w = true := by
      simp [ioRead, pioValues, Pio.access, hb.w]
    rw [hheld _ (pio_mem h hx)] at hdrives
    cases hdrives

lemma idle_not_contention (hidle : ∀ c ∈ cycles, c.access = none) (hw : b.pio.w = true) :
    ∀ x ∈ visits HpiBus.step b cycles, ¬Contention x.1 := by
  induction cycles generalizing b with
  | nil => simp
  | cons c cycles ih =>
    have hc : c.access = none := hidle c List.mem_cons_self
    rw [visits_cons, List.forall_mem_cons]
    refine ⟨?_, ih (fun c hc => hidle c (List.mem_cons_of_mem _ hc))
      (by simpa [HpiBus.step, hc] using hw)⟩
    rintro ⟨hdrives, -⟩
    simp [HpiBus.drives, hw] at hdrives

lemma calls_not_contention {ws : List (Call × List Cycle)} (hws : ∀ w ∈ ws, Performs k w.1.accesses w.2)
    (hidle : ∀ c ∈ cycles, c.access = none) (hb : Ready b) :
    ∀ x ∈ visits HpiBus.step b ((ws.map Prod.snd).flatten ++ cycles), ¬Contention x.1 := by
  induction ws generalizing b with
  | nil => exact idle_not_contention hidle hb.w
  | cons w ws ih =>
    have hw := hws w List.mem_cons_self
    intro x hx
    rw [List.map_cons, List.flatten_cons, List.append_assoc, visits_append] at hx
    rcases List.mem_append.1 hx with hx | hx
    · exact call_not_contention hw hb x hx
    · exact ih (fun w hw => hws w (List.mem_cons_of_mem _ hw)) (ready_call hw b) x hx

end Reads

/-- For every sequence of calls after `IO_init`, with four or more cycles between accesses:
the two sides never drive the bus together, and every read has one strobe and returns what
the chip drives during it. -/
theorem reads_returned (b : HpiBus) {init tail : List Cycle} (hinit : Performs 4 ioInit init)
    {ws : List (Call × List Cycle)} (hws : ∀ w ∈ ws, Performs 4 w.1.accesses w.2)
    (htail : ∀ c ∈ tail, c.access = none) :
    (∀ x ∈ visits HpiBus.step (run HpiBus.step b init) ((ws.map Prod.snd).flatten ++ tail),
      ¬Contention x.1) ∧
    Meets callStep CallReturned (run HpiBus.step b init) ws := by
  have hready := ready_ioInit hinit b
  refine ⟨calls_not_contention hws htail hready, ?_⟩
  have hperforms : Meets callStep (fun _ w => Performs 4 w.1.accesses w.2) (run HpiBus.step b init) ws :=
    meets_of_forall hws _
  refine hperforms.mono (I := Ready) (fun b w _ hw => ready_call hw b) ?_ hready
  intro b w hb hw address hcall
  rw [hcall] at hw
  exact ioRead_returned hw hb

/-! ### A session -/

/-- One access in `k` cycles, with the chip driving `chip`. -/
def paced (k : ℕ) (chip : BitVec 16) (a : Access) : List Cycle :=
  List.replicate (k - 1) ⟨none, chip, 0#16⟩ ++ [⟨some a, chip, 0#16⟩]

def pacedCall (k : ℕ) (chip : BitVec 16) (as : List Access) : List Cycle :=
  (as.map (paced k chip)).flatten

lemma performs_pacedCall {k : ℕ} (chip : BitVec 16) (as : List Access) :
    Performs k as (pacedCall k chip as) := by
  induction as with
  | nil => rfl
  | cons a as ih =>
    refine ⟨paced k chip a, pacedCall k chip as, rfl, ?_, ih⟩
    refine ⟨List.replicate (k - 1) ⟨none, chip, 0#16⟩, ⟨some a, chip, 0#16⟩, rfl, ?_, ?_, rfl⟩
    · simp [paced]
      omega
    · intro x hx
      rw [List.eq_of_mem_replicate hx]

def session (k : ℕ) : List (Call × List Cycle) :=
  [(.write 2 0x051E, pacedCall k 0#16 (ioWrite 2 0x051E)), (.read 0, pacedCall k 0x0704#16 (ioRead 0))]

lemma performs_session (k : ℕ) : ∀ w ∈ session k, Performs k w.1.accesses w.2 := by
  simp only [session, List.mem_cons, List.not_mem_nil, or_false, forall_eq_or_imp, forall_eq]
  exact ⟨performs_pacedCall 0#16 _, performs_pacedCall 0x0704#16 _⟩

/-- The session with its write is not latched; its read alone has nothing to latch. -/
theorem writes_latched_session :
    ¬Meets callStep CallLatched (run HpiBus.step HpiBus.reset (pacedCall 1 0#16 ioInit)) (session 1) ∧
    Meets callStep CallLatched (run HpiBus.step HpiBus.reset (pacedCall 1 0#16 ioInit))
      ((session 1).drop 1) := by
  have hinit : Performs 1 ioInit (pacedCall 1 0#16 ioInit) := performs_pacedCall 0#16 ioInit
  constructor
  · intro h
    have hno := (writes_latched_iff HpiBus.reset hinit (performs_session 1)).1 h
    exact hno _ List.mem_cons_self 2 0x051E rfl
  · apply (writes_latched_iff HpiBus.reset hinit
      (fun w hw => performs_session 1 w (List.mem_of_mem_drop hw))).2
    simp [session]

/-- The address that `IO_write` stores is not on the bus when the chip latches it. -/
theorem session_not_latched :
    Performs 16 ioInit (pacedCall 16 0#16 ioInit) ∧
    (∀ w ∈ session 16, Performs 16 w.1.accesses w.2) ∧
    ¬Meets callStep CallLatched (run HpiBus.step HpiBus.reset (pacedCall 16 0#16 ioInit))
      (session 16) := by
  have hinit : Performs 16 ioInit (pacedCall 16 0#16 ioInit) := performs_pacedCall 0#16 ioInit
  refine ⟨hinit, performs_session 16, ?_⟩
  intro h
  exact not_writeLatched (performs_pacedCall 0#16 _) (ready_ioInit hinit _) (h.1 2 0x051E rfl)

theorem reads_returned_session :
    (∀ x ∈ visits HpiBus.step (run HpiBus.step HpiBus.reset (pacedCall 4 0#16 ioInit))
      (((session 4).map Prod.snd).flatten ++ []), ¬Contention x.1) ∧
    Meets callStep CallReturned (run HpiBus.step HpiBus.reset (pacedCall 4 0#16 ioInit)) (session 4) :=
  reads_returned HpiBus.reset (performs_pacedCall 0#16 ioInit) (performs_session 4) (by simp)

end StickFigureFighting
