/-!
# Time

Elapsed time and clock readings are measured in a type of seconds that has a zero, sums, differences
and a strict order, and in which one sixtieth of a second can be written down. A host counts in
floating-point numbers; exact numbers serve where an account of time must add up. A clock is known
by its readings.

Model of `Timers` (`tick`, `sounding`): two timers of the machine count down to zero sixty times a
second of host time, however often the machine runs. Elapsed time is gathered until a sixtieth of a
second is reached; then one step fires and the gathering starts again from nothing, so a long pause
costs one step at most. While the sound timer is above zero every step gives the tone signal.

* `Clock.reading_ofList`: a clock made of listed readings gives them in order, then the last one
  forever.
* `Timers.tick_of_lt`, `Timers.tick_of_not_lt`: what a tick does, without a step and with one.
-/

namespace Chip8

/-! ## Seconds -/

/-- A type in which durations and clock readings are measured. -/
class Seconds (τ : Type) extends Add τ, Sub τ, LT τ where
  /-- No time at all. -/
  zero : τ
  /-- The sixtieth part of a second. -/
  sixtieth : τ
  /-- The order can be tested. -/
  decLt : (a b : τ) → Decidable (a < b)

instance Seconds.instDecidableLt {τ : Type} [Seconds τ] (a b : τ) : Decidable (a < b) :=
  Seconds.decLt a b

instance : Seconds Float where
  zero := 0.0
  sixtieth := 1.0 / 60.0
  decLt := inferInstance

instance : Seconds Rat where
  zero := 0
  sixtieth := 1 / 60
  decLt := inferInstance

/-! ## Clocks -/

/-- A clock and how often it was read. -/
structure Clock (τ : Type) where
  reading : Nat → τ
  reads : Nat

namespace Clock

variable {τ : Type}

/-- A clock that gives `first` and then `rest`, and stays at its last reading. -/
def ofList (first : τ) (rest : List τ) : Clock τ where
  reading := fun n => (first :: rest)[n]?.getD (rest.getLast?.getD first)
  reads := 0

/-- Takes a reading. -/
def read (c : Clock τ) : τ × Clock τ :=
  (c.reading c.reads, { c with reads := c.reads + 1 })

theorem reading_ofList (first : τ) (rest : List τ) (n : Nat) (h : n < rest.length + 1) :
    (ofList first rest).reading n = (first :: rest)[n] := by
  simp [ofList, h]

end Clock

/-! ## Delay and sound timers -/

/-- The two countdown registers, the time gathered towards the next step, and the steps so far. -/
structure Timers (τ : Type) where
  delay : Int
  sound : Int
  gathered : τ
  ticks : Nat

/-- What one account of elapsed time brought about. -/
structure TickReport where
  /-- A step fired. -/
  fired : Bool
  /-- The sound timer as it stood when the tone was given. -/
  tone : Option Int
  deriving DecidableEq, Repr

namespace Timers

variable {τ : Type}

/-- The sound timer is running. -/
def sounding (t : Timers τ) : Bool :=
  0 < t.sound

/-- One step down, and never below zero. -/
def countDown (value : Int) : Int :=
  if 0 < value then value - 1 else value

variable [Seconds τ]

/-- Both registers zero and nothing gathered. -/
def initial : Timers τ :=
  ⟨0, 0, Seconds.zero, 0⟩

/-- The time gathered once `elapsed` is accounted for; only time that passes forward counts. -/
def gather (t : Timers τ) (elapsed : τ) : τ :=
  if Seconds.zero < elapsed then t.gathered + elapsed else t.gathered

/-- Accounts for `elapsed` time; at most one step fires. -/
def tick (t : Timers τ) (elapsed : τ) : TickReport × Timers τ :=
  let gathered := t.gather elapsed
  if gathered < Seconds.sixtieth then
    (⟨false, none⟩, { t with gathered })
  else
    (⟨true, if 0 < t.sound then some t.sound else none⟩,
      ⟨countDown t.delay, countDown t.sound, Seconds.zero, t.ticks + 1⟩)

/-- Too little time is gathered: no step fires. -/
theorem tick_of_lt {t : Timers τ} {elapsed : τ} (h : t.gather elapsed < Seconds.sixtieth) :
    t.tick elapsed = (⟨false, none⟩, { t with gathered := t.gather elapsed }) :=
  if_pos h

/-- Enough time is gathered: a step fires. -/
theorem tick_of_not_lt {t : Timers τ} {elapsed : τ} (h : ¬ t.gather elapsed < Seconds.sixtieth) :
    t.tick elapsed =
      (⟨true, if 0 < t.sound then some t.sound else none⟩,
        ⟨countDown t.delay, countDown t.sound, Seconds.zero, t.ticks + 1⟩) :=
  if_neg h

end Timers

end Chip8
