import Chip8.Machine.Execute

/-!
# Cycles

Model of `fetch`, `cycle` and `run` of `Chip8CPU`. One cycle fetches an instruction and carries it
out, or, while the machine waits for a key, looks at the keypad again; then the elapsed time goes to
the timers, whatever came before. A fault ends the cycle, not the machine: it is handed out in the
report and the machine is left as it was but for the timers.

* `step_of_fault`: a step that reports a fault leaves the machine as it was.
-/

namespace Chip8

/-- What a cycle did before the timers. -/
structure Step (τ : Type) where
  machine : Machine τ
  /-- The instruction that was fetched, also when it was then refused. -/
  instruction : Option Decoded
  fault : Option Fault

/-- What a cycle tells its host. -/
structure CycleReport where
  /-- The status after the cycle. -/
  status : Status
  /-- The instruction that was fetched, also when it was then refused. -/
  instruction : Option Decoded
  /-- A timer step fired. -/
  fired : Bool
  fault : Option Fault
  notices : List Notice
  deriving DecidableEq, Repr

namespace Machine

variable {τ : Type}

/-- The instruction at the program counter. -/
def fetch (m : Machine τ) : Except Fault Decoded := do
  let pc := m.registers.pc.toNat
  let w ← m.memory.readWord pc
  match decoded? w with
  | some d => return d
  | none => .error (.unknownOpcode w.toNat (some (pc : Int)))

/-- The machine with one more cycle to its count. -/
def counted (m : Machine τ) : Machine τ :=
  { m with cycles := m.cycles + 1 }

/-- One instruction, or one look at the keypad. -/
def step (m : Machine τ) : Step τ :=
  match m.status with
  | .awaitingKey => ⟨m.pollKey.counted, none, none⟩
  | .running =>
    match m.fetch with
    | .error f => ⟨m, none, some f⟩
    | .ok d =>
      match m.execute d.instruction with
      | .error f => ⟨m, some d, some f⟩
      | .ok next => ⟨next.counted, some d, none⟩

/-- What is told of a step. -/
def stepNotices (m : Machine τ) (s : Step τ) : List Notice :=
  match s.fault, s.instruction with
  | some f, _ => [.fault m.registers.pc.toNat f]
  | none, some d => m.executeNotices d.instruction
  | none, none =>
    match m.keypad.highestPressed with
    | some key => [.keyArrived key.val]
    | none => []

theorem step_of_fault (m : Machine τ) (h : m.step.fault.isSome) : m.step.machine = m := by
  unfold step at h ⊢
  cases hs : m.status with
  | awaitingKey => simp [hs] at h
  | running =>
    simp only [hs] at h ⊢
    cases hf : m.fetch with
    | error f => rfl
    | ok d =>
      simp only [hf] at h ⊢
      cases he : m.execute d.instruction with
      | error f => rfl
      | ok next => simp [he] at h

variable [Seconds τ]

/-- One step, and then `elapsed` time for the timers. -/
def cycle (m : Machine τ) (elapsed : τ) : CycleReport × Machine τ :=
  let s := m.step
  let ticked := s.machine.timers.tick elapsed
  let next := { s.machine with timers := ticked.2 }
  (⟨next.status, s.instruction, ticked.1.fired, s.fault,
    m.stepNotices s ++ ticked.1.tone.toList.map .tone⟩, next)

/-- The time from the last reading of the clock to this one; none from the first. -/
def elapsedTo (m : Machine τ) (now : τ) : τ :=
  match m.lastReading with
  | some last => now - last
  | none => Seconds.zero

/-- One cycle at the clock reading `now`. -/
def cycleAt (m : Machine τ) (now : τ) : CycleReport × Machine τ :=
  { m with lastReading := some now }.cycle (m.elapsedTo now)

/-- Up to `n` cycles of `elapsed` time each, the last one the first that meets a fault. -/
def run (m : Machine τ) (n : Nat) (elapsed : τ) : Array CycleReport × Machine τ :=
  go n #[] m
where
  /-- Goes on from the cycles reported so far. -/
  go : Nat → Array CycleReport → Machine τ → Array CycleReport × Machine τ
    | 0, reports, m => (reports, m)
    | n + 1, reports, m =>
      let done := m.cycle elapsed
      if done.1.fault.isSome then (reports.push done.1, done.2)
      else go n (reports.push done.1) done.2

end Machine

end Chip8
