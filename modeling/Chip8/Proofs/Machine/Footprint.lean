import Chip8.Proofs.Machine.Faults

/-!
# What an instruction leaves alone

Most instructions write to registers and to nothing else. `Instruction.touches` says which other
parts of a machine an instruction can write to. A step leaves a part alone unless it carries out an
instruction that touches it: a refused instruction, a fetch that fails and a look at the keypad
carry out none (`Step.executed?`), and write to none of these parts.

* `same_of_execute`: an instruction leaves alone what it does not touch.
* `same_of_step`: so does a step, whatever comes of it.
* `execute_of_executed?`: a step that carries out an instruction does what the instruction does.
* `same_of_cycle`, `call_of_executed?`: the same of a call.
-/

namespace Chip8

/-- The parts of a machine, registers apart, that instructions write to. -/
inductive Part where
  | memory
  | stack
  | screen
  | random
  | delay
  | sound
  deriving DecidableEq, Repr

/-- The instruction writes there. -/
def Instruction.touches : Instruction → Part → Bool
  | clear, .screen => true
  | ret, .stack => true
  | call _, .stack => true
  | random _ _, .random => true
  | draw _ _ _, .screen => true
  | setDelay _, .delay => true
  | setSound _, .sound => true
  | decimal _, .memory => true
  | store _, .memory => true
  | _, _ => false

/-- What is carried out of an instruction that was fetched: all of it, unless there is a fault. -/
def carriedOut? (fetched : Option Decoded) : Option Fault → Option Instruction
  | some _ => none
  | none => fetched.map Decoded.instruction

theorem carriedOut?_eq_some_iff {fetched : Option Decoded} {fault : Option Fault}
    {i : Instruction} : carriedOut? fetched fault = some i ↔
      fault = none ∧ ∃ d, fetched = some d ∧ d.instruction = i := by
  cases fault with
  | some f => simp [carriedOut?]
  | none => simp [carriedOut?]

/-- The instruction that a step carries out. -/
def Step.executed? {τ : Type} (s : Step τ) : Option Instruction :=
  carriedOut? s.instruction s.fault

/-- The instruction that a cycle carried out. -/
def CycleReport.executed? (r : CycleReport) : Option Instruction :=
  carriedOut? r.instruction r.fault

namespace Machine

variable {τ : Type} {m n : Machine τ} {i : Instruction} {p : Part}

/-- The part is the same in both machines. -/
def SamePart (m n : Machine τ) : Part → Prop
  | .memory => n.memory = m.memory
  | .stack => n.stack = m.stack
  | .screen => n.screen = m.screen
  | .random => n.random = m.random
  | .delay => n.timers.delay = m.timers.delay
  | .sound => n.timers.sound = m.timers.sound

theorem SamePart.refl (m : Machine τ) (p : Part) : SamePart m m p := by
  cases p <;> rfl

/-- A key that arrives touches no part but the registers. -/
theorem samePart_takeKey (m : Machine τ) (x key : Nibble) (p : Part) :
    SamePart m (m.takeKey x key) p := by
  cases p <;> rfl

/-- **An instruction leaves alone what it does not touch.** -/
theorem same_of_execute (h : m.execute i = .ok n) (hp : i.touches p = false) : SamePart m n p := by
  cases i with
  | clear =>
    cases h
    cases p with
    | screen => cases hp
    | _ => rfl
  | ret =>
    obtain ⟨_, -, rfl⟩ := Checked.eq_ok_iff.mp h
    cases p with
    | stack => cases hp
    | _ => rfl
  | call target =>
    obtain ⟨_, -, rfl⟩ := Checked.eq_ok_iff.mp h
    cases p with
    | stack => cases hp
    | _ => rfl
  | random x mask =>
    cases h
    cases p with
    | random => cases hp
    | _ => rfl
  | draw x y height =>
    obtain ⟨_, -, rfl⟩ := Checked.eq_ok_iff.mp h
    cases p with
    | screen => cases hp
    | _ => rfl
  | awaitKey x =>
    cases h
    unfold awaitKey
    split
    · exact samePart_takeKey m x _ p
    · cases p <;> rfl
  | setDelay x =>
    cases h
    cases p with
    | delay => cases hp
    | _ => rfl
  | setSound x =>
    cases h
    cases p with
    | sound => cases hp
    | _ => rfl
  | decimal x =>
    obtain ⟨_, -, rfl⟩ := Checked.eq_ok_iff.mp h
    cases p with
    | memory => cases hp
    | _ => rfl
  | store x =>
    obtain ⟨_, -, rfl⟩ := Checked.eq_ok_iff.mp h
    cases p with
    | memory => cases hp
    | _ => rfl
  | load x =>
    obtain ⟨_, -, rfl⟩ := Checked.eq_ok_iff.mp h
    cases p <;> rfl
  | _ =>
    cases h
    cases p <;> rfl

/-- **A step leaves a part alone** unless it carries out an instruction that touches it. -/
theorem same_of_step (h : ∀ i, m.step.executed? = some i → i.touches p = false) :
    SamePart m m.step.machine p := by
  rcases m.step_cases with hm | ⟨-, hm⟩ | ⟨key, -, hm⟩ | ⟨d, n, hs, hd, he, hm⟩ <;> rw [hm]
  · exact .refl m p
  · cases p <;> rfl
  · have hkey := samePart_takeKey m m.keyRegister key p
    cases p <;> exact hkey
  · have hexecuted : m.step.executed? = some d.instruction := by
      rw [step_of_execute hs hd he]
      rfl
    have hn := same_of_execute he (h _ hexecuted)
    cases p <;> exact hn

/-- A step that carries out an instruction does what the instruction does, and counts it. -/
theorem execute_of_executed? (h : m.step.executed? = some i) :
    ∃ n, m.execute i = .ok n ∧ m.step.machine = n.counted := by
  obtain ⟨hfault, d, hd, rfl⟩ := carriedOut?_eq_some_iff.mp h
  rcases step_of_instruction hd with ⟨f, -, hf⟩ | ⟨n, he, hn⟩
  · rw [hfault] at hf
    cases hf
  · exact ⟨n, he, by rw [hn]⟩

variable [Seconds τ]

theorem cycleBy_executed? (m : Machine τ) (t : Timing τ) :
    (m.cycleBy t).1.executed? = (m.noted t).step.executed? := by
  rw [cycleBy_eq]
  rfl

/-- The instruction that a call carries out, if it is a cycle that does. -/
def executed? (m : Machine τ) (c : Call τ) : Option Instruction :=
  (m.report? c).bind CycleReport.executed?

/-- The instructions that a sequence of calls carries out, in order. -/
def executed (m : Machine τ) : List (Call τ) → List Instruction
  | [] => []
  | c :: cs => (m.executed? c).toList ++ (m.call c).executed cs

/-- **The step of a cycle leaves a part alone** unless the cycle carries out an instruction that
touches it. The timers are counted down after that. -/
theorem same_of_cycle {t : Timing τ}
    (h : ∀ i, m.executed? (.cycle t) = some i → i.touches p = false) :
    SamePart m (m.noted t).step.machine p := by
  have hstep : SamePart (m.noted t) (m.noted t).step.machine p :=
    same_of_step fun i hi => h i ((m.cycleBy_executed? t).trans hi)
  cases p <;> exact hstep

/-- **A call that carries out an instruction** is a cycle: it does what the instruction does, counts
it, and has the timers take account of the time. -/
theorem call_of_executed? {c : Call τ} (h : m.executed? c = some i) :
    ∃ t n, c = .cycle t ∧ (m.noted t).execute i = .ok n ∧
      m.call c = n.counted.ticked (m.elapsed t) := by
  cases c with
  | cycle t =>
    have hstep : (m.noted t).step.executed? = some i := (m.cycleBy_executed? t).symm.trans h
    obtain ⟨n, hn, hm⟩ := execute_of_executed? hstep
    refine ⟨t, n, rfl, hn, ?_⟩
    rw [call, cycleBy_snd, hm]
  | _ => cases h

end Machine

end Chip8
