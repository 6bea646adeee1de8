import Chip8.Proofs.Machine.WellFormed

/-!
# Waiting for a key is spinning on the instruction

A machine that meets an instruction for a key while none is down remembers that it waits, and looks
at the keypad in later cycles without fetching anything. The plain way to wait is to do nothing and
stay at the instruction, so that the next cycle fetches it again. `spinCycle` is a machine of this
kind; it has no state of waiting.

The two fetch at different times, and agree because a machine that waits stands at the instruction
for a key, with the register it waits for as operand (`WellFormed.waiting`).

* `spinCall_withoutWait`: one call leads to the same machine, the note of the wait apart.
* `spin_refinement`: so does any sequence of calls, and all cycles give the same answers.
-/

namespace Chip8

/-- What a cycle answers in either way of waiting: whether a timer step fired, and the fault. -/
structure Answer where
  fired : Bool
  fault : Option Fault
  deriving DecidableEq, Repr

/-- The part of a report that does not tell of the wait. -/
def CycleReport.answer (r : CycleReport) : Answer :=
  ⟨r.fired, r.fault⟩

namespace Machine

variable {τ : Type}

/-! ## The machine that spins -/

/-- The machine after the instruction, or why it is refused; an instruction for a key does nothing
while none is down. -/
def spinExecute (m : Machine τ) (i : Instruction) : Except Fault (Machine τ) :=
  match i, m.keypad.highestPressed with
  | .awaitKey _, none => .ok m
  | i, _ => m.execute i

/-- One instruction. -/
def spinStep (m : Machine τ) : Step τ :=
  match m.fetch with
  | .error f => ⟨m, none, some f⟩
  | .ok d =>
    match m.spinExecute d.instruction with
    | .error f => ⟨m, some d, some f⟩
    | .ok next => ⟨next.counted, some d, none⟩

section

variable [Seconds τ]

/-- One step, and then `elapsed` time for the timers. -/
def spinCycle (m : Machine τ) (elapsed : τ) : Answer × Machine τ :=
  let s := m.spinStep
  let ticked := s.machine.timers.tick elapsed
  (⟨ticked.1.fired, s.fault⟩, { s.machine with timers := ticked.2 })

/-- One cycle, told the time or measuring it. -/
def spinCycleBy (m : Machine τ) (t : Timing τ) : Answer × Machine τ :=
  (m.noted t).spinCycle (m.elapsed t)

/-- The machine after one call. -/
def spinCall (m : Machine τ) : Call τ → Machine τ
  | .cycle t => (m.spinCycleBy t).2
  | c => m.call c

/-- The machine after a sequence of calls. -/
def spinCalls (m : Machine τ) (cs : List (Call τ)) : Machine τ :=
  cs.foldl spinCall m

/-- What a call answers if it is a cycle. -/
def spinAnswer? (m : Machine τ) : Call τ → Option Answer
  | .cycle t => some (m.spinCycleBy t).1
  | _ => none

/-- What the cycles of a sequence of calls answer, in order. -/
def spinAnswers (m : Machine τ) : List (Call τ) → List Answer
  | [] => []
  | c :: cs => (m.spinAnswer? c).toList ++ (m.spinCall c).spinAnswers cs

end

/-- The machine without its note of a wait. -/
def withoutWait (m : Machine τ) : Machine τ :=
  { m with status := .running, keyRegister := 0 }

/-! ## Steps -/

variable {m : Machine τ}

/-- No instruction but one for a key looks at the note of a wait or leaves one. -/
theorem spinExecute_withoutWait (m : Machine τ) (i : Instruction) :
    m.withoutWait.spinExecute i = (m.execute i).map withoutWait := by
  cases i with
  | awaitKey x =>
    have hkey : m.withoutWait.keypad = m.keypad := rfl
    cases hk : m.keypad.highestPressed with
    | none => simp only [spinExecute, execute, awaitKey, hkey, hk]; rfl
    | some key => simp only [spinExecute, execute, awaitKey, hkey, hk]; rfl
  | ret => rw [execute, Checked.map_eq]; rfl
  | call target => rw [execute, Checked.map_eq]; rfl
  | draw x y height => rw [execute, Checked.map_eq]; rfl
  | decimal x => rw [execute, Checked.map_eq]; rfl
  | store x => rw [execute, Checked.map_eq]; rfl
  | load x => rw [execute, Checked.map_eq]; rfl
  | _ => rfl

/-- What waits for a key polls as the instruction for that key would be carried out. -/
theorem spinExecute_of_waiting (m : Machine τ) :
    m.withoutWait.spinExecute (.awaitKey m.keyRegister) = .ok m.pollKey.withoutWait := by
  rw [spinExecute_withoutWait]
  show Except.ok (m.awaitKey m.keyRegister).withoutWait = _
  unfold awaitKey pollKey
  cases m.keypad.highestPressed <;> rfl

theorem spinStep_of_fetch_error {f : Fault} (hf : m.fetch = .error f) :
    m.spinStep = ⟨m, none, some f⟩ := by
  simp only [spinStep, hf]

theorem spinStep_of_execute_error {d : Decoded} {f : Fault} (hd : m.fetch = .ok d)
    (hf : m.spinExecute d.instruction = .error f) : m.spinStep = ⟨m, some d, some f⟩ := by
  simp only [spinStep, hd, hf]

theorem spinStep_of_execute {n : Machine τ} {d : Decoded} (hd : m.fetch = .ok d)
    (hn : m.spinExecute d.instruction = .ok n) : m.spinStep = ⟨n.counted, some d, none⟩ := by
  simp only [spinStep, hd, hn]

/-- A machine that waits fetches the instruction that made it wait. -/
theorem WellFormed.fetch_of_waiting (hw : m.WellFormed) (hs : m.status = .awaitingKey) :
    ∃ w, m.fetch = .ok ⟨w, .awaitKey m.keyRegister⟩ := by
  obtain ⟨hp, hi⟩ := hw.waiting hs
  obtain ⟨w, hword, -⟩ := fetch_of_le hp
  exact ⟨w, fetch_eq_ok_iff.mpr ⟨hp, hword, hi⟩⟩

/-- **One step of the two machines**: the same but for the note of the wait. -/
theorem spinStep_withoutWait (hw : m.WellFormed) :
    m.withoutWait.spinStep.machine = m.step.machine.withoutWait ∧
      m.withoutWait.spinStep.fault = m.step.fault := by
  have hfetch : m.withoutWait.fetch = m.fetch := rfl
  cases hs : m.status with
  | awaitingKey =>
    -- one machine looks at the keypad, the other fetches its instruction again
    obtain ⟨w, hd⟩ := hw.fetch_of_waiting hs
    rw [step_of_awaiting hs, spinStep_of_execute (hfetch.trans hd) m.spinExecute_of_waiting]
    exact ⟨rfl, rfl⟩
  | running =>
    cases hd : m.fetch with
    | error f =>
      rw [step_of_fetch_error hs hd, spinStep_of_fetch_error (hfetch.trans hd)]
      exact ⟨rfl, rfl⟩
    | ok d =>
      have hspin := m.spinExecute_withoutWait d.instruction
      cases he : m.execute d.instruction with
      | error f =>
        rw [he] at hspin
        rw [step_of_execute_error hs hd he, spinStep_of_execute_error (hfetch.trans hd) hspin]
        exact ⟨rfl, rfl⟩
      | ok n =>
        rw [he] at hspin
        rw [step_of_execute hs hd he, spinStep_of_execute (hfetch.trans hd) hspin]
        exact ⟨rfl, rfl⟩

/-! ## Runs -/

variable [Seconds τ]

theorem spinCycleBy_withoutWait (hw : m.WellFormed) (t : Timing τ) :
    (m.withoutWait.spinCycleBy t).2 = (m.cycleBy t).2.withoutWait ∧
      (m.withoutWait.spinCycleBy t).1 = (m.cycleBy t).1.answer := by
  obtain ⟨hmachine, hfault⟩ := spinStep_withoutWait (hw.noted t)
  have htime : m.withoutWait.elapsed t = m.elapsed t := by cases t <;> rfl
  have hnoted : m.withoutWait.noted t = (m.noted t).withoutWait := by cases t <;> rfl
  rw [spinCycleBy, cycleBy_eq, htime, hnoted]
  constructor
  · show (m.noted t).withoutWait.spinStep.machine.ticked (m.elapsed t) = _
    rw [hmachine]
    rfl
  · show Answer.mk ((m.noted t).withoutWait.spinStep.machine.timers.tick (m.elapsed t)).1.fired
      (m.noted t).withoutWait.spinStep.fault = _
    rw [hmachine, hfault]
    rfl

/-- **What one call preserves**: the machines are the same but for the note of the wait, and answer
alike. -/
theorem spinCall_withoutWait (hw : m.WellFormed) (c : Call τ) :
    m.withoutWait.spinCall c = (m.call c).withoutWait ∧
      m.withoutWait.spinAnswer? c = (m.report? c).map CycleReport.answer := by
  cases c with
  | cycle t =>
    obtain ⟨hmachine, hanswer⟩ := spinCycleBy_withoutWait hw t
    exact ⟨hmachine, congrArg some hanswer⟩
  | reset => exact ⟨rfl, rfl⟩
  | load image name =>
    refine ⟨?_, rfl⟩
    simp only [spinCall, call, load, withoutWait, reset, initial]
  | loadFile tree path =>
    refine ⟨?_, rfl⟩
    show (m.withoutWait.loadFile tree path).machine = (m.loadFile tree path).machine.withoutWait
    unfold loadFile
    cases tree.read path with
    | error e => rfl
    | ok image => simp only [load, withoutWait, reset, initial]
  | key code down => exact ⟨rfl, rfl⟩
  | present => exact ⟨rfl, rfl⟩

theorem spinCalls_withoutWait (hw : m.WellFormed) (cs : List (Call τ)) :
    m.withoutWait.spinCalls cs = (m.calls cs).withoutWait ∧
      m.withoutWait.spinAnswers cs = (m.reports cs).map CycleReport.answer := by
  induction cs generalizing m with
  | nil => exact ⟨rfl, rfl⟩
  | cons c cs ih =>
    obtain ⟨hcall, hanswer⟩ := spinCall_withoutWait hw c
    obtain ⟨hcalls, hanswers⟩ := ih (hw.call c)
    constructor
    · show (m.withoutWait.spinCall c).spinCalls cs = _
      rw [hcall, hcalls]
      rfl
    · rw [spinAnswers, hcall, hanswer, hanswers, reports, List.map_append, Option.toList_map]

omit [Seconds τ] in
/-- The two bytes at the program counter of a machine that waits. -/
theorem WellFormed.bytes_of_waiting (hw : m.WellFormed) (hs : m.status = .awaitingKey) :
    m.registers.pc.toNat ≤ 0xFFE ∧
      (m.memory.byte m.registers.pc.toNat).toNat = 0xF0 + m.keyRegister ∧
      (m.memory.byte (m.registers.pc.toNat + 1)).toNat = 0x0A := by
  obtain ⟨hp, hi⟩ := hw.waiting hs
  have hword : m.opcode = 0xF000 + 0x100 * m.keyRegister + 0x0A := hi
  have := (m.memory.byte (m.registers.pc.toNat + 1)).toNat_lt
  rw [opcode] at hword
  exact ⟨hp, by omega, by omega⟩

/-- **Waiting for a key refines spinning on its instruction.** From a new machine and through any
sequence of calls, the machine that waits and the machine that spins are the same but for the note
of the wait, and all their cycles give the same answers. Whenever the machine waits, the word at its
program counter is still the instruction for a key, for the register that it waits for. -/
theorem spin_refinement (seed : Nat) (cs : List (Call τ)) :
    (initial seed).spinCalls cs = ((initial seed).calls cs).withoutWait ∧
    (initial seed).spinAnswers cs = ((initial seed).reports cs).map CycleReport.answer ∧
    (((initial seed).calls cs).status = .awaitingKey →
      ((initial seed).calls cs).registers.pc.toNat ≤ 0xFFE ∧
      (((initial seed).calls cs).memory.byte
        ((initial seed).calls cs).registers.pc.toNat).toNat =
          0xF0 + ((initial seed).calls cs).keyRegister ∧
      (((initial seed).calls cs).memory.byte
        (((initial seed).calls cs).registers.pc.toNat + 1)).toNat = 0x0A) := by
  have hw := wellFormed_initial (τ := τ) seed
  have hcalls : ((initial seed).calls cs : Machine τ).WellFormed :=
    ((Reachable.new seed).calls cs).wellFormed
  obtain ⟨hspin, hanswers⟩ := spinCalls_withoutWait hw cs
  exact ⟨hspin, hanswers, hcalls.bytes_of_waiting⟩

/-- A program of one instruction for a key waits with no key down, for register `V3`. -/
theorem spin_refinement_waiting :
    ((initial 0 : Machine Rat).calls [.load [0xF3, 0x0A] "", .cycle (.told 0)]).status =
        .awaitingKey ∧
      ((initial 0 : Machine Rat).calls [.load [0xF3, 0x0A] "", .cycle (.told 0)]).keyRegister = 3 ∧
      ((initial 0 : Machine Rat).spinCalls [.load [0xF3, 0x0A] "", .cycle (.told 0)]).status =
        .running := by
  refine ⟨by decide +kernel, by decide +kernel, ?_⟩
  rw [(spin_refinement 0 [.load [0xF3, 0x0A] "", .cycle (.told 0)]).1]
  rfl

end Machine

end Chip8
