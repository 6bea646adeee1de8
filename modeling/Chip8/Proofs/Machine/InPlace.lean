import Chip8.Proofs.Machine.Faults

/-!
# Carrying out an instruction in place

`Machine.execute` gives either a fault or a machine, so a refused instruction leaves no trace.
An interpreter that keeps one machine and writes to it part by part has no such protection: what it
wrote before a refusal stays written. `InPlace.execute` is that interpreter. The instructions that
can be refused are the sequence of their checks and writes, in order: the stack pointer before the
jump, the flag cleared before a sprite is drawn, one register after another when a block is loaded.
The others make no check, and are carried out at once.

* `execute_eq`: it comes to the same, so every check stands before the first write.
* `step_eq`: the same of a whole step.
-/

namespace Chip8

/-- Work on one machine, in place. A fault leaves the machine as it was written by then. -/
abbrev InPlace (τ : Type) := EStateM Fault (Machine τ)

namespace InPlace

open Machine

variable {τ : Type}

/-- A check that may refuse. -/
def check {α : Type} : Except Fault α → InPlace τ α
  | .ok a => pure a
  | .error f => throw f

/-- The flag register set to `value`. -/
def setFlag (value : UInt8) : InPlace τ Unit :=
  modify (·.withRegisters (·.setFlag value))

/-- The program counter set to `target`. -/
def jump (target : UInt16) : InPlace τ Unit :=
  modify (·.withRegisters (·.jump target))

/-- On to the next instruction. -/
def advance : InPlace τ Unit :=
  modify (·.advance false)

/-- The registers from `Vn` on, one after another. -/
def setFrom (n : Nat) : List UInt8 → InPlace τ Unit
  | [] => pure ()
  | b :: bs => do
    modify (·.withRegisters fun r => { r with v := r.v.setIfInBounds n b })
    setFrom (n + 1) bs

/-- The flag is cleared, the sprite drawn, and the flag set if it met a lit pixel. -/
def draw (x y : Int) (sprite : List UInt8) : InPlace τ Unit := do
  setFlag 0
  let m ← get
  let drawn := m.screen.draw x y sprite
  set { m with screen := drawn.2 }
  if drawn.1 then setFlag 1

/-- **Carries out an instruction in place.** -/
def execute (i : Instruction) : InPlace τ Unit := do
  let m ← get
  let v := m.registers.get
  match i with
  | .ret => do
    let (address, stack) ← check m.stack.pop
    set { m with stack }
    jump (UInt16.ofInt address)
  | .call target => do
    let stack ← check (m.stack.push (m.registers.pc.toNat + 2))
    set { m with stack }
    jump (UInt16.ofNat target.val)
  | .draw x y height => do
    let sprite ← check (m.memory.readBlock m.registers.index.toNat height.val)
    draw (v x).toNat (v y).toNat sprite
    advance
  | .decimal x => do
    let digits := Arithmetic.decimalDigits (v x)
    let memory ← check (m.memory.writeBlock m.registers.index.toNat digits)
    set { m with memory }
    advance
  | .store x => do
    let memory ← check (m.memory.writeBlock m.registers.index.toNat (m.registers.upTo x))
    set { m with memory }
    advance
  | .load x => do
    let bytes ← check (m.memory.readBlock m.registers.index.toNat (x.val + 1))
    setFrom 0 bytes
    advance
  | i => do
    let next ← check (m.execute i)
    set next

/-- One instruction, or one look at the keypad, in place. -/
def step : InPlace τ Unit := do
  let m ← get
  match m.status with
  | .awaitingKey => set m.pollKey
  | .running => do
    let d ← check m.fetch
    execute d.instruction
  modify (·.counted)

/-! ## Checks and writes -/

/-- How work on the machine `m` ends that comes to `x`: a refusal leaves `m` as it was. -/
def ending (m : Machine τ) : Except Fault (Machine τ) → EStateM.Result Fault (Machine τ) Unit
  | .ok n => .ok () n
  | .error f => .error f m

variable {α : Type}

/-- A check and nothing but writes after it. -/
theorem ending_of_check (x : Except Fault α) {k : α → InPlace τ Unit} {g : α → Machine τ}
    {m : Machine τ} (hk : ∀ a, k a m = .ok () (g a)) :
    (check x >>= k) m = ending m (x >>= fun a => pure (g a)) := by
  cases x with
  | error f => rfl
  | ok a => exact hk a

theorem setFrom_apply (m : Machine τ) (n : Nat) (bytes : List UInt8) :
    setFrom n bytes m = .ok () (m.withRegisters (·.setFrom n bytes)) := by
  induction bytes generalizing m n with
  | nil => rfl
  | cons b bs ih => exact ih _ (n + 1)

theorem setFlag_setFlag (r : Registers) (a b : UInt8) : (r.setFlag a).setFlag b = r.setFlag b := by
  simp [Registers.setFlag, Registers.set]

theorem draw_apply (m : Machine τ) (x y : Int) (sprite : List UInt8) :
    draw x y sprite m = .ok () (({ m with screen := (m.screen.draw x y sprite).2 }).withRegisters
      (·.setFlag (Arithmetic.flagOf (m.screen.draw x y sprite).1))) := by
  show (if (m.screen.draw x y sprite).1 = true then setFlag 1 else pure ())
    { m.withRegisters (·.setFlag 0) with screen := (m.screen.draw x y sprite).2 } = _
  cases (m.screen.draw x y sprite).1 with
  | false => rfl
  | true =>
    show EStateM.Result.ok () { m with
      screen := (m.screen.draw x y sprite).2
      registers := (m.registers.setFlag 0).setFlag 1 } = _
    rw [setFlag_setFlag]
    rfl

/-! ## Instructions and steps -/

/-- **Every instruction checks before it writes.** -/
theorem execute_eq (m : Machine τ) (i : Instruction) : execute i m = ending m (m.execute i) := by
  cases i with
  | ret => exact ending_of_check m.stack.pop fun _ => rfl
  | call target => exact ending_of_check (m.stack.push _) fun _ => rfl
  | decimal x => exact ending_of_check (m.memory.writeBlock _ _) fun _ => rfl
  | store x => exact ending_of_check (m.memory.writeBlock _ _) fun _ => rfl
  | draw x y height =>
    refine ending_of_check (m.memory.readBlock _ _) fun sprite => ?_
    show EStateM.bind (draw _ _ sprite) (fun _ => advance) m = _
    rw [EStateM.bind, draw_apply]
    rfl
  | load x =>
    refine ending_of_check (m.memory.readBlock _ _) fun bytes => ?_
    show EStateM.bind (setFrom 0 bytes) (fun _ => advance) m = _
    rw [EStateM.bind, setFrom_apply]
    rfl
  | _ => rfl

theorem step_of_awaiting {m : Machine τ} (hs : m.status = .awaitingKey) :
    step m = .ok () m.pollKey.counted := by
  show (match m.status with | .awaitingKey => _ | .running => _ : InPlace τ Unit) m = _
  rw [hs]
  rfl

theorem step_of_running {m : Machine τ} (hs : m.status = .running) :
    step m = EStateM.bind (check m.fetch)
      (fun d => EStateM.bind (execute d.instruction) fun _ => modify (·.counted)) m := by
  show (match m.status with | .awaitingKey => _ | .running => _ : InPlace τ Unit) m = _
  rw [hs]
  rfl

/-- **So does every step**, the fetch being its first check. -/
theorem step_eq (m : Machine τ) :
    step m = match m.step.fault with
      | none => .ok () m.step.machine
      | some f => .error f m := by
  cases hs : m.status with
  | awaitingKey => rw [step_of_awaiting hs, Machine.step_of_awaiting hs]
  | running =>
    rw [step_of_running hs]
    cases hd : m.fetch with
    | error f =>
      rw [step_of_fetch_error hs hd]
      rfl
    | ok d =>
      show EStateM.bind (execute d.instruction) (fun _ => modify (·.counted)) m = _
      rw [EStateM.bind, execute_eq]
      cases he : m.execute d.instruction with
      | error f =>
        rw [step_of_execute_error hs hd he]
        rfl
      | ok n =>
        rw [step_of_execute hs hd he]
        rfl

end InPlace

end Chip8
