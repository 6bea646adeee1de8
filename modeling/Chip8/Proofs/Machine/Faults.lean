import Chip8.Proofs.Instruction.Patterns
import Chip8.Proofs.Machine.Calls
import Chip8.Proofs.Memory.Bounds
import Chip8.Proofs.Registers

/-!
# When a cycle reports a fault

The exact conditions under which a cycle reports a fault, and which fault it then is, in terms of
the program counter, the word there, the index, and the number of outstanding calls. Nothing else
decides: the timers and the keypad in particular have no say (`Faults.congr`).

* `step_fault_eq_some_iff`: a step reports `f` iff the machine runs and `Faults m f`.
* `cycle_fault_iff`: the same of a cycle, with or without a look at the clock.
-/

namespace Chip8

/-! ## Blocks -/

namespace Instruction

/-- The number of cells, from the index on, that an instruction reads or writes as a block. -/
def block? : Instruction → Option Nat
  | draw _ _ height => some height
  | decimal _ => some 3
  | store x => some (x + 1)
  | load x => some (x + 1)
  | _ => none

/-- The instruction writes its block. -/
def writes : Instruction → Bool
  | decimal _ => true
  | store _ => true
  | _ => false

end Instruction

namespace Machine

variable {τ : Type}

/-- The word at the program counter, most significant byte first. -/
def opcode (m : Machine τ) : Nat :=
  256 * (m.memory.byte m.registers.pc.toNat).toNat
    + (m.memory.byte (m.registers.pc.toNat + 1)).toNat

/-! ## The conditions -/

/-- **Why a machine refuses an instruction.** -/
inductive Refuses (m : Machine τ) : Instruction → Fault → Prop
  | underflow (h : m.stack.depth = 0) : Refuses m .ret .stackUnderflow
  | overflow {target : Address} (h : m.stack.depth = 16) :
      Refuses m (.call target) (.stackOverflow (m.registers.pc.toNat + 2) 16)
  | outside {i : Instruction} {n : Nat} (hi : i.block? = some n)
      (h : 4096 < m.registers.index.toNat + n) :
      Refuses m i (.addressOutOfRange
        (max (m.registers.index.toNat : Int) (m.registers.index.toNat + n - 1)) Fault.outsideMemory)
  | glyphs {i : Instruction} {n : Nat} (hi : i.block? = some n) (hw : i.writes = true)
      (h : m.registers.index.toNat + n ≤ 4096) (hg : m.registers.index.toNat < 0x50) :
      Refuses m i (.addressOutOfRange m.registers.index.toNat Fault.insideGlyphs)

/-- **Why a running machine's cycle reports a fault.** -/
inductive Faults (m : Machine τ) : Fault → Prop
  | outside (hp : 0xFFE < m.registers.pc.toNat) :
      Faults m (.addressOutOfRange (m.registers.pc.toNat + 1) Fault.outsideMemory)
  | unknown (hp : m.registers.pc.toNat ≤ 0xFFE) (h : ∀ i : Instruction, ¬ i.Encodes m.opcode) :
      Faults m (.unknownOpcode m.opcode (some (m.registers.pc.toNat : Int)))
  | refused {i : Instruction} {f : Fault} (hp : m.registers.pc.toNat ≤ 0xFFE)
      (hw : i.Encodes m.opcode) (h : m.Refuses i f) : Faults m f

/-- What decides on a fault: memory, registers and the number of outstanding calls. -/
theorem Refuses.congr {m n : Machine τ} {i : Instruction} {f : Fault} (h : m.Refuses i f)
    (hr : m.registers = n.registers) (hs : m.stack.depth = n.stack.depth) : n.Refuses i f := by
  cases h with
  | underflow h => exact .underflow (hs ▸ h)
  | overflow h => rw [hr]; exact .overflow (hs ▸ h)
  | outside hi h => rw [hr] at h ⊢; exact .outside hi h
  | glyphs hi hw h hg => rw [hr] at h hg ⊢; exact .glyphs hi hw h hg

theorem Faults.congr {m n : Machine τ} {f : Fault} (h : m.Faults f) (hm : m.memory = n.memory)
    (hr : m.registers = n.registers) (hs : m.stack.depth = n.stack.depth) : n.Faults f := by
  have ho : m.opcode = n.opcode := by unfold opcode; rw [hm, hr]
  cases h with
  | outside hp => rw [hr] at hp ⊢; exact .outside hp
  | unknown hp h => rw [hr] at hp ⊢; rw [ho] at h ⊢; exact .unknown hp h
  | refused hp hw h => exact .refused (hr ▸ hp) (ho ▸ hw) (h.congr hr hs)

/-! ## Carrying out an instruction -/

@[simp] theorem length_decimalDigits (a : UInt8) : (Arithmetic.decimalDigits a).length = 3 := rfl

section

variable {m : Machine τ} {i : Instruction} {f : Fault} {n : Nat}

theorem refuses_of_read (hi : i.block? = some n)
    (h : ¬ Memory.InMemory m.registers.index.toNat n ∧
      f = Memory.outsideFault m.registers.index.toNat n) : m.Refuses i f := by
  obtain ⟨hb, rfl⟩ := h
  refine .outside hi ?_
  unfold Memory.InMemory at hb; omega

theorem refuses_of_write (hi : i.block? = some n) (hw : i.writes = true)
    (h : (¬ Memory.InMemory m.registers.index.toNat n ∧
        f = Memory.outsideFault m.registers.index.toNat n) ∨
      (Memory.InMemory m.registers.index.toNat n ∧
        ¬ Memory.OffGlyphs m.registers.index.toNat n ∧
        f = Memory.glyphFault m.registers.index.toNat)) : m.Refuses i f := by
  rcases h with h | ⟨hb, hg, rfl⟩
  · exact refuses_of_read hi h
  · unfold Memory.InMemory at hb
    unfold Memory.OffGlyphs at hg
    exact .glyphs hi hw (by omega) (by omega)

/-- An instruction that is refused is refused for one of the reasons. -/
theorem refuses_of_execute (h : m.execute i = .error f) : m.Refuses i f := by
  cases i with
  | ret =>
    obtain ⟨hd, rfl⟩ := CallStack.pop_eq_error_iff.mp (Checked.eq_error_iff.mp h)
    exact .underflow hd
  | call target =>
    obtain ⟨hd, rfl⟩ := CallStack.push_eq_error_iff.mp (Checked.eq_error_iff.mp h)
    exact .overflow hd
  | draw x y height =>
    exact refuses_of_read rfl (Memory.readBlock_eq_error_iff.mp (Checked.eq_error_iff.mp h))
  | load x =>
    exact refuses_of_read (n := x + 1) rfl
      (Memory.readBlock_eq_error_iff.mp (Checked.eq_error_iff.mp h))
  | decimal x =>
    have hf := Memory.writeBlock_eq_error_iff.mp (Checked.eq_error_iff.mp h)
    rw [length_decimalDigits] at hf
    exact refuses_of_write rfl rfl hf
  | store x =>
    have hf := Memory.writeBlock_eq_error_iff.mp (Checked.eq_error_iff.mp h)
    rw [Registers.length_upTo] at hf
    exact refuses_of_write rfl rfl hf
  | _ => cases h

theorem execute_of_refuses (h : m.Refuses i f) : m.execute i = .error f := by
  cases h with
  | underflow hd => exact Checked.eq_error_iff.mpr (CallStack.pop_eq_error_iff.mpr ⟨hd, rfl⟩)
  | overflow hd => exact Checked.eq_error_iff.mpr (CallStack.push_eq_error_iff.mpr ⟨hd, rfl⟩)
  | @outside i n hi hb =>
    have hout : ¬ Memory.InMemory m.registers.index.toNat n := by unfold Memory.InMemory; omega
    cases i with
    | draw x y height =>
      cases hi
      exact Checked.eq_error_iff.mpr (Memory.readBlock_eq_error_iff.mpr ⟨hout, rfl⟩)
    | load x =>
      cases hi
      exact Checked.eq_error_iff.mpr (Memory.readBlock_eq_error_iff.mpr ⟨hout, rfl⟩)
    | decimal x =>
      cases hi
      exact Checked.eq_error_iff.mpr (Memory.writeBlock_eq_error_iff.mpr (.inl ⟨hout, rfl⟩))
    | store x =>
      cases hi
      refine Checked.eq_error_iff.mpr (Memory.writeBlock_eq_error_iff.mpr (.inl ?_))
      rw [Registers.length_upTo]
      exact ⟨hout, rfl⟩
    | _ => cases hi
  | @glyphs i n hi hw hb hg =>
    have hin : Memory.InMemory m.registers.index.toNat n := by unfold Memory.InMemory; omega
    cases i with
    | decimal x =>
      cases hi
      refine Checked.eq_error_iff.mpr (Memory.writeBlock_eq_error_iff.mpr (.inr ⟨hin, ?_, rfl⟩))
      rw [length_decimalDigits]
      unfold Memory.OffGlyphs; omega
    | store x =>
      cases hi
      refine Checked.eq_error_iff.mpr (Memory.writeBlock_eq_error_iff.mpr (.inr ?_))
      rw [Registers.length_upTo]
      refine ⟨hin, ?_, rfl⟩
      unfold Memory.OffGlyphs; omega
    | _ => cases hw

end

/-- **An instruction is refused exactly for the reasons of `Refuses`.** -/
theorem execute_eq_error_iff {m : Machine τ} {i : Instruction} {f : Fault} :
    m.execute i = .error f ↔ m.Refuses i f :=
  ⟨refuses_of_execute, execute_of_refuses⟩

/-! ## Fetching -/

theorem ofBytes_toNat (hi lo : UInt8) :
    (Word.ofBytes hi lo).toNat = 256 * hi.toNat + lo.toNat := by
  have := hi.toNat_lt
  have := lo.toNat_lt
  simp only [Word.ofBytes, UInt16.toNat_ofNat']
  omega

/-- The word at the program counter is that of one instruction at most. -/
theorem encodes_opcode_unique {m : Machine τ} {i j : Instruction} (hi : i.Encodes m.opcode)
    (hj : j.Encodes m.opcode) : i = j := by
  rw [opcode, ← ofBytes_toNat] at hi hj
  exact encodes_unique hi hj

/-- A word that could be read is fetched if it has a meaning. -/
theorem fetch_of_readWord {m : Machine τ} {w : Word}
    (h : m.memory.readWord m.registers.pc.toNat = .ok w) :
    m.fetch = match decoded? w with
      | some d => .ok d
      | none => .error (.unknownOpcode w.toNat (some (m.registers.pc.toNat : Int))) := by
  rw [fetch, h]
  rfl

/-- The fetch of a word that can be read finds what the decoder makes of it. -/
theorem fetch_of_le {m : Machine τ} (hp : m.registers.pc.toNat ≤ 0xFFE) :
    ∃ w : Word, w.toNat = m.opcode ∧
      m.fetch = match decoded? w with
        | some d => .ok d
        | none => .error (.unknownOpcode w.toNat (some (m.registers.pc.toNat : Int))) := by
  refine ⟨_, ofBytes_toNat _ _, fetch_of_readWord ?_⟩
  exact Memory.readWord_eq_ok_iff.mpr ⟨⟨by omega, by omega⟩, rfl⟩

theorem fetch_of_lt {m : Machine τ} (hp : 0xFFE < m.registers.pc.toNat) :
    m.fetch = .error (.addressOutOfRange (m.registers.pc.toNat + 1) Fault.outsideMemory) := by
  have hr : m.memory.readWord m.registers.pc.toNat =
      .error (Memory.outsideFault m.registers.pc.toNat 2) := by
    refine Memory.readWord_eq_error_iff.mpr ⟨?_, rfl⟩
    unfold Memory.InMemory; omega
  have hmax : max (m.registers.pc.toNat : Int) (m.registers.pc.toNat + 2 - 1) =
      m.registers.pc.toNat + 1 := by omega
  rw [fetch, hr, Memory.outsideFault, hmax]
  rfl

theorem fetch_eq_ok_iff {m : Machine τ} {d : Decoded} :
    m.fetch = .ok d ↔
      m.registers.pc.toNat ≤ 0xFFE ∧ d.word.toNat = m.opcode ∧ d.instruction.Encodes m.opcode := by
  by_cases hp : m.registers.pc.toNat ≤ 0xFFE
  · obtain ⟨w, hw, hf⟩ := fetch_of_le hp
    rw [hf, ← hw, ← decode_eq_some_iff]
    cases hd : decoded? w with
    | none =>
      have hnone : decode w = none := by simpa [decoded?] using hd
      simp [hnone]
    | some d' =>
      obtain ⟨hw', hi'⟩ := decoded?_eq_some_iff.mp hd
      simp only [Except.ok.injEq, hp, true_and]
      constructor
      · rintro rfl
        exact ⟨congrArg UInt16.toNat hw', hi'⟩
      · rintro ⟨hw'', hi''⟩
        have := decoded?_eq_some_iff.mpr ⟨UInt16.toNat.inj hw'', hi''⟩
        exact Option.some.inj (hd.symm.trans this)
  · rw [fetch_of_lt (by omega)]
    simp [hp]

theorem fetch_eq_error_iff {m : Machine τ} {f : Fault} :
    m.fetch = .error f ↔
      (0xFFE < m.registers.pc.toNat ∧
        f = .addressOutOfRange (m.registers.pc.toNat + 1) Fault.outsideMemory) ∨
      (m.registers.pc.toNat ≤ 0xFFE ∧ (∀ i : Instruction, ¬ i.Encodes m.opcode) ∧
        f = .unknownOpcode m.opcode (some (m.registers.pc.toNat : Int))) := by
  by_cases hp : m.registers.pc.toNat ≤ 0xFFE
  · obtain ⟨w, hw, hf⟩ := fetch_of_le hp
    rw [hf, ← hw, ← decode_eq_none_iff]
    cases hd : decoded? w with
    | none =>
      have hnone : decode w = none := by simpa [decoded?] using hd
      simp [hnone, hp, Nat.not_lt.mpr hp, eq_comm]
    | some d =>
      have hsome : decode w = some d.instruction := (decoded?_eq_some_iff.mp hd).2
      simp [hsome, Nat.not_lt.mpr hp]
  · rw [fetch_of_lt (by omega)]
    simp [hp, Nat.not_le.mp hp, eq_comm]

/-! ## Steps and cycles -/

theorem step_of_awaiting {m : Machine τ} (h : m.status = .awaitingKey) :
    m.step = ⟨m.pollKey.counted, none, none⟩ := by
  simp only [step, h]

theorem step_of_fetch_error {m : Machine τ} {f : Fault} (h : m.status = .running)
    (hf : m.fetch = .error f) : m.step = ⟨m, none, some f⟩ := by
  simp only [step, h, hf]

theorem step_of_execute_error {m : Machine τ} {d : Decoded} {f : Fault} (h : m.status = .running)
    (hd : m.fetch = .ok d) (hf : m.execute d.instruction = .error f) :
    m.step = ⟨m, some d, some f⟩ := by
  simp only [step, h, hd, hf]

theorem step_of_execute {m n : Machine τ} {d : Decoded} (h : m.status = .running)
    (hd : m.fetch = .ok d) (hn : m.execute d.instruction = .ok n) :
    m.step = ⟨n.counted, some d, none⟩ := by
  simp only [step, h, hd, hn]

/-- **What a step can leave**: the machine as it was, counted while it waits or once its key came, or
what its instruction makes of it. -/
theorem step_cases (m : Machine τ) :
    m.step.machine = m ∨ m.status = .awaitingKey ∧ m.step.machine = m.counted ∨
      (∃ key, m.status = .awaitingKey ∧
        m.step.machine = (m.takeKey m.keyRegister key).counted) ∨
      ∃ d n, m.status = .running ∧ m.fetch = .ok d ∧ m.execute d.instruction = .ok n ∧
        m.step.machine = n.counted := by
  cases hs : m.status with
  | awaitingKey =>
    rw [step_of_awaiting hs, pollKey]
    cases m.keypad.highestPressed with
    | none => exact .inr (.inl ⟨rfl, rfl⟩)
    | some key => exact .inr (.inr (.inl ⟨key, rfl, rfl⟩))
  | running =>
    cases hd : m.fetch with
    | error f =>
      rw [step_of_fetch_error hs hd]
      exact .inl rfl
    | ok d =>
      cases he : m.execute d.instruction with
      | error f =>
        rw [step_of_execute_error hs hd he]
        exact .inl rfl
      | ok n =>
        rw [step_of_execute hs hd he]
        exact .inr (.inr (.inr ⟨d, n, rfl, rfl, he, rfl⟩))

/-- What a step that fetched an instruction comes to. -/
theorem step_of_instruction {m : Machine τ} {d : Decoded} (h : m.step.instruction = some d) :
    (∃ f, m.execute d.instruction = .error f ∧ m.step.fault = some f) ∨
      ∃ n, m.execute d.instruction = .ok n ∧ m.step = ⟨n.counted, some d, none⟩ := by
  cases hs : m.status with
  | awaitingKey =>
    rw [step_of_awaiting hs] at h
    cases h
  | running =>
    cases hd : m.fetch with
    | error f =>
      rw [step_of_fetch_error hs hd] at h
      cases h
    | ok d' =>
      cases he : m.execute d'.instruction with
      | error f =>
        rw [step_of_execute_error hs hd he] at h ⊢
        cases h
        exact .inl ⟨f, he, rfl⟩
      | ok n =>
        rw [step_of_execute hs hd he] at h ⊢
        cases h
        exact .inr ⟨n, he, rfl⟩

theorem faults_of_step {m : Machine τ} {f : Fault} (h : m.step.fault = some f) :
    m.status = .running ∧ m.Faults f := by
  cases hs : m.status with
  | awaitingKey =>
    rw [step_of_awaiting hs] at h
    cases h
  | running =>
    refine ⟨rfl, ?_⟩
    cases hf : m.fetch with
    | error g =>
      rw [step_of_fetch_error hs hf] at h
      cases h
      rcases fetch_eq_error_iff.mp hf with ⟨hp, rfl⟩ | ⟨hp, hw, rfl⟩
      · exact .outside hp
      · exact .unknown hp hw
    | ok d =>
      obtain ⟨hp, -, hw⟩ := fetch_eq_ok_iff.mp hf
      cases he : m.execute d.instruction with
      | error g =>
        rw [step_of_execute_error hs hf he] at h
        cases h
        exact .refused hp hw (refuses_of_execute he)
      | ok n =>
        rw [step_of_execute hs hf he] at h
        cases h

theorem step_of_faults {m : Machine τ} {f : Fault} (hs : m.status = .running) (h : m.Faults f) :
    m.step.fault = some f := by
  cases h with
  | outside hp => rw [step_of_fetch_error hs (fetch_of_lt hp)]
  | unknown hp hw =>
    rw [step_of_fetch_error hs (fetch_eq_error_iff.mpr (Or.inr ⟨hp, hw, rfl⟩))]
  | @refused i _ hp hw hr =>
    obtain ⟨w, hword, -⟩ := fetch_of_le hp
    have hd : m.fetch = .ok ⟨w, i⟩ := fetch_eq_ok_iff.mpr ⟨hp, hword, hw⟩
    rw [step_of_execute_error hs hd (execute_of_refuses hr)]

/-- **A step reports a fault exactly under the conditions of `Faults`.** -/
theorem step_fault_eq_some_iff {m : Machine τ} {f : Fault} :
    m.step.fault = some f ↔ m.status = .running ∧ m.Faults f :=
  ⟨faults_of_step, fun h => step_of_faults h.1 h.2⟩

theorem faults_noted {m : Machine τ} {t : Timing τ} {f : Fault} :
    (m.noted t).Faults f ↔ m.Faults f :=
  ⟨fun h => h.congr rfl rfl rfl, fun h => h.congr rfl rfl rfl⟩

variable [Seconds τ]

/-- **When a cycle reports a fault, and which.** Of every machine, reachable or not, and of every
cycle, told the time or measuring it: the fault is `f` exactly if the machine runs and one of the
conditions of `Faults` holds, which names `f`. A machine that waits for a key reports none. -/
theorem cycle_fault_iff (m : Machine τ) (t : Timing τ) (f : Fault) :
    (m.cycleBy t).1.fault = some f ↔ m.status = .running ∧ m.Faults f := by
  rw [cycleBy_fault, step_fault_eq_some_iff, faults_noted]
  exact Iff.rfl

end Machine

end Chip8
