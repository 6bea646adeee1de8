import Chip8.Machine.Basic

/-!
# Carrying out an instruction

Model of `execute` and `_resolve_key` of `Chip8CPU` and of its handlers, one for each operation
(`_op_cls` to `_op_ld_vx_k`): `execute` is what each instruction does to the machine. An instruction
reads all its operands before it writes anything, and one that cannot be carried out is refused with
a `Fault` and no machine, so whoever holds the machine from before still has it as it was.

Arithmetic that reports through the flag writes the flag first and its result second; when the
result goes to the flag register itself, the result is what remains.
-/

namespace Chip8

/-- What a flagged operation leaves: the result and the flag. -/
structure Flagged where
  value : UInt8
  flag : UInt8
  deriving DecidableEq, Repr

namespace Arithmetic

/-- The flag that says whether `p` holds. -/
def flagOf (p : Bool) : UInt8 :=
  if p then 1 else 0

/-- The sum, and the carry. -/
def sum (a b : UInt8) : Flagged :=
  ⟨a + b, flagOf (255 < a.toNat + b.toNat)⟩

/-- The difference, and whether it needed no borrow. -/
def difference (a b : UInt8) : Flagged :=
  ⟨a - b, flagOf (b ≤ a)⟩

/-- Half of a byte, and the bit that is lost. -/
def half (a : UInt8) : Flagged :=
  ⟨a >>> 1, a &&& 1⟩

/-- Twice a byte, and the bit that is lost. -/
def double (a : UInt8) : Flagged :=
  ⟨a <<< 1, a >>> 7⟩

/-- The hundreds, tens and units of a byte. -/
def decimalDigits (a : UInt8) : List UInt8 :=
  [a / 100, a / 10 % 10, a % 10]

end Arithmetic

namespace Machine

variable {τ : Type}

/-- The program counter past the current instruction, and past the next one too if `skip`. -/
def advance (m : Machine τ) (skip : Bool) : Machine τ :=
  m.withRegisters (·.advance skip)

/-- `Vx := value`, and on to the next instruction. -/
def assign (m : Machine τ) (x : Nibble) (value : UInt8) : Machine τ :=
  (m.withRegisters (·.set x value)).advance false

/-- The flag first, then `Vx`, and on to the next instruction. -/
def assignFlagged (m : Machine τ) (x : Nibble) (result : Flagged) : Machine τ :=
  (m.withRegisters (·.setFlag result.flag)).assign x result.value

/-- `I := value`, and on to the next instruction. -/
def assignIndex (m : Machine τ) (value : UInt16) : Machine τ :=
  (m.withRegisters (·.setIndex value)).advance false

/-- The key `key` arrives for register `x`: the wait, if there was one, is over. -/
def takeKey (m : Machine τ) (x key : Nibble) : Machine τ :=
  { m.assign x (UInt8.ofNat key.val) with status := .running }

/-- Takes the greatest key that is down, or waits for one. -/
def awaitKey (m : Machine τ) (x : Nibble) : Machine τ :=
  match m.keypad.highestPressed with
  | some key => m.takeKey x key
  | none => { m with status := .awaitingKey, keyRegister := x }

/-- Ends the wait for a key if one is down. -/
def pollKey (m : Machine τ) : Machine τ :=
  match m.keypad.highestPressed with
  | some key => m.takeKey m.keyRegister key
  | none => m

/-- The machine after the instruction, or why it is refused. -/
def execute (m : Machine τ) (i : Instruction) : Except Fault (Machine τ) :=
  let v := m.registers.get
  match i with
  | .clear => .ok ({ m with screen := m.screen.clear }.advance false)
  | .ret => do
    let (address, stack) ← m.stack.pop
    return { m with stack }.withRegisters (·.jump (UInt16.ofInt address))
  | .jump target => .ok (m.withRegisters (·.jump (UInt16.ofNat target.val)))
  | .call target => do
    let stack ← m.stack.push (m.registers.pc.toNat + 2)
    return { m with stack }.withRegisters (·.jump (UInt16.ofNat target.val))
  | .skipEqByte x value => .ok (m.advance (v x = value))
  | .skipNeByte x value => .ok (m.advance (v x ≠ value))
  | .skipEq x y => .ok (m.advance (v x = v y))
  | .loadByte x value => .ok (m.assign x value)
  | .addByte x value => .ok (m.assign x (v x + value))
  | .copy x y => .ok (m.assign x (v y))
  | .or x y => .ok (m.assign x (v x ||| v y))
  | .and x y => .ok (m.assign x (v x &&& v y))
  | .xor x y => .ok (m.assign x (v x ^^^ v y))
  | .add x y => .ok (m.assignFlagged x (Arithmetic.sum (v x) (v y)))
  | .sub x y => .ok (m.assignFlagged x (Arithmetic.difference (v x) (v y)))
  | .shiftRight x => .ok (m.assignFlagged x (Arithmetic.half (v x)))
  | .subFrom x y => .ok (m.assignFlagged x (Arithmetic.difference (v y) (v x)))
  | .shiftLeft x => .ok (m.assignFlagged x (Arithmetic.double (v x)))
  | .skipNe x y => .ok (m.advance (v x ≠ v y))
  | .loadIndex target => .ok (m.assignIndex (UInt16.ofNat target.val))
  | .jumpOffset target =>
    .ok (m.withRegisters (·.jump (UInt16.ofNat (target.val + (v 0).toNat))))
  | .random x mask =>
    let drawn := m.random.draw
    .ok ({ m with random := drawn.2 }.assign x (drawn.1 &&& mask))
  | .draw x y height => do
    let sprite ← m.memory.readBlock m.registers.index.toNat height.val
    let drawn := m.screen.draw (v x).toNat (v y).toNat sprite
    let flag := Arithmetic.flagOf drawn.1
    return ({ m with screen := drawn.2 }.withRegisters (·.setFlag flag)).advance false
  | .skipPressed x => .ok (m.advance (m.keypad.isPressed (v x).toNat))
  | .skipReleased x => .ok (m.advance (!m.keypad.isPressed (v x).toNat))
  | .readDelay x => .ok (m.assign x (UInt8.ofInt m.timers.delay))
  | .awaitKey x => .ok (m.awaitKey x)
  | .setDelay x =>
    .ok ({ m with timers := { m.timers with delay := (v x).toNat } }.advance false)
  | .setSound x =>
    .ok ({ m with timers := { m.timers with sound := (v x).toNat } }.advance false)
  | .addIndex x => .ok (m.assignIndex (m.registers.index + (v x).toUInt16))
  | .glyph x => .ok (m.assignIndex (UInt16.ofNat ((v x).toNat * glyphHeight)))
  | .decimal x => do
    let memory ← m.memory.writeBlock m.registers.index.toNat (Arithmetic.decimalDigits (v x))
    return { m with memory }.advance false
  | .store x => do
    let memory ← m.memory.writeBlock m.registers.index.toNat (m.registers.upTo x)
    return { m with memory }.advance false
  | .load x => do
    let bytes ← m.memory.readBlock m.registers.index.toNat (x.val + 1)
    return (m.withRegisters (·.setFrom 0 bytes)).advance false

/-- The machine after the instruction that `w` stands for, wherever it came from. -/
def executeWord (m : Machine τ) (w : Word) : Except Fault (Machine τ) :=
  match decode w with
  | some i => m.execute i
  | none => .error (.unknownOpcode w.toNat none)

/-! ## What is told of it -/

/-- What is told of a wait for a key into register `x`. -/
def keyNotices (m : Machine τ) (x : Nibble) : List Notice :=
  match m.keypad.highestPressed with
  | some key => if m.status = .awaitingKey then [.keyArrived key.val] else []
  | none => [.awaitingKey x.val]

/-- What is told of an instruction that goes through. -/
def executeNotices (m : Machine τ) (i : Instruction) : List Notice :=
  match i with
  | .awaitKey x => m.keyNotices x
  | _ => []

end Machine

end Chip8
