import Chip8.Text.Shown

/-!
# Instruction words and instructions

Model of `Op`, `MNEMONICS` and `Instruction`. A program is a sequence of 16-bit words. `Word` names
the fields a word is cut into; `Instruction` is what a word can mean, each operation with exactly
the operands it looks at. Bits of the word that an operation ignores are not part of its
instruction.

`Instruction.text` is the assembly form: a name and its operands, separated by commas.
-/

namespace Chip8

/-- An instruction word, most significant byte first in memory. -/
abbrev Word := UInt16

/-- The number of a register, a key or a nibble of an instruction word. -/
abbrev Nibble := Fin 16

instance Nibble.instNeZero : @NeZero Nat Zero.ofOfNat0 16 := Nat.instNeZeroSucc

theorem Nibble.lt (x : Nibble) : x.val < 16 := x.isLt

/-- The address of a cell of memory. -/
abbrev Address := Fin 4096

namespace Word

/-- The top nibble, which selects the family of the instruction. -/
def family (w : Word) : Nibble := ⟨w.toNat / 4096, by have := w.toNat_lt; omega⟩

/-- The second nibble, usually the number of the target register. -/
def x (w : Word) : Nibble := ⟨w.toNat / 256 % 16, by omega⟩

/-- The third nibble, usually the number of the source register. -/
def y (w : Word) : Nibble := ⟨w.toNat / 16 % 16, by omega⟩

/-- The lowest nibble. -/
def n (w : Word) : Nibble := ⟨w.toNat % 16, by omega⟩

/-- The low byte. -/
def nn (w : Word) : UInt8 := UInt8.ofNat (w.toNat % 256)

/-- The lowest twelve bits. -/
def nnn (w : Word) : Address := ⟨w.toNat % 4096, by omega⟩

/-- The word with high byte `hi` and low byte `lo`. -/
def ofBytes (hi lo : UInt8) : Word := UInt16.ofNat (256 * hi.toNat + lo.toNat)

end Word

/-- Everything a word can ask the machine to do. -/
inductive Instruction where
  /-- Clear the screen. -/
  | clear
  /-- Return to the caller. -/
  | ret
  /-- Go on at `target`. -/
  | jump (target : Address)
  /-- Go on at `target`, to come back after this instruction. -/
  | call (target : Address)
  /-- Skip the next instruction if `Vx = value`. -/
  | skipEqByte (x : Nibble) (value : UInt8)
  /-- Skip the next instruction if `Vx ≠ value`. -/
  | skipNeByte (x : Nibble) (value : UInt8)
  /-- Skip the next instruction if `Vx = Vy`. -/
  | skipEq (x y : Nibble)
  /-- `Vx := value`. -/
  | loadByte (x : Nibble) (value : UInt8)
  /-- `Vx := Vx + value`, no flag. -/
  | addByte (x : Nibble) (value : UInt8)
  /-- `Vx := Vy`. -/
  | copy (x y : Nibble)
  /-- `Vx := Vx or Vy`. -/
  | or (x y : Nibble)
  /-- `Vx := Vx and Vy`. -/
  | and (x y : Nibble)
  /-- `Vx := Vx xor Vy`. -/
  | xor (x y : Nibble)
  /-- `Vx := Vx + Vy`, the flag is the carry. -/
  | add (x y : Nibble)
  /-- `Vx := Vx - Vy`, the flag says that nothing was borrowed. -/
  | sub (x y : Nibble)
  /-- `Vx := Vx / 2`, the flag is the bit shifted out. -/
  | shiftRight (x : Nibble)
  /-- `Vx := Vy - Vx`, the flag says that nothing was borrowed. -/
  | subFrom (x y : Nibble)
  /-- `Vx := 2 * Vx`, the flag is the bit shifted out. -/
  | shiftLeft (x : Nibble)
  /-- Skip the next instruction if `Vx ≠ Vy`. -/
  | skipNe (x y : Nibble)
  /-- `I := target`. -/
  | loadIndex (target : Address)
  /-- Go on at `target + V0`. -/
  | jumpOffset (target : Address)
  /-- `Vx := r and mask` for the next random byte `r`. -/
  | random (x : Nibble) (mask : UInt8)
  /-- Draw the `height` sprite rows at `I` at column `Vx`, row `Vy`; the flag is the collision. -/
  | draw (x y height : Nibble)
  /-- Skip the next instruction if the key named by `Vx` is down. -/
  | skipPressed (x : Nibble)
  /-- Skip the next instruction if the key named by `Vx` is up. -/
  | skipReleased (x : Nibble)
  /-- `Vx := delay timer`. -/
  | readDelay (x : Nibble)
  /-- `Vx :=` a key that is down, waiting for one if there is none. -/
  | awaitKey (x : Nibble)
  /-- `delay timer := Vx`. -/
  | setDelay (x : Nibble)
  /-- `sound timer := Vx`. -/
  | setSound (x : Nibble)
  /-- `I := I + Vx`, no flag. -/
  | addIndex (x : Nibble)
  /-- `I :=` the address of the glyph for `Vx`. -/
  | glyph (x : Nibble)
  /-- Write the three decimal digits of `Vx` at `I`. -/
  | decimal (x : Nibble)
  /-- Write `V0` to `Vx` at `I`. -/
  | store (x : Nibble)
  /-- Read `V0` to `Vx` at `I`. -/
  | load (x : Nibble)
  deriving DecidableEq, Repr

/-! ## Assembly text -/

/-- An operand as it stands in an assembly line. -/
inductive Operand where
  /-- A byte register. -/
  | reg (x : Nibble)
  /-- A byte constant. -/
  | byte (value : UInt8)
  /-- An address. -/
  | addr (target : Address)
  /-- A small count. -/
  | count (n : Nibble)
  /-- A part of the machine that has a name of its own. -/
  | named (name : String)
  deriving DecidableEq, Repr

/-- Registers and counts are bare; constants and addresses are in base sixteen. -/
def Operand.text : Operand → String
  | .reg x => "V" ++ Hex.upper 1 x.val
  | .byte value => "0x" ++ Hex.lower 2 value.toNat
  | .addr target => "0x" ++ Hex.lower 3 target.val
  | .count n => toString n.val
  | .named name => name

/-- An assembly line: the name of the operation and its operands. -/
structure Assembly where
  name : String
  operands : List Operand
  deriving DecidableEq, Repr

/-- The name alone, or the name, a blank and the operands with commas between them. -/
def Assembly.text (line : Assembly) : String :=
  match line.operands with
  | [] => line.name
  | operands => line.name ++ " " ++ ", ".intercalate (operands.map Operand.text)

namespace Instruction

/-- The assembly line of an instruction. -/
def assembly : Instruction → Assembly
  | clear => ⟨"CLS", []⟩
  | ret => ⟨"RET", []⟩
  | jump target => ⟨"JP", [.addr target]⟩
  | call target => ⟨"CALL", [.addr target]⟩
  | skipEqByte x value => ⟨"SE", [.reg x, .byte value]⟩
  | skipNeByte x value => ⟨"SNE", [.reg x, .byte value]⟩
  | skipEq x y => ⟨"SE", [.reg x, .reg y]⟩
  | loadByte x value => ⟨"LD", [.reg x, .byte value]⟩
  | addByte x value => ⟨"ADD", [.reg x, .byte value]⟩
  | copy x y => ⟨"LD", [.reg x, .reg y]⟩
  | or x y => ⟨"OR", [.reg x, .reg y]⟩
  | and x y => ⟨"AND", [.reg x, .reg y]⟩
  | xor x y => ⟨"XOR", [.reg x, .reg y]⟩
  | add x y => ⟨"ADD", [.reg x, .reg y]⟩
  | sub x y => ⟨"SUB", [.reg x, .reg y]⟩
  | shiftRight x => ⟨"SHR", [.reg x]⟩
  | subFrom x y => ⟨"SUBN", [.reg x, .reg y]⟩
  | shiftLeft x => ⟨"SHL", [.reg x]⟩
  | skipNe x y => ⟨"SNE", [.reg x, .reg y]⟩
  | loadIndex target => ⟨"LD", [.named "I", .addr target]⟩
  | jumpOffset target => ⟨"JP", [.reg 0, .addr target]⟩
  | random x mask => ⟨"RND", [.reg x, .byte mask]⟩
  | draw x y height => ⟨"DRW", [.reg x, .reg y, .count height]⟩
  | skipPressed x => ⟨"SKP", [.reg x]⟩
  | skipReleased x => ⟨"SKNP", [.reg x]⟩
  | readDelay x => ⟨"LD", [.reg x, .named "DT"]⟩
  | awaitKey x => ⟨"LD", [.reg x, .named "K"]⟩
  | setDelay x => ⟨"LD", [.named "DT", .reg x]⟩
  | setSound x => ⟨"LD", [.named "ST", .reg x]⟩
  | addIndex x => ⟨"ADD", [.named "I", .reg x]⟩
  | glyph x => ⟨"LD", [.named "F", .reg x]⟩
  | decimal x => ⟨"LD", [.named "B", .reg x]⟩
  | store x => ⟨"LD", [.named "[I]", .reg x]⟩
  | load x => ⟨"LD", [.reg x, .named "[I]"]⟩

/-- The instruction in words. -/
def text (i : Instruction) : String :=
  i.assembly.text

end Instruction

end Chip8
