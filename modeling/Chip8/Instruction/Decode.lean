import Chip8.Instruction.Basic

/-!
# Decoding

Model of `decode`, which reads the meaning of a word. The top nibble selects a family; families `0`,
`8`, `E` and `F` hold several operations, told apart by the whole word, the lowest nibble or the low
byte. In the families `5` and `9` the lowest nibble is ignored.
-/

namespace Chip8

/-- Family `0`: the whole word selects. -/
def decodeSystem (w : Word) : Option Instruction :=
  match w.toNat with
  | 0x00E0 => some .clear
  | 0x00EE => some .ret
  | _ => none

/-- Family `8`: the lowest nibble selects a register operation. -/
def decodeArithmetic (w : Word) : Option Instruction :=
  match w.n.val with
  | 0x0 => some (.copy w.x w.y)
  | 0x1 => some (.or w.x w.y)
  | 0x2 => some (.and w.x w.y)
  | 0x3 => some (.xor w.x w.y)
  | 0x4 => some (.add w.x w.y)
  | 0x5 => some (.sub w.x w.y)
  | 0x6 => some (.shiftRight w.x)
  | 0x7 => some (.subFrom w.x w.y)
  | 0xE => some (.shiftLeft w.x)
  | _ => none

/-- Family `E`: the low byte selects a question to the keypad. -/
def decodeKey (w : Word) : Option Instruction :=
  match w.nn.toNat with
  | 0x9E => some (.skipPressed w.x)
  | 0xA1 => some (.skipReleased w.x)
  | _ => none

/-- Family `F`: the low byte selects among timers, keys, the index and memory. -/
def decodeMisc (w : Word) : Option Instruction :=
  match w.nn.toNat with
  | 0x07 => some (.readDelay w.x)
  | 0x0A => some (.awaitKey w.x)
  | 0x15 => some (.setDelay w.x)
  | 0x18 => some (.setSound w.x)
  | 0x1E => some (.addIndex w.x)
  | 0x29 => some (.glyph w.x)
  | 0x33 => some (.decimal w.x)
  | 0x55 => some (.store w.x)
  | 0x65 => some (.load w.x)
  | _ => none

/-- The meaning of a word, if it has one. -/
def decode (w : Word) : Option Instruction :=
  match w.family.val with
  | 0x0 => decodeSystem w
  | 0x1 => some (.jump w.nnn)
  | 0x2 => some (.call w.nnn)
  | 0x3 => some (.skipEqByte w.x w.nn)
  | 0x4 => some (.skipNeByte w.x w.nn)
  | 0x5 => some (.skipEq w.x w.y)
  | 0x6 => some (.loadByte w.x w.nn)
  | 0x7 => some (.addByte w.x w.nn)
  | 0x8 => decodeArithmetic w
  | 0x9 => some (.skipNe w.x w.y)
  | 0xA => some (.loadIndex w.nnn)
  | 0xB => some (.jumpOffset w.nnn)
  | 0xC => some (.random w.x w.nn)
  | 0xD => some (.draw w.x w.y w.n)
  | 0xE => decodeKey w
  | 0xF => decodeMisc w
  | _ => none

/-- A word that has a meaning, kept together with it. -/
structure Decoded where
  word : Word
  instruction : Instruction
  deriving DecidableEq, Repr

/-- The instruction in words. -/
def Decoded.text (d : Decoded) : String :=
  d.instruction.text

/-- The word with its meaning, if it has one. -/
def decoded? (w : Word) : Option Decoded :=
  (decode w).map fun i => ⟨w, i⟩

theorem decoded?_eq_some_iff {w : Word} {d : Decoded} :
    decoded? w = some d ↔ d.word = w ∧ decode w = some d.instruction := by
  cases d with
  | mk word instruction =>
    simp only [decoded?, Option.map_eq_some_iff, Decoded.mk.injEq]
    constructor
    · rintro ⟨i, h, rfl, rfl⟩; exact ⟨rfl, h⟩
    · rintro ⟨rfl, h⟩; exact ⟨_, h, rfl, rfl⟩

end Chip8
