import Chip8.Instruction.Basic
import Chip8.Notice

/-!
# Memory

Model of `Memory` (`check_range`, `check_writable`, `read`, `read_block`, `read_word`, `write`,
`write_block`, `load_image`): 4096 bytes. The first eighty hold the glyphs of the sixteen
hexadecimal digits and cannot be written by programs; programs stand from `0x200` on.

Addresses and lengths come from outside as integers of any size, so every access is checked. A block
read keeps one liberty of its checked range: a block whose end lies before the start of memory has
that end counted back from the end of memory (`blockEnd`).

* `byte_patch`: writing a run of bytes changes those cells and no other.
-/

namespace Chip8

/-- The number of cells. -/
def memorySize : Nat := 4096

/-- Where a program image is placed. -/
def programStart : Nat := 0x200

/-- The longest program image that fits. -/
def maxImageSize : Nat := memorySize - programStart

/-- The first address past the glyphs. -/
def glyphEnd : Nat := 80

/-- The number of bytes, and of screen rows, of a glyph. -/
def glyphHeight : Nat := 5

/-- The glyphs of the digits `0` to `F`, four columns wide, one byte a row. -/
def glyphBytes : List UInt8 := [
  0xF0, 0x90, 0x90, 0x90, 0xF0, 0x20, 0x60, 0x20, 0x20, 0x70,
  0xF0, 0x10, 0xF0, 0x80, 0xF0, 0xF0, 0x10, 0xF0, 0x10, 0xF0,
  0x90, 0x90, 0xF0, 0x10, 0x10, 0xF0, 0x80, 0xF0, 0x10, 0xF0,
  0xF0, 0x80, 0xF0, 0x90, 0xF0, 0xF0, 0x10, 0x20, 0x40, 0x40,
  0xF0, 0x90, 0xF0, 0x90, 0xF0, 0xF0, 0x90, 0xF0, 0x10, 0xF0,
  0xF0, 0x90, 0xF0, 0x90, 0x90, 0xE0, 0x90, 0xE0, 0x90, 0xE0,
  0xF0, 0x80, 0x80, 0x80, 0xF0, 0xE0, 0x90, 0x90, 0x90, 0xE0,
  0xF0, 0x80, 0xF0, 0x80, 0xF0, 0xF0, 0x80, 0xF0, 0x80, 0x80]

/-- The cells of memory. -/
structure Memory where
  cells : Vector UInt8 4096
  deriving DecidableEq

namespace Memory

/-- The byte in cell `n`; cells that do not exist read as zero. -/
def byte (m : Memory) (n : Nat) : UInt8 :=
  m.cells[n]?.getD 0

/-- The memory with `bytes` in the cells from `start` on. -/
def patch (m : Memory) (start : Nat) : List UInt8 → Memory
  | [] => m
  | b :: bs => patch ⟨m.cells.setIfInBounds start b⟩ (start + 1) bs

/-- Zero everywhere but for the glyphs. -/
def initial : Memory :=
  patch ⟨Vector.replicate 4096 0⟩ 0 glyphBytes

/-! ## Bounds -/

/-- Refuses a block that does not lie within memory. -/
def checkRange (address length : Int) : Except Fault Unit :=
  if address < 0 ∨ memorySize < address + length then
    .error (.addressOutOfRange (max address (address + length - 1)) Fault.outsideMemory)
  else .ok ()

/-- Refuses a block that does not lie within memory, or that touches the glyphs. -/
def checkWritable (address length : Int) : Except Fault Unit := do
  checkRange address length
  if 0 < length ∧ address < glyphEnd then
    .error (.addressOutOfRange address Fault.insideGlyphs)

/-! ## Access -/

/-- Where a block of `length` bytes at `address` ends; an end before the start of memory is counted
back from the end of memory. -/
def blockEnd (address length : Int) : Nat :=
  let stop := address + length
  if stop < 0 then (stop + memorySize).toNat else stop.toNat

/-- The bytes of the cells from `start` up to, and without, `stop`. -/
def slice (m : Memory) (start stop : Nat) : List UInt8 :=
  (List.range (stop - start)).map fun i => m.byte (start + i)

/-- One byte. -/
def read (m : Memory) (address : Int) : Except Fault UInt8 := do
  checkRange address 1
  return m.byte address.toNat

/-- The bytes of a block. -/
def readBlock (m : Memory) (address length : Int) : Except Fault (List UInt8) := do
  checkRange address length
  return m.slice address.toNat (blockEnd address length)

/-- The word whose high byte is at `address`. -/
def readWord (m : Memory) (address : Int) : Except Fault Word := do
  checkRange address 2
  return Word.ofBytes (m.byte address.toNat) (m.byte (address.toNat + 1))

/-- Writes the lowest eight bits of `value`. -/
def write (m : Memory) (address value : Int) : Except Fault Memory := do
  checkWritable address 1
  return m.patch address.toNat [UInt8.ofInt value]

/-- Writes a block of bytes. -/
def writeBlock (m : Memory) (address : Int) (bytes : List UInt8) : Except Fault Memory := do
  checkWritable address bytes.length
  return m.patch address.toNat bytes

/-- How much of a program image is loaded. -/
def imageSize (image : List UInt8) : Nat :=
  min image.length maxImageSize

/-- What is told of copying a program image. -/
def imageNotices (image : List UInt8) : List Notice :=
  if maxImageSize < image.length then [.truncated image.length maxImageSize] else []

/-- Copies a program image to where programs stand, as much of it as fits. -/
def loadImage (m : Memory) (image : List UInt8) : Memory :=
  m.patch programStart (image.take maxImageSize)

/-! ## Cells after a write -/

theorem byte_patch (m : Memory) (start : Nat) (bytes : List UInt8) (n : Nat)
    (h : start + bytes.length ≤ memorySize) :
    (m.patch start bytes).byte n =
      if start ≤ n ∧ n < start + bytes.length then bytes[n - start]?.getD 0 else m.byte n := by
  induction bytes generalizing m start with
  | nil =>
    rw [if_neg (by simp only [List.length_nil]; omega), patch]
  | cons b bs ih =>
    simp only [List.length_cons] at h
    rw [patch, ih _ _ (by omega)]
    simp only [memorySize] at h
    by_cases hn : n = start
    · subst hn
      have hlt : n < 4096 := by omega
      rw [if_neg (by omega), if_pos (by simp only [List.length_cons]; omega)]
      simp [byte, hlt]
    · by_cases hin : start + 1 ≤ n ∧ n < start + 1 + bs.length
      · have hsub : n - start = (n - (start + 1)) + 1 := by omega
        rw [if_pos hin, if_pos (by simp only [List.length_cons]; omega), hsub]
        simp
      · rw [if_neg hin, if_neg (by simp only [List.length_cons]; omega)]
        have hne : start ≠ n := fun e => hn e.symm
        simp [byte, hne]

end Memory

end Chip8
