import Chip8.Instruction.Decode

/-!
# Program listings

Model of `disassemble`: `listing` reads a block of bytes as instruction words and says what each one
means. A word without a meaning is listed as data; an odd byte at the end is left out.
-/

namespace Chip8

/-- The assembly text of a word, or the form that shows it as data. -/
def Word.text (w : Word) : String :=
  match decode w with
  | some i => i.text
  | none => "DW 0x" ++ Hex.lower 4 w.toNat

/-- One line of a listing. -/
structure ListingLine where
  address : Int
  word : Word
  text : String
  deriving DecidableEq, Repr

/-- The words of a block of bytes, in order. -/
def wordsOf : List UInt8 → List Word
  | hi :: lo :: rest => Word.ofBytes hi lo :: wordsOf rest
  | _ => []

/-- Every word of a block that stands at address `origin`, with its place and its text. -/
def listing (origin : Int) (bytes : List UInt8) : List ListingLine :=
  (wordsOf bytes).mapIdx fun k w => ⟨origin + 2 * k, w, w.text⟩

theorem length_wordsOf (bytes : List UInt8) : (wordsOf bytes).length = bytes.length / 2 := by
  fun_induction wordsOf bytes with
  | case1 hi lo rest ih => simp [ih]; omega
  | case2 bytes h =>
    match bytes, h with
    | [], _ => rfl
    | [_], _ => simp
    | hi :: lo :: rest, h => exact absurd rfl (h hi lo rest)

@[simp] theorem length_listing (origin : Int) (bytes : List UInt8) :
    (listing origin bytes).length = bytes.length / 2 := by
  simp [listing, length_wordsOf]

end Chip8
