import Chip8.Text.Printable

/-!
# Numbers and texts in messages

How numbers are written in base sixteen: lower case in listings, upper case in fault messages. Both
pad with zeros on the left to a total width, and in the signed form the minus sign counts towards
that width.

And how a text is shown inside a message: between quotes, on one line, with every character that
would not show replaced by an escape. Single quotes are used, unless the text itself holds a single
quote and no double one. The backslash and the quote in use are escaped, and so are line feed,
carriage return and tab; other hidden characters are written by code point in two, four or eight
digits.

* `Hex.digits_length_pos`: a number is never written as the empty text.
* `Hex.le_length_lower`: the padded text is at least as wide as asked.
* `Text.quoteMark_ne_of_mem`: a text that holds single quotes only is put between double quotes.
-/

/-! ## Base sixteen -/

namespace Chip8.Hex

/-- The digits of `n` in base sixteen, lower case, most significant first; zero is one digit. -/
def digits (n : Nat) : List Char :=
  Nat.toDigits 16 n

/-- The characters `cs` with zeros before them up to `width` characters. -/
def padLeft (width : Nat) (cs : List Char) : List Char :=
  List.replicate (width - cs.length) '0' ++ cs

/-- `n` in lower case, at least `width` characters wide. -/
def lower (width n : Nat) : String :=
  String.ofList (padLeft width (digits n))

/-- `z` in upper case, at least `width` characters wide, the minus sign included. -/
def upper (width : Nat) (z : Int) : String :=
  let cs := (digits z.natAbs).map Char.toUpper
  if z < 0 then String.ofList ('-' :: padLeft (width - 1) cs)
  else String.ofList (padLeft width cs)

theorem digits_length_pos (n : Nat) : 0 < (digits n).length := by
  simpa [digits] using Nat.length_toDigits_pos

@[simp] theorem length_padLeft (width : Nat) (cs : List Char) :
    (padLeft width cs).length = max width cs.length := by
  simp [padLeft]; omega

theorem le_length_lower (width n : Nat) : width ≤ (lower width n).length := by
  rw [lower, String.length_ofList, length_padLeft]
  exact Nat.le_max_left _ _

end Chip8.Hex

/-! ## Quoted texts -/

namespace Chip8.Text

/-- The quote put around `cs`. -/
def quoteMark (cs : List Char) : Char :=
  if cs.contains '\'' && !cs.contains '"' then '"' else '\''

/-- The escape that names the code point of `c`. -/
def codePointEscape (c : Char) : List Char :=
  let n := c.toNat
  if n < 0x100 then '\\' :: 'x' :: Hex.padLeft 2 (Hex.digits n)
  else if n < 0x10000 then '\\' :: 'u' :: Hex.padLeft 4 (Hex.digits n)
  else '\\' :: 'U' :: Hex.padLeft 8 (Hex.digits n)

/-- One character of the text as it stands between the quotes `mark`. -/
def escapeChar (mark c : Char) : List Char :=
  if c = mark || c = '\\' then ['\\', c]
  else if c = '\n' then ['\\', 'n']
  else if c = '\r' then ['\\', 'r']
  else if c = '\t' then ['\\', 't']
  else if isPrintable c then [c]
  else codePointEscape c

/-- The text between quotes, with its hidden characters escaped. -/
def quoted (s : String) : String :=
  let cs := s.toList
  let mark := quoteMark cs
  String.ofList (mark :: cs.flatMap (escapeChar mark) ++ [mark])

theorem quoteMark_ne_of_mem {cs : List Char} (h : '\'' ∈ cs) (h' : '"' ∉ cs) :
    quoteMark cs = '"' := by
  simp [quoteMark, h, h']

end Chip8.Text
