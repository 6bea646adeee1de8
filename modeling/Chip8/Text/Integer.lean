/-!
# Integers as a user writes them

Model of how `main` reads the value of a numeric switch: a whole number with blanks around it, at
most one sign, and decimal digits of any script, mixed at will. Zeros may lead, and between two
digits there may be one underscore. A number of more than 4300 digits is refused, whatever they are.

The digits are those of every script that Unicode 14 counts in tens. Each script has its ten digits
in a row, so a table of the zeros tells the value of every digit.

* `digitValue?_lt`: a digit is worth less than ten.
* `decimalZeros_apart`: no two scripts share a digit.
* `digits?_eq_mapM`: digits without an underscore are read one by one.
-/

namespace Chip8.Text

/-! ## Digits -/

/-- The code points of all digits zero, in increasing order. -/
def decimalZeros : List Nat := [
  0x30, 0x660, 0x6f0, 0x7c0, 0x966, 0x9e6, 0xa66, 0xae6, 0xb66, 0xbe6, 0xc66, 0xce6, 0xd66,
  0xde6, 0xe50, 0xed0, 0xf20, 0x1040, 0x1090, 0x17e0, 0x1810, 0x1946, 0x19d0, 0x1a80, 0x1a90,
  0x1b50, 0x1bb0, 0x1c40, 0x1c50, 0xa620, 0xa8d0, 0xa900, 0xa9d0, 0xa9f0, 0xaa50, 0xabf0, 0xff10,
  0x104a0, 0x10d30, 0x11066, 0x110f0, 0x11136, 0x111d0, 0x112f0, 0x11450, 0x114d0, 0x11650,
  0x116c0, 0x11730, 0x118e0, 0x11950, 0x11c50, 0x11d50, 0x11da0, 0x16a60, 0x16ac0, 0x16b50,
  0x1d7ce, 0x1d7d8, 0x1d7e2, 0x1d7ec, 0x1d7f6, 0x1e140, 0x1e2f0, 0x1e950, 0x1fbf0]

/-- What the digit `c` is worth, if it is one. -/
def digitValue? (c : Char) : Option Nat :=
  (decimalZeros.find? fun z => z ≤ c.toNat && c.toNat < z + 10).map (c.toNat - ·)

/-- Is `c` a decimal digit of some script? -/
def isDecimalDigit (c : Char) : Bool :=
  (digitValue? c).isSome

theorem digitValue?_lt {c : Char} {n : Nat} (h : digitValue? c = some n) : n < 10 := by
  obtain ⟨z, hz, rfl⟩ := Option.map_eq_some_iff.mp h
  have := List.find?_some hz
  simp only [Bool.and_eq_true, decide_eq_true_eq] at this
  omega

theorem decimalZeros_apart : decimalZeros.Pairwise fun a b => a + 10 ≤ b := by
  decide

/-! ## Numbers -/

/-- The most digits a number may have. -/
def maxDigits : Nat := 4300

/-- A character that may stand before and after a number. -/
def isBlank (c : Char) : Bool :=
  let n := c.toNat
  (0x09 ≤ n && n ≤ 0x0d) || n = 0x20 || n = 0x85 || n = 0xa0 || n = 0x1680 ||
    (0x2000 ≤ n && n ≤ 0x200a) || n = 0x2028 || n = 0x2029 || n = 0x202f || n = 0x205f || n = 0x3000

/-- The characters between the blanks at the ends. -/
def trimBlanks (cs : List Char) : List Char :=
  (((cs.dropWhile isBlank).reverse).dropWhile isBlank).reverse

/-- The values of a row of digits in which single underscores may stand between two. -/
def digits? : List Char → Option (List Nat)
  | [] => none
  | [c] => (digitValue? c).map ([·])
  | c :: '_' :: rest => do
    let d ← digitValue? c
    let ds ← digits? rest
    return d :: ds
  | c :: rest => do
    let d ← digitValue? c
    let ds ← digits? rest
    return d :: ds

theorem digits?_eq_mapM {cs : List Char} (h : cs ≠ []) (hu : '_' ∉ cs) :
    digits? cs = cs.mapM digitValue? := by
  fun_induction digits? cs with
  | case1 => exact absurd rfl h
  | case2 c => cases hc : digitValue? c <;> simp [hc]
  | case3 c rest ih => simp at hu
  | case4 c rest hne hne' ih =>
    have hr : rest ≠ [] := fun e => hne e
    rw [List.mem_cons, not_or] at hu
    simp [ih hr hu.2]

/-- The number with these digits. -/
def ofDigits (ds : List Nat) : Nat :=
  ds.foldl (fun n d => 10 * n + d) 0

/-- The number without a sign that `cs` writes. -/
def natural? (cs : List Char) : Option Nat := do
  let ds ← digits? cs
  guard (ds.length ≤ maxDigits)
  return ofDigits ds

/-- The number that `s` writes. -/
def integer? (s : String) : Option Int :=
  match trimBlanks s.toList with
  | '-' :: cs => (natural? cs).map fun n => -(n : Int)
  | '+' :: cs => (natural? cs).map Int.ofNat
  | cs => (natural? cs).map Int.ofNat

end Chip8.Text
