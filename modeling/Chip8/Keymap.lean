import Chip8.Instruction.Basic

/-!
# The keyboard

Model of `translate_key`: which key of the keypad a key of the host's keyboard stands for. The pad
is four by four; the cosmac layout lays it over the left block of the keyboard, the hexadecimal one
takes every key by the digit it names. The case of a letter does not matter.

Both layouts are made of ASCII characters, and the only letters beyond ASCII whose lower case is a
single ASCII letter fall on `k` and are in neither, so lowering ASCII letters is enough.

Besides these keys a host listens to a few that steer it; `Binding` lists all that `_bind_keys`
makes it listen to.
-/

namespace Chip8

/-! ## Layouts -/

/-- The left block of the keyboard, laid over the pad row by row. -/
def cosmacKeys : List (Char × Nibble) :=
  [('1', 0x1), ('2', 0x2), ('3', 0x3), ('4', 0xC),
   ('q', 0x4), ('w', 0x5), ('e', 0x6), ('r', 0xD),
   ('a', 0x7), ('s', 0x8), ('d', 0x9), ('f', 0xE),
   ('z', 0xA), ('x', 0x0), ('c', 0xB), ('v', 0xF)]

/-- Every key by its digit in base sixteen. -/
def hexKeys : List (Char × Nibble) :=
  [('0', 0x0), ('1', 0x1), ('2', 0x2), ('3', 0x3),
   ('4', 0x4), ('5', 0x5), ('6', 0x6), ('7', 0x7),
   ('8', 0x8), ('9', 0x9), ('a', 0xA), ('b', 0xB),
   ('c', 0xC), ('d', 0xD), ('e', 0xE), ('f', 0xF)]

/-- The key of the pad that the host key `name` stands for; every layout but `hex` is the cosmac
one. -/
def translateKey (name layout : String) : Option Nibble :=
  let keys := if layout = "hex" then hexKeys else cosmacKeys
  match name.toList with
  | [c] => keys.lookup c.toLower
  | _ => none

/-! ## Bindings -/

/-- What the window listens to on the keyboard. -/
inductive Binding where
  | keyPress
  | keyRelease
  | reload
  | openDialog
  | pause
  | slower
  | faster
  | scanlines
  | dump
  deriving DecidableEq, Repr

namespace Binding

/-- All bindings. -/
def all : List Binding :=
  [keyPress, keyRelease, reload, openDialog, pause, slower, faster, scanlines, dump]

/-- The toolkit's name for what is listened to. -/
def sequence : Binding → String
  | keyPress => "<KeyPress>"
  | keyRelease => "<KeyRelease>"
  | reload => "<Control-r>"
  | openDialog => "<Control-o>"
  | pause => "<space>"
  | slower => "<F1>"
  | faster => "<F2>"
  | scanlines => "<F3>"
  | dump => "<F4>"

/-- The binding with this name. -/
def ofSequence? (name : String) : Option Binding :=
  all.find? fun b => b.sequence = name

end Binding

end Chip8
