import Chip8.Text.Shown

/-!
# Faults

Model of `Chip8Error` and its kinds. What can go wrong: `Fault` for a machine that meets an
instruction it cannot carry out, `LoadError` for a program image that cannot be read. Both are
values; `message` words them.
-/

namespace Chip8

/-- Why the machine refuses an instruction. -/
inductive Fault where
  /-- A call with all `depth` stack slots in use. -/
  | stackOverflow (address depth : Int)
  /-- A return with no call outstanding. -/
  | stackUnderflow
  /-- A word that names no operation, with the place it was fetched from if it was fetched. -/
  | unknownOpcode (word : Int) (pc : Option Int)
  /-- An access at an address that may not be accessed so. -/
  | addressOutOfRange (address : Int) (reason : String)
  deriving DecidableEq, Repr

namespace Fault

/-- The reason given for an address that no cell of memory has. -/
def outsideMemory : String := "outside 0x000-0xFFF"

/-- The reason given for a write to the built-in glyphs. -/
def insideGlyphs : String := "is inside the glyph table"

/-- The fault in words. -/
def message : Fault → String
  | .stackOverflow address depth =>
    "stack overflow pushing 0x" ++ Hex.upper 3 address ++ " (depth " ++ toString depth ++ ")"
  | .stackUnderflow => "stack underflow: return with empty stack"
  | .unknownOpcode word pc =>
    let place := match pc with
      | some pc => " at 0x" ++ Hex.upper 3 pc
      | none => ""
    "unknown opcode 0x" ++ Hex.upper 4 word ++ place
  | .addressOutOfRange address reason => "address 0x" ++ Hex.upper 1 address ++ " " ++ reason

end Fault

/-- Why a program image could not be loaded. -/
inductive LoadError where
  /-- The file cannot be opened or read, for the system's reason. -/
  | unreadable (path reason : String)
  /-- No file can have this path: it holds the character NUL. -/
  | nulInPath
  deriving DecidableEq, Repr

/-- The error in words. -/
def LoadError.message : LoadError → String
  | .unreadable path reason => "failed to load ROM " ++ Text.quoted path ++ ": " ++ reason
  | .nulInPath => "embedded null byte"

end Chip8
