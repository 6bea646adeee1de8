import Chip8.CommandLine.Switch
import Chip8.Text.Shown

/-!
# Usage

Model of the texts of the parser that `main` builds: what the program says of its command line, how
it is called, what its switches mean, and what is wrong with a command line that cannot be followed.
Texts are kept to eighty columns.
-/

namespace Chip8.CommandLine

/-- The name under which the program speaks of itself. -/
def programName : String := "chip8vm"

/-- The keyboard layouts to choose from. -/
def layouts : List String := ["cosmac", "hex"]

/-- Why a command line cannot be followed. -/
inductive UsageError where
  /-- A long name was cut so short that it could mean any of `names`. -/
  | ambiguous (word : String) (names : List String)
  /-- No value follows a parameter. -/
  | missingValue (p : Parameter)
  /-- A flag was given a value. -/
  | ignoredValue (f : Flag) (value : String)
  /-- The value of a parameter is no whole number. -/
  | notInteger (p : Parameter) (value : String)
  /-- The value of a parameter is none of its choices. -/
  | notChoice (p : Parameter) (value : String) (choices : List String)
  /-- Words were left over. -/
  | unrecognized (words : List String)
  deriving DecidableEq, Repr

/-- A complaint about one switch. -/
def complaint (s : Switch) (what : String) : String :=
  "argument " ++ s.label ++ ": " ++ what

/-- The error in words. -/
def UsageError.message : UsageError → String
  | .ambiguous word names =>
    "ambiguous option: " ++ word ++ " could match " ++ ", ".intercalate names
  | .missingValue p => complaint (.parameter p) "expected one argument"
  | .ignoredValue f value =>
    complaint (.flag f) ("ignored explicit argument " ++ Text.quoted value)
  | .notInteger p value => complaint (.parameter p) ("invalid int value: " ++ Text.quoted value)
  | .notChoice p value choices =>
    complaint (.parameter p) ("invalid choice: " ++ Text.quoted value ++ " (choose from "
      ++ ", ".intercalate (choices.map Text.quoted) ++ ")")
  | .unrecognized words => "unrecognized arguments: " ++ " ".intercalate words

/-- Each line with its end. -/
def unlines (lines : List String) : String :=
  String.join (lines.map (· ++ "\n"))

/-- How the program is called. -/
def usageLines : List String :=
  ["usage: " ++ programName ++ " [-h] [--speed HZ] [--scale SCALE] [--layout \x7bcosmac,hex\x7d]",
    "               [--scanlines] [-v]",
    "               [rom]"]

/-- What the help says after the usage. -/
def helpLines : List String :=
  ["",
    "CHIP-8 interpreter",
    "",
    "positional arguments:",
    "  rom                   ROM image to run",
    "",
    "options:",
    "  -h, --help            show this help message and exit",
    "  --speed HZ            instructions per second (default: 500)",
    "  --scale SCALE         window pixels per CHIP-8 pixel",
    "  --layout \x7bcosmac,hex\x7d",
    "                        keyboard layout",
    "  --scanlines           draw a scanline overlay",
    "  -v, --verbose         increase logging verbosity"]

/-- The help. -/
def helpText : String :=
  unlines (usageLines ++ helpLines)

/-- What is said of a command line that cannot be followed. -/
def UsageError.report (e : UsageError) : String :=
  unlines (usageLines ++ [programName ++ ": error: " ++ e.message])

end Chip8.CommandLine
