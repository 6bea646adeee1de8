import Chip8.CommandLine.Word
import Chip8.Window.Frames

/-!
# Launching the window from a command line

Model of `main`: what its parser takes from the words of a command line, and what it makes of that.
The words are read from left to right. The first operand is the program's file; whatever finds no
use is left over and makes the command line an error in the end. An error that comes first is
reported first, and a request for help ends the reading. Of several values for one parameter the
last one counts, and a separator in the place of a value takes the value away.

The window comes with the program that the command line names, or with a dialog waiting to ask the
user for one. No file has the empty name, so an empty word names no program either.

* `parse_nil`: an empty command line asks for the settings that nothing changed.
* `Settings.config_default`: those are the settings of a host that nobody changed.
* `Settings.withAttached_separator`: a separator after the equals sign is never an error.
* `Settings.pending_launch_of_none`: without a program the dialog is all that waits.
-/

namespace Chip8.CommandLine

/-! ## Settings -/

/-- What a command line settles. A parameter can end up without a value. -/
structure Settings where
  /-- Instructions a second at normal speed. -/
  speed : Option Int := some ({} : HostConfig).cpuFrequency
  /-- The side of a pixel in the window. -/
  scale : Option Int := some ({} : HostConfig).scale
  /-- The keyboard layout. -/
  layout : Option String := some ({} : HostConfig).keyLayout
  /-- Dark lines over the picture from the start. -/
  scanlines : Bool := false
  /-- The file of the program to run. -/
  image : Option String := none
  /-- How often more talk was asked for. -/
  verbosity : Nat := 0
  deriving DecidableEq, Repr

/-- What a command line asks for. -/
inductive Request where
  | help
  | run (settings : Settings)
  deriving DecidableEq, Repr

namespace Settings

/-- The least level of the log lines that are shown. -/
def level (c : Settings) : Level :=
  match c.verbosity with
  | 0 => .warning
  | 1 => .info
  | _ => .debug

/-- The settings of the host. A speed without a value runs nothing, a scale without one draws
nothing, and a layout without one is none of those that have a name. -/
def config (c : Settings) : HostConfig :=
  { cpuFrequency := c.speed.getD 0
    scale := c.scale.getD 0
    scanlines := c.scanlines
    keyLayout := c.layout.getD "" }

/-- The settings with a whole number for `p`, put in by `put`. -/
def withInteger (p : Parameter) (value : String) (put : Int → Settings) :
    Except UsageError Settings :=
  match Text.integer? value with
  | some n => .ok (put n)
  | none => .error (.notInteger p value)

/-- The settings with a value for a parameter. -/
def withValue (c : Settings) (p : Parameter) (value : String) : Except UsageError Settings :=
  match p with
  | .speed => withInteger p value fun n => { c with speed := some n }
  | .scale => withInteger p value fun n => { c with scale := some n }
  | .layout =>
    if value ∈ layouts then .ok { c with layout := some value }
    else .error (.notChoice p value layouts)

/-- The settings with no value for a parameter. -/
def withoutValue (c : Settings) : Parameter → Settings
  | .speed => { c with speed := none }
  | .scale => { c with scale := none }
  | .layout => { c with layout := none }

/-- The settings with what stands after the equals sign of a parameter. -/
def withAttached (c : Settings) (p : Parameter) (value : String) : Except UsageError Settings :=
  if value = "--" then .ok (c.withoutValue p) else c.withValue p value

/-- The settings with a flag raised, or `none` if the flag asks for help. -/
def withFlag? (c : Settings) : Flag → Option Settings
  | .help => none
  | .scanlines => some { c with scanlines := true }
  | .verbose => some { c with verbosity := c.verbosity + 1 }

/-- The settings with flags raised in order, or `none` if one of them asks for help. -/
def withFlags? (c : Settings) (fs : List Flag) : Option Settings :=
  fs.foldlM withFlag? c

theorem config_default : ({} : Settings).config = {} := rfl

theorem withAttached_separator (c : Settings) (p : Parameter) :
    c.withAttached p "--" = .ok (c.withoutValue p) :=
  if_pos rfl

end Settings

/-- The flags of a cluster: `f`, and one for every further letter. Letters after one that names no
flag are taken for a value of the flag before it. -/
def clusterFlags (f : Flag) : List Char → Except UsageError (List Flag)
  | [] => .ok [f]
  | c :: more =>
    match Flag.ofLetter? c with
    | some next => do
      let fs ← clusterFlags next more
      return f :: fs
    | none => .error (.ignoredValue f (String.ofList (c :: more)))

/-- How far the reading of a command line has come. -/
structure Reading where
  settings : Settings := {}
  /-- Words that found no use, the last one first. -/
  surplus : List String := []
  /-- The word before was taken for the program's file. -/
  justNamed : Bool := false

namespace Reading

/-- The reading after settings were changed. -/
def continuing (r : Reading) (settings : Settings) : Reading :=
  { r with settings, justNamed := false }

/-- The reading after a word of no use. -/
def leaving (r : Reading) (word : String) : Reading :=
  { r with surplus := word :: r.surplus, justNamed := false }

/-- The reading after an operand. -/
def operand (r : Reading) (text : String) : Reading :=
  if r.settings.image.isNone then
    { r with settings := { r.settings with image := some text }, justNamed := true }
  else r.leaving text

/-- The reading after the separator, which is of use before the program's file and right after
it. -/
def separator (r : Reading) : Reading :=
  if r.settings.image.isNone || r.justNamed then { r with justNamed := false }
  else r.leaving "--"

/-- What the command line asks for, once all words are read. -/
def finish (r : Reading) : Except UsageError Request :=
  if r.surplus.isEmpty then .ok (.run r.settings) else .error (.unrecognized r.surplus.reverse)

/-- Reads on. -/
def read (r : Reading) : List Word → Except UsageError Request
  | [] => r.finish
  | .separator :: rest => r.separator.read rest
  | .operand text :: rest => (r.operand text).read rest
  | .unknown text :: rest => (r.leaving text).read rest
  | .cluster f more :: rest => do
    match r.settings.withFlags? (← clusterFlags f more) with
    | some settings => (r.continuing settings).read rest
    | none => return .help
  | .switch (.flag f) none :: rest =>
    match r.settings.withFlag? f with
    | some settings => (r.continuing settings).read rest
    | none => .ok .help
  | .switch (.flag f) (some value) :: _ => .error (.ignoredValue f value)
  | .switch (.parameter p) (some value) :: rest => do
    (r.continuing (← r.settings.withAttached p value)).read rest
  | .switch (.parameter p) none :: .operand value :: rest => do
    (r.continuing (← r.settings.withValue p value)).read rest
  | .switch (.parameter p) none :: _ => .error (.missingValue p)

end Reading

/-- What a command line asks for. -/
def parse (args : List String) : Except UsageError Request := do
  Reading.read {} (← words args)

theorem parse_nil : parse [] = .ok (.run {}) := rfl

/-! ## The window -/

namespace Settings

/-- The program's file, if one is named. -/
def program? (c : Settings) : Option String :=
  c.image.filter (· ≠ "")

/-- A new window, as far as it comes with what the settings ask for. -/
def launch (c : Settings) (tree : FileTree) (seed : Nat) (clock : Clock Float) : Window :=
  let w := Window.initial c.config seed clock
  match c.program? with
  | some path => (w.load tree path).window
  | none => w.schedule 0 .openDialog

theorem pending_launch_of_none {c : Settings} (h : c.program? = none) (tree : FileTree) (seed : Nat)
    (clock : Clock Float) : (c.launch tree seed clock).pending = [⟨0, .openDialog⟩] := by
  simp [launch, h, Window.schedule, Window.initial]

end Settings

end Chip8.CommandLine
