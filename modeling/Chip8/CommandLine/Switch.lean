/-!
# Switches of the command line

Model of the switches that `main` gives its parser. A switch is a word that starts with a hyphen and
changes how the program runs. A flag stands alone; a parameter takes a value. Every switch has a
long name with two hyphens, which may be cut short while it still names one switch only, and some
flags have a name of one letter as well.

* `ofName?_eq_some`: a name names the switch that lists it.
-/

namespace Chip8.CommandLine

/-- A switch that takes no value. -/
inductive Flag where
  | help
  | scanlines
  | verbose
  deriving DecidableEq, Repr

/-- A switch that takes a value. -/
inductive Parameter where
  | speed
  | scale
  | layout
  deriving DecidableEq, Repr

/-- A switch. -/
inductive Switch where
  | flag (f : Flag)
  | parameter (p : Parameter)
  deriving DecidableEq, Repr

namespace Switch

/-- All switches, in the order in which the help lists them. -/
def all : List Switch :=
  [.flag .help, .parameter .speed, .parameter .scale, .parameter .layout, .flag .scanlines,
    .flag .verbose]

/-- The names of a switch, the one of one letter first. -/
def names : Switch → List String
  | .flag .help => ["-h", "--help"]
  | .flag .scanlines => ["--scanlines"]
  | .flag .verbose => ["-v", "--verbose"]
  | .parameter .speed => ["--speed"]
  | .parameter .scale => ["--scale"]
  | .parameter .layout => ["--layout"]

/-- How messages speak of a switch. -/
def label (s : Switch) : String :=
  "/".intercalate s.names

/-- Every name with the switch that it names. -/
def dictionary : List (String × Switch) :=
  all.flatMap fun s => s.names.map (·, s)

/-- The switch with this name. -/
def ofName? (name : String) : Option Switch :=
  dictionary.lookup name

/-- The names that start with `cs`, with their switches. -/
def completions (cs : List Char) : List (String × Switch) :=
  dictionary.filter fun entry => cs.isPrefixOf entry.1.toList

theorem mem_all (s : Switch) : s ∈ all := by
  cases s with
  | flag f => cases f <;> decide
  | parameter p => cases p <;> decide

theorem ofName?_eq_some {s : Switch} {name : String} (h : name ∈ s.names) :
    ofName? name = some s := by
  cases s with
  | flag f =>
    cases f <;> simp only [names, List.mem_cons, List.not_mem_nil, or_false] at h <;>
      rcases h with rfl | rfl <;> decide
  | parameter p =>
    cases p <;> simp only [names, List.mem_cons, List.not_mem_nil, or_false] at h <;>
      subst h <;> decide

end Switch

/-- The flag whose name is a hyphen and this letter. -/
def Flag.ofLetter? (c : Char) : Option Flag :=
  match Switch.ofName? (String.ofList ['-', c]) with
  | some (.flag f) => some f
  | _ => none

end Chip8.CommandLine
