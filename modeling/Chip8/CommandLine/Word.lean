import Chip8.CommandLine.Usage
import Chip8.Text.Integer

/-!
# Words of the command line

Model of the first pass of the parser that `main` builds: what each word of a command line is taken
for, before any of them is acted on. The first word `--` separates switches from what follows, and
everything after it is an operand. Before it a word that starts with a hyphen is a switch, unless it
is a hyphen only, a negative number, or an unknown word with a blank in it.

* `words_separator`: after `--` every word is an operand as it stands.
-/

namespace Chip8.CommandLine

/-- What a word is taken for. -/
inductive Word where
  /-- The end of the switches. -/
  | separator
  /-- A word that is no switch. -/
  | operand (text : String)
  /-- A switch, with the value written in the same word after an equals sign. -/
  | switch (s : Switch) (value : Option String)
  /-- A flag by its letter, with more characters after it. -/
  | cluster (f : Flag) (more : List Char)
  /-- A word that looks like a switch and is none. -/
  | unknown (text : String)
  deriving DecidableEq, Repr

/-- What stands before the first equals sign, and what stands after it if there is one. -/
def splitAtEquals (cs : List Char) : List Char × Option String :=
  let value := match cs.dropWhile (· ≠ '=') with
    | [] => none
    | _ :: value => some (String.ofList value)
  (cs.takeWhile (· ≠ '='), value)

/-- Is `cs` a minus sign and a number, with or without a point in it? Digits stand after the point,
and a line feed may stand at the end. -/
def isNegativeNumber (cs : List Char) : Bool :=
  let line := if cs.getLast? = some '\n' then cs.dropLast else cs
  match line with
  | '-' :: number =>
    match number.dropWhile Text.isDecimalDigit with
    | [] => !number.isEmpty
    | '.' :: fraction => !fraction.isEmpty && fraction.all Text.isDecimalDigit
    | _ => false
  | _ => false

/-- What a word is that starts with a hyphen but with no switch's name. -/
def Word.ofNameless (word : String) : Word :=
  if isNegativeNumber word.toList || word.toList.contains ' ' then .operand word else .unknown word

/-- What a word that starts with two hyphens is: its name in full or cut short. -/
def Word.ofLong (word : String) : Except UsageError Word :=
  let (name, value) := splitAtEquals word.toList
  match Switch.ofName? (String.ofList name) with
  | some s => .ok (.switch s value)
  | none =>
    match Switch.completions name with
    | [] => .ok (.ofNameless word)
    | [(_, s)] => .ok (.switch s value)
    | several => .error (.ambiguous word (several.map (·.1)))

/-- What a word is that starts with one hyphen and `letter`. An equals sign right after the letter
of a flag is passed over. -/
def Word.ofShort (word : String) (letter : Char) (more : List Char) : Word :=
  match Flag.ofLetter? letter, more with
  | none, _ => .ofNameless word
  | some f, [] => .switch (.flag f) none
  | some f, ['='] => .switch (.flag f) (some "")
  | some f, '=' :: more => .cluster f more
  | some f, more => .cluster f more

/-- What a word before the separator is. -/
def Word.ofText (word : String) : Except UsageError Word :=
  match word.toList with
  | '-' :: '-' :: _ => Word.ofLong word
  | '-' :: letter :: more => .ok (Word.ofShort word letter more)
  | _ => .ok (.operand word)

/-- What the words of a command line are. -/
def words : List String → Except UsageError (List Word)
  | [] => .ok []
  | word :: rest =>
    if word = "--" then .ok (.separator :: rest.map .operand)
    else do
      let w ← Word.ofText word
      let ws ← words rest
      return w :: ws

theorem words_separator (rest : List String) :
    words ("--" :: rest) = .ok (.separator :: rest.map .operand) := rfl

end Chip8.CommandLine
