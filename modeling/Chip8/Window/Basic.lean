import Chip8.Controller.Polling
import Chip8.Host.Basic
import Chip8.Host.Renderer
import Chip8.Session

/-!
# The window

Model of the state of `Chip8GUI`, and of its `_update_status`: the host's window as one value, the
session it shows, the picture, the labels of the status bar, the game controller, and the tasks that
wait for the toolkit to run them. What leaves the window, such as a log line, the bell, a file
dialog or a new thread, is written to its journal in order.

This module holds the state and the status bar; loading, input and frames have modules of their own.
-/

namespace Chip8

/-- The texts of the status bar. -/
structure Labels where
  image : String
  status : String
  speed : String
  deriving DecidableEq, Repr

/-- Something the toolkit is asked to run later. -/
inductive Task where
  /-- Paint the window if there is something new, and ask for the next painting. -/
  | renderPass
  /-- Let the user choose a program. -/
  | openDialog
  /-- Carry out what a controller asked for. -/
  | action (a : Action)
  deriving DecidableEq, Repr

/-- A task and the milliseconds it was put off by. -/
structure Scheduled where
  delay : Int
  task : Task
  deriving DecidableEq, Repr

/-- What leaves the window. -/
inductive Effect where
  /-- The user was asked for a file. -/
  | dialogOpened
  /-- A thread was started or waited for. -/
  | thread (e : ThreadEvent)
  /-- The bell rang. -/
  | bell
  /-- Something was told to the log. -/
  | told (n : Notice)
  deriving DecidableEq, Repr

/-- The state of the window. -/
structure Window where
  config : HostConfig
  session : Session Float
  clock : Clock Float
  bell : Bell Float
  /-- The multiplier on the normal speed. -/
  speed : Int
  /-- The machine is being run. -/
  emulating : Bool
  labels : Labels
  renderer : Renderer
  poller : Poller
  pending : List Scheduled
  destroyed : Bool
  journal : Array Effect

/-- What came of asking the window for something that can end in an error. -/
structure Reply (α : Type) where
  window : Window
  answer : Except LoadError α

namespace Effect

/-- What an effect prints: the bell's control character, or nothing. -/
def printed : Effect → String
  | .bell => "\x07"
  | _ => ""

/-- The log line of an effect, if it is one of at least this level. -/
def logged? (level : Level) : Effect → Option String
  | .told n => if level.rank ≤ n.record.level.rank then some n.record.text else none
  | _ => none

end Effect

namespace Window

/-- The seconds within which tone signals count as one tone. -/
def toneGap : Float := 0.1

/-- The actions that a controller can ask the window for: all of them. -/
def boundActions : List Action :=
  [.reset, .pauseToggle, .speedIncrease, .speedDecrease, .toggleScanlines]

/-- The journal with more in it. -/
def record (w : Window) (es : List Effect) : Window :=
  { w with journal := w.journal ++ es.toArray }

/-- The journal with more told to the log. -/
def tell (w : Window) (ns : List Notice) : Window :=
  w.record (ns.map .told)

/-- The speed as the status bar shows it. -/
def speedText (speed : Int) : String :=
  toString speed ++ "×"

/-- A new window with no program loaded. -/
def initial (config : HostConfig) (seed : Nat) (clock : Clock Float) : Window :=
  let polling := Poller.initial.start
  { config
    session := .initial seed
    clock
    bell := .initial toneGap
    speed := 1
    emulating := false
    labels := ⟨"No ROM", "Stopped", speedText 1⟩
    renderer := .initial config
    poller := polling.1
    pending := []
    destroyed := false
    journal := (Effect.told .reset :: polling.2.map Effect.thread).toArray }

/-- A task for the toolkit to run after `delay` milliseconds. -/
def schedule (w : Window) (delay : Int) (task : Task) : Window :=
  { w with pending := w.pending ++ [⟨delay, task⟩] }

/-! ## The status bar -/

/-- The status of a machine that runs, as the status bar shows it. -/
def runningText : Status → String
  | .running => "Running"
  | .awaitingKey => "Awaiting key"

/-- What the status bar says: trouble before a pause, a pause before the machine's own status. -/
def statusText (w : Window) : String :=
  match w.session.trouble with
  | some t => "Fault: " ++ t.message
  | none =>
    if w.session.paused then "Paused"
    else if w.emulating && w.session.machine.image.isSome then
      runningText w.session.machine.status
    else "Stopped"

/-- Brings status and speed in the status bar up to date. -/
def updateStatus (w : Window) : Window :=
  { w with labels := { w.labels with status := w.statusText, speed := speedText w.speed } }

/-- The name of the program, or what became of the attempt to load one. -/
def setImageLabel (w : Window) (text : String) : Window :=
  { w with labels := { w.labels with image := text } }

end Window

end Chip8
