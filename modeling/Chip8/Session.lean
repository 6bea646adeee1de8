import Chip8.Time
import Chip8.Machine.Cycle
import Chip8.Machine.Load

/-!
# Sessions

Model of `EmulationSession` (`load`, `reload`, `run_frame`, `take_frame`): a machine as a host runs
it. A session knows which file the program came from, whether the user paused, and what stopped the
program if something did. It runs instructions in frames, measured by a clock, and only while there
is a program, no pause and no trouble.

* `runFrame_of_not_runnable`: a session that may not run leaves everything alone, the clock too.
-/

namespace Chip8

/-- What stopped a session. -/
inductive Trouble where
  /-- An instruction was refused. -/
  | fault (f : Fault)
  /-- A program could not be loaded. -/
  | load (e : LoadError)
  deriving DecidableEq, Repr

/-- The trouble in words. -/
def Trouble.message : Trouble → String
  | .fault f => f.message
  | .load e => e.message

/-- A machine and what its host knows of it. -/
structure Session (τ : Type) where
  machine : Machine τ
  paused : Bool
  trouble : Option Trouble
  /-- The file of the last program that could be loaded. -/
  path : Option String

/-- What came of a session's attempt to load: whether it could, or the error that ended the attempt
itself. -/
structure SessionLoad (τ : Type) where
  session : Session τ
  answer : Except LoadError Bool
  notices : List Notice

/-- A frame in progress: the instructions done so far and what was told of them. -/
structure FrameRun (τ : Type) where
  session : Session τ
  clock : Clock τ
  done : Nat
  notices : Array Notice

namespace Session

variable {τ : Type}

/-- A session of a machine with nothing loaded. -/
def ofMachine (machine : Machine τ) : Session τ :=
  ⟨machine, false, none, none⟩

/-- May instructions run? -/
def runnable (s : Session τ) : Bool :=
  s.machine.image.isSome && !s.paused && s.trouble.isNone

/-- A copy of the screen for the host if there is something new to see. -/
def takeFrame (s : Session τ) : Option Frame × Session τ :=
  let taken := s.machine.screen.take?
  (taken.1, { s with machine := { s.machine with screen := taken.2 } })

variable [Seconds τ]

/-- A session of a new machine. -/
def initial (seed : Nat) : Session τ :=
  ofMachine (.initial seed)

/-- Loads a program. A file that cannot be read leaves an idle machine and the error as the trouble;
a path that no file can have ends the attempt with the machine reset and nothing else changed. -/
def load (s : Session τ) (tree : FileTree) (path : String) : SessionLoad τ :=
  let outcome := s.machine.loadFile tree path
  match outcome.answer with
  | .ok _ =>
    ⟨{ s with machine := outcome.machine, path := some path, trouble := none }, .ok true,
      outcome.notices⟩
  | .error .nulInPath =>
    ⟨{ s with machine := outcome.machine }, .error .nulInPath, outcome.notices⟩
  | .error e =>
    ⟨{ s with machine := outcome.machine, trouble := some (.load e) }, .ok false,
      outcome.notices ++ [.loadFailed e.message]⟩

/-- Loads the last program again, if there is one. -/
def reload (s : Session τ) (tree : FileTree) : SessionLoad τ :=
  match s.path with
  | some path => s.load tree path
  | none => ⟨s, .ok false, []⟩

/-- Up to `n` cycles by the clock; the first fault becomes the trouble and ends them. -/
def runCycles : Nat → FrameRun τ → FrameRun τ
  | 0, r => r
  | n + 1, r =>
    let now := r.clock.read
    let cycled := r.session.machine.cycleAt now.1
    let next : FrameRun τ :=
      { r with
        session := { r.session with machine := cycled.2 }
        clock := now.2
        notices := r.notices ++ cycled.1.notices.toArray }
    match cycled.1.fault with
    | some f => { next with session := { next.session with trouble := some (.fault f) } }
    | none => runCycles n { next with done := r.done + 1 }

/-- One frame of up to `n` instructions. -/
def runFrame (s : Session τ) (clock : Clock τ) (n : Nat) : FrameRun τ :=
  if s.runnable then runCycles n ⟨s, clock, 0, #[]⟩ else ⟨s, clock, 0, #[]⟩

theorem runFrame_of_not_runnable {s : Session τ} (h : s.runnable = false) (clock : Clock τ)
    (n : Nat) : s.runFrame clock n = ⟨s, clock, 0, #[]⟩ := by
  simp [runFrame, h]

end Session

end Chip8
