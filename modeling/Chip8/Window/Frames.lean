import Chip8.Window.Input

/-!
# Running the window

Model of `_emulation_loop`, `_on_close` and the toolkit's queue of `Chip8GUI`. Two things happen
over and over while a window is open. The toolkit runs the tasks that wait, in order; tasks that
they add wait for the next time. And the thread that runs the machine does one frame of instructions
after another, rings the bell for tone signals, and sleeps for what is left of the frame's time.

* `runTasks_nil`: with nothing waiting, nothing is run.
-/

namespace Chip8.Window

/-- Runs one task; `choice` is what the user chooses if asked for a file. -/
def runTask (w : Window) (tree : FileTree) (choice : String) : Task → Reply Unit
  | .renderPass => ⟨w.renderPass, .ok ()⟩
  | .openDialog => w.openDialog tree choice
  | .action a => w.perform tree a

/-- Runs tasks in order, up to the first that ends in an error. -/
def runTasks (w : Window) (tree : FileTree) (choice : String) : List Scheduled → Reply Unit
  | [] => ⟨w, .ok ()⟩
  | s :: rest =>
    let done := w.runTask tree choice s.task
    match done.answer with
    | .ok _ => done.window.runTasks tree choice rest
    | .error e => ⟨done.window, .error e⟩

/-- Runs every task that waits; the answer is what they were put off by. -/
def pump (w : Window) (tree : FileTree) (choice : String) : Reply (List Int) :=
  let done := { w with pending := [] }.runTasks tree choice w.pending
  ⟨done.window, done.answer.map fun _ => w.pending.map (·.delay)⟩

/-- A tone signal of the machine at time `now` of the bell's clock. -/
def toneSignal (w : Window) (now : Float) : Window :=
  let signalled := w.bell.signal now
  let w := { w with bell := signalled.2 }
  if signalled.1 then w.record [.bell] else w

/-- Tells a notice to the log, and gives a tone its signal. -/
def pass (now : Float) (w : Window) (n : Notice) : Window :=
  match n with
  | .tone _ => (w.tell [n]).toneSignal now
  | _ => w.tell [n]

/-- The thread that runs the machine does frames. Without frames in a second it fails at its start,
as it comes to divide the second. -/
def doesFrames (w : Window) : Bool :=
  w.emulating && w.config.hasFrames

/-- One frame of instructions. -/
def runFrame (w : Window) (now : Float) : Window :=
  let ran := w.session.runFrame w.clock (w.config.frameShare w.speed).toNat
  ran.notices.foldl (pass now) { w with session := ran.session, clock := ran.clock }

/-- The seconds to sleep after a frame that began and ended at these readings of the clock; none if
it took all of its time. There was a frame, so there are frames. -/
def sleepTime (config : HostConfig) (began ended : Float) : Option Float :=
  let left := 1.0 / Float.ofInt config.targetFps - (ended - began)
  if 0.0 < left then some left else none

/-- Up to `n` frames by the thread that runs the machine, each of which begins and ends at the same
readings of the clock, and the sleeps that follow them; none if the machine is not run. -/
def emulate (w : Window) (began ended now : Float) : Nat → List Float × Window
  | 0 => ([], w)
  | n + 1 =>
    if w.doesFrames then
      let rest := (w.runFrame now).emulate began ended now n
      ((sleepTime w.config began ended).toList ++ rest.1, rest.2)
    else ([], w)

/-- One round of a host: the waiting tasks, and a frame of instructions if the machine is run. An
error of a task ends that task only. -/
def round (w : Window) (tree : FileTree) (choice : String) (now : Float) : Window :=
  let w := (w.pump tree choice).window
  if w.doesFrames then w.runFrame now else w

/-- Rounds one after the other, all at the same time. -/
def rounds (w : Window) (tree : FileTree) (choice : String) (now : Float) : Nat → Window
  | 0 => w
  | n + 1 => (w.round tree choice now).rounds tree choice now n

/-- The window as its close button leaves it: nothing runs any more. -/
def close (w : Window) : Window :=
  let stopped := w.poller.stop
  { w with emulating := false, poller := stopped.1, destroyed := true }.record
    (stopped.2.map .thread)

theorem runTasks_nil (w : Window) (tree : FileTree) (choice : String) :
    w.runTasks tree choice [] = ⟨w, .ok ()⟩ := rfl

end Chip8.Window
