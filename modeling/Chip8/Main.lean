import Chip8.CommandLine.Launch
import Chip8.Window.Widgets

/-!
# The program

The command line around the window, on a terminal: the picture is printed with characters, the file
dialog is a line of input, and the log goes to the standard error. Everything is decided by the
window; here its journal is carried out and time is brought to it.
-/

namespace Chip8.Terminal

/-- A file tree with what stands at `path` on the disk, and nothing else. -/
def lookUp (path : String) : IO FileTree := do
  try
    let content ← IO.FS.readBinFile path
    return FileTree.empty.provide path (.file content.toList)
  catch
    | .inappropriateType .. => return FileTree.empty.provide path .directory
    | .permissionDenied _ _ reason => return FileTree.empty.provide path (.locked reason)
    | _ => return FileTree.empty

/-- Carries out the effects that wait in the journal, and empties it. -/
def carryOut (level : Level) (w : Window) : IO Window := do
  for e in w.journal do
    IO.print e.printed
    if let some line := e.logged? level then IO.eprintln line
  (← IO.getStdout).flush
  return { w with journal := #[] }

/-- Prints the picture over the one before it, with the status bar below. -/
def paint (w : Window) : IO Unit := do
  IO.println ("\x1b[H" ++ w.session.machine.screen.frame.text)
  IO.println ("   ".intercalate [w.labels.image, w.labels.status, w.labels.speed])

/-- Asks for a file, if the window waits for one. -/
def choose (w : Window) : IO String := do
  if w.pending.any (·.task = .openDialog) then
    IO.print (Window.dialogTitle ++ ": ")
    (← IO.getStdout).flush
    return (← (← IO.getStdin).getLine).trimAscii.toString
  else return ""

/-- Seconds on the clock. -/
def now : IO Float :=
  return (← IO.monoNanosNow).toFloat / 1000000000.0

/-- Round after round, until two in a row find no program to run. -/
partial def loop (level : Level) (w : Window) : IO Window := do
  let choice ← choose w
  let tree ← if choice = "" then pure FileTree.empty else lookUp choice
  let began ← now
  let next ← carryOut level ({ w with clock := .ofList began [] }.round tree choice began)
  paint next
  if w.session.runnable || next.session.runnable then
    if let some left := Window.sleepTime next.config began (← now) then
      IO.sleep (left * 1000.0).toUInt32
    loop level next
  else return next

/-- The window from its opening to its end. -/
def run (c : CommandLine.Settings) : IO Unit := do
  let tree ← match c.program? with
    | some path => lookUp path
    | none => pure FileTree.empty
  let seed ← IO.rand 0 0xFFFFFFFF
  let opened := c.launch tree seed (.ofList (← now) [])
  let ended ← loop c.level (← carryOut c.level opened)
  discard (carryOut c.level ended.close)

end Chip8.Terminal

/-- The program: help, a complaint about the command line, or the window. -/
def main (args : List String) : IO UInt32 := do
  match Chip8.CommandLine.parse args with
  | .ok .help =>
    IO.print Chip8.CommandLine.helpText
    return 0
  | .error e =>
    IO.eprint e.report
    return 2
  | .ok (.run settings) =>
    Chip8.Terminal.run settings
    return 0
