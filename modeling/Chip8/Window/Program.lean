import Chip8.Window.Basic

/-!
# Loading programs into the window

Model of `load_rom`, `_reset`, `_open_file_dialog`, `_start_emulation` and `_render_loop` of
`Chip8GUI`. A program that loads starts the emulation: the first one starts the thread that runs the
machine and the chain of repaints, later ones go on with both. A program that cannot be loaded is
told in the status bar.

Without frames in a second (`HostConfig.hasFrames`) the first repaint fails after it has painted, as
it comes to put off the next. The thread is started by then, but no repaint waits, and whoever asked
for the program gets that failure in place of the answer here.
-/

namespace Chip8.Window

/-- Paints the window if the screen changed, and brings the status bar up to date. -/
def repaint (w : Window) : Window :=
  let taken := w.session.takeFrame
  let renderer := match taken.1 with
    | some frame => w.renderer.render frame
    | none => w.renderer
  { w with session := taken.2, renderer }.updateStatus

/-- Repaints the window and asks for the next repaint, which takes frames in a second to be put off
by; nothing once the emulation has ended. -/
def renderPass (w : Window) : Window :=
  if w.emulating then
    if w.config.hasFrames then w.repaint.schedule w.config.repaintDelay .renderPass
    else w.repaint
  else w

/-- Runs the machine, unless it runs already, and ends a pause. -/
def startEmulation (w : Window) : Window :=
  let w := { w with session := { w.session with paused := false } }
  if w.emulating then w.updateStatus
  else
    (({ w with emulating := true }.updateStatus).record [.thread .emulationStarted]).renderPass

/-- Tells in the status bar that a program could not be loaded. -/
def showLoadFailed (w : Window) : Window :=
  (w.setImageLabel "Load failed").updateStatus

/-- The name of the program in the machine. -/
def imageName (w : Window) : String :=
  match w.session.machine.image with
  | some i => i.name
  | none => ""

/-- Loads the program at `path` and runs it; the answer is whether it could be loaded. -/
def load (w : Window) (tree : FileTree) (path : String) : Reply Bool :=
  let loading := w.session.load tree path
  let w := { w with session := loading.session }.tell loading.notices
  match loading.answer with
  | .ok true => ⟨(w.setImageLabel ("ROM: " ++ w.imageName)).startEmulation, .ok true⟩
  | .ok false => ⟨w.showLoadFailed, .ok false⟩
  | .error e => ⟨w, .error e⟩

/-- Loads the current program anew; nothing if there has been none. -/
def reload (w : Window) (tree : FileTree) : Reply Unit :=
  if w.session.path.isNone then ⟨w, .ok ()⟩
  else
    let loading := w.session.reload tree
    let w := { w with session := loading.session }.tell loading.notices
    match loading.answer with
    | .ok true => ⟨{ w with renderer := w.renderer.render Frame.blank }.startEmulation, .ok ()⟩
    | .ok false => ⟨w.showLoadFailed, .ok ()⟩
    | .error e => ⟨w, .error e⟩

/-- Asks the user for a program, who chooses `choice`, and loads it unless it is empty. -/
def openDialog (w : Window) (tree : FileTree) (choice : String) : Reply Unit :=
  let w := w.record [.dialogOpened]
  if choice = "" then ⟨w, .ok ()⟩
  else
    let loaded := w.load tree choice
    ⟨loaded.window, loaded.answer.map fun _ => ()⟩

end Chip8.Window
