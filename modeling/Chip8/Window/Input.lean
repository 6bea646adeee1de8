import Chip8.Keymap
import Chip8.Window.Program

/-!
# Input to the window

Model of the handlers that `_bind_keys` and `_setup_controller_callbacks` of `Chip8GUI` set up
(`_on_key_down`, `_on_key_up`, `_on_controller_key`, `_toggle_pause`, `_increase_speed`,
`_decrease_speed`, `_toggle_scanlines`, `_dump_state`): keys of the keyboard and the game
controller. Keys that stand for a key of the pad set it; a few others steer the window. What a
controller asks of the window goes through the toolkit's queue of tasks, because the controller is
polled on another thread.
-/

namespace Chip8

namespace Window

/-! ## The keyboard's and the controller's keys -/

/-- A key of the pad put down or let up. -/
def setKey (w : Window) (k : Nibble) (down : Bool) : Window :=
  { w with session := { w.session with machine := w.session.machine.setKey k.val down } }

/-- A key of the keyboard put down or let up. -/
def keyEvent (w : Window) (name : String) (down : Bool) : Window :=
  match translateKey name w.config.keyLayout with
  | some k => w.setKey k down
  | none => w

/-- Receives what a controller asks for. -/
def receive (w : Window) : PadCall → Window
  | .key k down => w.setKey k down
  | .action a => w.schedule 0 (.action a)
  | .openJoystick _ => w

/-- An event of the controller. -/
def padEvent (w : Window) (e : PadEvent) : Window :=
  (eventCalls boundActions e).foldl receive w

/-! ## Steering the window -/

/-- Pauses, or ends a pause. -/
def togglePause (w : Window) : Window :=
  updateStatus { w with session := { w.session with paused := !w.session.paused } }

/-- Twice as fast, while the speed is below its bound. -/
def increaseSpeed (w : Window) : Window :=
  if w.speed < w.config.maxSpeed then updateStatus { w with speed := w.speed * 2 } else w

/-- Half as fast, down to normal speed. -/
def decreaseSpeed (w : Window) : Window :=
  if 1 < w.speed then updateStatus { w with speed := w.speed.fdiv 2 } else w

/-- Scanlines on or off. -/
def toggleScanlines (w : Window) : Window :=
  { w with renderer := w.renderer.toggleScanlines }

/-- The registers in two lines. -/
def dumpLines (m : Machine Float) : List String :=
  ["PC: " ++ Hex.upper 4 m.registers.pc.toNat ++ "  I: " ++ Hex.upper 4 m.registers.index.toNat
      ++ "  SP: " ++ toString m.stack.depth ++ "  DT: " ++ toString m.timers.delay
      ++ "  ST: " ++ toString m.timers.sound ++ "  (" ++ m.status.text ++ ")",
    "V: " ++ " ".intercalate (m.registers.v.toList.map fun b => Hex.upper 2 b.toNat)]

/-- Tells the registers to the log. -/
def dump (w : Window) : Window :=
  w.tell ((dumpLines w.session.machine).map .registers)

/-- Carries out what a controller asked for. -/
def perform (w : Window) (tree : FileTree) : Action → Reply Unit
  | .reset => w.reload tree
  | .pauseToggle => ⟨w.togglePause, .ok ()⟩
  | .speedIncrease => ⟨w.increaseSpeed, .ok ()⟩
  | .speedDecrease => ⟨w.decreaseSpeed, .ok ()⟩
  | .toggleScanlines => ⟨w.toggleScanlines, .ok ()⟩

/-- A key of the keyboard that the window listens to; `name` is the key, and `choice` what the user
chooses if asked for a file. -/
def keyboardEvent (w : Window) (tree : FileTree) (b : Binding) (name choice : String) :
    Reply Unit :=
  match b with
  | .keyPress => ⟨w.keyEvent name true, .ok ()⟩
  | .keyRelease => ⟨w.keyEvent name false, .ok ()⟩
  | .reload => w.reload tree
  | .openDialog => w.openDialog tree choice
  | .pause => ⟨w.togglePause, .ok ()⟩
  | .slower => ⟨w.decreaseSpeed, .ok ()⟩
  | .faster => ⟨w.increaseSpeed, .ok ()⟩
  | .scanlines => ⟨w.toggleScanlines, .ok ()⟩
  | .dump => ⟨w.dump, .ok ()⟩

end Window

end Chip8
