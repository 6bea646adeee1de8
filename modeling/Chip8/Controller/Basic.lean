import Chip8.Keypad

/-!
# Game controllers

Model of `Chip8Controller` (`_handle_button`, `_handle_hat`, `_check_connection`): what a game
controller does to the keypad and to its host. Buttons stand for keys, and some of them also for an
action of the host when they go down; the directional pad stands for the four keys that programs
steer with, and lets go of all four when it comes to rest.

An event is translated into the calls it makes, in order; who receives them is the host's choice.
-/

namespace Chip8

/-- What a controller can ask of its host. -/
inductive Action where
  | reset
  | pauseToggle
  | speedIncrease
  | speedDecrease
  | toggleScanlines
  deriving DecidableEq, Repr

/-- Something that happened on a controller. -/
inductive PadEvent where
  | buttonDown (button : Int)
  | buttonUp (button : Int)
  /-- The directional pad moved to this horizontal and vertical position. -/
  | hat (x y : Int)
  /-- An analogue stick moved. -/
  | axis
  deriving DecidableEq, Repr

/-- What a controller asks for. -/
inductive PadCall where
  | key (key : Nibble) (down : Bool)
  | action (action : Action)
  /-- The joystick of this number is to be opened and made ready. -/
  | openJoystick (index : Nat)
  deriving DecidableEq, Repr

/-- The key that a button stands for. -/
def buttonKey (button : Int) : Option Nibble :=
  match button with
  | 0 => some 0x2
  | 1 => some 0x1
  | 2 => some 0xC
  | 3 => some 0x3
  | 4 => some 0x4
  | 5 => some 0x5
  | 6 => some 0xD
  | 7 => some 0xE
  | 8 => some 0x7
  | 9 => some 0x8
  | 12 => some 0x9
  | 13 => some 0xA
  | _ => none

/-- The action that a button going down stands for. -/
def buttonAction (button : Int) : Option Action :=
  match button with
  | 1 => some .reset
  | 2 => some .pauseToggle
  | 4 => some .speedIncrease
  | 6 => some .speedDecrease
  | 13 => some .toggleScanlines
  | _ => none

/-- The key that a position of the directional pad stands for. -/
def hatKey (x y : Int) : Option Nibble :=
  match x, y with
  | 0, 1 => some 0x8
  | 0, -1 => some 0x2
  | -1, 0 => some 0x4
  | 1, 0 => some 0x6
  | _, _ => none

/-- The keys of the directional pad, in the order in which it lets go of them. -/
def hatKeys : List Nibble :=
  [0x8, 0x2, 0x4, 0x6]

/-- The calls of a button that went down or up, for a host that receives the actions in `bound`. -/
def buttonCalls (bound : List Action) (button : Int) (down : Bool) : List PadCall :=
  let action := if down then (buttonAction button).filter bound.contains else none
  action.toList.map .action ++ (buttonKey button).toList.map (.key · down)

/-- The calls of the directional pad having moved. -/
def hatCalls (x y : Int) : List PadCall :=
  match hatKey x y with
  | some k => [.key k true]
  | none => if x = 0 ∧ y = 0 then hatKeys.map (.key · false) else []

/-- The calls of an event. -/
def eventCalls (bound : List Action) : PadEvent → List PadCall
  | .buttonDown button => buttonCalls bound button true
  | .buttonUp button => buttonCalls bound button false
  | .hat x y => hatCalls x y
  | .axis => []

/-- The keypad after a call. -/
def Keypad.receive (pad : Keypad) : PadCall → Keypad
  | .key k down => pad.setKey k.val down
  | _ => pad

/-- The controller in use, by its name, and whether the host takes itself to have one: two fields,
and `check` writes both. -/
structure Controller where
  joystick : Option String
  connected : Bool
  deriving DecidableEq, Repr

namespace Controller

/-- No controller in use. -/
def initial : Controller :=
  ⟨none, false⟩

/-- What came of looking for controllers: the calls made and what was told. -/
structure Checked where
  controller : Controller
  calls : List PadCall
  notices : List Notice
  deriving DecidableEq, Repr

/-- Takes up the first of the controllers plugged in, or lets go of the one in use if none is. -/
def check (c : Controller) (names : List String) : Checked :=
  match c.connected, names with
  | false, name :: _ => ⟨⟨some name, true⟩, [.openJoystick 0], [.controllerConnected name]⟩
  | true, [] => ⟨⟨none, false⟩, [], [.controllerDisconnected]⟩
  | _, _ => ⟨c, [], []⟩

end Controller

end Chip8
