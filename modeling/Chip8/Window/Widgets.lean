import Chip8.Window.Basic

/-!
# What the window is made of

Model of `_create_ui` of `Chip8GUI`: the window's own settings and its widgets, in the order in
which they are made: the canvas on top, the status bar below it, and three labels in the bar. Each
widget has a kind, its options, and how it is packed into what holds it.
-/

namespace Chip8

/-- The value of a widget's option. -/
inductive Setting where
  | text (s : String)
  | number (n : Int)
  | flag (b : Bool)
  | font (family : String) (size : Int)
  | pair (a b : Bool)
  deriving DecidableEq, Repr

/-- A widget. -/
structure Widget where
  kind : String
  options : List (String × Setting)
  packing : List (String × Setting)
  /-- Whether it takes the size of its content, if that was said. -/
  propagate : Option Bool
  deriving DecidableEq, Repr

namespace Window

/-- The title of the dialog that asks for a program. -/
def dialogTitle : String := "Select CHIP-8 ROM"

/-- The kinds of file that the dialog offers. -/
def dialogFileTypes : List (String × String) :=
  [("CHIP-8 ROM", "*.ch8"), ("All files", "*.*")]

/-- The settings of the window itself. -/
def settings (w : Window) : List (String × Setting) :=
  [("title", .text "CHIP-8"), ("resizable", .pair false false),
    ("bg", .text w.config.backgroundColor)]

/-- A label of the status bar. -/
def label (config : HostConfig) (text side : String) : Widget where
  kind := "Label"
  options := [("text", .text text), ("fg", .text config.statusForeground),
    ("bg", .text config.statusBackground), ("font", .font "Courier" 10)]
  packing := [("side", .text side), ("padx", .number 10)]
  propagate := none

/-- The widgets as they are now. -/
def widgets (w : Window) : List Widget :=
  [⟨"Canvas",
      [("width", .number (64 * w.config.scale)), ("height", .number (32 * w.config.scale)),
        ("bg", .text w.config.backgroundColor), ("highlightthickness", .number 0)],
      [("side", .text "top")], none⟩,
    ⟨"Frame",
      [("height", .number w.config.statusBarHeight), ("bg", .text w.config.statusBackground)],
      [("side", .text "bottom"), ("fill", .text "x")], some false⟩,
    label w.config w.labels.image "left",
    label w.config w.labels.status "right",
    label w.config w.labels.speed "right"]

end Window

end Chip8
