import Chip8.Host.Canvas
import Chip8.Host.Basic
import Chip8.Screen

/-!
# Painting the screen

Model of `Chip8Display` (`_create_pixels`, `_create_scanlines`, `toggle_scanlines`, `render`): the
picture on a canvas, one rectangle for each pixel, drawn once and recoloured from then on, and, when
they are wanted, one half-transparent rectangle for each row over its lower half.
-/

namespace Chip8

/-- A canvas with the identifiers of what is drawn on it. -/
structure Renderer where
  config : HostConfig
  canvas : Canvas
  scanlinesOn : Bool
  /-- The rectangles of the pixels, row by row. -/
  pixelIds : Array Nat
  /-- The rectangles of the scanlines, from top to bottom. -/
  scanlineIds : Array Nat

namespace Renderer

/-- The rectangle of the pixel in column `x`, row `y`, dark. -/
def pixelRectangle (config : HostConfig) (x y : Nat) : Rectangle where
  left := x * config.scale
  upper := y * config.scale
  right := (x + 1) * config.scale
  lower := (y + 1) * config.scale
  fill := config.backgroundColor
  stipple := none
  outline := ""

/-- The scanline over row `y`. -/
def scanlineRectangle (config : HostConfig) (y : Nat) : Rectangle where
  left := 0
  upper := y * config.scale + config.scale.fdiv 2
  right := 64 * config.scale
  lower := (y + 1) * config.scale
  fill := "#000000"
  stipple := some "gray50"
  outline := ""

/-- All pixel rectangles, row by row. -/
def pixelRectangles (config : HostConfig) : List Rectangle :=
  (List.range 2048).map fun n => pixelRectangle config (n % 64) (n / 64)

/-- All scanlines, from top to bottom. -/
def scanlineRectangles (config : HostConfig) : List Rectangle :=
  (List.range 32).map (scanlineRectangle config)

/-- Takes the scanlines away, and draws them anew if they are on. -/
def createScanlines (r : Renderer) : Renderer :=
  let cleared := r.scanlineIds.foldl Canvas.delete r.canvas
  if r.scanlinesOn then
    let made := cleared.createAll (scanlineRectangles r.config)
    { r with canvas := made.2, scanlineIds := made.1 }
  else { r with canvas := cleared, scanlineIds := #[] }

/-- Draws everything anew on an empty canvas, with all pixels dark. -/
def createPixels (r : Renderer) : Renderer :=
  let made := r.canvas.deleteAll.createAll (pixelRectangles r.config)
  createScanlines { r with canvas := made.2, pixelIds := made.1 }

/-- The picture of a dark screen on a new canvas. -/
def initial (config : HostConfig) : Renderer :=
  createPixels ⟨config, .empty, config.scanlines, #[], #[]⟩

/-- Turns the scanlines on or off. -/
def toggleScanlines (r : Renderer) : Renderer :=
  createScanlines { r with scanlinesOn := !r.scanlinesOn }

/-- The colour of a pixel. -/
def color (config : HostConfig) (lit : Bool) : String :=
  if lit then config.pixelColor else config.backgroundColor

/-- Colours the pixel rectangles as the frame has them. -/
def render (r : Renderer) (frame : Frame) : Renderer :=
  let lit := (frame.toList.flatMap Frame.rowPixels).toArray
  let canvas := (List.range 2048).foldl
    (fun c n => c.recolor (r.pixelIds[n]?.getD 0) (color r.config (lit[n]?.getD false))) r.canvas
  { r with canvas }

/-- The rectangle of the pixel in column `x`, row `y`, as it is now. -/
def pixel? (r : Renderer) (x y : Nat) : Option Rectangle :=
  if x < 64 ∧ y < 32 then r.pixelIds[y * 64 + x]? >>= r.canvas.item? else none

/-- The `n`-th scanline as it is now. -/
def scanline? (r : Renderer) (n : Nat) : Option Rectangle :=
  r.scanlineIds[n]? >>= r.canvas.item?

end Renderer

end Chip8
