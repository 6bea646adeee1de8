/-!
# Screen

Model of `Framebuffer` (`reset`, `clear`, `draw`, `get_pixel`, `present`, `lit_count`): 64 columns
by 32 rows of pixels, each lit or dark. Sprites are drawn by exclusive or, eight columns wide, and
wrap around both edges. A row is kept as 64 bits, the leftmost pixel in the most significant one, so
drawing a sprite row is one exclusive or with the sprite's bits rotated to their column, and it
collides where both have a bit.

The `dirty` mark says that the screen was drawn on since a host last took a copy.

* `present_fst`: what a host takes is the picture as it stands.
-/

namespace Chip8

/-- A picture: 32 rows of 64 pixels, the leftmost in the most significant bit. -/
abbrev Frame := Vector (BitVec 64) 32

namespace Frame

/-- All pixels dark. -/
def blank : Frame :=
  Vector.replicate 32 0

/-- The pixels of row `y`. -/
def row (f : Frame) (y : Fin 32) : BitVec 64 :=
  f[y]

/-- The picture with other pixels in row `y`. -/
def setRow (f : Frame) (y : Fin 32) (row : BitVec 64) : Frame :=
  f.set y row

/-- Is the pixel in column `x` of row `y` lit? -/
def pixel (f : Frame) (x : Fin 64) (y : Fin 32) : Bool :=
  (f.row y).getMsbD x

/-- The pixels of a row, from left to right. -/
def rowPixels (row : BitVec 64) : List Bool :=
  (List.range 64).map row.getMsbD

/-- The number of lit pixels. -/
def litCount (f : Frame) : Nat :=
  f.toList.foldl (fun n row => n + (rowPixels row).count true) 0

/-- The picture drawn with characters, a line a row. -/
def text (f : Frame) : String :=
  "\n".intercalate <| f.toList.map fun row =>
    String.ofList ((rowPixels row).map fun lit => if lit then '#' else '.')

/-- The bits of the sprite row `byte` whose leftmost pixel stands in column `x`. -/
def spriteMask (x : Nat) (byte : UInt8) : BitVec 64 :=
  (byte.toBitVec.setWidth 64 <<< 56).rotateRight x

/-- Draws sprite rows one below the other from column `x`, row `y` on, and says whether a lit pixel
went dark on the way. -/
def blit (f : Frame) (x y : Nat) : List UInt8 → Bool × Frame
  | [] => (false, f)
  | byte :: rest =>
    let at_ : Fin 32 := ⟨y % 32, Nat.mod_lt _ (by decide)⟩
    let mask := spriteMask x byte
    let row := f.row at_
    let drawn := blit (f.setRow at_ (row ^^^ mask)) x (y + 1) rest
    (row &&& mask != 0 || drawn.1, drawn.2)

end Frame

/-- The picture and whether a host has yet to see it. -/
structure Screen where
  frame : Frame
  dirty : Bool
  deriving DecidableEq

namespace Screen

/-- A dark screen with nothing to show. -/
def initial : Screen :=
  ⟨Frame.blank, false⟩

/-- Every pixel dark. -/
def clear (_ : Screen) : Screen :=
  ⟨Frame.blank, true⟩

/-- The column or row that a coordinate falls on, counted around an edge of `size`. -/
def wrap (size : Nat) (z : Int) : Nat :=
  (z % size).toNat

/-- Draws a sprite with its upper left corner at `(x, y)`; the answer is whether it collided. -/
def draw (s : Screen) (x y : Int) (sprite : List UInt8) : Bool × Screen :=
  let drawn := s.frame.blit (wrap 64 x) (wrap 32 y) sprite
  (drawn.1, ⟨drawn.2, true⟩)

/-- Is the pixel that `(x, y)` falls on lit? -/
def getPixel (s : Screen) (x y : Int) : Bool :=
  s.frame.pixel ⟨wrap 64 x, by simp only [wrap]; omega⟩ ⟨wrap 32 y, by simp only [wrap]; omega⟩

/-- A copy of the picture for the host, after which the screen counts as seen. -/
def present (s : Screen) : Frame × Screen :=
  (s.frame, { s with dirty := false })

/-- A copy of the picture if there is something new to see. -/
def take? (s : Screen) : Option Frame × Screen :=
  if s.dirty then (some s.present.1, s.present.2) else (none, s)

theorem present_fst (s : Screen) : s.present.1 = s.frame := rfl

end Screen

end Chip8
