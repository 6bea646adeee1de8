import Chip8.FileTree
import Chip8.Machine.Basic

/-!
# Loading a program

Model of `load_rom` and `load_rom_file` of `Chip8CPU`. A program image is loaded into a machine that
has just been reset, as much of it as fits. An image read from a file goes by the last component of
the file's path; if the file cannot be read, the machine stays reset and the error says why.

* `loadFile_of_read`: a readable file loads as its content under its name.
-/

namespace Chip8

/-- What came of an attempt to load: the machine, the number of bytes copied or the error, and what
was told. -/
structure LoadOutcome (τ : Type) where
  machine : Machine τ
  answer : Except LoadError Nat
  notices : List Notice

/-- The name that an image without one goes by. -/
def imageName (name : String) : String :=
  if name = "" then "Unknown" else name

/-- The error of a file at `path` that cannot be read. -/
def LoadError.ofRead (path : String) (e : ReadError) : LoadError :=
  match e with
  | .nulInPath => .nulInPath
  | e => .unreadable path e.reason

namespace Machine

variable {τ : Type} [Seconds τ]

/-- The machine with nothing but this image in it. -/
def load (m : Machine τ) (image : List UInt8) (name : String) : Machine τ :=
  { m.reset with
    memory := Memory.initial.loadImage image
    image := some ⟨imageName name, Memory.imageSize image⟩ }

/-- What is told of a load. -/
def loadNotices (image : List UInt8) (name : String) : List Notice :=
  .reset :: Memory.imageNotices image
    ++ [.loaded (imageName name) (Memory.imageSize image) programStart]

/-- Loads the file at `path`. -/
def loadFile (m : Machine τ) (tree : FileTree) (path : String) : LoadOutcome τ :=
  match tree.read path with
  | .error e => ⟨m.reset, .error (LoadError.ofRead path e), [.reset]⟩
  | .ok image =>
    ⟨m.reset.load image (baseName path), .ok (Memory.imageSize image),
      .reset :: loadNotices image (baseName path)⟩

theorem loadFile_of_ok (m : Machine τ) {tree : FileTree} {path : String} {image : List UInt8}
    (h : tree.read path = .ok image) :
    m.loadFile tree path =
      ⟨m.load image (baseName path), .ok (Memory.imageSize image),
        .reset :: loadNotices image (baseName path)⟩ := by
  simp [loadFile, h, load, reset_reset]

theorem loadFile_of_error (m : Machine τ) {tree : FileTree} {path : String} {e : ReadError}
    (h : tree.read path = .error e) :
    m.loadFile tree path = ⟨m.reset, .error (LoadError.ofRead path e), [.reset]⟩ := by
  rw [loadFile, h]

theorem loadFile_of_read {m : Machine τ} {tree : FileTree} {path : String} {image : List UInt8}
    (h : tree.read path = .ok image) :
    (m.loadFile tree path).machine = m.load image (baseName path) := by
  rw [m.loadFile_of_ok h]

end Machine

end Chip8
