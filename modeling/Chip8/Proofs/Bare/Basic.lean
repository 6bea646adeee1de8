import Chip8.Proofs.Machine.Calls
import Mathlib.Data.Int.Bitwise

/-!
# A bare machine

Model of `Chip8CPU` and its parts (`Memory`, `RegisterFile`, `CallStack`, `Framebuffer`, `Keypad`)
as they work in place. A `Machine` cannot be ill-formed in many ways: its memory has 4096 cells and
no other number of them, its registers hold bytes, its screen has 2048 pixels, because their types
say so. A `Bare` machine is protected by nothing. Its parts are integers of any size and lists of
any length, and what a type rules out for a `Machine` is an `Accident` here: an index past the end
of a list, a number stored as a byte that is none, a table without an entry, a bit of the program
counter that is lost.

This module has the parts and what is done to them; `Bare.Program` has the instructions.

* `Work`: work on a bare machine, which an accident ends.
* `splice`: a write to a slice, which can change the length of the list.
* `jump`: where a bit of the program counter could be lost.
-/

namespace Chip8

/-- What ends work on a bare machine before its end. -/
inductive Accident where
  /-- A refusal, which a cycle catches and reports. Nothing catches the others. -/
  | fault (f : Fault)
  /-- No item has this index. A negative index is as bad as one past the end. -/
  | noPlace (index : Int)
  /-- A number was to be stored as a byte and is none. -/
  | noByte (value : Int)
  /-- A table has no entry for this key. -/
  | noEntry (key : Int)
  /-- An operation has no handler. -/
  | noHandler
  /-- A target of more than sixteen bits was to go to the program counter. -/
  | lostBit (target : Int)
  deriving DecidableEq, Repr

/-- A machine as it lies there, in integers and lists. -/
structure Bare (τ : Type) where
  seed : Nat
  memory : List Int
  v : List Int
  index : Int
  pc : Int
  slots : List Int
  sp : Int
  timers : Timers τ
  /-- A pixel an entry, row after row: zero for a dark one, one for a lit one. -/
  pixels : List Int
  dirty : Bool
  keys : List Bool
  random : RandomStream
  status : Status
  keyRegister : Int
  lastReading : Option τ
  loaded : Bool
  imageName : String
  imageSize : Int
  cycles : Nat

/-- Work on one bare machine, in place. An accident leaves the machine as it was written by then. -/
abbrev Work (τ : Type) := EStateM Accident (Bare τ)

namespace Bare

variable {τ α : Type}

/-! ## Lists -/

/-- The item at an index. -/
def item (l : List α) (index : Int) : Work τ α :=
  if 0 ≤ index then
    match l[index.toNat]? with
    | some a => pure a
    | none => throw (.noPlace index)
  else throw (.noPlace index)

/-- The list with another item at an index. -/
def withItem (l : List α) (index : Int) (a : α) : Work τ (List α) :=
  if 0 ≤ index ∧ index < l.length then pure (l.set index.toNat a) else throw (.noPlace index)

/-- Where a bound of a slice falls in a list; a negative bound is counted from the end. -/
def bound (l : List α) (z : Int) : Nat :=
  if z < 0 then (z + l.length).toNat else z.toNat

/-- The items from `start` up to, and without, `stop`, as far as there are any. -/
def slice (l : List α) (start stop : Int) : List α :=
  (l.take (bound l stop)).drop (bound l start)

/-- The list with other items in place of that slice, however many. -/
def splice (l : List α) (start stop : Int) (items : List α) : List α :=
  l.take (bound l start) ++ items ++ l.drop (max (bound l start) (bound l stop))

/-- Bytes as numbers. -/
def numbers (l : List UInt8) : List Int :=
  l.map fun b => (b.toNat : Int)

/-- A number to be stored as a byte. -/
def byte (z : Int) : Work τ Int :=
  if 0 ≤ z ∧ z ≤ 255 then pure z else throw (.noByte z)

/-- Numbers to be stored as bytes. -/
def bytes (l : List Int) : Work τ (List Int) :=
  l.mapM byte

/-- A check that may refuse. -/
def check (x : Except Fault α) : Work τ α :=
  match x with
  | .ok a => pure a
  | .error f => throw (.fault f)

/-! ## Registers -/

/-- The value of `Vx`. -/
def getV (x : Int) : Work τ Int := do
  item (← get).v x

/-- The lowest eight bits of `z` to `Vx`. -/
def setV (x z : Int) : Work τ Unit := do
  let v ← withItem (← get).v x (z % 0x100)
  modify ({ · with v })

/-- The flag. -/
def setFlag (z : Int) : Work τ Unit :=
  setV 15 z

/-- The lowest sixteen bits of `z` to the index. -/
def setIndex (z : Int) : Work τ Unit :=
  modify ({ · with index := z % 0x10000 })

/-- The lowest sixteen bits of `target` to the program counter, if that is all of it. -/
def jump (target : Int) : Work τ Unit :=
  if target % 0x10000 = target then modify ({ · with pc := target }) else throw (.lostBit target)

/-- Past the current instruction, and past the next one too if `skip`. -/
def advance (skip : Bool) : Work τ Unit := do
  jump ((← get).pc + if skip then 4 else 2)

/-! ## Memory -/

/-- The bytes of a block. -/
def readBlock (address length : Int) : Work τ (List Int) := do
  check (Memory.checkRange address length)
  return slice (← get).memory address (address + length)

/-- The word whose high byte is at `address`. -/
def readWord (address : Int) : Work τ Int := do
  check (Memory.checkRange address 2)
  let high ← item (← get).memory address
  let low ← item (← get).memory (address + 1)
  return 0x100 * high + low

/-- Writes a block of bytes. -/
def writeBlock (address : Int) (data : List Int) : Work τ Unit := do
  check (Memory.checkWritable address data.length)
  modify fun s => { s with memory := splice s.memory address (address + data.length) data }

/-! ## Call stack -/

/-- Puts an address on top. -/
def push (address : Int) : Work τ Unit := do
  let s ← get
  if stackSize ≤ s.sp then throw (.fault (.stackOverflow address s.sp))
  let slots ← withItem s.slots s.sp address
  set { s with slots, sp := s.sp + 1 }

/-- Takes the address on top off. -/
def pop : Work τ Int := do
  let s ← get
  if s.sp = 0 then throw (.fault .stackUnderflow)
  set { s with sp := s.sp - 1 }
  item s.slots (s.sp - 1)

/-! ## Screen -/

/-- Every pixel dark. -/
def clear : Work τ Unit :=
  modify fun s => { s with pixels := List.replicate s.pixels.length 0, dirty := true }

/-- Toggles the pixel at `(x, y)`; the answer is whether it was lit. -/
def toggle (x y : Int) : Work τ Bool := do
  let offset := y % 32 * 64 + x % 64
  let pixel ← item (← get).pixels offset
  let toggled ← byte (Int.xor pixel 1)
  let pixels ← withItem (← get).pixels offset toggled
  modify ({ · with pixels })
  return pixel ≠ 0

/-- One column of a sprite row at `(x, y)`: the pixel is toggled if the row has the bit. `hit` says
whether a lit pixel was met before. -/
def drawColumn (x y row : Int) (hit : Bool) (column : Nat) : Work τ Bool := do
  if row / 2 ^ (7 - column) % 2 = 1 then
    let lit ← toggle (x + column) y
    return hit || lit
  else return hit

/-- Sprite rows one below the other, each from left to right. -/
def drawRows (x y : Int) (hit : Bool) : List Int → Work τ Bool
  | [] => pure hit
  | row :: rest => do
    let hit ← (List.range 8).foldlM (drawColumn x y row) hit
    drawRows x (y + 1) hit rest

/-- Draws a sprite; the answer is whether it met a lit pixel. -/
def draw (x y : Int) (rows : List Int) : Work τ Bool := do
  let hit ← drawRows (x % 64) (y % 32) false rows
  modify ({ · with dirty := true })
  return hit

/-! ## Keypad -/

/-- The key `code` put down or let up; a code that no key has changes nothing. -/
def setKey (code : Int) (down : Bool) : Work τ Unit := do
  if 0 ≤ code ∧ code < 16 then
    let keys ← withItem (← get).keys code down
    modify ({ · with keys })

/-- Is the key that `code` falls on down? -/
def isPressed (code : Int) : Work τ Bool := do
  item (← get).keys (code % 16)

/-- The greatest key that is down: all are looked at, and a later one takes the place of an earlier
one. -/
def highestPressed : Work τ (Option Int) := do
  let keys := (← get).keys
  (List.range 16).foldlM (fun found (key : Nat) => do
    if ← item keys key then return some (key : Int) else return found) none

/-! ## Random bytes -/

/-- The next random byte. -/
def randomByte : Work τ Int := do
  let s ← get
  set { s with random := s.random.draw.2 }
  return s.random.draw.1.toNat

end Bare

end Chip8
