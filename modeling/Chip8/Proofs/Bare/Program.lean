import Chip8.Proofs.Bare.Basic

/-!
# The interpreter of a bare machine

Model of `decode`, of the handlers of `Chip8CPU` and of its `cycle`, in place. Decoding goes by
tables from numbers to operations, and an operation is carried out by the handler that another table
has for it. A handler takes the whole word and cuts its operands out of it. A cycle catches a
refusal and reports it; any other accident goes through to the host.

* `decode`: the tables of the decoder.
* `handlers`: what carries out each operation.
* `cycle` and `call`: what a host can ask of a bare machine.
* `history`: what can happen to a new one, a change of its random stream included.
-/

namespace Chip8

/-- The operations of the instruction table, without their operands. -/
inductive Operation where
  | clear | ret | jump | call | skipEqByte | skipNeByte | skipEq | loadByte | addByte | copy | or
  | and | xor | add | sub | shiftRight | subFrom | shiftLeft | skipNe | loadIndex | jumpOffset
  | random | draw | skipPressed | skipReleased | readDelay | awaitKey | setDelay | setSound
  | addIndex | glyph | decimal | store | load
  deriving DecidableEq, Repr

namespace Bare

variable {τ : Type}

/-! ## Decoding -/

/-- What the top digit of a word selects. -/
inductive Family where
  /-- One operation. -/
  | single (operation : Operation)
  /-- Several, told apart by the word modulo `modulus`. -/
  | several (operations : List (Int × Operation)) (modulus : Int)
  deriving DecidableEq, Repr

/-- Family `0`, by the whole word. -/
def systemOperations : List (Int × Operation) :=
  [(0x00E0, .clear), (0x00EE, .ret)]

/-- Family `8`, by the lowest digit. -/
def arithmeticOperations : List (Int × Operation) :=
  [(0x0, .copy), (0x1, .or), (0x2, .and), (0x3, .xor), (0x4, .add), (0x5, .sub),
    (0x6, .shiftRight), (0x7, .subFrom), (0xE, .shiftLeft)]

/-- Family `E`, by the low byte. -/
def keyOperations : List (Int × Operation) :=
  [(0x9E, .skipPressed), (0xA1, .skipReleased)]

/-- Family `F`, by the low byte. -/
def miscOperations : List (Int × Operation) :=
  [(0x07, .readDelay), (0x0A, .awaitKey), (0x15, .setDelay), (0x18, .setSound), (0x1E, .addIndex),
    (0x29, .glyph), (0x33, .decimal), (0x55, .store), (0x65, .load)]

/-- The families by the top digit. -/
def families : List (Int × Family) :=
  [(0x0, .several systemOperations 0x10000), (0x1, .single .jump), (0x2, .single .call),
    (0x3, .single .skipEqByte), (0x4, .single .skipNeByte), (0x5, .single .skipEq),
    (0x6, .single .loadByte), (0x7, .single .addByte), (0x8, .several arithmeticOperations 0x10),
    (0x9, .single .skipNe), (0xA, .single .loadIndex), (0xB, .single .jumpOffset),
    (0xC, .single .random), (0xD, .single .draw), (0xE, .several keyOperations 0x100),
    (0xF, .several miscOperations 0x100)]

/-- The lowest sixteen bits of a number, with the operation that they stand for. -/
def decode (number : Int) : Work τ (Int × Operation) :=
  let word := number % 0x10000
  match families.lookup (word / 0x1000) with
  | none => throw (.noEntry (word / 0x1000))
  | some (.single operation) => pure (word, operation)
  | some (.several operations modulus) =>
    match operations.lookup (word % modulus) with
    | some operation => pure (word, operation)
    | none => throw (.fault (.unknownOpcode word none))

/-- The word at the program counter, with its operation. -/
def fetch : Work τ (Int × Operation) := do
  let pc := (← get).pc
  let word ← readWord pc
  try
    decode word
  catch
    | .fault (.unknownOpcode _ _) => throw (.fault (.unknownOpcode word (some pc)))
    | accident => throw accident

/-! ## Operands -/

/-- The second digit of a word. -/
def fieldX (word : Int) : Int :=
  word / 0x100 % 0x10

/-- The third digit of a word. -/
def fieldY (word : Int) : Int :=
  word / 0x10 % 0x10

/-- The lowest digit of a word. -/
def fieldN (word : Int) : Int :=
  word % 0x10

/-- The low byte of a word. -/
def fieldNN (word : Int) : Int :=
  word % 0x100

/-- The lowest three digits of a word. -/
def fieldNNN (word : Int) : Int :=
  word % 0x1000

/-! ## Handlers -/

/-- Zero or one. -/
def flagOf (p : Prop) [Decidable p] : Int :=
  if p then 1 else 0

/-- Goes on, past the next instruction too if `condition` says so. -/
def skipIf (condition : Work τ Bool) : Work τ Unit := do
  advance (← condition)

/-- A value to `Vx`, and on to the next instruction. -/
def assign (word : Int) (value : Work τ Int) : Work τ Unit := do
  setV (fieldX word) (← value)
  advance false

/-- A value and a flag: the flag first, then the value to `Vx`, and on to the next instruction. -/
def assignFlagged (word : Int) (result : Work τ (Int × Int)) : Work τ Unit := do
  let (value, flag) ← result
  setFlag flag
  setV (fieldX word) value
  advance false

/-- A value to the index, and on to the next instruction. -/
def assignIndex (value : Work τ Int) : Work τ Unit := do
  setIndex (← value)
  advance false

/-- Stores the greatest key that is down and goes on, if there is one; the answer is whether. -/
def resolveKey (register : Int) : Work τ Bool := do
  match ← highestPressed with
  | none => return false
  | some key =>
    setV register key
    advance false
    modify ({ · with status := .running })
    return true

/-- The registers from number `r` on, one after another. -/
def setFrom (r : Int) : List Int → Work τ Unit
  | [] => pure ()
  | b :: bs => do
    setV r b
    setFrom (r + 1) bs

/-- **What carries out each operation.** -/
def handlers : List (Operation × (Int → Work τ Unit)) := [
  (.clear, fun _ => do
    clear
    advance false),
  (.ret, fun _ => do
    jump (← pop)),
  (.jump, fun word => jump (fieldNNN word)),
  (.call, fun word => do
    push ((← get).pc + 2)
    jump (fieldNNN word)),
  (.jumpOffset, fun word => do
    jump (fieldNNN word + (← getV 0))),
  (.skipEqByte, fun word => skipIf do
    return (← getV (fieldX word)) = fieldNN word),
  (.skipNeByte, fun word => skipIf do
    return (← getV (fieldX word)) ≠ fieldNN word),
  (.skipEq, fun word => skipIf do
    return (← getV (fieldX word)) = (← getV (fieldY word))),
  (.skipNe, fun word => skipIf do
    return (← getV (fieldX word)) ≠ (← getV (fieldY word))),
  (.skipPressed, fun word => skipIf do
    isPressed (← getV (fieldX word))),
  (.skipReleased, fun word => skipIf do
    return !(← isPressed (← getV (fieldX word)))),
  (.loadByte, fun word => assign word (pure (fieldNN word))),
  (.addByte, fun word => assign word do
    return (← getV (fieldX word)) + fieldNN word),
  (.copy, fun word => assign word (getV (fieldY word))),
  (.or, fun word => assign word do
    return Int.lor (← getV (fieldX word)) (← getV (fieldY word))),
  (.and, fun word => assign word do
    return Int.land (← getV (fieldX word)) (← getV (fieldY word))),
  (.xor, fun word => assign word do
    return Int.xor (← getV (fieldX word)) (← getV (fieldY word))),
  (.add, fun word => assignFlagged word do
    let total := (← getV (fieldX word)) + (← getV (fieldY word))
    return (total, flagOf (0xFF < total))),
  (.sub, fun word => assignFlagged word do
    let vx ← getV (fieldX word)
    let vy ← getV (fieldY word)
    return (vx - vy, flagOf (vy ≤ vx))),
  (.subFrom, fun word => assignFlagged word do
    let vx ← getV (fieldX word)
    let vy ← getV (fieldY word)
    return (vy - vx, flagOf (vx ≤ vy))),
  (.shiftRight, fun word => assignFlagged word do
    let vx ← getV (fieldX word)
    return (vx / 2, vx % 2)),
  (.shiftLeft, fun word => assignFlagged word do
    let vx ← getV (fieldX word)
    return (vx * 2, vx / 0x80)),
  (.random, fun word => assign word do
    return Int.land (← randomByte) (fieldNN word)),
  (.loadIndex, fun word => assignIndex (pure (fieldNNN word))),
  (.addIndex, fun word => assignIndex do
    return (← get).index + (← getV (fieldX word))),
  (.glyph, fun word => assignIndex do
    return (← getV (fieldX word)) * glyphHeight),
  (.decimal, fun word => do
    let value ← getV (fieldX word)
    let digits ← bytes [value / 100, value / 10 % 10, value % 10]
    writeBlock (← get).index digits
    advance false),
  (.store, fun word => do
    let data ← bytes (slice (← get).v 0 (fieldX word + 1))
    writeBlock (← get).index data
    advance false),
  (.load, fun word => do
    let data ← readBlock (← get).index (fieldX word + 1)
    setFrom 0 data
    advance false),
  (.draw, fun word => do
    let rows ← readBlock (← get).index (fieldN word)
    let x ← getV (fieldX word)
    let y ← getV (fieldY word)
    setFlag 0
    if ← draw x y rows then setFlag 1
    advance false),
  (.readDelay, fun word => assign word do
    return (← get).timers.delay),
  (.setDelay, fun word => do
    let value ← getV (fieldX word)
    modify fun s => { s with timers := { s.timers with delay := value } }
    advance false),
  (.setSound, fun word => do
    let value ← getV (fieldX word)
    modify fun s => { s with timers := { s.timers with sound := value } }
    advance false),
  (.awaitKey, fun word => do
    if !(← resolveKey (fieldX word)) then
      modify ({ · with status := .awaitingKey, keyRegister := fieldX word }))]

/-- Carries out an operation on the operands of a word. -/
def perform (operation : Operation) (word : Int) : Work τ Unit :=
  match handlers.lookup operation with
  | some handler => handler word
  | none => throw .noHandler

/-! ## Cycles -/

/-- One instruction, or one look at the keypad. -/
def step : Work τ Unit := do
  match (← get).status with
  | .awaitingKey => discard (resolveKey (← get).keyRegister)
  | .running =>
    let (word, operation) ← fetch
    perform operation word
  modify fun s => { s with cycles := s.cycles + 1 }

/-- A step that catches its refusal, if it meets one. -/
def attempt : Work τ (Option Fault) :=
  tryCatch (step >>= fun _ => pure none) fun
    | .fault f => pure (some f)
    | accident => throw accident

variable [Seconds τ]

/-- The time that went by. A look at the clock is noted. -/
def measure : Timing τ → Work τ τ
  | .told elapsed => pure elapsed
  | .measured now => do
    let s ← get
    set { s with lastReading := some now }
    match s.lastReading with
    | some last => return now - last
    | none => return Seconds.zero

/-- One cycle, which answers with the refusal that it met. -/
def cycle (t : Timing τ) : Work τ (Option Fault) := do
  let elapsed ← measure t
  let fault ← attempt
  modify fun s => { s with timers := (s.timers.tick elapsed).2 }
  return fault

/-! ## Restarts -/

/-- Every part as new, one after another. -/
def reset : Work τ Unit := do
  modify ({ · with memory := List.replicate memorySize 0 })
  modify fun s =>
    { s with memory := splice s.memory 0 glyphEnd (numbers glyphBytes) }
  modify ({ · with v := List.replicate 16 0, index := 0, pc := programStart })
  modify ({ · with slots := List.replicate stackSize 0, sp := 0 })
  modify ({ · with timers := .initial })
  modify fun s => { s with pixels := List.replicate s.pixels.length 0, dirty := false }
  modify ({ · with keys := List.replicate 16 false })
  modify fun s => { s with random := .ofSeed s.seed }
  modify ({ · with status := .running, keyRegister := 0, lastReading := none })
  modify ({ · with loaded := false, imageName := "", imageSize := 0 })
  modify ({ · with cycles := 0 })

/-- Copies a program image, as much of it as fits; the answer is how much that is. -/
def loadImage (image : List UInt8) : Work τ Int := do
  let data := numbers (slice image 0 maxImageSize)
  modify fun s =>
    { s with memory := splice s.memory programStart (programStart + data.length) data }
  return data.length

/-- A restart with this image in memory. -/
def load (image : List UInt8) (name : String) : Work τ Int := do
  reset
  let size ← loadImage image
  modify ({ · with loaded := true, imageName := Chip8.imageName name, imageSize := size })
  return size

/-- A restart with the image at `path`, if it can be read. -/
def loadFile (tree : FileTree) (path : String) : Work τ (Except LoadError Int) := do
  reset
  match tree.read path with
  | .error e => return .error (LoadError.ofRead path e)
  | .ok image => return .ok (← load image (baseName path))

/-- A machine with every part in place and none of them set: the memory without its glyphs, the
random stream not yet seeded as it will be. -/
def unset (seed : Nat) : Bare τ where
  seed := seed
  memory := List.replicate memorySize 0
  v := []
  index := 0
  pc := 0
  slots := []
  sp := 0
  timers := .initial
  pixels := List.replicate 2048 0
  dirty := false
  keys := []
  random := ⟨Vector.replicate 624 0, 0⟩
  status := .running
  keyRegister := 0
  lastReading := none
  loaded := false
  imageName := ""
  imageSize := 0
  cycles := 0

/-- What a host does to a bare machine. -/
def call : Call τ → Work τ Unit
  | .reset => reset
  | .load image name => discard (load image name)
  | .loadFile tree path => discard (loadFile tree path)
  | .key code down => setKey code down
  | .present => modify ({ · with dirty := false })
  | .cycle t => discard (cycle t)

/-- What happens to a bare machine. -/
inductive Event (τ : Type) where
  | call (c : Call τ)
  /-- Another random stream takes the place of its own, as at a reset where nobody chose a seed. -/
  | stir (random : RandomStream)

/-- Lets something happen. -/
def event : Event τ → Work τ Unit
  | .call c => call c
  | .stir random => modify ({ · with random })

/-- What happens to a new machine, from its reset on. -/
def history (es : List (Event τ)) : Work τ Unit := do
  reset
  es.forM event

end Bare

end Chip8
