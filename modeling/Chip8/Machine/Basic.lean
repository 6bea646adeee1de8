import Chip8.CallStack
import Chip8.Instruction.Decode
import Chip8.Keypad
import Chip8.Memory
import Chip8.RandomStream
import Chip8.Registers
import Chip8.Screen
import Chip8.Time

/-!
# The machine

Model of the state of `Chip8CPU`, and of its `reset`. A machine is one value: memory, registers,
call stack, timers, screen, keypad and random stream, with what little it has to remember between
instructions. It is driven from outside and holds no connection to a host; time enters as durations
and clock readings of a type `τ` of seconds.

* `reset_reset`: a reset leaves nothing for a second one to do.
-/

namespace Chip8

/-- Whether the machine runs or waits for a key. -/
inductive Status where
  | running
  | awaitingKey
  deriving DecidableEq, Repr

/-- The status in words. -/
def Status.text : Status → String
  | running => "running"
  | awaitingKey => "awaiting key"

/-- What is known of the program image in memory. -/
structure ImageInfo where
  name : String
  size : Nat
  deriving DecidableEq, Repr

/-- The whole state of a machine. -/
structure Machine (τ : Type) where
  /-- Where the random stream starts at every reset. -/
  seed : Nat
  memory : Memory
  registers : Registers
  stack : CallStack
  timers : Timers τ
  screen : Screen
  keypad : Keypad
  random : RandomStream
  status : Status
  /-- The register that the last wait for a key was for. -/
  keyRegister : Nibble
  /-- The clock reading that the last measured cycle took. -/
  lastReading : Option τ
  /-- The program image loaded since the last reset. -/
  image : Option ImageInfo
  /-- The cycles that went through without a fault. -/
  cycles : Nat

namespace Machine

variable {τ : Type}

/-- The machine with its registers changed. -/
def withRegisters (m : Machine τ) (f : Registers → Registers) : Machine τ :=
  { m with registers := f m.registers }

/-- A key put down or let up. -/
def setKey (m : Machine τ) (code : Int) (down : Bool) : Machine τ :=
  { m with keypad := m.keypad.setKey code down }

variable [Seconds τ]

/-- A new machine whose random stream starts from `seed`. -/
def initial (seed : Nat) : Machine τ where
  seed := seed
  memory := .initial
  registers := .initial
  stack := .empty
  timers := .initial
  screen := .initial
  keypad := .initial
  random := .ofSeed seed
  status := .running
  keyRegister := 0
  lastReading := none
  image := none
  cycles := 0

/-- The machine as new. -/
def reset (m : Machine τ) : Machine τ :=
  initial m.seed

@[simp] theorem seed_initial (seed : Nat) : (initial seed : Machine τ).seed = seed := rfl

theorem reset_reset (m : Machine τ) : m.reset.reset = m.reset := by
  rw [reset, reset, seed_initial]

end Machine

end Chip8
