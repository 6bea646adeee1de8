import Chip8.Fault

/-!
# Notices

Model of the log: what the machine and its host tell of their doings. A `Notice` is the event
itself; `record` words it as a line of a log, with a level and the part of the program that speaks.
-/

namespace Chip8

/-- How much a log line matters. -/
inductive Level where
  | debug
  | info
  | warning
  | error
  deriving DecidableEq, Repr

namespace Level

/-- The level's name in a log line. -/
def name : Level → String
  | debug => "DEBUG"
  | info => "INFO"
  | warning => "WARNING"
  | error => "ERROR"

/-- Levels in tens, the graver the higher. -/
def rank : Level → Nat
  | debug => 10
  | info => 20
  | warning => 30
  | error => 40

end Level

/-- A line of a log. -/
structure LogRecord where
  level : Level
  source : String
  message : String
  deriving DecidableEq, Repr

/-- The line as it is written. -/
def LogRecord.text (r : LogRecord) : String :=
  r.level.name ++ " " ++ r.source ++ ": " ++ r.message

/-- Something that happened and is worth telling. -/
inductive Notice where
  /-- The machine was put back to its initial state. -/
  | reset
  /-- A program image was longer than the room for it. -/
  | truncated (size limit : Nat)
  /-- A program image was loaded. -/
  | loaded (name : String) (size start : Nat)
  /-- An instruction was refused. -/
  | fault (pc : Nat) (fault : Fault)
  /-- The sound timer gave the tone at this value. -/
  | tone (sound : Int)
  /-- The machine waits for a key into this register. -/
  | awaitingKey (register : Nat)
  /-- A key that went down ended the wait. -/
  | keyArrived (key : Nat)
  /-- A key code that no key has was ignored. -/
  | strayKey (code : Int)
  /-- A program image could not be loaded. -/
  | loadFailed (message : String)
  /-- A game controller was found. -/
  | controllerConnected (name : String)
  /-- The game controller is gone. -/
  | controllerDisconnected
  /-- The registers were asked for. -/
  | registers (line : String)
  deriving DecidableEq, Repr

/-- The notice as a log line. -/
def Notice.record : Notice → LogRecord
  | .reset => ⟨.info, "chip8vm.cpu", "reset"⟩
  | .truncated size limit => ⟨.warning, "chip8vm.memory",
      "ROM is " ++ toString size ++ " bytes, truncated to " ++ toString limit⟩
  | .loaded name size start => ⟨.info, "chip8vm.cpu",
      "loaded ROM " ++ Text.quoted name ++ " (" ++ toString size ++ " bytes at 0x"
        ++ Hex.upper 3 start ++ ")"⟩
  | .fault pc f => ⟨.warning, "chip8vm.cpu",
      "fault at PC 0x" ++ Hex.upper 3 pc ++ ": " ++ f.message⟩
  | .tone sound => ⟨.debug, "chip8vm.timers", "tone (sound timer " ++ toString sound ++ ")"⟩
  | .awaitingKey register => ⟨.debug, "chip8vm.cpu",
      "waiting for key into V" ++ Hex.upper 1 register⟩
  | .keyArrived key => ⟨.debug, "chip8vm.cpu", "key 0x" ++ Hex.upper 1 key ++ " resolved wait"⟩
  | .strayKey code => ⟨.warning, "chip8vm.keypad",
      "ignoring out-of-range key code " ++ toString code⟩
  | .loadFailed message => ⟨.error, "chip8vm.session", message⟩
  | .controllerConnected name => ⟨.info, "chip8vm.controller", "controller connected: " ++ name⟩
  | .controllerDisconnected => ⟨.info, "chip8vm.controller", "controller disconnected"⟩
  | .registers line => ⟨.info, "chip8vm.frontend", line⟩

end Chip8
