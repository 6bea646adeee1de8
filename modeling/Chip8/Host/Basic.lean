import Chip8.Time

/-!
# The host

Model of `HostConfig` and of `Chip8Audio` (`tone`). The settings of a host: how fast the machine
runs, how often the window is painted, and how the window looks. And its bell: a host that can only
ring a bell sounds a tone by ringing once at its start. Tone signals that follow each other closely
belong to one tone: the bell rings for a signal only if the one before it is more than `minGap` ago.

* `HostConfig.frameShare` and `HostConfig.repaintDelay` divide downwards, so a rate that does not
  divide evenly is rounded to the slower side.
* `HostConfig.hasFrames`: both divide by the frames of a second, which fails if there are none.
  Lean's quotient is zero there; whoever asks for one of them asks `hasFrames` first.
-/

namespace Chip8

/-! ## Settings -/

/-- The settings of a host. -/
structure HostConfig where
  /-- Instructions a second at normal speed. -/
  cpuFrequency : Int := 500
  /-- Frames a second. -/
  targetFps : Int := 60
  /-- The side of a pixel in the window. -/
  scale : Int := 10
  pixelColor : String := "#C0C0C0"
  backgroundColor : String := "#1A1A1A"
  statusBackground : String := "#2A2A2A"
  statusForeground : String := "#888888"
  statusBarHeight : Int := 30
  /-- Dark lines over the picture from the start. -/
  scanlines : Bool := false
  /-- The keyboard layout. -/
  keyLayout : String := "cosmac"
  /-- The multiplier from which the speed is not doubled again. -/
  maxSpeed : Int := 8
  deriving DecidableEq, Repr

namespace HostConfig

/-- A second has frames. If it has none, a host fails wherever it divides by their number. -/
def hasFrames (c : HostConfig) : Bool :=
  c.targetFps ≠ 0

/-- The instructions of one frame at `speed` times the normal speed, where there are frames. -/
def frameShare (c : HostConfig) (speed : Int) : Int :=
  (c.cpuFrequency * speed).fdiv c.targetFps

/-- The milliseconds from one repaint to the next, where there are frames. -/
def repaintDelay (c : HostConfig) : Int :=
  Int.fdiv 1000 c.targetFps

end HostConfig

/-! ## The bell -/

/-- The bell, with the time of the last tone signal. -/
structure Bell (τ : Type) where
  minGap : τ
  last : τ

namespace Bell

variable {τ : Type} [Seconds τ]

/-- A bell whose last signal is taken to have been at time zero. -/
def initial (minGap : τ) : Bell τ :=
  ⟨minGap, Seconds.zero⟩

/-- A tone signal at time `now`; the answer is whether the bell rings. -/
def signal (b : Bell τ) (now : τ) : Bool × Bell τ :=
  (b.minGap < now - b.last, { b with last := now })

/-- Tone signals one after the other; the answers in order. -/
def signals (b : Bell τ) : List τ → List Bool
  | [] => []
  | now :: rest => (b.signal now).1 :: (b.signal now).2.signals rest

end Bell

end Chip8
