import Chip8.Instruction.Listing
import Chip8.Main
import Chip8.Proofs.CallStack
import Chip8.Proofs.Controller.Delivery
import Chip8.Proofs.Controller.Held
import Chip8.Proofs.Host.Painting
import Chip8.Proofs.Host.Bursts
import Chip8.Proofs.Host.Toolkit
import Chip8.Proofs.Host.Items
import Chip8.Proofs.Instruction.Patterns
import Chip8.Proofs.Instruction.ReadBack
import Chip8.Proofs.Keypad
import Chip8.Proofs.Machine.Alignment
import Chip8.Proofs.Machine.Cadence
import Chip8.Proofs.Machine.Calls
import Chip8.Proofs.Machine.Faults
import Chip8.Proofs.Machine.FaultPermanence
import Chip8.Proofs.Machine.DirtyMark
import Chip8.Proofs.Machine.Footprint
import Chip8.Proofs.Machine.Draws
import Chip8.Proofs.Machine.Inputs
import Chip8.Proofs.Machine.Listed
import Chip8.Proofs.Machine.View
import Chip8.Proofs.Machine.Table
import Chip8.Proofs.Machine.TimerRate
import Chip8.Proofs.Machine.WellFormed
import Chip8.Proofs.Machine.Semantics
import Chip8.Proofs.Machine.SpinWait
import Chip8.Proofs.Machine.Routines
import Chip8.Proofs.Machine.Printed
import Chip8.Proofs.Machine.SavedRegisters
import Chip8.Proofs.Memory.Honesty
import Chip8.Proofs.Memory.Stores
import Chip8.Proofs.Screen.Coverage
import Chip8.Proofs.Screen.LitCount
import Chip8.Proofs.Session.Acts
import Chip8.Proofs.Session.Batching
import Chip8.Proofs.Session.HandOff
import Chip8.Proofs.Session.Lifecycle
import Chip8.Proofs.Session.Loading
import Chip8.Proofs.Splits
import Chip8.Proofs.Window.Acts
import Chip8.Proofs.Window.Picture
import Chip8.Proofs.Window.Steady
import Chip8.Proofs.Window.Rate
import Chip8.Proofs.Window.Label
import Chip8.Proofs.Window.Chain
import Chip8.Proofs.Window.Speed
import Chip8.Proofs.Bare.Basic
import Chip8.Proofs.Bare.Program
import Chip8.Proofs.Bare.Layout
import Chip8.Proofs.Bare.Operations
import Chip8.Proofs.Bare.Refinement
import Chip8.Proofs.Bare.Sound
import Chip8.Proofs.Bare.Stack
import Chip8.Proofs.Bare.Restart
import Chip8.Proofs.Timers
