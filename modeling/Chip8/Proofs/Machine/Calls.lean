import Chip8.Machine.Cycle
import Chip8.Machine.Load

/-!
# What a host does to a machine

A host builds a machine and then resets it, loads programs, moves keys, takes pictures and lets
cycles run, in any order. `Call` is one such act and `Machine.calls` a sequence of them; a machine
is `Reachable` if some sequence leads to it from a new one.

A cycle is told how much time went by, or it reads the clock (`Timing`). Either way it is one
`cycle` of a machine that may have taken note of the reading (`cycleBy_eq`).

* `reachable_iff`: a machine is reachable iff a sequence of calls on a new machine ends in it.
-/

namespace Chip8

/-- How a cycle learns of the time that went by. -/
inductive Timing (τ : Type) where
  /-- The host says so. -/
  | told (elapsed : τ)
  /-- The clock stands at `now`. -/
  | measured (now : τ)

/-- Something that a host does to a machine. -/
inductive Call (τ : Type) where
  | reset
  | load (image : List UInt8) (name : String)
  | loadFile (tree : FileTree) (path : String)
  | key (code : Int) (down : Bool)
  | present
  | cycle (t : Timing τ)

/-- The calls that put a machine back to its initial state, whatever they load then. -/
def Call.restarts {τ : Type} : Call τ → Bool
  | reset => true
  | load _ _ => true
  | loadFile _ _ => true
  | key _ _ => false
  | present => false
  | cycle _ => false

/-- Unless no file can have the path, the error names it and gives the system's reason. -/
theorem LoadError.ofRead_of_ne (path : String) {e : ReadError} (he : e ≠ .nulInPath) :
    LoadError.ofRead path e = .unreadable path e.reason := by
  cases e with
  | nulInPath => exact absurd rfl he
  | _ => rfl

namespace Machine

variable {τ : Type}

/-- The last reading of the clock once a cycle looked at it, if it does. -/
def readingAfter (m : Machine τ) : Timing τ → Option τ
  | .told _ => m.lastReading
  | .measured now => some now

/-- The machine once it took note of the clock. -/
def noted (m : Machine τ) (t : Timing τ) : Machine τ :=
  { m with lastReading := m.readingAfter t }

/-- The picture was taken. -/
def presented (m : Machine τ) : Machine τ :=
  { m with screen := m.screen.present.2 }

variable [Seconds τ]

@[simp] theorem seed_reset (m : Machine τ) : m.reset.seed = m.seed :=
  seed_initial m.seed

@[simp] theorem seed_load (m : Machine τ) (image : List UInt8) (name : String) :
    (m.load image name).seed = m.seed := by
  simp only [load, seed_reset]

/-- The time that went by. -/
def elapsed (m : Machine τ) : Timing τ → τ
  | .told e => e
  | .measured now => m.elapsedTo now

/-- One cycle. -/
def cycleBy (m : Machine τ) : Timing τ → CycleReport × Machine τ
  | .told e => m.cycle e
  | .measured now => m.cycleAt now

/-- The machine once its timers took account of `elapsed`. -/
def ticked (m : Machine τ) (elapsed : τ) : Machine τ :=
  { m with timers := (m.timers.tick elapsed).2 }

theorem cycleBy_eq (m : Machine τ) (t : Timing τ) :
    m.cycleBy t = (m.noted t).cycle (m.elapsed t) := by
  cases t <;> rfl

/-- What a cycle leaves is what its step leaves, ticked once. -/
theorem cycleBy_snd (m : Machine τ) (t : Timing τ) :
    (m.cycleBy t).2 = (m.noted t).step.machine.ticked (m.elapsed t) := by
  rw [cycleBy_eq]; rfl

theorem cycleBy_instruction (m : Machine τ) (t : Timing τ) :
    (m.cycleBy t).1.instruction = (m.noted t).step.instruction := by
  rw [cycleBy_eq]; rfl

theorem cycleBy_fault (m : Machine τ) (t : Timing τ) :
    (m.cycleBy t).1.fault = (m.noted t).step.fault := by
  rw [cycleBy_eq]; rfl

/-- The machine after one call. -/
def call (m : Machine τ) : Call τ → Machine τ
  | .reset => m.reset
  | .load image name => m.load image name
  | .loadFile tree path => (m.loadFile tree path).machine
  | .key code down => m.setKey code down
  | .present => m.presented
  | .cycle t => (m.cycleBy t).2

/-- The machine after a sequence of calls. -/
def calls (m : Machine τ) (cs : List (Call τ)) : Machine τ :=
  cs.foldl call m

/-- What a call tells if it is a cycle. -/
def report? (m : Machine τ) : Call τ → Option CycleReport
  | .cycle t => some (m.cycleBy t).1
  | _ => none

/-- What the cycles of a sequence of calls tell, in order. -/
def reports (m : Machine τ) : List (Call τ) → List CycleReport
  | [] => []
  | c :: cs => (m.report? c).toList ++ (m.call c).reports cs

@[simp] theorem calls_nil (m : Machine τ) : m.calls [] = m := rfl

@[simp] theorem calls_cons (m : Machine τ) (c : Call τ) (cs : List (Call τ)) :
    m.calls (c :: cs) = (m.call c).calls cs := rfl

theorem calls_append (m : Machine τ) (cs ds : List (Call τ)) :
    m.calls (cs ++ ds) = (m.calls cs).calls ds :=
  List.foldl_append

/-! ## Reachable machines -/

/-- The machines that a host can come to. -/
inductive Reachable : Machine τ → Prop
  | new (seed : Nat) : Reachable (initial seed)
  | call {m : Machine τ} (h : Reachable m) (c : Call τ) : Reachable (m.call c)

theorem Reachable.calls {m : Machine τ} (h : Reachable m) (cs : List (Call τ)) :
    Reachable (m.calls cs) := by
  induction cs generalizing m with
  | nil => exact h
  | cons c cs ih => exact ih (h.call c)

theorem reachable_iff {m : Machine τ} :
    Reachable m ↔ ∃ seed cs, m = (initial seed).calls cs := by
  constructor
  · intro h
    induction h with
    | new seed => exact ⟨seed, [], rfl⟩
    | call _ c ih =>
      obtain ⟨seed, cs, rfl⟩ := ih
      exact ⟨seed, cs ++ [c], by rw [calls_append]; rfl⟩
  · rintro ⟨seed, cs, rfl⟩
    exact (Reachable.new seed).calls cs

/-- A restart asks nothing of a machine but its seed. -/
theorem call_of_restarts (m : Machine τ) {c : Call τ} (hc : c.restarts = true) :
    m.call c = (initial m.seed).call c := by
  have hreset : m.reset = (initial m.seed : Machine τ).reset := by
    rw [reset, reset, seed_initial]
  cases c with
  | reset => exact hreset
  | load image name => simp only [call, load, hreset]
  | loadFile tree path => simp only [call, loadFile, hreset]
  | key code down => cases hc
  | present => cases hc
  | cycle t => cases hc

/-- A load from a file comes to a reset or to the load of an image. -/
theorem call_loadFile (m : Machine τ) (tree : FileTree) (path : String) :
    m.call (.loadFile tree path) = m.call .reset ∨
      ∃ image, m.call (.loadFile tree path) = m.call (.load image (baseName path)) := by
  cases hr : tree.read path with
  | error e => exact Or.inl (by simp only [call, loadFile, hr])
  | ok image => exact Or.inr ⟨image, loadFile_of_read hr⟩

/-- **What a restart leaves**: a machine as new, but for what a load put into its memory. -/
theorem frame_of_restarts (m : Machine τ) {c : Call τ} (hc : c.restarts = true) :
    m.call c = { m.reset with memory := (m.call c).memory, image := (m.call c).image } := by
  cases c with
  | reset => rw [call]
  | load image name => rw [call, load]
  | loadFile tree path =>
    rcases m.call_loadFile tree path with hr | ⟨image, hl⟩
    · rw [hr, call]
    · rw [hl, call, load]
  | key code down => cases hc
  | present => cases hc
  | cycle t => cases hc

end Machine

end Chip8
