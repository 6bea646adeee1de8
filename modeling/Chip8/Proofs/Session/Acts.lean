import Chip8.Proofs.Machine.Calls
import Chip8.Session

/-!
# What a host does to a session

A host loads a program and loads it again, runs frames, takes pictures, moves keys and pauses, in
any order and from more than one thread; the lock of the session makes each of these one step.
`SessionAct` is such an act and `SessionRun.acts` a sequence of them. What a host reads besides the
session comes with the acts: the files as they are at a load, and a clock, which a frame reads once
an instruction.

* `machine_load`: what a load does to the machine is what `loadFile` does.
* `screen_of_restarts`: an act that puts the machine back leaves a dark and unmarked screen.
-/

namespace Chip8

/-- Something that a host does to a session. -/
inductive SessionAct where
  | load (tree : FileTree) (path : String)
  | reload (tree : FileTree)
  | runFrame (n : Nat)
  | takeFrame
  | key (code : Int) (down : Bool)
  | pause (value : Bool)

namespace Session

variable {τ : Type}

/-- A key put down or let up. -/
def setKey (s : Session τ) (code : Int) (down : Bool) : Session τ :=
  { s with machine := s.machine.setKey code down }

/-- A pause, or the end of one. -/
def setPaused (s : Session τ) (value : Bool) : Session τ :=
  { s with paused := value }

/-- Where there is nothing new to see, no frame is handed out and nothing changes. -/
theorem takeFrame_of_unmarked {s : Session τ} (h : s.machine.screen.dirty = false) :
    s.takeFrame = (none, s) := by
  rw [takeFrame, Screen.take?, h]
  rfl

/-- Otherwise the picture is handed out as it stands, and the mark is taken away. -/
theorem takeFrame_of_marked {s : Session τ} (h : s.machine.screen.dirty = true) :
    s.takeFrame =
      (some s.machine.screen.frame,
        { s with machine := { s.machine with screen := ⟨s.machine.screen.frame, false⟩ } }) := by
  rw [takeFrame, Screen.take?, h]
  rfl

/-- A session hands out no frame exactly when its screen bears no mark. -/
theorem takeFrame_eq_none_iff {s : Session τ} :
    s.takeFrame.1 = none ↔ s.machine.screen.dirty = false := by
  cases h : s.machine.screen.dirty with
  | false => rw [takeFrame_of_unmarked h]; simp
  | true => rw [takeFrame_of_marked h]; simp

variable [Seconds τ]

theorem machine_load (s : Session τ) (tree : FileTree) (path : String) :
    (s.load tree path).session.machine = s.machine.call (.loadFile tree path) := by
  unfold load
  dsimp only
  split <;> rfl

/-- Whatever comes of it, a load leaves a dark and unmarked screen. -/
theorem screen_load (s : Session τ) (tree : FileTree) (path : String) :
    (s.load tree path).session.machine.screen = .initial := by
  rw [machine_load, Machine.frame_of_restarts _ rfl]
  rfl

theorem load_of_ok (s : Session τ) {tree : FileTree} {path : String} {image : List UInt8}
    (h : tree.read path = .ok image) :
    s.load tree path =
      ⟨{ s with
          machine := s.machine.load image (baseName path)
          path := some path
          trouble := none }, .ok true,
        .reset :: Machine.loadNotices image (baseName path)⟩ := by
  rw [load, s.machine.loadFile_of_ok h]

/-- A session whose program could be read. -/
theorem load_of_read (s : Session τ) {tree : FileTree} {path : String} {image : List UInt8}
    (h : tree.read path = .ok image) :
    (s.load tree path).session =
      { s with
        machine := s.machine.load image (baseName path)
        path := some path
        trouble := none } := by
  rw [s.load_of_ok h]

/-- A session whose program could not be read, though a file could have its path. -/
theorem load_of_error (s : Session τ) {tree : FileTree} {path : String} {e : ReadError}
    (h : tree.read path = .error e) (he : e ≠ .nulInPath) :
    (s.load tree path).session =
      { s with
        machine := s.machine.reset
        trouble := some (.load (LoadError.ofRead path e)) } := by
  rw [load, s.machine.loadFile_of_error h, LoadError.ofRead_of_ne path he]

theorem reload_of_path {s : Session τ} {path : String} (h : s.path = some path)
    (tree : FileTree) : s.reload tree = s.load tree path := by
  simp only [reload, h]

theorem reload_of_no_path {s : Session τ} (h : s.path = none) (tree : FileTree) :
    s.reload tree = ⟨s, .ok false, []⟩ := by
  simp only [reload, h]

end Session

/-- A session under way, with the clock that measures it. -/
structure SessionRun (τ : Type) where
  session : Session τ
  clock : Clock τ

namespace SessionRun

variable {τ : Type}

/-- Does the act put the machine back to its initial state? A reload does if there is a program to
load again; whether the file can then be read does not matter. -/
def restarts (r : SessionRun τ) : SessionAct → Bool
  | .load _ _ => true
  | .reload _ => r.session.path.isSome
  | _ => false

/-- The frame that the act hands out. -/
def frame? (r : SessionRun τ) : SessionAct → Option Frame
  | .takeFrame => r.session.takeFrame.1
  | _ => none

variable [Seconds τ]

/-- A session of a new machine, about to begin. -/
def initial (seed : Nat) (clock : Clock τ) : SessionRun τ :=
  ⟨.initial seed, clock⟩

/-- The session after one act. -/
def act (r : SessionRun τ) : SessionAct → SessionRun τ
  | .load tree path => { r with session := (r.session.load tree path).session }
  | .reload tree => { r with session := (r.session.reload tree).session }
  | .runFrame n =>
    let ran := r.session.runFrame r.clock n
    ⟨ran.session, ran.clock⟩
  | .takeFrame => { r with session := r.session.takeFrame.2 }
  | .key code down => { r with session := r.session.setKey code down }
  | .pause value => { r with session := r.session.setPaused value }

/-- The session after a sequence of acts. -/
def acts (r : SessionRun τ) (as : List SessionAct) : SessionRun τ :=
  as.foldl act r

/-- A machine that is put back shows nothing, and has nothing to show. -/
theorem screen_of_restarts {r : SessionRun τ} {a : SessionAct} (h : r.restarts a = true) :
    (r.act a).session.machine.screen = .initial := by
  cases a with
  | load tree path => exact r.session.screen_load tree path
  | reload tree =>
    obtain ⟨path, hp⟩ := Option.isSome_iff_exists.mp h
    show (r.session.reload tree).session.machine.screen = .initial
    rw [Session.reload_of_path hp]
    exact r.session.screen_load tree path
  | _ => cases h

end SessionRun

end Chip8
