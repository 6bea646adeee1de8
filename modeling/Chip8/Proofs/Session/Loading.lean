import Chip8.Proofs.Session.Lifecycle

/-!
# What comes of loading a file

A load should come to one of two things: the bytes of the file in a machine with nothing else in it,
or an error that names the path and gives the system's reason, with the machine back in its initial
state (`Settles`). A session should turn the first into yes and the second into no and a trouble
that it keeps (`Told`). Both hold whatever the system says to the path, but for a path with a NUL:
there the error is not one of a file that cannot be read. It ends the load half way, with the
machine put back already and the session none the wiser.

* `Session.load_told_iff`: the paths for which a load comes to what it should, and what becomes of
  the others.
* `Session.load_untold`: there are others.
-/

namespace Chip8

variable {τ : Type} [Seconds τ]

namespace Machine

/-- **What a load of a file should come to.** -/
inductive Settles (m : Machine τ) (tree : FileTree) (path : String) : LoadOutcome τ → Prop
  /-- The file's bytes, as many as fit. -/
  | loaded {image : List UInt8} {notices : List Notice} (h : tree.read path = .ok image) :
      Settles m tree path ⟨m.load image (baseName path), .ok (min image.length 3584), notices⟩
  /-- An error with the path and the system's reason, and a machine that was reset. -/
  | failed {e : ReadError} {notices : List Notice} (h : tree.read path = .error e) :
      Settles m tree path ⟨m.reset, .error (.unreadable path e.reason), notices⟩

variable (m : Machine τ) {tree : FileTree} {path : String}

theorem settles_of_ne (h : tree.read path ≠ .error .nulInPath) :
    m.Settles tree path (m.loadFile tree path) := by
  cases hread : tree.read path with
  | ok image =>
    rw [m.loadFile_of_ok hread]
    exact .loaded hread
  | error e =>
    have he : e ≠ .nulInPath := by
      rintro rfl
      exact h hread
    rw [m.loadFile_of_error hread, LoadError.ofRead_of_ne path he]
    exact .failed hread

/-- What a load should come to is not the error of the path itself. -/
theorem Settles.answer_ne {m : Machine τ} {outcome : LoadOutcome τ}
    (h : m.Settles tree path outcome) :
    outcome.answer ≠ .error .nulInPath := by
  cases h <;> nofun

theorem settles_iff :
    m.Settles tree path (m.loadFile tree path) ↔ tree.read path ≠ .error .nulInPath := by
  refine ⟨fun h hnul => h.answer_ne ?_, m.settles_of_ne⟩
  rw [m.loadFile_of_error hnul]
  rfl

end Machine

namespace Session

/-- **What a session should say of a load**: yes, or else no and why. -/
inductive Told (tree : FileTree) (path : String) (l : SessionLoad τ) : Prop
  | yes (answer : l.answer = .ok true) (trouble : l.session.trouble = none)
  | no {e : ReadError} (h : tree.read path = .error e) (answer : l.answer = .ok false)
      (trouble : l.session.trouble = some (.load (.unreadable path e.reason)))

variable (s : Session τ) {tree : FileTree} {path : String}

/-- A path that no file can have ends the attempt once the machine was put back. -/
theorem load_of_nul (h : tree.read path = .error .nulInPath) :
    s.load tree path =
      ⟨{ s with machine := s.machine.reset }, .error .nulInPath, [.reset]⟩ := by
  rw [load, s.machine.loadFile_of_error h]
  rfl

theorem told_of_settles (h : s.machine.Settles tree path (s.machine.loadFile tree path)) :
    Told tree path (s.load tree path) := by
  unfold load
  generalize s.machine.loadFile tree path = outcome at h
  cases h with
  | loaded h => exact .yes rfl rfl
  | failed h => exact .no h rfl rfl

theorem told_iff : Told tree path (s.load tree path) ↔ tree.read path ≠ .error .nulInPath := by
  refine ⟨fun h hnul => ?_, fun h => s.told_of_settles (s.machine.settles_of_ne h)⟩
  rw [s.load_of_nul hnul] at h
  cases h with
  | yes answer => cases answer
  | no _ answer => cases answer

/-- **What comes of loading a file**, for every path, everything that can stand at it or on the way,
every machine and every session: what should, unless there is a NUL in the path. Then the error of
the path itself ends both loads; the machine was reset, and the session keeps the trouble, the
file and the pause that it had. -/
theorem load_told_iff (m : Machine τ) (s : Session τ) (tree : FileTree) (path : String) :
    (m.Settles tree path (m.loadFile tree path) ↔ '\x00' ∉ path.toList) ∧
      (Told tree path (s.load tree path) ↔ '\x00' ∉ path.toList) ∧
      ('\x00' ∈ path.toList →
        m.loadFile tree path = ⟨m.reset, .error .nulInPath, [.reset]⟩ ∧
        s.load tree path =
          ⟨{ s with machine := s.machine.reset }, .error .nulInPath, [.reset]⟩) := by
  have hread : tree.read path ≠ .error .nulInPath ↔ '\x00' ∉ path.toList :=
    not_congr FileTree.read_eq_nul_iff
  refine ⟨m.settles_iff.trans hread, s.told_iff.trans hread, fun hnul => ?_⟩
  have herror := (FileTree.read_eq_nul_iff (t := tree)).mpr hnul
  exact ⟨m.loadFile_of_error herror, s.load_of_nul herror⟩

/-- A path with a NUL in it, on a session that had no trouble: the machine is empty, and the session
has none still. -/
theorem load_told_iff_split :
    '\x00' ∈ "a\x00b".toList ∧
      (initial 0 : Session Rat).load .empty "a\x00b" =
        ⟨{ (initial 0 : Session Rat) with machine := (Machine.initial 0).reset },
          .error .nulInPath, [.reset]⟩ ∧
      ((initial 0 : Session Rat).load .empty "a\x00b").session.trouble = none := by
  have hnul : '\x00' ∈ "a\x00b".toList := by decide
  have hload := (load_told_iff (Machine.initial 0) (initial 0 : Session Rat) .empty _).2.2 hnul
  exact ⟨hnul, hload.2, by rw [hload.2]; rfl⟩

/-- **Not every load comes to what it should.** -/
theorem load_untold :
    ¬ ∀ (m : Machine Rat) (s : Session Rat) (tree : FileTree) (path : String),
      m.Settles tree path (m.loadFile tree path) ∧ Told tree path (s.load tree path) := by
  intro hall
  have hread : FileTree.empty.read "a\x00b" = .error .nulInPath :=
    FileTree.read_eq_nul_iff.mpr (by decide)
  exact (told_iff (initial 0)).mp (hall (Machine.initial 0) (initial 0) .empty "a\x00b").2 hread

end Session

end Chip8
