import Chip8.Proofs.Bare.Refinement
import Mathlib

/-!
# A restart forgets what came before

A reset in place writes the parts of a machine one after another, and a part that it forgot would
keep what an earlier program left there. `restart_forgets` says that none is forgotten: what a reset
or a load leaves depends on the seed of the machine, and on as much of the image as fits, and on
nothing else.

* `holding`: a machine with nothing but an image in it, cell by cell.
* `restart_forgets`: resets, loads of images and loads of files.
-/

namespace Chip8.Bare

open Machine (initial)

variable {τ : Type}

/-- The cells of a memory with nothing but the glyphs and an image in it. -/
def imageCells (image : List UInt8) : List Int :=
  numbers (glyphBytes ++ List.replicate 0x1B0 0 ++ image.take 3584 ++
    List.replicate (3584 - image.length) 0)

/-- The cells of a new memory: the glyphs, and zeros. -/
theorem toList_initial : Memory.initial.cells.toList = glyphBytes ++ List.replicate 4016 0 := by
  rw [Memory.initial, toList_patch _ (by decide), Vector.toList_replicate]
  rfl

theorem numbers_loadImage (image : List UInt8) :
    numbers (Memory.initial.loadImage image).cells.toList = imageCells image := by
  have hlen : (image.take 3584).length = min 3584 image.length := List.length_take
  have hbefore : (glyphBytes ++ List.replicate 4016 0).take programStart =
      glyphBytes ++ List.replicate 0x1B0 (0 : UInt8) := by
    rw [List.take_append, List.take_of_length_le (by decide), List.take_replicate]
    rfl
  have hafter : (glyphBytes ++ List.replicate 4016 (0 : UInt8)).drop
      (programStart + (image.take 3584).length) = List.replicate (3584 - image.length) 0 := by
    have hglyphs : glyphBytes.length ≤ programStart + (image.take 3584).length := by
      rw [hlen]
      exact Nat.le_trans (by decide : glyphBytes.length ≤ programStart) (Nat.le_add_right _ _)
    rw [List.drop_append, List.drop_eq_nil_of_le hglyphs, List.drop_replicate, hlen]
    have hsub : 4016 - (programStart + min 3584 image.length - glyphBytes.length) =
        3584 - image.length := by
      have : glyphBytes.length = 80 := rfl
      simp only [programStart]
      omega
    rw [hsub]
    rfl
  have hfit : programStart + (image.take 3584).length ≤ 4096 := by
    simp only [programStart]
    omega
  have hcells := toList_patch Memory.initial hfit
  rw [toList_initial, hbefore, hafter] at hcells
  exact congrArg numbers hcells

/-- What is loaded of an image decides what its load leaves. -/
theorem imageSize_congr {image image' : List UInt8} (h : image.take 3584 = image'.take 3584) :
    Memory.imageSize image = Memory.imageSize image' := by
  have hlen := congrArg List.length h
  rw [List.length_take, List.length_take] at hlen
  unfold Memory.imageSize
  rw [Nat.min_comm image.length, Nat.min_comm image'.length]
  exact hlen

variable [Seconds τ]

/-- A new machine with nothing but this image in it. -/
def holding (seed : Nat) (image : List UInt8) (name : String) : Bare τ :=
  { (initial seed : Machine τ).bare with
    memory := imageCells image
    loaded := true
    imageName := Chip8.imageName name
    imageSize := (min image.length 3584 : Nat) }

theorem bare_load (m : Machine τ) (image : List UInt8) (name : String) :
    (m.load image name).bare = holding m.seed image name := by
  have hsize : Memory.imageSize image = min image.length 3584 := rfl
  rw [Machine.load, Machine.reset, bare_withImage, numbers_loadImage, hsize]
  rfl

theorem load_congr {m n : Machine τ} (hseed : m.seed = n.seed) {image image' : List UInt8}
    (h : image.take 3584 = image'.take 3584) (name : String) :
    m.load image name = n.load image' name := by
  have htake : image.take maxImageSize = image'.take maxImageSize := h
  unfold Machine.load Machine.reset Memory.loadImage
  rw [hseed, htake, imageSize_congr h]

/-- A file that can be read is an image, loaded under the last component of its path. -/
theorem loadFile_of_read (m : Machine τ) {tree : FileTree} {path : String} {image : List UInt8}
    (h : tree.read path = .ok image) :
    loadFile tree path m.bare = (Except.ok <$> load image (baseName path)) m.bare ∧
      (m.loadFile tree path).machine = m.load image (baseName path) ∧
      (m.loadFile tree path).answer = .ok (min image.length 3584) := by
  have hrun := runs_loadFile m tree path
  rw [m.loadFile_of_ok h] at hrun ⊢
  exact ⟨hrun.trans ((runs_load m image _).map _).symm, rfl, rfl⟩

/-- A file that cannot be read leaves a machine that was reset, and an error that says why. -/
theorem loadFile_of_error (m : Machine τ) {tree : FileTree} {path : String} {e : ReadError}
    (h : tree.read path = .error e) (he : e ≠ .nulInPath) :
    loadFile tree path m.bare =
        (reset >>= fun _ => pure (.error (.unreadable path e.reason))) m.bare ∧
      (m.loadFile tree path).machine = m.reset ∧
      (m.loadFile tree path).answer = .error (.unreadable path e.reason) := by
  have houtcome : m.loadFile tree path =
      ⟨m.reset, .error (.unreadable path e.reason), [.reset]⟩ := by
    rw [m.loadFile_of_error h, LoadError.ofRead_of_ne path he]
  have hrun := runs_loadFile m tree path
  have hreset : Runs (reset >>= fun _ => pure (.error (.unreadable path e.reason))) m.bare
      (.error (.unreadable path e.reason) : Except LoadError Int) m.reset.bare :=
    (runs_reset_bare m).bind (runs_pure _)
  rw [houtcome] at hrun ⊢
  exact ⟨hrun.trans hreset.symm, rfl, rfl⟩

/-- **A restart forgets what came before it.** Of any two machines, in whatever state they are:

* a reset in place leaves what a new machine of the same seed is made with, in every part;
* a load leaves a new machine with as much of the image as fits and nothing else in it, and answers
  and notes how much that is;
* two machines of one seed that load images with the same first 3584 bytes under one name are equal,
  and are equal and tell the same after every sequence of calls;
* a file that can be read loads as its content under its name, and one that cannot be read comes to
  a reset and an error. -/
theorem restart_forgets (m n : Machine τ) :
    (reset m.bare = reset (unset m.seed) ∧ reset m.bare = .ok () m.reset.bare) ∧
    (∀ image name,
      load image name m.bare = .ok (min image.length 3584 : Nat) (holding m.seed image name) ∧
      (m.load image name).bare = holding m.seed image name) ∧
    (m.seed = n.seed → ∀ image image' name, image.take 3584 = image'.take 3584 →
      load image name m.bare = load image' name n.bare ∧
      ∀ cs, (m.load image name).calls cs = (n.load image' name).calls cs ∧
        (m.load image name).reports cs = (n.load image' name).reports cs) ∧
    (∀ tree path image, tree.read path = .ok image →
      loadFile tree path m.bare = (Except.ok <$> load image (baseName path)) m.bare ∧
      (m.loadFile tree path).machine = m.load image (baseName path) ∧
      (m.loadFile tree path).answer = .ok (min image.length 3584)) ∧
    ∀ tree path e, tree.read path = .error e → e ≠ .nulInPath →
      loadFile tree path m.bare =
        (reset >>= fun _ => pure (.error (.unreadable path e.reason))) m.bare ∧
      (m.loadFile tree path).machine = m.reset ∧
      (m.loadFile tree path).answer = .error (.unreadable path e.reason) := by
  have hreset := runs_reset_bare m
  refine ⟨⟨?_, hreset⟩, fun image name => ⟨?_, bare_load m image name⟩, ?_, ?_, ?_⟩
  · exact hreset.trans (runs_reset (s := unset m.seed) List.length_replicate).symm
  · rw [← bare_load]
    exact runs_load m image name
  · intro hseed image image' name h
    have hn := runs_load n image' name
    rw [← load_congr hseed h, ← imageSize_congr h] at hn
    refine ⟨(runs_load m image name).trans hn.symm, fun cs => ?_⟩
    rw [load_congr hseed h]
    exact ⟨rfl, rfl⟩
  · exact fun _ _ _ h => loadFile_of_read m h
  · exact fun _ _ _ h he => loadFile_of_error m h he

/-- A machine in which a program drew a random byte while a key was down. -/
def used : Machine Rat :=
  (initial 7).calls [.load [0xC0, 0xFF, 0x12, 0x02] "A", .key 5 true, .cycle (.measured 1)]

/-- An image one byte longer than what fits. -/
def overlong (last : UInt8) : List UInt8 :=
  List.replicate 3584 0x60 ++ [last]

/-- A directory with one file, which is in a directory of its own. -/
def oneFile : FileTree :=
  ⟨[(FileTree.workingDirectory, .directory), ([".", "g"], .directory),
    ([".", "g", "a"], .file [0x12, 0x00])]⟩

theorem restart_forgets_used :
    (used.seed = (initial 7 : Machine Rat).seed ∧
      (overlong 1).take 3584 = (overlong 2).take 3584 ∧
      load (overlong 1) "B" used.bare = load (overlong 2) "B" (initial 7).bare) ∧
    (oneFile.read "g/a" = .ok [0x12, 0x00] ∧
      loadFile oneFile "g/a" used.bare = (Except.ok <$> load [0x12, 0x00] "a") used.bare) ∧
    oneFile.read "b" = .error .notFound ∧ ReadError.notFound ≠ .nulInPath ∧
      loadFile oneFile "b" used.bare =
        (reset >>= fun _ => pure (.error (.unreadable "b" ReadError.notFound.reason)))
          used.bare := by
  have hseed : used.seed = (initial 7 : Machine Rat).seed := by decide +kernel
  have htake : (overlong 1).take 3584 = (overlong 2).take 3584 :=
    (List.take_left' List.length_replicate).trans (List.take_left' List.length_replicate).symm
  have hread : oneFile.read "g/a" = .ok [0x12, 0x00] := by cbv
  have hname : baseName "g/a" = "a" := by decide
  have hmissing : oneFile.read "b" = .error .notFound := by cbv
  have he : ReadError.notFound ≠ .nulInPath := by decide
  obtain ⟨-, -, htwo, hfile, hno⟩ := restart_forgets used (initial 7)
  have hloaded := (hfile _ _ _ hread).1
  rw [hname] at hloaded
  exact ⟨⟨hseed, htake, (htwo hseed _ _ "B" htake).1⟩, ⟨hread, hloaded⟩, hmissing, he,
    (hno _ _ _ hmissing he).1⟩

end Chip8.Bare
