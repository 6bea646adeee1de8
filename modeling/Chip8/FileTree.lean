/-!
# File tree

Model of the files among which `load_rom_file` opens one, by the rules a path is followed: component
by component, each but the last naming a directory, with the length of a component and of a whole
path limited. A place in the tree is the list of directory names that lead to it. The working
directory, where relative paths start, is called `.` in the top directory: a name that no component
of a path can spell.

* `baseName_eq_iff`: the last component of a path.
* `FileTree.read_eq_ok_iff`: reading succeeds exactly at a path that leads to a file.
-/

namespace Chip8

/-- What stands at a place. -/
inductive FileEntry where
  | file (content : List UInt8)
  | directory
  /-- Something that the system lets nobody read or enter, for a reason of its own. -/
  | locked (reason : String)
  deriving DecidableEq, Repr

/-- Why a file cannot be read. -/
inductive ReadError where
  /-- Nothing stands at the path. -/
  | notFound
  /-- A directory stands at the path. -/
  | isDirectory
  /-- The path goes on past a file. -/
  | notDirectory
  /-- A component, or the whole path, is too long. -/
  | nameTooLong
  /-- The system refuses what stands at the path, or on the way. -/
  | refused (reason : String)
  /-- The path holds the character NUL. -/
  | nulInPath
  deriving DecidableEq, Repr

/-- The system's words for it. -/
def ReadError.reason : ReadError → String
  | .notFound => "No such file or directory"
  | .isDirectory => "Is a directory"
  | .notDirectory => "Not a directory"
  | .nameTooLong => "File name too long"
  | .refused reason => reason
  | .nulInPath => "embedded null byte"

/-- A place: the names that lead to it from the top. -/
abbrev Place := List String

/-- All places at which something stands, with what stands there. -/
structure FileTree where
  entries : List (Place × FileEntry)
  deriving DecidableEq, Repr

/-- The components of a path; slashes that follow each other have an empty component between. -/
def pathComponents (path : String) : List String :=
  path.splitOn "/"

/-- The last component of a path: what follows its last slash. -/
def baseName (path : String) : String :=
  String.ofList (path.toList.reverse.takeWhile (· ≠ '/')).reverse

/-- **The base name is the end of the path that has no slash in it**, as much of it as there is:
what stands before it is nothing, or ends with a slash. -/
theorem baseName_eq_iff {path name : String} :
    baseName path = name ↔ '/' ∉ name.toList ∧
      ∃ directory : List Char, path.toList = directory ++ name.toList ∧
        ∀ c ∈ directory.getLast?, c = '/' := by
  constructor
  · rintro rfl
    rw [baseName, String.toList_ofList]
    refine ⟨fun hslash => ?_, (path.toList.reverse.dropWhile (· ≠ '/')).reverse, ?_, fun c hc => ?_⟩
    · have hnone := List.all_eq_true.mp List.all_takeWhile '/' (List.mem_reverse.mp hslash)
      exact absurd rfl (of_decide_eq_true hnone)
    · rw [← List.reverse_append, List.takeWhile_append_dropWhile, List.reverse_reverse]
    · have hfirst := List.head?_dropWhile_not (fun c => c ≠ '/') path.toList.reverse
      rw [List.getLast?_reverse] at hc
      rw [hc] at hfirst
      exact Decidable.not_not.mp (of_decide_eq_false hfirst)
  · rintro ⟨hslash, directory, hpath, hlast⟩
    have hname : ∀ c ∈ name.toList.reverse, decide (c ≠ '/') = true := fun c hc =>
      decide_eq_true fun hc' => hslash (hc' ▸ List.mem_reverse.mp hc)
    have hrest : directory.reverse.takeWhile (· ≠ '/') = [] := by
      cases h : directory.reverse with
      | nil => rfl
      | cons c rest =>
        have hc : c = '/' := hlast c (by rw [← List.head?_reverse, h]; rfl)
        rw [List.takeWhile_cons, if_neg (by simp [hc])]
    rw [baseName, hpath, List.reverse_append, List.takeWhile_append_of_pos hname, hrest,
      List.append_nil, List.reverse_reverse, String.ofList_toList]

namespace FileTree

/-- The top directory. -/
def top : Place := []

/-- Where relative paths start. -/
def workingDirectory : Place := ["."]

/-- The longest component, in bytes. -/
def maxComponent : Nat := 255

/-- The longest path, in bytes. -/
def maxPath : Nat := 4095

/-- An empty working directory. -/
def empty : FileTree :=
  ⟨[(top, .directory), (workingDirectory, .directory)]⟩

/-- What stands at a place. -/
def at? (t : FileTree) (place : Place) : Option FileEntry :=
  t.entries.lookup place

/-- Follows components from a place on. -/
def follow (t : FileTree) (place : Place) : List String → Except ReadError (Place × FileEntry)
  | [] =>
    match t.at? place with
    | some entry => .ok (place, entry)
    | none => .error .notFound
  | c :: rest =>
    match t.at? place with
    | none => .error .notFound
    | some (.file _) => .error .notDirectory
    | some (.locked reason) => .error (.refused reason)
    | some .directory =>
      if c = "" ∨ c = "." then follow t place rest
      else if c = ".." then follow t place.dropLast rest
      else if maxComponent < c.utf8ByteSize then .error .nameTooLong
      else follow t (place ++ [c]) rest

/-- Where a path starts. -/
def start (path : String) : Place :=
  if path.toList.head? = some '/' then top else workingDirectory

/-- What a path leads to. -/
def resolve (t : FileTree) (path : String) : Except ReadError (Place × FileEntry) :=
  if path.toList.contains '\x00' then .error .nulInPath
  else if maxPath < path.utf8ByteSize then .error .nameTooLong
  else if path = "" then .error .notFound
  else t.follow (start path) (pathComponents path)

/-- The content of the file that a path leads to. -/
def read (t : FileTree) (path : String) : Except ReadError (List UInt8) := do
  match ← t.resolve path with
  | (_, .file content) => return content
  | (_, .directory) => .error .isDirectory
  | (_, .locked reason) => .error (.refused reason)

/-! ## Changes -/

/-- The tree with `entry` at a place, or with nothing there. -/
def setAt (t : FileTree) (place : Place) (entry : Option FileEntry) : FileTree :=
  let others := t.entries.filter fun e => e.1 ≠ place
  match entry with
  | some entry => ⟨(place, entry) :: others⟩
  | none => ⟨others⟩

/-- The place that the last component of a path names, in the directory that the rest leads to. -/
def placeOf (t : FileTree) (path : String) : Except ReadError Place := do
  let components := (pathComponents path).filter fun c => c ≠ "" ∧ c ≠ "."
  let (directory, _) ← t.follow (start path) components.dropLast
  match components.getLast? with
  | some name => return directory ++ [name]
  | none => return directory

/-- Puts `entry` where a path leads, if there is a directory for it. -/
def put (t : FileTree) (path : String) (entry : Option FileEntry) : FileTree :=
  match t.placeOf path with
  | .ok place => t.setAt place entry
  | .error _ => t

/-- Writes a file. -/
def writeFile (t : FileTree) (path : String) (content : List UInt8) : FileTree :=
  t.put path (some (.file content))

/-- Makes a directory. -/
def makeDirectory (t : FileTree) (path : String) : FileTree :=
  t.put path (some .directory)

/-- Removes what stands at a path. -/
def remove (t : FileTree) (path : String) : FileTree :=
  t.put path none

/-- The directories that a path goes through. -/
def parents (path : String) : List String :=
  let components := pathComponents path
  (List.range components.length).map fun n => "/".intercalate (components.take n)

/-- Puts `entry` where a path leads, with every directory on the way. -/
def provide (t : FileTree) (path : String) (entry : FileEntry) : FileTree :=
  ((parents path).foldl makeDirectory t).put path (some entry)

theorem read_eq_ok_iff {t : FileTree} {path : String} {content : List UInt8} :
    t.read path = .ok content ↔ ∃ place, t.resolve path = .ok (place, .file content) := by
  unfold read
  cases h : t.resolve path with
  | error e => simp [bind, Except.bind]
  | ok found =>
    obtain ⟨place, entry⟩ := found
    cases entry <;> simp [bind, Except.bind, pure, Except.pure]

end FileTree

end Chip8
