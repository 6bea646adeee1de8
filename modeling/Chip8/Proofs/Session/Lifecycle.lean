import Chip8.Proofs.Machine.WellFormed
import Chip8.Proofs.Session.Acts
import Mathlib

/-!
# The life of a session

What a host can tell of a session from what it did so far. It asked for files, some of which could
be read (`Attempt`), and since the last of these some frame may have met a fault. This `History`
says which file a reload is for, whether there is a program, whether instructions can run and what
the trouble is; the session keeps the same in four places, each written on a path of its own, and
`Standing` is what ties them to the history. One act keeps it (`Standing.act`), so every sequence of
acts does.

* `lifecycle_acts`: what is known of a session after any acts of a host.
-/

namespace Chip8

/-! ## Files -/

namespace FileTree

theorem follow_ne_nul (t : FileTree) (place : Place) (cs : List String) :
    t.follow place cs ≠ .error .nulInPath := by
  induction cs generalizing place with
  | nil =>
    unfold follow
    split <;> nofun
  | cons c cs ih =>
    unfold follow
    split
    · nofun
    · nofun
    · nofun
    · split
      · exact ih _
      · split
        · exact ih _
        · split
          · nofun
          · exact ih _

/-- Only a path with a NUL is refused for it, and every such path is. -/
theorem read_eq_nul_iff {t : FileTree} {path : String} :
    t.read path = .error .nulInPath ↔ '\x00' ∈ path.toList := by
  have hresolve : t.read path = .error .nulInPath ↔ t.resolve path = .error .nulInPath := by
    unfold read
    cases t.resolve path with
    | error e => simp [bind, Except.bind]
    | ok found =>
      obtain ⟨place, entry⟩ := found
      cases entry <;> simp [bind, Except.bind, pure, Except.pure]
  rw [hresolve]
  unfold resolve
  by_cases h : path.toList.contains '\x00' = true
  · rw [if_pos h]
    exact ⟨fun _ => List.contains_iff_mem.mp h, fun _ => rfl⟩
  · rw [if_neg h]
    refine ⟨fun hr => ?_, fun hm => absurd (List.contains_iff_mem.mpr hm) h⟩
    split at hr
    · cases hr
    · split at hr
      · cases hr
      · exact (follow_ne_nul _ _ _ hr).elim

end FileTree

/-! ## Frames -/

/-- The next `n` readings. -/
def Clock.upcoming {τ : Type} (c : Clock τ) : Nat → List τ
  | 0 => []
  | n + 1 => c.read.1 :: c.read.2.upcoming n

/-- The first fault that cycles at these readings of the clock meet. -/
def Machine.firstFault {τ : Type} [Seconds τ] (m : Machine τ) (readings : List τ) : Option Fault :=
  (m.reports (readings.map fun now => .cycle (.measured now))).findSome? CycleReport.fault

theorem Machine.firstFault_cons {τ : Type} [Seconds τ] (m : Machine τ) (now : τ)
    (readings : List τ) :
    m.firstFault (now :: readings) =
      (m.cycleAt now).1.fault.or ((m.cycleAt now).2.firstFault readings) := by
  have hreports : m.reports ((now :: readings).map fun now => .cycle (.measured now)) =
      (m.cycleAt now).1 ::
        (m.cycleAt now).2.reports (readings.map fun now => .cycle (.measured now)) := rfl
  rw [firstFault, hreports, List.findSome?_cons, firstFault]
  cases (m.cycleAt now).1.fault <;> rfl

namespace Session

variable {τ : Type} [Seconds τ]

omit [Seconds τ] in
theorem runnable_iff {s : Session τ} : s.runnable = true ↔
    s.machine.image.isSome = true ∧ s.paused = false ∧ s.trouble = none := by
  simp [runnable, and_assoc]

/-- What cycles leave of the trouble: the first fault, if one is met. -/
theorem trouble_runCycles (n : Nat) (r : FrameRun τ) :
    (runCycles n r).session.trouble =
      ((r.session.machine.firstFault (r.clock.upcoming n)).map Trouble.fault).or
        r.session.trouble := by
  induction n generalizing r with
  | zero => rfl
  | succ n ih =>
    rw [runCycles, Clock.upcoming, Machine.firstFault_cons]
    dsimp only
    cases (r.session.machine.cycleAt r.clock.read.1).1.fault with
    | some f => rfl
    | none => exact ih _

/-- What cycles leave alone: the program, the seed, the file and the pause. -/
theorem kept_runCycles (n : Nat) (r : FrameRun τ) :
    (runCycles n r).session.machine.image = r.session.machine.image ∧
      (runCycles n r).session.machine.seed = r.session.machine.seed ∧
      (runCycles n r).session.path = r.session.path ∧
      (runCycles n r).session.paused = r.session.paused := by
  induction n generalizing r with
  | zero => exact ⟨rfl, rfl, rfl, rfl⟩
  | succ n ih =>
    have hstep := Machine.sameHost_of_step (r.session.machine.noted (.measured r.clock.read.1))
    rw [runCycles]
    dsimp only
    split
    · exact ⟨hstep.image, hstep.seed, rfl, rfl⟩
    · obtain ⟨himage, hseed, hpath, hpaused⟩ := ih _
      exact ⟨himage.trans hstep.image, hseed.trans hstep.seed, hpath, hpaused⟩

end Session

/-! ## History -/

/-- An attempt to load: the file asked for, and what came of reading it. -/
structure Attempt where
  path : String
  read : Except ReadError (List UInt8)

namespace Attempt

/-- The file could be read. -/
def succeeded (t : Attempt) : Bool :=
  t.read.isOk

/-- The file that a reload is for: that of the last attempt that succeeded, the newest being first. -/
def lastPath (ts : List Attempt) : Option String :=
  (ts.find? succeeded).map path

end Attempt

/-- The attempt that the act makes after those made before, the newest of them first. -/
def SessionAct.attempt? (before : List Attempt) : SessionAct → Option Attempt
  | .load tree path => some ⟨path, tree.read path⟩
  | .reload tree => (Attempt.lastPath before).map fun path => ⟨path, tree.read path⟩
  | _ => none

/-- The act asks for no path with a NUL. -/
def SessionAct.NulFree : SessionAct → Prop
  | .load _ path => '\x00' ∉ path.toList
  | _ => True

/-- What a host did that matters to its session. -/
structure History where
  /-- The attempts to load, the newest first. -/
  attempts : List Attempt
  /-- The first fault that a frame met since the newest attempt. -/
  fault : Option Fault

namespace History

/-- Nothing was done yet. -/
def start : History :=
  ⟨[], none⟩

/-- The newest attempt succeeded. -/
def loaded (h : History) : Bool :=
  h.attempts.head?.any Attempt.succeeded

/-- How many attempts succeeded. -/
def successes (h : History) : Nat :=
  h.attempts.countP Attempt.succeeded

/-- What ought to be the trouble. -/
def trouble (h : History) : Option Trouble :=
  match h.attempts.head? with
  | none => none
  | some t =>
    match t.read with
    | .ok _ => h.fault.map .fault
    | .error e => some (.load (LoadError.ofRead t.path e))

variable {h : History} {t : Attempt}

theorem loaded_iff : h.loaded = true ↔ ∃ t, h.attempts.head? = some t ∧ t.succeeded = true := by
  rw [loaded, Option.any_eq_true]

theorem trouble_of_loaded (hl : h.loaded = true) : h.trouble = h.fault.map .fault := by
  obtain ⟨t, ht, hs⟩ := loaded_iff.mp hl
  rw [trouble, ht]
  cases hread : t.read with
  | ok image => simp only [hread]
  | error e =>
    rw [Attempt.succeeded, hread] at hs
    cases hs

theorem trouble_of_error {e : ReadError} (ht : h.attempts.head? = some t)
    (hread : t.read = .error e) : h.trouble = some (.load (LoadError.ofRead t.path e)) := by
  rw [trouble, ht]
  simp only [hread]

/-- Trouble does not go away because a frame meets a fault. -/
theorem trouble_or (f : Option Fault) (ht : h.trouble.isSome = true) :
    (trouble ⟨h.attempts, h.fault.or f⟩).isSome = true := by
  unfold trouble at ht ⊢
  cases hhead : h.attempts.head? with
  | none =>
    rw [hhead] at ht
    cases ht
  | some t =>
    simp only [hhead] at ht ⊢
    cases hread : t.read with
    | ok image =>
      simp only [hread, Option.isSome_map] at ht ⊢
      rw [Option.isSome_or, ht]
      rfl
    | error e => rfl

end History

namespace SessionRun

variable {τ : Type} [Seconds τ]

/-- The first fault that the act meets if it is a frame in which instructions may run. -/
def frameFault? (r : SessionRun τ) : SessionAct → Option Fault
  | .runFrame n =>
    if r.session.runnable then r.session.machine.firstFault (r.clock.upcoming n) else none
  | _ => none

/-- The history once the act is added to it. -/
def noted (r : SessionRun τ) (h : History) (a : SessionAct) : History :=
  match a.attempt? h.attempts with
  | some t => ⟨t :: h.attempts, none⟩
  | none => ⟨h.attempts, h.fault.or (r.frameFault? a)⟩

/-- The history once a sequence of acts is added to it. -/
def history (r : SessionRun τ) (h : History) : List SessionAct → History
  | [] => h
  | a :: as => (r.act a).history (r.noted h a) as

/-- A frame runs nothing, reads no clock and changes nothing. -/
def IdleFrame (r : SessionRun τ) (n : Nat) : Prop :=
  (r.session.runFrame r.clock n).done = 0 ∧ r.act (.runFrame n) = r

/-- **What ties a session to its history.** -/
structure Standing (seed : Nat) (r : SessionRun τ) (h : History) : Prop where
  path : r.session.path = Attempt.lastPath h.attempts
  /-- No path that was ever loaded holds a NUL. -/
  readable : ∀ path, r.session.path = some path → '\x00' ∉ path.toList
  seeded : r.session.machine.seed = seed
  image : r.session.machine.image.isSome = h.loaded
  /-- Without a program the machine is as new but for its keys. -/
  idle : h.loaded = false →
    r.session.machine = { Machine.initial seed with keypad := r.session.machine.keypad }
  trouble : r.session.trouble = h.trouble

variable {r : SessionRun τ} {h : History} {seed : Nat}

theorem standing_initial (seed : Nat) (clock : Clock τ) :
    Standing seed (initial seed clock) .start :=
  ⟨rfl, nofun, rfl, rfl, fun _ => rfl, rfl⟩

theorem idleFrame_of_not_runnable (hrun : r.session.runnable = false) (n : Nat) :
    r.IdleFrame n := by
  have hframe := Session.runFrame_of_not_runnable hrun r.clock n
  exact ⟨by rw [hframe], by rw [SessionRun.act, hframe]⟩

/-! ### One act -/

/-- A load of a file that can be read. -/
theorem load_standing_of_read (hr : r.Standing seed h) {tree : FileTree} {path : String}
    {image : List UInt8} (hpath : '\x00' ∉ path.toList) (hread : tree.read path = .ok image) :
    Standing seed ⟨(r.session.load tree path).session, r.clock⟩
      ⟨⟨path, tree.read path⟩ :: h.attempts, none⟩ := by
  rw [Session.load_of_read _ hread, hread]
  refine ⟨rfl, fun p hp => Option.some.inj hp ▸ hpath, ?_, rfl, nofun, rfl⟩
  exact (Machine.seed_load ..).trans hr.seeded

/-- A load of a file that cannot be read. -/
theorem load_standing_of_error (hr : r.Standing seed h) {tree : FileTree} {path : String}
    {e : ReadError} (hpath : '\x00' ∉ path.toList) (hread : tree.read path = .error e) :
    Standing seed ⟨(r.session.load tree path).session, r.clock⟩
      ⟨⟨path, tree.read path⟩ :: h.attempts, none⟩ := by
  have hnul : e ≠ .nulInPath := by
    rintro rfl
    exact hpath (FileTree.read_eq_nul_iff.mp hread)
  rw [Session.load_of_error _ hread hnul, hread]
  refine ⟨hr.path, hr.readable, (Machine.seed_reset _).trans hr.seeded, rfl, fun _ => ?_, rfl⟩
  show r.session.machine.reset = _
  rw [Machine.reset, hr.seeded]

theorem load_standing (hr : r.Standing seed h) (tree : FileTree) {path : String}
    (hpath : '\x00' ∉ path.toList) :
    Standing seed ⟨(r.session.load tree path).session, r.clock⟩
      ⟨⟨path, tree.read path⟩ :: h.attempts, none⟩ := by
  cases hread : tree.read path with
  | ok image => exact hread ▸ load_standing_of_read hr hpath hread
  | error e => exact hread ▸ load_standing_of_error hr hpath hread

/-- A frame in which instructions may run. -/
theorem runFrame_standing (hr : r.Standing seed h) (hrun : r.session.runnable = true) (n : Nat) :
    Standing seed (r.act (.runFrame n)) (r.noted h (.runFrame n)) := by
  have hframe : r.session.runFrame r.clock n = Session.runCycles n ⟨r.session, r.clock, 0, #[]⟩ :=
    if_pos hrun
  have hmet : r.frameFault? (.runFrame n) =
      r.session.machine.firstFault (r.clock.upcoming n) := if_pos hrun
  obtain ⟨himage, -, htrouble⟩ := Session.runnable_iff.mp hrun
  have hloaded : h.loaded = true := hr.image.symm.trans himage
  have hloaded' : History.loaded
      ⟨h.attempts, r.session.machine.firstFault (r.clock.upcoming n)⟩ = true := hloaded
  have hfault : h.fault = none := by
    have hsame := hr.trouble
    rw [htrouble, History.trouble_of_loaded hloaded] at hsame
    exact Option.map_eq_none_iff.mp hsame.symm
  have hnoted : r.noted h (.runFrame n) =
      ⟨h.attempts, r.session.machine.firstFault (r.clock.upcoming n)⟩ := by
    rw [noted, hmet, hfault]
    rfl
  obtain ⟨himage', hseed', hpath', -⟩ := Session.kept_runCycles n ⟨r.session, r.clock, 0, #[]⟩
  have htrouble' := Session.trouble_runCycles n ⟨r.session, r.clock, 0, #[]⟩
  rw [htrouble, Option.or_none] at htrouble'
  rw [hnoted, SessionRun.act, hframe]
  refine ⟨hpath'.trans hr.path, fun p hp => hr.readable p (hpath'.symm.trans hp),
    hseed'.trans hr.seeded, (congrArg Option.isSome himage').trans hr.image, fun hl => ?_, ?_⟩
  · exact absurd (hl.symm.trans hloaded) Bool.false_ne_true
  · exact htrouble'.trans (History.trouble_of_loaded hloaded').symm

/-- What neither loads nor runs anything keeps all there is to know. -/
theorem Standing.of_kept (hr : r.Standing seed h) {q : SessionRun τ}
    (hpath : q.session.path = r.session.path) (htrouble : q.session.trouble = r.session.trouble)
    (hhost : q.session.machine.seed = r.session.machine.seed ∧
      q.session.machine.image = r.session.machine.image)
    (hidle : r.session.machine = { Machine.initial seed with keypad := r.session.machine.keypad } →
      q.session.machine = { Machine.initial seed with keypad := q.session.machine.keypad }) :
    q.Standing seed h where
  path := hpath.trans hr.path
  readable p hp := hr.readable p (hpath.symm.trans hp)
  seeded := hhost.1.trans hr.seeded
  image := (congrArg Option.isSome hhost.2).trans hr.image
  idle hl := hidle (hr.idle hl)
  trouble := htrouble.trans hr.trouble

/-- An act that attempts no load and meets no fault leaves no note. -/
theorem noted_eq {a : SessionAct} (ha : a.attempt? h.attempts = none)
    (hf : r.frameFault? a = none) : r.noted h a = h := by
  rw [noted, ha, hf, Option.or_none]

/-- **One act keeps what ties a session to its history.** -/
theorem Standing.act (hr : r.Standing seed h) {a : SessionAct} (ha : a.NulFree) :
    (r.act a).Standing seed (r.noted h a) := by
  cases a with
  | load tree path => exact load_standing hr tree ha
  | reload tree =>
    cases hp : r.session.path with
    | some path =>
      have hlast : Attempt.lastPath h.attempts = some path := hr.path.symm.trans hp
      have hnoted : r.noted h (.reload tree) = ⟨⟨path, tree.read path⟩ :: h.attempts, none⟩ := by
        rw [noted, SessionAct.attempt?, hlast]
        rfl
      have hact : r.act (.reload tree) = ⟨(r.session.load tree path).session, r.clock⟩ := by
        rw [SessionRun.act, Session.reload_of_path hp]
      rw [hnoted, hact]
      exact load_standing hr tree (hr.readable path hp)
    | none =>
      have hlast : Attempt.lastPath h.attempts = none := hr.path.symm.trans hp
      have hattempt : (SessionAct.reload tree).attempt? h.attempts = none := by
        rw [SessionAct.attempt?, hlast]
        rfl
      have hact : r.act (.reload tree) = r := by
        rw [SessionRun.act, Session.reload_of_no_path hp]
      rw [noted_eq hattempt rfl, hact]
      exact hr
  | runFrame n =>
    cases hrun : r.session.runnable with
    | true => exact runFrame_standing hr hrun n
    | false =>
      have hmet : r.frameFault? (.runFrame n) = none := by
        rw [frameFault?, hrun]
        rfl
      rw [noted_eq rfl hmet, (idleFrame_of_not_runnable hrun n).2]
      exact hr
  | takeFrame =>
    rw [noted_eq rfl rfl]
    refine hr.of_kept rfl rfl ⟨rfl, rfl⟩ fun hidle => ?_
    have hunmarked : r.session.machine.screen.dirty = false := by rw [hidle]; rfl
    show r.session.takeFrame.2.machine = { Machine.initial seed with
      keypad := r.session.takeFrame.2.machine.keypad }
    rw [Session.takeFrame_of_unmarked hunmarked]
    exact hidle
  | key code down =>
    rw [noted_eq rfl rfl]
    refine hr.of_kept rfl rfl ⟨rfl, rfl⟩ fun hidle => ?_
    show r.session.machine.setKey code down = _
    rw [hidle]
    rfl
  | pause value =>
    rw [noted_eq rfl rfl]
    exact hr.of_kept rfl rfl ⟨rfl, rfl⟩ id

/-! ### Any acts -/

theorem Standing.acts (hr : r.Standing seed h) {as : List SessionAct} (has : ∀ a ∈ as, a.NulFree) :
    (r.acts as).Standing seed (r.history h as) := by
  induction as generalizing r h with
  | nil => exact hr
  | cons a as ih =>
    exact ih (hr.act (has a List.mem_cons_self)) fun b hb => has b (List.mem_cons_of_mem a hb)

/-- No act takes a success back, and one that adds none keeps the trouble. -/
theorem successes_noted (r : SessionRun τ) (h : History) (a : SessionAct) :
    h.successes ≤ (r.noted h a).successes ∧
      ((r.noted h a).successes = h.successes → h.trouble.isSome = true →
        (r.noted h a).trouble.isSome = true) := by
  cases ha : a.attempt? h.attempts with
  | none =>
    have hnoted : r.noted h a = ⟨h.attempts, h.fault.or (r.frameFault? a)⟩ := by rw [noted, ha]
    rw [hnoted]
    exact ⟨Nat.le_refl _, fun _ => History.trouble_or _⟩
  | some t =>
    have hnoted : r.noted h a = ⟨t :: h.attempts, none⟩ := by rw [noted, ha]
    have hcount : (r.noted h a).successes = h.successes + if t.succeeded then 1 else 0 := by
      rw [hnoted, History.successes, List.countP_cons]
      rfl
    refine ⟨hcount ▸ Nat.le_add_right _ _, fun heq _ => ?_⟩
    cases hread : t.read with
    | ok image =>
      have hs : t.succeeded = true := by rw [Attempt.succeeded, hread]; rfl
      rw [hcount, hs, if_pos rfl] at heq
      omega
    | error e =>
      rw [hnoted, History.trouble_of_error rfl hread]
      rfl

/-- The same of any acts. -/
theorem successes_history (r : SessionRun τ) (h : History) (as : List SessionAct) :
    h.successes ≤ (r.history h as).successes ∧
      ((r.history h as).successes = h.successes → h.trouble.isSome = true →
        (r.history h as).trouble.isSome = true) := by
  induction as generalizing r h with
  | nil => exact ⟨Nat.le_refl _, fun _ ht => ht⟩
  | cons a as ih =>
    obtain ⟨hle, hkept⟩ := successes_noted r h a
    obtain ⟨hles, hkepts⟩ := ih (r.act a) (r.noted h a)
    refine ⟨Nat.le_trans hle hles, fun heq ht => ?_⟩
    have hsame : (r.noted h a).successes = h.successes :=
      Nat.le_antisymm (heq ▸ hles) hle
    exact hkepts (heq.trans hsame.symm) (hkept hsame ht)

/-- **What a history tells of a session.** -/
structure Lifecycle (seed : Nat) (r : SessionRun τ) (h : History) : Prop where
  /-- The file is that of the newest attempt that succeeded. -/
  path : r.session.path = (h.attempts.find? Attempt.succeeded).map Attempt.path
  /-- There is a program just if the newest attempt succeeded. -/
  program : r.session.machine.image.isSome = true ↔
    ∃ t, h.attempts.head? = some t ∧ t.succeeded = true
  /-- If the newest attempt failed, the session says why, the machine is as new but for its keys, and
  nothing runs. -/
  failed : ∀ t e, h.attempts.head? = some t → t.read = .error e →
    r.session.trouble.map Trouble.message = some (LoadError.ofRead t.path e).message ∧
      r.session.machine = { Machine.initial seed with keypad := r.session.machine.keypad } ∧
      ∀ n, r.IdleFrame n
  /-- If it succeeded, the trouble is the first fault since. -/
  running : ∀ t, h.attempts.head? = some t → t.succeeded = true →
    r.session.trouble.map Trouble.message = h.fault.map Fault.message
  /-- Without a program, paused or in trouble, nothing runs. -/
  resting : r.session.machine.image = none ∨ r.session.paused = true ∨
    r.session.trouble.isSome = true → ∀ n, r.IdleFrame n
  /-- In trouble, nothing runs until another attempt succeeds, whatever is done meanwhile. -/
  stopped : r.session.trouble.isSome = true → ∀ as, (∀ a ∈ as, a.NulFree) →
    (r.history h as).successes = h.successes → ∀ n, (r.acts as).IdleFrame n

theorem idleFrame_of_trouble (ht : r.session.trouble.isSome = true) (n : Nat) : r.IdleFrame n := by
  refine idleFrame_of_not_runnable (Bool.eq_false_iff.mpr fun hrun => ?_) n
  rw [(Session.runnable_iff.mp hrun).2.2] at ht
  cases ht

theorem Standing.lifecycle (hr : r.Standing seed h) : r.Lifecycle seed h where
  path := hr.path
  program := by rw [hr.image, History.loaded_iff]
  failed t e ht hread := by
    have htrouble := hr.trouble.trans (History.trouble_of_error ht hread)
    have hloaded : h.loaded = false := by
      rw [History.loaded, ht, Option.any_some, Attempt.succeeded, hread]
      rfl
    refine ⟨by rw [htrouble]; rfl, hr.idle hloaded, fun n => idleFrame_of_trouble ?_ n⟩
    rw [htrouble]
    rfl
  running t ht hs := by
    rw [hr.trouble, History.trouble_of_loaded (History.loaded_iff.mpr ⟨t, ht, hs⟩), Option.map_map]
    rfl
  resting hrest n := by
    refine idleFrame_of_not_runnable (Bool.eq_false_iff.mpr fun hrun => ?_) n
    obtain ⟨himage, hpaused, htrouble⟩ := Session.runnable_iff.mp hrun
    rcases hrest with hi | hp | ht
    · rw [hi] at himage
      cases himage
    · rw [hpaused] at hp
      cases hp
    · rw [htrouble] at ht
      cases ht
  stopped ht as has hsame n := by
    have hkept := (successes_history r h as).2 hsame (hr.trouble ▸ ht)
    exact idleFrame_of_trouble ((hr.acts has).trouble ▸ hkept) n

/-- **The life of a session.** After any acts of a host on a new session, while files come and go
between one act and the next, the session is what its history tells. -/
theorem lifecycle_acts (seed : Nat) (clock : Clock τ) {as : List SessionAct}
    (has : ∀ a ∈ as, a.NulFree) :
    ((initial seed clock).acts as).Lifecycle seed ((initial seed clock).history .start as) :=
  ((standing_initial seed clock).acts has).lifecycle

/-- A file `a` with the program that jumps to itself. -/
def spinningTree : FileTree :=
  ⟨[(FileTree.workingDirectory, .directory), ([".", "a"], .file [0x12, 0x00])]⟩

/-- A program is loaded and runs, and then another is asked for that does not exist. -/
def askedForMore : List SessionAct :=
  [.load spinningTree "a", .runFrame 3, .load .empty "b"]

theorem attempts_askedForMore (seed : Nat) (clock : Clock τ) :
    ((initial seed clock).history .start askedForMore).attempts =
      [⟨"b", FileTree.empty.read "b"⟩, ⟨"a", spinningTree.read "a"⟩] := rfl

/-- The session keeps the file of the first and names the second in its trouble. -/
theorem lifecycle_askedForMore :
    let r : SessionRun Rat := (initial 0 (.ofList 0 [])).acts askedForMore
    (∀ a ∈ askedForMore, a.NulFree) ∧ r.session.path = some "a" ∧
      r.session.machine.image.isSome = false ∧
      r.session.trouble.map Trouble.message =
        some "failed to load ROM 'b': No such file or directory" ∧ ∀ n, r.IdleFrame n := by
  intro r
  have hfree : ∀ a ∈ askedForMore, a.NulFree := by simp [askedForMore, SessionAct.NulFree]
  have hattempts := attempts_askedForMore (τ := Rat) 0 (.ofList 0 [])
  have ha : spinningTree.read "a" = .ok [0x12, 0x00] := by cbv
  have hb : FileTree.empty.read "b" = .error .notFound := by cbv
  rw [ha, hb] at hattempts
  have hlife := lifecycle_acts 0 (.ofList (0 : Rat) []) hfree
  have hhead : ((initial 0 (.ofList (0 : Rat) [])).history .start askedForMore).attempts.head? =
      some ⟨"b", .error .notFound⟩ := by rw [hattempts]; rfl
  obtain ⟨htrouble, hmachine, hidle⟩ := hlife.failed _ _ hhead rfl
  have hpath := hlife.path
  rw [hattempts] at hpath
  have hmessage : (LoadError.ofRead "b" .notFound).message =
      "failed to load ROM 'b': No such file or directory" := by decide +kernel
  exact ⟨hfree, hpath, congrArg (fun m => Option.isSome m.image) hmachine,
    htrouble.trans (congrArg some hmessage), hidle⟩

end SessionRun

end Chip8
