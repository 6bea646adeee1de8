import Chip8.Proofs.Window.Steady

/-!
# One thread and one chain of repaints

A program is loaded from many places: by its path, from the dialog, with the key that loads it anew
and by the controller, through the toolkit's tasks. Every one of them ends in a start of the thread
and of the chain of repaints, which is a start only while neither is there. So a window has one of
each from the first program on, and none before (`OneChain`): a deed that loads adds one to none, a
repaint puts its successor in its own place, and nothing else comes near either.

A repaint is put off by a part of a second's frames. Where a second has none, the first one fails
with the thread already started, and no chain begins.

* `Window.one_chain`: this is so after any acts before the window is closed; and once it is, the
  repaint that still waits does nothing.
-/

namespace Chip8.Window

/-- A window as it is first shown. One that was given no program asks the user for one as soon as
the toolkit runs. -/
def atStart (config : HostConfig) (seed : Nat) (clock : Clock Float) (asks : Bool) : Window :=
  if asks then (initial config seed clock).schedule 0 .openDialog else initial config seed clock

/-- The deed loads a program. -/
def loads (w : Window) : Deed → Bool
  | .load tree path => (w.session.load tree path).succeeded
  | .reload tree => (w.session.reload tree).succeeded
  | _ => false

/-- One of the acts does. -/
def everLoads (w : Window) : List WindowAct → Bool
  | [] => false
  | a :: as => w.loads (w.deed a) || (w.act a).everLoads as

/-- **One of each**, once a program was loaded, and none before. A chain takes frames. -/
structure OneChain (w : Window) (loaded : Bool) : Prop where
  emulating : w.emulating = loaded
  starts : w.starts = loaded.toNat
  repaints : w.repaints = (loaded && w.config.hasFrames).toNat

variable {v w : Window} {d : Deed} {b : Bool}

/-! ## Before the window is closed -/

theorem OneChain.becomes {i : ProgramInfo} {runs : Bool} (h : w.OneChain b)
    (hv : w.Becomes v i runs) : v.OneChain (b || runs) where
  emulating := by rw [hv.emulating, h.emulating]
  starts := by
    rw [hv.starts, h.starts, h.emulating]
    cases b <;> cases runs <;> rfl
  repaints := by
    rw [hv.repaints, h.repaints, h.emulating, hv.config]
    cases b <;> cases runs <;> cases w.config.hasFrames <;> rfl

theorem loads_reload_of_path {path : String} (h : w.session.path = some path) (tree : FileTree) :
    w.loads (.reload tree) = (w.session.load tree path).succeeded := by
  rw [loads, Session.reload_of_path h]

theorem loads_reload_of_no_path (h : w.session.path = none) (tree : FileTree) :
    w.loads (.reload tree) = false := by
  rw [loads, Session.reload_of_no_path h]
  rfl

/-- **One deed.** -/
theorem OneChain.comes (h : w.OneChain b) (hc : w.Comes v d) : v.OneChain (b || w.loads d) := by
  cases hc with
  | load hv => exact h.becomes hv
  | reload hpath hv =>
    rw [loads_reload_of_path hpath]
    exact h.becomes hv
  | noReload hpath hv =>
    rw [loads_reload_of_no_path hpath]
    exact h.becomes hv
  | repaint _ hv => exact h.becomes hv
  | lastRepaint hstopped hv =>
    -- with nothing running, or no frames, no repaint waits that could be the last
    have hnone : (b && w.config.hasFrames) = false := h.emulating ▸ hstopped
    have hagain := (h.becomes hv).repaints
    rw [Bool.or_false, hv.config, hnone, repaints_schedule] at hagain
    exact absurd hagain (Nat.succ_ne_zero _)
  | other hv => exact h.becomes hv

theorem OneChain.acts (h : w.OneChain b) {as : List WindowAct} (has : ∀ a ∈ as, a ≠ .close) :
    (w.acts as).OneChain (b || w.everLoads as) := by
  induction as generalizing w b with
  | nil =>
    rw [everLoads, Bool.or_false]
    exact h
  | cons a as ih =>
    obtain ⟨ha, hlater⟩ := List.forall_mem_cons.mp has
    rw [everLoads, ← Bool.or_assoc]
    exact ih (h.comes (w.comes_act ha)) hlater

theorem oneChain_initial (config : HostConfig) (seed : Nat) (clock : Clock Float) :
    (initial config seed clock).OneChain false :=
  ⟨rfl, rfl, rfl⟩

theorem config_atStart (config : HostConfig) (seed : Nat) (clock : Clock Float) (asks : Bool) :
    (atStart config seed clock asks).config = config := by
  cases asks <;> rfl

theorem oneChain_atStart (config : HostConfig) (seed : Nat) (clock : Clock Float) (asks : Bool) :
    (atStart config seed clock asks).OneChain false := by
  have hinitial := oneChain_initial config seed clock
  cases asks with
  | false => exact hinitial
  | true =>
    refine ⟨hinitial.emulating, hinitial.starts, ?_⟩
    rw [atStart, if_pos rfl, repaints_schedule, hinitial.repaints]
    rfl

/-! ## After it was closed -/

/-- Nothing but a program that is loaded makes the machine run. -/
theorem Comes.emulating (hc : w.Comes v d) : v.emulating = (w.emulating || w.loads d) := by
  cases hc with
  | load hv => exact hv.emulating
  | reload hpath hv =>
    rw [loads_reload_of_path hpath]
    exact hv.emulating
  | noReload hpath hv =>
    rw [loads_reload_of_no_path hpath]
    exact hv.emulating
  | repaint _ hv => exact hv.emulating
  | lastRepaint _ hv => exact hv.emulating
  | other hv => exact hv.emulating

theorem stopped_acts (h : w.emulating = false) {as : List WindowAct}
    (hnone : w.everLoads as = false) : (w.acts as).emulating = false := by
  induction as generalizing w with
  | nil => exact h
  | cons a as ih =>
    obtain ⟨hload, hlater⟩ := Bool.or_eq_false_iff.mp hnone
    refine ih ?_ hlater
    by_cases ha : a = .close
    · rw [ha]
      rfl
    · rw [(w.comes_act ha).emulating, h, hload]
      rfl

/-- A repaint in a window that runs nothing goes away, and that is all. -/
theorem act_repaint_of_stopped (h : w.emulating = false) {n : Nat} {s : Scheduled}
    (hs : w.pending[n]? = some s) (ht : s.task = .renderPass) (tree : FileTree) (choice : String) :
    w.act (.task n tree choice) = { w with pending := w.pending.eraseIdx n } := by
  have hkept : renderPass { w with pending := w.pending.eraseIdx n } = _ := renderPass_of_stopped h
  unfold act
  dsimp only
  rw [hs]
  dsimp only
  rw [ht, runTask]
  exact hkept

/-- **One thread, one chain of repaints.** Whatever happens before a window is closed, as many
threads were started as repaints wait: one once a program was loaded, and none before. After it was
closed the repaint that waits schedules nothing and paints nothing when its turn comes. Only a host
without frames in a second has no repaint that waits: it fails before it has put off the first. -/
theorem one_chain (config : HostConfig) (seed : Nat) (clock : Clock Float) (asks : Bool)
    {as : List WindowAct} (has : ∀ a ∈ as, a ≠ .close) :
    let w := (atStart config seed clock asks).acts as
    let loaded := (atStart config seed clock asks).everLoads as
    (w.starts = if loaded then 1 else 0) ∧
      (config.targetFps ≠ 0 → w.repaints = if loaded then 1 else 0) ∧
      ∀ bs, w.close.everLoads bs = false →
        let v := w.close.acts bs
        ∀ n s tree choice, v.pending[n]? = some s → s.task = .renderPass →
          v.act (.task n tree choice) = { v with pending := v.pending.eraseIdx n } := by
  intro w loaded
  have hchain : w.OneChain loaded := (oneChain_atStart config seed clock asks).acts has
  have hcount : loaded.toNat = if loaded then 1 else 0 := by cases loaded <;> rfl
  refine ⟨hchain.starts.trans hcount, ?_, ?_⟩
  · intro hfps
    obtain ⟨hconfig, -⟩ := (atStart config seed clock asks).settings_acts as
    have hframes : w.config.hasFrames = true := by
      rw [hconfig, config_atStart]
      exact decide_eq_true hfps
    rw [hchain.repaints, hframes, Bool.and_true]
    exact hcount
  · intro bs hnone v n s tree choice hs ht
    exact act_repaint_of_stopped (stopped_acts rfl hnone) hs ht tree choice

/-! ## A program that is loaded twice -/

open SessionRun (zeroTree read_zeroTree)

theorem loads_load_of_ok {tree : FileTree} {path : String} {image : List UInt8}
    (h : tree.read path = .ok image) : w.loads (.load tree path) = true := by
  rw [loads, w.session.load_of_ok h]
  rfl

/-- A program is loaded, and then once more. -/
def loadedTwice : List WindowAct :=
  [.load zeroTree "a", .load zeroTree "a"]

theorem repainting_loadedTwice {config : HostConfig} (hframes : config.hasFrames = true)
    (seed : Nat) (clock : Clock Float) :
    ((initial config seed clock).acts loadedTwice).Repainting := by
  obtain ⟨hfirst, -⟩ :=
    act_load_of_stopped (w := initial config seed clock) read_zeroTree rfl hframes rfl
  exact repainting_load hfirst read_zeroTree

theorem everLoads_loadedTwice (config : HostConfig) (seed : Nat) (clock : Clock Float) :
    (initial config seed clock).everLoads loadedTwice = true := by
  rw [loadedTwice, everLoads, deed_load, loads_load_of_ok read_zeroTree]
  rfl

/-- One thread and one repaint, which comes to nothing once the window is closed. -/
theorem one_chain_loadedTwice :
    (∀ a ∈ loadedTwice, a ≠ .close) ∧ ({} : HostConfig).targetFps ≠ 0 ∧
      ((atStart {} 0 (.ofList 0.0 []) false).acts loadedTwice).starts = 1 ∧
      ((atStart {} 0 (.ofList 0.0 []) false).acts loadedTwice).repaints = 1 ∧
      (((atStart {} 0 (.ofList 0.0 []) false).acts loadedTwice).close.act
        (.task 0 zeroTree "")).pending = [] := by
  have hopen : ∀ a ∈ loadedTwice, a ≠ .close := by simp [loadedTwice]
  have hloaded : (atStart {} 0 (.ofList 0.0 []) false).everLoads loadedTwice = true :=
    everLoads_loadedTwice {} 0 (.ofList 0.0 [])
  have hwaiting : ((atStart {} 0 (.ofList 0.0 []) false).acts loadedTwice).close.pending =
      [⟨_, .renderPass⟩] := (repainting_loadedTwice rfl 0 (.ofList 0.0 [])).waiting
  have hfps : ({} : HostConfig).targetFps ≠ 0 := by decide
  obtain ⟨hstarts, hrepaints, hclosed⟩ := one_chain {} 0 (.ofList 0.0 []) false hopen
  have hrepaints := hrepaints hfps
  rw [hloaded, if_pos rfl] at hstarts hrepaints
  have hlast := congrArg pending
    (hclosed [] rfl 0 _ zeroTree "" (congrArg (·[0]?) hwaiting) rfl)
  refine ⟨hopen, hfps, hstarts, hrepaints, hlast.trans ?_⟩
  exact congrArg (·.eraseIdx 0) hwaiting

end Chip8.Window
