import Chip8.Proofs.Machine.DirtyMark
import Chip8.Proofs.Session.Acts
import Mathlib

/-!
# Handing the picture out

A host shows the frames that a session hands out. `takeFrame` hands one out when the screen is
marked as drawn on, so what matters is that nothing changes the picture and leaves no mark. No
instruction does (`screen_of_execute`); the restart of a machine does, at every load and reload: it
darkens the picture and takes the mark away. A host that darkens its own picture with each restart
shows what the machine shows; one that only shows what it is handed keeps an old picture.

* `frame_of_no_frame`: what the machine shows when no frame is handed out.
* `stale_frame`: a host that shows what it was handed last can be wrong.
-/

namespace Chip8

/-! ## Cycles and frames -/

namespace Machine

theorem screen_of_cycleAt {τ : Type} [Seconds τ] (m : Machine τ) (now : τ) :
    m.screen.Marked (m.cycleAt now).2.screen :=
  (m.noted (.measured now)).screen_of_step

end Machine

namespace Session

variable {τ : Type} [Seconds τ]

theorem screen_of_runCycles (n : Nat) (r : FrameRun τ) :
    r.session.machine.screen.Marked (runCycles n r).session.machine.screen := by
  induction n generalizing r with
  | zero => exact .inl rfl
  | succ n ih =>
    have hcycle := r.session.machine.screen_of_cycleAt r.clock.read.1
    rw [runCycles]
    dsimp only
    split
    · exact hcycle
    · exact hcycle.trans (ih _)

theorem screen_of_runFrame (s : Session τ) (clock : Clock τ) (n : Nat) :
    s.machine.screen.Marked (s.runFrame clock n).session.machine.screen := by
  unfold runFrame
  split
  · exact screen_of_runCycles n _
  · exact .inl rfl

end Session

/-! ## A run -/

namespace SessionRun

variable {τ : Type} [Seconds τ]

/-- The last frame that a sequence of acts hands out, `last` if it hands out none. -/
def lastFrame (r : SessionRun τ) (last : Frame) : List SessionAct → Frame
  | [] => last
  | a :: as => (r.act a).lastFrame ((r.frame? a).getD last) as

/-- Was the machine put back since a frame was handed out last? `since` says whether it was, before
the sequence began. -/
def restarted (r : SessionRun τ) (since : Bool) : List SessionAct → Bool
  | [] => since
  | a :: as => (r.act a).restarted ((r.frame? a).isNone && (since || r.restarts a)) as

/-- What the machine of an unmarked screen shows: the last frame handed out, or nothing at all if
the machine was put back since. -/
def HandedOff (r : SessionRun τ) (last : Frame) (since : Bool) : Prop :=
  r.session.machine.screen.dirty = false →
    r.session.machine.screen.frame = if since then Frame.blank else last

variable {r q : SessionRun τ} {last : Frame} {since : Bool}

omit [Seconds τ] in
/-- What changes the picture no further than with a mark keeps what is known of it. -/
theorem HandedOff.of_marked (h : r.HandedOff last since)
    (hm : r.session.machine.screen.Marked q.session.machine.screen) : q.HandedOff last since := by
  intro hd
  rcases hm with hm | hm
  · rw [hm] at hd ⊢
    exact h hd
  · rw [hm] at hd
    cases hd

/-- An act that hands nothing out and puts nothing back. -/
theorem HandedOff.act_of_marked {a : SessionAct} (h : r.HandedOff last since)
    (hf : r.frame? a = none) (hr : r.restarts a = false)
    (hm : r.session.machine.screen.Marked (r.act a).session.machine.screen) :
    (r.act a).HandedOff ((r.frame? a).getD last)
      ((r.frame? a).isNone && (since || r.restarts a)) := by
  have hsince : ((r.frame? a).isNone && (since || r.restarts a)) = since := by
    rw [hf, hr, Bool.or_false]
    rfl
  rw [hsince, hf]
  exact h.of_marked hm

/-- An act that puts the machine back. -/
theorem handedOff_of_restarts {a : SessionAct} (hf : r.frame? a = none)
    (hr : r.restarts a = true) :
    (r.act a).HandedOff ((r.frame? a).getD last)
      ((r.frame? a).isNone && (since || r.restarts a)) := by
  have hsince : ((r.frame? a).isNone && (since || r.restarts a)) = true := by
    rw [hf, hr, Bool.or_true]
    rfl
  rw [hsince]
  intro _
  rw [screen_of_restarts hr]
  rfl

/-- The frame that is handed out is the picture, and then the screen bears no mark. -/
theorem handedOff_takeFrame (h : r.HandedOff last since) :
    (r.act .takeFrame).HandedOff ((r.frame? .takeFrame).getD last)
      ((r.frame? .takeFrame).isNone && (since || r.restarts .takeFrame)) := by
  cases hd : r.session.machine.screen.dirty with
  | false =>
    have htake := Session.takeFrame_of_unmarked hd
    exact h.act_of_marked (congrArg Prod.fst htake) rfl
      (.inl (congrArg (·.2.machine.screen) htake))
  | true =>
    have htake := Session.takeFrame_of_marked hd
    have hframe : r.frame? .takeFrame = some r.session.machine.screen.frame :=
      congrArg Prod.fst htake
    have hscreen : (r.act .takeFrame).session.machine.screen =
        ⟨r.session.machine.screen.frame, false⟩ := congrArg (·.2.machine.screen) htake
    rw [hframe]
    intro _
    rw [hscreen]
    rfl

/-- **What one act leaves known of the picture.** -/
theorem HandedOff.act (h : r.HandedOff last since) (a : SessionAct) :
    (r.act a).HandedOff ((r.frame? a).getD last)
      ((r.frame? a).isNone && (since || r.restarts a)) := by
  cases a with
  | load tree path => exact handedOff_of_restarts rfl rfl
  | reload tree =>
    cases hp : r.session.path with
    | some path =>
      have hr : r.restarts (.reload tree) = true := by rw [restarts, hp]; rfl
      exact handedOff_of_restarts rfl hr
    | none =>
      have hr : r.restarts (.reload tree) = false := by rw [restarts, hp]; rfl
      have hs : (r.act (.reload tree)).session = r.session :=
        congrArg SessionLoad.session (Session.reload_of_no_path hp tree)
      exact h.act_of_marked rfl hr (.inl (by rw [hs]))
  | runFrame n => exact h.act_of_marked rfl rfl (r.session.screen_of_runFrame r.clock n)
  | takeFrame => exact handedOff_takeFrame h
  | key code down => exact h.act_of_marked rfl rfl (.inl rfl)
  | pause value => exact h.act_of_marked rfl rfl (.inl rfl)

theorem HandedOff.acts (h : r.HandedOff last since) (as : List SessionAct) :
    (r.acts as).HandedOff (r.lastFrame last as) (r.restarted since as) := by
  induction as generalizing r last since with
  | nil => exact h
  | cons a as ih => exact ih (h.act a)

theorem handedOff_initial (seed : Nat) (clock : Clock τ) :
    (initial seed clock).HandedOff Frame.blank false :=
  fun _ => rfl

/-- **What the machine shows when no frame is handed out**: the last frame that was, dark if none
was, unless a load or a reload put the machine back since; then the picture is dark. So a host that
shows what it was handed last shows the picture just if the machine was not put back since, or what
it shows is dark anyway. -/
theorem frame_of_no_frame (seed : Nat) (clock : Clock τ) (as : List SessionAct)
    (h : ((initial seed clock).acts as).session.takeFrame.1 = none) :
    ((initial seed clock).acts as).session.machine.screen.frame =
        (if (initial seed clock).restarted false as then Frame.blank
          else (initial seed clock).lastFrame Frame.blank as) ∧
      (((initial seed clock).acts as).session.machine.screen.frame =
          (initial seed clock).lastFrame Frame.blank as ↔
        (initial seed clock).restarted false as = false ∨
          (initial seed clock).lastFrame Frame.blank as = Frame.blank) := by
  have hframe := (handedOff_initial seed clock).acts as (Session.takeFrame_eq_none_iff.mp h)
  refine ⟨hframe, ?_⟩
  rw [hframe]
  cases (initial seed clock).restarted false as with
  | false => simp
  | true => simp [eq_comm]

/-! ## A stale picture -/

/-- A program that draws the digit zero. -/
def zeroDrawing : List UInt8 := [0x60, 0x00, 0xF0, 0x29, 0xD0, 0x05, 0x12, 0x06]

/-- The program in the file `a`. -/
def zeroTree : FileTree :=
  ⟨[(FileTree.workingDirectory, .directory), ([".", "a"], .file zeroDrawing)]⟩

theorem read_zeroTree : zeroTree.read "a" = .ok zeroDrawing := by cbv

/-- The digit is drawn and handed out, and the program is loaded again. -/
def drawnAgain : List SessionAct :=
  [.load zeroTree "a", .runFrame 3, .takeFrame, .load zeroTree "a"]

theorem screen_drawnAgain (seed : Nat) (clock : Clock Rat) :
    ((initial seed clock).acts drawnAgain).session.machine.screen = .initial :=
  screen_of_restarts (r := (initial seed clock).acts [.load zeroTree "a", .runFrame 3, .takeFrame])
    (a := .load zeroTree "a") rfl

theorem takeFrame_drawnAgain (seed : Nat) (clock : Clock Rat) :
    ((initial seed clock).acts drawnAgain).session.takeFrame.1 = none := by
  rw [Session.takeFrame_eq_none_iff, screen_drawnAgain]
  rfl

theorem frame_of_no_frame_drawnAgain :
    ((initial 0 (.ofList (0 : Rat) [])).acts drawnAgain).session.takeFrame.1 = none ∧
      ((initial 0 (.ofList (0 : Rat) [])).acts drawnAgain).session.machine.screen.frame =
        if (initial 0 (.ofList (0 : Rat) [])).restarted false drawnAgain then Frame.blank
        else (initial 0 (.ofList (0 : Rat) [])).lastFrame Frame.blank drawnAgain :=
  ⟨takeFrame_drawnAgain 0 _, (frame_of_no_frame 0 _ drawnAgain (takeFrame_drawnAgain 0 _)).1⟩

/-- The frame that was handed out shows the digit. -/
theorem lastFrame_drawnAgain :
    (initial 0 (.ofList (0 : Rat) [])).lastFrame Frame.blank drawnAgain ≠ Frame.blank := by
  have hload := (Session.initial 0 : Session Rat).load_of_read read_zeroTree
  show ((((Session.initial 0).load zeroTree "a").session.runFrame
    (.ofList (0 : Rat) []) 3).session.takeFrame.1).getD Frame.blank ≠ Frame.blank
  rw [hload]
  decide +kernel

/-- **A host that shows what it was handed last can be wrong**: the digit stays, and the machine
shows nothing. -/
theorem stale_frame :
    ¬ ∀ (seed : Nat) (clock : Clock Rat) (as : List SessionAct),
      ((initial seed clock).acts as).session.takeFrame.1 = none →
      ((initial seed clock).acts as).session.machine.screen.frame =
        (initial seed clock).lastFrame Frame.blank as := by
  intro hall
  have hframe := hall 0 (.ofList 0 []) drawnAgain (takeFrame_drawnAgain 0 _)
  rw [screen_drawnAgain] at hframe
  exact lastFrame_drawnAgain hframe.symm

end SessionRun

end Chip8
