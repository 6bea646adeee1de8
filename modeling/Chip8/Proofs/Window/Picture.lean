import Chip8.Proofs.Window.Acts

/-!
# What the window shows

The canvas is repainted when a repaint finds a frame to take, so it shows the frame that was painted
last. The machine's picture is that frame as well, as long as everything that changes it leaves a
mark for the next repaint. Putting the machine back does not: it darkens the screen and takes the
mark away. A reload that succeeds darkens the canvas by hand; a load, and a reload that fails, leave
it as it is. `Impression` is what these acts leave known: the frame on the canvas, and whether the
machine was put back behind it.

* `Window.shown_after_pass`: the canvas and the machine's picture after every repaint.
* `Window.stale_picture`: they can differ.
-/

namespace Chip8

/-- What is known of the picture from what happened to a window. -/
structure Impression where
  /-- The frame that was painted last. -/
  painted : Frame
  /-- The machine was put back since, and nothing was painted. -/
  putBack : Bool

/-- The canvas shows the machine's picture, pixel by pixel. -/
def Window.Faithful (w : Window) (config : HostConfig) : Prop :=
  ∀ p : Point, w.renderer.fill? p =
    some (if w.session.machine.screen.frame.pixel p.1 p.2 then config.pixelColor
      else config.backgroundColor)

namespace Impression

/-- A dark picture of a new machine. -/
def initial : Impression :=
  ⟨Frame.blank, false⟩

/-- The machine is put back behind the picture. -/
def behind (i : Impression) : Impression :=
  { i with putBack := true }

theorem behind_mk (frame : Frame) (b : Bool) : behind ⟨frame, b⟩ = ⟨frame, true⟩ := rfl

/-- The machine's picture, if its screen bears no mark. -/
def frame (i : Impression) : Frame :=
  if i.putBack then Frame.blank else i.painted

/-- The canvas has the machine's picture, unless that went dark behind one that is not. -/
theorem painted_eq_frame_iff {i : Impression} :
    i.painted = i.frame ↔ i.putBack = false ∨ i.painted = Frame.blank := by
  unfold frame
  cases i.putBack <;> simp

/-- What is known after a deed in a window. -/
def after (i : Impression) (w : Window) : Deed → Impression
  | .load _ _ => i.behind
  | .reload tree =>
    if w.session.path.isNone then i
    else
      match (w.session.reload tree).answer with
      | .ok true => ⟨Frame.blank, false⟩
      | _ => i.behind
  | .repaint =>
    if w.emulating then
      match w.session.takeFrame.1 with
      | some frame => ⟨frame, false⟩
      | none => i
    else i
  | .other => i

/-- **The impression is right** of a scene: the canvas shows the frame, and the screen has the
picture that it should have. -/
structure Tracks (i : Impression) (config : HostConfig) (v : Scene) : Prop where
  config : v.renderer.config = config
  shows : v.renderer.Shows i.painted
  frame : v.screen.dirty = false → v.screen.frame = i.frame

variable {i : Impression} {config : HostConfig} {v v' : Scene} {w : Window}

/-! ## What a deed leaves known -/

/-- What changes the picture no further than with a mark. -/
theorem Tracks.of_quiet (h : i.Tracks config v) (hq : v.Quiet v') : i.Tracks config v' where
  config := hq.config.trans h.config
  shows := hq.picture _ h.shows
  frame hd := by
    rcases hq.screen with hs | hs
    · rw [hs] at hd ⊢
      exact h.frame hd
    · rw [hs] at hd
      cases hd

/-- A screen that is put back. -/
theorem Tracks.behind (h : i.Tracks config v) : i.behind.Tracks config ⟨v.renderer, .initial⟩ :=
  ⟨h.config, h.shows, fun _ => rfl⟩

/-- A frame that is painted, of a screen that then has it and no mark. -/
theorem Tracks.painted (h : i.Tracks config v) (frame : Frame) :
    Tracks ⟨frame, false⟩ config ⟨v.renderer.render frame, ⟨frame, false⟩⟩ :=
  ⟨(Renderer.config_render _ _).trans h.config, Renderer.shows_render h.shows.toLaid frame,
    fun _ => rfl⟩

/-- **What one deed leaves known.** -/
theorem Tracks.leaves (h : i.Tracks config w.scene) {d : Deed} (hv : w.Leaves v d) :
    (i.after w d).Tracks config v := by
  cases d with
  | load tree path =>
    have hscene : v = ⟨w.renderer, .initial⟩ := hv
    rw [hscene]
    exact h.behind
  | reload tree =>
    have hscene : v = w.reloaded tree := hv
    rw [hscene, Window.reloaded, after]
    split
    · exact h
    · cases (w.session.reload tree).answer with
      | error e => exact h.behind
      | ok loaded =>
        cases loaded with
        | false => exact h.behind
        -- darkened by hand, where a load that succeeds leaves the picture
        | true => exact h.painted Frame.blank
  | repaint =>
    have hscene : v = w.repainted := hv
    rw [hscene, Window.repainted, after]
    split
    · cases hd : w.session.machine.screen.dirty with
      | false =>
        rw [Session.takeFrame_of_unmarked hd]
        exact h
      | true =>
        rw [Session.takeFrame_of_marked hd]
        exact h.painted _
    · exact h
  | other => exact h.of_quiet hv

theorem after_load (tree : FileTree) (path : String) :
    i.after w (.load tree path) = i.behind := rfl

/-- A repaint with nothing new to see. -/
theorem after_of_unmarked (h : w.session.machine.screen.dirty = false) :
    i.after w .repaint = i := by
  have hafter : i.after w .repaint =
      if w.emulating then
        match w.session.takeFrame.1 with
        | some frame => ⟨frame, false⟩
        | none => i
      else i := rfl
  rw [hafter, Session.takeFrame_of_unmarked h, ite_self]

/-- A repaint of a screen that was drawn on. -/
theorem after_of_marked (hrunning : w.emulating = true)
    (h : w.session.machine.screen.dirty = true) :
    i.after w .repaint = ⟨w.session.machine.screen.frame, false⟩ := by
  unfold after
  rw [if_pos hrunning, Session.takeFrame_of_marked h]

/-- The canvas has the frame that was painted last. -/
theorem Tracks.fills (h : i.Tracks config w.scene) (p : Point) :
    w.renderer.fill? p = some (Renderer.color config (i.painted.pixel p.1 p.2)) := by
  rw [← h.config]
  exact h.shows.fills p

theorem Tracks.faithful_iff (h : i.Tracks config w.scene)
    (hcolor : config.pixelColor ≠ config.backgroundColor)
    (hunmarked : w.scene.screen.dirty = false) : w.Faithful config ↔ i.painted = i.frame := by
  have hframe : w.session.machine.screen.frame = i.frame := h.frame hunmarked
  unfold Window.Faithful
  rw [hframe]
  constructor
  · intro hf
    refine Frame.eq_of_plane (funext fun p => ?_)
    exact Renderer.color_inj hcolor (Option.some.inj ((h.fills p).symm.trans (hf p)))
  · intro hf p
    rw [h.fills p, ← hf]
    rfl

theorem tracks_initial (config : HostConfig) (seed : Nat) (clock : Clock Float) :
    initial.Tracks config (Window.initial config seed clock).scene :=
  ⟨Renderer.config_initial config, Renderer.shows_initial config, fun _ => rfl⟩

end Impression

namespace Window

/-- What is known of the picture after a sequence of acts, from what is known before. -/
def impression (w : Window) (i : Impression) : List WindowAct → Impression
  | [] => i
  | a :: as => (w.act a).impression (i.after w (w.deed a)) as

theorem impression_concat (w : Window) (i : Impression) (as : List WindowAct) (a : WindowAct) :
    w.impression i (as ++ [a]) =
      (w.impression i as).after (w.acts as) ((w.acts as).deed a) := by
  induction as generalizing w i with
  | nil => rfl
  | cons b as ih => exact ih _ _

/-- **The impression stays right** whatever happens. -/
theorem tracks_acts {w : Window} {i : Impression} {config : HostConfig}
    (h : i.Tracks config w.scene) (as : List WindowAct) :
    (w.impression i as).Tracks config (w.acts as).scene := by
  induction as generalizing w i with
  | nil => exact h
  | cons a as ih => exact ih (h.leaves (w.leaves_act a))

/-- What is known after a repaint that is made while the machine is run. -/
theorem tracks_after_pass (config : HostConfig) (seed : Nat) (clock : Clock Float)
    {as : List WindowAct} {a : WindowAct}
    (hpass : ((initial config seed clock).acts as).Passes
      (((initial config seed clock).acts as).deed a)) :
    ((initial config seed clock).impression .initial (as ++ [a])).Tracks config
        ((initial config seed clock).acts (as ++ [a])).scene ∧
      ((initial config seed clock).acts (as ++ [a])).scene.screen.dirty = false := by
  refine ⟨tracks_acts (Impression.tracks_initial config seed clock) (as ++ [a]), ?_⟩
  have hlast : (initial config seed clock).acts (as ++ [a]) =
      ((initial config seed clock).acts as).act a := List.foldl_concat ..
  rw [hlast]
  exact unmarked_of_passes hpass (leaves_act _ a)

/-- **What the window shows after every repaint** that is made while the machine is run, whatever
happened before it: the canvas has the frame that was painted last. The machine's picture is the same
frame, or dark if a load, or a reload that failed, put the machine back since. So the window shows
the machine's picture just if none did, or if what it shows is dark anyway. -/
theorem shown_after_pass (config : HostConfig) (seed : Nat) (clock : Clock Float)
    (hcolor : config.pixelColor ≠ config.backgroundColor) (as : List WindowAct) (a : WindowAct)
    (hpass : ((initial config seed clock).acts as).Passes
      (((initial config seed clock).acts as).deed a)) :
    let w := (initial config seed clock).acts (as ++ [a])
    let i := (initial config seed clock).impression .initial (as ++ [a])
    (∀ p : Point, w.renderer.fill? p = some (Renderer.color config (i.painted.pixel p.1 p.2))) ∧
      w.session.machine.screen.frame = (if i.putBack then Frame.blank else i.painted) ∧
      (w.Faithful config ↔ i.putBack = false ∨ i.painted = Frame.blank) := by
  intro w i
  obtain ⟨htracks, hunmarked⟩ := tracks_after_pass config seed clock hpass
  refine ⟨htracks.fills, htracks.frame hunmarked, ?_⟩
  exact (htracks.faithful_iff hcolor hunmarked).trans Impression.painted_eq_frame_iff

/-! ## A stale picture -/

open SessionRun (zeroTree zeroDrawing read_zeroTree)

/-- Painting what was drawn, and loading again. -/
theorem impression_load_again {w : Window} (h : w.Repainting)
    (hd : w.session.machine.screen.dirty = true) (i : Impression) (tree : FileTree)
    (path choice : String) :
    w.impression i [.task 0 tree choice, .load tree path] =
      ⟨w.session.machine.screen.frame, true⟩ := by
  simp only [impression, deed_load, Impression.after_load, h.deed_task,
    Impression.after_of_marked h.running hd, Impression.behind_mk]

/-- A new window with the usual settings. -/
def usual : Window :=
  initial {} 0 (.ofList 0.0 [])

/-- A program is loaded and draws a digit, which is painted, and is loaded again. -/
def loadedAgain : List WindowAct :=
  [.load zeroTree "a", .frame 0.0, .task 0 zeroTree "", .load zeroTree "a"]

/-- The next repaint. -/
def nextRepaint : WindowAct :=
  .task 0 zeroTree ""

/-- The session after the first frame. -/
def drawn : Session Float :=
  ((usual.session.started zeroDrawing "a").runFrame usual.clock
    (usual.config.frameShare usual.speed).toNat).session

theorem frame_drawn : drawn.machine.screen.frame ≠ Frame.blank := by
  decide +kernel

theorem dirty_drawn : drawn.machine.screen.dirty = true := by
  have hmarked : Screen.initial.Marked drawn.machine.screen := by
    rw [← Session.screen_started usual.session zeroDrawing "a", drawn]
    exact Session.screen_of_runFrame ..
  -- without a mark the screen would be the one that the load left, which is dark
  rcases hmarked with hsame | hdirty
  · exact absurd (congrArg Screen.frame hsame) frame_drawn
  · exact hdirty

/-- The window once the digit was drawn. -/
def drawnWindow : Window :=
  usual.acts [.load zeroTree "a", .frame 0.0]

theorem repainting_drawnWindow : drawnWindow.Repainting ∧ drawnWindow.session = drawn := by
  obtain ⟨hrepainting, hsession, hclock, hconfig, hspeed⟩ :=
    act_load_of_stopped (w := usual) read_zeroTree rfl rfl rfl
  have hframe := hrepainting.act_frame 0.0
  rw [hsession, hclock, hconfig, hspeed] at hframe
  exact hframe

theorem repainting_loadedAgain : (usual.acts loadedAgain).Repainting :=
  repainting_load (repainting_task repainting_drawnWindow.1 "") read_zeroTree

theorem unmarked_loadedAgain : (usual.acts loadedAgain).session.machine.screen.dirty = false :=
  congrArg (·.screen.dirty) (scene_load (drawnWindow.act (.task 0 zeroTree "")) zeroTree "a")

/-- The digit was painted, and the machine put back behind it. -/
theorem impression_loadedAgain :
    usual.impression .initial (loadedAgain ++ [nextRepaint]) =
      ⟨drawn.machine.screen.frame, true⟩ := by
  obtain ⟨hrepainting, hsession⟩ := repainting_drawnWindow
  have hbefore := impression_load_again hrepainting (by rw [hsession]; exact dirty_drawn)
    Impression.initial.behind zeroTree "a" ""
  rw [hsession] at hbefore
  have hlast : usual.impression .initial loadedAgain = _ := hbefore
  rw [impression_concat, hlast, nextRepaint, repainting_loadedAgain.deed_task,
    Impression.after_of_unmarked unmarked_loadedAgain]

theorem usual_color : ({} : HostConfig).pixelColor ≠ ({} : HostConfig).backgroundColor := by
  decide

theorem passes_nextRepaint :
    (usual.acts loadedAgain).Passes ((usual.acts loadedAgain).deed nextRepaint) := by
  rw [nextRepaint, repainting_loadedAgain.deed_task]
  exact repainting_loadedAgain.running

theorem shown_after_pass_loadedAgain :
    ({} : HostConfig).pixelColor ≠ ({} : HostConfig).backgroundColor ∧
      (usual.acts loadedAgain).Passes ((usual.acts loadedAgain).deed nextRepaint) ∧
      (usual.acts (loadedAgain ++ [nextRepaint])).session.machine.screen.frame = Frame.blank := by
  have hshown := shown_after_pass {} 0 (.ofList 0.0 []) usual_color loadedAgain nextRepaint
    passes_nextRepaint
  refine ⟨usual_color, passes_nextRepaint, hshown.2.1.trans ?_⟩
  have himpression := impression_loadedAgain
  unfold usual at himpression
  rw [himpression]
  rfl

/-- **The window can show a picture that the machine no longer has.** -/
theorem stale_picture :
    ¬ ∀ (config : HostConfig) (seed : Nat) (clock : Clock Float),
      config.pixelColor ≠ config.backgroundColor → ∀ (as : List WindowAct) (a : WindowAct),
      ((initial config seed clock).acts as).Passes
        (((initial config seed clock).acts as).deed a) →
      ((initial config seed clock).acts (as ++ [a])).Faithful config := by
  intro hall
  have hfaithful := hall {} 0 (.ofList 0.0 []) usual_color loadedAgain nextRepaint
    passes_nextRepaint
  have htracks := tracks_after_pass {} 0 (.ofList 0.0 []) passes_nextRepaint
  have hframe := (htracks.1.faithful_iff usual_color htracks.2).mp hfaithful
  have himpression := impression_loadedAgain
  rw [usual] at himpression
  rcases Impression.painted_eq_frame_iff.mp hframe with hfresh | hblank
  · rw [himpression] at hfresh
    cases hfresh
  · rw [himpression] at hblank
    dsimp only at hblank
    exact frame_drawn hblank

end Window

end Chip8
