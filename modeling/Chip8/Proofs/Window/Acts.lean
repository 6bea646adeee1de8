import Chip8.Proofs.Host.Painting
import Chip8.Proofs.Session.HandOff
import Chip8.Window.Frames

/-!
# What happens to a window

Keys, the game controller, the toolkit's tasks and the thread that runs the machine come at a window
in any order; each of them is one `WindowAct`. Of the many ways to ask for a program or a repaint,
this module says once which of them an act comes to (`deed`), and what that leaves of the picture
and the screen (`scene`): loading puts the screen back and leaves the picture, reloading darkens
both, a repaint brings one to the other, and everything else draws on the screen with a mark, if at
all.

A handler is one step here. The thread may do a frame in the middle of it, but then the scene is the
one that a frame just after it leaves: no handler paints between putting the machine back and its
end, other than the dark picture of a reload, and the repaint that a load ends with finds nothing.

* `leaves_act`: the scene that one act leaves.
* `unmarked_of_passes`: a repaint leaves nothing new to see.
* `Repainting`: the chain of repaints that a first program starts goes on.
-/

namespace Chip8

/-- Something that happens to a window, with the files as they are and what the user chooses. -/
inductive WindowAct where
  /-- A key of the keyboard. -/
  | keyboard (tree : FileTree) (b : Binding) (name choice : String)
  /-- An event of the game controller. -/
  | pad (e : PadEvent)
  /-- A program is asked for by its path. -/
  | load (tree : FileTree) (path : String)
  /-- The toolkit runs one of the tasks that wait. -/
  | task (n : Nat) (tree : FileTree) (choice : String)
  /-- The thread that runs the machine does a frame. -/
  | frame (now : Float)
  /-- The close button. -/
  | close

/-- What an act comes to. -/
inductive Deed where
  | load (tree : FileTree) (path : String)
  | reload (tree : FileTree)
  | repaint
  /-- Nothing that loads or paints. -/
  | other

/-- The picture and the screen that it is a picture of. -/
structure Scene where
  renderer : Renderer
  screen : Screen

/-- **Nothing is changed behind the host's back**: the picture shows what it showed, and the screen
is marked if it was drawn on. -/
structure Scene.Quiet (v v' : Scene) : Prop where
  picture : ∀ frame, v.renderer.Shows frame → v'.renderer.Shows frame
  config : v'.renderer.config = v.renderer.config
  screen : v.screen.Marked v'.screen

theorem Scene.Quiet.refl (v : Scene) : v.Quiet v :=
  ⟨fun _ h => h, rfl, .inl rfl⟩

theorem Scene.Quiet.trans {u v w : Scene} (h : u.Quiet v) (h' : v.Quiet w) : u.Quiet w :=
  ⟨fun f hf => h'.picture f (h.picture f hf), h'.config.trans h.config, h.screen.trans h'.screen⟩

/-- A program is asked for, unless the user chose none. -/
def Deed.ofChoice (tree : FileTree) (choice : String) : Deed :=
  if choice = "" then .other else .load tree choice

def Action.deed (tree : FileTree) : Action → Deed
  | .reset => .reload tree
  | _ => .other

def Binding.deed (tree : FileTree) (choice : String) : Binding → Deed
  | .reload => .reload tree
  | .openDialog => .ofChoice tree choice
  | _ => .other

def Task.deed (tree : FileTree) (choice : String) : Task → Deed
  | .renderPass => .repaint
  | .openDialog => .ofChoice tree choice
  | .action a => a.deed tree

/-- The session once a program was loaded that could be read, and runs. -/
def Session.started (s : Session Float) (image : List UInt8) (path : String) : Session Float :=
  { s with
    machine := s.machine.load image (baseName path)
    path := some path
    trouble := none
    paused := false }

theorem Session.screen_started (s : Session Float) (image : List UInt8) (path : String) :
    (s.started image path).machine.screen = .initial := rfl

namespace Window

/-- The window after one act. -/
def act (w : Window) : WindowAct → Window
  | .keyboard tree b name choice => (w.keyboardEvent tree b name choice).window
  | .pad e => w.padEvent e
  | .load tree path => (w.load tree path).window
  | .task n tree choice =>
    match w.pending[n]? with
    | some s => ({ w with pending := w.pending.eraseIdx n }.runTask tree choice s.task).window
    | none => w
  | .frame now => if w.doesFrames then w.runFrame now else w
  | .close => w.close

/-- The window after a sequence of acts. -/
def acts (w : Window) (as : List WindowAct) : Window :=
  as.foldl act w

/-- What an act comes to in this window. -/
def deed (w : Window) : WindowAct → Deed
  | .keyboard tree b _ choice => b.deed tree choice
  | .load tree path => .load tree path
  | .task n tree choice =>
    match w.pending[n]? with
    | some s => s.task.deed tree choice
    | none => .other
  | _ => .other

/-- **A repaint is made while the machine is run**: by the toolkit, or by the load or the reload that
starts the thread. -/
def Passes (w : Window) : Deed → Prop
  | .load tree path => w.emulating = false ∧ (w.session.load tree path).answer = .ok true
  | .reload tree => w.emulating = false ∧ (w.session.reload tree).answer = .ok true
  | .repaint => w.emulating = true
  | .other => False

/-- What there is to see. -/
def scene (w : Window) : Scene :=
  ⟨w.renderer, w.session.machine.screen⟩

/-- What a reload leaves: a picture darkened by hand if it succeeds, and a screen that was put
back. -/
def reloaded (w : Window) (tree : FileTree) : Scene :=
  if w.session.path.isNone then w.scene
  else
    match (w.session.reload tree).answer with
    | .ok true => ⟨w.renderer.render Frame.blank, .initial⟩
    | _ => ⟨w.renderer, .initial⟩

/-- What a repaint leaves: the frame that there was to see on the canvas, and no mark. -/
def repainted (w : Window) : Scene :=
  if w.emulating then
    match w.session.takeFrame.1 with
    | some frame => ⟨w.renderer.render frame, w.session.takeFrame.2.machine.screen⟩
    | none => w.scene
  else w.scene

/-- **The scenes that a deed can leave.** -/
def Leaves (w : Window) (v : Scene) : Deed → Prop
  | .load _ _ => v = ⟨w.renderer, .initial⟩
  | .reload tree => v = w.reloaded tree
  | .repaint => v = w.repainted
  | .other => w.scene.Quiet v

variable (w : Window)

theorem deed_load (tree : FileTree) (path : String) :
    w.deed (.load tree path) = .load tree path := rfl

/-! ## Repaints -/

theorem scene_renderPass : w.renderPass.scene = w.repainted := by
  unfold renderPass repainted
  split
  · -- putting off the next repaint changes nothing to see
    have hscene : (if w.config.hasFrames then
        w.repaint.schedule w.config.repaintDelay .renderPass else w.repaint).scene =
          w.repaint.scene := by
      split <;> rfl
    rw [hscene]
    unfold repaint
    cases hd : w.session.machine.screen.dirty with
    | false =>
      rw [Session.takeFrame_of_unmarked hd]
      rfl
    | true =>
      rw [Session.takeFrame_of_marked hd]
      rfl
  · rfl

variable {w} in
/-- A screen without a mark is not painted. -/
theorem repainted_of_unmarked (h : w.scene.screen.dirty = false) : w.repainted = w.scene := by
  unfold repainted
  rw [Session.takeFrame_of_unmarked h]
  split <;> rfl

variable {w} in
theorem scene_startEmulation (h : w.scene.screen.dirty = false) :
    w.startEmulation.scene = w.scene := by
  unfold startEmulation
  dsimp only
  split
  · rfl
  · rw [scene_renderPass]
    exact repainted_of_unmarked h

/-! ## Programs -/

theorem scene_load (tree : FileTree) (path : String) :
    (w.load tree path).window.scene = ⟨w.renderer, .initial⟩ := by
  have hloaded : scene { w with session := (w.session.load tree path).session } =
      ⟨w.renderer, .initial⟩ := congrArg (Scene.mk _) (w.session.screen_load tree path)
  unfold load
  dsimp only
  split
  · exact (scene_startEmulation (congrArg (·.screen.dirty) hloaded)).trans hloaded
  · exact hloaded
  · exact hloaded

theorem scene_reload (tree : FileTree) : (w.reload tree).window.scene = w.reloaded tree := by
  unfold reload reloaded
  cases hpath : w.session.path with
  | none => rfl
  | some path =>
    have hloaded (r : Renderer) :
        scene { w with session := (w.session.reload tree).session, renderer := r } =
          ⟨r, .initial⟩ := by
      rw [Session.reload_of_path hpath]
      exact congrArg (Scene.mk r) (w.session.screen_load tree path)
    simp only [Option.isNone_some, Bool.false_eq_true, if_false]
    cases (w.session.reload tree).answer with
    | error e => exact hloaded w.renderer
    | ok loaded =>
      cases loaded with
      | false => exact hloaded w.renderer
      | true =>
        have hblank := hloaded (w.renderer.render Frame.blank)
        exact (scene_startEmulation (congrArg (·.screen.dirty) hblank)).trans hblank

/-- Asking for a file and what the user chooses. -/
theorem leaves_openDialog (tree : FileTree) (choice : String) :
    w.Leaves (w.openDialog tree choice).window.scene (.ofChoice tree choice) := by
  unfold openDialog Deed.ofChoice
  dsimp only
  split
  · exact .refl _
  · exact scene_load _ tree choice

/-! ## What the machine and the user do -/

/-- Telling the log and ringing the bell change nothing else. -/
theorem pass_eq (now : Float) (n : Notice) :
    ∃ bell journal, pass now w n = { w with bell, journal } := by
  unfold pass
  split
  · unfold toneSignal
    dsimp only
    split <;> exact ⟨_, _, rfl⟩
  · exact ⟨_, _, rfl⟩

theorem foldl_pass_eq (now : Float) (ns : Array Notice) :
    ∃ bell journal, ns.foldl (pass now) w = { w with bell, journal } := by
  rw [← Array.foldl_toList]
  generalize ns.toList = ns
  induction ns generalizing w with
  | nil => exact ⟨_, _, rfl⟩
  | cons n ns ih =>
    obtain ⟨bell, journal, hpass⟩ := w.pass_eq now n
    rw [List.foldl_cons, hpass]
    exact ih _

/-- A frame of instructions is one of the session. -/
theorem runFrame_eq (now : Float) :
    ∃ bell journal, w.runFrame now =
      { w with
        session := (w.session.runFrame w.clock (w.config.frameShare w.speed).toNat).session
        clock := (w.session.runFrame w.clock (w.config.frameShare w.speed).toNat).clock
        bell, journal } :=
  foldl_pass_eq _ now _

/-- It draws with a mark. -/
theorem quiet_runFrame (now : Float) : w.scene.Quiet (w.runFrame now).scene := by
  obtain ⟨bell, journal, hframe⟩ := w.runFrame_eq now
  rw [hframe]
  exact ⟨fun _ h => h, rfl, w.session.screen_of_runFrame w.clock _⟩

theorem scene_receive (c : PadCall) : (w.receive c).scene = w.scene := by
  cases c <;> rfl

theorem scene_padEvent (e : PadEvent) : (w.padEvent e).scene = w.scene := by
  unfold padEvent
  generalize eventCalls boundActions e = calls
  induction calls generalizing w with
  | nil => rfl
  | cons c calls ih => rw [List.foldl_cons, ih, scene_receive]

theorem scene_keyEvent (name : String) (down : Bool) : (w.keyEvent name down).scene = w.scene := by
  unfold keyEvent
  split <;> rfl

theorem scene_increaseSpeed : w.increaseSpeed.scene = w.scene := by
  unfold increaseSpeed
  split <;> rfl

theorem scene_decreaseSpeed : w.decreaseSpeed.scene = w.scene := by
  unfold decreaseSpeed
  split <;> rfl

theorem quiet_toggleScanlines : w.scene.Quiet w.toggleScanlines.scene :=
  ⟨fun _ h => h.toggleScanlines, w.renderer.config_toggleScanlines, .inl rfl⟩

variable {w} in
theorem quiet_of_scene_eq {v : Scene} (h : v = w.scene) : w.scene.Quiet v :=
  h ▸ .refl _

/-! ## Acts -/

theorem leaves_perform (tree : FileTree) (a : Action) :
    w.Leaves (w.perform tree a).window.scene (a.deed tree) := by
  cases a with
  | reset => exact w.scene_reload tree
  | pauseToggle => exact .refl _
  | speedIncrease => exact quiet_of_scene_eq w.scene_increaseSpeed
  | speedDecrease => exact quiet_of_scene_eq w.scene_decreaseSpeed
  | toggleScanlines => exact w.quiet_toggleScanlines

theorem leaves_keyboardEvent (tree : FileTree) (b : Binding) (name choice : String) :
    w.Leaves (w.keyboardEvent tree b name choice).window.scene (b.deed tree choice) := by
  cases b with
  | keyPress => exact quiet_of_scene_eq (w.scene_keyEvent name true)
  | keyRelease => exact quiet_of_scene_eq (w.scene_keyEvent name false)
  | reload => exact w.scene_reload tree
  | openDialog => exact w.leaves_openDialog tree choice
  | pause => exact .refl _
  | slower => exact quiet_of_scene_eq w.scene_decreaseSpeed
  | faster => exact quiet_of_scene_eq w.scene_increaseSpeed
  | scanlines => exact w.quiet_toggleScanlines
  | dump => exact .refl _

theorem leaves_runTask (tree : FileTree) (choice : String) (t : Task) :
    w.Leaves (w.runTask tree choice t).window.scene (t.deed tree choice) := by
  cases t with
  | renderPass => exact w.scene_renderPass
  | openDialog => exact w.leaves_openDialog tree choice
  | action a => exact w.leaves_perform tree a

/-- **What one act leaves to see.** -/
theorem leaves_act (a : WindowAct) : w.Leaves (w.act a).scene (w.deed a) := by
  cases a with
  | keyboard tree b name choice => exact w.leaves_keyboardEvent tree b name choice
  | pad e => exact quiet_of_scene_eq (w.scene_padEvent e)
  | load tree path => exact w.scene_load tree path
  | task n tree choice =>
    unfold act deed
    dsimp only
    cases w.pending[n]? with
    | none => exact .refl _
    | some s => exact leaves_runTask { w with pending := w.pending.eraseIdx n } tree choice s.task
  | frame now =>
    unfold act deed
    dsimp only
    split
    · exact w.quiet_runFrame now
    · exact .refl _
  | close => exact .refl _

variable {w} in
/-- **Once a repaint was made, there is nothing new to see.** -/
theorem unmarked_of_passes {d : Deed} {v : Scene} (hpass : w.Passes d) (h : w.Leaves v d) :
    v.screen.dirty = false := by
  cases d with
  | load tree path =>
    cases h
    rfl
  | reload tree =>
    -- with no program to load again there is nothing to answer yes to
    obtain ⟨-, hanswer⟩ := hpass
    cases hpath : w.session.path with
    | none =>
      rw [Session.reload_of_no_path hpath] at hanswer
      cases hanswer
    | some path =>
      have hv : v = w.reloaded tree := h
      rw [hv, reloaded, hpath, hanswer]
      rfl
  | repaint =>
    have hv : v = w.repainted := h
    have hrunning : w.emulating = true := hpass
    rw [hv, repainted, if_pos hrunning]
    cases hd : w.session.machine.screen.dirty with
    | false => rw [Session.takeFrame_of_unmarked hd]; exact hd
    | true => rw [Session.takeFrame_of_marked hd]
  | other => exact hpass.elim

/-! ## The chain of repaints -/

section

variable {w : Window}

/-- In a window that runs in frames, a repaint asks for the next. -/
theorem renderPass_of_frames (h : w.doesFrames = true) :
    w.renderPass = w.repaint.schedule w.config.repaintDelay .renderPass := by
  obtain ⟨hrunning, hframes⟩ := Bool.and_eq_true_iff.mp h
  rw [renderPass, if_pos hrunning, if_pos hframes]

/-- With nothing new to see it does no more than that. -/
theorem renderPass_of_unmarked (hdoes : w.doesFrames = true)
    (h : w.session.machine.screen.dirty = false) : ∃ labels, w.renderPass =
      { w with pending := w.pending ++ [⟨w.config.repaintDelay, .renderPass⟩], labels } := by
  rw [renderPass_of_frames hdoes, repaint, Session.takeFrame_of_unmarked h]
  exact ⟨_, rfl⟩

variable {tree : FileTree} {path : String} {image : List UInt8}

/-- The first program starts the thread and the chain of repaints. -/
theorem load_of_stopped (hread : tree.read path = .ok image) (hstopped : w.emulating = false)
    (hframes : w.config.hasFrames = true) :
    ∃ labels journal, (w.load tree path).window =
      { w with
        session := w.session.started image path
        emulating := true
        pending := w.pending ++ [⟨w.config.repaintDelay, .renderPass⟩]
        labels, journal } := by
  unfold load startEmulation
  rw [w.session.load_of_ok hread]
  simp only [setImageLabel, tell, record, updateStatus, hstopped, Bool.false_eq_true, if_false]
  refine (renderPass_of_unmarked ?_ rfl).imp fun _ hpass => ⟨_, hpass⟩
  exact hframes

/-- Later programs go on with both. -/
theorem load_of_running (hread : tree.read path = .ok image) (hrunning : w.emulating = true) :
    ∃ labels journal, (w.load tree path).window =
      { w with session := w.session.started image path, labels, journal } := by
  unfold load startEmulation
  rw [w.session.load_of_ok hread]
  simp only [setImageLabel, tell, record, hrunning]
  exact ⟨_, _, rfl⟩

/-- The machine is run, and the next repaint is all that waits. -/
structure Repainting (w : Window) : Prop where
  running : w.emulating = true
  frames : w.config.hasFrames = true
  waiting : w.pending = [⟨w.config.repaintDelay, .renderPass⟩]

theorem Repainting.doesFrames (h : w.Repainting) : w.doesFrames = true :=
  Bool.and_eq_true_iff.mpr ⟨h.running, h.frames⟩

theorem Repainting.deed_task (h : w.Repainting) (choice : String) :
    w.deed (.task 0 tree choice) = .repaint := by
  unfold deed
  rw [h.waiting]
  rfl

theorem Repainting.act_task (h : w.Repainting) (choice : String) :
    w.act (.task 0 tree choice) = renderPass { w with pending := [] } := by
  unfold act
  rw [h.waiting]
  rfl

theorem repainting_renderPass (hdoes : w.doesFrames = true) (hnone : w.pending = []) :
    w.renderPass.Repainting := by
  obtain ⟨hrunning, hframes⟩ := Bool.and_eq_true_iff.mp hdoes
  rw [renderPass_of_frames hdoes]
  refine ⟨hrunning, hframes, ?_⟩
  show w.pending ++ [_] = _
  rw [hnone]
  rfl

theorem repainting_task (h : w.Repainting) (choice : String) :
    (w.act (.task 0 tree choice)).Repainting := by
  rw [h.act_task choice]
  exact repainting_renderPass h.doesFrames rfl

theorem repainting_load (h : w.Repainting) (hread : tree.read path = .ok image) :
    (w.act (.load tree path)).Repainting := by
  obtain ⟨labels, journal, hload⟩ := load_of_running hread h.running
  have hact : w.act (.load tree path) = _ := hload
  rw [hact]
  exact ⟨h.running, h.frames, h.waiting⟩

/-- The first program, in a window where nothing waits. -/
theorem act_load_of_stopped (hread : tree.read path = .ok image) (hstopped : w.emulating = false)
    (hframes : w.config.hasFrames = true) (hnone : w.pending = []) :
    (w.act (.load tree path)).Repainting ∧
      (w.act (.load tree path)).session = w.session.started image path ∧
      (w.act (.load tree path)).clock = w.clock ∧
      (w.act (.load tree path)).config = w.config ∧ (w.act (.load tree path)).speed = w.speed := by
  obtain ⟨labels, journal, hload⟩ := load_of_stopped hread hstopped hframes
  have hact : w.act (.load tree path) = _ := hload
  rw [hact, hnone]
  exact ⟨⟨rfl, hframes, rfl⟩, rfl, rfl, rfl, rfl⟩

/-- A frame of instructions while the machine is run. -/
theorem Repainting.act_frame (h : w.Repainting) (now : Float) :
    (w.act (.frame now)).Repainting ∧ (w.act (.frame now)).session =
      (w.session.runFrame w.clock (w.config.frameShare w.speed).toNat).session := by
  have hact : w.act (.frame now) = w.runFrame now := if_pos h.doesFrames
  obtain ⟨bell, journal, hframe⟩ := w.runFrame_eq now
  rw [hact, hframe]
  exact ⟨⟨h.running, h.frames, h.waiting⟩, rfl⟩

end

end Window

end Chip8
