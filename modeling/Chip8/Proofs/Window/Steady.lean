import Chip8.Proofs.Session.Lifecycle
import Chip8.Proofs.Window.Acts

/-!
# What acts leave of a window

Besides its picture a window has a program with a label, a speed, a thread that runs the machine and
a chain of repaints. Most acts touch none of these. This module says once which acts touch which
(`comes_act`), and what is to be known of a window for ever follows from it.

* The program, its label, the thread and the chain change by loads and reloads alone, and both leave
  the same (`Becomes`), up to the label of a success.
* The speed changes by its two keys alone, one `SpeedPress` after another.
* A repaint puts its successor in its own place; once nothing is run, it goes away for nothing.
* Closing the window ends the run and keeps the rest (`kept_close`).
-/

namespace Chip8

open Relation (ReflTransGen)

/-- From one speed to the next. From `bound` on the speed is not doubled again. -/
inductive SpeedPress (bound : Int) : Int → Int → Prop where
  | faster {s : Int} (h : s < bound) : SpeedPress bound s (s * 2)
  | slower {s : Int} (h : 1 < s) : SpeedPress bound s (s.fdiv 2)

/-- What a window knows of its program, and what it says of it. -/
structure ProgramInfo where
  /-- The file that a reload is for. -/
  path : Option String
  image : Option ImageInfo
  label : String

namespace SessionLoad

variable {τ : Type}

/-- The program was loaded. -/
def succeeded (l : SessionLoad τ) : Bool :=
  match l.answer with
  | .ok loaded => loaded
  | .error _ => false

/-- What a window knows after an attempt to load, from its label before and the label of a
success. -/
def info (l : SessionLoad τ) (before told : String) : ProgramInfo where
  path := l.session.path
  image := l.session.machine.image
  label := match l.answer with
    | .ok true => told
    | .ok false => "Load failed"
    | .error _ => before

end SessionLoad

/-- A frame of instructions leaves the file and the program. -/
theorem Session.kept_runFrame {τ : Type} [Seconds τ] (s : Session τ) (clock : Clock τ) (n : Nat) :
    (s.runFrame clock n).session.path = s.path ∧
      (s.runFrame clock n).session.machine.image = s.machine.image := by
  unfold runFrame
  split
  · obtain ⟨himage, -, hpath, -⟩ := kept_runCycles n ⟨s, clock, 0, #[]⟩
    exact ⟨hpath, himage⟩
  · exact ⟨rfl, rfl⟩

namespace Window

/-- The repaints that wait. -/
def repaints (w : Window) : Nat :=
  w.pending.countP fun s => s.task = .renderPass

/-- The threads that were started to run the machine. -/
def starts (w : Window) : Nat :=
  w.journal.count (.thread .emulationStarted)

/-- What is known of the program, and said. -/
def info (w : Window) : ProgramInfo :=
  ⟨w.session.path, w.session.machine.image, w.labels.image⟩

/-- **From one window to another**: the program becomes what `info` says, and the machine is run
from then on if `runs` says so. That takes a thread, and a repaint if there are frames, unless it
was run before. -/
structure Becomes (w v : Window) (info : ProgramInfo) (runs : Bool) : Prop where
  config : v.config = w.config
  speed : ReflTransGen (SpeedPress w.config.maxSpeed) w.speed v.speed
  info : v.info = info
  emulating : v.emulating = (w.emulating || runs)
  starts : v.starts = w.starts + (runs && !w.emulating).toNat
  repaints : v.repaints = w.repaints + (runs && !w.emulating && w.config.hasFrames).toNat

/-- The program stays, and no run begins. -/
def Steady (w v : Window) : Prop :=
  w.Becomes v w.info false

/-- The label of the program in the session. -/
def told (w : Window) (s : Session Float) : String :=
  "ROM: " ++ imageName { w with session := s }

/-- **What a deed can make of a window.** -/
inductive Comes (w v : Window) : Deed → Prop where
  /-- A success is told with the name of the program. -/
  | load {tree : FileTree} {path : String}
      (h : w.Becomes v
        ((w.session.load tree path).info w.labels.image (w.told (w.session.load tree path).session))
        (w.session.load tree path).succeeded) : Comes w v (.load tree path)
  /-- A success leaves the label as it is. -/
  | reload {tree : FileTree} {path : String} (hpath : w.session.path = some path)
      (h : w.Becomes v ((w.session.load tree path).info w.labels.image w.labels.image)
        (w.session.load tree path).succeeded) : Comes w v (.reload tree)
  /-- There is no program to load again. -/
  | noReload {tree : FileTree} (hpath : w.session.path = none) (h : w.Steady v) :
      Comes w v (.reload tree)
  | repaint (hdoes : w.doesFrames = true) (h : w.Steady v) : Comes w v .repaint
  /-- A repaint that finds nothing running, or no frames, does not come back. -/
  | lastRepaint (hstopped : w.doesFrames = false) (h : w.Steady (v.schedule 0 .renderPass)) :
      Comes w v .repaint
  | other (h : w.Steady v) : Comes w v .other

variable {u v w : Window} {p q : ProgramInfo} {b : Bool} {d : Deed}

/-- Of two runs that begin, only the first takes a thread. -/
theorem Becomes.trans {a b : Bool} (h : w.Becomes u p a) (h' : u.Becomes v q b) :
    w.Becomes v q (a || b) where
  config := h'.config.trans h.config
  speed := h.speed.trans (h.config ▸ h'.speed)
  info := h'.info
  emulating := by rw [h'.emulating, h.emulating, Bool.or_assoc]
  starts := by
    rw [h'.starts, h.starts, h.emulating]
    cases a <;> cases w.emulating <;> simp
  repaints := by
    rw [h'.repaints, h.repaints, h.emulating, h.config]
    cases a <;> cases w.emulating <;> simp

theorem Steady.trans (h : w.Steady u) (h' : u.Steady v) : w.Steady v := by
  have hinfo : u.info = w.info := h.info
  have hboth : w.Becomes v u.info false := Becomes.trans h h'
  rwa [hinfo] at hboth

/-- What neither starts a thread nor puts off a repaint. -/
theorem becomes_of_eq (hconfig : v.config = w.config) (hspeed : v.speed = w.speed)
    (hinfo : v.info = p) (hemulating : v.emulating = w.emulating) (hstarts : v.starts = w.starts)
    (hrepaints : v.repaints = w.repaints) : w.Becomes v p false where
  config := hconfig
  speed := hspeed ▸ .refl
  info := hinfo
  emulating := hemulating.trans (Bool.or_false _).symm
  starts := hstarts
  repaints := hrepaints

variable (w)

theorem Steady.refl : w.Steady w :=
  becomes_of_eq rfl rfl rfl rfl rfl rfl

theorem steady_foldl {α : Type} {f : Window → α → Window}
    (hf : ∀ (w : Window) (a : α), w.Steady (f w a))
    (l : List α) : w.Steady (l.foldl f w) :=
  List.foldlRecOn l f (.refl w) fun v hv a _ => hv.trans (hf v a)

/-! ## Small changes -/

theorem starts_record {es : List Effect} (h : .thread .emulationStarted ∉ es) :
    (w.record es).starts = w.starts := by
  have hnone : es.toArray.count (.thread .emulationStarted) = 0 :=
    Array.count_eq_zero_of_not_mem (by simpa using h)
  unfold starts record
  rw [Array.count_append, hnone, Nat.add_zero]

theorem steady_record {es : List Effect} (h : .thread .emulationStarted ∉ es) :
    w.Steady (w.record es) :=
  becomes_of_eq rfl rfl rfl rfl (w.starts_record h) rfl

theorem steady_tell (ns : List Notice) : w.Steady (w.tell ns) :=
  w.steady_record (by simp)

theorem steady_updateStatus : w.Steady w.updateStatus :=
  becomes_of_eq rfl rfl rfl rfl rfl rfl

theorem repaints_schedule (delay : Int) (t : Task) :
    (w.schedule delay t).repaints = w.repaints + if t = .renderPass then 1 else 0 := by
  unfold repaints schedule
  rw [List.countP_append, List.countP_singleton]
  simp only [decide_eq_true_eq]

variable {w} in
/-- A repaint more before and after makes no difference. -/
theorem Steady.schedule (h : w.Steady v) (d e : Int) :
    (w.schedule d .renderPass).Steady (v.schedule e .renderPass) where
  config := h.config
  speed := h.speed
  info := h.info
  emulating := h.emulating
  starts := h.starts
  repaints := by
    have hrepaints := h.repaints
    rw [repaints_schedule, repaints_schedule, hrepaints, Bool.false_and, Bool.false_and]
    rfl

/-! ## Input and instructions -/

theorem steady_receive (c : PadCall) : w.Steady (w.receive c) := by
  cases c with
  | key k down => exact becomes_of_eq rfl rfl rfl rfl rfl rfl
  | action a => exact becomes_of_eq rfl rfl rfl rfl rfl (w.repaints_schedule 0 (.action a))
  | openJoystick i => exact .refl w

theorem steady_padEvent (e : PadEvent) : w.Steady (w.padEvent e) :=
  w.steady_foldl (fun w c => w.steady_receive c) _

theorem steady_keyEvent (name : String) (down : Bool) : w.Steady (w.keyEvent name down) := by
  unfold keyEvent
  split
  · exact becomes_of_eq rfl rfl rfl rfl rfl rfl
  · exact .refl w

theorem steady_togglePause : w.Steady w.togglePause :=
  becomes_of_eq rfl rfl rfl rfl rfl rfl

theorem steady_increaseSpeed : w.Steady w.increaseSpeed := by
  unfold increaseSpeed
  split
  next h =>
    exact ⟨rfl, .single (.faster h), rfl, (Bool.or_false _).symm, rfl, rfl⟩
  next => exact .refl w

theorem steady_decreaseSpeed : w.Steady w.decreaseSpeed := by
  unfold decreaseSpeed
  split
  next h =>
    exact ⟨rfl, .single (.slower h), rfl, (Bool.or_false _).symm, rfl, rfl⟩
  next => exact .refl w

theorem steady_withRenderer (r : Renderer) : w.Steady { w with renderer := r } :=
  becomes_of_eq rfl rfl rfl rfl rfl rfl

theorem steady_toggleScanlines : w.Steady w.toggleScanlines :=
  w.steady_withRenderer _

theorem steady_toneSignal (now : Float) : w.Steady (w.toneSignal now) := by
  have hbell : w.Steady { w with bell := (w.bell.signal now).2 } :=
    becomes_of_eq rfl rfl rfl rfl rfl rfl
  unfold toneSignal
  dsimp only
  split
  · exact hbell.trans (steady_record _ (by simp))
  · exact hbell

theorem steady_pass (now : Float) (n : Notice) : w.Steady (pass now w n) := by
  unfold pass
  split
  · exact (w.steady_tell [_]).trans (steady_toneSignal _ now)
  · exact w.steady_tell [_]

theorem steady_runFrame (now : Float) : w.Steady (w.runFrame now) := by
  obtain ⟨hpath, himage⟩ :=
    w.session.kept_runFrame w.clock (w.config.frameShare w.speed).toNat
  unfold runFrame
  generalize w.session.runFrame w.clock (w.config.frameShare w.speed).toNat = ran at hpath himage
  have hran : w.Steady { w with session := ran.session, clock := ran.clock } :=
    becomes_of_eq rfl rfl (by rw [info, info, hpath, himage]) rfl rfl rfl
  dsimp only
  rw [← Array.foldl_toList]
  exact hran.trans (steady_foldl _ (fun w n => w.steady_pass now n) _)

/-! ## Repaints -/

theorem steady_repaint : w.Steady w.repaint :=
  becomes_of_eq rfl rfl rfl rfl rfl rfl

variable {w}

theorem renderPass_of_stopped (h : w.emulating = false) : w.renderPass = w := by
  rw [renderPass, h]
  rfl

/-- While the machine is run, a repaint puts off the next and changes the picture alone. -/
theorem steady_renderPass (h : w.doesFrames = true) :
    (w.schedule 0 .renderPass).Steady w.renderPass := by
  rw [renderPass_of_frames h]
  exact w.steady_repaint.schedule 0 w.config.repaintDelay

/-- Otherwise it puts off nothing. -/
theorem steady_lastRenderPass (h : w.doesFrames = false) : w.Steady w.renderPass := by
  cases hrunning : w.emulating with
  | false =>
    rw [renderPass_of_stopped hrunning]
    exact .refl w
  | true =>
    have hframes : w.config.hasFrames = false := by
      rw [doesFrames, hrunning] at h
      exact h
    rw [renderPass, if_pos hrunning, hframes]
    exact w.steady_repaint

variable (w)

/-! ## Programs -/

/-- The window as its first repaint finds it: the thread is started. -/
def withThread (w : Window) : Window :=
  { w with
    session := { w.session with paused := false }
    emulating := true }.updateStatus.record [.thread .emulationStarted]

theorem starts_withThread : w.withThread.starts = w.starts + 1 :=
  Array.count_append

variable {w} in
theorem startEmulation_of_stopped (h : w.emulating = false) :
    w.startEmulation = w.withThread.renderPass := by
  unfold startEmulation
  dsimp only
  rw [h]
  rfl

theorem becomes_startEmulation : w.Becomes w.startEmulation w.info true := by
  cases h : w.emulating with
  | true =>
    unfold startEmulation
    dsimp only
    rw [h, if_pos rfl]
    exact ⟨rfl, .refl, rfl, (Bool.or_true _).symm, by rw [h]; rfl, by rw [h]; rfl⟩
  | false =>
    have hstarts : w.withThread.starts = w.starts + (true && !w.emulating).toNat := by
      rw [h]
      exact w.starts_withThread
    have hrunning : w.withThread.emulating = (w.emulating || true) := (Bool.or_true _).symm
    rw [startEmulation_of_stopped h]
    cases hframes : w.config.hasFrames with
    | true =>
      -- the first repaint, as if it had been put off
      have hput : w.Becomes (w.withThread.schedule 0 .renderPass) w.info true := by
        refine ⟨rfl, .refl, rfl, hrunning, hstarts, ?_⟩
        rw [repaints_schedule, h, hframes]
        rfl
      exact hput.trans (steady_renderPass hframes)
    | false =>
      have hstarted : w.Becomes w.withThread w.info true := by
        refine ⟨rfl, .refl, rfl, hrunning, hstarts, ?_⟩
        rw [h, hframes]
        rfl
      exact hstarted.trans (steady_lastRenderPass hframes)

theorem becomes_setImageLabel (text : String) :
    w.Becomes (w.setImageLabel text) { w.info with label := text } false :=
  becomes_of_eq rfl rfl rfl rfl rfl rfl

theorem becomes_showLoadFailed :
    w.Becomes w.showLoadFailed { w.info with label := "Load failed" } false :=
  (w.becomes_setImageLabel "Load failed").trans (steady_updateStatus _)

/-- The session as an attempt to load leaves it, told to the log. -/
theorem becomes_tell (s : Session Float) (ns : List Notice) :
    w.Becomes (tell { w with session := s } ns)
      ⟨s.path, s.machine.image, w.labels.image⟩ false := by
  have hsession : w.Becomes { w with session := s }
      ⟨s.path, s.machine.image, w.labels.image⟩ false :=
    becomes_of_eq rfl rfl rfl rfl rfl rfl
  exact hsession.trans (steady_tell _ ns)

theorem comes_load (tree : FileTree) (path : String) :
    w.Comes (w.load tree path).window (.load tree path) := by
  refine .load ?_
  unfold load
  generalize w.session.load tree path = l
  have htold := w.becomes_tell l.session l.notices
  unfold SessionLoad.info SessionLoad.succeeded
  dsimp only
  split
  next h =>
    rw [h]
    exact (htold.trans (becomes_setImageLabel _ _)).trans (becomes_startEmulation _)
  next h =>
    rw [h]
    exact htold.trans (becomes_showLoadFailed _)
  next h =>
    rw [h]
    exact htold

theorem comes_reload (tree : FileTree) :
    w.Comes (w.reload tree).window (.reload tree) := by
  unfold reload
  cases hpath : w.session.path with
  | none => exact .noReload hpath (.refl w)
  | some path =>
    refine .reload hpath ?_
    rw [Session.reload_of_path hpath]
    generalize w.session.load tree path = l
    have htold := w.becomes_tell l.session l.notices
    have hdark (r : Renderer) :=
      htold.trans (steady_withRenderer (tell { w with session := l.session } l.notices) r)
    unfold SessionLoad.info SessionLoad.succeeded
    simp only [Option.isNone_some, Bool.false_eq_true, if_false]
    split
    next h =>
      rw [h]
      exact (hdark _).trans (becomes_startEmulation _)
    next h =>
      rw [h]
      exact htold.trans (becomes_showLoadFailed _)
    next h =>
      rw [h]
      exact htold

variable {w}

/-- A steady step before a deed makes no difference to it. -/
theorem Comes.of_steady (h : w.Steady u) (hsession : u.session = w.session) (hc : u.Comes v d) :
    w.Comes v d := by
  have hlabel : u.labels.image = w.labels.image := congrArg ProgramInfo.label h.info
  have hframes : u.doesFrames = w.doesFrames := by
    rw [doesFrames, doesFrames, h.emulating, h.config, Bool.or_false]
  cases hc with
  | load hv =>
    rw [hsession, hlabel] at hv
    exact .load (Becomes.trans h hv)
  | reload hpath hv =>
    rw [hsession] at hpath
    rw [hsession, hlabel] at hv
    exact .reload hpath (Becomes.trans h hv)
  | noReload hpath hv => exact .noReload (hsession ▸ hpath) (Steady.trans h hv)
  | repaint hdoes hv => exact .repaint (hframes ▸ hdoes) (Steady.trans h hv)
  | lastRepaint hstopped hv => exact .lastRepaint (hframes ▸ hstopped) (Steady.trans h hv)
  | other hv => exact .other (Steady.trans h hv)

variable (w)

theorem comes_openDialog (tree : FileTree) (choice : String) :
    w.Comes (w.openDialog tree choice).window (.ofChoice tree choice) := by
  have hasked : w.Steady (w.record [.dialogOpened]) := w.steady_record (by simp)
  unfold openDialog Deed.ofChoice
  dsimp only
  split
  · exact .other hasked
  · exact (comes_load _ tree choice).of_steady hasked rfl

/-! ## Tasks -/

/-- A task that is taken up no longer waits. -/
theorem repaints_taken {n : Nat} {s : Scheduled} (hs : w.pending[n]? = some s) :
    repaints { w with pending := w.pending.eraseIdx n } +
      (if s.task = .renderPass then 1 else 0) = w.repaints := by
  obtain ⟨hn, rfl⟩ := List.getElem?_eq_some_iff.mp hs
  have hperm := (List.getElem_cons_eraseIdx_perm hn).countP_eq fun s => s.task = .renderPass
  rw [List.countP_cons] at hperm
  simpa only [repaints, decide_eq_true_eq] using hperm

variable {w} in
theorem steady_taken {n : Nat} {s : Scheduled} (hs : w.pending[n]? = some s)
    (ht : s.task ≠ .renderPass) : w.Steady { w with pending := w.pending.eraseIdx n } := by
  have hrepaints := w.repaints_taken hs
  rw [if_neg ht, Nat.add_zero] at hrepaints
  exact becomes_of_eq rfl rfl rfl rfl rfl hrepaints

variable {w} in
/-- A repaint that is taken up, as if it were put off again. -/
theorem steady_taken_repaint {n : Nat} {s : Scheduled} (hs : w.pending[n]? = some s)
    (ht : s.task = .renderPass) :
    w.Steady (schedule { w with pending := w.pending.eraseIdx n } 0 .renderPass) := by
  have hrepaints := w.repaints_taken hs
  rw [if_pos ht] at hrepaints
  refine becomes_of_eq rfl rfl rfl rfl rfl ?_
  rw [repaints_schedule, if_pos rfl, hrepaints]

theorem comes_perform (tree : FileTree) (a : Action) :
    w.Comes (w.perform tree a).window (a.deed tree) := by
  cases a with
  | reset => exact w.comes_reload tree
  | pauseToggle => exact .other w.steady_togglePause
  | speedIncrease => exact .other w.steady_increaseSpeed
  | speedDecrease => exact .other w.steady_decreaseSpeed
  | toggleScanlines => exact .other w.steady_toggleScanlines

theorem comes_keyboardEvent (tree : FileTree) (b : Binding) (name choice : String) :
    w.Comes (w.keyboardEvent tree b name choice).window (b.deed tree choice) := by
  cases b with
  | keyPress => exact .other (w.steady_keyEvent name true)
  | keyRelease => exact .other (w.steady_keyEvent name false)
  | reload => exact w.comes_reload tree
  | openDialog => exact w.comes_openDialog tree choice
  | pause => exact .other w.steady_togglePause
  | slower => exact .other w.steady_decreaseSpeed
  | faster => exact .other w.steady_increaseSpeed
  | scanlines => exact .other w.steady_toggleScanlines
  | dump => exact .other (w.steady_tell _)

theorem comes_runTask {n : Nat} {s : Scheduled} (hs : w.pending[n]? = some s) (tree : FileTree)
    (choice : String) :
    w.Comes (runTask { w with pending := w.pending.eraseIdx n } tree choice s.task).window
      (s.task.deed tree choice) := by
  obtain ⟨delay, t⟩ := s
  cases t with
  | renderPass =>
    have hagain := steady_taken_repaint hs rfl
    cases hdoes : w.doesFrames with
    | true => exact .repaint hdoes (hagain.trans (steady_renderPass hdoes))
    | false =>
      have hlast : Steady { w with pending := w.pending.eraseIdx n } _ :=
        steady_lastRenderPass hdoes
      exact .lastRepaint hdoes (hagain.trans (hlast.schedule 0 0))
  | openDialog => exact (comes_openDialog _ tree choice).of_steady (steady_taken hs nofun) rfl
  | action a => exact (comes_perform _ tree a).of_steady (steady_taken hs nofun) rfl

/-! ## Acts -/

/-- **What one act can make of a window** that is not closed by it. -/
theorem comes_act {a : WindowAct} (ha : a ≠ .close) : w.Comes (w.act a) (w.deed a) := by
  cases a with
  | keyboard tree b name choice => exact w.comes_keyboardEvent tree b name choice
  | pad e => exact .other (w.steady_padEvent e)
  | load tree path => exact w.comes_load tree path
  | task n tree choice =>
    unfold act deed
    dsimp only
    cases hs : w.pending[n]? with
    | none => exact .other (.refl w)
    | some s => exact w.comes_runTask hs tree choice
  | frame now =>
    unfold act deed
    dsimp only
    split
    · exact .other (w.steady_runFrame now)
    · exact .other (.refl w)
  | close => exact absurd rfl ha

/-- Closing keeps all that is known but the run. -/
theorem kept_close : w.close.config = w.config ∧ w.close.speed = w.speed ∧
    w.close.info = w.info ∧ w.close.emulating = false ∧ w.close.repaints = w.repaints :=
  ⟨rfl, rfl, rfl, rfl, rfl⟩

/-! ## Settings and speed -/

variable {w}

theorem Comes.settings (hc : w.Comes v d) : v.config = w.config ∧
    ReflTransGen (SpeedPress w.config.maxSpeed) w.speed v.speed := by
  cases hc with
  | load h => exact ⟨h.config, h.speed⟩
  | reload _ h => exact ⟨h.config, h.speed⟩
  | noReload _ h => exact ⟨h.config, h.speed⟩
  | repaint _ h => exact ⟨h.config, h.speed⟩
  | lastRepaint _ h => exact ⟨h.config, h.speed⟩
  | other h => exact ⟨h.config, h.speed⟩

variable (w)

theorem settings_act (a : WindowAct) : (w.act a).config = w.config ∧
    ReflTransGen (SpeedPress w.config.maxSpeed) w.speed (w.act a).speed := by
  by_cases ha : a = .close
  · rw [ha]
    exact ⟨rfl, .refl⟩
  · exact (w.comes_act ha).settings

/-- **Whatever happens to a window**, its settings stay, and its speed changes by presses alone. -/
theorem settings_acts (as : List WindowAct) : (w.acts as).config = w.config ∧
    ReflTransGen (SpeedPress w.config.maxSpeed) w.speed (w.acts as).speed := by
  induction as generalizing w with
  | nil => exact ⟨rfl, .refl⟩
  | cons a as ih =>
    obtain ⟨hconfig, hspeed⟩ := w.settings_act a
    obtain ⟨hlaterConfig, hlaterSpeed⟩ := ih (w.act a)
    rw [hconfig] at hlaterSpeed
    exact ⟨hlaterConfig.trans hconfig, hspeed.trans hlaterSpeed⟩

end Window

end Chip8
