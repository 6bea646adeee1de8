import Chip8.Proofs.Host.Toolkit

/-!
# Nothing is left on the canvas

The rectangles that a renderer draws are the only ones on its canvas, and it has the identifiers of
all of them, however often the scanlines were turned on and off and whatever was painted. A `Canvas`
is a lawful kind of canvas and a `Renderer` is a display on it, so what holds of displays on lawful
canvases of any kind holds of renderers.

* `Canvas.lawful`: the laws of a canvas.
* `Renderer.asDisplay_initial_acts`: a renderer does what a display does.
* `Toolkit.canvas_holds_listed`: what lies on the canvas of a display, and what painting changes.
-/

namespace Chip8

/-! ## A canvas of the toolkit's kind -/

namespace Canvas

/-- The kind of canvas that a renderer draws on. -/
def toolkit : Toolkit Canvas Nat where
  stack := live
  item? := item?
  create := create
  delete := delete
  deleteAll := deleteAll
  recolor := recolor

@[simp] theorem toolkit_stack : toolkit.stack = live := rfl

@[simp] theorem toolkit_delete : toolkit.delete = delete := rfl

@[simp] theorem toolkit_deleteAll : toolkit.deleteAll = deleteAll := rfl

@[simp] theorem toolkit_recolor : toolkit.recolor = recolor := rfl

@[simp] theorem toolkit_createAll (c : Canvas) (rs : List Rectangle) :
    toolkit.createAll c rs = c.createAll rs := rfl

variable {c d : Canvas}

/-- Identifiers are in use up to the number of those that were given out. -/
theorem live_eq_filter (hsize : c.items.size = d.items.size) {p : Nat → Bool}
    (h : ∀ id, (c.item? id).isSome = ((d.item? id).isSome && p id)) :
    c.live = d.live.filter p := by
  rw [live, live, hsize, List.filter_filter]
  exact List.filter_congr fun id _ => by rw [h, Bool.and_comm]

theorem live_create (c : Canvas) (r : Rectangle) :
    (c.create r).2.live = c.live ++ [(c.create r).1] := by
  have hsize : (c.create r).2.items.size = c.items.size + 1 := Array.size_push _
  have hlast : ((c.create r).2.item? c.items.size).isSome = true := by simp [item?_create]
  rw [live, live, hsize, List.range_succ, List.filter_append, List.filter_singleton, hlast]
  congr 1
  refine List.filter_congr fun id hid => ?_
  rw [item?_create, if_neg (Nat.ne_of_lt (List.mem_range.mp hid))]

theorem live_delete (c : Canvas) (id : Nat) : (c.delete id).live = c.live.filter (· ≠ id) := by
  have hsize : (c.delete id).items.size = c.items.size := Array.size_setIfInBounds
  refine live_eq_filter hsize fun other => ?_
  rw [item?_delete]
  by_cases h : other = id <;> simp [h]

theorem live_deleteAll (c : Canvas) : c.deleteAll.live = [] := by
  refine List.filter_eq_nil_iff.mpr fun id _ => ?_
  rw [item?, deleteAll, Array.getElem?_replicate]
  split <;> simp

theorem live_recolor (c : Canvas) (id : Nat) (fill : String) :
    (c.recolor id fill).live = c.live := by
  have hsize : (c.recolor id fill).items.size = c.items.size := Array.size_modify
  have hlive := live_eq_filter hsize (p := fun _ => true) fun other => by
    rw [item?_recolor]
    by_cases h : other = id <;> simp [h]
  exact hlive.trans (List.filter_true _)

/-- **A canvas keeps the laws.** -/
theorem lawful : toolkit.Lawful where
  fresh _ _ hmem := Nat.lt_irrefl _ (List.mem_range.mp (List.mem_filter.mp hmem).1)
  stack_create := live_create
  stack_delete := live_delete
  stack_deleteAll := live_deleteAll
  stack_recolor := live_recolor
  item?_recolor c id fill := (c.item?_recolor id id fill).trans (if_pos rfl)
  item?_recolor_of_ne c id fill _ h := (c.item?_recolor id _ fill).trans (if_neg h)

end Canvas

/-! ## A renderer is a display -/

namespace Renderer

/-- A renderer as a display on its canvas. -/
def asDisplay (r : Renderer) : Display Canvas Nat :=
  ⟨r.config, r.canvas, r.scanlinesOn, r.pixelIds, r.scanlineIds⟩

@[simp] theorem canvas_asDisplay (r : Renderer) : r.asDisplay.canvas = r.canvas := rfl

/-- The renderer after an act. -/
def act (r : Renderer) : DisplayAct → Renderer
  | .toggleScanlines => r.toggleScanlines
  | .render frame => r.render frame

/-- The renderer after a sequence of acts. -/
def acts (r : Renderer) (as : List DisplayAct) : Renderer :=
  as.foldl act r

theorem asDisplay_createScanlines (r : Renderer) :
    r.createScanlines.asDisplay = Canvas.toolkit.createScanlines r.asDisplay := by
  obtain ⟨config, canvas, on, pixelIds, scanlineIds⟩ := r
  cases on <;> simp [createScanlines, Toolkit.createScanlines, asDisplay]

theorem asDisplay_initial (config : HostConfig) :
    (initial config).asDisplay = Canvas.toolkit.newDisplay config .empty := by
  rw [initial, createPixels, asDisplay_createScanlines]
  simp only [Toolkit.newDisplay, asDisplay, Canvas.toolkit_createAll, Canvas.toolkit_deleteAll]

theorem asDisplay_toggleScanlines (r : Renderer) :
    r.toggleScanlines.asDisplay = Canvas.toolkit.toggleScanlines r.asDisplay :=
  asDisplay_createScanlines { r with scanlinesOn := !r.scanlinesOn }

theorem asDisplay_render {r : Renderer} (h : r.pixelIds.size = 2048) (frame : Frame) :
    (r.render frame).asDisplay = Canvas.toolkit.render r.asDisplay frame := by
  have hpaint (c : Canvas) (n : Nat) (hn : n ∈ List.range 2048) :
      c.recolor (r.pixelIds[n]?.getD 0) (fillOf r.config frame n) =
        Canvas.toolkit.paint r.asDisplay frame c n := by
    have hlt : n < r.pixelIds.size := lt_of_lt_of_eq (List.mem_range.mp hn) h.symm
    have hid : r.pixelIds[n]? = some r.pixelIds[n] := Array.getElem?_eq_getElem hlt
    simp only [Toolkit.paint, asDisplay, hid, Option.getD_some, Canvas.toolkit_recolor]
  have hcanvas := List.foldl_ext _ _ r.canvas hpaint
  simp only [fillOf] at hcanvas
  simp only [render, Toolkit.render, asDisplay, List.getElem?_toArray] at hcanvas ⊢
  rw [hcanvas]

/-- An act of a renderer is that of a display. The renderer looks its rectangles up with a default,
which a table of all pixels never gives. -/
theorem asDisplay_act {r : Renderer} (h : r.pixelIds.size = 2048) (a : DisplayAct) :
    (r.act a).asDisplay = Canvas.toolkit.act r.asDisplay a := by
  cases a with
  | toggleScanlines => exact asDisplay_toggleScanlines r
  | render frame => exact asDisplay_render h frame

theorem pixelIds_act (r : Renderer) (a : DisplayAct) : (r.act a).pixelIds = r.pixelIds := by
  cases a with
  | toggleScanlines => exact pixelIds_createScanlines _
  | render frame => exact pixelIds_render r frame

theorem asDisplay_acts {r : Renderer} (h : r.pixelIds.size = 2048) (as : List DisplayAct) :
    (r.acts as).asDisplay = Canvas.toolkit.acts r.asDisplay as := by
  induction as generalizing r with
  | nil => rfl
  | cons a as ih =>
    have hact : (r.act a).pixelIds.size = 2048 := by
      rw [pixelIds_act]
      exact h
    rw [acts, List.foldl_cons, ← acts, ih hact, asDisplay_act h, Toolkit.acts, Toolkit.acts,
      List.foldl_cons]

/-- **A renderer does what a display does**, from the start. -/
theorem asDisplay_initial_acts (config : HostConfig) (as : List DisplayAct) :
    ((initial config).acts as).asDisplay =
      Canvas.toolkit.acts (Canvas.toolkit.newDisplay config .empty) as := by
  have hpixels := (Toolkit.tidy_newDisplay Canvas.lawful config .empty).pixels
  rw [← asDisplay_initial] at hpixels
  rw [asDisplay_acts hpixels, asDisplay_initial]

end Renderer

/-! ## What lies on the canvas -/

namespace Toolkit

/-- **What is on the canvas is what the display lists**, after any toggles and frames, on any kind
of canvas that keeps the laws. From bottom to top there are the rectangles that were drawn for the
pixels at the start, and, if the toggles left the scanlines on, one scanline for each row. A frame
that is painted next changes the colours of the pixels and nothing else. A renderer on its canvas is
a display of this kind. -/
theorem canvas_holds_listed {γ ι : Type} [DecidableEq ι] {T : Toolkit γ ι} (hT : T.Lawful)
    (config : HostConfig) (c : γ) (as : List DisplayAct) :
    T.Tidy (T.acts (T.newDisplay config c) as) ∧
      (T.acts (T.newDisplay config c) as).pixelIds = (T.newDisplay config c).pixelIds ∧
      (T.acts (T.newDisplay config c) as).scanlinesOn =
        as.foldl DisplayAct.switch config.scanlines ∧
      (∀ frame, T.Recolors (T.acts (T.newDisplay config c) as) frame
        (T.render (T.acts (T.newDisplay config c) as) frame)) ∧
      Canvas.toolkit.Lawful ∧
      ((Renderer.initial config).acts as).asDisplay =
        Canvas.toolkit.acts (Canvas.toolkit.newDisplay config .empty) as := by
  obtain ⟨htidy, hpixels, hon⟩ := tidy_acts hT (tidy_newDisplay hT config c) as
  have hstart : (T.newDisplay config c).scanlinesOn = config.scanlines :=
    T.scanlinesOn_createScanlines _
  rw [hstart] at hon
  exact ⟨htidy, hpixels, hon, recolors_render hT htidy.toListed, Canvas.lawful,
    Renderer.asDisplay_initial_acts config as⟩

/-- Scanlines that are turned on, off and on again lie over the pixels once. -/
theorem canvas_holds_listed_toggled :
    Canvas.toolkit.Lawful ∧
      ((Renderer.initial {}).acts [.toggleScanlines, .render Frame.blank, .toggleScanlines,
        .toggleScanlines]).canvas.live.length = 2048 + 32 := by
  obtain ⟨htidy, -, hon, -, -, hrenderer⟩ := canvas_holds_listed Canvas.lawful {} .empty
    [.toggleScanlines, .render Frame.blank, .toggleScanlines, .toggleScanlines]
  have hscanlines := htidy.scanlines
  rw [hon, if_pos (by rfl)] at hscanlines
  have hlength := congrArg List.length htidy.stack_eq
  simp only [List.length_append, Array.length_toList, htidy.pixels, hscanlines] at hlength
  rw [← hrenderer, Canvas.toolkit_stack, Renderer.canvas_asDisplay] at hlength
  exact ⟨Canvas.lawful, hlength⟩

end Toolkit

end Chip8
