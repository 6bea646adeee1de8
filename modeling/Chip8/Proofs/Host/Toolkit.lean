import Chip8.Proofs.Host.Painting

/-!
# A picture on any canvas

Model of `Chip8Display` on the canvas of any toolkit. The picture of a screen needs little of the
canvas it is drawn on: that what is created is new and lies on top, that what is deleted is gone,
and that recolouring something leaves everything else. A `Toolkit` is any kind of canvas, with
identifiers of any kind, and `Lawful` says this of it. The picture on such a canvas is a `Display`;
it does there what a `Renderer` does on a `Canvas`.

A display remembers what it drew. `Tidy` says that it remembers all of it: what lies on the canvas
is what its two tables list, the pixels at the bottom and the scanlines on top of them.

* `Toolkit.tidy_acts`: a display is tidy after any number of toggles and frames.
* `Toolkit.recolors_render`: painting a frame changes the colours of the pixels and nothing else.
-/

namespace Chip8

/-- A kind of canvas: `γ` are the canvases and `ι` the identifiers of what is drawn on them. -/
structure Toolkit (γ ι : Type) where
  /-- The identifiers of what lies on a canvas, from bottom to top. -/
  stack : γ → List ι
  /-- What an identifier stands for. -/
  item? : γ → ι → Option Rectangle
  create : γ → Rectangle → ι × γ
  delete : γ → ι → γ
  deleteAll : γ → γ
  recolor : γ → ι → String → γ

/-- A picture on a canvas of some kind, with the identifiers of what it drew there. -/
structure Display (γ ι : Type) where
  config : HostConfig
  canvas : γ
  scanlinesOn : Bool
  /-- The rectangles of the pixels, row by row. -/
  pixelIds : Array ι
  /-- The rectangles of the scanlines, from top to bottom. -/
  scanlineIds : Array ι

/-- What is done to a picture once it is there. -/
inductive DisplayAct where
  | toggleScanlines
  | render (frame : Frame)

/-- Whether the scanlines are on after an act. -/
def DisplayAct.switch (on : Bool) : DisplayAct → Bool
  | toggleScanlines => !on
  | render _ => on

namespace Toolkit

variable {γ ι : Type}

/-- **What a picture relies on.** -/
structure Lawful [DecidableEq ι] (T : Toolkit γ ι) : Prop where
  /-- The identifier of what is created is not in use. -/
  fresh : ∀ c r, (T.create c r).1 ∉ T.stack c
  /-- What is created lies on top. -/
  stack_create : ∀ c r, T.stack (T.create c r).2 = T.stack c ++ [(T.create c r).1]
  stack_delete : ∀ c id, T.stack (T.delete c id) = (T.stack c).filter (· ≠ id)
  stack_deleteAll : ∀ c, T.stack (T.deleteAll c) = []
  stack_recolor : ∀ c id fill, T.stack (T.recolor c id fill) = T.stack c
  item?_recolor : ∀ c id fill,
    T.item? (T.recolor c id fill) id = (T.item? c id).map fun r => { r with fill }
  item?_recolor_of_ne : ∀ c id fill {other}, other ≠ id →
    T.item? (T.recolor c id fill) other = T.item? c other

section Displays

variable (T : Toolkit γ ι)

/-- Rectangles one on top of the other; the identifiers are in the same order. -/
def createAll (c : γ) (rs : List Rectangle) : Array ι × γ :=
  rs.foldl (fun acc r =>
    let made := T.create acc.2 r
    (acc.1.push made.1, made.2)) (#[], c)

/-- Takes the scanlines away, and draws them anew if they are on. -/
def createScanlines (d : Display γ ι) : Display γ ι :=
  let cleared := d.scanlineIds.foldl T.delete d.canvas
  if d.scanlinesOn then
    let made := T.createAll cleared (Renderer.scanlineRectangles d.config)
    { d with canvas := made.2, scanlineIds := made.1 }
  else { d with canvas := cleared, scanlineIds := #[] }

/-- A new picture on a canvas, which is cleared for it. -/
def newDisplay (config : HostConfig) (c : γ) : Display γ ι :=
  let made := T.createAll (T.deleteAll c) (Renderer.pixelRectangles config)
  T.createScanlines ⟨config, made.2, config.scanlines, made.1, #[]⟩

/-- Turns the scanlines on or off. -/
def toggleScanlines (d : Display γ ι) : Display γ ι :=
  T.createScanlines { d with scanlinesOn := !d.scanlinesOn }

/-- Colours the rectangle of the `n`-th pixel as the frame has it. -/
def paint (d : Display γ ι) (frame : Frame) (c : γ) (n : Nat) : γ :=
  match d.pixelIds[n]? with
  | some id => T.recolor c id (Renderer.fillOf d.config frame n)
  | none => c

/-- Colours the rectangles of the pixels as the frame has them. -/
def render (d : Display γ ι) (frame : Frame) : Display γ ι :=
  { d with canvas := (List.range 2048).foldl (T.paint d frame) d.canvas }

/-- The picture after an act. -/
def act (d : Display γ ι) : DisplayAct → Display γ ι
  | .toggleScanlines => T.toggleScanlines d
  | .render frame => T.render d frame

/-- The picture after a sequence of acts. -/
def acts (d : Display γ ι) (as : List DisplayAct) : Display γ ι :=
  as.foldl T.act d

/-- What lies on the canvas is what the display lists: a rectangle for each pixel, and above them
the scanlines. -/
structure Listed (d : Display γ ι) : Prop where
  /-- From bottom to top. -/
  stack_eq : T.stack d.canvas = d.pixelIds.toList ++ d.scanlineIds.toList
  nodup : (T.stack d.canvas).Nodup
  pixels : d.pixelIds.size = 2048

/-- **Nothing lies on the canvas but what should**: what the display lists, with a scanline for each
row if they are on, and none if they are not. -/
structure Tidy (d : Display γ ι) : Prop extends T.Listed d where
  scanlines : d.scanlineIds.size = if d.scanlinesOn then 32 else 0

/-- **Nothing but the colours of the pixels** is different on the canvas of `e`, where the frame is
painted. -/
structure Recolors (d : Display γ ι) (frame : Frame) (e : Display γ ι) : Prop where
  stack_eq : T.stack e.canvas = T.stack d.canvas
  pixels : ∀ n id, d.pixelIds[n]? = some id → T.item? e.canvas id =
    (T.item? d.canvas id).map fun r => { r with fill := Renderer.fillOf d.config frame n }
  others : ∀ id, id ∉ d.pixelIds → T.item? e.canvas id = T.item? d.canvas id

end Displays

variable [DecidableEq ι] {T : Toolkit γ ι} {d : Display γ ι}

/-! ## Many at once -/

/-- **Rectangles that are created one after the other** lie on top, in that order. -/
theorem stack_createAll (hT : T.Lawful) (c : γ) (rs : List Rectangle) :
    T.stack (T.createAll c rs).2 = T.stack c ++ (T.createAll c rs).1.toList ∧
      (T.createAll c rs).1.size = rs.length ∧
      ((T.stack c).Nodup → (T.stack (T.createAll c rs).2).Nodup) := by
  induction rs using List.reverseRecOn with
  | nil => exact ⟨(List.append_nil _).symm, rfl, id⟩
  | append_singleton rs r ih =>
    obtain ⟨hstack, hsize, hnodup⟩ := ih
    have hstep : T.createAll c (rs ++ [r]) =
        ((T.createAll c rs).1.push (T.create (T.createAll c rs).2 r).1,
          (T.create (T.createAll c rs).2 r).2) := by
      rw [createAll, List.foldl_append]
      rfl
    rw [hstep]
    refine ⟨?_, ?_, fun hc => ?_⟩
    · rw [hT.stack_create, hstack, Array.toList_push, List.append_assoc]
    · rw [Array.size_push, hsize, List.length_append, List.length_singleton]
    · rw [hT.stack_create, ← List.concat_eq_append]
      exact (hnodup hc).concat (hT.fresh _ _)

theorem stack_foldl_delete (hT : T.Lawful) (c : γ) (ids : Array ι) :
    T.stack (ids.foldl T.delete c) = (T.stack c).filter (· ∉ ids.toList) := by
  rw [← Array.foldl_toList]
  generalize ids.toList = ids
  induction ids generalizing c with
  | nil => simp
  | cons id ids ih =>
    rw [List.foldl_cons, ih, hT.stack_delete, List.filter_filter]
    refine List.filter_congr fun other _ => ?_
    simp [Bool.and_comm]

/-! ## Scanlines -/

omit [DecidableEq ι] in
/-- No rectangle is listed twice, and none as a pixel's and as a scanline. -/
theorem Listed.nodup_tables (h : T.Listed d) :
    (d.pixelIds.toList ++ d.scanlineIds.toList).Nodup :=
  h.stack_eq ▸ h.nodup

omit [DecidableEq ι] in
theorem Listed.nodup_pixels (h : T.Listed d) : d.pixelIds.toList.Nodup :=
  (List.nodup_append.mp h.nodup_tables).1

/-- Taking the scanlines away leaves the pixels. -/
theorem Listed.stack_cleared (hT : T.Lawful) (h : T.Listed d) :
    T.stack (d.scanlineIds.foldl T.delete d.canvas) = d.pixelIds.toList := by
  obtain ⟨-, -, hapart⟩ := List.nodup_append.mp h.nodup_tables
  rw [stack_foldl_delete hT, h.stack_eq, List.filter_append]
  have hkept : d.pixelIds.toList.filter (· ∉ d.scanlineIds.toList) = d.pixelIds.toList :=
    List.filter_eq_self.mpr fun id hid => decide_eq_true fun hscan => hapart id hid id hscan rfl
  have hgone : d.scanlineIds.toList.filter (· ∉ d.scanlineIds.toList) = [] :=
    List.filter_eq_nil_iff.mpr fun id hid => by simpa using hid
  rw [hkept, hgone, List.append_nil]

theorem Listed.createScanlines (hT : T.Lawful) (h : T.Listed d) : T.Tidy (T.createScanlines d) := by
  have hcleared := h.stack_cleared hT
  unfold Toolkit.createScanlines
  dsimp only
  split
  next hon =>
    obtain ⟨hstack, hsize, hnodup⟩ := stack_createAll hT
      (d.scanlineIds.foldl T.delete d.canvas) (Renderer.scanlineRectangles d.config)
    rw [hcleared] at hstack hnodup
    refine ⟨⟨hstack, hnodup h.nodup_pixels, h.pixels⟩, ?_⟩
    rw [hsize, if_pos hon]
    simp [Renderer.scanlineRectangles]
  next hoff =>
    refine ⟨⟨?_, ?_, h.pixels⟩, ?_⟩
    · rw [hcleared]
      exact (List.append_nil _).symm
    · rw [hcleared]
      exact h.nodup_pixels
    · rw [if_neg hoff]
      rfl

omit [DecidableEq ι] in
theorem pixelIds_createScanlines (T : Toolkit γ ι) (d : Display γ ι) :
    (T.createScanlines d).pixelIds = d.pixelIds := by
  unfold createScanlines
  dsimp only
  split <;> rfl

omit [DecidableEq ι] in
theorem scanlinesOn_createScanlines (T : Toolkit γ ι) (d : Display γ ι) :
    (T.createScanlines d).scanlinesOn = d.scanlinesOn := by
  unfold createScanlines
  dsimp only
  split <;> rfl

/-! ## Frames -/

omit [DecidableEq ι] in
/-- No two pixels have one rectangle. -/
theorem Listed.pixel_unique (h : T.Listed d) {m n : Nat} {id : ι} (hm : d.pixelIds[m]? = some id)
    (hn : d.pixelIds[n]? = some id) : m = n := by
  obtain ⟨hmlt, hm⟩ := Array.getElem?_eq_some_iff.mp hm
  obtain ⟨hnlt, hn⟩ := Array.getElem?_eq_some_iff.mp hn
  have heq : d.pixelIds.toList[m] = d.pixelIds.toList[n] := by
    rw [Array.getElem_toList, Array.getElem_toList, hm, hn]
  exact h.nodup_pixels.getElem_inj_iff.mp heq

theorem stack_paint (hT : T.Lawful) (d : Display γ ι) (frame : Frame) (c : γ) (n : Nat) :
    T.stack (T.paint d frame c n) = T.stack c := by
  unfold paint
  split
  · exact hT.stack_recolor _ _ _
  · rfl

theorem item?_paint_of_eq (hT : T.Lawful) {frame : Frame} {n : Nat} {id : ι}
    (hn : d.pixelIds[n]? = some id) (c : γ) :
    T.item? (T.paint d frame c n) id =
      (T.item? c id).map fun r => { r with fill := Renderer.fillOf d.config frame n } := by
  rw [paint, hn]
  exact hT.item?_recolor _ _ _

theorem item?_paint_of_ne (hT : T.Lawful) {frame : Frame} {n : Nat} {id : ι}
    (hn : d.pixelIds[n]? ≠ some id) (c : γ) :
    T.item? (T.paint d frame c n) id = T.item? c id := by
  unfold paint
  split
  next other hother =>
    refine hT.item?_recolor_of_ne _ _ _ ?_
    rintro rfl
    exact hn hother
  next => rfl

theorem item?_foldl_paint_of_ne (hT : T.Lawful) {frame : Frame} {ns : List Nat} {id : ι}
    (hns : ∀ n ∈ ns, d.pixelIds[n]? ≠ some id) (c : γ) :
    T.item? (ns.foldl (T.paint d frame) c) id = T.item? c id := by
  induction ns generalizing c with
  | nil => rfl
  | cons n ns ih =>
    obtain ⟨hn, hns⟩ := List.forall_mem_cons.mp hns
    rw [List.foldl_cons, ih hns, item?_paint_of_ne hT hn]

/-- A pixel that is painted among others has its own colour in the end. -/
theorem item?_foldl_paint (hT : T.Lawful) (h : T.Listed d) {frame : Frame} (ns : List Nat)
    {n : Nat} {id : ι} (hn : d.pixelIds[n]? = some id) (c : γ) :
    T.item? (ns.foldl (T.paint d frame) c) id =
      if n ∈ ns then
        (T.item? c id).map fun r => { r with fill := Renderer.fillOf d.config frame n }
      else T.item? c id := by
  induction ns generalizing c with
  | nil => simp
  | cons m ns ih =>
    rw [List.foldl_cons, ih]
    by_cases hm : m = n
    · subst hm
      rw [item?_paint_of_eq hT hn]
      cases T.item? c id <;> simp
    · have hother : d.pixelIds[m]? ≠ some id := fun hid => hm (h.pixel_unique hid hn)
      rw [item?_paint_of_ne hT hother]
      simp [Ne.symm hm]

theorem stack_foldl_paint (hT : T.Lawful) (d : Display γ ι) (frame : Frame) (c : γ)
    (ns : List Nat) : T.stack (ns.foldl (T.paint d frame) c) = T.stack c := by
  induction ns generalizing c with
  | nil => rfl
  | cons n ns ih => exact (ih (T.paint d frame c n)).trans (stack_paint hT d frame c n)

/-- **Painting a frame changes the colours of the pixels** and nothing else. -/
theorem recolors_render (hT : T.Lawful) (h : T.Listed d) (frame : Frame) :
    T.Recolors d frame (T.render d frame) where
  stack_eq := by rw [render, stack_foldl_paint hT]
  pixels n id hn := by
    have hlt : n < 2048 := h.pixels ▸ (Array.getElem?_eq_some_iff.mp hn).1
    rw [render, item?_foldl_paint hT h _ hn, if_pos (List.mem_range.mpr hlt)]
  others id hid := by
    rw [render, item?_foldl_paint_of_ne hT fun n _ hn => hid (Array.mem_of_getElem? hn)]

theorem Tidy.render (hT : T.Lawful) (h : T.Tidy d) (frame : Frame) : T.Tidy (T.render d frame) := by
  have hstack := (recolors_render hT h.toListed frame).stack_eq
  have hnodup := h.nodup
  rw [← hstack] at hnodup
  rw [Toolkit.render] at hstack hnodup ⊢
  exact ⟨⟨hstack.trans h.stack_eq, hnodup, h.pixels⟩, h.scanlines⟩

/-! ## Sequences of acts -/

theorem tidy_newDisplay (hT : T.Lawful) (config : HostConfig) (c : γ) :
    T.Tidy (T.newDisplay config c) := by
  obtain ⟨hstack, hsize, hnodup⟩ :=
    stack_createAll hT (T.deleteAll c) (Renderer.pixelRectangles config)
  rw [hT.stack_deleteAll, List.nil_append] at hstack
  rw [hT.stack_deleteAll] at hnodup
  rw [Renderer.length_pixelRectangles] at hsize
  rw [newDisplay]
  generalize T.createAll (T.deleteAll c) (Renderer.pixelRectangles config) = made at *
  exact Listed.createScanlines hT
    ⟨hstack.trans (List.append_nil _).symm, hnodup List.nodup_nil, hsize⟩

/-- The acts leave the pixels' table as it is, and the scanlines as the toggles among them say. -/
theorem Tidy.act (hT : T.Lawful) (h : T.Tidy d) (a : DisplayAct) :
    T.Tidy (T.act d a) ∧ (T.act d a).pixelIds = d.pixelIds ∧
      (T.act d a).scanlinesOn = a.switch d.scanlinesOn := by
  cases a with
  | toggleScanlines =>
    have hlisted : T.Listed { d with scanlinesOn := !d.scanlinesOn } :=
      ⟨h.stack_eq, h.nodup, h.pixels⟩
    exact ⟨hlisted.createScanlines hT, T.pixelIds_createScanlines _,
      T.scanlinesOn_createScanlines _⟩
  | render frame =>
    exact ⟨h.render hT frame, by rw [Toolkit.act, Toolkit.render],
      by rw [Toolkit.act, Toolkit.render, DisplayAct.switch]⟩

/-- **A display stays tidy** whatever is done to it, and draws its pixels once and for all. -/
theorem tidy_acts (hT : T.Lawful) (h : T.Tidy d) (as : List DisplayAct) :
    T.Tidy (T.acts d as) ∧ (T.acts d as).pixelIds = d.pixelIds ∧
      (T.acts d as).scanlinesOn = as.foldl DisplayAct.switch d.scanlinesOn := by
  induction as generalizing d with
  | nil => exact ⟨h, rfl, rfl⟩
  | cons a as ih =>
    obtain ⟨hact, hpixels, hon⟩ := h.act hT a
    obtain ⟨hacts, hrest, hswitch⟩ := ih hact
    rw [hon] at hswitch
    exact ⟨hacts, hrest.trans hpixels, hswitch⟩

end Toolkit

end Chip8
