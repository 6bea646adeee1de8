import Chip8.Host.Renderer
import Chip8.Proofs.Screen.Points
import Mathlib.Data.List.Induction

/-!
# What the canvas shows

The canvas keeps a rectangle for each pixel, and scanlines above them that come and go. The pixels
are recoloured by the identifiers that they were drawn under, so a painted frame is shown as long as
these identifiers stand for the pixels' rectangles and for nothing else. `Laid` says so; drawing the
scanlines anew keeps it, though it deletes and draws on the same canvas.

* `Renderer.shows_render`: a frame that is painted is shown.
* `Renderer.Shows.toggleScanlines`: scanlines leave what is shown.
* `Renderer.shows_initial`: a new picture is that of a dark screen.
-/

namespace Chip8

/-! ## Many rectangles at once -/

namespace Canvas

/-- **Rectangles drawn one after the other** lie on top in that order, under the next identifiers. -/
theorem createAll_eq (c : Canvas) (rs : List Rectangle) :
    c.createAll rs =
      (Array.range' c.items.size rs.length, ⟨c.items ++ (rs.map some).toArray⟩) := by
  induction rs using List.reverseRecOn with
  | nil => simp [createAll]
  | append_singleton rs r ih =>
    have hstep : c.createAll (rs ++ [r]) =
        ((c.createAll rs).1.push (c.createAll rs).2.items.size,
          ⟨(c.createAll rs).2.items.push (some r)⟩) := by
      simp [createAll, create]
    rw [hstep, ih]
    simp [Array.range'_concat]

theorem lt_size_of_isSome {c : Canvas} {id : Nat} (h : (c.item? id).isSome = true) :
    id < c.items.size := by
  by_contra hle
  simp [item?, Array.getElem?_eq_none (Nat.le_of_not_lt hle)] at h

/-- What is drawn on top leaves what is there. -/
theorem item?_createAll (c : Canvas) (rs : List Rectangle) {id : Nat} (h : id < c.items.size) :
    (c.createAll rs).2.item? id = c.item? id := by
  rw [createAll_eq, item?, item?, Array.getElem?_append_left h]

theorem item?_foldl_delete (c : Canvas) (ids : Array Nat) {id : Nat} (h : id ∉ ids) :
    (ids.foldl delete c).item? id = c.item? id := by
  rw [← Array.foldl_toList]
  rw [Array.mem_def] at h
  generalize ids.toList = ids at h
  induction ids generalizing c with
  | nil => rfl
  | cons n ids ih =>
    rw [List.mem_cons, not_or] at h
    rw [List.foldl_cons, ih _ h.2, item?_delete, if_neg h.1]

/-- Rectangles recoloured one after the other, each with its own colour. -/
theorem item?_foldl_recolor (c : Canvas) (ids : List Nat) (fill : Nat → String) (id : Nat) :
    (ids.foldl (fun c n => c.recolor n (fill n)) c).item? id =
      if id ∈ ids then (c.item? id).map fun r => { r with fill := fill id } else c.item? id := by
  induction ids generalizing c with
  | nil => simp
  | cons n ids ih =>
    rw [List.foldl_cons, ih, item?_recolor]
    by_cases hn : id = n
    · subst hn
      cases c.item? id <;> simp
    · simp [hn]

end Canvas

/-! ## Frames as they are painted -/

namespace Frame

theorem length_rowPixels (row : BitVec 64) : (rowPixels row).length = 64 := by
  simp [rowPixels]

theorem getElem?_flatMap_rowPixels (rows : List (BitVec 64)) (i : Nat) {j : Nat} (hj : j < 64) :
    (rows.flatMap rowPixels)[i * 64 + j]? = rows[i]?.map fun row => row.getMsbD j := by
  induction rows generalizing i with
  | nil => simp
  | cons row rows ih =>
    rw [List.flatMap_cons]
    cases i with
    | zero => simp [List.getElem?_append_left, hj, rowPixels]
    | succ i =>
      have hlen : (rowPixels row).length ≤ (i + 1) * 64 + j := by rw [length_rowPixels]; omega
      have hsub : (i + 1) * 64 + j - (rowPixels row).length = i * 64 + j := by
        rw [length_rowPixels]; omega
      rw [List.getElem?_append_right hlen, hsub, ih, List.getElem?_cons_succ]

/-- The pixels of a frame row by row. -/
theorem getElem?_pixels (f : Frame) (p : Point) :
    (f.toList.flatMap rowPixels)[p.2.val * 64 + p.1.val]? = some (f.pixel p.1 p.2) := by
  rw [getElem?_flatMap_rowPixels _ _ p.1.isLt]
  simp [pixel, row]

end Frame

/-! ## The rectangles of the pixels -/

namespace Renderer

/-- The place of a pixel's rectangle in the list of them. -/
def offset (p : Point) : Nat :=
  p.2.val * 64 + p.1.val

theorem offset_lt (p : Point) : offset p < 2048 := by
  unfold offset; omega

/-- **What is drawn on the canvas**: first of all a rectangle for each pixel, row by row, and above
them whatever there is of scanlines. -/
structure Laid (r : Renderer) : Prop where
  pixels : ∀ n < 2048, r.pixelIds[n]? = some n
  drawn : ∀ n < 2048, (r.canvas.item? n).isSome = true
  above : ∀ id ∈ r.scanlineIds, 2048 ≤ id

/-- Lit and dark look different, if the two colours do. -/
theorem color_inj {config : HostConfig} (hcolor : config.pixelColor ≠ config.backgroundColor)
    {b c : Bool} (h : color config b = color config c) : b = c := by
  cases b <;> cases c
  · rfl
  · exact absurd h.symm hcolor
  · exact absurd h hcolor
  · rfl

/-- The colour of a pixel's rectangle. -/
def fill? (r : Renderer) (p : Point) : Option String :=
  (r.pixel? p.1 p.2).map Rectangle.fill

/-- **The canvas shows the frame**: each pixel's rectangle has the colour of the pixel. -/
structure Shows (r : Renderer) (frame : Frame) : Prop extends Laid r where
  fills : ∀ p : Point, r.fill? p = some (color r.config (frame.pixel p.1 p.2))

variable {r : Renderer} {frame : Frame}

theorem Laid.fill?_eq (h : r.Laid) (p : Point) :
    r.fill? p = (r.canvas.item? (offset p)).map Rectangle.fill := by
  have hin : p.1.val < 64 ∧ p.2.val < 32 := ⟨p.1.isLt, p.2.isLt⟩
  have hid : r.pixelIds[p.2.val * 64 + p.1.val]? = some (offset p) := h.pixels _ (offset_lt p)
  rw [fill?, pixel?, if_pos hin, hid]
  rfl

/-! ## Scanlines -/

/-- Taking the scanlines away leaves the pixels. -/
theorem Laid.item?_cleared (h : r.Laid) {n : Nat} (hn : n < 2048) :
    (r.scanlineIds.foldl Canvas.delete r.canvas).item? n = r.canvas.item? n := by
  refine Canvas.item?_foldl_delete _ _ fun hmem => ?_
  have := h.above n hmem
  omega

theorem Laid.size_cleared (h : r.Laid) :
    2048 ≤ (r.scanlineIds.foldl Canvas.delete r.canvas).items.size := by
  have hlast : 2047 < 2048 := by omega
  have := Canvas.lt_size_of_isSome (h.item?_cleared hlast ▸ h.drawn 2047 hlast)
  omega

theorem config_createScanlines (r : Renderer) : r.createScanlines.config = r.config := by
  unfold createScanlines
  dsimp only
  split <;> rfl

theorem pixelIds_createScanlines (r : Renderer) : r.createScanlines.pixelIds = r.pixelIds := by
  unfold createScanlines
  dsimp only
  split <;> rfl

/-- Drawing the scanlines anew leaves the pixels. -/
theorem Laid.item?_createScanlines (h : r.Laid) {n : Nat} (hn : n < 2048) :
    r.createScanlines.canvas.item? n = r.canvas.item? n := by
  have hsize := h.size_cleared
  have hclear := h.item?_cleared hn
  unfold createScanlines
  dsimp only
  split
  · exact (Canvas.item?_createAll _ _ (by omega)).trans hclear
  · exact hclear

theorem Laid.createScanlines (h : r.Laid) : r.createScanlines.Laid where
  pixels := by rw [pixelIds_createScanlines]; exact h.pixels
  drawn n hn := by rw [h.item?_createScanlines hn]; exact h.drawn n hn
  above := by
    have hsize := h.size_cleared
    unfold Renderer.createScanlines
    dsimp only
    split
    · intro id hid
      simp only [Canvas.createAll_eq, Array.mem_range'_1] at hid
      omega
    · simp

theorem Shows.createScanlines (h : r.Shows frame) : r.createScanlines.Shows frame where
  toLaid := h.toLaid.createScanlines
  fills p := by
    have hfill := h.fills p
    rw [h.toLaid.fill?_eq] at hfill
    rw [h.toLaid.createScanlines.fill?_eq, h.toLaid.item?_createScanlines (offset_lt p),
      config_createScanlines]
    exact hfill

theorem config_toggleScanlines (r : Renderer) : r.toggleScanlines.config = r.config :=
  config_createScanlines { r with scanlinesOn := !r.scanlinesOn }

theorem Shows.toggleScanlines (h : r.Shows frame) : r.toggleScanlines.Shows frame :=
  Shows.createScanlines (r := { r with scanlinesOn := !r.scanlinesOn })
    ⟨⟨h.pixels, h.drawn, h.above⟩, h.fills⟩

/-! ## Pixels -/

theorem config_render (r : Renderer) (frame : Frame) : (r.render frame).config = r.config := by
  unfold render
  rfl

theorem pixelIds_render (r : Renderer) (frame : Frame) :
    (r.render frame).pixelIds = r.pixelIds := by
  unfold render
  rfl

theorem scanlineIds_render (r : Renderer) (frame : Frame) :
    (r.render frame).scanlineIds = r.scanlineIds := by
  unfold render
  rfl

/-- The colours of a frame's pixels, row by row. -/
def fillOf (config : HostConfig) (frame : Frame) (n : Nat) : String :=
  color config ((frame.toList.flatMap Frame.rowPixels)[n]?.getD false)

theorem fillOf_offset (config : HostConfig) (frame : Frame) (p : Point) :
    fillOf config frame (offset p) = color config (frame.pixel p.1 p.2) := by
  rw [fillOf, offset, frame.getElem?_pixels, Option.getD_some]

theorem canvas_render (h : r.Laid) (frame : Frame) :
    (r.render frame).canvas =
      (List.range 2048).foldl (fun c n => c.recolor n (fillOf r.config frame n)) r.canvas := by
  unfold render
  dsimp only
  refine List.foldl_ext _ _ _ fun c n hn => ?_
  rw [h.pixels n (List.mem_range.mp hn), List.getElem?_toArray, Option.getD_some, fillOf]

theorem item?_render (h : r.Laid) (frame : Frame) {n : Nat} (hn : n < 2048) :
    (r.render frame).canvas.item? n =
      (r.canvas.item? n).map fun rect => { rect with fill := fillOf r.config frame n } := by
  rw [canvas_render h, Canvas.item?_foldl_recolor, if_pos (List.mem_range.mpr hn)]

/-- **A frame that is painted is shown.** -/
theorem shows_render (h : r.Laid) (frame : Frame) : (r.render frame).Shows frame := by
  have hlaid : (r.render frame).Laid := by
    refine ⟨?_, fun n hn => ?_, ?_⟩
    · rw [pixelIds_render]
      exact h.pixels
    · rw [item?_render h frame hn, Option.isSome_map]
      exact h.drawn n hn
    · rw [scanlineIds_render]
      exact h.above
  refine ⟨hlaid, fun p => ?_⟩
  obtain ⟨rect, hrect⟩ := Option.isSome_iff_exists.mp (h.drawn _ (offset_lt p))
  rw [hlaid.fill?_eq, item?_render h frame (offset_lt p), hrect, fillOf_offset, config_render]
  rfl

theorem length_pixelRectangles (config : HostConfig) : (pixelRectangles config).length = 2048 := by
  rw [pixelRectangles, List.length_map, List.length_range]

theorem getElem?_pixelRectangles (config : HostConfig) {n : Nat} (hn : n < 2048) :
    (pixelRectangles config)[n]? = some (pixelRectangle config (n % 64) (n / 64)) := by
  rw [pixelRectangles, List.getElem?_map, List.getElem?_range hn]
  rfl

/-- The rectangles of dark pixels on an empty canvas. -/
theorem shows_pixelRectangles (config : HostConfig) (on : Bool) :
    Shows ⟨config, (Canvas.empty.createAll (pixelRectangles config)).2, on,
      (Canvas.empty.createAll (pixelRectangles config)).1, #[]⟩ Frame.blank := by
  have hitem : ∀ n < 2048, (Canvas.empty.createAll (pixelRectangles config)).2.item? n =
      some (pixelRectangle config (n % 64) (n / 64)) := fun n hn => by
    simp [Canvas.createAll_eq, Canvas.item?, Canvas.empty, getElem?_pixelRectangles config hn]
  have hlaid : Laid ⟨config, (Canvas.empty.createAll (pixelRectangles config)).2, on,
      (Canvas.empty.createAll (pixelRectangles config)).1, #[]⟩ := by
    refine ⟨fun n hn => ?_, fun n hn => ?_, fun id hid => ?_⟩
    · rw [Canvas.createAll_eq, length_pixelRectangles]
      simp [Canvas.empty, hn]
    · rw [hitem n hn]
      rfl
    · simp at hid
  refine ⟨hlaid, fun p => ?_⟩
  rw [hlaid.fill?_eq, hitem _ (offset_lt p)]
  simp [Frame.blank, Frame.pixel, Frame.row, color, pixelRectangle]

theorem config_initial (config : HostConfig) : (initial config).config = config :=
  config_createScanlines _

/-- **A new picture is that of a dark screen.** -/
theorem shows_initial (config : HostConfig) : (initial config).Shows Frame.blank :=
  (shows_pixelRectangles config config.scanlines).createScanlines

end Renderer

end Chip8
