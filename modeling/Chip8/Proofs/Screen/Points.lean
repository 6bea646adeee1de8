import Chip8.Screen
import Mathlib.Data.List.Nodup

/-!
# Drawing, point by point

A sprite as the list of points under its set bits, row by row and from left to right, and drawing as
toggling these points one after another. This is the reading of a drawing that counts pixels; the
screen itself works on whole rows of bits.

* `plot_snd_apply`: a point ends up toggled as often as it is listed.
* `plot_fst_iff`: drawing collides iff some point is lit, or listed again, when its turn comes.
* `draw_eq_plot`: drawing on the screen is plotting the sprite's points.
-/

namespace Chip8

/-- A place on the screen: its column and its row. -/
abbrev Point := Fin 64 × Fin 32

/-- Which points are lit. -/
abbrev Plane := Point → Bool

/-- The point that a pair of coordinates falls on, around both edges. -/
def Point.at (x y : Int) : Point :=
  (⟨(x % 64).toNat, by omega⟩, ⟨(y % 32).toNat, by omega⟩)

/-- The points under the set bits of one sprite row, from left to right. -/
def rowPoints (x y : Int) (byte : Nat) : List Point :=
  ((List.range 8).filter fun c => byte.testBit (7 - c)).map fun c : Nat => Point.at (x + c) y

/-- The points under the set bits of a sprite, row by row. -/
def spritePoints (x y : Int) : List Nat → List Point
  | [] => []
  | byte :: rest => rowPoints x y byte ++ spritePoints x (y + 1) rest

namespace Plane

/-- A dark point lit, or a lit one dark. -/
def toggle (f : Plane) (p : Point) : Plane :=
  Function.update f p (!f p)

/-- Toggles points one after another, and says whether one of them was lit when its turn came. -/
def plot (f : Plane) : List Point → Bool × Plane
  | [] => (false, f)
  | p :: ps => (f p || (plot (f.toggle p) ps).1, (plot (f.toggle p) ps).2)

/-! ## Plotting a list of points -/

theorem toggle_self (f : Plane) (p : Point) : f.toggle p p = !f p :=
  Function.update_self ..

theorem toggle_of_ne (f : Plane) {p q : Point} (h : q ≠ p) : f.toggle p q = f q :=
  Function.update_of_ne h ..

theorem plot_append (f : Plane) (ps qs : List Point) :
    f.plot (ps ++ qs) =
      ((f.plot ps).1 || ((f.plot ps).2.plot qs).1, ((f.plot ps).2.plot qs).2) := by
  induction ps generalizing f with
  | nil => simp [plot]
  | cons p ps ih => simp [plot, ih, Bool.or_assoc]

/-- **A point ends up toggled as often as it is listed.** -/
theorem plot_snd_apply (f : Plane) (ps : List Point) (q : Point) :
    (f.plot ps).2 q = (f q ^^ decide (ps.count q % 2 = 1)) := by
  induction ps generalizing f with
  | nil => simp [plot]
  | cons p ps ih =>
    rw [plot, ih]
    by_cases h : q = p
    · subst h
      rw [toggle_self, List.count_cons_self]
      rcases Nat.mod_two_eq_zero_or_one (ps.count q) with h2 | h2
      · have : (ps.count q + 1) % 2 = 1 := by omega
        simp [h2, this]
      · have : (ps.count q + 1) % 2 ≠ 1 := by omega
        simp [h2, this]
    · rw [toggle_of_ne f h, List.count_cons_of_ne (Ne.symm h)]

/-- **Plotting meets a lit point** iff some point was lit and is listed, or is listed twice. -/
theorem plot_fst_iff (f : Plane) (ps : List Point) :
    (f.plot ps).1 = true ↔ ∃ q, 2 ≤ (f q).toNat + ps.count q := by
  induction ps generalizing f with
  | nil =>
    simp only [plot, List.count_nil, Nat.add_zero, Bool.false_eq_true, false_iff, not_exists]
    intro q
    have := (f q).toNat_le
    omega
  | cons p ps ih =>
    simp only [plot, Bool.or_eq_true, ih]
    constructor
    · rintro (h | ⟨q, hq⟩)
      · exact ⟨p, by rw [h, List.count_cons_self, Bool.toNat_true]; omega⟩
      · refine ⟨q, ?_⟩
        by_cases h : q = p
        · subst h
          have hnot : (!f q).toNat ≤ (f q).toNat + 1 := by cases f q <;> decide
          rw [toggle_self] at hq
          rw [List.count_cons_self]
          omega
        · rw [toggle_of_ne f h] at hq
          rw [List.count_cons_of_ne (Ne.symm h)]
          exact hq
    · rintro ⟨q, hq⟩
      by_cases h : q = p
      · -- the point is lit now, or it is lit from now on and listed again
        subst h
        rw [List.count_cons_self] at hq
        cases hf : f q with
        | true => exact Or.inl rfl
        | false =>
          rw [hf, Bool.toNat_false] at hq
          refine Or.inr ⟨q, ?_⟩
          rw [toggle_self, hf, Bool.not_false, Bool.toNat_true]
          omega
      · rw [List.count_cons_of_ne (Ne.symm h)] at hq
        exact Or.inr ⟨q, by rw [toggle_of_ne f h]; exact hq⟩

/-- Points that are listed once each are toggled, and collide where they were lit. -/
theorem plot_of_nodup (f : Plane) {ps : List Point} (h : ps.Nodup) :
    ((f.plot ps).1 = true ↔ ∃ q ∈ ps, f q = true) ∧
      ∀ q, (q ∈ ps → (f.plot ps).2 q = !f q) ∧ (q ∉ ps → (f.plot ps).2 q = f q) := by
  have hcount : ∀ q, ps.count q = if q ∈ ps then 1 else 0 := fun q => by
    split
    · rename_i hq
      have := List.nodup_iff_count.mp h q
      have := List.count_pos_iff.mpr hq
      omega
    · rename_i hq
      exact List.count_eq_zero_of_not_mem hq
  refine ⟨?_, fun q => ?_⟩
  · rw [plot_fst_iff]
    refine exists_congr fun q => ?_
    rw [hcount q]
    by_cases hq : q ∈ ps <;> cases f q <;> simp [hq]
  · rw [plot_snd_apply, hcount q]
    constructor
    · intro hq
      simp [hq]
    · intro hq
      simp [hq]

end Plane

/-! ## One row of a sprite -/

theorem mem_rowPoints {x y : Int} {byte : Nat} {p : Point} :
    p ∈ rowPoints x y byte ↔
      ∃ c : Nat, c < 8 ∧ byte.testBit (7 - c) = true ∧ p = Point.at (x + c) y := by
  simp only [rowPoints, List.mem_map, List.mem_filter, List.mem_range, and_assoc, eq_comm]

/-- The eight columns under a sprite row are eight different ones. -/
theorem nodup_rowPoints (x y : Int) (byte : Nat) : (rowPoints x y byte).Nodup := by
  refine List.Nodup.map_on ?_ (List.nodup_range.filter _)
  intro c hc d hd h
  rw [List.mem_filter, List.mem_range] at hc hd
  have hcol := congrArg (fun p : Point => p.1.val) h
  simp only [Point.at] at hcol
  omega

namespace Frame

/-- The picture as the points that are lit. -/
def plane (f : Frame) : Plane :=
  fun p => f.pixel p.1 p.2

theorem eq_of_plane {f g : Frame} (h : f.plane = g.plane) : f = g :=
  Vector.ext fun y hy => BitVec.eq_of_getMsbD_eq fun x hx => congrFun h (⟨x, hx⟩, ⟨y, hy⟩)

/-- The bits of a byte at the left end of a row. -/
theorem getMsbD_leftmost (byte : UInt8) (k : Nat) :
    (byte.toBitVec.setWidth 64 <<< 56).getMsbD k =
      (decide (k < 8) && byte.toNat.testBit (7 - k)) := by
  rw [BitVec.getMsbD_shiftLeft, BitVec.getMsbD_setWidth, BitVec.getMsbD_eq_getLsbD]
  have h1 : k + 56 + 8 - 64 = k := by omega
  have h2 : 64 - 8 ≤ k + 56 := by omega
  rw [h1]
  simp only [h2, decide_true, Bool.true_and]
  rfl

/-- **The mask of a sprite row** has its bits in the columns of the row's points. -/
theorem getMsbD_spriteMask (x : Nat) (byte : UInt8) {j : Nat} (hj : j < 64) :
    (spriteMask x byte).getMsbD j = true ↔
      ∃ c : Nat, c < 8 ∧ byte.toNat.testBit (7 - c) = true ∧ j = (x + c) % 64 := by
  have hrot : (spriteMask x byte).getMsbD j =
      (byte.toBitVec.setWidth 64 <<< 56).getMsbD ((64 + j - x % 64) % 64) := by
    rw [spriteMask, BitVec.getMsbD_rotateRight]
    simp only [hj, decide_true, Bool.true_and]
    split
    · rfl
    · congr 1; omega
  rw [hrot, getMsbD_leftmost, Bool.and_eq_true, decide_eq_true_eq]
  constructor
  · rintro ⟨hc, hb⟩
    exact ⟨_, hc, hb, by omega⟩
  · rintro ⟨c, hc, hb, rfl⟩
    have hcol : (64 + (x + c) % 64 - x % 64) % 64 = c := by omega
    rw [hcol]
    exact ⟨hc, hb⟩

/-- The points of a sprite row are those of its screen row where its mask has a bit. -/
theorem mem_rowPoints_iff_mask (x y : Nat) (byte : UInt8) (p : Point) :
    p ∈ rowPoints x y byte.toNat ↔ p.2.val = y % 32 ∧ (spriteMask x byte).getMsbD p.1 = true := by
  rw [mem_rowPoints, getMsbD_spriteMask x byte p.1.isLt]
  constructor
  · rintro ⟨c, hc, hb, rfl⟩
    refine ⟨?_, c, hc, hb, ?_⟩
    · simp only [Point.at]; omega
    · simp only [Point.at]; omega
  · rintro ⟨hy, c, hc, hb, hx⟩
    refine ⟨c, hc, hb, Prod.ext (Fin.ext ?_) (Fin.ext ?_)⟩
    · simp only [Point.at]; omega
    · simp only [Point.at]; omega

theorem plane_setRow (f : Frame) (y : Fin 32) (r : BitVec 64) (p : Point) :
    plane (f.setRow y r) p = if p.2 = y then r.getMsbD p.1 else f.plane p := by
  simp only [plane, pixel, row, setRow, Fin.getElem_fin, Vector.getElem_set, Fin.ext_iff,
    eq_comm (a := y.val)]
  split <;> rfl

theorem ne_zero_iff_getMsbD (row : BitVec 64) :
    row ≠ 0 ↔ ∃ j : Fin 64, row.getMsbD j = true := by
  constructor
  · intro h
    by_contra hno
    refine h (BitVec.eq_of_getMsbD_eq fun i hi => ?_)
    rw [not_exists] at hno
    simpa using hno ⟨i, hi⟩
  · rintro ⟨j, hj⟩ rfl
    simp at hj

/-- **A screen row takes a sprite row** as its points plotted one after another. -/
theorem plot_rowPoints (f : Frame) (x : Nat) (y : Fin 32) (byte : UInt8) :
    f.plane.plot (rowPoints x y byte.toNat) =
      (f.row y &&& spriteMask x byte != 0,
        plane (f.setRow y (f.row y ^^^ spriteMask x byte))) := by
  obtain ⟨hfst, hsnd⟩ := f.plane.plot_of_nodup (nodup_rowPoints x y byte.toNat)
  have hy : y.val % 32 = y.val := Nat.mod_eq_of_lt y.isLt
  refine Prod.ext (Bool.eq_iff_iff.mpr ?_) (funext fun p => ?_)
  · rw [hfst, bne_iff_ne, ne_zero_iff_getMsbD]
    constructor
    · rintro ⟨p, hp, hlit⟩
      obtain ⟨hrow, hmask⟩ := (mem_rowPoints_iff_mask x y byte p).mp hp
      have : p.2 = y := Fin.ext (hrow.trans hy)
      subst this
      refine ⟨p.1, ?_⟩
      rw [BitVec.getMsbD_and, hmask, Bool.and_true]
      exact hlit
    · rintro ⟨j, hj⟩
      rw [BitVec.getMsbD_and, Bool.and_eq_true] at hj
      exact ⟨(j, y), (mem_rowPoints_iff_mask x y byte (j, y)).mpr ⟨hy.symm, hj.2⟩, hj.1⟩
  · show _ = plane (f.setRow y (f.row y ^^^ spriteMask x byte)) p
    rw [plane_setRow]
    by_cases hp : p.2 = y
    · rw [if_pos hp, BitVec.getMsbD_xor]
      cases hm : (spriteMask x byte).getMsbD p.1 with
      | true =>
        have hmem : p ∈ rowPoints x y byte.toNat :=
          (mem_rowPoints_iff_mask x y byte p).mpr ⟨by rw [hp, hy], hm⟩
        rw [(hsnd p).1 hmem, Bool.xor_true, ← hp]
        rfl
      | false =>
        have hmem : p ∉ rowPoints x y byte.toNat := by
          intro h
          rw [((mem_rowPoints_iff_mask x y byte p).mp h).2] at hm
          cases hm
        rw [(hsnd p).2 hmem, Bool.xor_false, ← hp]
        rfl
    · rw [if_neg hp]
      refine (hsnd p).2 fun h => ?_
      exact hp (Fin.ext (((mem_rowPoints_iff_mask x y byte p).mp h).1.trans hy))

end Frame

/-! ## Whole sprites -/

theorem Point.at_congr {x y x' y' : Int} (hx : x % 64 = x' % 64) (hy : y % 32 = y' % 32) :
    Point.at x y = Point.at x' y' := by
  simp only [Point.at, hx, hy]

theorem rowPoints_congr {x y x' y' : Int} (hx : x % 64 = x' % 64) (hy : y % 32 = y' % 32)
    (byte : Nat) : rowPoints x y byte = rowPoints x' y' byte := by
  unfold rowPoints
  refine List.map_congr_left fun c _ => Point.at_congr ?_ hy
  omega

/-- A sprite's points depend on where its corner falls on the screen alone. -/
theorem spritePoints_congr {x y x' y' : Int} (hx : x % 64 = x' % 64) (hy : y % 32 = y' % 32)
    (bytes : List Nat) : spritePoints x y bytes = spritePoints x' y' bytes := by
  induction bytes generalizing y y' with
  | nil => rfl
  | cons byte rest ih =>
    have hy' : (y + 1) % 32 = (y' + 1) % 32 := by omega
    rw [spritePoints, spritePoints, rowPoints_congr hx hy, ih hy']

/-- **Drawing row by row is plotting point by point.** -/
theorem Frame.blit_eq_plot (f : Frame) (x y : Nat) (sprite : List UInt8) :
    ((f.blit x y sprite).1, (f.blit x y sprite).2.plane) =
      f.plane.plot (spritePoints x y (sprite.map UInt8.toNat)) := by
  induction sprite generalizing f y with
  | nil => rfl
  | cons byte rest ih =>
    have hrow : rowPoints x y byte.toNat = rowPoints x (y % 32 : Nat) byte.toNat :=
      rowPoints_congr rfl (by omega) _
    rw [List.map_cons, spritePoints, Plane.plot_append, hrow,
      plot_rowPoints f x ⟨y % 32, Nat.mod_lt _ (by decide)⟩ byte, ← Int.natCast_succ, ← ih]
    rfl

/-- **Drawing on the screen is plotting the sprite's points.** -/
theorem Screen.draw_eq_plot (s : Screen) (x y : Int) (sprite : List UInt8) :
    ((s.draw x y sprite).1, (s.draw x y sprite).2.frame.plane) =
      s.frame.plane.plot (spritePoints x y (sprite.map UInt8.toNat)) := by
  have hpts : spritePoints (wrap 64 x) (wrap 32 y) (sprite.map UInt8.toNat) =
      spritePoints x y (sprite.map UInt8.toNat) :=
    spritePoints_congr (by simp only [wrap]; omega) (by simp only [wrap]; omega) _
  rw [← hpts, ← Frame.blit_eq_plot]
  rfl

theorem Screen.plane_clear (s : Screen) : s.clear.frame.plane = fun _ => false := by
  funext p
  simp [clear, Frame.plane, Frame.pixel, Frame.row, Frame.blank]

end Chip8
