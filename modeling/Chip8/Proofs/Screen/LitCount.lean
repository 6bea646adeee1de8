import Chip8.Proofs.Screen.Coverage

/-!
# Lit pixels before and after a drawing

Every set bit of a sprite toggles one pixel, so it adds one to the number of lit pixels or takes one
off. What a drawing does to that number is settled by how often a lit pixel goes dark on the way,
and so is its answer. A sprite that overlaps itself is no exception: a pixel that it lights and
turns off again counts as gone dark.

* `Plane.lit_plot`: the number of lit points, toggle by toggle.
* `Plane.darkened_eq_sum`: how often each point goes dark.
* `Screen.litCount_draw`: the number of lit pixels after a drawing, and the answer.
-/

namespace Chip8

/-- The number of set bits in the rows of a sprite. -/
def setBits (rows : List UInt8) : Nat :=
  (rows.map fun byte => (List.range 8).countP byte.toNat.testBit).sum

namespace Plane

variable {f : Plane} {ps : List Point}

/-- The number of lit points. -/
def lit (f : Plane) : Nat :=
  ∑ p : Point, (f p).toNat

/-- **How many times a lit point goes dark** while points are toggled one after another. -/
def darkened (f : Plane) : List Point → Nat
  | [] => 0
  | p :: ps => (f p).toNat + darkened (f.toggle p) ps

/-! ## Toggle by toggle -/

/-- Two sums whose terms differ at one place. -/
theorem sum_add_of_ne {α : Type} [Fintype α] [DecidableEq α] {g h : α → Nat} (a : α)
    (hne : ∀ b ≠ a, g b = h b) : ∑ b, g b + h a = ∑ b, h b + g a := by
  have hrest : ∑ b ∈ Finset.univ.erase a, g b = ∑ b ∈ Finset.univ.erase a, h b :=
    Finset.sum_congr rfl fun b hb => hne b (Finset.ne_of_mem_erase hb)
  rw [← Finset.add_sum_erase _ g (Finset.mem_univ a),
    ← Finset.add_sum_erase _ h (Finset.mem_univ a), hrest]
  omega

/-- A toggle lights a point, or it turns one off. -/
theorem lit_toggle (f : Plane) (p : Point) : (f.toggle p).lit + 2 * (f p).toNat = f.lit + 1 := by
  have hsum := sum_add_of_ne (g := fun q => (f.toggle p q).toNat) (h := fun q => (f q).toNat) p
    fun q hq => by rw [toggle_of_ne f hq]
  have hself : (f.toggle p p).toNat + (f p).toNat = 1 := by
    rw [toggle_self]
    cases f p <;> rfl
  unfold lit
  omega

/-- **Every toggle adds a lit point, but for those that turn one off.** -/
theorem lit_plot (f : Plane) (ps : List Point) :
    (f.plot ps).2.lit + 2 * f.darkened ps = f.lit + ps.length := by
  induction ps generalizing f with
  | nil => rfl
  | cons p ps ih =>
    have hrest := ih (f.toggle p)
    have htoggle := f.lit_toggle p
    simp only [plot, darkened, List.length_cons]
    omega

/-- Plotting meets a lit point iff one goes dark. -/
theorem plot_fst_iff_darkened (f : Plane) (ps : List Point) :
    (f.plot ps).1 = true ↔ 0 < f.darkened ps := by
  induction ps generalizing f with
  | nil => simp [plot, darkened]
  | cons p ps ih =>
    simp only [plot, darkened, Bool.or_eq_true, ih]
    cases f p with
    | false => simp
    | true =>
      rw [Bool.toNat_true]
      simp only [true_or, true_iff]
      omega

/-- **How often each point goes dark**: every second time that it is listed, from the first on if it
was lit. -/
theorem darkened_eq_sum (f : Plane) (ps : List Point) :
    f.darkened ps = ∑ p, ((f p).toNat + ps.count p) / 2 := by
  induction ps generalizing f with
  | nil =>
    symm
    refine Finset.sum_eq_zero fun p _ => ?_
    cases f p <;> simp
  | cons p ps ih =>
    have hsum := sum_add_of_ne (g := fun q => ((f.toggle p q).toNat + ps.count q) / 2)
      (h := fun q => ((f q).toNat + (p :: ps).count q) / 2) p fun q hq => by
        rw [toggle_of_ne f hq, List.count_cons_of_ne (Ne.symm hq)]
    rw [darkened, ih]
    -- at the point itself the toggle makes up for the entry that is gone from the list
    simp only [toggle_self, List.count_cons_self] at hsum
    cases hp : f p with
    | false =>
      simp only [hp, Bool.not_false, Bool.toNat_true, Bool.toNat_false] at hsum ⊢
      omega
    | true =>
      simp only [hp, Bool.not_true, Bool.toNat_true, Bool.toNat_false] at hsum ⊢
      omega

end Plane

/-! ## Rows and bits -/

theorem countP_testBit (byte : Nat) :
    (List.range 8).countP (fun c => byte.testBit (7 - c)) = (List.range 8).countP byte.testBit := by
  have hmirror : (List.range 8).map (7 - ·) = (List.range 8).reverse := by decide
  rw [← List.countP_reverse (l := List.range 8) (p := byte.testBit), ← hmirror, List.countP_map]
  rfl

/-- A sprite has a point for every set bit. -/
theorem length_spritePoints (x y : Int) (rows : List UInt8) :
    (spritePoints x y (rows.map UInt8.toNat)).length = setBits rows := by
  induction rows generalizing y with
  | nil => rfl
  | cons byte rows ih =>
    have hrow : (rowPoints x y byte.toNat).length = (List.range 8).countP byte.toNat.testBit := by
      rw [rowPoints, List.length_map, ← List.countP_eq_length_filter, countP_testBit]
    rw [List.map_cons, spritePoints, List.length_append, hrow, ih]
    rfl

namespace Frame

/-- The lit pixels of a row, column by column. -/
theorem count_rowPixels (row : BitVec 64) :
    (rowPixels row).count true = ∑ x : Fin 64, (row.getMsbD x).toNat := by
  have hcount := Nat.count_eq_card_filter_range (fun x => row.getMsbD x = true) 64
  have hterm : ∀ b : Bool, (if b = true then 1 else 0) = b.toNat := by decide
  rw [Nat.count, Finset.card_filter, Finset.sum_range] at hcount
  simp only [hterm] at hcount
  rw [rowPixels, List.count_eq_countP, List.countP_map, ← hcount]
  refine List.countP_congr fun x _ => ?_
  simp

/-- The number of lit pixels is that of lit points. -/
theorem litCount_eq (f : Frame) : f.litCount = f.plane.lit := by
  have hrows : f.toList = List.ofFn f.row := by
    refine List.ext_getElem (by rw [Vector.length_toList, List.length_ofFn]) fun y hy hy' => ?_
    rw [List.getElem_ofFn, Vector.getElem_toList]
    rfl
  have hsum : f.litCount = (f.toList.map fun row => (rowPixels row).count true).sum := by
    rw [litCount, List.sum_eq_foldl, List.foldl_map]
  rw [hsum, hrows, List.map_ofFn, List.sum_ofFn, Plane.lit, Fintype.sum_prod_type_right]
  refine Finset.sum_congr rfl fun y _ => ?_
  exact count_rowPixels (f.row y)

end Frame

namespace Screen

/-- **How many lit pixels drawing a sprite turns off**, each counted as often as it is turned off. -/
def darkened (s : Screen) (x y : Int) (rows : List UInt8) : Nat :=
  s.frame.plane.darkened (spritePoints x y (rows.map UInt8.toNat))

variable (s : Screen) (x y : Int) (rows : List UInt8)

theorem litCount_add_darkened :
    (s.draw x y rows).2.frame.litCount + 2 * s.darkened x y rows =
      s.frame.litCount + setBits rows := by
  have hsum := s.frame.plane.lit_plot (spritePoints x y (rows.map UInt8.toNat))
  rw [← s.draw_eq_plot x y rows, length_spritePoints] at hsum
  rw [Frame.litCount_eq, Frame.litCount_eq]
  exact hsum

theorem draw_fst_iff_darkened : (s.draw x y rows).1 = true ↔ 0 < s.darkened x y rows := by
  have hhit := s.frame.plane.plot_fst_iff_darkened (spritePoints x y (rows.map UInt8.toNat))
  rw [← s.draw_eq_plot x y rows] at hhit
  exact hhit

/-- **The answer agrees with the number of lit pixels.** Whatever is on the screen, wherever the
corner is put and however many rows there are: the answer is no iff the number of lit pixels has
grown by the number of set bits; otherwise some lit pixel was turned off, and the number is less than
that by two for each. A pixel goes dark every second time that the sprite covers it, from the first
time on if it was lit. -/
theorem litCount_draw :
    ((s.draw x y rows).1 = false ↔
        (s.draw x y rows).2.frame.litCount = s.frame.litCount + setBits rows) ∧
      ((s.draw x y rows).1 = true ↔ 0 < s.darkened x y rows) ∧
      (s.draw x y rows).2.frame.litCount + 2 * s.darkened x y rows =
        s.frame.litCount + setBits rows ∧
      s.darkened x y rows =
        ∑ p : Point, ((s.frame.pixel p.1 p.2).toNat + coverage x y rows p) / 2 := by
  have hsum := s.litCount_add_darkened x y rows
  have hhit := s.draw_fst_iff_darkened x y rows
  refine ⟨?_, hhit, hsum, ?_⟩
  · rw [← Bool.not_eq_true, hhit]
    constructor
    · intro h
      omega
    · intro h
      omega
  · rw [darkened, Plane.darkened_eq_sum]
    refine Finset.sum_congr rfl fun p _ => ?_
    rw [count_spritePoints]
    rfl

/-- Two equal rows of eight one above the other light sixteen pixels; 33 rows meet the first again. -/
example : (initial.draw 60 31 [0xFF, 0xFF]).2.frame.litCount = 16 ∧
    (initial.draw 60 31 (List.replicate 33 0xFF)).2.frame.litCount = 248 := by
  decide +kernel

end Screen

end Chip8
