import Chip8.Proofs.Screen.Points
import Mathlib.Algebra.BigOperators.Fin
import Mathlib.Data.Nat.Count

/-!
# Drawing, pixel by pixel

How often a sprite covers a pixel decides what drawing does to it. A sprite of more rows than the
screen has covers pixels several times, and collides with itself even on a dark screen.

* `coverage`: the set bits of a sprite that fall on a point.
* `count_spritePoints`: a point is listed among a sprite's points as often as the sprite covers it.
* `Screen.draw_pixelwise`: the pixels, the mark and the answer that drawing leaves.
-/

namespace Chip8

/-- **How many set bits of a sprite fall on a point** when its upper left corner is put at `(x, y)`:
the pairs of a row and one of its eight columns, the leftmost column in the most significant bit. -/
def coverage (x y : Int) (rows : List UInt8) (p : Point) : Nat :=
  (Finset.univ.filter fun q : Fin rows.length × Fin 8 =>
    rows[q.1].toNat.testBit (7 - q.2) = true ∧
      (p.1.val : Int) = (x + q.2.val) % 64 ∧ (p.2.val : Int) = (y + q.1.val) % 32).card

/-- The bits of one row that fall on a point. -/
def rowCoverage (x y : Int) (byte : UInt8) (p : Point) : Nat :=
  ((Finset.range 8).filter fun c : Nat =>
    byte.toNat.testBit (7 - c) = true ∧
      (p.1.val : Int) = (x + c) % 64 ∧ (p.2.val : Int) = y % 32).card

/-! ## Row by row -/

/-- A sprite covers a point as often as its rows do. -/
theorem coverage_eq_sum (x y : Int) (rows : List UInt8) (p : Point) :
    coverage x y rows p = ∑ r : Fin rows.length, rowCoverage x (y + r.val) rows[r] p := by
  rw [coverage, Finset.card_filter, Fintype.sum_prod_type]
  refine Finset.sum_congr rfl fun r _ => ?_
  rw [rowCoverage, Finset.card_filter, Finset.sum_range]

/-- The first row, and the rows below it. -/
theorem coverage_cons (x y : Int) (byte : UInt8) (rows : List UInt8) (p : Point) :
    coverage x y (byte :: rows) p = rowCoverage x y byte p + coverage x (y + 1) rows p := by
  rw [coverage_eq_sum, coverage_eq_sum]
  -- the rows below the first stand one further down in a sprite of their own
  have hsplit := Fin.sum_univ_succ fun r : Fin (rows.length + 1) =>
    rowCoverage x (y + r.val) (byte :: rows)[r] p
  have hbelow : ∀ r : Fin rows.length, y + (r.succ.val : Int) = y + 1 + r.val := fun r => by
    rw [Fin.val_succ]
    omega
  simp only [hbelow] at hsplit
  simpa using hsplit

/-! ## Points and bits -/

theorem Point.eq_at_iff {p : Point} {x y : Int} :
    p = Point.at x y ↔ (p.1.val : Int) = x % 64 ∧ (p.2.val : Int) = y % 32 := by
  constructor
  · rintro rfl
    simp only [Point.at]
    omega
  · rintro ⟨hx, hy⟩
    refine Prod.ext (Fin.ext ?_) (Fin.ext ?_)
    · simp only [Point.at]; omega
    · simp only [Point.at]; omega

theorem count_rowPoints (x y : Int) (byte : UInt8) (p : Point) :
    (rowPoints x y byte.toNat).count p = rowCoverage x y byte p := by
  have hcount := Nat.count_eq_card_filter_range (fun c : Nat => byte.toNat.testBit (7 - c) = true ∧
      (p.1.val : Int) = (x + c) % 64 ∧ (p.2.val : Int) = y % 32) 8
  rw [rowCoverage, ← hcount, Nat.count, rowPoints, List.count_eq_countP, List.countP_map,
    List.countP_filter]
  refine List.countP_congr fun c _ => ?_
  simp only [Function.comp_apply, Bool.and_eq_true, beq_iff_eq, decide_eq_true_eq,
    eq_comm (b := p), Point.eq_at_iff]
  exact and_comm

/-- **A point is listed as often as the sprite covers it.** -/
theorem count_spritePoints (x y : Int) (rows : List UInt8) (p : Point) :
    (spritePoints x y (rows.map UInt8.toNat)).count p = coverage x y rows p := by
  induction rows generalizing y with
  | nil => rfl
  | cons byte rows ih =>
    rw [List.map_cons, spritePoints, List.count_append, count_rowPoints, ih, coverage_cons]

/-! ## Drawing -/

/-- Zeros and ones: toggling as often as `n` says. -/
theorem toNat_xor_decide (b : Bool) (n : Nat) :
    (b ^^ decide (n % 2 = 1)).toNat = b.toNat ^^^ (n % 2) := by
  rcases Nat.mod_two_eq_zero_or_one n with h | h
  · rw [h]
    cases b <;> rfl
  · rw [h]
    cases b <;> rfl

/-- **What drawing does.** Wherever the corner is put and however many rows there are, every pixel is
toggled as often as the sprite covers it, the screen counts as drawn on, and the answer is whether
some pixel that was lit is covered, or one is covered twice. -/
theorem Screen.draw_pixelwise (s : Screen) (x y : Int) (rows : List UInt8) :
    (∀ p : Point, ((s.draw x y rows).2.frame.pixel p.1 p.2).toNat =
        (s.frame.pixel p.1 p.2).toNat ^^^ (coverage x y rows p % 2)) ∧
      (s.draw x y rows).2.dirty = true ∧
      ((s.draw x y rows).1 = true ↔
        ∃ p : Point, 2 ≤ (s.frame.pixel p.1 p.2).toNat + coverage x y rows p) := by
  have hplot := s.draw_eq_plot x y rows
  refine ⟨fun p => ?_, rfl, ?_⟩
  · have hplane := congrFun (congrArg Prod.snd hplot) p
    rw [Plane.plot_snd_apply, count_spritePoints] at hplane
    exact (congrArg Bool.toNat hplane).trans (toNat_xor_decide _ _)
  · have hhit := s.frame.plane.plot_fst_iff (spritePoints x y (rows.map UInt8.toNat))
    rw [← hplot] at hhit
    simp only [count_spritePoints] at hhit
    exact hhit

/-- A dark screen, and a sprite one row taller than it. -/
example : (Screen.initial.draw 0 0 (List.replicate 33 0x80)).1 = true := by
  decide +kernel

end Chip8
