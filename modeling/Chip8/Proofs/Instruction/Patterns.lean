import Chip8.Instruction.Decode

/-!
# The words of an instruction

`Instruction.Encodes` is the column of patterns of the instruction table: which words stand for an
instruction, written with the digits of the word and without a look at the decoder. Where the table
leaves a digit open (`5XY0`, `9XY0`, `8XY6`, `8XYE`), every digit will do.

* `decode_eq_some_iff`: the decoder finds an instruction exactly at its words.
* `decode_eq_none_iff`: it finds none exactly at the words that match no row.
-/

namespace Chip8

namespace Word

/-! ## A word and its digits -/

theorem family_val (w : Word) : w.family.val = w.toNat / 0x1000 := rfl

theorem nn_toNat (w : Word) : w.nn.toNat = w.toNat % 0x100 := by
  simp [nn]

/-- A word is its family and its twelve-bit address. -/
theorem toNat_eq_nnn (w : Word) : w.toNat = 0x1000 * w.family + w.nnn := by
  simp only [family, nnn]; omega

/-- A word is its family, a register and a byte. -/
theorem toNat_eq_nn (w : Word) : w.toNat = 0x1000 * w.family + 0x100 * w.x + w.nn.toNat := by
  rw [nn_toNat]
  simp only [family, x]; omega

/-- A word is its four digits. -/
theorem toNat_eq_n (w : Word) : w.toNat = 0x1000 * w.family + 0x100 * w.x + 0x10 * w.y + w.n := by
  simp only [family, x, y, n]; omega

theorem nnn_eq {w : Word} {f : Nat} {a : Address} (h : w.toNat = 0x1000 * f + a) :
    w.family.val = f ∧ w.nnn = a := by
  have := a.isLt
  refine ⟨?_, Fin.ext ?_⟩
  · rw [family_val]; omega
  · simp only [nnn]; omega

theorem nn_eq {w : Word} {f : Nat} {r : Nibble} {b : UInt8}
    (h : w.toNat = 0x1000 * f + 0x100 * r + b.toNat) :
    w.family.val = f ∧ w.x = r ∧ w.nn = b := by
  have := r.isLt
  have := b.toNat_lt
  refine ⟨?_, Fin.ext ?_, UInt8.toNat.inj ?_⟩
  · rw [family_val]; omega
  · simp only [x]; omega
  · rw [nn_toNat]; omega

theorem n_eq {w : Word} {f k : Nat} {r s : Nibble} (hk : k < 16)
    (h : w.toNat = 0x1000 * f + 0x100 * r + 0x10 * s + k) :
    w.family.val = f ∧ w.x = r ∧ w.y = s ∧ w.n.val = k := by
  have := r.isLt
  have := s.isLt
  refine ⟨?_, Fin.ext ?_, Fin.ext ?_, ?_⟩
  · rw [family_val]; omega
  · simp only [x]; omega
  · simp only [y]; omega
  · simp only [n]; omega

end Word

/-! ## The patterns -/

/-- **The patterns of the instruction table**: the word `w` stands for the instruction. -/
def Instruction.Encodes : Instruction → Nat → Prop
  | clear, w => w = 0x00E0
  | ret, w => w = 0x00EE
  | jump target, w => w = 0x1000 + target
  | call target, w => w = 0x2000 + target
  | skipEqByte x value, w => w = 0x3000 + 0x100 * x + value.toNat
  | skipNeByte x value, w => w = 0x4000 + 0x100 * x + value.toNat
  | skipEq x y, w => ∃ k < 16, w = 0x5000 + 0x100 * x + 0x10 * y + k
  | loadByte x value, w => w = 0x6000 + 0x100 * x + value.toNat
  | addByte x value, w => w = 0x7000 + 0x100 * x + value.toNat
  | copy x y, w => w = 0x8000 + 0x100 * x + 0x10 * y + 0x0
  | or x y, w => w = 0x8000 + 0x100 * x + 0x10 * y + 0x1
  | and x y, w => w = 0x8000 + 0x100 * x + 0x10 * y + 0x2
  | xor x y, w => w = 0x8000 + 0x100 * x + 0x10 * y + 0x3
  | add x y, w => w = 0x8000 + 0x100 * x + 0x10 * y + 0x4
  | sub x y, w => w = 0x8000 + 0x100 * x + 0x10 * y + 0x5
  | shiftRight x, w => ∃ y : Nibble, w = 0x8000 + 0x100 * x + 0x10 * y + 0x6
  | subFrom x y, w => w = 0x8000 + 0x100 * x + 0x10 * y + 0x7
  | shiftLeft x, w => ∃ y : Nibble, w = 0x8000 + 0x100 * x + 0x10 * y + 0xE
  | skipNe x y, w => ∃ k < 16, w = 0x9000 + 0x100 * x + 0x10 * y + k
  | loadIndex target, w => w = 0xA000 + target
  | jumpOffset target, w => w = 0xB000 + target
  | random x mask, w => w = 0xC000 + 0x100 * x + mask.toNat
  | draw x y height, w => w = 0xD000 + 0x100 * x + 0x10 * y + height
  | skipPressed x, w => w = 0xE000 + 0x100 * x + 0x9E
  | skipReleased x, w => w = 0xE000 + 0x100 * x + 0xA1
  | readDelay x, w => w = 0xF000 + 0x100 * x + 0x07
  | awaitKey x, w => w = 0xF000 + 0x100 * x + 0x0A
  | setDelay x, w => w = 0xF000 + 0x100 * x + 0x15
  | setSound x, w => w = 0xF000 + 0x100 * x + 0x18
  | addIndex x, w => w = 0xF000 + 0x100 * x + 0x1E
  | glyph x, w => w = 0xF000 + 0x100 * x + 0x29
  | decimal x, w => w = 0xF000 + 0x100 * x + 0x33
  | store x, w => w = 0xF000 + 0x100 * x + 0x55
  | load x, w => w = 0xF000 + 0x100 * x + 0x65

open Instruction

/-! ## The decoder reads the patterns -/

theorem encodes_of_decodeSystem {w : Word} {i : Instruction} (h : decodeSystem w = some i) :
    i.Encodes w.toNat := by
  unfold decodeSystem at h
  split at h
  · rename_i hw; cases h; exact hw
  · rename_i hw; cases h; exact hw
  · cases h

theorem encodes_of_decodeArithmetic {w : Word} {i : Instruction} (hf : w.family.val = 0x8)
    (h : decodeArithmetic w = some i) : i.Encodes w.toNat := by
  have hw := w.toNat_eq_n
  unfold decodeArithmetic at h
  split at h
  case h_7 => cases h; exact ⟨w.y, by omega⟩
  case h_9 => cases h; exact ⟨w.y, by omega⟩
  case h_10 => cases h
  all_goals cases h; simp only [Encodes]; omega

theorem encodes_of_decodeKey {w : Word} {i : Instruction} (hf : w.family.val = 0xE)
    (h : decodeKey w = some i) : i.Encodes w.toNat := by
  have hw := w.toNat_eq_nn
  unfold decodeKey at h
  split at h
  case h_3 => cases h
  all_goals cases h; simp only [Encodes]; omega

theorem encodes_of_decodeMisc {w : Word} {i : Instruction} (hf : w.family.val = 0xF)
    (h : decodeMisc w = some i) : i.Encodes w.toNat := by
  have hw := w.toNat_eq_nn
  unfold decodeMisc at h
  split at h
  case h_10 => cases h
  all_goals cases h; simp only [Encodes]; omega

/-- What the decoder finds has the word as one of its words. -/
theorem encodes_of_decode {w : Word} {i : Instruction} (h : decode w = some i) :
    i.Encodes w.toNat := by
  have hnnn := w.toNat_eq_nnn
  have hnn := w.toNat_eq_nn
  have hn := w.toNat_eq_n
  unfold decode at h
  split at h
  case h_1 => exact encodes_of_decodeSystem h
  case h_6 => cases h; exact ⟨w.n, w.n.isLt, by omega⟩
  case h_9 hf => exact encodes_of_decodeArithmetic hf h
  case h_10 => cases h; exact ⟨w.n, w.n.isLt, by omega⟩
  case h_15 hf => exact encodes_of_decodeKey hf h
  case h_16 hf => exact encodes_of_decodeMisc hf h
  case h_17 => cases h
  all_goals cases h; simp only [Encodes]; omega

/-- A word of an instruction decodes to it. -/
theorem decode_of_encodes {w : Word} {i : Instruction} (h : i.Encodes w.toNat) :
    decode w = some i := by
  cases i with
  | clear =>
    have hf : w.family.val = 0x0 := by rw [Word.family_val]; simp only [Encodes] at h; omega
    simp only [Encodes] at h
    simp [decode, decodeSystem, hf, h]
  | ret =>
    have hf : w.family.val = 0x0 := by rw [Word.family_val]; simp only [Encodes] at h; omega
    simp only [Encodes] at h
    simp [decode, decodeSystem, hf, h]
  | jump target =>
    obtain ⟨hf, ha⟩ := Word.nnn_eq (f := 0x1) h
    simp [decode, hf, ha]
  | call target =>
    obtain ⟨hf, ha⟩ := Word.nnn_eq (f := 0x2) h
    simp [decode, hf, ha]
  | loadIndex target =>
    obtain ⟨hf, ha⟩ := Word.nnn_eq (f := 0xA) h
    simp [decode, hf, ha]
  | jumpOffset target =>
    obtain ⟨hf, ha⟩ := Word.nnn_eq (f := 0xB) h
    simp [decode, hf, ha]
  | skipEqByte x value =>
    obtain ⟨hf, hx, hb⟩ := Word.nn_eq (f := 0x3) h
    simp [decode, hf, hx, hb]
  | skipNeByte x value =>
    obtain ⟨hf, hx, hb⟩ := Word.nn_eq (f := 0x4) h
    simp [decode, hf, hx, hb]
  | loadByte x value =>
    obtain ⟨hf, hx, hb⟩ := Word.nn_eq (f := 0x6) h
    simp [decode, hf, hx, hb]
  | addByte x value =>
    obtain ⟨hf, hx, hb⟩ := Word.nn_eq (f := 0x7) h
    simp [decode, hf, hx, hb]
  | random x mask =>
    obtain ⟨hf, hx, hb⟩ := Word.nn_eq (f := 0xC) h
    simp [decode, hf, hx, hb]
  | skipEq x y =>
    obtain ⟨k, hk, h⟩ := h
    obtain ⟨hf, hx, hy, -⟩ := Word.n_eq (f := 0x5) hk h
    simp [decode, hf, hx, hy]
  | skipNe x y =>
    obtain ⟨k, hk, h⟩ := h
    obtain ⟨hf, hx, hy, -⟩ := Word.n_eq (f := 0x9) hk h
    simp [decode, hf, hx, hy]
  | draw x y height =>
    obtain ⟨hf, hx, hy, hn⟩ := Word.n_eq (f := 0xD) height.isLt h
    simp [decode, hf, hx, hy, Fin.ext_iff, hn]
  | copy x y =>
    obtain ⟨hf, hx, hy, hn⟩ := Word.n_eq (f := 0x8) (k := 0x0) (by decide) h
    simp [decode, decodeArithmetic, hf, hx, hy, hn]
  | or x y =>
    obtain ⟨hf, hx, hy, hn⟩ := Word.n_eq (f := 0x8) (k := 0x1) (by decide) h
    simp [decode, decodeArithmetic, hf, hx, hy, hn]
  | and x y =>
    obtain ⟨hf, hx, hy, hn⟩ := Word.n_eq (f := 0x8) (k := 0x2) (by decide) h
    simp [decode, decodeArithmetic, hf, hx, hy, hn]
  | xor x y =>
    obtain ⟨hf, hx, hy, hn⟩ := Word.n_eq (f := 0x8) (k := 0x3) (by decide) h
    simp [decode, decodeArithmetic, hf, hx, hy, hn]
  | add x y =>
    obtain ⟨hf, hx, hy, hn⟩ := Word.n_eq (f := 0x8) (k := 0x4) (by decide) h
    simp [decode, decodeArithmetic, hf, hx, hy, hn]
  | sub x y =>
    obtain ⟨hf, hx, hy, hn⟩ := Word.n_eq (f := 0x8) (k := 0x5) (by decide) h
    simp [decode, decodeArithmetic, hf, hx, hy, hn]
  | subFrom x y =>
    obtain ⟨hf, hx, hy, hn⟩ := Word.n_eq (f := 0x8) (k := 0x7) (by decide) h
    simp [decode, decodeArithmetic, hf, hx, hy, hn]
  | shiftRight x =>
    obtain ⟨y, h⟩ := h
    obtain ⟨hf, hx, hy, hn⟩ := Word.n_eq (f := 0x8) (k := 0x6) (by decide) h
    simp [decode, decodeArithmetic, hf, hx, hn]
  | shiftLeft x =>
    obtain ⟨y, h⟩ := h
    obtain ⟨hf, hx, hy, hn⟩ := Word.n_eq (f := 0x8) (k := 0xE) (by decide) h
    simp [decode, decodeArithmetic, hf, hx, hn]
  | skipPressed x =>
    obtain ⟨hf, hx, hb⟩ := Word.nn_eq (f := 0xE) (b := 0x9E) h
    simp [decode, decodeKey, hf, hx, hb]
  | skipReleased x =>
    obtain ⟨hf, hx, hb⟩ := Word.nn_eq (f := 0xE) (b := 0xA1) h
    simp [decode, decodeKey, hf, hx, hb]
  | readDelay x =>
    obtain ⟨hf, hx, hb⟩ := Word.nn_eq (f := 0xF) (b := 0x07) h
    simp [decode, decodeMisc, hf, hx, hb]
  | awaitKey x =>
    obtain ⟨hf, hx, hb⟩ := Word.nn_eq (f := 0xF) (b := 0x0A) h
    simp [decode, decodeMisc, hf, hx, hb]
  | setDelay x =>
    obtain ⟨hf, hx, hb⟩ := Word.nn_eq (f := 0xF) (b := 0x15) h
    simp [decode, decodeMisc, hf, hx, hb]
  | setSound x =>
    obtain ⟨hf, hx, hb⟩ := Word.nn_eq (f := 0xF) (b := 0x18) h
    simp [decode, decodeMisc, hf, hx, hb]
  | addIndex x =>
    obtain ⟨hf, hx, hb⟩ := Word.nn_eq (f := 0xF) (b := 0x1E) h
    simp [decode, decodeMisc, hf, hx, hb]
  | glyph x =>
    obtain ⟨hf, hx, hb⟩ := Word.nn_eq (f := 0xF) (b := 0x29) h
    simp [decode, decodeMisc, hf, hx, hb]
  | decimal x =>
    obtain ⟨hf, hx, hb⟩ := Word.nn_eq (f := 0xF) (b := 0x33) h
    simp [decode, decodeMisc, hf, hx, hb]
  | store x =>
    obtain ⟨hf, hx, hb⟩ := Word.nn_eq (f := 0xF) (b := 0x55) h
    simp [decode, decodeMisc, hf, hx, hb]
  | load x =>
    obtain ⟨hf, hx, hb⟩ := Word.nn_eq (f := 0xF) (b := 0x65) h
    simp [decode, decodeMisc, hf, hx, hb]

/-- **The decoder finds an instruction exactly at its words.** -/
theorem decode_eq_some_iff {w : Word} {i : Instruction} :
    decode w = some i ↔ i.Encodes w.toNat :=
  ⟨encodes_of_decode, decode_of_encodes⟩

/-- **The decoder finds nothing exactly at the words that match no row.** -/
theorem decode_eq_none_iff {w : Word} :
    decode w = none ↔ ∀ i : Instruction, ¬ i.Encodes w.toNat := by
  constructor
  · intro h i hi
    rw [decode_of_encodes hi] at h
    cases h
  · intro h
    cases hd : decode w with
    | none => rfl
    | some i => exact absurd (encodes_of_decode hd) (h i)

/-- No word stands for two instructions. -/
theorem encodes_unique {w : Word} {i j : Instruction} (hi : i.Encodes w.toNat)
    (hj : j.Encodes w.toNat) : i = j :=
  Option.some.inj ((decode_of_encodes hi).symm.trans (decode_of_encodes hj))

end Chip8
