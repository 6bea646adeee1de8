import Chip8.Proofs.Bare.Layout
import Chip8.Proofs.Memory.Honesty

/-!
# Reading after writing

A block that is written is read back byte by byte, whatever block around, beside or within it is
read; a block that is refused leaves everything as it was. Bytes, blocks and words are read and
written by operations of their own, which agree wherever two of them apply.

* `Overwrites`: what reading finds after a write.
* `Stores`: what comes of writing a block, refused or not.
* `store_laws`: it is so of all blocks at all addresses; a byte is a block of one, a word is two
  bytes.
-/

namespace Chip8.Memory

variable {m m' : Memory} {a b : Int} {d : List UInt8} {f : Fault}

/-- **What reading finds after the block `d` was written at `a`**: its bytes where they were put,
and everywhere else what was there before. -/
def Overwrites (m m' : Memory) (a : Int) (d : List UInt8) : Prop :=
  ∀ (b : Int) (n : Nat), 0 ≤ b → b + n ≤ 4096 → ∃ before after,
    m.readBlock b n = .ok before ∧ m'.readBlock b n = .ok after ∧
      before.length = n ∧ after.length = n ∧
      ∀ j < n, after[j]? =
        if a ≤ b + j ∧ b + j < a + d.length then d[(b + j - a).toNat]? else before[j]?

/-- **What comes of writing the block `d` at `a`.** -/
structure Stores (m : Memory) (a : Int) (d : List UInt8) : Prop where
  /-- It is refused if it leaves memory or touches the glyphs. -/
  refused_iff : (∃ f, m.writeBlock a d = .error f) ↔
    a < 0 ∨ 4096 < a + d.length ∨ d ≠ [] ∧ a < 0x50
  /-- The refusal is about an address. -/
  fault : ∀ f, m.writeBlock a d = .error f → ∃ address reason, f = .addressOutOfRange address reason
  overwrites : ∀ m', m.writeBlock a d = .ok m' → m.Overwrites m' a d
  /-- Done in place, a refused write leaves all as it was, and one that goes through leaves as many
  cells as there were. -/
  inPlace : ∀ {τ : Type} (s : Bare τ), s.memory = Bare.numbers m.cells.toList →
    (∀ f, m.writeBlock a d = .error f →
      Bare.writeBlock a (Bare.numbers d) s = .error (.fault f) s) ∧
    ∀ m', m.writeBlock a d = .ok m' →
      ∃ s', Bare.writeBlock a (Bare.numbers d) s = .ok () s' ∧
        s'.memory = Bare.numbers m'.cells.toList ∧ s'.memory.length = 4096

/-- The word at an address is its two bytes, high byte first, and is refused where one of them is. -/
def WordOfBytes (m : Memory) (b : Int) : Prop :=
  match m.read b, m.read (b + 1) with
  | .ok high, .ok low => ∃ w, m.readWord b = .ok w ∧ w.toNat = 256 * high.toNat + low.toNat
  | _, _ => ∃ f, m.readWord b = .error f

/-! ## Blocks -/

theorem getElem?_slice (m : Memory) (start : Nat) {n j : Nat} (h : j < n) :
    (m.slice start (start + n))[j]? = some (m.byte (start + j)) := by
  simp [slice, h]

/-- **A patch that lies in memory overwrites its cells** and no other. -/
theorem overwrites_patch (m : Memory) (hin : InMemory a d.length) :
    m.Overwrites (m.patch a.toNat d) a d := by
  obtain ⟨ha0, ha1⟩ := hin
  intro b n h0 h1
  lift b to Nat using h0
  have hb : b + n ≤ 4096 := by omega
  refine ⟨_, _, readBlock_natCast_eq_ok_iff.mpr ⟨hb, rfl⟩,
    readBlock_natCast_eq_ok_iff.mpr ⟨hb, rfl⟩, by simp, by simp, ?_⟩
  intro j hj
  have hfit : a.toNat + d.length ≤ memorySize := by simp only [memorySize]; omega
  rw [getElem?_slice _ _ hj, getElem?_slice _ _ hj, byte_patch _ _ _ _ hfit]
  by_cases hcell : a ≤ b + j ∧ b + j < a + d.length
  · have hplace : b + j - a.toNat = (b + j - a : Int).toNat := by omega
    have hlt : (b + j - a).toNat < d.length := by omega
    rw [if_pos hcell, if_pos (by omega), hplace, List.getElem?_eq_getElem hlt]
    rfl
  · rw [if_neg hcell, if_neg (by omega)]

theorem writeBlock_refused_iff :
    (∃ f, m.writeBlock a d = .error f) ↔ a < 0 ∨ 4096 < a + d.length ∨ d ≠ [] ∧ a < 0x50 := by
  have hempty : d ≠ [] ↔ 0 < (d.length : Int) := by
    rw [Int.natCast_pos, List.length_pos_iff]
  rw [hempty]
  constructor
  · rintro ⟨f, hf⟩
    rcases writeBlock_eq_error_iff.mp hf with ⟨hout, -⟩ | ⟨-, hglyph, -⟩
    · unfold InMemory at hout
      omega
    · unfold OffGlyphs at hglyph
      omega
  · intro h
    by_cases hin : InMemory a d.length
    · refine ⟨_, writeBlock_eq_error_iff.mpr (.inr ⟨hin, ?_, rfl⟩)⟩
      unfold InMemory at hin
      unfold OffGlyphs
      omega
    · exact ⟨_, writeBlock_eq_error_iff.mpr (.inl ⟨hin, rfl⟩)⟩

theorem stores (m : Memory) (a : Int) (d : List UInt8) : m.Stores a d where
  refused_iff := writeBlock_refused_iff
  fault f hf := by
    rcases writeBlock_eq_error_iff.mp hf with ⟨-, rfl⟩ | ⟨-, -, rfl⟩
    · exact ⟨_, _, rfl⟩
    · exact ⟨_, _, rfl⟩
  overwrites m' hm' := by
    obtain ⟨⟨hin, -⟩, rfl⟩ := writeBlock_eq_ok_iff.mp hm'
    exact m.overwrites_patch hin
  inPlace s hs := by
    have hwrite := Bare.writeBlock_eq hs a d
    constructor
    · intro f hf
      rw [hwrite, hf]
    · intro m' hm'
      refine ⟨_, by rw [hwrite, hm'], rfl, ?_⟩
      exact (Bare.length_numbers _).trans Vector.length_toList

/-! ## Bytes and words -/

/-- A byte is written as a block of one. -/
theorem write_eq (m : Memory) (a v : Int) : m.write a v = m.writeBlock a [UInt8.ofInt v] := rfl

theorem wordOfBytes (m : Memory) (b : Int) : m.WordOfBytes b := by
  unfold WordOfBytes
  split
  · rename_i high low hhigh hlow
    obtain ⟨⟨h0, -⟩, rfl⟩ := read_eq_ok_iff.mp hhigh
    obtain ⟨⟨-, h1⟩, rfl⟩ := read_eq_ok_iff.mp hlow
    have hnext : (b + 1).toNat = b.toNat + 1 := by omega
    refine ⟨_, readWord_eq_ok_iff.mpr ⟨⟨h0, by omega⟩, rfl⟩, ?_⟩
    rw [Machine.ofBytes_toNat, hnext]
  · rename_i hnot
    refine ⟨_, readWord_eq_error_iff.mpr ⟨?_, rfl⟩⟩
    rintro ⟨h0, h1⟩
    exact hnot _ _ (read_eq_ok_iff.mpr ⟨⟨h0, by omega⟩, rfl⟩)
      (read_eq_ok_iff.mpr ⟨⟨by omega, by omega⟩, rfl⟩)

/-- **The laws of storing.** Whatever is in memory, and whatever is written wherever: what comes of
writing a block is as `Stores` says; a number written as a byte is written as the block of its
lowest eight bits; and a word is read as its two bytes are. -/
theorem store_laws (m : Memory) :
    (∀ a d, m.Stores a d) ∧
    (∀ a v : Int, ∃ byte : UInt8, (byte.toNat : Int) = v % 256 ∧
      m.write a v = m.writeBlock a [byte]) ∧
    ∀ b, m.WordOfBytes b :=
  ⟨m.stores, fun a v => ⟨UInt8.ofInt v, Bare.toNat_ofInt8 v, m.write_eq a v⟩, m.wordOfBytes⟩

/-- A block that starts right after the glyphs, and the same block one cell lower. -/
theorem store_laws_besideGlyphs :
    (∃ f, initial.writeBlock 0x4F [1, 2, 3] = .error f) ∧
    ∃ m', initial.writeBlock 0x50 [1, 2, 3] = .ok m' ∧ m'.readBlock 0x51 2 = .ok [2, 3] := by
  obtain ⟨hstores, -, -⟩ := store_laws initial
  refine ⟨(hstores 0x4F [1, 2, 3]).refused_iff.mpr (by decide), ?_⟩
  cases hw : initial.writeBlock 0x50 [1, 2, 3] with
  | error f => exact absurd ((hstores 0x50 [1, 2, 3]).refused_iff.mp ⟨f, hw⟩) (by decide)
  | ok m' =>
    obtain ⟨before, after, -, hafter, -, hlen, hcells⟩ :=
      (hstores 0x50 [1, 2, 3]).overwrites m' hw 0x51 2 (by decide) (by decide)
    obtain ⟨p, q, rfl⟩ := List.length_eq_two.mp hlen
    have hp : some p = some 2 := hcells 0 (by decide)
    have hq : some q = some 3 := hcells 1 (by decide)
    cases hp
    cases hq
    exact ⟨m', rfl, hafter⟩

end Chip8.Memory
