import Chip8.Memory

/-!
# Which accesses are refused

When an access to memory fails and with which fault. A check refuses a block that leaves memory; a
write is refused as well where it would touch the glyphs, but only once the block lies in memory.

* `readWord_eq_error_iff`, `readBlock_eq_error_iff`, `writeBlock_eq_error_iff`: the exact
  conditions.
* `read_eq_ok_iff`, `readWord_eq_ok_iff`, `readBlock_eq_ok_iff`, `writeBlock_eq_ok_iff`: what an
  access gives that is not refused.
-/

namespace Chip8

/-! ## Computations that may be refused -/

namespace Checked

variable {α β : Type} {x : Except Fault α} {g : α → β}

/-- What follows a computation without a check of its own is refused when the computation is. -/
theorem eq_error_iff {f : Fault} : (x >>= fun a => pure (g a)) = .error f ↔ x = .error f := by
  cases x <;> simp [bind, Except.bind, pure, Except.pure]

theorem eq_ok_iff {b : β} : (x >>= fun a => pure (g a)) = .ok b ↔ ∃ a, x = .ok a ∧ b = g a := by
  cases x <;> simp [bind, Except.bind, pure, Except.pure, eq_comm]

theorem map_eq {γ : Type} (h : β → γ) :
    (x >>= fun a => pure (g a) : Except Fault β).map h = x >>= fun a => pure (h (g a)) := by
  cases x <;> rfl

end Checked

namespace Memory

/-- The block lies in memory. -/
def InMemory (address length : Int) : Prop :=
  0 ≤ address ∧ address + length ≤ 4096

/-- The block has no cell of a glyph. -/
def OffGlyphs (address length : Int) : Prop :=
  0 < length → 80 ≤ address

/-- The fault of a block that leaves memory. -/
def outsideFault (address length : Int) : Fault :=
  .addressOutOfRange (max address (address + length - 1)) Fault.outsideMemory

/-- The fault of a write that touches the glyphs. -/
def glyphFault (address : Int) : Fault :=
  .addressOutOfRange address Fault.insideGlyphs

variable {m m' : Memory} {address length : Int} {bytes : List UInt8} {f : Fault}

/-! ## The checks -/

theorem checkRange_of_inMemory (h : InMemory address length) :
    checkRange address length = .ok () := by
  obtain ⟨h0, h1⟩ := h
  unfold checkRange
  rw [if_neg]
  simp only [memorySize]; omega

theorem checkRange_of_not_inMemory (h : ¬ InMemory address length) :
    checkRange address length = .error (outsideFault address length) := by
  unfold InMemory at h
  unfold checkRange
  rw [if_pos]
  · rfl
  · simp only [memorySize]; omega

theorem checkRange_eq_ok_iff {u : Unit} :
    checkRange address length = .ok u ↔ InMemory address length := by
  by_cases h : InMemory address length
  · simp [checkRange_of_inMemory h, h]
  · simp [checkRange_of_not_inMemory h, h]

theorem checkRange_eq_error_iff :
    checkRange address length = .error f ↔
      ¬ InMemory address length ∧ f = outsideFault address length := by
  by_cases h : InMemory address length
  · simp [checkRange_of_inMemory h, h]
  · simp [checkRange_of_not_inMemory h, h, eq_comm]

/-- A block in memory is writable or not by its glyphs alone. -/
theorem checkWritable_of_inMemory (h : InMemory address length) :
    checkWritable address length =
      if 0 < length ∧ address < 80 then .error (glyphFault address) else .ok () := by
  rw [checkWritable, checkRange_of_inMemory h]
  rfl

theorem checkWritable_eq_ok_iff {u : Unit} :
    checkWritable address length = .ok u ↔ InMemory address length ∧ OffGlyphs address length := by
  by_cases h : InMemory address length
  · rw [checkWritable_of_inMemory h]
    simp only [h, true_and, OffGlyphs]
    split
    · simp; omega
    · simp; omega
  · simp [checkWritable, checkRange_of_not_inMemory h, h, bind, Except.bind]

theorem checkWritable_eq_error_iff :
    checkWritable address length = .error f ↔
      (¬ InMemory address length ∧ f = outsideFault address length) ∨
      (InMemory address length ∧ ¬ OffGlyphs address length ∧ f = glyphFault address) := by
  by_cases h : InMemory address length
  · rw [checkWritable_of_inMemory h]
    simp only [h, not_true_eq_false, false_and, true_and, false_or, OffGlyphs]
    split
    · rename_i hg
      simp [hg, eq_comm]
    · rename_i hg
      simp; omega
  · simp [checkWritable, checkRange_of_not_inMemory h, h, bind, Except.bind, eq_comm]

/-! ## Reads -/

theorem read_eq_ok_iff {b : UInt8} :
    m.read address = .ok b ↔ InMemory address 1 ∧ b = m.byte address.toNat := by
  rw [read, Checked.eq_ok_iff]
  simp only [checkRange_eq_ok_iff, exists_const]

theorem readBlock_eq_error_iff :
    m.readBlock address length = .error f ↔
      ¬ InMemory address length ∧ f = outsideFault address length := by
  rw [readBlock, Checked.eq_error_iff, checkRange_eq_error_iff]

theorem readBlock_eq_ok_iff :
    m.readBlock address length = .ok bytes ↔
      InMemory address length ∧ bytes = m.slice address.toNat (blockEnd address length) := by
  rw [readBlock, Checked.eq_ok_iff]
  simp only [checkRange_eq_ok_iff, exists_const]

@[simp] theorem length_slice (m : Memory) (start stop : Nat) :
    (m.slice start stop).length = stop - start := by
  simp [slice]

theorem blockEnd_of_nonneg (h : 0 ≤ address + length) :
    blockEnd address length = (address + length).toNat := by
  unfold blockEnd
  exact if_neg (Int.not_lt.mpr h)

theorem blockEnd_of_neg (h : address + length < 0) :
    blockEnd address length = (address + length + 4096).toNat := by
  unfold blockEnd
  exact if_pos h

/-- A block that has no negative place and no negative length is read as it stands. -/
theorem readBlock_natCast_eq_ok_iff {a n : Nat} :
    m.readBlock a n = .ok bytes ↔ a + n ≤ 4096 ∧ bytes = m.slice a (a + n) := by
  have hend : blockEnd a n = a + n := by
    rw [blockEnd_of_nonneg (by omega)]
    omega
  have hin : InMemory a n ↔ a + n ≤ 4096 := by
    unfold InMemory
    omega
  rw [readBlock_eq_ok_iff, hend, hin, Int.toNat_natCast]

theorem readWord_eq_error_iff :
    m.readWord address = .error f ↔ ¬ InMemory address 2 ∧ f = outsideFault address 2 := by
  rw [readWord, Checked.eq_error_iff, checkRange_eq_error_iff]

theorem readWord_eq_ok_iff {w : Word} :
    m.readWord address = .ok w ↔
      InMemory address 2 ∧
        w = Word.ofBytes (m.byte address.toNat) (m.byte (address.toNat + 1)) := by
  rw [readWord, Checked.eq_ok_iff]
  simp only [checkRange_eq_ok_iff, exists_const]

/-! ## Writes -/

theorem writeBlock_eq_error_iff :
    m.writeBlock address bytes = .error f ↔
      (¬ InMemory address bytes.length ∧ f = outsideFault address bytes.length) ∨
      (InMemory address bytes.length ∧ ¬ OffGlyphs address bytes.length ∧
        f = glyphFault address) := by
  rw [writeBlock, Checked.eq_error_iff, checkWritable_eq_error_iff]

theorem writeBlock_eq_ok_iff :
    m.writeBlock address bytes = .ok m' ↔
      (InMemory address bytes.length ∧ OffGlyphs address bytes.length) ∧
        m' = m.patch address.toNat bytes := by
  rw [writeBlock, Checked.eq_ok_iff]
  simp only [checkWritable_eq_ok_iff, exists_const]

end Memory

end Chip8
