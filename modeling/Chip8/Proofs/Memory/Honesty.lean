import Chip8.Proofs.Memory.Bounds

/-!
# What a bounds check says, and what is so

A check that passes should mean that every cell of the block is there and that reading the block
gives its bytes; a refusal should name an address that no cell has. Both hold of every block that a
program can ask for, but not of every pair of integers: a block of negative length whose end lies
before memory is read up to a place counted back from the end of memory, and a block that begins
before memory and ends in it is refused with the address of its last cell.

* `HoldsBlock`: these bytes are those of the block.
* `ToldTruly`: the check of a block tells the truth about it.
* `toldTruly_iff`: for which blocks it does, and what happens with the others.
-/

namespace Chip8.Memory

variable {m : Memory} {address length : Int} {bytes : List UInt8}

/-- The bytes are those of the block, in order; a block of negative length has none. -/
structure HoldsBlock (m : Memory) (address length : Int) (bytes : List UInt8) : Prop where
  length_eq : (bytes.length : Int) = max length 0
  getElem_eq : ∀ (j : Nat) (h : j < bytes.length), bytes[j] = m.byte (address + j).toNat

/-- **The check of a block tells the truth about it.** -/
structure ToldTruly (m : Memory) (address length : Int) : Prop where
  /-- If it passes, all cells of the block are in memory, and reading gives their bytes. -/
  passed : checkRange address length = .ok () →
    (∀ a, address ≤ a → a < address + length → 0 ≤ a ∧ a ≤ 4095) ∧
      ∃ bytes, m.readBlock address length = .ok bytes ∧ m.HoldsBlock address length bytes
  /-- If it refuses, it names an address that lies outside of memory. -/
  refused : ∀ f, checkRange address length = .error f →
    ∃ a, f = .addressOutOfRange a Fault.outsideMemory ∧ ¬ (0 ≤ a ∧ a ≤ 4095)

/-- The block starts in memory and ends before it, and its end counted back from the end of memory
comes after its start. -/
def WrapsBack (address length : Int) : Prop :=
  0 ≤ address ∧ address + length < 0 ∧ -4096 < length

/-- The block begins before memory and has its last cell in it. -/
def StraddlesStart (address length : Int) : Prop :=
  address < 0 ∧ 0 < address + length ∧ address + length ≤ 4096

/-! ## Slices -/

theorem getElem_slice (m : Memory) {start stop j : Nat} (h : j < (m.slice start stop).length) :
    (m.slice start stop)[j] = m.byte (start + j) := by
  simp [slice]

/-- A slice holds the block that has as many cells. -/
theorem holdsBlock_slice (m : Memory) {stop : Nat} (h0 : 0 ≤ address)
    (hlen : ((stop - address.toNat : Nat) : Int) = max length 0) :
    m.HoldsBlock address length (m.slice address.toNat stop) where
  length_eq := by rw [length_slice, hlen]
  getElem_eq j h := by
    have hcell : (address + j).toNat = address.toNat + j := by omega
    rw [getElem_slice, hcell]

theorem readBlock_of_inMemory (m : Memory) (h : InMemory address length) :
    m.readBlock address length = .ok (m.slice address.toNat (blockEnd address length)) :=
  readBlock_eq_ok_iff.mpr ⟨h, rfl⟩

/-! ## Blocks that are read as they should be -/

/-- A block in memory is read as it stands, unless its end is counted back to after its start. -/
theorem holdsBlock_of_not_wrapsBack (m : Memory) (hin : InMemory address length)
    (h : ¬ WrapsBack address length) :
    m.HoldsBlock address length (m.slice address.toNat (blockEnd address length)) := by
  obtain ⟨h0, h1⟩ := hin
  unfold WrapsBack at h
  refine m.holdsBlock_slice h0 ?_
  by_cases hend : address + length < 0
  · rw [blockEnd_of_neg hend]
    omega
  · rw [blockEnd_of_nonneg (by omega)]
    omega

/-- Where the end is counted back, the block that is read is longer by the size of memory. -/
theorem holdsBlock_of_wrapsBack (m : Memory) (h : WrapsBack address length) :
    m.HoldsBlock address (length + 4096) (m.slice address.toNat (blockEnd address length)) := by
  obtain ⟨h0, hend, hlen⟩ := h
  refine m.holdsBlock_slice h0 ?_
  rw [blockEnd_of_neg hend]
  omega

theorem WrapsBack.inMemory (h : WrapsBack address length) : InMemory address length := by
  obtain ⟨h0, hend, -⟩ := h
  exact ⟨h0, by omega⟩

theorem HoldsBlock.not_wrapsBack (h : m.HoldsBlock address length bytes)
    (h' : m.HoldsBlock address (length + 4096) bytes) : ¬ WrapsBack address length := by
  rintro ⟨h0, hend, hlen⟩
  have := h.length_eq
  have := h'.length_eq
  omega

/-! ## Blocks that are refused -/

theorem StraddlesStart.not_inMemory (h : StraddlesStart address length) :
    ¬ InMemory address length :=
  fun hin => Int.not_lt.mpr hin.1 h.1

/-- The greater of a refused block's two ends is outside of memory, unless the block begins before
memory and ends in it. -/
theorem outside_iff (h : ¬ InMemory address length) :
    ¬ (0 ≤ max address (address + length - 1) ∧ max address (address + length - 1) ≤ 4095) ↔
      ¬ StraddlesStart address length := by
  unfold InMemory at h
  unfold StraddlesStart
  omega

/-! ## The blocks of which the truth is told -/

theorem toldTruly_of_inMemory (hin : InMemory address length) :
    m.ToldTruly address length ↔ ¬ WrapsBack address length := by
  have hread := m.readBlock_of_inMemory hin
  constructor
  · rintro ⟨hpassed, -⟩ hwraps
    obtain ⟨-, bytes, hbytes, hblock⟩ := hpassed (checkRange_of_inMemory hin)
    rw [hread] at hbytes
    cases hbytes
    exact hblock.not_wrapsBack (m.holdsBlock_of_wrapsBack hwraps) hwraps
  · intro hwraps
    refine ⟨fun _ => ⟨fun a ha ha' => ?_, _, hread, m.holdsBlock_of_not_wrapsBack hin hwraps⟩,
      fun f hf => ?_⟩
    · obtain ⟨h0, h1⟩ := hin
      omega
    · exact absurd hin (checkRange_eq_error_iff.mp hf).1

theorem toldTruly_of_not_inMemory (h : ¬ InMemory address length) :
    m.ToldTruly address length ↔ ¬ StraddlesStart address length := by
  rw [← outside_iff h]
  constructor
  · rintro ⟨-, hrefused⟩
    obtain ⟨a, ha, hout⟩ := hrefused _ (checkRange_of_not_inMemory h)
    cases ha
    exact hout
  · intro hout
    refine ⟨fun hok => absurd (checkRange_eq_ok_iff.mp hok) h, fun f hf => ?_⟩
    obtain ⟨-, rfl⟩ := checkRange_eq_error_iff.mp hf
    exact ⟨_, rfl, hout⟩

/-- **Of which blocks a check tells the truth**: of all but those whose end is counted back from the
end of memory and those that begin before memory and end in it. Of the first kind, which passes, the
block that is longer by the size of memory is read; a refusal of the second kind names the block's
last cell, which is in memory. -/
theorem toldTruly_iff (m : Memory) (address length : Int) :
    (m.ToldTruly address length ↔ ¬ WrapsBack address length ∧ ¬ StraddlesStart address length) ∧
    (WrapsBack address length → checkRange address length = .ok () ∧
      ∃ bytes, m.readBlock address length = .ok bytes ∧
        m.HoldsBlock address (length + 4096) bytes) ∧
    (StraddlesStart address length → checkRange address length =
      .error (.addressOutOfRange (address + length - 1) Fault.outsideMemory)) := by
  refine ⟨?_, fun hwraps => ?_, fun hstraddles => ?_⟩
  · by_cases hin : InMemory address length
    · have hnot : ¬ StraddlesStart address length := fun h => h.not_inMemory hin
      rw [toldTruly_of_inMemory hin, and_iff_left hnot]
    · have hnot : ¬ WrapsBack address length := fun h => hin h.inMemory
      rw [toldTruly_of_not_inMemory hin, and_iff_right hnot]
  · exact ⟨checkRange_of_inMemory hwraps.inMemory, _, m.readBlock_of_inMemory hwraps.inMemory,
      m.holdsBlock_of_wrapsBack hwraps⟩
  · obtain ⟨h0, h1, -⟩ := id hstraddles
    have hmax : max address (address + length - 1) = address + length - 1 := by omega
    rw [checkRange_of_not_inMemory hstraddles.not_inMemory, outsideFault, hmax]

/-- Ten cells backward from the sixth, and ten from the one before the first. -/
theorem toldTruly_iff_backward :
    WrapsBack 5 (-10) ∧ StraddlesStart (-1) 10 ∧
      (∃ bytes, initial.readBlock 5 (-10) = .ok bytes ∧ bytes.length = 4086) ∧
      checkRange (-1) 10 = .error (.addressOutOfRange 8 Fault.outsideMemory) := by
  have hwraps : WrapsBack 5 (-10) := by unfold WrapsBack; decide
  have hstraddles : StraddlesStart (-1) 10 := by unfold StraddlesStart; decide
  obtain ⟨-, bytes, hread, hblock⟩ := (toldTruly_iff initial 5 (-10)).2.1 hwraps
  have hlen := hblock.length_eq
  exact ⟨hwraps, hstraddles, ⟨bytes, hread, by omega⟩,
    (toldTruly_iff initial (-1) 10).2.2 hstraddles⟩

/-- **Not every check tells the truth**: neither every one that passes nor every one that refuses. -/
theorem told_untruly : ¬ initial.ToldTruly 5 (-10) ∧ ¬ initial.ToldTruly (-1) 10 := by
  have hwraps : WrapsBack 5 (-10) := by unfold WrapsBack; decide
  have hstraddles : StraddlesStart (-1) 10 := by unfold StraddlesStart; decide
  constructor
  · exact fun h => (toldTruly_of_inMemory hwraps.inMemory).mp h hwraps
  · exact fun h => (toldTruly_of_not_inMemory hstraddles.not_inMemory).mp h hstraddles

end Chip8.Memory
