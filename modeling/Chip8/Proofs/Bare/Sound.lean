import Chip8.Proofs.Bare.Refinement

/-!
# The numbers of a bare machine are sound

A bare machine could hold numbers of any size and lists of any length. `Sound` says that it does
not: each number is in its range and each list as long as it was made, the glyphs are where they
were put, and no return address and no program counter comes near the end of sixteen bits.

* `sound_bare`: the numbers of a well-formed machine are sound.
* `history_sound`: so are those of a bare machine at any time, and a cycle of it meets no accident
  but a fault.
-/

namespace Chip8.Bare

open Machine (initial)

variable {τ : Type} {m : Machine τ}

/-- **What holds of a bare machine at any time.** -/
structure Sound (s : Bare τ) : Prop where
  memory : s.memory.length = 4096 ∧ ∀ z ∈ s.memory, 0 ≤ z ∧ z ≤ 255
  glyphs : s.memory.take 0x50 = numbers glyphBytes
  v : s.v.length = 16 ∧ ∀ z ∈ s.v, 0 ≤ z ∧ z ≤ 255
  index : 0 ≤ s.index ∧ s.index ≤ 0xFFFF
  pc : 0 ≤ s.pc ∧ s.pc ≤ 0x10FE
  sp : 0 ≤ s.sp ∧ s.sp ≤ 16
  slots : s.slots.length = 16
  /-- The outstanding return addresses. -/
  returns : ∀ a ∈ s.slots.take s.sp.toNat, 2 ≤ a ∧ a ≤ 0x1000
  waiting : s.status = .awaitingKey → s.pc ≤ 0xFFE
  delay : 0 ≤ s.timers.delay ∧ s.timers.delay ≤ 255
  sound : 0 ≤ s.timers.sound ∧ s.timers.sound ≤ 255
  pixels : s.pixels.length = 2048 ∧ ∀ z ∈ s.pixels, z = 0 ∨ z = 1
  keys : s.keys.length = 16
  keyRegister : 0 ≤ s.keyRegister ∧ s.keyRegister ≤ 15

theorem mem_numbers {l : List UInt8} {z : Int} (h : z ∈ numbers l) : 0 ≤ z ∧ z ≤ 255 := by
  obtain ⟨c, -, rfl⟩ := List.mem_map.mp h
  have := c.toNat_lt
  omega

theorem mem_pixels {g : Plane} {z : Int} (h : z ∈ g.pixels) : z = 0 ∨ z = 1 := by
  unfold Plane.pixels at h
  obtain ⟨offset, -, rfl⟩ := List.mem_map.mp h
  split
  · exact .inr rfl
  · exact .inl rfl

/-- The cells of the glyphs, as a list. -/
theorem take_glyphs {memory : Memory} (h : memory.GlyphsIntact) :
    memory.cells.toList.take glyphEnd = glyphBytes := by
  refine List.ext_getElem? fun i => ?_
  have hlen : glyphBytes.length = glyphEnd := rfl
  by_cases hi : i < glyphEnd
  · have hlt : i < 4096 := by simp only [glyphEnd] at hi; omega
    have hk : i < glyphBytes.length := hi
    rw [List.getElem?_take_of_lt hi, getElem?_cells, if_pos hlt, h i hi, Memory.initial,
      Memory.byte_patch _ _ _ _ (by decide), if_pos ⟨Nat.zero_le i, by omega⟩,
      List.getElem?_eq_getElem hk, Nat.sub_zero, List.getElem?_eq_getElem hk]
    rfl
  · rw [List.getElem?_eq_none (by simp; omega), List.getElem?_eq_none (by omega)]

/-- **The numbers of a machine that is well-formed are sound.** -/
theorem sound_bare (h : m.WellFormed) : m.bare.Sound where
  memory := ⟨(length_numbers _).trans Vector.length_toList, fun _ hz => mem_numbers hz⟩
  glyphs := List.map_take.symm.trans (congrArg numbers (take_glyphs h.glyphs))
  v := ⟨(length_numbers _).trans Vector.length_toList, fun _ hz => mem_numbers hz⟩
  index := by
    have hlt := m.registers.index.toNat_lt
    rw [Machine.bare_index]
    omega
  pc := by
    have hle := h.pc_le
    rw [Machine.bare_pc]
    omega
  sp := by
    have hle := m.stack.depth_le
    rw [Machine.bare_sp]
    omega
  slots := Vector.length_toList
  returns := h.returns
  waiting := fun hs => Int.ofNat_le.mpr (h.waiting hs).1
  delay := h.timers.delay
  sound := h.timers.sound
  pixels := ⟨length_pixels _, fun _ hz => mem_pixels hz⟩
  keys := Vector.length_toList
  keyRegister := by
    have hlt := m.keyRegister.isLt
    rw [Machine.bare_keyRegister]
    omega

variable [Seconds τ]

/-- **A bare machine is sound at any time, and no accident happens in its cycles.** Whatever
happened to it since it was made, no index was past the end of a list, no number was stored as a
byte that is none, no table lacked an entry, and no bit of the program counter was lost; the same is
true of the next cycle, which reports the fault that it meets if it meets one. -/
theorem history_sound (seed : Nat) (es : List (Event τ)) :
    history es (unset seed) = .ok () (es.foldl happen (initial seed)).bare ∧
    (es.foldl happen (initial seed)).bare.Sound ∧
    ∀ t, cycle t (es.foldl happen (initial seed)).bare =
      .ok ((es.foldl happen (initial seed)).cycleBy t).1.fault
        ((es.foldl happen (initial seed)).cycleBy t).2.bare := by
  have hm : (es.foldl happen (initial seed)).WellFormed :=
    wellFormed_happenings (Machine.wellFormed_initial seed) es
  exact ⟨runs_history seed es, sound_bare hm, fun t => runs_cycle hm t⟩

end Chip8.Bare
