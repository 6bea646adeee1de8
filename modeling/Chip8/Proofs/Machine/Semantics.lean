import Chip8.Proofs.Keypad
import Chip8.Proofs.Machine.Table
import Chip8.Proofs.Machine.WellFormed

/-!
# Instructions do what their table says

The machine works on bytes, words and bit rows; the table speaks of numbers, cells and points. Row
by row they agree, on every machine that is well-formed.

* `view_execute`: what the machine carries out is what the table says.
* `cycle_effect`: a cycle without a fault does what the row of its word says, counts itself, and
  gives the timers their time; it does nothing else.
-/

namespace Chip8

/-! ## Bytes as numbers -/

namespace Arithmetic

theorem toNat_flagOf {b : Bool} {p : Prop} [Decidable p] (h : b = true ↔ p) :
    (flagOf b).toNat = View.flagOf p := by
  cases b with
  | true => rw [View.flagOf, if_pos (h.mp rfl)]; rfl
  | false => rw [View.flagOf, if_neg fun hp => Bool.false_ne_true (h.mpr hp)]; rfl

theorem toNat_sum_flag (a b : UInt8) :
    (sum a b).flag.toNat = View.flagOf (255 < a.toNat + b.toNat) :=
  toNat_flagOf decide_eq_true_iff

theorem toNat_difference_flag (a b : UInt8) :
    (difference a b).flag.toNat = View.flagOf (a.toNat ≥ b.toNat) :=
  toNat_flagOf (by rw [decide_eq_true_iff, UInt8.le_iff_toNat_le])

theorem toNat_difference (a b : UInt8) :
    (a - b).toNat = (((a.toNat : Int) - b.toNat) % 256).toNat := by
  have := a.toNat_lt
  have := b.toNat_lt
  rw [UInt8.toNat_sub]
  omega

theorem toNat_half (a : UInt8) : (a >>> 1).toNat = a.toNat >>> 1 := by
  rw [UInt8.toNat_shiftRight]; rfl

theorem toNat_top (a : UInt8) : (a >>> 7).toNat = a.toNat >>> 7 := by
  rw [UInt8.toNat_shiftRight]; rfl

theorem toNat_double (a : UInt8) : (a <<< 1).toNat = (a.toNat <<< 1) % 256 := by
  rw [UInt8.toNat_shiftLeft]; rfl

end Arithmetic

/-- Bytes past the end of a list count as zero, as numbers past the end of theirs do. -/
theorem getD_toNat (bytes : List UInt8) (k : Nat) :
    (bytes[k]?.getD 0).toNat = (bytes.map UInt8.toNat)[k]?.getD 0 := by
  rw [List.getElem?_map]
  cases bytes[k]? <;> rfl

namespace Machine

variable {τ : Type} {m n : Machine τ}

theorem greatestKey_view : m.view.greatestKey = m.keypad.highestPressed.map Fin.val := by
  cases h : m.keypad.highestPressed with
  | none =>
    have hup := Keypad.highestPressed_eq_none_iff.mp h
    have hnil : (List.finRange 16).filter m.view.key = [] :=
      List.filter_eq_nil_iff.mpr fun k _ => by
        rw [show m.view.key k = false from hup k]
        exact Bool.false_ne_true
    rw [View.greatestKey, hnil]
    rfl
  | some k =>
    obtain ⟨hk, hle⟩ := Keypad.highestPressed_eq_some_iff.mp h
    rw [View.greatestKey, Option.map_some, List.max?_eq_some_iff]
    constructor
    · exact List.mem_map.mpr ⟨k, List.mem_filter.mpr ⟨List.mem_finRange k, hk⟩, rfl⟩
    · intro b hb
      obtain ⟨j, hj, rfl⟩ := List.mem_map.mp hb
      exact hle j (List.mem_filter.mp hj).2

/-! ## The rows -/

/-- A conditional skip, whose condition is one on numbers. -/
theorem view_skip (hp : m.registers.pc.toNat ≤ 0xFFE) {b : Bool} {p : Prop} [Decidable p]
    (h : b = true ↔ p) : (m.advance b).view = m.view.skipIf p := by
  rw [view_advance hp, View.skipIf_congr h]

/-- The block that an instruction reads. -/
theorem block_of_read {k : Nat} {bytes : List UInt8}
    (h : m.memory.readBlock m.registers.index.toNat k = .ok bytes) :
    m.registers.index.toNat + k ≤ 4096 ∧ bytes.map UInt8.toNat = m.view.block k := by
  obtain ⟨hin, rfl⟩ := Memory.readBlock_natCast_eq_ok_iff.mp h
  refine ⟨hin, ?_⟩
  rw [Memory.slice, List.map_map, Nat.add_sub_cancel_left]
  rfl

/-- The cells that an instruction writes. -/
theorem cells_of_write {memory : Memory} {bytes : List UInt8}
    (h : m.memory.writeBlock m.registers.index.toNat bytes = .ok memory) :
    memory.cellValues = fun a =>
      if m.view.index ≤ a ∧ a < m.view.index + bytes.length
      then (bytes[a - m.view.index]?.getD 0).toNat else m.view.cell a := by
  obtain ⟨⟨⟨-, hin⟩, -⟩, rfl⟩ := Memory.writeBlock_eq_ok_iff.mp h
  exact Memory.cellValues_patch _ (by simp only [memorySize, Int.toNat_natCast]; omega)

theorem view_ret (hw : m.WellFormed) (h : m.execute .ret = .ok n) :
    n.view = m.view.effect .ret := by
  obtain ⟨⟨a, s⟩, hpop, rfl⟩ := Checked.eq_ok_iff.mp h
  obtain ⟨rfl, hslot, hdepth⟩ := CallStack.slot_pop hpop
  have ha := toNat_ofInt (hw.returns.pop hpop).1
  show { m.view with
    slot := s.slot
    sp := s.depth
    pc := (UInt16.ofInt (m.stack.slot (m.stack.depth - 1))).toNat } = _
  rw [ha, hslot, hdepth]
  rfl

theorem view_call {target : Address} (h : m.execute (.call target) = .ok n) :
    n.view = m.view.effect (.call target) := by
  obtain ⟨s, hpush, rfl⟩ := Checked.eq_ok_iff.mp h
  obtain ⟨hslot, hdepth⟩ := CallStack.slot_push hpush
  show { m.view with slot := s.slot, sp := s.depth, pc := (UInt16.ofNat target.val).toNat } = _
  rw [hslot, hdepth, toNat_jump]
  rfl

theorem view_draw (hp : m.registers.pc.toNat ≤ 0xFFE) {x y height : Nibble}
    (h : m.execute (.draw x y height) = .ok n) : n.view = m.view.effect (.draw x y height) := by
  obtain ⟨sprite, hread, rfl⟩ := Checked.eq_ok_iff.mp h
  have hplot := m.screen.draw_eq_plot (m.registers.get x).toNat (m.registers.get y).toNat sprite
  rw [(block_of_read hread).2] at hplot
  rw [view_next (by exact hp)]
  show ((({ m with screen := _ } : Machine τ).withRegisters (·.set 0xF _)).view).next = _
  rw [view_set, Arithmetic.toNat_flagOf Iff.rfl]
  exact congrArg m.view.drawn hplot

theorem view_awaitKey (hp : m.registers.pc.toNat ≤ 0xFFE) (hs : m.status = .running)
    (x : Nibble) : (m.awaitKey x).view = m.view.effect (.awaitKey x) := by
  rw [View.effect, greatestKey_view, awaitKey]
  cases m.keypad.highestPressed with
  | none => rfl
  | some key =>
    have hk : (UInt8.ofNat key.val).toNat = key.val := by
      rw [UInt8.toNat_ofNat']
      omega
    show { (m.assign x (UInt8.ofNat key.val)).view with status := .running } = _
    -- the end of the wait sets the status that the machine has already
    rw [view_assign hp, hk, ← hs]
    rfl

/-- A write to memory that goes through. -/
theorem view_written (hp : m.registers.pc.toNat ≤ 0xFFE) {memory : Memory} {cell : Nat → Nat}
    (h : memory.cellValues = cell) :
    ({ m with memory }.advance false).view = { m.view with cell }.next := by
  rw [view_next (by exact hp), ← h]
  rfl

/-- The three decimal digits of a byte in the cells from `i` on. -/
theorem cells_of_digits (cell : Nat → Nat) (i : Nat) (b : UInt8) :
    (fun a => if i ≤ a ∧ a < i + 3 then ((Arithmetic.decimalDigits b)[a - i]?.getD 0).toNat
      else cell a) =
    Function.update (Function.update (Function.update cell i (b.toNat / 100))
      (i + 1) (b.toNat / 10 % 10)) (i + 2) (b.toNat % 10) := by
  funext a
  -- the updates are undone from the outermost inwards
  by_cases h2 : a = i + 2
  · subst h2
    rw [Function.update_self, if_pos (by omega), Nat.add_sub_cancel_left]
    rfl
  by_cases h1 : a = i + 1
  · subst h1
    rw [Function.update_of_ne (by omega), Function.update_self, if_pos (by omega),
      Nat.add_sub_cancel_left]
    rfl
  by_cases h0 : a = i
  · subst h0
    rw [Function.update_of_ne (by omega), Function.update_of_ne (by omega), Function.update_self,
      if_pos (by omega), Nat.sub_self]
    rfl
  rw [Function.update_of_ne h2, Function.update_of_ne h1, Function.update_of_ne h0,
    if_neg (by omega)]

theorem view_decimal (hp : m.registers.pc.toNat ≤ 0xFFE) {x : Nibble}
    (h : m.execute (.decimal x) = .ok n) : n.view = m.view.effect (.decimal x) := by
  obtain ⟨memory, hwrite, rfl⟩ := Checked.eq_ok_iff.mp h
  refine view_written hp ?_
  rw [cells_of_write hwrite, length_decimalDigits]
  exact cells_of_digits m.view.cell m.view.index (m.registers.get x)

theorem view_store (hp : m.registers.pc.toNat ≤ 0xFFE) {x : Nibble}
    (h : m.execute (.store x) = .ok n) : n.view = m.view.effect (.store x) := by
  obtain ⟨memory, hwrite, rfl⟩ := Checked.eq_ok_iff.mp h
  refine view_written hp ?_
  rw [cells_of_write hwrite, Registers.length_upTo]
  funext a
  by_cases ha : m.view.index ≤ a ∧ a ≤ m.view.index + x
  · rw [if_pos ha, if_pos (by omega), Registers.getElem?_upTo _ (by omega)]
    rfl
  · rw [if_neg ha, if_neg (by omega)]

/-- What the registers hold once a block went to the first of them. -/
theorem values_of_read {x : Nibble} {bytes : List UInt8}
    (h : m.memory.readBlock m.registers.index.toNat (x + 1 : Nat) = .ok bytes) :
    (m.registers.setFrom 0 bytes).values =
      fun r => if r ≤ x then m.view.cell (m.view.index + r) else m.view.v r := by
  have hblock := (block_of_read h).2
  have hlen : bytes.length = x + 1 := by
    rw [← List.length_map UInt8.toNat, hblock, View.block, List.length_map, List.length_range]
  funext r
  rw [Registers.values, Registers.get_setFrom, hlen]
  by_cases hr : r ≤ x
  · have hlt : r.val < x + 1 := Nat.lt_succ_of_le hr
    rw [if_pos hr, if_pos (by omega), getD_toNat, hblock, View.block, List.getElem?_map,
      Nat.sub_zero, List.getElem?_range hlt]
    rfl
  · have hgt : x.val < r.val := Nat.lt_of_not_le hr
    rw [if_neg hr, if_neg (by omega)]
    rfl

theorem view_load (hp : m.registers.pc.toNat ≤ 0xFFE) {x : Nibble}
    (h : m.execute (.load x) = .ok n) : n.view = m.view.effect (.load x) := by
  obtain ⟨bytes, hread, rfl⟩ := Checked.eq_ok_iff.mp h
  have hpc : (m.registers.setFrom 0 bytes).pc.toNat ≤ 0xFFE := by
    rw [Registers.pc_setFrom]
    exact hp
  rw [view_next hpc]
  show ({ m.view with
    v := (m.registers.setFrom 0 bytes).values
    index := (m.registers.setFrom 0 bytes).index.toNat
    pc := (m.registers.setFrom 0 bytes).pc.toNat } : View τ).next = _
  rw [values_of_read hread, Registers.index_setFrom, Registers.pc_setFrom]
  rfl

/-- **Every instruction does what its row of the table says.** -/
theorem view_execute (hw : m.WellFormed) (hs : m.status = .running)
    (hp : m.registers.pc.toNat ≤ 0xFFE) {i : Instruction} (h : m.execute i = .ok n) :
    n.view = m.view.effect i := by
  cases i with
  | clear =>
    cases h
    rw [view_next (by exact hp)]
    show ({ m.view with pixel := m.screen.clear.frame.plane, dirty := true }).next = _
    rw [Screen.plane_clear]
    rfl
  | ret => exact view_ret hw h
  | jump target =>
    cases h
    rw [view_jump, toNat_jump]
    rfl
  | call target => exact view_call h
  | skipEqByte x value =>
    cases h
    exact view_skip hp (by rw [decide_eq_true_eq, ← UInt8.toNat_inj]; rfl)
  | skipNeByte x value =>
    cases h
    exact view_skip hp (by rw [decide_eq_true_eq, ne_eq, ← UInt8.toNat_inj]; rfl)
  | skipEq x y =>
    cases h
    exact view_skip hp (by rw [decide_eq_true_eq, ← UInt8.toNat_inj]; rfl)
  | loadByte x value => cases h; exact view_assign hp x value
  | addByte x value =>
    cases h
    rw [view_assign hp, UInt8.toNat_add]
    rfl
  | copy x y => cases h; exact view_assign hp x _
  | or x y =>
    cases h
    rw [view_assign hp, UInt8.toNat_or]
    rfl
  | and x y =>
    cases h
    rw [view_assign hp, UInt8.toNat_and]
    rfl
  | xor x y =>
    cases h
    rw [view_assign hp, UInt8.toNat_xor]
    rfl
  | add x y =>
    cases h
    rw [view_assignFlagged hp, Arithmetic.toNat_sum_flag, Arithmetic.sum, UInt8.toNat_add]
    rfl
  | sub x y =>
    cases h
    rw [view_assignFlagged hp, Arithmetic.toNat_difference_flag, Arithmetic.difference,
      Arithmetic.toNat_difference]
    rfl
  | shiftRight x =>
    cases h
    rw [view_assignFlagged hp, Arithmetic.half, Arithmetic.toNat_half, UInt8.toNat_and]
    rfl
  | subFrom x y =>
    cases h
    rw [view_assignFlagged hp, Arithmetic.toNat_difference_flag, Arithmetic.difference,
      Arithmetic.toNat_difference]
    rfl
  | shiftLeft x =>
    cases h
    rw [view_assignFlagged hp, Arithmetic.double, Arithmetic.toNat_double, Arithmetic.toNat_top]
    rfl
  | skipNe x y =>
    cases h
    exact view_skip hp (by rw [decide_eq_true_eq, ne_eq, ← UInt8.toNat_inj]; rfl)
  | loadIndex target =>
    cases h
    rw [view_assignIndex hp, toNat_jump]
    rfl
  | jumpOffset target =>
    cases h
    rw [view_jump, toNat_jumpOffset]
    rfl
  | random x mask =>
    cases h
    rw [view_assign (by exact hp), UInt8.toNat_and]
    rfl
  | draw x y height => exact view_draw hp h
  | skipPressed x =>
    cases h
    rw [Keypad.isPressed_natCast]
    exact view_skip hp Iff.rfl
  | skipReleased x =>
    cases h
    rw [Keypad.isPressed_natCast]
    exact view_skip hp (by rw [Bool.not_eq_true']; rfl)
  | readDelay x =>
    cases h
    have hd := hw.timers.delay
    have hb : (UInt8.ofInt m.timers.delay).toNat = m.timers.delay.toNat := by
      rw [UInt8.ofInt, UInt8.toNat_ofNat']
      omega
    rw [view_assign hp, hb]
    rfl
  | awaitKey x => cases h; exact view_awaitKey hp hs x
  | setDelay x => cases h; exact view_next hp
  | setSound x => cases h; exact view_next hp
  | addIndex x =>
    cases h
    rw [view_assignIndex hp, UInt16.toNat_add, UInt8.toNat_toUInt16]
    rfl
  | glyph x =>
    cases h
    have := (m.registers.get x).toNat_lt
    rw [view_assignIndex hp, UInt16.toNat_ofNat', glyphHeight, Nat.mod_eq_of_lt (by omega)]
    rfl
  | decimal x => exact view_decimal hp h
  | store x => exact view_store hp h
  | load x => exact view_load hp h

/-! ## Cycles -/

/-- What a running machine's step does that is not refused. -/
theorem view_step (hw : m.WellFormed) (hs : m.status = .running) (hf : m.step.fault = none) :
    ∃ i : Instruction, i.Encodes m.opcode ∧
      m.step.machine.view = { m.view.effect i with cycles := (m.view.effect i).cycles + 1 } := by
  cases hd : m.fetch with
  | error f =>
    rw [step_of_fetch_error hs hd] at hf
    cases hf
  | ok d =>
    obtain ⟨hp, -, hi⟩ := fetch_eq_ok_iff.mp hd
    cases he : m.execute d.instruction with
    | error f =>
      rw [step_of_execute_error hs hd he] at hf
      cases hf
    | ok n =>
      refine ⟨d.instruction, hi, ?_⟩
      rw [step_of_execute hs hd he, ← view_execute hw hs hp he]
      rfl

variable [Seconds τ]

/-- **What a cycle does.** A machine that a host can come to, that runs and whose cycle reports no
fault: the word at its program counter matches exactly one row of the table, and the cycle does what
the row says, counts itself and gives the timers their time. Every part that the row does not name
is as it was, but for the note of the clock if the cycle read it. -/
theorem cycle_effect (h : Reachable m) (hs : m.status = .running) (t : Timing τ)
    (hf : (m.cycleBy t).1.fault = none) :
    ∃ i : Instruction, (∀ j : Instruction, j.Encodes m.opcode ↔ j = i) ∧
      (m.cycleBy t).2.view = ((m.noted t).view.effect i).finished (m.elapsed t) := by
  rw [cycleBy_fault] at hf
  obtain ⟨i, hi, hv⟩ := view_step (h.wellFormed.noted t) hs hf
  refine ⟨i, fun j => ⟨fun hj => encodes_opcode_unique hj hi, fun hj => hj ▸ hi⟩, ?_⟩
  rw [cycleBy_snd]
  show { (m.noted t).step.machine.view with
    timers := ((m.noted t).step.machine.view.timers.tick (m.elapsed t)).2 } = _
  rw [hv]
  rfl

/-- A machine about to add `VF`, which holds 200, to itself: the row that it meets reports a carry
in the register that the sum goes to. -/
def doubling : Machine Rat :=
  (initial 0).calls [.load [0x6F, 0xC8, 0x8F, 0xF4] "", .cycle (.told 0)]

theorem cycle_effect_doubling :
    doubling.status = .running ∧ (doubling.cycleBy (.told 0)).1.fault = none ∧
    (doubling.cycleBy (.told 0)).2.view =
      ((doubling.noted (.told 0)).view.effect (.add 0xF 0xF)).finished
        (doubling.elapsed (.told 0)) := by
  have hi : (Instruction.add 0xF 0xF).Encodes doubling.opcode := by
    show doubling.opcode = 0x8FF4
    decide +kernel
  have hs : doubling.status = .running := by decide +kernel
  have hf : (doubling.cycleBy (.told 0)).1.fault = none := by decide +kernel
  have hr : Reachable doubling := by
    unfold doubling
    exact (Reachable.new 0).calls _
  obtain ⟨i, hrow, hv⟩ := cycle_effect hr hs (.told 0) hf
  obtain rfl := (hrow _).mp hi
  exact ⟨hs, hf, hv⟩

end Machine

end Chip8
