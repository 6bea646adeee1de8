import Chip8.Machine.Cycle
import Chip8.Proofs.Screen.Points

/-!
# A machine as its table speaks of it

The instruction table speaks of numbers and of cells, registers and pixels addressed by number.
`View` is a machine in these terms, every part of it: memory, registers, stack slots and screen are
functions of numbers, and a byte or a word has lost its width, so that nothing wraps around unless
it is said to.

* `view_injective`: a machine is determined by its view.
* `view_advance`, `view_assign` and those after them: what the machine's own operations come to.
-/

namespace Chip8

/-- A machine in numbers. -/
@[ext]
structure View (τ : Type) where
  seed : Nat
  /-- The byte in a cell of memory. -/
  cell : Nat → Nat
  v : Nibble → Nat
  index : Nat
  pc : Int
  /-- The slots of the call stack, those that are not in use included. -/
  slot : Nat → Int
  /-- The number of slots in use. -/
  sp : Nat
  pixel : Plane
  dirty : Bool
  timers : Timers τ
  key : Nibble → Bool
  random : RandomStream
  status : Status
  keyRegister : Nibble
  lastReading : Option τ
  image : Option ImageInfo
  cycles : Nat

namespace Registers

/-- The values of the byte registers. -/
def values (r : Registers) : Nibble → Nat :=
  fun x => (r.get x).toNat

theorem values_set (r : Registers) (x : Nibble) (b : UInt8) :
    (r.set x b).values = Function.update r.values x b.toNat := by
  funext y
  rw [values, get_set]
  by_cases h : x = y
  · rw [if_pos h, ← h, Function.update_self]
  · rw [if_neg h, Function.update_of_ne (Ne.symm h)]
    rfl

theorem eq_of_values {r s : Registers} (h : r.values = s.values)
    (hi : r.index.toNat = s.index.toNat) (hp : r.pc.toNat = s.pc.toNat) : r = s := by
  have hv : r.v = s.v := Vector.ext fun i hi => UInt8.toNat.inj (congrFun h ⟨i, hi⟩)
  cases r; cases s
  simp only [mk.injEq]
  exact ⟨hv, UInt16.toNat.inj hi, UInt16.toNat.inj hp⟩

end Registers

namespace CallStack

/-- The address in a slot; slots that do not exist hold zero. -/
def slot (s : CallStack) (k : Nat) : Int :=
  s.slots[k]?.getD 0

theorem slot_of_lt (s : CallStack) {k : Nat} (h : k < 16) : s.slot k = s.slots[k] := by
  simp [slot, h]

theorem eq_of_slot {s t : CallStack} (h : s.slot = t.slot) (hd : s.depth = t.depth) : s = t := by
  have hs : s.slots = t.slots := Vector.ext fun i hi => by
    rw [← s.slot_of_lt hi, ← t.slot_of_lt hi, h]
  cases s; cases t
  simp only [mk.injEq]
  exact ⟨hs, hd⟩

variable {s t : CallStack} {a : Int}

theorem slot_push (h : s.push a = .ok t) :
    t.slot = Function.update s.slot s.depth a ∧ t.depth = s.depth + 1 := by
  unfold push at h
  split at h
  next hd =>
    cases h
    refine ⟨funext fun k => ?_, rfl⟩
    by_cases hk : k = s.depth
    · subst hk
      simp [slot, hd]
    · rw [Function.update_of_ne hk]
      simp [slot, Ne.symm hk]
  next => cases h

theorem slot_pop (h : s.pop = .ok (a, t)) :
    a = s.slot (s.depth - 1) ∧ t.slot = s.slot ∧ t.depth = s.depth - 1 := by
  unfold pop at h
  split at h
  next hd =>
    cases h
    have := s.depth_le
    exact ⟨(s.slot_of_lt (by omega)).symm, rfl, rfl⟩
  next => cases h

end CallStack

namespace Memory

/-- The bytes of the cells as numbers. -/
def cellValues (m : Memory) : Nat → Nat :=
  fun a => (m.byte a).toNat

theorem byte_of_lt (m : Memory) {a : Nat} (h : a < 4096) : m.byte a = m.cells[a] := by
  simp [byte, h]

theorem eq_of_cellValues {m n : Memory} (h : m.cellValues = n.cellValues) : m = n := by
  have hc : m.cells = n.cells := Vector.ext fun i hi => UInt8.toNat.inj <| by
    rw [← m.byte_of_lt hi, ← n.byte_of_lt hi]
    exact congrFun h i
  cases m; cases n
  exact congrArg Memory.mk hc

theorem cellValues_patch (m : Memory) {start : Nat} {bytes : List UInt8}
    (h : start + bytes.length ≤ memorySize) :
    (m.patch start bytes).cellValues = fun a =>
      if start ≤ a ∧ a < start + bytes.length then (bytes[a - start]?.getD 0).toNat
      else m.cellValues a := by
  funext a
  rw [cellValues, byte_patch _ _ _ _ h]
  split <;> rfl

end Memory

theorem Screen.eq_of_plane {s t : Screen} (h : s.frame.plane = t.frame.plane)
    (hd : s.dirty = t.dirty) : s = t := by
  have hf : s.frame = t.frame := Frame.eq_of_plane h
  cases s; cases t
  simp only [mk.injEq]
  exact ⟨hf, hd⟩

theorem Keypad.eq_of_isDown {p q : Keypad} (h : p.isDown = q.isDown) : p = q := by
  have hk : p.held = q.held := Vector.ext fun i hi => congrFun h ⟨i, hi⟩
  cases p; cases q
  exact congrArg Keypad.mk hk

namespace Machine

variable {τ : Type}

/-- A machine in numbers. -/
def view (m : Machine τ) : View τ where
  seed := m.seed
  cell := m.memory.cellValues
  v := m.registers.values
  index := m.registers.index.toNat
  pc := m.registers.pc.toNat
  slot := m.stack.slot
  sp := m.stack.depth
  pixel := m.screen.frame.plane
  dirty := m.screen.dirty
  timers := m.timers
  key := m.keypad.isDown
  random := m.random
  status := m.status
  keyRegister := m.keyRegister
  lastReading := m.lastReading
  image := m.image
  cycles := m.cycles

/-- **A machine is determined by its view**: no part of it is left out. -/
theorem view_injective : Function.Injective (view : Machine τ → View τ) := by
  intro m n h
  have hmem := Memory.eq_of_cellValues (congrArg View.cell h)
  have hreg := Registers.eq_of_values (congrArg View.v h) (congrArg View.index h)
    (Int.ofNat.inj (congrArg View.pc h))
  have hstack := CallStack.eq_of_slot (congrArg View.slot h) (congrArg View.sp h)
  have hscreen := Screen.eq_of_plane (congrArg View.pixel h) (congrArg View.dirty h)
  have hkey := Keypad.eq_of_isDown (congrArg View.key h)
  cases m; cases n
  simp only [mk.injEq]
  exact ⟨congrArg View.seed h, hmem, hreg, hstack, congrArg View.timers h, hscreen, hkey,
    congrArg View.random h, congrArg View.status h, congrArg View.keyRegister h,
    congrArg View.lastReading h, congrArg View.image h, congrArg View.cycles h⟩

end Machine

/-! ## Operations in numbers -/

namespace View

variable {τ : Type}

/-- `Vx := value`. -/
def put (s : View τ) (x : Nibble) (value : Nat) : View τ :=
  { s with v := Function.update s.v x value }

/-- On to the next instruction. -/
def next (s : View τ) : View τ :=
  { s with pc := s.pc + 2 }

/-- On to the next instruction, or past it. -/
def skipIf (s : View τ) (p : Prop) [Decidable p] : View τ :=
  { s with pc := s.pc + if p then 4 else 2 }

theorem skipIf_congr {s : View τ} {p q : Prop} [Decidable p] [Decidable q] (h : p ↔ q) :
    s.skipIf p = s.skipIf q := by
  rw [skipIf, skipIf]
  simp only [h]

end View

namespace Machine

variable {τ : Type} {m : Machine τ}

theorem pc_advance {r : Registers} (hp : r.pc.toNat ≤ 0xFFE) (skip : Bool) :
    ((r.advance skip).pc.toNat : Int) = r.pc.toNat + if skip then 4 else 2 := by
  cases skip with
  | true =>
    simp only [Registers.advance, if_true, UInt16.toNat_add]
    have : (4 : UInt16).toNat = 4 := rfl
    omega
  | false =>
    simp only [Registers.advance, Bool.false_eq_true, if_false, UInt16.toNat_add]
    have : (2 : UInt16).toNat = 2 := rfl
    omega

theorem view_advance (hp : m.registers.pc.toNat ≤ 0xFFE) (skip : Bool) :
    (m.advance skip).view = m.view.skipIf (skip = true) := by
  show { m.view with pc := ((m.registers.advance skip).pc.toNat : Int) } = _
  rw [pc_advance hp]
  rfl

theorem view_next (hp : m.registers.pc.toNat ≤ 0xFFE) :
    (m.advance false).view = m.view.next := by
  rw [view_advance hp]
  rfl

theorem view_set (x : Nibble) (b : UInt8) :
    (m.withRegisters (·.set x b)).view = m.view.put x b.toNat := by
  show { m.view with v := (m.registers.set x b).values } = _
  rw [Registers.values_set]
  rfl

theorem view_assign (hp : m.registers.pc.toNat ≤ 0xFFE) (x : Nibble) (b : UInt8) :
    (m.assign x b).view = (m.view.put x b.toNat).next := by
  rw [assign, view_next (by exact hp), view_set]

theorem view_assignFlagged (hp : m.registers.pc.toNat ≤ 0xFFE) (x : Nibble) (r : Flagged) :
    (m.assignFlagged x r).view = ((m.view.put 0xF r.flag.toNat).put x r.value.toNat).next := by
  rw [assignFlagged, view_assign (by exact hp)]
  show ((m.withRegisters (·.set 0xF r.flag)).view.put _ _).next = _
  rw [view_set]

theorem view_assignIndex (hp : m.registers.pc.toNat ≤ 0xFFE) (i : UInt16) :
    (m.assignIndex i).view = { m.view with index := i.toNat }.next := by
  rw [assignIndex, view_next (by exact hp)]
  rfl

theorem view_jump (t : UInt16) :
    (m.withRegisters (·.jump t)).view = { m.view with pc := t.toNat } := rfl

end Machine

end Chip8
