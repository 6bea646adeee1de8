import Chip8.Proofs.Bare.Program
import Chip8.Proofs.Machine.Semantics

/-!
# Machines laid out bare

`Machine.bare` lays a machine out in integers and lists. `Runs p s a t` says that work `p` on the
bare machine `s` meets no accident, answers `a` and leaves `t`; `Refused p s f` that it is refused
with the fault `f` and leaves `s` as it was. Of each thing that can be done to a bare machine it is
proved here which of the two it is on a machine that was laid out: what is done with indices, bytes
and slices comes to the operation of the same name on the machine.

* `Runs.bind`: work after work.
* `runs_jump` and `runs_advance`: where no bit of the program counter is lost.
* `runs_writeBlock`: a checked write to a slice keeps the length of the memory.
* `runs_draw`: a sprite is drawn pixel by pixel.
-/

namespace Chip8

/-! ## The layout -/

/-- The pixels of a picture in numbers, row after row. -/
@[irreducible]
def Plane.pixels (f : Plane) : List Int :=
  (List.range 2048).map fun offset : Nat => if f (Point.at offset (offset / 64)) then 1 else 0

/-- A machine in integers and lists. -/
def Machine.bare {τ : Type} (m : Machine τ) : Bare τ where
  seed := m.seed
  memory := Bare.numbers m.memory.cells.toList
  v := Bare.numbers m.registers.v.toList
  index := m.registers.index.toNat
  pc := m.registers.pc.toNat
  slots := m.stack.slots.toList
  sp := m.stack.depth
  timers := m.timers
  pixels := m.screen.frame.plane.pixels
  dirty := m.screen.dirty
  keys := m.keypad.held.toList
  random := m.random
  status := m.status
  keyRegister := m.keyRegister.val
  lastReading := m.lastReading
  loaded := m.image.isSome
  imageName := (m.image.map ImageInfo.name).getD ""
  imageSize := (m.image.map ImageInfo.size).getD 0
  cycles := m.cycles

namespace Machine

variable {τ : Type} (m : Machine τ)

@[simp] theorem bare_memory : m.bare.memory = Bare.numbers m.memory.cells.toList := rfl

@[simp] theorem bare_v : m.bare.v = Bare.numbers m.registers.v.toList := rfl

@[simp] theorem bare_index : m.bare.index = m.registers.index.toNat := rfl

@[simp] theorem bare_pc : m.bare.pc = m.registers.pc.toNat := rfl

@[simp] theorem bare_slots : m.bare.slots = m.stack.slots.toList := rfl

@[simp] theorem bare_sp : m.bare.sp = m.stack.depth := rfl

@[simp] theorem bare_keys : m.bare.keys = m.keypad.held.toList := rfl

@[simp] theorem bare_status : m.bare.status = m.status := rfl

@[simp] theorem bare_keyRegister : m.bare.keyRegister = m.keyRegister.val := rfl

@[simp] theorem bare_lastReading : m.bare.lastReading = m.lastReading := rfl

end Machine

namespace Bare

variable {τ α β : Type} {m : Machine τ} {s t u : Bare τ} {p : Work τ α} {k : α → Work τ β}
  {a : α} {b : β} {f : Fault}

/-- Work on `s` ends well: it answers `a` and leaves `t`. -/
def Runs (p : Work τ α) (s : Bare τ) (a : α) (t : Bare τ) : Prop :=
  p s = .ok a t

/-- Work on `s` is refused and leaves `s` as it was. -/
def Refused (p : Work τ α) (s : Bare τ) (f : Fault) : Prop :=
  p s = .error (.fault f) s

theorem runs_pure (a : α) : Runs (pure a) s a s := rfl

theorem runs_get : Runs get s s s := rfl

theorem runs_set (h : t = u) : Runs (set t) s () u :=
  congrArg (EStateM.Result.ok ()) h

theorem runs_modify {g : Bare τ → Bare τ} (h : g s = t) : Runs (modify g) s () t :=
  congrArg (EStateM.Result.ok ()) h

theorem Runs.apply (h : Runs p s a t) : (p >>= k) s = k a t := by
  show EStateM.bind p k s = _
  rw [EStateM.bind, h]

theorem Runs.bind (h : Runs p s a t) (hk : Runs (k a) t b u) : Runs (p >>= k) s b u :=
  h.apply.trans hk

/-- A refusal that comes after work which changed nothing. -/
theorem Runs.refused (h : Runs p s a s) (hk : Refused (k a) s f) : Refused (p >>= k) s f :=
  h.apply.trans hk

theorem Refused.bind (h : Refused p s f) : Refused (p >>= k) s f := by
  show EStateM.bind p k s = _
  rw [EStateM.bind, h]

theorem Runs.answer {a' : α} (h : Runs p s a t) (ha : a = a') : Runs p s a' t := ha ▸ h

theorem Runs.discard (h : Runs p s a t) : Runs (discard p) s () t := by
  show EStateM.map _ p s = _
  rw [EStateM.map, h]

theorem Runs.map (h : Runs p s a t) (g : α → β) : Runs (g <$> p) s (g a) t := by
  show EStateM.map g p s = _
  rw [EStateM.map, h]

/-- Work that ends well needs no handler. -/
theorem Runs.tryCatch {handler : Accident → Work τ α} (h : Runs p s a t) :
    Runs (tryCatch p handler) s a t := by
  show EStateM.tryCatch p handler s = _
  rw [EStateM.tryCatch, h]

theorem Refused.tryCatch {handler : Accident → Work τ α} (h : Refused p s f) :
    tryCatchThe Accident p handler s = handler (.fault f) s := by
  show EStateM.tryCatch p handler s = _
  rw [EStateM.tryCatch, h]
  rfl

theorem refused_throw : Refused (throw (.fault f) : Work τ α) s f := rfl

theorem runs_check {x : Except Fault α} (h : x = .ok a) : Runs (check x) s a s := by
  rw [h]; rfl

theorem refused_check {x : Except Fault α} (h : x = .error f) : Refused (check x) s f := by
  rw [h]; rfl

/-! ## Lists -/

theorem runs_item {l : List α} {k : Nat} (h : l[k]? = some a) : Runs (item l (k : Int)) s a s := by
  rw [item, if_pos (Int.natCast_nonneg k), Int.toNat_natCast, h]
  rfl

theorem runs_withItem {l : List α} {k : Nat} (h : k < l.length) (a : α) :
    Runs (withItem l (k : Int) a) s (l.set k a) s := by
  rw [withItem, if_pos ⟨Int.natCast_nonneg k, Int.ofNat_lt.mpr h⟩, Int.toNat_natCast]
  rfl

theorem runs_byte (c : UInt8) : Runs (byte (c.toNat : Int)) s (c.toNat : Int) s := by
  have := c.toNat_lt
  rw [byte, if_pos (by omega)]
  rfl

theorem runs_bytes (l : List UInt8) : Runs (bytes (numbers l)) s (numbers l) s := by
  unfold bytes
  induction l with
  | nil => rfl
  | cons c l ih =>
    rw [numbers, List.map_cons, List.mapM_cons]
    exact (runs_byte c).bind (ih.bind (runs_pure _))

theorem slice_natCast (l : List α) (start stop : Nat) :
    slice l (start : Int) (stop : Int) = (l.take stop).drop start := by
  simp only [slice, bound, Int.toNat_natCast, if_neg (Int.not_lt.mpr (Int.natCast_nonneg _))]

theorem splice_natCast (l : List α) (start stop : Nat) (items : List α) :
    splice l (start : Int) (stop : Int) items =
      l.take start ++ items ++ l.drop (max start stop) := by
  simp only [splice, bound, Int.toNat_natCast, if_neg (Int.not_lt.mpr (Int.natCast_nonneg _))]

@[simp] theorem length_numbers (l : List UInt8) : (numbers l).length = l.length :=
  List.length_map _

theorem getElem?_numbers (l : List UInt8) (k : Nat) :
    (numbers l)[k]? = l[k]?.map fun u => (u.toNat : Int) :=
  List.getElem?_map

/-! ## Registers -/

theorem toNat_ofInt8 (z : Int) : ((UInt8.ofInt z).toNat : Int) = z % 0x100 := by
  rw [UInt8.ofInt, UInt8.toNat_ofNat']
  omega

theorem runs_getV (x : Nibble) :
    Runs (getV (x.val : Int)) m.bare ((m.registers.get x).toNat : Int) m.bare := by
  refine runs_get.bind (runs_item ?_)
  have hx : m.registers.v.toList[x.val]? = some (m.registers.get x) := by
    rw [Vector.getElem?_toList, Vector.getElem?_eq_getElem x.isLt]
    rfl
  rw [Machine.bare_v, getElem?_numbers, hx]
  rfl

theorem runs_setV (x : Nibble) {z : Int} {b : UInt8} (h : z % 0x100 = b.toNat) :
    Runs (setV (x.val : Int) z) m.bare () (m.withRegisters (·.set x b)).bare := by
  have hx : x.val < m.bare.v.length := by
    rw [Machine.bare_v, length_numbers, Vector.length_toList]
    exact x.isLt
  have hv : (numbers m.registers.v.toList).set x (z % 0x100) =
      numbers (m.registers.set x b).v.toList := by
    rw [h, Registers.set, Vector.toList_set, numbers, numbers, List.map_set]
  refine runs_get.bind ((runs_withItem hx _).bind (runs_modify ?_))
  exact congrArg (fun v => { m.bare with v }) hv

theorem runs_setFlag {z : Int} {b : UInt8} (h : z % 0x100 = b.toNat) :
    Runs (setFlag z) m.bare () (m.withRegisters (·.setFlag b)).bare :=
  runs_setV Registers.flagRegister h

theorem runs_setIndex {z : Int} {i : UInt16} (h : z % 0x10000 = i.toNat) :
    Runs (setIndex z) m.bare () (m.withRegisters (·.setIndex i)).bare :=
  runs_modify (congrArg (fun index => { m.bare with index }) h)

/-- **No bit is lost** of a target that is a word of sixteen bits. -/
theorem runs_jump {z : Int} {target : UInt16} (h : z = target.toNat) :
    Runs (jump z) m.bare () (m.withRegisters (·.jump target)).bare := by
  subst h
  have hlt := target.toNat_lt
  have hfit : (target.toNat : Int) % 0x10000 = target.toNat := by omega
  rw [jump, if_pos hfit]
  exact runs_modify rfl

/-- Nor is one lost by a step from where an instruction can be fetched. -/
theorem runs_advance (hp : m.registers.pc.toNat ≤ 0xFFE) (skip : Bool) :
    Runs (advance skip) m.bare () (m.advance skip).bare :=
  runs_get.bind (runs_jump (Machine.pc_advance hp skip).symm)

/-! ## Memory -/

theorem toList_slice (memory : Memory) {start n : Nat} (h : start + n ≤ 4096) :
    (memory.cells.toList.take (start + n)).drop start = memory.slice start (start + n) := by
  refine List.ext_getElem ?_ fun i hi hi' => ?_
  · simp only [Memory.slice, List.length_drop, List.length_take, Vector.length_toList,
      List.length_map, List.length_range]
    omega
  · have hlt : start + i < 4096 := by
      simp only [List.length_drop, List.length_take, Vector.length_toList] at hi
      omega
    simp only [Memory.slice, List.getElem_drop, List.getElem_take, List.getElem_map,
      List.getElem_range, memory.byte_of_lt hlt, Vector.getElem_toList]

/-- A slice that lies in memory. -/
theorem slice_memory (memory : Memory) {start n : Nat} (h : start + n ≤ 4096) :
    slice (numbers memory.cells.toList) (start : Int) (start + n : Int) =
      numbers (memory.slice start (start + n)) := by
  rw [← Int.natCast_add, slice_natCast, ← toList_slice memory h, numbers, numbers, List.map_drop,
    List.map_take]

theorem length_of_readBlock {memory : Memory} {address n : Nat} {data : List UInt8}
    (h : memory.readBlock address n = .ok data) : data.length = n := by
  obtain ⟨-, rfl⟩ := Memory.readBlock_natCast_eq_ok_iff.mp h
  rw [Memory.length_slice, Nat.add_sub_cancel_left]

theorem runs_readBlock {address n : Nat} {data : List UInt8}
    (h : m.memory.readBlock address n = .ok data) :
    Runs (readBlock (address : Int) (n : Int)) m.bare (numbers data) m.bare := by
  obtain ⟨hfit, rfl⟩ := Memory.readBlock_natCast_eq_ok_iff.mp h
  have hin : Memory.InMemory address n := ⟨by omega, by omega⟩
  refine (runs_check (Memory.checkRange_of_inMemory hin)).bind (runs_get.bind ?_)
  rw [← slice_memory _ hfit]
  exact runs_pure _

theorem refused_readBlock {address n : Nat} (h : m.memory.readBlock address n = .error f) :
    Refused (readBlock (address : Int) (n : Int)) m.bare f :=
  (refused_check (Checked.eq_error_iff.mp h)).bind

theorem runs_item_memory {address : Nat} (h : address < 4096) :
    Runs (item m.bare.memory (address : Int)) m.bare ((m.memory.byte address).toNat : Int)
      m.bare := by
  refine runs_item ?_
  rw [Machine.bare_memory, getElem?_numbers, Vector.getElem?_toList, Vector.getElem?_eq_getElem h,
    m.memory.byte_of_lt h]
  rfl

theorem runs_readWord {address : Nat} {w : Word} (h : m.memory.readWord address = .ok w) :
    Runs (readWord (address : Int)) m.bare (w.toNat : Int) m.bare := by
  obtain ⟨hin, rfl⟩ := Memory.readWord_eq_ok_iff.mp h
  have hfit : address + 1 < 4096 := by unfold Memory.InMemory at hin; omega
  rw [Machine.ofBytes_toNat]
  refine (runs_check (Memory.checkRange_of_inMemory hin)).bind (runs_get.bind ?_)
  refine (runs_item_memory (by omega)).bind (runs_get.bind ?_)
  exact (runs_item_memory hfit).bind (runs_pure _)

theorem refused_readWord {address : Nat} (h : m.memory.readWord address = .error f) :
    Refused (readWord (address : Int)) m.bare f :=
  (refused_check (Checked.eq_error_iff.mp h)).bind

theorem getElem?_cells (memory : Memory) (i : Nat) :
    memory.cells.toList[i]? = if i < 4096 then some (memory.byte i) else none := by
  rw [Vector.getElem?_toList]
  by_cases h : i < 4096
  · rw [if_pos h, Vector.getElem?_eq_getElem h, memory.byte_of_lt h]
  · rw [if_neg h, Vector.getElem?_eq_none (Nat.le_of_not_lt h)]

/-- A patch that lies in memory. -/
theorem toList_patch (memory : Memory) {start : Nat} {data : List UInt8}
    (h : start + data.length ≤ 4096) :
    (memory.patch start data).cells.toList =
      memory.cells.toList.take start ++ data ++
        memory.cells.toList.drop (start + data.length) := by
  refine List.ext_getElem? fun i => ?_
  have hstart : (memory.cells.toList.take start).length = start := by
    rw [List.length_take, Vector.length_toList]
    omega
  rw [getElem?_cells, Memory.byte_patch _ _ _ _ h, List.append_assoc]
  by_cases hbelow : i < start
  · rw [if_pos (by omega), if_neg (by omega), List.getElem?_append_left (by omega),
      List.getElem?_take_of_lt hbelow, getElem?_cells, if_pos (by omega)]
  rw [List.getElem?_append_right (by omega), hstart]
  by_cases hin : i < start + data.length
  · have hk : i - start < data.length := by omega
    rw [if_pos (by omega), if_pos ⟨by omega, hin⟩, List.getElem?_append_left hk,
      List.getElem?_eq_getElem hk]
    rfl
  · have hi : start + data.length + (i - start - data.length) = i := by omega
    have hout : ¬ (start ≤ i ∧ i < start + data.length) := fun hboth => hin hboth.2
    rw [if_neg hout, List.getElem?_append_right (by omega), List.getElem?_drop,
      hi, getElem?_cells]

/-- A slice of memory with other bytes in its place, as many as there were. -/
theorem splice_memory (memory : Memory) {start : Nat} {data : List UInt8}
    (h : start + data.length ≤ 4096) :
    splice (numbers memory.cells.toList) (start : Int) (start + data.length : Int)
      (numbers data) = numbers (memory.patch start data).cells.toList := by
  rw [← Int.natCast_add, splice_natCast, toList_patch _ h, Nat.max_eq_right (by omega)]
  simp only [numbers, List.map_append, List.map_take, List.map_drop]

/-- **A block is written in place** as it is to a memory, whatever else there is; if it is refused,
nothing has changed. -/
theorem writeBlock_eq {memory : Memory} (hs : s.memory = numbers memory.cells.toList)
    (address : Int) (data : List UInt8) :
    writeBlock address (numbers data) s =
      match memory.writeBlock address data with
      | .ok after => .ok () { s with memory := numbers after.cells.toList }
      | .error f => .error (.fault f) s := by
  unfold writeBlock
  rw [length_numbers]
  cases h : memory.writeBlock address data with
  | error f => exact (refused_check (Checked.eq_error_iff.mp h)).bind
  | ok after =>
    obtain ⟨⟨hin, hoff⟩, rfl⟩ := Memory.writeBlock_eq_ok_iff.mp h
    have hchecked := Memory.checkWritable_eq_ok_iff (u := ()).mpr ⟨hin, hoff⟩
    lift address to Nat using hin.1
    have hfit : address + data.length ≤ 4096 := by unfold Memory.InMemory at hin; omega
    refine (runs_check hchecked).bind (runs_modify ?_)
    rw [hs]
    exact congrArg (fun memory => { s with memory }) (splice_memory memory hfit)

theorem runs_writeBlock {address : Nat} {data : List UInt8} {memory : Memory}
    (h : m.memory.writeBlock address data = .ok memory) :
    Runs (writeBlock (address : Int) (numbers data)) m.bare ()
      ({ m with memory } : Machine τ).bare := by
  have hwrite := writeBlock_eq m.bare_memory address data
  rw [h] at hwrite
  exact hwrite

theorem refused_writeBlock {address : Nat} {data : List UInt8}
    (h : m.memory.writeBlock address data = .error f) :
    Refused (writeBlock (address : Int) (numbers data)) m.bare f := by
  have hwrite := writeBlock_eq m.bare_memory address data
  rw [h] at hwrite
  exact hwrite

/-! ## Call stack -/

theorem runs_push {address : Int} {stack : CallStack} (h : m.stack.push address = .ok stack) :
    Runs (push address) m.bare () ({ m with stack } : Machine τ).bare := by
  unfold CallStack.push at h
  split at h
  next hd =>
    cases h
    have hfree : ¬ (stackSize : Int) ≤ m.bare.sp := by
      rw [Machine.bare_sp, stackSize]
      omega
    have hplace : m.stack.depth < m.bare.slots.length := by
      rw [Machine.bare_slots, Vector.length_toList]
      exact hd
    unfold push
    refine runs_get.bind ?_
    simp only [if_neg hfree]
    refine (runs_withItem hplace address).bind (runs_set ?_)
    have hslots : m.stack.slots.toList.set m.stack.depth address =
        (m.stack.slots.set m.stack.depth address).toList := by
      rw [Vector.toList_set]
    exact congrArg (fun slots => { m.bare with slots, sp := m.bare.sp + 1 }) hslots
  next => cases h

theorem refused_push {address : Int} (h : m.stack.push address = .error f) :
    Refused (push address) m.bare f := by
  obtain ⟨hd, rfl⟩ := CallStack.push_eq_error_iff.mp h
  have hsp : m.bare.sp = 16 := congrArg Int.ofNat hd
  unfold push
  refine runs_get.refused ?_
  rw [hsp, if_pos (by decide)]
  exact refused_throw.bind

/-- The slot below the count is the one on top. -/
theorem runs_item_top (h : 0 < m.stack.depth) (hlt : m.stack.depth - 1 < 16) :
    Runs (item m.bare.slots (m.bare.sp - 1)) s m.stack.slots[m.stack.depth - 1] s := by
  have htop : m.bare.sp - 1 = (m.stack.depth - 1 : Nat) := by
    rw [Machine.bare_sp]
    omega
  rw [htop]
  refine runs_item ?_
  rw [Machine.bare_slots, Vector.getElem?_toList, Vector.getElem?_eq_getElem]

theorem runs_pop {address : Int} {stack : CallStack} (h : m.stack.pop = .ok (address, stack)) :
    Runs pop m.bare address ({ m with stack } : Machine τ).bare := by
  unfold CallStack.pop at h
  split at h
  next hd =>
    cases h
    have hsome : ¬ m.bare.sp = 0 := by
      rw [Machine.bare_sp]
      omega
    have htop : m.bare.sp - 1 = (m.stack.depth - 1 : Nat) := by
      rw [Machine.bare_sp]
      omega
    unfold pop
    refine runs_get.bind ?_
    rw [if_neg hsome]
    exact Runs.bind (runs_set (congrArg (fun sp => { m.bare with sp }) htop)) (runs_item_top hd _)
  next => cases h

theorem refused_pop (h : m.stack.pop = .error f) : Refused pop m.bare f := by
  obtain ⟨hd, rfl⟩ := CallStack.pop_eq_error_iff.mp h
  have hsp : m.bare.sp = 0 := congrArg Int.ofNat hd
  unfold pop
  refine runs_get.refused ?_
  rw [if_pos hsp]
  exact refused_throw.bind

/-! ## Keypad -/

theorem runs_item_keys (k : Nibble) :
    Runs (item m.bare.keys (k.val : Int)) m.bare (m.keypad.isDown k) m.bare := by
  refine runs_item ?_
  rw [Machine.bare_keys, Vector.getElem?_toList, Vector.getElem?_eq_getElem k.isLt]
  rfl

theorem runs_setKey (code : Int) (down : Bool) :
    Runs (setKey code down) m.bare () (m.setKey code down).bare := by
  unfold setKey Machine.setKey Keypad.setKey Keypad.key?
  by_cases hcode : 0 ≤ code ∧ code < 16
  · obtain ⟨k, rfl⟩ := Int.eq_ofNat_of_zero_le hcode.1
    have hplace : k < m.bare.keys.length := by
      rw [Machine.bare_keys, Vector.length_toList]
      omega
    have hkeys : m.keypad.held.toList.set k down =
        (m.keypad.held.set k down (by omega)).toList := by
      rw [Vector.toList_set]
    rw [if_pos hcode]
    simp only [dif_pos hcode]
    refine runs_get.bind ((runs_withItem hplace down).bind (runs_modify ?_))
    exact congrArg (fun keys => { m.bare with keys }) hkeys
  · rw [if_neg hcode]
    simp only [dif_neg hcode]
    exact runs_pure ()

theorem runs_isPressed (code : Int) :
    Runs (isPressed code) m.bare (m.keypad.isPressed code) m.bare := by
  have hk : code % 16 = ((code % 16).toNat : Nat) := by omega
  refine runs_get.bind ?_
  rw [hk]
  exact runs_item_keys ⟨(code % 16).toNat, by omega⟩

/-- A later key that is down takes the place of an earlier one. -/
theorem runs_scan (ks : List Nibble) (found : Option Int) :
    Runs ((ks.map Fin.val).foldlM (fun found (key : Nat) => do
        if ← item m.bare.keys key then return some (key : Int) else return found) found) m.bare
      (((ks.reverse.find? m.keypad.isDown).map fun k => (k.val : Int)).or found) m.bare := by
  induction ks generalizing found with
  | nil => exact runs_pure _
  | cons k ks ih =>
    have hlook : Runs (do
        if ← item m.bare.keys (k.val : Int) then return some (k.val : Int) else return found) m.bare
        (if m.keypad.isDown k then some (k.val : Int) else found) m.bare := by
      refine (runs_item_keys k).bind ?_
      split <;> exact runs_pure _
    rw [List.map_cons, List.foldlM_cons]
    refine hlook.bind ((ih _).answer ?_)
    rw [List.reverse_cons, List.find?_append, List.find?_singleton, Option.map_or, Option.or_assoc]
    cases m.keypad.isDown k <;> rfl

theorem runs_highestPressed :
    Runs highestPressed m.bare (m.keypad.highestPressed.map fun k => (k.val : Int)) m.bare := by
  have hkeys : List.range 16 = (List.finRange 16).map Fin.val := by decide
  refine runs_get.bind ?_
  rw [hkeys]
  refine (runs_scan (List.finRange 16) none).answer ?_
  rw [Option.or_none]
  rfl

/-! ## Screen -/

theorem length_pixels (g : Plane) : g.pixels.length = 2048 := by
  unfold Plane.pixels
  exact (List.length_map _).trans List.length_range

/-- A dark picture. -/
theorem pixels_dark : Plane.pixels (fun _ => false) = List.replicate 2048 0 := by
  refine List.eq_replicate_iff.mpr ⟨length_pixels _, fun pixel hp => ?_⟩
  unfold Plane.pixels at hp
  obtain ⟨_, -, rfl⟩ := List.mem_map.mp hp
  rfl

/-- The pixel that is kept at an offset. -/
theorem getElem?_pixels_of_lt (g : Plane) {offset : Nat} (h : offset < 2048) :
    g.pixels[offset]? = some (if g (Point.at offset (offset / 64)) then 1 else 0) := by
  unfold Plane.pixels
  rw [List.getElem?_map, List.getElem?_range h]
  rfl

/-- The point whose pixel is kept at the offset of `(x, y)`. -/
theorem at_offset {offset : Nat} {x y : Int} (h : (offset : Int) = y % 32 * 64 + x % 64) :
    Point.at offset (offset / 64) = Point.at x y :=
  Point.at_congr (by omega) (by omega)

theorem at_eq_iff {offset : Nat} (hlt : offset < 2048) (x y : Int) :
    Point.at offset (offset / 64) = Point.at x y ↔ (offset : Int) = y % 32 * 64 + x % 64 := by
  constructor
  · intro h
    have hx := congrArg (fun p : Point => p.1.val) h
    have hy := congrArg (fun p : Point => p.2.val) h
    simp only [Point.at] at hx hy
    omega
  · exact at_offset

/-- A point that is toggled is the only pixel that changes. -/
theorem pixels_toggle (g : Plane) {offset : Nat} {x y : Int}
    (h : (offset : Int) = y % 32 * 64 + x % 64) :
    (g.toggle (Point.at x y)).pixels =
      g.pixels.set offset (if g (Point.at x y) then 0 else 1) := by
  refine List.ext_getElem? fun i => ?_
  by_cases hi : i < 2048
  · rw [getElem?_pixels_of_lt _ hi]
    by_cases hsame : i = offset
    · subst hsame
      rw [at_offset h, Plane.toggle_self, List.getElem?_set_self (by rw [length_pixels]; exact hi)]
      cases g (Point.at x y) <;> rfl
    · have hne : Point.at i (i / 64) ≠ Point.at x y := by
        rw [ne_eq, at_eq_iff hi]
        omega
      rw [Plane.toggle_of_ne g hne, List.getElem?_set_ne (Ne.symm hsame),
        getElem?_pixels_of_lt _ hi]
  · rw [List.getElem?_eq_none (by rw [length_pixels]; omega),
      List.getElem?_eq_none (by rw [List.length_set, length_pixels]; omega)]

/-- The bare machine with another picture on its screen. -/
def withPlane (s : Bare τ) (g : Plane) : Bare τ :=
  { s with pixels := g.pixels }

theorem bit_iff (row k : Nat) : (row : Int) / 2 ^ k % 2 = 1 ↔ row.testBit k = true := by
  rw [Nat.testBit_eq_decide_div_mod_eq, decide_eq_true_iff]
  norm_cast

/-- The pixel of a point is toggled. -/
theorem runs_toggle (s : Bare τ) (g : Plane) (x y : Int) :
    Runs (toggle x y) (s.withPlane g) (g (Point.at x y))
      (s.withPlane (g.toggle (Point.at x y))) := by
  obtain ⟨offset, hoff⟩ := Int.eq_ofNat_of_zero_le (a := y % 32 * 64 + x % 64) (by omega)
  have hlt : offset < 2048 := by omega
  have hpixel : g.pixels[offset]? = some (if g (Point.at x y) then 1 else 0) := by
    rw [getElem?_pixels_of_lt g hlt, at_offset hoff.symm]
  have hplace : offset < (s.withPlane g).pixels.length := by
    show offset < g.pixels.length
    rw [length_pixels]
    exact hlt
  have hset : { s.withPlane g with
      pixels := g.pixels.set offset (if g (Point.at x y) then 0 else 1) } =
      s.withPlane (g.toggle (Point.at x y)) :=
    congrArg (fun pixels => { s with pixels }) (pixels_toggle g hoff.symm).symm
  unfold toggle
  simp only [hoff]
  refine runs_get.bind ((runs_item hpixel).bind ?_)
  cases hlit : g (Point.at x y) with
  | true =>
    rw [hlit] at hset
    refine (runs_byte 0).bind (runs_get.bind ((runs_withItem hplace _).bind ?_))
    exact (runs_modify hset).bind (runs_pure true)
  | false =>
    rw [hlit] at hset
    refine (runs_byte 1).bind (runs_get.bind ((runs_withItem hplace _).bind ?_))
    exact (runs_modify hset).bind (runs_pure false)

theorem runs_drawColumn (s : Bare τ) (g : Plane) (x y : Int) (row : Nat) (hit : Bool)
    (column : Nat) :
    Runs (drawColumn x y row hit column) (s.withPlane g)
      (hit || (row.testBit (7 - column) && g (Point.at (x + column) y)))
      (s.withPlane
        (if row.testBit (7 - column) then g.toggle (Point.at (x + column) y) else g)) := by
  unfold drawColumn
  cases hbit : row.testBit (7 - column) with
  | true =>
    rw [if_pos ((bit_iff row _).mpr hbit)]
    exact (runs_toggle s g _ y).bind (runs_pure _)
  | false =>
    rw [if_neg (fun h => by rw [(bit_iff row _).mp h] at hbit; cases hbit)]
    exact (runs_pure hit).answer (by simp)

/-- The columns of a sprite row, one after another, are plotted. -/
theorem runs_columns (s : Bare τ) (g : Plane) (x y : Int) (row : Nat) (hit : Bool)
    (columns : List Nat) :
    Runs (columns.foldlM (drawColumn x y row) hit) (s.withPlane g)
      (hit || (g.plot ((columns.filter fun c => row.testBit (7 - c)).map
        fun c : Nat => Point.at (x + c) y)).1)
      (s.withPlane (g.plot ((columns.filter fun c => row.testBit (7 - c)).map
        fun c : Nat => Point.at (x + c) y)).2) := by
  induction columns generalizing g hit with
  | nil => exact (runs_pure hit).answer (Bool.or_false hit).symm
  | cons column columns ih =>
    rw [List.foldlM_cons]
    refine (runs_drawColumn s g x y row hit column).bind ?_
    cases hbit : row.testBit (7 - column) with
    | true =>
      rw [List.filter_cons_of_pos (p := fun c => row.testBit (7 - c)) hbit, List.map_cons,
        Plane.plot]
      exact (ih (g.toggle (Point.at (x + column) y)) _).answer (Bool.or_assoc ..)
    | false =>
      rw [List.filter_cons_of_neg (p := fun c => row.testBit (7 - c))
        (fun h => Bool.false_ne_true (hbit.symm.trans h))]
      exact (ih g _).answer (by simp)

theorem runs_drawRows (s : Bare τ) (g : Plane) (x y : Int) (hit : Bool) (rows : List UInt8) :
    Runs (drawRows x y hit (numbers rows)) (s.withPlane g)
      (hit || (g.plot (spritePoints x y (rows.map UInt8.toNat))).1)
      (s.withPlane (g.plot (spritePoints x y (rows.map UInt8.toNat))).2) := by
  induction rows generalizing g y hit with
  | nil => exact (runs_pure hit).answer (Bool.or_false hit).symm
  | cons row rows ih =>
    rw [List.map_cons, spritePoints, Plane.plot_append]
    refine (runs_columns s g x y row.toNat hit (List.range 8)).bind ?_
    exact (ih _ (y + 1) _).answer (Bool.or_assoc ..)

/-- **A sprite is drawn pixel by pixel.** -/
theorem runs_draw (x y : Int) (rows : List UInt8) :
    Runs (draw x y (numbers rows)) m.bare (m.screen.draw x y rows).1
      ({ m with screen := (m.screen.draw x y rows).2 } : Machine τ).bare := by
  have hpoints : spritePoints (x % 64) (y % 32) (rows.map UInt8.toNat) =
      spritePoints x y (rows.map UInt8.toNat) :=
    spritePoints_congr (Int.emod_emod_of_dvd x (dvd_refl 64))
      (Int.emod_emod_of_dvd y (dvd_refl 32)) _
  have hdrawn := runs_drawRows m.bare m.screen.frame.plane (x % 64) (y % 32) false rows
  rw [hpoints, ← Screen.draw_eq_plot, Bool.false_or] at hdrawn
  exact hdrawn.bind ((runs_modify rfl).bind (runs_pure _))

theorem runs_clear :
    Runs clear m.bare () ({ m with screen := m.screen.clear } : Machine τ).bare := by
  have hdark : List.replicate m.bare.pixels.length 0 = m.screen.clear.frame.plane.pixels := by
    rw [Screen.plane_clear, pixels_dark]
    exact congrArg (List.replicate · 0) (length_pixels _)
  exact runs_modify (congrArg (fun pixels => { m.bare with pixels, dirty := true }) hdark)

theorem runs_randomByte :
    Runs randomByte m.bare (m.random.draw.1.toNat : Int)
      ({ m with random := m.random.draw.2 } : Machine τ).bare :=
  runs_get.bind ((runs_set rfl).bind (runs_pure _))

end Bare

end Chip8
