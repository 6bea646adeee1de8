import Chip8.Proofs.Machine.Footprint

/-!
# Registers kept in memory

A program that needs its registers for something else stores them to memory and loads them back
later. That works because memory changes in the cells that an instruction writes and in no other:
neither the rest of the machine, nor a fault, nor anything that a host does short of a restart
touches it. So what was stored stands until something is stored over it, and a load from the same
place gives the registers back, as many as were stored.

* `byte_of_execute`, `byte_call`: an instruction, and so a call of a host, changes no cell that it
  does not write.
* `byte_calls`: neither does a run.
* `byte_of_store` and `execute_load`: what a store puts into memory, and what a load takes from it.
* `load_after_store`: registers that were stored are loaded as they were.
-/

namespace Chip8

namespace Memory

variable {m m' : Memory} {start : Nat} {bytes : List UInt8}

/-- A block that was written left every other cell as it was. -/
theorem byte_of_writeBlock {a : Nat} (h : m.writeBlock start bytes = .ok m')
    (ha : a ∉ List.range' start bytes.length) : m'.byte a = m.byte a := by
  obtain ⟨⟨⟨-, hin⟩, -⟩, rfl⟩ := writeBlock_eq_ok_iff.mp h
  rw [List.mem_range'_1] at ha
  rw [byte_patch _ _ _ _ (by simp only [memorySize, Int.toNat_natCast]; omega),
    Int.toNat_natCast, if_neg ha]

/-- A block that was written is in its cells. -/
theorem byte_of_writeBlock_add {k : Nat} (h : m.writeBlock start bytes = .ok m')
    (hk : k < bytes.length) : start + bytes.length ≤ 4096 ∧ m'.byte (start + k) = bytes[k] := by
  obtain ⟨⟨⟨-, hin⟩, -⟩, rfl⟩ := writeBlock_eq_ok_iff.mp h
  refine ⟨by omega, ?_⟩
  rw [byte_patch _ _ _ _ (by simp only [memorySize, Int.toNat_natCast]; omega),
    Int.toNat_natCast, if_pos (by omega), Nat.add_sub_cancel_left, List.getElem?_eq_getElem hk]
  rfl

end Memory

namespace Machine

variable {τ : Type} {m n : Machine τ} {i : Instruction} {a : Nat} {x : Nibble}

/-! ## The cells that are written -/

/-- The cells that an instruction writes if it goes through. -/
def writtenBy (m : Machine τ) : Instruction → List Nat
  | .decimal _ => List.range' m.registers.index.toNat 3
  | .store x => List.range' m.registers.index.toNat (x + 1)
  | _ => []

/-- **An instruction changes no cell that it does not write.** -/
theorem byte_of_execute (h : m.execute i = .ok n) (ha : a ∉ m.writtenBy i) :
    n.memory.byte a = m.memory.byte a := by
  cases ht : i.touches .memory with
  | false =>
    have hsame : n.memory = m.memory := same_of_execute h ht
    rw [hsame]
  | true =>
    cases i with
    | decimal x =>
      obtain ⟨memory, hw, rfl⟩ := Checked.eq_ok_iff.mp h
      exact Memory.byte_of_writeBlock hw ha
    | store x =>
      obtain ⟨memory, hw, rfl⟩ := Checked.eq_ok_iff.mp h
      refine Memory.byte_of_writeBlock hw ?_
      rw [Registers.length_upTo]
      exact ha
    | _ => cases ht

section

variable [Seconds τ]

/-- The cells that a call writes. -/
def writtenIn (m : Machine τ) (c : Call τ) : List Nat :=
  (m.executed? c).toList.flatMap m.writtenBy

/-- The cells that a sequence of calls writes, in order. -/
def written (m : Machine τ) : List (Call τ) → List Nat
  | [] => []
  | c :: cs => m.writtenIn c ++ (m.call c).written cs

/-- **A call changes no cell that it does not write**, unless it restarts the machine. -/
theorem byte_call {c : Call τ} (hc : c.restarts = false) (ha : a ∉ m.writtenIn c) :
    (m.call c).memory.byte a = m.memory.byte a := by
  cases he : m.executed? c with
  | some i =>
    obtain ⟨t, n, rfl, hn, hcall⟩ := call_of_executed? he
    have hunwritten : a ∉ (m.noted t).writtenBy i := by
      intro hmem
      rw [writtenIn, he] at ha
      exact ha (List.mem_flatMap.mpr ⟨i, List.mem_singleton_self i, hmem⟩)
    have hbyte : n.memory.byte a = (m.noted t).memory.byte a := byte_of_execute hn hunwritten
    rw [hcall]
    exact hbyte
  | none =>
    cases c with
    | reset => cases hc
    | load image name => cases hc
    | loadFile tree path => cases hc
    | key code down => rfl
    | present => rfl
    | cycle t =>
      have huntouched : ∀ i, m.executed? (.cycle t) = some i → i.touches .memory = false := by
        intro i hi
        cases he.symm.trans hi
      have hstep : (m.noted t).step.machine.memory = m.memory := same_of_cycle huntouched
      rw [call, cycleBy_snd, ticked, hstep]

/-- **A run changes no cell that it does not write.** -/
theorem byte_calls {cs : List (Call τ)} (hcs : ∀ c ∈ cs, c.restarts = false)
    (ha : a ∉ m.written cs) : (m.calls cs).memory.byte a = m.memory.byte a := by
  induction cs generalizing m with
  | nil => rfl
  | cons c cs ih =>
    rw [written, List.mem_append, not_or] at ha
    obtain ⟨hfirst, hrest⟩ := ha
    rw [calls_cons, ih (fun d hd => hcs d (List.mem_cons_of_mem c hd)) hrest]
    exact byte_call (hcs c List.mem_cons_self) hfirst

end

/-! ## Storing and loading -/

/-- **A store puts each register into its cell**, from the index on. -/
theorem byte_of_store (h : m.execute (.store x) = .ok n) {y : Nibble} (hy : y ≤ x) :
    m.registers.index.toNat + x + 1 ≤ 4096 ∧
      n.memory.byte (m.registers.index.toNat + y) = m.registers.get y := by
  obtain ⟨memory, hw, rfl⟩ := Checked.eq_ok_iff.mp h
  have hlen := m.registers.length_upTo x
  have hlt : y.val < (m.registers.upTo x).length := by
    rw [hlen]
    exact Nat.lt_succ_of_le hy
  obtain ⟨hfit, hbyte⟩ := Memory.byte_of_writeBlock_add hw hlt
  have hregister : (m.registers.upTo x)[y.val] = m.registers.get y := by
    have hget := m.registers.getElem?_upTo (x := x) (k := y) hy
    rw [List.getElem?_eq_getElem hlt, Option.some.injEq] at hget
    simpa using hget
  rw [hlen] at hfit
  exact ⟨by omega, hbyte.trans hregister⟩

/-- **A load takes each register from its cell**; it goes through if the cells exist, and touches
nothing else but the program counter. -/
theorem execute_load (hfit : m.registers.index.toNat + x + 1 ≤ 4096) :
    ∃ n, m.execute (.load x) = .ok n ∧
      (∀ y, n.registers.get y =
        if y ≤ x then m.memory.byte (m.registers.index.toNat + y) else m.registers.get y) ∧
      n.registers.index = m.registers.index ∧ n.memory = m.memory := by
  have hread : m.memory.readBlock m.registers.index.toNat (x + 1 : Nat) =
      .ok (m.memory.slice m.registers.index.toNat (m.registers.index.toNat + (x + 1))) :=
    Memory.readBlock_natCast_eq_ok_iff.mpr ⟨by omega, rfl⟩
  refine ⟨_, Checked.eq_ok_iff.mpr ⟨_, hread, rfl⟩, fun y => ?_, ?_, rfl⟩
  · show (m.registers.setFrom 0 _).get y = _
    rw [Registers.get_setFrom, Memory.length_slice]
    by_cases hy : y ≤ x
    · have hlt : y.val < x + 1 := Nat.lt_succ_of_le hy
      rw [if_pos hy, if_pos (by omega), Nat.sub_zero, Memory.slice, List.getElem?_map,
        Nat.add_sub_cancel_left, List.getElem?_range hlt]
      rfl
    · have hgt : x.val < y.val := Nat.lt_of_not_le hy
      rw [if_neg hy, if_neg (by omega)]
  · exact Registers.index_setFrom ..

variable [Seconds τ]

/-- What a cycle stored stands in its cells after any run that spares them. -/
theorem byte_of_stored {t : Timing τ} (hstore : m.executed? (.cycle t) = some (.store x))
    {cs : List (Call τ)} (hcs : ∀ c ∈ cs, c.restarts = false)
    (hspared : ∀ a ∈ (m.call (.cycle t)).written cs,
      ¬ (m.registers.index.toNat ≤ a ∧ a ≤ m.registers.index.toNat + x))
    {y : Nibble} (hy : y ≤ x) :
    m.registers.index.toNat + x + 1 ≤ 4096 ∧
      ((m.call (.cycle t)).calls cs).memory.byte (m.registers.index.toNat + y) =
        m.registers.get y := by
  obtain ⟨_, n, ⟨⟩, hexecuted, hcall⟩ := call_of_executed? hstore
  obtain ⟨hfit, hbyte⟩ := byte_of_store hexecuted hy
  have hle : y.val ≤ x.val := hy
  have hunwritten : m.registers.index.toNat + y ∉ (m.call (.cycle t)).written cs := by
    intro hmem
    exact hspared _ hmem ⟨Nat.le_add_right .., Nat.add_le_add_left hle _⟩
  refine ⟨hfit, ?_⟩
  rw [byte_calls hcs hunwritten, hcall]
  exact hbyte

/-- **A cycle that takes up a load** whose cells exist carries it out. -/
theorem cycle_of_load {u : Timing τ} {d : Decoded}
    (hload : (m.cycleBy u).1.instruction = some d) (hd : d.instruction = .load x)
    (hfit : m.registers.index.toNat + x + 1 ≤ 4096) :
    (m.cycleBy u).1.fault = none ∧
      (∀ y, (m.cycleBy u).2.registers.get y =
        if y ≤ x then m.memory.byte (m.registers.index.toNat + y) else m.registers.get y) ∧
      (m.cycleBy u).2.registers.index = m.registers.index ∧
      (m.cycleBy u).2.memory = m.memory := by
  obtain ⟨n, hn, hregisters, hindex, hmemory⟩ := execute_load (m := m.noted u) hfit
  rw [cycleBy_instruction] at hload
  rcases step_of_instruction hload with ⟨f, hf, -⟩ | ⟨n', hn', hstep⟩
  · rw [hd, hn] at hf
    cases hf
  · rw [hd, hn] at hn'
    cases hn'
    rw [cycleBy_fault, cycleBy_snd, hstep]
    exact ⟨rfl, hregisters, hindex, hmemory⟩

/-- **Registers that were stored are loaded as they were.** A cycle stores `V0` to `Vx` at the
index; then come any cycles, keys and pictures, with any faults and waits, whose stores and decimals
spare the cells from the index to the index plus `x`; then a cycle takes up the load of as many
registers, with the index as it was at the store. The load goes through, the registers are what they
were at the store, and the registers above, the index and memory are what they were at the load.
This holds of every machine, reachable or not. -/
theorem load_after_store {t : Timing τ} (hstore : m.executed? (.cycle t) = some (.store x))
    {cs : List (Call τ)} (hcs : ∀ c ∈ cs, c.restarts = false)
    (hspared : ∀ a ∈ (m.call (.cycle t)).written cs,
      ¬ (m.registers.index.toNat ≤ a ∧ a ≤ m.registers.index.toNat + x))
    {later : Machine τ} (hlater : (m.call (.cycle t)).calls cs = later)
    (hindex : later.registers.index = m.registers.index) {u : Timing τ} {d : Decoded}
    (hload : (later.cycleBy u).1.instruction = some d) (hd : d.instruction = .load x) :
    (later.cycleBy u).1.fault = none ∧
      (∀ y ≤ x, (later.cycleBy u).2.registers.get y = m.registers.get y) ∧
      (∀ y > x, (later.cycleBy u).2.registers.get y = later.registers.get y) ∧
      (later.cycleBy u).2.registers.index = later.registers.index ∧
      (later.cycleBy u).2.memory = later.memory := by
  have hcells := fun y (hy : y ≤ x) => byte_of_stored hstore hcs hspared hy
  rw [hlater, ← hindex] at hcells
  obtain ⟨hfit, -⟩ := hcells x (Nat.le_refl _)
  obtain ⟨hfault, hregisters, hsame, hkept⟩ := cycle_of_load hload hd hfit
  refine ⟨hfault, fun y hy => ?_, fun y hy => ?_, hsame, hkept⟩
  · rw [hregisters, if_pos hy]
    exact (hcells y hy).2
  · have habove : ¬ y ≤ x := Nat.not_le_of_gt hy
    rw [hregisters, if_neg habove]

/-- A program that stores two registers, uses one for something else, which it writes down behind
them, and loads both back. -/
def borrowing : List UInt8 :=
  [0x60, 0x07, 0x61, 0x09, 0xA3, 0x00, 0xF1, 0x55, 0x60, 0xFF, 0xA3, 0x02, 0xF0, 0x33, 0xA3, 0x00,
    0xF1, 0x65]

theorem load_after_store_borrowing :
    let m : Machine Rat := (initial 0).calls
      [.load borrowing "", .cycle (.told 0), .cycle (.told 0), .cycle (.told 0)]
    let cs : List (Call Rat) := [.cycle (.told 0), .key 3 true, .cycle (.told 1), .cycle (.told 0),
      .cycle (.told 0)]
    let later := (m.call (.cycle (.told 0))).calls cs
    m.executed? (.cycle (.told 0)) = some (.store 1) ∧ (∀ c ∈ cs, c.restarts = false) ∧
      (m.call (.cycle (.told 0))).written cs = [0x302, 0x303, 0x304] ∧
      later.registers.get 0 = 0xFF ∧ (later.cycleBy (.told 0)).1.fault = none ∧
      (later.cycleBy (.told 0)).2.registers.get 0 = 7 := by
  intro m cs later
  have hcs : ∀ c ∈ cs, c.restarts = false := by simp [cs, Call.restarts]
  obtain ⟨hstore, hwritten, hindex, hload, hstart, hseven, hused⟩ :
      m.executed? (.cycle (.told 0)) = some (.store 1) ∧
      (m.call (.cycle (.told 0))).written cs = [0x302, 0x303, 0x304] ∧
      later.registers.index = m.registers.index ∧
      (later.cycleBy (.told 0)).1.instruction = some ⟨0xF165, .load 1⟩ ∧
      m.registers.index.toNat = 0x300 ∧ m.registers.get 0 = 7 ∧
      later.registers.get 0 = 0xFF := by
    decide +kernel
  have hspared : ∀ a ∈ (m.call (.cycle (.told 0))).written cs,
      ¬ (m.registers.index.toNat ≤ a ∧ a ≤ m.registers.index.toNat + (1 : Nibble)) := by
    intro a ha
    rw [hwritten] at ha
    simp only [List.mem_cons, List.not_mem_nil, or_false] at ha
    have hone : (1 : Nibble).val = 1 := rfl
    omega
  obtain ⟨hfault, hback, -⟩ := load_after_store hstore hcs hspared rfl hindex hload rfl
  refine ⟨hstore, hcs, hwritten, hused, hfault, ?_⟩
  rw [hback 0 (by decide), hseven]

end Machine

end Chip8
