import Chip8.Proofs.Machine.Faults

/-!
# Well-formed machines

What is true of every machine that a host can come to: the glyphs are in place, the program counter
and the return addresses are small enough for no address to wrap around, both timers hold bytes, and
a machine that waits for a key stands at the instruction that made it wait.

An instruction can bring about little: it changes memory by a checked write only, the stack by a
push or a pop, the timers by setting one of them to a byte. `Outcome` says so once, for all
instructions, and the rest follows from it.

* `outcome_of_execute`: what an instruction can bring about.
* `WellFormed.call`: every call of a host keeps a machine well-formed.
* `Reachable.wellFormed`: every machine that a host can come to is.
-/

namespace Chip8

/-- The cells of the glyphs hold the glyphs. -/
def Memory.GlyphsIntact (m : Memory) : Prop :=
  ∀ a < glyphEnd, m.byte a = Memory.initial.byte a

/-- Both timers hold bytes. -/
structure Timers.InRange {τ : Type} (t : Timers τ) : Prop where
  delay : 0 ≤ t.delay ∧ t.delay ≤ 255
  sound : 0 ≤ t.sound ∧ t.sound ≤ 255

/-- Every outstanding return address is the end of an instruction in memory. -/
def CallStack.Returns (s : CallStack) : Prop :=
  ∀ a ∈ s.frames, 2 ≤ a ∧ a ≤ 0x1000

namespace Machine

variable {τ : Type}

/-- **What holds of a machine at any time.** -/
structure WellFormed (m : Machine τ) : Prop where
  glyphs : m.memory.GlyphsIntact
  pc_le : m.registers.pc.toNat ≤ 0x10FE
  returns : m.stack.Returns
  timers : m.timers.InRange
  /-- A machine that waits stands at the instruction that made it wait. -/
  waiting : m.status = .awaitingKey →
    m.registers.pc.toNat ≤ 0xFFE ∧ (Instruction.awaitKey m.keyRegister).Encodes m.opcode

end Machine

/-! ## The parts -/

namespace Memory

variable {m m' : Memory}

/-- A checked write leaves the glyphs alone. -/
theorem GlyphsIntact.writeBlock (h : m.GlyphsIntact) {address : Nat} {bytes : List UInt8}
    (hw : m.writeBlock address bytes = .ok m') : m'.GlyphsIntact := by
  obtain ⟨⟨hin, hoff⟩, rfl⟩ := writeBlock_eq_ok_iff.mp hw
  intro a ha
  unfold InMemory at hin
  unfold OffGlyphs at hoff
  simp only [glyphEnd] at ha
  rw [byte_patch _ _ _ _ (by simp only [memorySize]; omega), if_neg (by omega)]
  exact h a ha

theorem GlyphsIntact.loadImage (h : m.GlyphsIntact) (image : List UInt8) :
    (m.loadImage image).GlyphsIntact := by
  intro a ha
  simp only [glyphEnd] at ha
  have hlen : (image.take maxImageSize).length ≤ maxImageSize := List.length_take_le ..
  simp only [maxImageSize, memorySize, programStart] at hlen
  rw [Memory.loadImage, byte_patch, if_neg]
  · exact h a ha
  · simp only [programStart]; omega
  · simp only [programStart, memorySize, maxImageSize]; omega

end Memory

namespace CallStack

variable {s t : CallStack} {a : Int}

theorem Returns.push (h : s.Returns) (ha : 2 ≤ a ∧ a ≤ 0x1000) (ht : s.push a = .ok t) :
    t.Returns := by
  intro b hb
  rw [frames_push ht, List.mem_append, List.mem_singleton] at hb
  rcases hb with hb | rfl
  · exact h b hb
  · exact ha

theorem Returns.pop (h : s.Returns) (ht : s.pop = .ok (a, t)) :
    (2 ≤ a ∧ a ≤ 0x1000) ∧ t.Returns := by
  have hs := frames_pop ht
  refine ⟨h a (by rw [hs]; exact List.mem_append_right _ List.mem_cons_self), fun b hb => ?_⟩
  exact h b (by rw [hs]; exact List.mem_append_left _ hb)

end CallStack

namespace Timers

variable {τ : Type} {t : Timers τ}

theorem countDown_mem {z : Int} (h : 0 ≤ z ∧ z ≤ 255) : 0 ≤ countDown z ∧ countDown z ≤ 255 := by
  unfold countDown
  split <;> omega

theorem InRange.tick [Seconds τ] (h : t.InRange) (elapsed : τ) : (t.tick elapsed).2.InRange := by
  by_cases hg : t.gather elapsed < Seconds.sixtieth
  · rw [tick_of_lt hg]
    exact ⟨h.delay, h.sound⟩
  · rw [tick_of_not_lt hg]
    exact ⟨countDown_mem h.delay, countDown_mem h.sound⟩

theorem byte_mem (b : UInt8) : 0 ≤ (b.toNat : Int) ∧ (b.toNat : Int) ≤ 255 := by
  have := b.toNat_lt
  omega

end Timers

namespace Machine

variable {τ : Type} {m n : Machine τ} {i : Instruction}

/-! ## What an instruction can bring about -/

/-- **The ways in which an instruction can change a running machine**, part by part. -/
structure Outcome (m : Machine τ) (i : Instruction) (n : Machine τ) : Prop where
  memory : n.memory = m.memory ∨
    ∃ bytes, m.memory.writeBlock m.registers.index.toNat bytes = .ok n.memory
  stack : n.stack = m.stack ∨ (∃ a, m.stack.pop = .ok (a, n.stack)) ∨
    m.stack.push (m.registers.pc.toNat + 2) = .ok n.stack
  timers : n.timers = m.timers ∨ ∃ b : UInt8,
    n.timers = { m.timers with delay := b.toNat } ∨ n.timers = { m.timers with sound := b.toNat }
  pc : (∃ skip : Bool, n.registers.pc = m.registers.pc + if skip then 4 else 2) ∨
    n.registers.pc.toNat ≤ 0x10FE ∨ ∃ a s, m.stack.pop = .ok (a, s) ∧ n.registers.pc = .ofInt a
  /-- A machine that begins to wait is otherwise as it was. -/
  status : n.status = .running ∨
    ∃ x, i = .awaitKey x ∧ n = { m with status := .awaitingKey, keyRegister := x }

/-- An address fits into the program counter. -/
theorem toNat_jump (target : Address) : (UInt16.ofNat target.val).toNat = target.val := by
  have := target.isLt
  rw [UInt16.toNat_ofNat']
  omega

/-- So does an address that a byte was added to. -/
theorem toNat_jumpOffset (target : Address) (b : UInt8) :
    (UInt16.ofNat (target.val + b.toNat)).toNat = target.val + b.toNat := by
  have := target.isLt
  have := b.toNat_lt
  rw [UInt16.toNat_ofNat']
  omega

theorem pc_le_of_jump (target : Address) : (UInt16.ofNat target.val).toNat ≤ 0x10FE := by
  have := target.isLt
  rw [toNat_jump]
  omega

theorem pc_le_of_jumpOffset (target : Address) (b : UInt8) :
    (UInt16.ofNat (target.val + b.toNat)).toNat ≤ 0x10FE := by
  have := target.isLt
  have := b.toNat_lt
  rw [toNat_jumpOffset]
  omega

theorem outcome_of_takeKey (i : Instruction) (x key : Nibble) : Outcome m i (m.takeKey x key) :=
  ⟨.inl rfl, .inl rfl, .inl rfl, .inl ⟨false, rfl⟩, .inl rfl⟩

theorem outcome_of_execute (hs : m.status = .running) (hp : m.registers.pc.toNat ≤ 0xFFE)
    (h : m.execute i = .ok n) : Outcome m i n := by
  cases i with
  | ret =>
    obtain ⟨p, hpop, rfl⟩ := Checked.eq_ok_iff.mp h
    exact ⟨.inl rfl, .inr (.inl ⟨p.1, hpop⟩), .inl rfl, .inr (.inr ⟨_, _, hpop, rfl⟩), .inl hs⟩
  | call target =>
    obtain ⟨s, hpush, rfl⟩ := Checked.eq_ok_iff.mp h
    exact ⟨.inl rfl, .inr (.inr hpush), .inl rfl, .inr (.inl (pc_le_of_jump target)), .inl hs⟩
  | jump target =>
    cases h
    exact ⟨.inl rfl, .inl rfl, .inl rfl, .inr (.inl (pc_le_of_jump target)), .inl hs⟩
  | jumpOffset target =>
    cases h
    exact ⟨.inl rfl, .inl rfl, .inl rfl, .inr (.inl (pc_le_of_jumpOffset target _)), .inl hs⟩
  | draw x y height =>
    obtain ⟨rows, -, rfl⟩ := Checked.eq_ok_iff.mp h
    exact ⟨.inl rfl, .inl rfl, .inl rfl, .inl ⟨false, rfl⟩, .inl hs⟩
  | load x =>
    obtain ⟨bytes, -, rfl⟩ := Checked.eq_ok_iff.mp h
    refine ⟨.inl rfl, .inl rfl, .inl rfl, .inl ⟨false, ?_⟩, .inl hs⟩
    exact congrArg (· + 2) (Registers.pc_setFrom _ _ _)
  | decimal x =>
    obtain ⟨memory, hw, rfl⟩ := Checked.eq_ok_iff.mp h
    exact ⟨.inr ⟨_, hw⟩, .inl rfl, .inl rfl, .inl ⟨false, rfl⟩, .inl hs⟩
  | store x =>
    obtain ⟨memory, hw, rfl⟩ := Checked.eq_ok_iff.mp h
    exact ⟨.inr ⟨_, hw⟩, .inl rfl, .inl rfl, .inl ⟨false, rfl⟩, .inl hs⟩
  | awaitKey x =>
    cases h
    unfold awaitKey
    split
    · exact outcome_of_takeKey _ x _
    · refine ⟨.inl rfl, .inl rfl, .inl rfl, .inr (.inl ?_), .inr ⟨x, rfl, rfl⟩⟩
      show m.registers.pc.toNat ≤ 0x10FE
      omega
  | setDelay x =>
    cases h
    exact ⟨.inl rfl, .inl rfl, .inr ⟨_, .inl rfl⟩, .inl ⟨false, rfl⟩, .inl hs⟩
  | setSound x =>
    cases h
    exact ⟨.inl rfl, .inl rfl, .inr ⟨_, .inr rfl⟩, .inl ⟨false, rfl⟩, .inl hs⟩
  | _ =>
    cases h
    exact ⟨.inl rfl, .inl rfl, .inl rfl, .inl ⟨_, rfl⟩, .inl hs⟩

/-- **The frame of an instruction**: what it can write to, and so what it leaves alone. -/
theorem frame_of_execute (h : m.execute i = .ok n) :
    n = { m with
      memory := n.memory
      registers := n.registers
      stack := n.stack
      timers := n.timers
      screen := n.screen
      random := n.random
      status := n.status
      keyRegister := n.keyRegister } := by
  cases i with
  | ret => obtain ⟨_, -, rfl⟩ := Checked.eq_ok_iff.mp h; rfl
  | call target => obtain ⟨_, -, rfl⟩ := Checked.eq_ok_iff.mp h; rfl
  | draw x y height => obtain ⟨_, -, rfl⟩ := Checked.eq_ok_iff.mp h; rfl
  | decimal x => obtain ⟨_, -, rfl⟩ := Checked.eq_ok_iff.mp h; rfl
  | store x => obtain ⟨_, -, rfl⟩ := Checked.eq_ok_iff.mp h; rfl
  | load x => obtain ⟨_, -, rfl⟩ := Checked.eq_ok_iff.mp h; rfl
  | awaitKey x =>
    cases h
    unfold awaitKey
    split <;> rfl
  | _ => cases h; rfl

/-- **What only a host changes** is the same in both machines. -/
structure SameHost (m n : Machine τ) : Prop where
  seed : n.seed = m.seed
  keypad : n.keypad = m.keypad
  lastReading : n.lastReading = m.lastReading
  image : n.image = m.image

theorem SameHost.refl (m : Machine τ) : SameHost m m :=
  ⟨rfl, rfl, rfl, rfl⟩

theorem sameHost_of_execute (h : m.execute i = .ok n) : SameHost m n := by
  rw [frame_of_execute h]
  exact ⟨rfl, rfl, rfl, rfl⟩

/-- A step leaves to the host what is the host's. -/
theorem sameHost_of_step (m : Machine τ) : SameHost m m.step.machine := by
  rcases m.step_cases with h | ⟨-, h⟩ | ⟨key, -, h⟩ | ⟨d, n, -, -, he, h⟩ <;> rw [h]
  · exact .refl m
  · exact ⟨rfl, rfl, rfl, rfl⟩
  · exact ⟨rfl, rfl, rfl, rfl⟩
  · have hn := sameHost_of_execute he
    exact ⟨hn.seed, hn.keypad, hn.lastReading, hn.image⟩

/-- A cycle is counted unless there is a fault. -/
theorem cycles_of_step (m : Machine τ) :
    m.step.machine.cycles = m.cycles + if m.step.fault.isSome then 0 else 1 := by
  cases hs : m.status with
  | awaitingKey =>
    rw [step_of_awaiting hs, pollKey]
    cases m.keypad.highestPressed <;> rfl
  | running =>
    cases hd : m.fetch with
    | error f => rw [step_of_fetch_error hs hd]; rfl
    | ok d =>
      cases he : m.execute d.instruction with
      | error f => rw [step_of_execute_error hs hd he]; rfl
      | ok n =>
        have hn : n.cycles = m.cycles := by rw [frame_of_execute he]
        rw [step_of_execute hs hd he, ← hn]
        rfl

/-! ## The invariant -/

/-- Short of the end of memory, a return address that fits comes back as it is. -/
theorem toNat_ofInt {a : Int} (h : 2 ≤ a ∧ a ≤ 0x1000) : ((UInt16.ofInt a).toNat : Int) = a := by
  rw [UInt16.ofInt, UInt16.toNat_ofNat']
  omega

theorem pc_le_of_step (hp : m.registers.pc.toNat ≤ 0xFFE) (skip : Bool) :
    (m.registers.pc + if skip then 4 else 2).toNat ≤ 0x10FE := by
  cases skip with
  | true =>
    have : (4 : UInt16).toNat = 4 := rfl
    rw [if_pos rfl, UInt16.toNat_add]
    omega
  | false =>
    have : (2 : UInt16).toNat = 2 := rfl
    rw [if_neg Bool.false_ne_true, UInt16.toNat_add]
    omega

/-- What an instruction at a place that can be fetched leaves is well-formed. -/
theorem WellFormed.outcome (h : m.WellFormed) (hp : m.registers.pc.toNat ≤ 0xFFE)
    (hi : i.Encodes m.opcode) (ho : Outcome m i n) : n.WellFormed where
  glyphs := by
    rcases ho.memory with hm | ⟨bytes, hm⟩
    · rw [hm]; exact h.glyphs
    · exact h.glyphs.writeBlock hm
  pc_le := by
    rcases ho.pc with ⟨skip, hpc⟩ | hpc | ⟨a, s, hpop, hpc⟩
    · rw [hpc]; exact pc_le_of_step hp skip
    · exact hpc
    · have ha := (h.returns.pop hpop).1
      have := toNat_ofInt ha
      rw [hpc]; omega
  returns := by
    rcases ho.stack with hst | ⟨a, hst⟩ | hst
    · rw [hst]; exact h.returns
    · exact (h.returns.pop hst).2
    · exact h.returns.push (by omega) hst
  timers := by
    rcases ho.timers with ht | ⟨b, ht | ht⟩
    · rw [ht]; exact h.timers
    · rw [ht]; exact ⟨Timers.byte_mem b, h.timers.sound⟩
    · rw [ht]; exact ⟨h.timers.delay, Timers.byte_mem b⟩
  waiting := by
    intro hw
    rcases ho.status with hs | ⟨x, rfl, rfl⟩
    · rw [hs] at hw
      cases hw
    · -- the wait begins where the instruction stands
      exact ⟨hp, hi⟩

theorem WellFormed.step (h : m.WellFormed) : m.step.machine.WellFormed := by
  rcases m.step_cases with hm | ⟨-, hm⟩ | ⟨key, hs, hm⟩ | ⟨d, n, hs, hd, he, hm⟩ <;> rw [hm]
  · exact h
  · exact ⟨h.glyphs, h.pc_le, h.returns, h.timers, h.waiting⟩
  · obtain ⟨hp, hi⟩ := h.waiting hs
    exact h.outcome hp hi (n := (m.takeKey m.keyRegister key).counted)
      ⟨.inl rfl, .inl rfl, .inl rfl, .inl ⟨false, rfl⟩, .inl rfl⟩
  · obtain ⟨hp, -, hi⟩ := fetch_eq_ok_iff.mp hd
    have hn := h.outcome hp hi (outcome_of_execute hs hp he)
    exact ⟨hn.glyphs, hn.pc_le, hn.returns, hn.timers, hn.waiting⟩

theorem WellFormed.noted (h : m.WellFormed) (t : Timing τ) : (m.noted t).WellFormed :=
  ⟨h.glyphs, h.pc_le, h.returns, h.timers, h.waiting⟩

variable [Seconds τ]

theorem wellFormed_initial (seed : Nat) : (initial seed : Machine τ).WellFormed where
  glyphs := fun _ _ => rfl
  pc_le := by
    show (UInt16.ofNat programStart).toNat ≤ 0x10FE
    decide
  returns := by
    intro a ha
    exact absurd ha List.not_mem_nil
  timers := by
    have h0 : (0 : Int) ≤ 0 ∧ (0 : Int) ≤ 255 := by decide
    exact ⟨h0, h0⟩
  waiting := nofun

/-- **Every call keeps a machine well-formed.** -/
theorem WellFormed.call (h : m.WellFormed) (c : Call τ) : (m.call c).WellFormed := by
  have hload : ∀ image name, (m.load image name).WellFormed := by
    intro image name
    have hn := wellFormed_initial (τ := τ) m.seed
    exact ⟨hn.glyphs.loadImage image, hn.pc_le, hn.returns, hn.timers, nofun⟩
  cases c with
  | reset => exact wellFormed_initial m.seed
  | load image name => exact hload image name
  | loadFile tree path =>
    rcases m.call_loadFile tree path with hr | ⟨image, hl⟩
    · rw [hr]; exact wellFormed_initial m.seed
    · rw [hl]; exact hload image _
  | key code down => exact ⟨h.glyphs, h.pc_le, h.returns, h.timers, h.waiting⟩
  | present => exact ⟨h.glyphs, h.pc_le, h.returns, h.timers, h.waiting⟩
  | cycle t =>
    show (m.cycleBy t).2.WellFormed
    rw [cycleBy_snd]
    have hs := (h.noted t).step
    exact ⟨hs.glyphs, hs.pc_le, hs.returns, hs.timers.tick _, hs.waiting⟩

/-- **Every machine that a host can come to is well-formed.** -/
theorem Reachable.wellFormed (h : Reachable m) : m.WellFormed := by
  induction h with
  | new seed => exact wellFormed_initial seed
  | call _ c ih => exact ih.call c

end Machine

end Chip8
