import Chip8.Proofs.Machine.Footprint
import Chip8.Proofs.Machine.WellFormed

/-!
# Instructions at even addresses

Instructions are two bytes long, so a program whose first instruction stands at an even address has
all of them there, unless it jumps to an odd one. Only three instructions can do that: a jump, a
call, and a jump to an address that `V0` is added to. A return cannot, for it goes to where a call
left off; nor can a skip, a fault or a wait for a key.

* `pc_of_target` and `pc_of_no_target`: where an instruction leaves the program counter.
* `Aligned.execute`, `Aligned.call`: what an instruction, and so a call of a host, preserves.
* `aligned_iff`: a run stays at even addresses exactly if all its jumps go to even ones.
-/

namespace Chip8

/-- The address that an instruction jumps to, if it names one; `v0` is what `V0` holds. -/
def Instruction.target? (v0 : UInt8) : Instruction → Option Nat
  | jump target => some target
  | call target => some target
  | jumpOffset target => some (target + v0.toNat)
  | _ => none

namespace Machine

variable {τ : Type} {m n : Machine τ} {i : Instruction}

/-- The next instruction, and every one that a routine is to come back to, stands at an even
address. -/
structure Aligned (m : Machine τ) : Prop where
  pc : 2 ∣ m.registers.pc.toNat
  returns : ∀ a ∈ m.stack.frames, 2 ∣ a

/-! ## The program counter -/

/-- **An instruction that names an address goes there.** -/
theorem pc_of_target (h : m.execute i = .ok n) {a : Nat}
    (ha : i.target? (m.registers.get 0) = some a) : n.registers.pc.toNat = a := by
  cases i with
  | jump target =>
    cases h
    cases ha
    exact toNat_jump target
  | call target =>
    obtain ⟨s, -, rfl⟩ := Checked.eq_ok_iff.mp h
    cases ha
    exact toNat_jump target
  | jumpOffset target =>
    cases h
    cases ha
    exact toNat_jumpOffset target (m.registers.get 0)
  | _ => cases ha

/-- **Any other instruction** comes back from a routine, or stays where it is, or goes one or two
instructions further. -/
theorem pc_of_no_target (h : m.execute i = .ok n)
    (hi : i.target? (m.registers.get 0) = none) :
    (∃ a s, m.stack.pop = .ok (a, s) ∧ n.registers.pc = .ofInt a) ∨
      n.registers.pc = m.registers.pc ∨
      ∃ skip : Bool, n.registers.pc = m.registers.pc + if skip then 4 else 2 := by
  cases i with
  | jump target => cases hi
  | call target => cases hi
  | jumpOffset target => cases hi
  | ret =>
    obtain ⟨p, hpop, rfl⟩ := Checked.eq_ok_iff.mp h
    exact .inl ⟨_, _, hpop, rfl⟩
  | draw x y height =>
    obtain ⟨_, -, rfl⟩ := Checked.eq_ok_iff.mp h
    exact .inr (.inr ⟨false, rfl⟩)
  | decimal x =>
    obtain ⟨_, -, rfl⟩ := Checked.eq_ok_iff.mp h
    exact .inr (.inr ⟨false, rfl⟩)
  | store x =>
    obtain ⟨_, -, rfl⟩ := Checked.eq_ok_iff.mp h
    exact .inr (.inr ⟨false, rfl⟩)
  | load x =>
    obtain ⟨bytes, -, rfl⟩ := Checked.eq_ok_iff.mp h
    exact .inr (.inr ⟨false, congrArg (· + 2) (Registers.pc_setFrom ..)⟩)
  | awaitKey x =>
    cases h
    unfold awaitKey
    split
    · exact .inr (.inr ⟨false, rfl⟩)
    · exact .inr (.inl rfl)
  | _ =>
    cases h
    exact .inr (.inr ⟨_, rfl⟩)

/-! ## Instructions and steps -/

theorem dvd_advance {pc : UInt16} (h : 2 ∣ pc.toNat) (skip : Bool) :
    2 ∣ (pc + if skip then 4 else 2).toNat := by
  cases skip with
  | true =>
    have hfour : (4 : UInt16).toNat = 4 := rfl
    rw [if_pos rfl, UInt16.toNat_add]
    omega
  | false =>
    have htwo : (2 : UInt16).toNat = 2 := rfl
    rw [if_neg Bool.false_ne_true, UInt16.toNat_add]
    omega

theorem dvd_ofInt {a : Int} (h : 2 ∣ a) : 2 ∣ (UInt16.ofInt a).toNat := by
  rw [UInt16.ofInt, UInt16.toNat_ofNat']
  omega

/-- **What an instruction preserves**, if it jumps to no odd address. -/
theorem Aligned.execute (hm : m.Aligned) (hs : m.status = .running)
    (hp : m.registers.pc.toNat ≤ 0xFFE) (h : m.execute i = .ok n)
    (hi : ∀ a, i.target? (m.registers.get 0) = some a → 2 ∣ a) : n.Aligned where
  pc := by
    cases ha : i.target? (m.registers.get 0) with
    | some a =>
      rw [pc_of_target h ha]
      exact hi a ha
    | none =>
      rcases pc_of_no_target h ha with ⟨a, s, hpop, hpc⟩ | hpc | ⟨skip, hpc⟩ <;> rw [hpc]
      · refine dvd_ofInt (hm.returns a ?_)
        rw [CallStack.frames_pop hpop]
        exact List.mem_append_right _ List.mem_cons_self
      · exact hm.pc
      · exact dvd_advance hm.pc skip
  returns := by
    intro a ha
    rcases (outcome_of_execute hs hp h).stack with hsame | ⟨b, hpop⟩ | hpush
    · rw [hsame] at ha
      exact hm.returns a ha
    · refine hm.returns a ?_
      rw [CallStack.frames_pop hpop]
      exact List.mem_append_left _ ha
    · rw [CallStack.frames_push hpush, List.mem_append, List.mem_singleton] at ha
      rcases ha with ha | rfl
      · exact hm.returns a ha
      · have hpc := hm.pc
        omega

/-- **What a step preserves.** -/
theorem Aligned.step (hm : m.Aligned)
    (h : ∀ i, m.step.executed? = some i →
      ∀ a, i.target? (m.registers.get 0) = some a → 2 ∣ a) :
    m.step.machine.Aligned := by
  rcases m.step_cases with hn | ⟨-, hn⟩ | ⟨key, -, hn⟩ | ⟨d, n, hs, hd, he, hn⟩ <;> rw [hn]
  · exact hm
  · exact ⟨hm.pc, hm.returns⟩
  · exact ⟨dvd_advance hm.pc false, hm.returns⟩
  · have hexecuted : m.step.executed? = some d.instruction := by
      rw [step_of_execute hs hd he]
      rfl
    have haligned := hm.execute hs (fetch_eq_ok_iff.mp hd).1 he (h _ hexecuted)
    exact ⟨haligned.pc, haligned.returns⟩

/-! ## Runs -/

variable [Seconds τ] {c : Call τ} {cs : List (Call τ)}

/-- The address that a call jumps to, if it is a cycle that carries out an instruction which names
one. -/
def landing? (m : Machine τ) (c : Call τ) : Option Nat :=
  (m.executed? c).bind (Instruction.target? (m.registers.get 0))

/-- The addresses that a sequence of calls jumps to, in order. -/
def landings (m : Machine τ) : List (Call τ) → List Nat
  | [] => []
  | c :: cs => (m.landing? c).toList ++ (m.call c).landings cs

theorem landings_append (m : Machine τ) (cs ds : List (Call τ)) :
    m.landings (cs ++ ds) = m.landings cs ++ (m.calls cs).landings ds := by
  induction cs generalizing m with
  | nil => rfl
  | cons c cs ih =>
    rw [List.cons_append, landings, ih, landings, List.append_assoc, calls_cons]

/-- Each of these addresses is that of some call. -/
theorem exists_landing {a : Nat} (h : a ∈ m.landings cs) :
    ∃ before c rest, cs = before ++ c :: rest ∧ (m.calls before).landing? c = some a := by
  induction cs generalizing m with
  | nil => cases h
  | cons c cs ih =>
    rcases List.mem_append.mp h with hfirst | hrest
    · exact ⟨[], c, cs, rfl, Option.mem_toList.mp hfirst⟩
    · obtain ⟨before, d, rest, rfl, hd⟩ := ih hrest
      exact ⟨c :: before, d, rest, rfl, hd⟩

/-- A call that jumps leaves the program counter at the address that it jumps to. -/
theorem pc_of_landing {a : Nat} (h : m.landing? c = some a) :
    (m.call c).registers.pc.toNat = a := by
  obtain ⟨i, hi, ha⟩ := Option.bind_eq_some_iff.mp h
  obtain ⟨t, n, rfl, hn, hcall⟩ := call_of_executed? hi
  have hpc : n.registers.pc.toNat = a := pc_of_target (m := m.noted t) hn ha
  rw [hcall]
  exact hpc

theorem aligned_of_restarts (m : Machine τ) (hc : c.restarts = true) : (m.call c).Aligned := by
  rw [m.frame_of_restarts hc]
  constructor
  case pc =>
    show 2 ∣ (UInt16.ofNat programStart).toNat
    decide
  case returns =>
    intro a ha
    exact absurd ha List.not_mem_nil

/-- **What one call preserves.** -/
theorem Aligned.call (hm : m.Aligned) (h : ∀ a ∈ m.landing? c, 2 ∣ a) : (m.call c).Aligned := by
  cases c with
  | reset => exact m.aligned_of_restarts rfl
  | load image name => exact m.aligned_of_restarts rfl
  | loadFile tree path => exact m.aligned_of_restarts rfl
  | key code down => exact ⟨hm.pc, hm.returns⟩
  | present => exact ⟨hm.pc, hm.returns⟩
  | cycle t =>
    have hnoted : (m.noted t).Aligned := ⟨hm.pc, hm.returns⟩
    have hstep : (m.noted t).step.machine.Aligned := by
      refine hnoted.step fun i hi a ha => h a ?_
      exact Option.bind_eq_some_iff.mpr ⟨i, (m.cycleBy_executed? t).trans hi, ha⟩
    rw [Machine.call, cycleBy_snd]
    exact ⟨hstep.pc, hstep.returns⟩

theorem Aligned.calls (hm : m.Aligned) (h : ∀ a ∈ m.landings cs, 2 ∣ a) :
    (m.calls cs).Aligned := by
  induction cs generalizing m with
  | nil => exact hm
  | cons c cs ih =>
    have hfirst : (m.call c).Aligned :=
      hm.call fun a ha => h a (List.mem_append_left _ (Option.mem_toList.mpr ha))
    exact ih hfirst fun a ha => h a (List.mem_append_right _ ha)

/-- **A run stays at even addresses exactly if all its jumps go to even ones.** From a reset or a
load, and through whatever a host does then: if every jump and call that is carried out names an even
address, and every jump to an offset one that is even with `V0` added, then the program counter and
all outstanding return addresses are even at any time, during waits and after faults too; and if
they are, then so was every such address. -/
theorem aligned_iff (m : Machine τ) {start : Call τ} (hstart : start.restarts = true)
    (cs : List (Call τ)) :
    (∀ before rest, cs = before ++ rest → ((m.call start).calls before).Aligned) ↔
      ∀ a ∈ (m.call start).landings cs, 2 ∣ a := by
  constructor
  · intro haligned a ha
    obtain ⟨before, c, rest, rfl, hc⟩ := exists_landing ha
    have hafter := haligned (before ++ [c]) rest (by simp)
    rw [calls_append] at hafter
    rw [← pc_of_landing hc]
    exact hafter.pc
  · rintro hlandings before rest rfl
    rw [landings_append] at hlandings
    exact (m.aligned_of_restarts hstart).calls fun a ha =>
      hlandings a (List.mem_append_left _ ha)

/-- A program that jumps by `V0` over a word of data, calls a routine, which waits for a key, and
jumps back. -/
def jumping : List UInt8 :=
  [0x60, 0x04, 0xB2, 0x02, 0x00, 0x00, 0x22, 0x0A, 0x12, 0x02, 0xF1, 0x0A, 0x00, 0xEE]

/-- It waits, and later is back at its second instruction, at even addresses all the time. -/
theorem aligned_iff_jumping :
    let start : Call Rat := .load jumping ""
    let waiting : List (Call Rat) :=
      [.cycle (.told 0), .cycle (.told 0), .cycle (.told 0), .cycle (.told 0)]
    let back : List (Call Rat) :=
      [.key 5 true, .cycle (.told 0), .cycle (.told 0), .cycle (.told 0)]
    let m : Machine Rat := (initial 0).call start
    start.restarts = true ∧ m.landings (waiting ++ back) = [0x206, 0x20A, 0x202] ∧
      (m.calls waiting).status = .awaitingKey ∧ (m.calls waiting).Aligned ∧
      (m.calls (waiting ++ back)).Aligned := by
  intro start waiting back m
  have hstart : start.restarts = true := rfl
  obtain ⟨hlandings, hwaits⟩ : m.landings (waiting ++ back) = [0x206, 0x20A, 0x202] ∧
      (m.calls waiting).status = .awaitingKey := by
    decide +kernel
  have haligned := (aligned_iff (initial 0) hstart (waiting ++ back)).mpr (by
    show ∀ a ∈ m.landings (waiting ++ back), 2 ∣ a
    rw [hlandings]
    decide)
  exact ⟨hstart, hlandings, hwaits, haligned waiting back rfl,
    haligned (waiting ++ back) [] (by simp)⟩

end Machine

end Chip8
