import Chip8.Proofs.Machine.WellFormed
import Chip8.Proofs.Splits

/-!
# Calls and returns of a program

A program calls a routine by `2NNN` and comes back by `00EE`. `Flow` is what a cycle did of the two,
read off its report alone: a call at an address, or a return. The flows of a run tell which calls
have not returned (`outstanding`), without a look at the machine's stack; `own?` asks the same of a
stretch of a run for the calls of the stretch itself, and has no answer where a return of the
stretch goes further than that.

* `exists_enter_of_own?`: every address that is outstanding is that of a call, after which all calls
  but the ones above it have returned.
* `foldlM_flow?`: what one call of a host does to the stack is what its flow says.
* `frames_of_enter`: from a call on, until it returns, the addresses below it stand as they stood.
* `routines_return`: calls and returns of a run match.
-/

namespace Chip8

/-- A call of a routine, or a return from one. -/
inductive Flow where
  /-- The instruction at `address` called a routine. -/
  | enter (address : Nat)
  /-- A routine returned to its caller. -/
  | leave
  deriving DecidableEq, Repr

namespace Flow

/-- The return addresses after a call or a return, oldest first. -/
def note (l : List Int) : Flow → List Int
  | enter address => l ++ [(address : Int) + 2]
  | leave => l.dropLast

/-- The same where there must be a call to return from. -/
def note? (l : List Int) : Flow → Option (List Int)
  | enter address => some (l ++ [(address : Int) + 2])
  | leave => if l = [] then none else some l.dropLast

/-- The return addresses of the calls that have not returned, oldest first. -/
def outstanding (fs : List Flow) : List Int :=
  fs.foldl note []

/-- The return addresses of the calls of a stretch that have not returned, oldest first; none if a
return goes further than the calls of the stretch. -/
def own? (fs : List Flow) : Option (List Int) :=
  fs.foldlM note? []

variable {f : Flow} {fs : List Flow} {l l' : List Int}

theorem note_of_note? (h : note? l f = some l') : note l f = l' := by
  cases f with
  | enter address => exact Option.some.inj h
  | leave =>
    simp only [note?] at h
    split at h
    next => cases h
    next => exact Option.some.inj h

theorem foldl_of_foldlM (h : fs.foldlM note? l = some l') : fs.foldl note l = l' := by
  induction fs generalizing l with
  | nil => exact Option.some.inj h
  | cons f fs ih =>
    obtain ⟨k, hk, hfs⟩ := Option.bind_eq_some_iff.mp (List.foldlM_cons.symm.trans h)
    rw [List.foldl_cons, note_of_note? hk]
    exact ih hfs

theorem outstanding_of_own? (h : own? fs = some l) : outstanding fs = l :=
  foldl_of_foldlM h

/-! ## Stretches of a run -/

/-- Calls further down are in nobody's way. -/
theorem note?_below (below : List Int) (h : note? l f = some l') :
    note? (below ++ l) f = some (below ++ l') := by
  cases f with
  | enter address =>
    cases h
    exact congrArg some (List.append_assoc ..)
  | leave =>
    simp only [note?] at h ⊢
    split at h
    next => cases h
    next hne =>
      cases h
      rw [if_neg (List.append_ne_nil_of_right_ne_nil _ hne), List.dropLast_append_of_ne_nil hne]

theorem foldlM_below (below : List Int) (h : fs.foldlM note? l = some l') :
    fs.foldlM note? (below ++ l) = some (below ++ l') := by
  induction fs generalizing l with
  | nil =>
    cases h
    rfl
  | cons f fs ih =>
    obtain ⟨k, hk, hfs⟩ := Option.bind_eq_some_iff.mp (List.foldlM_cons.symm.trans h)
    rw [List.foldlM_cons, note?_below below hk]
    exact ih hfs

theorem own?_concat (f : Flow) : own? (fs ++ [f]) = own? fs >>= fun l => note? l f := by
  rw [own?, List.foldlM_append, ← own?]
  congr 1
  funext l
  exact bind_pure _

/-- **Every address that is outstanding is that of a call**: before the call the addresses below it
were outstanding, and the stretch after the call leaves those above it. -/
theorem exists_enter_of_own? {lo hi : List Int} {x : Int} (h : own? fs = some (lo ++ x :: hi)) :
    ∃ (before : List Flow) (address : Nat) (after : List Flow),
      fs = before ++ .enter address :: after ∧ own? before = some lo ∧
        own? after = some hi ∧ x = (address : Int) + 2 := by
  induction fs using List.reverseRecOn generalizing lo x hi with
  | nil =>
    have hnil : [] = lo ++ x :: hi := Option.some.inj h
    exact absurd hnil.symm (List.append_ne_nil_of_right_ne_nil _ (List.cons_ne_nil _ _))
  | append_singleton rest f ih =>
    rw [own?_concat] at h
    obtain ⟨k, hk, hf⟩ := Option.bind_eq_some_iff.mp h
    cases f with
    | enter address =>
      have hlist : k ++ [(address : Int) + 2] = lo ++ x :: hi := Option.some.inj hf
      rcases concat_eq_append_cons_iff.mp hlist with ⟨rfl, hx, rfl⟩ | ⟨hi, rfl, rfl⟩
      · exact ⟨rest, address, [], rfl, hk, rfl, hx.symm⟩
      · obtain ⟨before, a, after, rfl, hbefore, hafter, hx⟩ := ih hk
        refine ⟨before, a, after ++ [.enter address], by simp, hbefore, ?_, hx⟩
        rw [own?_concat, hafter]
        rfl
    | leave =>
      simp only [note?] at hf
      split at hf
      next => cases hf
      next hne =>
        have hlast : k = lo ++ x :: (hi ++ [k.getLast hne]) := by
          rw [← List.cons_append, ← List.append_assoc, ← Option.some.inj hf,
            List.dropLast_concat_getLast]
        rw [hlast] at hk
        obtain ⟨before, a, after, rfl, hbefore, hafter, hx⟩ := ih hk
        refine ⟨before, a, after ++ [.leave], by simp, hbefore, ?_, hx⟩
        rw [own?_concat, hafter]
        show (if hi ++ [_] = [] then none else some (hi ++ [_]).dropLast) = some hi
        rw [if_neg (List.append_ne_nil_of_right_ne_nil _ (List.cons_ne_nil _ _)),
          List.dropLast_concat]

end Flow

/-! ## What a cycle did -/

/-- The flow of an instruction at `address` that went through. -/
def Instruction.flow? (i : Instruction) (address : Nat) : Option Flow :=
  match i with
  | call _ => some (.enter address)
  | ret => some .leave
  | _ => none

/-- The flow of a cycle at `address`, by the fault and the instruction that it reports. -/
def Flow.of? (fault : Option Fault) (instruction : Option Decoded) (address : Nat) : Option Flow :=
  match fault, instruction with
  | none, some d => d.instruction.flow? address
  | _, _ => none

namespace Machine

open Chip8.Flow

variable {τ : Type} {m n : Machine τ} {i : Instruction}

/-- What an instruction that goes through does to the stack is what its flow says. -/
theorem foldlM_flow?_of_execute (h : m.execute i = .ok n) :
    (i.flow? m.registers.pc.toNat).toList.foldlM note? m.stack.frames = some n.stack.frames := by
  cases i with
  | ret =>
    obtain ⟨⟨a, s⟩, hpop, rfl⟩ := Checked.eq_ok_iff.mp h
    show (note? m.stack.frames .leave >>= some) = some s.frames
    rw [CallStack.frames_pop hpop, note?,
      if_neg (List.append_ne_nil_of_right_ne_nil _ (List.cons_ne_nil _ _)), List.dropLast_concat]
    rfl
  | call target =>
    obtain ⟨s, hpush, rfl⟩ := Checked.eq_ok_iff.mp h
    show some (m.stack.frames ++ [(m.registers.pc.toNat : Int) + 2]) = some s.frames
    rw [CallStack.frames_push hpush]
  | draw x y height => obtain ⟨_, -, rfl⟩ := Checked.eq_ok_iff.mp h; rfl
  | decimal x => obtain ⟨_, -, rfl⟩ := Checked.eq_ok_iff.mp h; rfl
  | store x => obtain ⟨_, -, rfl⟩ := Checked.eq_ok_iff.mp h; rfl
  | load x => obtain ⟨_, -, rfl⟩ := Checked.eq_ok_iff.mp h; rfl
  | awaitKey x =>
    cases h
    show some m.stack.frames = some (m.awaitKey x).stack.frames
    unfold awaitKey
    split <;> rfl
  | _ => cases h; rfl

theorem foldlM_flow?_of_step (m : Machine τ) :
    (of? m.step.fault m.step.instruction m.registers.pc.toNat).toList.foldlM note? m.stack.frames =
      some m.step.machine.stack.frames := by
  cases hs : m.status with
  | awaitingKey =>
    rw [step_of_awaiting hs]
    show some m.stack.frames = some m.pollKey.stack.frames
    unfold pollKey
    split <;> rfl
  | running =>
    cases hd : m.fetch with
    | error f =>
      rw [step_of_fetch_error hs hd]
      rfl
    | ok d =>
      cases he : m.execute d.instruction with
      | error f =>
        rw [step_of_execute_error hs hd he]
        rfl
      | ok n =>
        have h := foldlM_flow?_of_execute he
        rw [step_of_execute hs hd he]
        exact h

theorem step_fault_isSome_iff {d : Decoded} (h : m.step.instruction = some d) :
    m.step.fault.isSome ↔ ∃ f, m.execute d.instruction = .error f := by
  rcases step_of_instruction h with ⟨f, he, hf⟩ | ⟨n, he, hn⟩
  · simp [he, hf]
  · simp [he, hn]

/-- A return that goes through comes back to the address on top. -/
theorem frames_of_ret (hw : m.WellFormed) (h : m.execute .ret = .ok n) :
    m.stack.frames = n.stack.frames ++ [(n.registers.pc.toNat : Int)] := by
  obtain ⟨⟨a, s⟩, hpop, rfl⟩ := Checked.eq_ok_iff.mp h
  have ha := toNat_ofInt (hw.returns.pop hpop).1
  show m.stack.frames = s.frames ++ [((UInt16.ofInt a).toNat : Int)]
  rw [ha, CallStack.frames_pop hpop]

/-! ## Runs -/

variable [Seconds τ]

/-- The flow that a call of a host tells of. -/
def flow? (m : Machine τ) (c : Call τ) : Option Flow :=
  (m.report? c).bind fun r => of? r.fault r.instruction m.registers.pc.toNat

/-- The flows that a sequence of calls tells of, in order. -/
def flows (m : Machine τ) : List (Call τ) → List Flow
  | [] => []
  | c :: cs => (m.flow? c).toList ++ (m.call c).flows cs

theorem frames_of_restarts (m : Machine τ) {c : Call τ} (hc : c.restarts = true) :
    (m.call c).stack.frames = [] := by
  rw [m.frame_of_restarts hc]
  rfl

/-- **What one call of a host does to the stack** is what its flow says. -/
theorem foldlM_flow? (m : Machine τ) {c : Call τ} (hc : c.restarts = false) :
    (m.flow? c).toList.foldlM note? m.stack.frames = some (m.call c).stack.frames := by
  cases c with
  | reset => cases hc
  | load image name => cases hc
  | loadFile tree path => cases hc
  | key code down => rfl
  | present => rfl
  | cycle t =>
    have h := (m.noted t).foldlM_flow?_of_step
    show (of? (m.cycleBy t).1.fault (m.cycleBy t).1.instruction m.registers.pc.toNat).toList.foldlM
      note? m.stack.frames = some (m.cycleBy t).2.stack.frames
    rw [cycleBy_snd, cycleBy_eq]
    exact h

theorem foldlM_flows (m : Machine τ) {cs : List (Call τ)} (hcs : ∀ c ∈ cs, c.restarts = false) :
    (m.flows cs).foldlM note? m.stack.frames = some (m.calls cs).stack.frames := by
  induction cs generalizing m with
  | nil => rfl
  | cons c cs ih =>
    rw [flows, List.foldlM_append, m.foldlM_flow? (hcs c List.mem_cons_self)]
    exact ih (m.call c) fun d hd => hcs d (List.mem_cons_of_mem c hd)

/-- Only a cycle tells of a call. -/
theorem restarts_of_flow? {c : Call τ} {f : Flow} (h : m.flow? c = some f) :
    c.restarts = false := by
  cases c with
  | cycle t => rfl
  | _ => cases h

/-- **Below a call nothing is touched** until a return goes further than the calls since. -/
theorem frames_of_enter {c : Call τ} {address : Nat} (hc : m.flow? c = some (.enter address))
    {cs : List (Call τ)} (hcs : ∀ c ∈ cs, c.restarts = false) {own : List Int}
    (h : own? ((m.call c).flows cs) = some own) :
    ((m.call c).calls cs).stack.frames = m.stack.frames ++ [(address : Int) + 2] ++ own := by
  have hcall := m.foldlM_flow? (restarts_of_flow? hc)
  rw [hc] at hcall
  have hframes : (m.call c).stack.frames = m.stack.frames ++ [(address : Int) + 2] :=
    (Option.some.inj hcall).symm
  have hrun := (m.call c).foldlM_flows hcs
  have hbelow := foldlM_below (m.call c).stack.frames h
  rw [List.append_nil, hrun] at hbelow
  rw [Option.some.inj hbelow, hframes]

/-! ## The discipline -/

/-- **How a machine calls and returns** whose run so far tells of the flows `fs`. -/
structure Disciplined (m : Machine τ) (fs : List Flow) : Prop where
  /-- The stack holds the addresses that are outstanding. -/
  frames : m.stack.frames = outstanding fs
  /-- A call is refused exactly while sixteen calls are outstanding. -/
  full : ∀ t d target, (m.cycleBy t).1.instruction = some d → d.instruction = .call target →
    ((m.cycleBy t).1.fault.isSome ↔ (outstanding fs).length = 16)
  /-- A return is refused exactly while none is. -/
  none_left : ∀ t d, (m.cycleBy t).1.instruction = some d → d.instruction = .ret →
    ((m.cycleBy t).1.fault.isSome ↔ outstanding fs = [])
  /-- A return that goes through ends the last call that has not returned: it goes on right behind
  that call, and leaves what was outstanding before it. -/
  back : ∀ t d, (m.cycleBy t).1.instruction = some d → d.instruction = .ret →
    (m.cycleBy t).1.fault = none →
    ∃ (before : List Flow) (address : Nat) (inner : List Flow),
      fs = before ++ .enter address :: inner ∧ own? inner = some [] ∧
      (m.cycleBy t).2.registers.pc.toNat = address + 2 ∧
      (m.cycleBy t).2.stack.frames = outstanding before

theorem disciplined_of_own? (hw : m.WellFormed) {fs : List Flow}
    (h : own? fs = some m.stack.frames) : m.Disciplined fs := by
  have hframes := outstanding_of_own? h
  constructor
  case frames => exact hframes.symm
  case full =>
    intro t d target hd hi
    rw [cycleBy_instruction] at hd
    rw [cycleBy_fault, step_fault_isSome_iff hd, hi, hframes, CallStack.length_frames]
    simp only [execute_eq_error_iff]
    constructor
    · rintro ⟨f, hf⟩
      cases hf with
      | overflow hdepth => exact hdepth
      | outside hi h => cases hi
      | glyphs hi hw h hg => cases hi
    · exact fun hdepth => ⟨_, .overflow hdepth⟩
  case none_left =>
    intro t d hd hi
    rw [cycleBy_instruction] at hd
    rw [cycleBy_fault, step_fault_isSome_iff hd, hi, hframes, ← List.length_eq_zero_iff,
      CallStack.length_frames]
    simp only [execute_eq_error_iff]
    constructor
    · rintro ⟨f, hf⟩
      cases hf with
      | underflow hdepth => exact hdepth
      | outside hi h => cases hi
      | glyphs hi hw h hg => cases hi
    · exact fun hdepth => ⟨_, .underflow hdepth⟩
  case back =>
    intro t d hd hi hf
    rw [cycleBy_instruction] at hd
    rw [cycleBy_fault] at hf
    rcases step_of_instruction hd with ⟨f, -, hsome⟩ | ⟨n, he, hstep⟩
    · rw [hf] at hsome
      cases hsome
    · rw [hi] at he
      have hret := frames_of_ret (hw.noted t) he
      have htop : own? fs = some (n.stack.frames ++ [(n.registers.pc.toNat : Int)]) := by
        rw [← hret]
        exact h
      obtain ⟨before, address, inner, hfs, hbefore, hinner, hpc⟩ := exists_enter_of_own? htop
      refine ⟨before, address, inner, hfs, hinner, ?_, ?_⟩
      · rw [cycleBy_snd, hstep]
        show n.registers.pc.toNat = address + 2
        omega
      · rw [cycleBy_snd, hstep, outstanding_of_own? hbefore]
        rfl

/-- **Calls and returns match.** From a reset or a load, and through any run of cycles, keys and
pictures: the stack holds the return addresses that are outstanding by the reports of the run; a
call is refused exactly with sixteen of them, a return exactly with none; a return that goes through
goes on right behind the last call that has not returned; and from a call on, until it returns, the
addresses below it stand as they stood. -/
theorem routines_return (m : Machine τ) {start : Call τ} (hstart : start.restarts = true)
    {cs : List (Call τ)} (hcs : ∀ c ∈ cs, c.restarts = false) :
    ((m.call start).calls cs).Disciplined ((m.call start).flows cs) ∧
    ∀ (before : List (Call τ)) (c : Call τ) (after : List (Call τ)), cs = before ++ c :: after →
      ∀ address own, ((m.call start).calls before).flow? c = some (.enter address) →
        own? ((((m.call start).calls before).call c).flows after) = some own →
        ((m.call start).calls cs).stack.frames =
          ((m.call start).calls before).stack.frames ++ [(address : Int) + 2] ++ own := by
  have hm : Reachable (m.call start) := by
    rw [call_of_restarts m hstart]
    exact (Reachable.new m.seed).call start
  constructor
  · have h := (m.call start).foldlM_flows hcs
    rw [frames_of_restarts m hstart] at h
    exact disciplined_of_own? (hm.calls cs).wellFormed h
  · rintro before c after rfl address own hc hown
    rw [calls_append, calls_cons]
    exact frames_of_enter hc (fun d hd => hcs d (by simp [hd])) hown

/-- A program whose first instruction calls the routine at `0x204`, which returns at once. -/
def calling : List UInt8 := [0x22, 0x04, 0x12, 0x02, 0x00, 0xEE]

theorem routines_return_calling :
    (Call.load calling "" : Call Rat).restarts = true ∧
    (∀ c ∈ [Call.cycle (.told (0 : Rat))], c.restarts = false) ∧
    (((initial 0 : Machine Rat).call (.load calling "")).calls [.cycle (.told 0)]).stack.frames =
      [0x202] := by
  have hstart : (Call.load calling "" : Call Rat).restarts = true := rfl
  have hcs : ∀ c ∈ [Call.cycle (.told (0 : Rat))], c.restarts = false :=
    List.forall_mem_singleton.mpr rfl
  have hd := (routines_return (initial 0) hstart hcs).1
  refine ⟨hstart, hcs, hd.frames.trans ?_⟩
  decide +kernel

end Machine

end Chip8
