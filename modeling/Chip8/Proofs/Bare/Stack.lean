import Chip8.Proofs.Bare.Layout
import Chip8.Proofs.CallStack

/-!
# Calls of a bare stack

On a bare machine the call stack is a list of slots and a count, and every call works on both in
place: a call that is refused too late could leave one of them changed, a count that is off could
reach past the slots, and what was taken off stays in its slot. None of this shows: with any calls
whatever, refused ones in between, the slots answer as the plain list of the addresses in use.

* `runs_stackAnswers`: the calls of a sequence, worked in place.
* `CallStack.answers_as_list`: a stack, in place or not, is a list with room for sixteen.
-/

namespace Chip8

namespace Bare

variable {τ : Type} {m : Machine τ} {a : Option Int} {address : Int} {f : Fault} {c : StackCall}

/-- The address on top. -/
def peek : Work τ Int := do
  let s ← get
  if s.sp = 0 then throw (.fault .stackUnderflow)
  item s.slots (s.sp - 1)

/-- Every slot zero and none in use. -/
def clearStack : Work τ Unit :=
  modify ({ · with slots := List.replicate stackSize 0, sp := 0 })

/-- One call. -/
def stackCall : StackCall → Work τ (Option Int)
  | .push address => do
    push address
    return none
  | .pop => some <$> pop
  | .peek => some <$> peek
  | .reset => do
    clearStack
    return none

/-- One call, whose refusal is caught and noted. -/
def stackAnswer (c : StackCall) : Work τ StackAnswer :=
  tryCatch (stackCall c >>= fun a => pure (.ok a)) fun
    | .fault f => pure (.error f)
    | accident => throw accident

/-- The calls of a sequence. -/
def stackAnswers : List StackCall → Work τ (List StackAnswer)
  | [] => pure []
  | c :: cs => do
    let answer ← stackAnswer c
    return answer :: (← stackAnswers cs)

/-! ## One call -/

theorem runs_peek (h : m.stack.peek = .ok address) : Runs peek m.bare address m.bare := by
  unfold CallStack.peek at h
  split at h
  next hd =>
    cases h
    have hsome : ¬ m.bare.sp = 0 := by
      rw [Machine.bare_sp]
      omega
    unfold peek
    refine runs_get.bind ?_
    rw [if_neg hsome]
    exact runs_item_top hd _
  next => cases h

theorem refused_peek (h : m.stack.peek = .error f) : Refused peek m.bare f := by
  rw [CallStack.peek_eq_pop] at h
  cases hp : m.stack.pop with
  | ok popped =>
    rw [hp] at h
    cases h
  | error e =>
    rw [hp] at h
    cases h
    obtain ⟨hd, rfl⟩ := CallStack.pop_eq_error_iff.mp hp
    have hsp : m.bare.sp = 0 := congrArg Int.ofNat hd
    unfold peek
    refine runs_get.refused ?_
    rw [if_pos hsp]
    exact refused_throw.bind

theorem runs_stackCall (h : (m.stack.call c).1 = .ok a) :
    Runs (stackCall c) m.bare a ({ m with stack := (m.stack.call c).2 } : Machine τ).bare := by
  cases c with
  | push address =>
    cases hp : m.stack.push address <;> simp only [CallStack.call, hp] at h ⊢
    next => cases h
    next =>
      cases h
      exact (runs_push hp).bind (runs_pure none)
  | pop =>
    cases hp : m.stack.pop <;> simp only [CallStack.call, hp] at h ⊢
    next => cases h
    next =>
      cases h
      exact (runs_pop hp).map some
  | peek =>
    cases hp : m.stack.peek <;> simp only [CallStack.call, hp] at h ⊢
    next => cases h
    next =>
      cases h
      exact (runs_peek hp).map some
  | reset =>
    cases h
    exact Runs.bind (runs_modify rfl) (runs_pure none)

/-- A call that fails is refused before anything is written. -/
theorem refused_stackCall (h : (m.stack.call c).1 = .error f) :
    Refused (stackCall c) m.bare f := by
  cases c with
  | push address =>
    cases hp : m.stack.push address <;> simp only [CallStack.call, hp] at h
    next =>
      cases h
      exact (refused_push hp).bind
    next => cases h
  | pop =>
    cases hp : m.stack.pop <;> simp only [CallStack.call, hp] at h
    next =>
      cases h
      exact (refused_pop hp).bind
    next => cases h
  | peek =>
    cases hp : m.stack.peek <;> simp only [CallStack.call, hp] at h
    next =>
      cases h
      exact (refused_peek hp).bind
    next => cases h
  | reset => cases h

theorem runs_stackAnswer (m : Machine τ) (c : StackCall) :
    Runs (stackAnswer c) m.bare (m.stack.call c).1
      ({ m with stack := (m.stack.call c).2 } : Machine τ).bare := by
  cases h : (m.stack.call c).1 with
  | ok a => exact ((runs_stackCall h).bind (runs_pure (Except.ok a))).tryCatch
  | error f =>
    rw [CallStack.call_of_error h]
    exact (refused_stackCall h).bind.tryCatch

/-! ## Sequences of calls -/

/-- **Worked in place, the calls meet no accident** and answer as they should. -/
theorem runs_stackAnswers (m : Machine τ) (cs : List StackCall) :
    Runs (stackAnswers cs) m.bare (m.stack.answers cs)
      ({ m with stack := m.stack.calls cs } : Machine τ).bare := by
  induction cs generalizing m with
  | nil => exact runs_pure []
  | cons c cs ih =>
    exact (runs_stackAnswer m c).bind
      ((ih { m with stack := (m.stack.call c).2 }).bind (runs_pure _))

end Bare

/-- **A call stack is a list with room for sixteen.** Whatever it is asked, it answers as the list
does and holds what the list holds; a call that fails changes nothing; what lies in the slots above
the count shows in no later answer; and so it is with slots and count that are worked on in place,
on any machine, of which nothing else is touched. -/
theorem CallStack.answers_as_list {τ : Type} (cs : List StackCall) :
    (empty.answers cs = PlainStack.answers [] cs ∧
      (empty.calls cs).Holds (PlainStack.calls [] cs)) ∧
    (∀ c f, ((empty.calls cs).call c).1 = .error f →
      ((empty.calls cs).call c).2 = empty.calls cs) ∧
    (∀ s t : CallStack, s.frames = t.frames →
      s.answers cs = t.answers cs ∧ ∃ l, (s.calls cs).Holds l ∧ (t.calls cs).Holds l) ∧
    ∀ m : Machine τ, Bare.Runs (Bare.stackAnswers cs) m.bare (m.stack.answers cs)
      ({ m with stack := m.stack.calls cs } : Machine τ).bare := by
  refine ⟨?_, fun c f => call_of_error, fun s t hframes => ?_, fun m => Bare.runs_stackAnswers m cs⟩
  · obtain ⟨hanswers, hcalls⟩ := empty.calls_frames cs
    have hholds := holds_frames (empty.calls cs)
    rw [hcalls] at hholds
    exact ⟨hanswers, hholds⟩
  · obtain ⟨hs, hscalls⟩ := s.calls_frames cs
    obtain ⟨ht, htcalls⟩ := t.calls_frames cs
    rw [hframes] at hs hscalls
    have hsholds := holds_frames (s.calls cs)
    have htholds := holds_frames (t.calls cs)
    rw [hscalls] at hsholds
    rw [htcalls] at htholds
    exact ⟨hs.trans ht.symm, _, hsholds, htholds⟩

end Chip8
