import Chip8.CallStack

/-!
# The call stack as a list

What a call stack answers depends on the addresses in use alone, and it answers as a plain list that
has room for sixteen: pushes go to its end, and are taken off there. The slots above the count,
whose old content stays, have no part in any answer.

* `CallStack.call_frames`: one call.
* `CallStack.calls_frames`: every sequence of calls.
-/

namespace Chip8

/-- What can be asked of a call stack. -/
inductive StackCall where
  | push (address : Int)
  | pop
  | peek
  | reset
  deriving DecidableEq, Repr

/-- What a call of a stack answers: an address, nothing, or an error. -/
abbrev StackAnswer := Except Fault (Option Int)

/-! ## A plain list -/

/-- A plain list as a stack: addresses, the newest at the end, with room for sixteen. -/
abbrev PlainStack := List Int

namespace PlainStack

/-- The newest address. -/
def top (l : PlainStack) : Except Fault Int :=
  match l.getLast? with
  | some address => .ok address
  | none => .error .stackUnderflow

/-- What a call answers, and the list after it. -/
def call (l : PlainStack) : StackCall → StackAnswer × PlainStack
  | .push address =>
    if l.length < 16 then (.ok none, l ++ [address]) else (.error (.stackOverflow address 16), l)
  | .pop => (l.top.map some, l.dropLast)
  | .peek => (l.top.map some, l)
  | .reset => (.ok none, [])

/-- What the calls of a sequence answer, in order. -/
def answers (l : PlainStack) : List StackCall → List StackAnswer
  | [] => []
  | c :: cs => (l.call c).1 :: answers (l.call c).2 cs

/-- The list after a sequence of calls. -/
def calls (l : PlainStack) (cs : List StackCall) : PlainStack :=
  cs.foldl (fun l c => (l.call c).2) l

end PlainStack

namespace CallStack

/-- What a call answers, and the stack after it, which a call that fails leaves as it was. -/
def call (s : CallStack) : StackCall → StackAnswer × CallStack
  | .push address =>
    match s.push address with
    | .ok t => (.ok none, t)
    | .error f => (.error f, s)
  | .pop =>
    match s.pop with
    | .ok (address, t) => (.ok (some address), t)
    | .error f => (.error f, s)
  | .peek => (s.peek.map some, s)
  | .reset => (.ok none, .empty)

/-- What the calls of a sequence answer, in order. -/
def answers (s : CallStack) : List StackCall → List StackAnswer
  | [] => []
  | c :: cs => (s.call c).1 :: (s.call c).2.answers cs

/-- The stack after a sequence of calls. -/
def calls (s : CallStack) (cs : List StackCall) : CallStack :=
  cs.foldl (fun s c => (s.call c).2) s

variable {s t : CallStack} {address : Int}

/-! ## One call -/

@[simp] theorem frames_empty : empty.frames = [] := rfl

/-- A look at the top sees what would be taken off. -/
theorem peek_eq_pop (s : CallStack) : s.peek = s.pop.map Prod.fst := by
  unfold peek pop
  split <;> rfl

theorem top_of_pop (h : s.pop = .ok (address, t)) :
    PlainStack.top s.frames = .ok address ∧ t.frames = s.frames.dropLast := by
  rw [frames_pop h]
  simp [PlainStack.top]

theorem top_of_pop_error {f : Fault} (h : s.pop = .error f) :
    PlainStack.top s.frames = .error f ∧ s.frames = s.frames.dropLast := by
  obtain ⟨hdepth, rfl⟩ := pop_eq_error_iff.mp h
  have hnil : s.frames = [] := List.eq_nil_of_length_eq_zero (s.length_frames.trans hdepth)
  rw [hnil]
  exact ⟨rfl, rfl⟩

theorem top_frames (s : CallStack) : PlainStack.top s.frames = s.pop.map Prod.fst := by
  cases h : s.pop with
  | ok popped => exact (top_of_pop h).1
  | error f => exact (top_of_pop_error h).1

/-- **A call of a stack is a call of its list**: it has the same answer, and does to the addresses
in use what it does to the list. -/
theorem call_frames (s : CallStack) (c : StackCall) :
    (s.call c).1 = (PlainStack.call s.frames c).1 ∧
      (s.call c).2.frames = (PlainStack.call s.frames c).2 := by
  cases c with
  | push address =>
    cases h : s.push address with
    | ok t =>
      have hroom : s.frames.length < 16 := by
        have hlength := congrArg List.length (frames_push h)
        have hle := t.depth_le
        simp only [length_frames, List.length_append, List.length_singleton] at hlength ⊢
        omega
      simp only [call, h, PlainStack.call, if_pos hroom]
      exact ⟨trivial, frames_push h⟩
    | error f =>
      obtain ⟨hdepth, rfl⟩ := push_eq_error_iff.mp h
      have hfull : ¬ s.frames.length < 16 := by rw [length_frames]; omega
      simp only [call, h, PlainStack.call, if_neg hfull, and_self]
  | pop =>
    cases h : s.pop with
    | ok popped =>
      obtain ⟨htop, hrest⟩ := top_of_pop h
      simp only [call, h, PlainStack.call, htop]
      exact ⟨rfl, hrest⟩
    | error f =>
      obtain ⟨htop, hrest⟩ := top_of_pop_error h
      simp only [call, h, PlainStack.call, htop]
      exact ⟨rfl, hrest⟩
  | peek =>
    simp only [call, PlainStack.call, top_frames, peek_eq_pop, and_self]
  | reset => exact ⟨rfl, rfl⟩

/-! ## Sequences of calls -/

/-- **A stack answers as its list**, whatever is asked of it. -/
theorem calls_frames (s : CallStack) (cs : List StackCall) :
    s.answers cs = PlainStack.answers s.frames cs ∧
      (s.calls cs).frames = PlainStack.calls s.frames cs := by
  induction cs generalizing s with
  | nil => exact ⟨rfl, rfl⟩
  | cons c cs ih =>
    obtain ⟨hanswer, hframes⟩ := s.call_frames c
    obtain ⟨hanswers, hcalls⟩ := ih (s.call c).2
    rw [hframes] at hanswers hcalls
    exact ⟨by rw [answers, PlainStack.answers, hanswer, hanswers], hcalls⟩

/-- **What is known of a stack that holds the addresses of a list.** -/
structure Holds (s : CallStack) (l : PlainStack) : Prop where
  frames : s.frames = l
  depth : s.depth = l.length
  room : l.length ≤ 16
  isFull : s.isFull = true ↔ l.length = 16
  isEmpty : s.isEmpty = true ↔ l.length = 0

theorem holds_frames (s : CallStack) : s.Holds s.frames where
  frames := rfl
  depth := s.length_frames.symm
  room := s.length_frames ▸ s.depth_le
  isFull := by
    have hle := s.depth_le
    rw [length_frames, isFull, decide_eq_true_iff, stackSize]
    omega
  isEmpty := by rw [length_frames, isEmpty, decide_eq_true_iff]

/-- A call that fails leaves the stack as it was, up to its last slot. -/
theorem call_of_error {c : StackCall} {f : Fault} (h : (s.call c).1 = .error f) :
    (s.call c).2 = s := by
  cases c with
  | push address =>
    cases hp : s.push address <;> simp only [call, hp] at h ⊢
    cases h
  | pop =>
    cases hp : s.pop <;> simp only [call, hp] at h ⊢
    cases h
  | peek => rfl
  | reset => cases h

end CallStack

end Chip8
