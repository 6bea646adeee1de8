import Chip8.Fault

/-!
# Call stack

Model of `CallStack` (`push`, `pop`, `peek`, `frames`): sixteen slots for return addresses and a
count of those in use. A slot above the count keeps its old content, which no operation shows:
`frames` is the list of addresses in use, oldest first.

* `frames_push` and `frames_pop`: a push appends to that list and a pop takes its last element off.
* `push_eq_error_iff` and `pop_eq_error_iff`: a push fails exactly on a full stack, a pop exactly on
  an empty one.
-/

namespace Chip8

/-- The number of slots. -/
def stackSize : Nat := 16

/-- Return addresses and how many of them are in use. -/
structure CallStack where
  slots : Vector Int 16
  depth : Nat
  depth_le : depth ≤ 16 := by omega
  deriving DecidableEq

namespace CallStack

/-- No call outstanding, all slots zero. -/
def empty : CallStack where
  slots := Vector.replicate 16 0
  depth := 0

/-- The addresses in use, oldest first. -/
def frames (s : CallStack) : List Int :=
  s.slots.toList.take s.depth

/-- Every slot is in use. -/
def isFull (s : CallStack) : Bool :=
  stackSize ≤ s.depth

/-- No slot is in use. -/
def isEmpty (s : CallStack) : Bool :=
  s.depth = 0

/-- Puts an address on top. -/
def push (s : CallStack) (address : Int) : Except Fault CallStack :=
  if h : s.depth < 16 then
    .ok ⟨s.slots.set s.depth address, s.depth + 1, by omega⟩
  else .error (.stackOverflow address s.depth)

/-- The address on top. -/
def peek (s : CallStack) : Except Fault Int :=
  if h : 0 < s.depth then
    have := s.depth_le
    .ok s.slots[s.depth - 1]
  else .error .stackUnderflow

/-- Takes the address on top off. -/
def pop (s : CallStack) : Except Fault (Int × CallStack) :=
  if h : 0 < s.depth then
    have := s.depth_le
    .ok (s.slots[s.depth - 1], ⟨s.slots, s.depth - 1, by omega⟩)
  else .error .stackUnderflow

@[simp] theorem length_frames (s : CallStack) : s.frames.length = s.depth := by
  have := s.depth_le
  simp [frames]; omega

theorem push_eq_error_iff {s : CallStack} {address : Int} {e : Fault} :
    s.push address = .error e ↔ s.depth = 16 ∧ e = .stackOverflow address 16 := by
  have := s.depth_le
  unfold push
  split
  · simp; omega
  · have h16 : s.depth = 16 := by omega
    simp [h16, eq_comm]

theorem pop_eq_error_iff {s : CallStack} {e : Fault} :
    s.pop = .error e ↔ s.depth = 0 ∧ e = .stackUnderflow := by
  unfold pop
  split
  · simp; omega
  · have h0 : s.depth = 0 := by omega
    simp [h0, eq_comm]

theorem frames_push {s t : CallStack} {address : Int} (h : s.push address = .ok t) :
    t.frames = s.frames ++ [address] := by
  unfold push at h
  split at h
  next hlt =>
    cases h
    show (s.slots.set s.depth address).toList.take (s.depth + 1) =
      s.slots.toList.take s.depth ++ [address]
    rw [Vector.toList_set, List.take_succ_eq_append_getElem (by simp [hlt]),
      List.getElem_set_self, List.take_set_of_le (Nat.le_refl _)]
  next => cases h

theorem frames_pop {s t : CallStack} {address : Int} (h : s.pop = .ok (address, t)) :
    s.frames = t.frames ++ [address] := by
  unfold pop at h
  split at h
  next hpos =>
    cases h
    have hle := s.depth_le
    have hlt : s.depth - 1 < s.slots.toList.length := by simp only [Vector.length_toList]; omega
    calc s.slots.toList.take s.depth = s.slots.toList.take (s.depth - 1 + 1) := by
          rw [Nat.sub_add_cancel hpos]
      _ = s.slots.toList.take (s.depth - 1) ++ [s.slots[s.depth - 1]] := by
          rw [List.take_succ_eq_append_getElem hlt, Vector.getElem_toList]
  next => cases h

end CallStack

end Chip8
