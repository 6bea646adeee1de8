import Chip8.Instruction.Basic
import Chip8.Notice

/-!
# Keypad

Model of `Keypad` (`key_down`, `key_up`, `set_key`, `is_pressed`, `highest_pressed`): sixteen keys,
each up or down. Key codes come from outside as integers: a code that no key has is ignored when a
key is set, and taken modulo sixteen when one is asked about.

* `isDown_setKey`: setting a key changes that key and no other.
-/

namespace Chip8

/-- Which keys are down. -/
structure Keypad where
  held : Vector Bool 16
  deriving DecidableEq

namespace Keypad

/-- Every key up. -/
def initial : Keypad :=
  ⟨Vector.replicate 16 false⟩

/-- The key that a code names, if there is one. -/
def key? (code : Int) : Option Nibble :=
  if h : 0 ≤ code ∧ code < 16 then some ⟨code.toNat, by omega⟩ else none

/-- The key `code` put down or let up; a code that no key has changes nothing. -/
def setKey (pad : Keypad) (code : Int) (down : Bool) : Keypad :=
  match key? code with
  | some k => ⟨pad.held.set k down k.lt⟩
  | none => pad

/-- What is told when the key `code` is set. -/
def setKeyNotices (code : Int) : List Notice :=
  match key? code with
  | some _ => []
  | none => [.strayKey code]

/-- Is key `k` down? -/
def isDown (pad : Keypad) (k : Nibble) : Bool :=
  pad.held.get k

/-- Is the key that `code` falls on down? -/
def isPressed (pad : Keypad) (code : Int) : Bool :=
  pad.isDown ⟨(code % 16).toNat, by omega⟩

/-- The greatest key that is down. -/
def highestPressed (pad : Keypad) : Option Nibble :=
  (List.finRange 16).reverse.find? pad.isDown

theorem isDown_setKey (pad : Keypad) (k j : Nibble) (down : Bool) :
    (pad.setKey k.val down).isDown j = if k = j then down else pad.isDown j := by
  have h : key? (k.val : Int) = some k := by
    have := k.isLt
    simp only [key?, Int.natCast_nonneg, true_and]
    rw [dif_pos (by omega)]
    simp
  simp only [setKey, h, isDown]
  show (pad.held.set k.val down k.lt)[j.val] = if k = j then down else pad.held[j.val]
  simp [Vector.getElem_set, Fin.ext_iff]

end Keypad

end Chip8
