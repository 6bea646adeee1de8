import Chip8.Instruction.Basic
import Chip8.Memory

/-!
# Registers

Model of `RegisterFile` (`jump`, `advance`, `set_index`, the flag): sixteen byte registers `V0` to
`VF`, the index register `I` and the program counter. `VF` is also the flag that arithmetic and
drawing report through.

* `get_set`: writing a register changes that register and no other.
-/

namespace Chip8

/-- The register file. -/
structure Registers where
  v : Vector UInt8 16
  index : UInt16
  pc : UInt16
  deriving DecidableEq

namespace Registers

/-- The number of the flag register. -/
def flagRegister : Nibble := 15

/-- All registers zero, the program counter at the start of the program. -/
def initial : Registers :=
  ⟨Vector.replicate 16 0, 0, UInt16.ofNat programStart⟩

/-- The value of `Vx`. -/
def get (r : Registers) (x : Nibble) : UInt8 :=
  r.v[x]

/-- `Vx := value`. -/
def set (r : Registers) (x : Nibble) (value : UInt8) : Registers :=
  { r with v := r.v.set x value }

/-- The flag. -/
def flag (r : Registers) : UInt8 :=
  r.get flagRegister

/-- The flag register set to `value`. -/
def setFlag (r : Registers) (value : UInt8) : Registers :=
  r.set flagRegister value

/-- `I := value`. -/
def setIndex (r : Registers) (value : UInt16) : Registers :=
  { r with index := value }

/-- The program counter set to `target`. -/
def jump (r : Registers) (target : UInt16) : Registers :=
  { r with pc := target }

/-- Steps past the current instruction, and past the next one too if `skip`. -/
def advance (r : Registers) (skip : Bool) : Registers :=
  { r with pc := r.pc + if skip then 4 else 2 }

/-- `V0` to `Vx`, in order. -/
def upTo (r : Registers) (x : Nibble) : List UInt8 :=
  r.v.toList.take (x.val + 1)

/-- The registers from `Vn` on set to `values`, as far as there are registers. -/
def setFrom (r : Registers) (n : Nat) : List UInt8 → Registers
  | [] => r
  | b :: bs => setFrom { r with v := r.v.setIfInBounds n b } (n + 1) bs

@[simp] theorem get_set (r : Registers) (x y : Nibble) (value : UInt8) :
    (r.set x value).get y = if x = y then value else r.get y := by
  simp [get, set, Vector.getElem_set, Fin.ext_iff]

end Registers

end Chip8
