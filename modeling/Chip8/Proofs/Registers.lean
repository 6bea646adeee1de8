import Chip8.Registers

/-!
# Runs of registers

The registers from `V0` on are stored to memory and loaded from it as a run of bytes.

* `getElem?_upTo`: the run that is stored.
* `get_setFrom`: what a load of a run leaves in each register.
-/

namespace Chip8.Registers

@[simp] theorem length_upTo (r : Registers) (x : Nibble) : (r.upTo x).length = x.val + 1 := by
  have := x.isLt
  simp only [upTo, List.length_take, Vector.length_toList]
  omega

theorem getElem?_upTo (r : Registers) {x : Nibble} {k : Nat} (h : k ≤ x.val) :
    (r.upTo x)[k]? = some (r.get (Fin.ofNat 16 k)) := by
  have := x.isLt
  have hk : k % 16 = k := Nat.mod_eq_of_lt (by omega)
  rw [upTo, List.getElem?_take_of_lt (by omega), Vector.getElem?_toList,
    Vector.getElem?_eq_getElem (by omega)]
  simp [get, hk]

/-! ## Loading a run -/

@[simp] theorem pc_setFrom (r : Registers) (n : Nat) (bytes : List UInt8) :
    (r.setFrom n bytes).pc = r.pc := by
  induction bytes generalizing r n with
  | nil => rfl
  | cons b bs ih => rw [setFrom, ih]

@[simp] theorem index_setFrom (r : Registers) (n : Nat) (bytes : List UInt8) :
    (r.setFrom n bytes).index = r.index := by
  induction bytes generalizing r n with
  | nil => rfl
  | cons b bs ih => rw [setFrom, ih]

/-- **Each register of the run has its byte**, and every other register is as it was. -/
theorem get_setFrom (r : Registers) (n : Nat) (bytes : List UInt8) (y : Nibble) :
    (r.setFrom n bytes).get y =
      if n ≤ y ∧ y < n + bytes.length then bytes[y.val - n]?.getD 0 else r.get y := by
  induction bytes generalizing r n with
  | nil => rw [setFrom, if_neg (by simp only [List.length_nil]; omega)]
  | cons b bs ih =>
    rw [setFrom, ih, List.length_cons]
    by_cases hn : y.val = n
    · have hget : ({ r with v := r.v.setIfInBounds n b } : Registers).get y = b := by
        simp [get, hn]
      rw [if_neg (by omega), if_pos (by omega), hget, hn, Nat.sub_self]
      rfl
    · by_cases hin : n + 1 ≤ y ∧ y < n + 1 + bs.length
      · have hsub : y.val - n = (y.val - (n + 1)) + 1 := by omega
        rw [if_pos hin, if_pos (by omega), hsub, List.getElem?_cons_succ]
      · rw [if_neg hin, if_neg (by omega)]
        simp [get, Vector.getElem_setIfInBounds_ne, Ne.symm hn]

end Chip8.Registers
