import Chip8.Proofs.Machine.View

/-!
# The instruction table

`View.effect` is the instruction table: what each row does to a machine in numbers. A row reads the
machine as it stands before the instruction, and a part that it does not name stays as it is. Rows
that report through the flag give `VF` its value first and `Vx` second, so where both are one
register the second value remains.

* `View.effect`: the table, one row an instruction.
* `View.finished`: what the end of a cycle adds.
-/

namespace Chip8

namespace View

variable {τ : Type}

/-- The bytes of `n` cells from the index on. -/
def block (s : View τ) (n : Nat) : List Nat :=
  (List.range n).map fun j => s.cell (s.index + j)

/-- The number of the greatest key that is down. -/
def greatestKey (s : View τ) : Option Nat :=
  (((List.finRange 16).filter s.key).map Fin.val).max?

/-- The flag that says whether `p` holds. -/
def flagOf (p : Prop) [Decidable p] : Nat :=
  if p then 1 else 0

/-- A drawing: whether it met a lit point, and the picture. -/
def drawn (s : View τ) (d : Bool × Plane) : View τ :=
  ({ s with pixel := d.2, dirty := true }.put 0xF (flagOf (d.1 = true))).next

/-- **The instruction table**, row by row. -/
def effect (s : View τ) : Instruction → View τ
  | .clear => { s with pixel := fun _ => false, dirty := true }.next
  | .ret => { s with pc := s.slot (s.sp - 1), sp := s.sp - 1 }
  | .jump nnn => { s with pc := nnn.val }
  | .call nnn =>
    { s with slot := Function.update s.slot s.sp (s.pc + 2), sp := s.sp + 1, pc := nnn.val }
  | .skipEqByte x nn => s.skipIf (s.v x = nn.toNat)
  | .skipNeByte x nn => s.skipIf (s.v x ≠ nn.toNat)
  | .skipEq x y => s.skipIf (s.v x = s.v y)
  | .loadByte x nn => (s.put x nn.toNat).next
  | .addByte x nn => (s.put x ((s.v x + nn.toNat) % 256)).next
  | .copy x y => (s.put x (s.v y)).next
  | .or x y => (s.put x (s.v x ||| s.v y)).next
  | .and x y => (s.put x (s.v x &&& s.v y)).next
  | .xor x y => (s.put x (s.v x ^^^ s.v y)).next
  | .add x y =>
    ((s.put 0xF (flagOf (255 < s.v x + s.v y))).put x ((s.v x + s.v y) % 256)).next
  | .sub x y =>
    ((s.put 0xF (flagOf (s.v x ≥ s.v y))).put x (((s.v x : Int) - s.v y) % 256).toNat).next
  | .shiftRight x => ((s.put 0xF (s.v x &&& 1)).put x (s.v x >>> 1)).next
  | .subFrom x y =>
    ((s.put 0xF (flagOf (s.v y ≥ s.v x))).put x (((s.v y : Int) - s.v x) % 256).toNat).next
  | .shiftLeft x => ((s.put 0xF (s.v x >>> 7)).put x ((s.v x <<< 1) % 256)).next
  | .skipNe x y => s.skipIf (s.v x ≠ s.v y)
  | .loadIndex nnn => { s with index := nnn.val }.next
  | .jumpOffset nnn => { s with pc := nnn.val + s.v 0 }
  | .random x nn =>
    ({ s with random := s.random.draw.2 }.put x (s.random.draw.1.toNat &&& nn.toNat)).next
  | .draw x y n => s.drawn (s.pixel.plot (spritePoints (s.v x) (s.v y) (s.block n)))
  | .skipPressed x => s.skipIf (s.key (Fin.ofNat 16 (s.v x)) = true)
  | .skipReleased x => s.skipIf (s.key (Fin.ofNat 16 (s.v x)) = false)
  | .readDelay x => (s.put x s.timers.delay.toNat).next
  | .awaitKey x =>
    match s.greatestKey with
    | some key => (s.put x key).next
    | none => { s with status := .awaitingKey, keyRegister := x }
  | .setDelay x => { s with timers := { s.timers with delay := s.v x } }.next
  | .setSound x => { s with timers := { s.timers with sound := s.v x } }.next
  | .addIndex x => { s with index := (s.index + s.v x) % 65536 }.next
  | .glyph x => { s with index := s.v x * 5 }.next
  | .decimal x =>
    { s with cell := Function.update (Function.update (Function.update s.cell
        s.index (s.v x / 100)) (s.index + 1) (s.v x / 10 % 10)) (s.index + 2) (s.v x % 10) }.next
  | .store x =>
    { s with cell := fun a => if s.index ≤ a ∧ a ≤ s.index + x
        then s.v (Fin.ofNat 16 (a - s.index)) else s.cell a }.next
  | .load x => { s with v := fun r => if r ≤ x then s.cell (s.index + r) else s.v r }.next

/-- The end of a cycle that went through: it is counted, and the timers are given their time. -/
def finished [Seconds τ] (s : View τ) (elapsed : τ) : View τ :=
  { s with cycles := s.cycles + 1, timers := (s.timers.tick elapsed).2 }

end View

end Chip8
