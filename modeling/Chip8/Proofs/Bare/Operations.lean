import Chip8.Proofs.Bare.Layout
import Chip8.Proofs.Machine.InPlace
import Mathlib.Tactic.IntervalCases

/-!
# Handlers do what instructions do

The tables of a bare machine find an operation for a word where the decoder finds an instruction,
and the handler of the operation does to the numbers of a machine what `execute` does to the
machine. Which of the accidents of `Bare` could happen in a handler is settled here, handler by
handler: only a fault, and only before the first write.

* `decodes`: the tables against the decoder.
* `perform_eq`: the handlers against `execute`.
-/

namespace Chip8

/-- The operation on the operands that the word holds. -/
def Operation.instruction (o : Operation) (w : Word) : Instruction :=
  match o with
  | clear => .clear
  | ret => .ret
  | jump => .jump w.nnn
  | call => .call w.nnn
  | skipEqByte => .skipEqByte w.x w.nn
  | skipNeByte => .skipNeByte w.x w.nn
  | skipEq => .skipEq w.x w.y
  | loadByte => .loadByte w.x w.nn
  | addByte => .addByte w.x w.nn
  | copy => .copy w.x w.y
  | or => .or w.x w.y
  | and => .and w.x w.y
  | xor => .xor w.x w.y
  | add => .add w.x w.y
  | sub => .sub w.x w.y
  | shiftRight => .shiftRight w.x
  | subFrom => .subFrom w.x w.y
  | shiftLeft => .shiftLeft w.x
  | skipNe => .skipNe w.x w.y
  | loadIndex => .loadIndex w.nnn
  | jumpOffset => .jumpOffset w.nnn
  | random => .random w.x w.nn
  | draw => .draw w.x w.y w.n
  | skipPressed => .skipPressed w.x
  | skipReleased => .skipReleased w.x
  | readDelay => .readDelay w.x
  | awaitKey => .awaitKey w.x
  | setDelay => .setDelay w.x
  | setSound => .setSound w.x
  | addIndex => .addIndex w.x
  | glyph => .glyph w.x
  | decimal => .decimal w.x
  | store => .store w.x
  | load => .load w.x

namespace Bare

variable {τ α : Type} {m n : Machine τ} {s : Bare τ} {f : Fault} {w : Word}

/-! ## Decoding -/

theorem lookup_system (w : Word) :
    (systemOperations.lookup ((w.toNat : Int) % 0x10000)).map (·.instruction w) =
      decodeSystem w := by
  have hkey : (w.toNat : Int) % 0x10000 = w.toNat := by
    have := w.toNat_lt
    omega
  unfold decodeSystem
  rw [hkey]
  split
  case h_3 =>
    rw [Option.map_eq_none_iff, List.lookup_eq_none_iff, systemOperations]
    simp only [List.forall_mem_cons]
    grind
  all_goals rename_i h; rw [h]; rfl

theorem lookup_arithmetic (w : Word) :
    (arithmeticOperations.lookup ((w.toNat : Int) % 0x10)).map (·.instruction w) =
      decodeArithmetic w := by
  have hkey : (w.toNat : Int) % 0x10 = (w.n.val : Int) := rfl
  unfold decodeArithmetic
  rw [hkey]
  split
  case h_10 =>
    rw [Option.map_eq_none_iff, List.lookup_eq_none_iff, arithmeticOperations]
    simp only [List.forall_mem_cons]
    grind
  all_goals rename_i h; rw [h]; rfl

theorem lookup_key (w : Word) :
    (keyOperations.lookup ((w.toNat : Int) % 0x100)).map (·.instruction w) = decodeKey w := by
  have hkey : (w.toNat : Int) % 0x100 = (w.nn.toNat : Int) := by
    rw [Word.nn_toNat]
    rfl
  unfold decodeKey
  rw [hkey]
  split
  case h_3 =>
    rw [Option.map_eq_none_iff, List.lookup_eq_none_iff, keyOperations]
    simp only [List.forall_mem_cons]
    grind
  all_goals rename_i h; rw [h]; rfl

theorem lookup_misc (w : Word) :
    (miscOperations.lookup ((w.toNat : Int) % 0x100)).map (·.instruction w) = decodeMisc w := by
  have hkey : (w.toNat : Int) % 0x100 = (w.nn.toNat : Int) := by
    rw [Word.nn_toNat]
    rfl
  unfold decodeMisc
  rw [hkey]
  split
  case h_10 =>
    rw [Option.map_eq_none_iff, List.lookup_eq_none_iff, miscOperations]
    simp only [List.forall_mem_cons]
    grind
  all_goals rename_i h; rw [h]; rfl

/-- What the tables make of the word `w`, where the decoder makes `i` of it. -/
inductive Decodes (w : Word) (p : Work τ (Int × Operation)) : Option Instruction → Prop
  | known (o : Operation) (h : p = pure ((w.toNat : Int), o)) : Decodes w p (some (o.instruction w))
  | unknown (h : p = throw (.fault (.unknownOpcode w.toNat none))) : Decodes w p none

/-- A family of several operations. -/
theorem decodes_of_lookup {operations : List (Int × Operation)} {key : Int}
    {i : Option Instruction} (h : (operations.lookup key).map (·.instruction w) = i) :
    Decodes (τ := τ) w (match operations.lookup key with
      | some operation => pure ((w.toNat : Int), operation)
      | none => throw (.fault (.unknownOpcode w.toNat none))) i := by
  cases hl : operations.lookup key with
  | none =>
    rw [hl] at h
    subst h
    exact .unknown rfl
  | some o =>
    rw [hl] at h
    subst h
    exact .known o rfl

/-- **The tables have an entry for every family, and tell what the decoder tells.** -/
theorem decodes (w : Word) : Decodes w (decode (w.toNat : Int) : Work τ _) (Chip8.decode w) := by
  have hmod : (w.toNat : Int) % 0x10000 = w.toNat := by
    have := w.toNat_lt
    omega
  have hfamily : (w.toNat : Int) / 0x1000 = (w.family.val : Int) := by
    rw [Word.family_val]
    rfl
  have hlt := w.family.isLt
  unfold decode Chip8.decode
  simp only [hmod, hfamily]
  interval_cases hf : w.family.val
  case «0» => exact decodes_of_lookup (lookup_system w)
  case «8» => exact decodes_of_lookup (lookup_arithmetic w)
  case «14» => exact decodes_of_lookup (lookup_key w)
  case «15» => exact decodes_of_lookup (lookup_misc w)
  all_goals exact .known _ rfl

/-! ## Values -/

theorem emod_byte (b : UInt8) : (b.toNat : Int) % 0x100 = b.toNat := by
  have := b.toNat_lt
  omega

/-- A byte, computed as a number. -/
theorem emod_of_eq {k : Nat} {b : UInt8} (h : k = b.toNat) : (k : Int) % 0x100 = b.toNat :=
  h ▸ emod_byte b

theorem emod_difference (a b : UInt8) :
    ((a.toNat : Int) - b.toNat) % 0x100 = (a - b).toNat := by
  rw [Arithmetic.toNat_difference]
  omega

theorem emod_half (a : UInt8) : (a.toNat : Int) / 2 % 0x100 = (a >>> 1).toNat := by
  have := a.toNat_lt
  rw [Arithmetic.toNat_half, Nat.shiftRight_eq_div_pow]
  omega

theorem emod_low (a : UInt8) : (a.toNat : Int) % 2 % 0x100 = (a &&& 1).toNat := by
  have hone : (1 : UInt8).toNat = 1 := rfl
  rw [UInt8.toNat_and, hone, Nat.and_one_is_mod]
  omega

theorem emod_double (a : UInt8) : (a.toNat : Int) * 2 % 0x100 = (a <<< 1).toNat := by
  rw [Arithmetic.toNat_double, Nat.shiftLeft_eq]
  omega

theorem emod_top (a : UInt8) : (a.toNat : Int) / 0x80 % 0x100 = (a >>> 7).toNat := by
  have := a.toNat_lt
  rw [Arithmetic.toNat_top, Nat.shiftRight_eq_div_pow]
  omega

theorem emod_word (i : UInt16) : (i.toNat : Int) % 0x10000 = i.toNat := by
  have := i.toNat_lt
  omega

theorem emod_flagOf {p q : Prop} [Decidable p] [Decidable q] {b : UInt8} (h : p ↔ q)
    (hb : b.toNat = View.flagOf q) : flagOf p % 0x100 = b.toNat := by
  rw [hb, flagOf, View.flagOf]
  by_cases hq : q
  · rw [if_pos (h.mpr hq), if_pos hq]; rfl
  · rw [if_neg (fun hp => hq (h.mp hp)), if_neg hq]; rfl

theorem byte_inj {a b : UInt8} : (a.toNat : Int) = b.toNat ↔ a = b :=
  Int.ofNat_inj.trans UInt8.toNat_inj

/-! ## Parts of handlers -/

/-- Work that is followed by a step to the next instruction. -/
theorem runs_next {p : Work τ Unit} (h : Runs p s () n.bare) (hp : n.registers.pc.toNat ≤ 0xFFE) :
    Runs (p >>= fun _ => advance false) s () (n.advance false).bare :=
  h.bind (runs_advance hp false)

section

variable (hp : m.registers.pc.toNat ≤ 0xFFE)

include hp

theorem runs_assign {value : Work τ Int} {z : Int} {b : UInt8} (hv : Runs value s z m.bare)
    (hb : z % 0x100 = b.toNat) :
    Runs (assign (w.toNat : Int) value) s () (m.assign w.x b).bare := by
  exact hv.bind ((runs_setV w.x hb).bind
    (runs_advance (m := m.withRegisters (·.set w.x b)) hp false))

theorem runs_assignFlagged {result : Work τ (Int × Int)} {z flag : Int} {r : Flagged}
    (hv : Runs result m.bare (z, flag) m.bare) (hz : z % 0x100 = r.value.toNat)
    (hf : flag % 0x100 = r.flag.toNat) :
    Runs (assignFlagged (w.toNat : Int) result) m.bare () (m.assignFlagged w.x r).bare := by
  exact hv.bind ((runs_setFlag hf).bind ((runs_setV w.x hz).bind (runs_advance
    (m := (m.withRegisters (·.setFlag r.flag)).withRegisters (·.set w.x r.value)) hp false)))

theorem runs_assignIndex {value : Work τ Int} {z : Int} {i : UInt16}
    (hv : Runs value m.bare z m.bare) (hi : z % 0x10000 = i.toNat) :
    Runs (assignIndex value) m.bare () (m.assignIndex i).bare := by
  exact hv.bind ((runs_setIndex hi).bind
    (runs_advance (m := m.withRegisters (·.setIndex i)) hp false))

theorem runs_skipIf {condition : Work τ Bool} {c d : Bool} (hc : Runs condition m.bare c m.bare)
    (h : c = d) : Runs (skipIf condition) m.bare () (m.advance d).bare := by
  subst h
  exact hc.bind (runs_advance hp c)

theorem runs_resolveKey (x : Nibble) :
    Runs (resolveKey (x.val : Int)) m.bare m.keypad.highestPressed.isSome
      (match m.keypad.highestPressed with
        | some key => m.takeKey x key
        | none => m).bare := by
  refine runs_highestPressed.bind ?_
  cases m.keypad.highestPressed with
  | none => exact runs_pure false
  | some key =>
    have hb : (key.val : Int) % 0x100 = (UInt8.ofNat key.val).toNat := by
      rw [UInt8.toNat_ofNat']
      omega
    refine (runs_setV x hb).bind ((runs_advance
      (m := m.withRegisters (·.set x (UInt8.ofNat key.val))) hp false).bind ?_)
    exact (runs_modify rfl).bind (runs_pure true)

/-- The greatest key that is down, or a wait for one. -/
theorem runs_awaitKey (x : Nibble) :
    Runs (do
        if !(← resolveKey (x.val : Int)) then
          modify ({ · with status := .awaitingKey, keyRegister := (x.val : Int) })) m.bare ()
      (m.awaitKey x).bare := by
  refine (runs_resolveKey hp x).bind ?_
  unfold Machine.awaitKey
  cases m.keypad.highestPressed with
  | none => exact runs_modify rfl
  | some key => exact runs_pure ()

/-- The flag is cleared, the sprite drawn, and the flag set if it met a lit pixel. -/
theorem runs_sprite (x y : Int) (rows : List UInt8) :
    Runs (do
        setFlag 0
        if ← draw x y (numbers rows) then setFlag 1
        advance false) m.bare ()
      ((({ m with screen := (m.screen.draw x y rows).2 } : Machine τ).withRegisters
        (·.setFlag (Arithmetic.flagOf (m.screen.draw x y rows).1))).advance false).bare := by
  have hclear := runs_setFlag (m := m) (z := 0) (b := 0) rfl
  refine hclear.bind ((runs_draw x y rows).bind ?_)
  show Runs (if (m.screen.draw x y rows).1 = true then _ else _) _ _ _
  cases (m.screen.draw x y rows).1 with
  | false => exact runs_advance (m := { m.withRegisters (·.setFlag 0) with screen := _ }) hp false
  | true =>
    -- the flag that was cleared is set
    have hset := runs_setFlag (τ := τ) (z := 1) (b := 1)
      (m := { m.withRegisters (·.setFlag 0) with screen := (m.screen.draw x y rows).2 }) rfl
    have htwice : Machine.withRegisters
        { m.withRegisters (·.setFlag 0) with screen := (m.screen.draw x y rows).2 }
        (·.setFlag 1) =
        Machine.withRegisters { m with screen := (m.screen.draw x y rows).2 } (·.setFlag 1) :=
      congrArg (fun registers => { m with screen := (m.screen.draw x y rows).2, registers })
        (InPlace.setFlag_setFlag m.registers 0 1)
    rw [htwice] at hset
    exact hset.bind (runs_advance
      (m := Machine.withRegisters { m with screen := (m.screen.draw x y rows).2 } (·.setFlag 1))
      hp false)

end

/-- The registers from number `k` on. -/
theorem runs_setFrom {k : Nat} {data : List UInt8} (h : k + data.length ≤ 16) :
    Runs (setFrom (k : Int) (numbers data)) m.bare ()
      (m.withRegisters (·.setFrom k data)).bare := by
  induction data generalizing m k with
  | nil => exact runs_pure ()
  | cons c data ih =>
    have hk : k < 16 := by simp only [List.length_cons] at h; omega
    have hset := runs_setV (m := m) ⟨k, hk⟩ (emod_byte c)
    have hv : m.registers.v.setIfInBounds k c = m.registers.v.set k c :=
      Vector.ext fun i hi => by
        rw [Vector.getElem_setIfInBounds, Vector.getElem_set]
    have hregs : m.registers.setFrom k (c :: data) =
        (m.registers.set ⟨k, hk⟩ c).setFrom (k + 1) data := by
      rw [Registers.setFrom, hv]
      rfl
    have hrest := ih (m := m.withRegisters (·.set ⟨k, hk⟩ c)) (k := k + 1)
      (by simp only [List.length_cons] at h; omega)
    refine hset.bind ?_
    show Runs _ _ () (Machine.bare { m with registers := m.registers.setFrom k (c :: data) })
    rw [hregs]
    exact hrest

/-! ## Handlers -/

/-- How work ends that comes to `x` on the machine `m`. -/
def ending (m : Machine τ) : Except Fault (Machine τ) → EStateM.Result Accident (Bare τ) Unit
  | .ok n => .ok () n.bare
  | .error f => .error (.fault f) m.bare

/-- A check and, if it does not refuse, writes. -/
theorem ending_of_check {x : Except Fault α} {g : α → Machine τ} {p : Work τ Unit}
    (hf : ∀ f, x = .error f → Refused p m.bare f)
    (hg : ∀ a, x = .ok a → Runs p m.bare () (g a).bare) :
    p m.bare = ending m (x >>= fun a => pure (g a)) := by
  cases hx : x with
  | error f => exact hf f hx
  | ok a => exact hg a hx

theorem runs_getX (w : Word) :
    Runs (getV (fieldX (w.toNat : Int))) m.bare ((m.registers.get w.x).toNat : Int) m.bare :=
  runs_getV w.x

theorem runs_getY (w : Word) :
    Runs (getV (fieldY (w.toNat : Int))) m.bare ((m.registers.get w.y).toNat : Int) m.bare :=
  runs_getV w.y

/-- A checked write of bytes at the index, and on to the next instruction. -/
theorem write_eq (hp : m.registers.pc.toNat ≤ 0xFFE) {value : Work τ (List Int)}
    {data : List UInt8} (hv : Runs value m.bare (numbers data) m.bare) :
    (do
      let data ← value
      writeBlock (← get).index data
      advance false : Work τ Unit) m.bare =
      ending m (m.memory.writeBlock m.registers.index.toNat data >>= fun memory =>
        pure (({ m with memory } : Machine τ).advance false)) := by
  refine ending_of_check (fun f h => ?_) fun memory h => ?_
  · exact hv.refused (runs_get.refused (refused_writeBlock h).bind)
  · exact hv.bind (runs_get.bind (runs_next (runs_writeBlock h) hp))

theorem runs_decimal (b : UInt8) :
    Runs (bytes [(b.toNat : Int) / 100, (b.toNat : Int) / 10 % 10, (b.toNat : Int) % 10]) s
      (numbers (Arithmetic.decimalDigits b)) s :=
  runs_bytes (Arithmetic.decimalDigits b)

theorem runs_slice_v (x : Nibble) :
    slice m.bare.v 0 (x.val + 1 : Int) = numbers (m.registers.upTo x) := by
  have hslice := slice_natCast m.bare.v 0 (x.val + 1)
  rw [List.drop_zero, Machine.bare_v, numbers, ← List.map_take] at hslice
  exact hslice

/-- **Every handler does what the instruction does**, or is refused for the same reason. -/
theorem perform_eq (hm : m.WellFormed) (hp : m.registers.pc.toNat ≤ 0xFFE) (o : Operation)
    (w : Word) :
    perform o (w.toNat : Int) m.bare = ending m (m.execute (o.instruction w)) := by
  have hx := runs_getX (m := m) w
  have hy := runs_getY (m := m) w
  have hnn : fieldNN (w.toNat : Int) = (w.nn.toNat : Int) := by
    rw [Word.nn_toNat]
    rfl
  have hnnn : fieldNNN (w.toNat : Int) = (UInt16.ofNat w.nnn.val).toNat := by
    rw [Machine.toNat_jump]
    rfl
  cases o with
  | clear => exact runs_next runs_clear hp
  | ret =>
    refine ending_of_check (x := m.stack.pop) (fun f h => (refused_pop h).bind) fun a h => ?_
    exact (runs_pop h).bind (runs_jump (Machine.toNat_ofInt (hm.returns.pop h).1).symm)
  | jump => exact runs_jump (m := m) hnnn
  | call =>
    refine ending_of_check (x := m.stack.push (m.registers.pc.toNat + 2))
      (fun f h => runs_get.refused (refused_push h).bind) fun stack h => ?_
    exact runs_get.bind ((runs_push h).bind (runs_jump hnnn))
  | jumpOffset =>
    refine (runs_getV 0).bind (runs_jump ?_)
    rw [hnnn, Machine.toNat_jump, Machine.toNat_jumpOffset]
    rfl
  | skipEqByte =>
    refine runs_skipIf hp (hx.bind (runs_pure _)) ?_
    rw [hnn]
    exact decide_eq_decide.mpr byte_inj
  | skipNeByte =>
    refine runs_skipIf hp (hx.bind (runs_pure _)) ?_
    rw [hnn]
    exact decide_eq_decide.mpr (not_congr byte_inj)
  | skipEq =>
    exact runs_skipIf hp (hx.bind (hy.bind (runs_pure _))) (decide_eq_decide.mpr byte_inj)
  | skipNe =>
    exact runs_skipIf hp (hx.bind (hy.bind (runs_pure _)))
      (decide_eq_decide.mpr (not_congr byte_inj))
  | loadByte =>
    refine runs_assign hp (runs_pure _) ?_
    rw [hnn]
    exact emod_byte w.nn
  | addByte =>
    refine runs_assign hp (hx.bind (runs_pure _)) ?_
    rw [hnn, UInt8.toNat_add]
    rfl
  | copy => exact runs_assign hp hy (emod_byte _)
  | or =>
    refine runs_assign hp (hx.bind (hy.bind (runs_pure _))) ?_
    exact emod_of_eq ((UInt8.toNat_or _ _).symm)
  | and =>
    refine runs_assign hp (hx.bind (hy.bind (runs_pure _))) ?_
    exact emod_of_eq ((UInt8.toNat_and _ _).symm)
  | xor =>
    refine runs_assign hp (hx.bind (hy.bind (runs_pure _))) ?_
    exact emod_of_eq ((UInt8.toNat_xor _ _).symm)
  | add =>
    refine runs_assignFlagged hp (hx.bind (hy.bind (runs_pure _))) ?_
      (emod_flagOf ?_ (Arithmetic.toNat_sum_flag _ _))
    · rw [Arithmetic.sum, UInt8.toNat_add]
      rfl
    · omega
  | sub =>
    exact runs_assignFlagged hp (hx.bind (hy.bind (runs_pure _))) (emod_difference _ _)
      (emod_flagOf Int.ofNat_le (Arithmetic.toNat_difference_flag _ _))
  | subFrom =>
    exact runs_assignFlagged hp (hx.bind (hy.bind (runs_pure _))) (emod_difference _ _)
      (emod_flagOf Int.ofNat_le (Arithmetic.toNat_difference_flag _ _))
  | shiftRight =>
    exact runs_assignFlagged hp (hx.bind (runs_pure _)) (emod_half _) (emod_low _)
  | shiftLeft =>
    exact runs_assignFlagged hp (hx.bind (runs_pure _)) (emod_double _) (emod_top _)
  | loadIndex =>
    refine runs_assignIndex hp (runs_pure _) ?_
    rw [hnnn]
    exact emod_word _
  | random =>
    refine runs_assign (m := { m with random := m.random.draw.2 }) hp
      (runs_randomByte.bind (runs_pure _)) ?_
    rw [hnn]
    exact emod_of_eq ((UInt8.toNat_and _ _).symm)
  | draw =>
    refine ending_of_check (x := m.memory.readBlock m.registers.index.toNat w.n.val)
      (fun f h => runs_get.refused (refused_readBlock h).bind) fun rows h => ?_
    exact runs_get.bind ((runs_readBlock h).bind (hx.bind (hy.bind (runs_sprite hp _ _ rows))))
  | skipPressed => exact runs_skipIf hp (hx.bind (runs_isPressed _)) rfl
  | skipReleased => exact runs_skipIf hp (hx.bind ((runs_isPressed _).bind (runs_pure _))) rfl
  | readDelay => exact runs_assign hp (runs_get.bind (runs_pure _)) (toNat_ofInt8 _).symm
  | awaitKey =>
    exact runs_awaitKey hp w.x
  | setDelay =>
    refine hx.bind (runs_next (n := { m with timers := _ }) (runs_modify rfl) hp)
  | setSound =>
    refine hx.bind (runs_next (n := { m with timers := _ }) (runs_modify rfl) hp)
  | addIndex =>
    refine runs_assignIndex hp (runs_get.bind (hx.bind (runs_pure _))) ?_
    rw [UInt16.toNat_add, UInt8.toNat_toUInt16]
    rfl
  | glyph =>
    refine runs_assignIndex hp (hx.bind (runs_pure _)) ?_
    rw [UInt16.toNat_ofNat']
    rfl
  | decimal =>
    exact hx.apply.trans (write_eq hp (runs_decimal _))
  | store => exact write_eq hp (runs_slice_v w.x ▸ runs_bytes _)
  | load =>
    refine ending_of_check (x := m.memory.readBlock m.registers.index.toNat (w.x.val + 1))
      (fun f h => runs_get.refused (refused_readBlock h).bind) fun data h => ?_
    have hlen : 0 + data.length ≤ 16 := by
      have := w.x.isLt
      have := length_of_readBlock (n := w.x.val + 1) h
      omega
    have hpc : (m.registers.setFrom 0 data).pc.toNat ≤ 0xFFE := by
      rw [Registers.pc_setFrom]
      exact hp
    exact runs_get.bind ((runs_readBlock h).bind
      (runs_next (n := m.withRegisters (·.setFrom 0 data)) (runs_setFrom hlen) hpc))

end Bare

end Chip8
