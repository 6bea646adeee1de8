import Chip8.Proofs.Bare.Operations
import Chip8.Proofs.Instruction.ReadBack
import Chip8.Proofs.Machine.Listed

/-!
# What is printed tells what is done

Several words can have one text, because the decoder leaves some digits of a word open and the text
does not show them. Such words do the same: the text of an instruction can be read back, so it shows
the operation and every operand of it; and a handler, though it is given the whole word, looks at no
digit that the text leaves out.

* `Bare.perform_congr`: a handler looks at no digit that the instruction leaves out.
* `Word.Interchangeable`: two words do the same, from whatever state.
* `Word.text_eq_text_iff`: words with one text are one word or do the same.
-/

namespace Chip8

/-- The operation of an instruction, without its operands. -/
def Instruction.operation : Instruction → Operation
  | clear => .clear
  | ret => .ret
  | jump _ => .jump
  | call _ => .call
  | skipEqByte _ _ => .skipEqByte
  | skipNeByte _ _ => .skipNeByte
  | skipEq _ _ => .skipEq
  | loadByte _ _ => .loadByte
  | addByte _ _ => .addByte
  | copy _ _ => .copy
  | or _ _ => .or
  | and _ _ => .and
  | xor _ _ => .xor
  | add _ _ => .add
  | sub _ _ => .sub
  | shiftRight _ => .shiftRight
  | subFrom _ _ => .subFrom
  | shiftLeft _ => .shiftLeft
  | skipNe _ _ => .skipNe
  | loadIndex _ => .loadIndex
  | jumpOffset _ => .jumpOffset
  | random _ _ => .random
  | draw _ _ _ => .draw
  | skipPressed _ => .skipPressed
  | skipReleased _ => .skipReleased
  | readDelay _ => .readDelay
  | awaitKey _ => .awaitKey
  | setDelay _ => .setDelay
  | setSound _ => .setSound
  | addIndex _ => .addIndex
  | glyph _ => .glyph
  | decimal _ => .decimal
  | store _ => .store
  | load _ => .load

theorem Operation.operation_instruction (o : Operation) (w : Word) :
    (o.instruction w).operation = o := by
  cases o <;> rfl

/-! ## Handlers -/

namespace Bare

variable {τ : Type} {u w : Word} {i : Instruction}

/-- The tables find the operation of the instruction that the decoder finds. -/
theorem decode_of_decode (h : Chip8.decode w = some i) :
    (decode (w.toNat : Int) : Work τ (Int × Operation)) = pure ((w.toNat : Int), i.operation) := by
  have hdecodes := decodes (τ := τ) w
  rw [h] at hdecodes
  cases hdecodes with
  | known o hpure => rw [o.operation_instruction w, hpure]

/-- The register fields of a word written with its digits. -/
theorem fields_of_digits {f k : Nat} {x y : Nibble} (hk : k < 16)
    (h : w.toNat = 0x1000 * f + 0x100 * x + 0x10 * y + k) :
    fieldX (w.toNat : Int) = (x.val : Int) ∧ fieldY (w.toNat : Int) = (y.val : Int) := by
  obtain ⟨-, rfl, rfl, -⟩ := Word.n_eq hk h
  exact ⟨rfl, rfl⟩

/-- **A handler looks at no digit that the instruction leaves out.** -/
theorem perform_congr (hu : i.Encodes u.toNat) (hw : i.Encodes w.toNat) :
    (perform i.operation (u.toNat : Int) : Work τ Unit) = perform i.operation (w.toNat : Int) := by
  -- four instructions leave a digit of their words open; of the others each has one word
  cases i with
  | skipEq x y =>
    obtain ⟨j, hj, hu⟩ := hu
    obtain ⟨k, hk, hw⟩ := hw
    obtain ⟨hux, huy⟩ := fields_of_digits (f := 0x5) hj hu
    obtain ⟨hwx, hwy⟩ := fields_of_digits (f := 0x5) hk hw
    show skipIf (do return (← getV (fieldX u.toNat)) = (← getV (fieldY u.toNat))) =
      skipIf (do return (← getV (fieldX w.toNat)) = (← getV (fieldY w.toNat)))
    rw [hux, huy, hwx, hwy]
  | skipNe x y =>
    obtain ⟨j, hj, hu⟩ := hu
    obtain ⟨k, hk, hw⟩ := hw
    obtain ⟨hux, huy⟩ := fields_of_digits (f := 0x9) hj hu
    obtain ⟨hwx, hwy⟩ := fields_of_digits (f := 0x9) hk hw
    show skipIf (do return (← getV (fieldX u.toNat)) ≠ (← getV (fieldY u.toNat))) =
      skipIf (do return (← getV (fieldX w.toNat)) ≠ (← getV (fieldY w.toNat)))
    rw [hux, huy, hwx, hwy]
  | shiftRight x =>
    obtain ⟨y, hu⟩ := hu
    obtain ⟨z, hw⟩ := hw
    obtain ⟨hux, -⟩ := fields_of_digits (f := 0x8) (by decide) hu
    obtain ⟨hwx, -⟩ := fields_of_digits (f := 0x8) (by decide) hw
    show assignFlagged _ (do let vx ← getV (fieldX u.toNat); return (vx / 2, vx % 2)) =
      assignFlagged _ (do let vx ← getV (fieldX w.toNat); return (vx / 2, vx % 2))
    unfold assignFlagged
    rw [hux, hwx]
  | shiftLeft x =>
    obtain ⟨y, hu⟩ := hu
    obtain ⟨z, hw⟩ := hw
    obtain ⟨hux, -⟩ := fields_of_digits (f := 0x8) (by decide) hu
    obtain ⟨hwx, -⟩ := fields_of_digits (f := 0x8) (by decide) hw
    show assignFlagged _ (do let vx ← getV (fieldX u.toNat); return (vx * 2, vx / 0x80)) =
      assignFlagged _ (do let vx ← getV (fieldX w.toNat); return (vx * 2, vx / 0x80))
    unfold assignFlagged
    rw [hux, hwx]
  | _ =>
    have hone : u.toNat = w.toNat := by
      simp only [Instruction.Encodes] at hu hw
      omega
    rw [hone]

end Bare

/-! ## Words with one text -/

namespace Word

/-- **Two words do the same.** -/
structure Interchangeable (u w : Word) : Prop where
  /-- Both have a meaning, one operation with the same operands. -/
  decoded : ∃ i, decode u = some i ∧ decode w = some i
  /-- A machine comes to the same by both, or refuses both with the same fault. -/
  executed : ∀ {τ : Type} (m : Machine τ), m.executeWord u = m.executeWord w
  /-- So does a bare machine in any state at all: the tables find one operation, and its handler,
  which is given the whole word, comes to the same end and leaves the same state. -/
  performed : ∃ o : Operation, ∀ {τ : Type} (s : Bare τ),
    Bare.decode u.toNat s = .ok ((u.toNat : Int), o) s ∧
      Bare.decode w.toNat s = .ok ((w.toNat : Int), o) s ∧
      Bare.perform o u.toNat s = Bare.perform o w.toNat s

theorem text_of_decode {w : Word} {i : Instruction} (h : decode w = some i) : w.text = i.text := by
  rw [text, h]

theorem dataText_injective : Function.Injective dataText := by
  intro u w h
  have hchars := congrArg String.toList h
  simp only [dataText, Hex.lower, String.toList_append, String.toList_ofList] at hchars
  have hvalue := congrArg Hex.value (List.append_cancel_left hchars)
  rw [Hex.value_padLeft, Hex.value_padLeft] at hvalue
  exact UInt16.toNat.inj hvalue

/-- Words of one text have one meaning, unless they have none and are one word. -/
theorem decode_of_text_eq {u w : Word} (h : u.text = w.text) :
    u = w ∨ ∃ i, decode u = some i ∧ decode w = some i := by
  cases hu : decode u with
  | none =>
    have hdata : w.text = u.dataText := h.symm.trans (u.text_eq_dataText_iff.mpr hu)
    cases hw : decode w with
    | none =>
      have hdata' := w.text_eq_dataText_iff.mpr hw
      exact .inl (dataText_injective (hdata.symm.trans hdata'))
    | some j =>
      rw [text_of_decode hw] at hdata
      exact absurd hdata (j.text_ne_dataText u)
  | some i =>
    rw [text_of_decode hu] at h
    cases hw : decode w with
    | none => exact absurd (h.trans (w.text_eq_dataText_iff.mpr hw)) (i.text_ne_dataText w)
    | some j =>
      rw [text_of_decode hw] at h
      obtain rfl := Instruction.text_injective h
      exact .inr ⟨i, rfl, rfl⟩

theorem interchangeable_of_decode {u w : Word} {i : Instruction} (hu : decode u = some i)
    (hw : decode w = some i) : u.Interchangeable w where
  decoded := ⟨i, hu, hw⟩
  executed m := by
    unfold Machine.executeWord
    rw [hu, hw]
  performed := by
    refine ⟨i.operation, fun s => ⟨?_, ?_, ?_⟩⟩
    · rw [Bare.decode_of_decode hu]
      rfl
    · rw [Bare.decode_of_decode hw]
      rfl
    · rw [Bare.perform_congr (encodes_of_decode hu) (encodes_of_decode hw)]

/-- **The text of a word determines what it does.** Two words have the same text exactly if they are
one word, or both have a meaning and do the same: one operation, and from every state the same state
and the same fault or none. -/
theorem text_eq_text_iff (u w : Word) : u.text = w.text ↔ u = w ∨ u.Interchangeable w := by
  constructor
  · intro h
    rcases decode_of_text_eq h with rfl | ⟨i, hu, hw⟩
    · exact .inl rfl
    · exact .inr (interchangeable_of_decode hu hw)
  · rintro (rfl | ⟨⟨i, hu, hw⟩, -, -⟩)
    · rfl
    · rw [text_of_decode hu, text_of_decode hw]

/-- The lowest digit of a comparison is open, that of an addition is not. -/
example : Word.text 0x5123 = Word.text 0x512F ∧ Word.text 0x8124 ≠ Word.text 0x8125 := by
  decide +kernel

end Word

end Chip8
