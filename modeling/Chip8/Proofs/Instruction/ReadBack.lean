import Chip8.Instruction.Basic
import Mathlib.Algebra.Group.Nat.Defs
import Mathlib.Data.List.Basic

/-!
# Assembly text read back

An assembly line can be read back: its words are the name and the operands, every operand shows by
its form what it is, and the name with the kinds of its operands tells the operation. So no two
instructions are written alike, and none loses an operand when it is written.

* `Hex.value_padLeft`: a number is read back from its digits, padded or not.
* `Operand.read_text`, `Assembly.read_text`: so are operands and lines.
* `Instruction.ofText?_text`: and whole instructions.
-/

namespace Chip8

namespace Hex

/-- The value of a digit of base sixteen, in either case. -/
def digitValue (c : Char) : Nat :=
  "0123456789abcdef".toList.idxOf c.toLower

/-- The number that digits of base sixteen stand for, most significant first. -/
def value (cs : List Char) : Nat :=
  cs.foldl (fun v c => 16 * v + digitValue c) 0

theorem digitValue_digitChar : ∀ d < 16, digitValue d.digitChar = d := by
  decide

/-- The digits of a number are one digit, or those of its sixteenth and one more. -/
theorem digits_induction {P : Nat → List Char → Prop} (single : ∀ d < 16, P d [d.digitChar])
    (append : ∀ n cs, P n cs → ∀ d < 16, P (16 * n + d) (cs ++ [d.digitChar])) (n : Nat) :
    P n (digits n) := by
  induction n using Nat.strongRecOn with
  | ind n ih =>
    unfold digits at *
    rw [Nat.toDigits_eq_if (by decide)]
    split
    · rename_i hlt
      exact single n hlt
    · rename_i hge
      have hmore := append _ _ (ih (n / 16) (by omega)) (n % 16) (Nat.mod_lt n (by decide))
      rwa [Nat.div_add_mod] at hmore

theorem value_digits (n : Nat) : value (digits n) = n := by
  refine digits_induction (P := fun n cs => value cs = n) ?_ ?_ n
  · intro d hd
    simp [value, digitValue_digitChar d hd]
  · intro n cs hcs d hd
    unfold value at hcs ⊢
    rw [List.foldl_append, hcs]
    simp [digitValue_digitChar d hd]

theorem mem_digits {c : Char} {n : Nat} : c ∈ digits n → ∃ d < 16, c = d.digitChar := by
  refine digits_induction (P := fun _ cs => c ∈ cs → ∃ d < 16, c = d.digitChar) ?_ ?_ n
  · intro d hd hc
    exact ⟨d, hd, List.mem_singleton.mp hc⟩
  · intro n cs hcs d hd hc
    rcases List.mem_append.mp hc with hhigh | hlow
    · exact hcs hhigh
    · exact ⟨d, hd, List.mem_singleton.mp hlow⟩

/-- Zeros in front do not count. -/
theorem value_padLeft (width n : Nat) : value (padLeft width (digits n)) = n := by
  have hzeros : ∀ k, (List.replicate k '0').foldl (fun v c => 16 * v + digitValue c) 0 = 0 := by
    intro k
    induction k with
    | zero => rfl
    | succ k ih =>
      rw [List.replicate_succ, List.foldl_cons]
      exact ih
  unfold padLeft value
  rw [List.foldl_append, hzeros]
  exact value_digits n

theorem length_padLeft_digits {width n : Nat} (hpos : 0 < width) (h : n < 16 ^ width) :
    (padLeft width (digits n)).length = width := by
  have hle : (digits n).length ≤ width := (Nat.length_toDigits_le_iff (by decide) hpos).mpr h
  rw [length_padLeft]
  omega

end Hex

/-! ## Separators -/

/-- Is the character one of those that stand between the words of a line? -/
def isSeparator (c : Char) : Bool :=
  c == ' ' || c == ','

theorem forall_of_any {cs : List Char} (h : cs.any isSeparator = false) :
    ∀ c ∈ cs, isSeparator c = false := by
  simpa using h

theorem isSeparator_digitChar : ∀ d < 16, isSeparator d.digitChar = false := by
  decide

theorem isSeparator_padLeft {c : Char} {width n : Nat}
    (h : c ∈ Hex.padLeft width (Hex.digits n)) : isSeparator c = false := by
  rcases List.mem_append.mp h with hzero | hdigit
  · rw [List.eq_of_mem_replicate hzero]
    rfl
  · obtain ⟨d, hd, rfl⟩ := Hex.mem_digits hdigit
    exact isSeparator_digitChar d hd

/-! ## Operands -/

namespace Operand

/-- The operand that a word is: a register, a constant by its number of digits, a count, or else the
name of a part. -/
def read : List Char → Operand
  | ['V', a] => .reg (Fin.ofNat 16 (Hex.digitValue a))
  | ['0', 'x', a, b] => .byte (UInt8.ofNat (Hex.value [a, b]))
  | ['0', 'x', a, b, c] => .addr (Fin.ofNat 4096 (Hex.value [a, b, c]))
  | cs =>
    if cs.all Char.isDigit then .count (Fin.ofNat 16 (Nat.ofDigitChars 10 cs 0))
    else .named (String.ofList cs)

/-- A part that is named goes by one of the names in use. -/
def Plain : Operand → Prop
  | .named name => name ∈ ["I", "DT", "ST", "K", "F", "B", "[I]"]
  | _ => True

theorem toList_reg (x : Nibble) :
    (reg x).text.toList = 'V' :: Hex.padLeft 1 ((Hex.digits x.val).map Char.toUpper) := by
  have hnonneg : ¬ ((x.val : Int) < 0) := by omega
  simp [text, Hex.upper, hnonneg]

theorem toList_byte (v : UInt8) :
    (byte v).text.toList = '0' :: 'x' :: Hex.padLeft 2 (Hex.digits v.toNat) := by
  simp [text, Hex.lower]

theorem toList_addr (a : Address) :
    (addr a).text.toList = '0' :: 'x' :: Hex.padLeft 3 (Hex.digits a.val) := by
  simp [text, Hex.lower]

theorem toList_count (n : Nibble) : (count n).text.toList = Nat.toDigits 10 n.val := by
  simp [text]

/-- **An operand is read back from its text.** -/
theorem read_text {o : Operand} (h : o.Plain) : read o.text.toList = o := by
  cases o with
  | reg x =>
    rw [toList_reg]
    clear h
    revert x
    decide
  | byte v =>
    have hvalue := Hex.value_padLeft 2 v.toNat
    have hlen : (Hex.padLeft 2 (Hex.digits v.toNat)).length = 2 :=
      Hex.length_padLeft_digits (by decide) v.toNat_lt
    obtain ⟨a, b, hab⟩ := List.length_eq_two.mp hlen
    rw [toList_byte, hab]
    rw [hab] at hvalue
    simp [read, hvalue]
  | addr a =>
    have hvalue := Hex.value_padLeft 3 a.val
    have hlen : (Hex.padLeft 3 (Hex.digits a.val)).length = 3 :=
      Hex.length_padLeft_digits (by decide) a.isLt
    obtain ⟨b, c, d, hbcd⟩ := List.length_eq_three.mp hlen
    rw [toList_addr, hbcd]
    rw [hbcd] at hvalue
    simp [read, hvalue]
  | count n =>
    rw [toList_count]
    clear h
    revert n
    decide
  | named name =>
    simp only [Plain, List.mem_cons, List.not_mem_nil, or_false] at h
    rcases h with rfl | rfl | rfl | rfl | rfl | rfl | rfl <;> rfl

/-- No separator stands within an operand. -/
theorem isSeparator_text {o : Operand} (h : o.Plain) :
    ∀ c ∈ o.text.toList, isSeparator c = false := by
  cases o with
  | reg x =>
    rw [toList_reg]
    refine forall_of_any ?_
    clear h
    revert x
    decide
  | byte v =>
    rw [toList_byte, List.forall_mem_cons, List.forall_mem_cons]
    exact ⟨rfl, rfl, fun c hc => isSeparator_padLeft hc⟩
  | addr a =>
    rw [toList_addr, List.forall_mem_cons, List.forall_mem_cons]
    exact ⟨rfl, rfl, fun c hc => isSeparator_padLeft hc⟩
  | count n =>
    rw [toList_count]
    refine forall_of_any ?_
    clear h
    revert n
    decide
  | named name =>
    simp only [Plain, List.mem_cons, List.not_mem_nil, or_false] at h
    refine forall_of_any ?_
    rcases h with rfl | rfl | rfl | rfl | rfl | rfl | rfl <;> rfl

end Operand

/-! ## Lines -/

/-- Text without commas, where they stand between parts that have none. -/
theorem filter_intercalate (parts : List (List Char))
    (h : ∀ part ∈ parts, ∀ c ∈ part, isSeparator c = false) :
    ([',', ' '].intercalate parts).filter (· ≠ ',') = [' '].intercalate parts := by
  have hpart : ∀ part ∈ parts, part.filter (· ≠ ',') = part := by
    intro part hmem
    refine List.filter_eq_self.mpr fun c hc => ?_
    have hchar := h part hmem c hc
    simp only [isSeparator, Bool.or_eq_false_iff, beq_eq_false_iff_ne] at hchar
    simpa using hchar.2
  clear h
  induction parts with
  | nil => rfl
  | cons part parts ih =>
    have hfirst := hpart part List.mem_cons_self
    have hrest := ih fun part hmem => hpart part (List.mem_cons_of_mem _ hmem)
    cases parts with
    | nil => simpa using hfirst
    | cons next parts =>
      rw [List.intercalate_cons_cons, List.intercalate_cons_cons, List.filter_append,
        List.filter_append, hfirst, hrest]
      rfl

namespace Assembly

/-- The line that a text is: its words, without the commas, are the name and the operands. -/
def read (cs : List Char) : Assembly :=
  match (cs.filter (· ≠ ',')).splitOn ' ' with
  | [] => ⟨"", []⟩
  | name :: operands => ⟨String.ofList name, operands.map Operand.read⟩

/-- The name has no separators and every part that is named goes by one of the names in use. -/
structure Plain (line : Assembly) : Prop where
  name : ∀ c ∈ line.name.toList, isSeparator c = false
  operands : ∀ o ∈ line.operands, o.Plain

/-- The words of a line. -/
def words (line : Assembly) : List (List Char) :=
  line.name.toList :: line.operands.map fun o => o.text.toList

variable {line : Assembly}

theorem Plain.isSeparator_words (h : line.Plain) :
    ∀ word ∈ line.words, ∀ c ∈ word, isSeparator c = false := by
  unfold words
  rw [List.forall_mem_cons, List.forall_mem_map]
  exact ⟨h.name, fun o ho => Operand.isSeparator_text (h.operands o ho)⟩

/-- Without its commas, a line is its words with blanks between them. -/
theorem Plain.filter_text (h : line.Plain) :
    line.text.toList.filter (· ≠ ',') = [' '].intercalate line.words := by
  have hparts := h.isSeparator_words
  unfold words at hparts ⊢
  rw [List.forall_mem_cons] at hparts
  obtain ⟨hname, hoperands⟩ := hparts
  have hfirst := filter_intercalate [line.name.toList] (by simpa using hname)
  have hrest := filter_intercalate _ hoperands
  rw [List.intercalate_singleton, List.intercalate_singleton] at hfirst
  unfold text
  cases ho : line.operands with
  | nil => simpa using hfirst
  | cons o os =>
    have hlist : (", ".intercalate ((o :: os).map Operand.text)).toList =
        [',', ' '].intercalate ((o :: os).map fun o => o.text.toList) := by
      rw [String.toList_intercalate, List.map_map]
      rfl
    rw [ho] at hrest
    simp only [String.toList_append, List.filter_append]
    rw [hlist, hfirst, hrest, List.map_cons, List.intercalate_cons_cons]
    rfl

/-- **A line is read back from its text.** -/
theorem Plain.read_text (h : line.Plain) : read line.text.toList = line := by
  have hwords : ([' '].intercalate line.words).splitOn ' ' = line.words :=
    List.splitOn_intercalate ' ' (fun word hword hblank =>
      absurd (h.isSeparator_words word hword ' ' hblank) (by decide)) (List.cons_ne_nil _ _)
  have hoperands : (line.operands.map fun o => o.text.toList).map Operand.read = line.operands := by
    rw [List.map_map]
    conv_rhs => rw [← List.map_id line.operands]
    exact List.map_congr_left fun o ho => Operand.read_text (h.operands o ho)
  unfold read
  rw [h.filter_text, hwords, words]
  simp only [hoperands, String.ofList_toList]

/-- The instruction that a line stands for. -/
def instruction? : Assembly → Option Instruction
  | ⟨"CLS", []⟩ => some .clear
  | ⟨"RET", []⟩ => some .ret
  | ⟨"JP", [.addr target]⟩ => some (.jump target)
  | ⟨"JP", [.reg 0, .addr target]⟩ => some (.jumpOffset target)
  | ⟨"CALL", [.addr target]⟩ => some (.call target)
  | ⟨"SE", [.reg x, .byte value]⟩ => some (.skipEqByte x value)
  | ⟨"SE", [.reg x, .reg y]⟩ => some (.skipEq x y)
  | ⟨"SNE", [.reg x, .byte value]⟩ => some (.skipNeByte x value)
  | ⟨"SNE", [.reg x, .reg y]⟩ => some (.skipNe x y)
  | ⟨"LD", [.reg x, .byte value]⟩ => some (.loadByte x value)
  | ⟨"LD", [.reg x, .reg y]⟩ => some (.copy x y)
  | ⟨"LD", [.named "I", .addr target]⟩ => some (.loadIndex target)
  | ⟨"LD", [.reg x, .named "DT"]⟩ => some (.readDelay x)
  | ⟨"LD", [.reg x, .named "K"]⟩ => some (.awaitKey x)
  | ⟨"LD", [.reg x, .named "[I]"]⟩ => some (.load x)
  | ⟨"LD", [.named "DT", .reg x]⟩ => some (.setDelay x)
  | ⟨"LD", [.named "ST", .reg x]⟩ => some (.setSound x)
  | ⟨"LD", [.named "F", .reg x]⟩ => some (.glyph x)
  | ⟨"LD", [.named "B", .reg x]⟩ => some (.decimal x)
  | ⟨"LD", [.named "[I]", .reg x]⟩ => some (.store x)
  | ⟨"ADD", [.reg x, .byte value]⟩ => some (.addByte x value)
  | ⟨"ADD", [.reg x, .reg y]⟩ => some (.add x y)
  | ⟨"ADD", [.named "I", .reg x]⟩ => some (.addIndex x)
  | ⟨"OR", [.reg x, .reg y]⟩ => some (.or x y)
  | ⟨"AND", [.reg x, .reg y]⟩ => some (.and x y)
  | ⟨"XOR", [.reg x, .reg y]⟩ => some (.xor x y)
  | ⟨"SUB", [.reg x, .reg y]⟩ => some (.sub x y)
  | ⟨"SUBN", [.reg x, .reg y]⟩ => some (.subFrom x y)
  | ⟨"SHR", [.reg x]⟩ => some (.shiftRight x)
  | ⟨"SHL", [.reg x]⟩ => some (.shiftLeft x)
  | ⟨"RND", [.reg x, .byte mask]⟩ => some (.random x mask)
  | ⟨"DRW", [.reg x, .reg y, .count height]⟩ => some (.draw x y height)
  | ⟨"SKP", [.reg x]⟩ => some (.skipPressed x)
  | ⟨"SKNP", [.reg x]⟩ => some (.skipReleased x)
  | _ => none

end Assembly

/-! ## Instructions -/

namespace Instruction

theorem plain_assembly (i : Instruction) : i.assembly.Plain := by
  cases i <;> constructor <;> simp [assembly, Operand.Plain, isSeparator]

theorem instruction?_assembly (i : Instruction) : i.assembly.instruction? = some i := by
  cases i <;> rfl

/-- The instruction that is written so. -/
def ofText? (s : String) : Option Instruction :=
  (Assembly.read s.toList).instruction?

/-- **An instruction is read back from its text.** -/
theorem ofText?_text (i : Instruction) : ofText? i.text = some i := by
  rw [ofText?, text, i.plain_assembly.read_text, instruction?_assembly]

/-- **No two instructions are written alike.** -/
theorem text_injective : Function.Injective text := by
  intro i j h
  have hread := congrArg ofText? h
  rw [ofText?_text, ofText?_text] at hread
  exact Option.some.inj hread

end Instruction

end Chip8
