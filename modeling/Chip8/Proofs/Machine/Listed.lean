import Chip8.Instruction.Listing
import Chip8.Proofs.Machine.Faults

/-!
# What a listing says is what a machine fetches

A listing slices the bytes of an image; a machine reads its words out of a memory that holds as much
of the image as fits, and reports the fault of a word without a meaning. They agree line by line,
for images of every length and every content.

* `Word.text_eq_dataText_iff`: a word is listed as data exactly if it has no meaning.
* `Machine.readWord_load`: what is read where an image was put is the image.
* `Machine.listing_agrees`: the lines of a listing, and what is fetched where each stands.
-/

namespace Chip8

/-! ## The words of a block -/

theorem getElem?_wordsOf (bytes : List UInt8) (k : Nat) (h : 2 * k + 1 < bytes.length) :
    (wordsOf bytes)[k]? = some (Word.ofBytes bytes[2 * k] bytes[2 * k + 1]) := by
  fun_induction wordsOf bytes generalizing k with
  | case1 hi lo rest ih =>
    cases k with
    | zero => rfl
    | succ k =>
      simp only [List.length_cons] at h
      simpa [Nat.mul_add] using ih k (by omega)
  | case2 bytes hshort =>
    rcases bytes with _ | ⟨hi, _ | ⟨lo, rest⟩⟩
    · simp at h
    · simp at h
    · exact absurd rfl (hshort hi lo rest)

/-- A line of a listing is about the pair of bytes where it stands. -/
theorem getElem?_listing (origin : Int) (bytes : List UInt8) (k : Nat)
    (h : 2 * k + 1 < bytes.length) :
    (listing origin bytes)[k]? = some ⟨origin + 2 * k, Word.ofBytes bytes[2 * k] bytes[2 * k + 1],
      (Word.ofBytes bytes[2 * k] bytes[2 * k + 1]).text⟩ := by
  rw [listing, List.getElem?_mapIdx, getElem?_wordsOf bytes k h]
  rfl

/-! ## Assembly and data -/

/-- How a listing shows a word as data. -/
def Word.dataText (w : Word) : String :=
  "DW 0x" ++ Hex.lower 4 w.toNat

theorem Assembly.text_eq_append (line : Assembly) : ∃ rest, line.text = line.name ++ rest := by
  unfold Assembly.text
  split
  · exact ⟨"", String.append_empty.symm⟩
  · exact ⟨_, String.append_assoc⟩

/-- No instruction goes by the name of data. -/
theorem Instruction.take_name (i : Instruction) :
    i.assembly.name.toList.take 2 ≠ ['D', 'W'] ∧ 2 ≤ i.assembly.name.toList.length := by
  cases i <;> simp [assembly]

theorem Instruction.text_ne_dataText (i : Instruction) (w : Word) : i.text ≠ w.dataText := by
  intro h
  obtain ⟨rest, htext⟩ := i.assembly.text_eq_append
  obtain ⟨hname, hlen⟩ := i.take_name
  -- the texts differ in their first two characters, which are those of the names
  have hchars := congrArg String.toList (htext.symm.trans h)
  rw [Word.dataText, String.toList_append, String.toList_append] at hchars
  have hfirst := congrArg (List.take 2) hchars
  rw [List.take_append_of_le_length hlen] at hfirst
  exact hname hfirst

/-- **A word is listed as data exactly if it has no meaning.** -/
theorem Word.text_eq_dataText_iff (w : Word) : w.text = w.dataText ↔ decode w = none := by
  unfold Word.text
  cases decode w with
  | some i => simpa using i.text_ne_dataText w
  | none => simp [dataText]

/-! ## Images in memory -/

/-- The bytes of an image, as far as they fit, stand where programs start. -/
theorem Memory.byte_loadImage (m : Memory) (image : List UInt8) (i : Nat)
    (h : i < image.length) (hfit : i < 3584) :
    (m.loadImage image).byte (0x200 + i) = image[i] := by
  have hlen : (image.take maxImageSize).length = min 3584 image.length := List.length_take
  have hplace : 0x200 + i - programStart = i := by simp only [programStart]; omega
  rw [loadImage, byte_patch _ _ _ _ (by simp only [hlen, programStart, memorySize]; omega),
    if_pos (by simp only [hlen, programStart]; omega), hplace,
    List.getElem?_take_of_lt (show i < maxImageSize from hfit), List.getElem?_eq_getElem h]
  rfl

namespace Machine

variable {τ : Type}

theorem readWord_load [Seconds τ] (m : Machine τ) (image : List UInt8) (name : String) {k : Nat}
    (h : 2 * k + 1 < image.length) (hfit : 2 * k + 1 < 3584) :
    (m.load image name).memory.readWord (0x200 + 2 * k : Nat) =
      .ok (Word.ofBytes image[2 * k] image[2 * k + 1]) := by
  have hhi := Memory.initial.byte_loadImage image (2 * k) (by omega) (by omega)
  have hlo := Memory.initial.byte_loadImage image (2 * k + 1) h hfit
  refine Memory.readWord_eq_ok_iff.mpr ⟨⟨by omega, by omega⟩, ?_⟩
  rw [Int.toNat_natCast, ← hhi, ← hlo]
  rfl

/-! ## Fetching a line -/

/-- The machine about to fetch at an address. -/
def turnedTo (m : Machine τ) (address : Nat) : Machine τ :=
  m.withRegisters (·.jump (UInt16.ofNat address))

/-- **What the machine fetches at an address is what a line lists.** -/
structure FetchesAt (m : Machine τ) (address : Nat) (line : ListingLine) : Prop where
  /-- The word and the text of the line, or else the fault of a word without a meaning, with the
  word and the address. -/
  outcome :
    (∃ d, (m.turnedTo address).fetch = .ok d ∧ d.word = line.word ∧ d.text = line.text) ∨
      (m.turnedTo address).fetch = .error (.unknownOpcode line.word.toNat (some (address : Int)))
  /-- The fault is for those words that are listed as data. -/
  data :
    (m.turnedTo address).fetch = .error (.unknownOpcode line.word.toNat (some (address : Int))) ↔
      line.text = line.word.dataText

/-- A word that can be read is fetched as it is listed, wherever the listing says that it stands. -/
theorem fetchesAt_of_readWord {m : Machine τ} {address : Nat} {w : Word}
    (hread : m.memory.readWord address = .ok w) (hlt : address < 0x10000) (listed : Int) :
    m.FetchesAt address ⟨listed, w, w.text⟩ := by
  have hpc : (m.turnedTo address).registers.pc.toNat = address := UInt16.toNat_ofNat_of_lt hlt
  have hfetch := fetch_of_readWord (m := m.turnedTo address) (w := w) (by rw [hpc]; exact hread)
  rw [hpc] at hfetch
  have hdata := w.text_eq_dataText_iff
  cases hd : decode w with
  | none =>
    rw [decoded?, hd] at hfetch
    exact ⟨.inr hfetch, fun _ => hdata.mpr hd, fun _ => hfetch⟩
  | some i =>
    rw [decoded?, hd] at hfetch
    have htext : i.text = w.text := by rw [Word.text, hd]
    refine ⟨.inl ⟨⟨w, i⟩, hfetch, rfl, htext⟩, ?_⟩
    rw [hfetch, hdata, hd]
    simp

/-- **Listing and machine agree.** The lines of a listing are as many as the image has pairs of
bytes, each with its place from the origin, its word and the text of the word; and a machine that
has just loaded the image, under whatever name, fetches at each place what the line lists, as far as
the image fits. -/
theorem listing_agrees [Seconds τ] (m : Machine τ) (image : List UInt8) (name : String)
    (origin : Int) :
    (listing origin image).length = image.length / 2 ∧
    (∀ k (h : 2 * k + 1 < image.length), ∃ w : Word,
      w.toNat = 256 * image[2 * k].toNat + image[2 * k + 1].toNat ∧
        (listing origin image)[k]? = some ⟨origin + 2 * k, w, w.text⟩) ∧
    ∀ k, 2 * k + 1 < min image.length 3584 → ∃ line, (listing origin image)[k]? = some line ∧
      (m.load image name).FetchesAt (0x200 + 2 * k) line := by
  refine ⟨length_listing origin image, fun k h => ?_, fun k h => ?_⟩
  · exact ⟨_, ofBytes_toNat _ _, getElem?_listing origin image k h⟩
  · obtain ⟨hlen, hfit⟩ := Nat.lt_min.mp h
    exact ⟨_, getElem?_listing origin image k hlen,
      fetchesAt_of_readWord (m.readWord_load image name hlen hfit) (by omega) _⟩

/-- A register loaded, a word without a meaning, and a byte to spare. -/
def strayWord : List UInt8 := [0x60, 0x05, 0x80, 0x08, 0x12]

theorem listing_agrees_strayWord :
    2 * 1 + 1 < min strayWord.length 3584 ∧ (listing 0x300 strayWord).length = 2 ∧
      (listing 0x300 strayWord)[1]? = some ⟨0x302, 0x8008, "DW 0x8008"⟩ ∧
      (((initial 0 : Machine Rat).load strayWord "").turnedTo 0x202).fetch =
        .error (.unknownOpcode 0x8008 (some 0x202)) := by
  have hk : 2 * 1 + 1 < min strayWord.length 3584 := by decide
  have hlisted : (listing 0x300 strayWord)[1]? = some ⟨0x302, 0x8008, "DW 0x8008"⟩ := by
    decide +kernel
  obtain ⟨hlen, -, hfetch⟩ := listing_agrees (initial 0 : Machine Rat) strayWord "" 0x300
  obtain ⟨line, hline, hagrees⟩ := hfetch 1 hk
  cases Option.some.inj (hlisted.symm.trans hline)
  exact ⟨hk, hlen, hlisted, hagrees.data.mpr (by decide +kernel)⟩

end Machine

end Chip8
