/-!
# Random bytes

Model of the generator that `_op_rnd` draws from. The machine's random bytes come from the 32-bit
Mersenne twister: 624 words, of which each draw renews one from three others and passes it through a
fixed mixing. The words are filled from a seed read as digits in base `2 ^ 32`, lowest first. A
random byte is the top nine bits of a word, drawn again while they exceed 255.

The top bits of the words obey a linear recurrence of order 19937, so no run of ones in them is
longer than that, and `drawLimit` draws always suffice.

* `nth`: the `k`-th byte that a stream gives.
-/

namespace Chip8

/-- The words of the generator and the place of the next one to renew. -/
structure RandomStream where
  words : Vector UInt32 624
  position : Nat
  deriving DecidableEq

namespace RandomStream

/-- The word at place `i`, counted around. -/
def word (words : Vector UInt32 624) (i : Nat) : UInt32 :=
  words.get ⟨i % 624, Nat.mod_lt _ (by decide)⟩

/-- The words with `value` at place `i`, counted around. -/
def setWord (words : Vector UInt32 624) (i : Nat) (value : UInt32) : Vector UInt32 624 :=
  words.set (i % 624) value (Nat.mod_lt _ (by decide))

/-! ## Seeding -/

/-- The digits of a seed in base `2 ^ 32`, lowest first; zero has one digit. -/
def seedDigits (seed : Nat) : List UInt32 :=
  if h : seed < 0x100000000 then [UInt32.ofNat seed]
  else UInt32.ofNat (seed % 0x100000000) :: seedDigits (seed / 0x100000000)
termination_by seed
decreasing_by omega

/-- Mixes a word with the one before it. -/
def spread (w : UInt32) : UInt32 :=
  w ^^^ (w >>> 30)

/-- The words filled from a single number. -/
def fill (start : UInt32) : Vector UInt32 624 :=
  (List.range' 1 623).foldl
    (fun words i => setWord words i (1812433253 * spread (word words (i - 1)) + UInt32.ofNat i))
    (setWord (Vector.replicate 624 0) 0 start)

/-- The words while a seed is worked in, and the place of the next one to change. -/
structure Seeding where
  words : Vector UInt32 624
  place : Nat

/-- Goes on to the next place; the first word is kept equal to the last one whenever the places
start again. -/
def Seeding.next (s : Seeding) : Seeding :=
  if s.place + 1 ≥ 624 then ⟨setWord s.words 0 (word s.words 623), 1⟩
  else { s with place := s.place + 1 }

/-- Works in one digit of the seed, the `j`-th of its list. -/
def Seeding.addDigit (s : Seeding) (digit : UInt32) (j : Nat) : Seeding :=
  let mixed := (word s.words s.place ^^^ (spread (word s.words (s.place - 1)) * 1664525))
    + digit + UInt32.ofNat j
  Seeding.next { s with words := setWord s.words s.place mixed }

/-- Blurs one word with its place. -/
def Seeding.blur (s : Seeding) : Seeding :=
  let mixed := (word s.words s.place ^^^ (spread (word s.words (s.place - 1)) * 1566083941))
    - UInt32.ofNat s.place
  Seeding.next { s with words := setWord s.words s.place mixed }

/-- The stream of a seed: every digit is worked in at least once and every word changed by at least
one digit; then all words are blurred. The sign of a seed plays no part. -/
def ofSeed (seed : Nat) : RandomStream :=
  let digits := (seedDigits seed).toArray
  let rounds := max 624 digits.size
  let mixed := (List.range rounds).foldl
    (fun s i => s.addDigit (digits[i % digits.size]?.getD 0) (i % digits.size))
    (⟨fill 19650218, 1⟩ : Seeding)
  let blurred := (List.range 623).foldl (fun s _ => s.blur) mixed
  ⟨setWord blurred.words 0 0x80000000, 0⟩

/-! ## Drawing -/

/-- The mixing that a word passes through on its way out. -/
def temper (w : UInt32) : UInt32 :=
  let w := w ^^^ (w >>> 11)
  let w := w ^^^ ((w <<< 7) &&& 0x9D2C5680)
  let w := w ^^^ ((w <<< 15) &&& 0xEFC60000)
  w ^^^ (w >>> 18)

/-- Renews the word at the current place and gives it out. -/
def nextWord (s : RandomStream) : UInt32 × RandomStream :=
  let joined := (word s.words s.position &&& 0x80000000)
    ||| (word s.words (s.position + 1) &&& 0x7FFFFFFF)
  let twisted := (joined >>> 1) ^^^ (if joined &&& 1 = 1 then 0x9908B0DF else 0)
  let renewed := word s.words (s.position + 397) ^^^ twisted
  (temper renewed, ⟨setWord s.words s.position renewed, (s.position + 1) % 624⟩)

/-- Draws until the top nine bits are a byte, at most `limit` times. -/
def drawWithin (limit : Nat) (s : RandomStream) : UInt8 × RandomStream :=
  match limit with
  | 0 => (0, s)
  | limit + 1 =>
    let drawn := s.nextWord
    let value := drawn.1 >>> 23
    if value < 256 then (value.toUInt8, drawn.2) else drawWithin limit drawn.2

/-- As many draws as can be needed for one byte. -/
def drawLimit : Nat := 19938

/-- The next random byte. -/
def draw (s : RandomStream) : UInt8 × RandomStream :=
  drawWithin drawLimit s

/-- The stream after `k` bytes were drawn. -/
def drop (s : RandomStream) : Nat → RandomStream
  | 0 => s
  | k + 1 => (s.drop k).draw.2

/-- The `k`-th byte that a stream gives, counted from zero. -/
def nth (s : RandomStream) (k : Nat) : UInt8 :=
  (s.drop k).draw.1

end RandomStream

end Chip8
