import Chip8.Keypad
import Chip8.Proofs.Splits

/-!
# The keys and what happened to them

The keypad is searched from its last key downwards, so the first find is the greatest key that is
down. A keypad has no memory but which keys are down, and that is all there is to know of its past:
a key is down just if the last event with its code was a press, and a reset wipes the past out.
Codes that no key has are heard by no key, not by the one that the same code would ask about.

* `Keypad.highestPressed_eq_some_iff`, `Keypad.highestPressed_eq_none_iff`: what the search finds.
* `Keypad.isDown_after_iff`: which keys are down after a sequence of events.
* `Keypad.keys_of_history`: what a keypad answers after it.
-/

namespace Chip8

/-! ## The greatest key that is down -/

namespace Keypad

/-- In a falling list, what is found first is the greatest that could be found. -/
theorem le_of_find?_eq_some {p : Nibble → Bool} {l : List Nibble} (hl : l.Pairwise (· > ·))
    {k : Nibble} (h : l.find? p = some k) : ∀ j ∈ l, p j = true → j ≤ k := by
  induction l with
  | nil => intro j hj; exact absurd hj List.not_mem_nil
  | cons a l ih =>
    obtain ⟨ha, hl⟩ := List.pairwise_cons.mp hl
    intro j hj hpj
    rw [List.find?_cons] at h
    cases hpa : p a with
    | true =>
      rw [hpa] at h
      cases h
      rcases List.mem_cons.mp hj with rfl | hj
      · exact Nat.le_refl _
      · exact Nat.le_of_lt (ha j hj)
    | false =>
      rw [hpa] at h
      rcases List.mem_cons.mp hj with rfl | hj
      · rw [hpa] at hpj
        cases hpj
      · exact ih hl h j hj hpj

theorem highestPressed_eq_none_iff {pad : Keypad} :
    pad.highestPressed = none ↔ ∀ k, pad.isDown k = false := by
  simp [highestPressed]

/-- **The search finds the greatest key that is down.** -/
theorem highestPressed_eq_some_iff {pad : Keypad} {k : Nibble} :
    pad.highestPressed = some k ↔
      pad.isDown k = true ∧ ∀ j, pad.isDown j = true → j ≤ k := by
  have hfall : ((List.finRange 16).reverse : List Nibble).Pairwise (· > ·) := by decide
  have hmax : ∀ {i}, pad.highestPressed = some i →
      pad.isDown i = true ∧ ∀ j, pad.isDown j = true → j ≤ i := fun h =>
    ⟨List.find?_some h, fun j => le_of_find?_eq_some hfall h j (by simp)⟩
  constructor
  · exact hmax
  · rintro ⟨hk, hle⟩
    cases h : pad.highestPressed with
    | none =>
      rw [highestPressed_eq_none_iff.mp h k] at hk
      cases hk
    | some i =>
      obtain ⟨hi, hlei⟩ := hmax h
      exact congrArg some (Fin.le_antisymm (hle i hi) (hlei k hk))

/-- Asking about a code asks about the key it falls on. -/
theorem isPressed_natCast (pad : Keypad) (k : Nat) :
    pad.isPressed k = pad.isDown (Fin.ofNat 16 k) := by
  unfold isPressed
  congr 1

end Keypad

/-! ## Events -/

/-- What happens to a keypad. -/
inductive KeyEvent where
  | down (code : Int)
  | up (code : Int)
  | set (code : Int) (pressed : Bool)
  | reset
  deriving DecidableEq, Repr

namespace KeyEvent

/-- The code that an event is about. -/
def code? : KeyEvent → Option Int
  | down code => some code
  | up code => some code
  | set code _ => some code
  | reset => none

/-- The event is a press. -/
def presses : KeyEvent → Bool
  | down _ => true
  | up _ => false
  | set _ pressed => pressed
  | reset => false

end KeyEvent

/-- **The last event since the last reset whose code is exactly `code` was a press.** -/
def PressedLast (es : List KeyEvent) (code : Int) : Prop :=
  ∃ before e after, es = before ++ e :: after ∧ (e.code? = some code ∧ e.presses = true) ∧
    ∀ later ∈ after, later ≠ .reset ∧ later.code? ≠ some code

theorem not_pressedLast_nil (code : Int) : ¬ PressedLast [] code := by
  rintro ⟨before, e, after, h, -⟩
  exact List.append_ne_nil_of_right_ne_nil before (List.cons_ne_nil e after) h.symm

/-- One more event: a press of the code, or one that leaves the code alone. -/
theorem pressedLast_concat {es : List KeyEvent} {e : KeyEvent} {code : Int} :
    PressedLast (es ++ [e]) code ↔
      (e.code? = some code ∧ e.presses = true) ∨
        (e ≠ .reset ∧ e.code? ≠ some code) ∧ PressedLast es code :=
  exists_since_concat

namespace Keypad

/-- The keypad after an event. -/
def happen (pad : Keypad) : KeyEvent → Keypad
  | .down code => pad.setKey code true
  | .up code => pad.setKey code false
  | .set code pressed => pad.setKey code pressed
  | .reset => initial

/-- A new keypad after a sequence of events. -/
def after (es : List KeyEvent) : Keypad :=
  es.foldl happen initial

variable {pad : Keypad} {code : Int} {k : Nibble} {e : KeyEvent}

/-! ## One event -/

/-- A code that no key has changes nothing. -/
theorem setKey_of_stray (h : ¬ (0 ≤ code ∧ code < 16)) (down : Bool) :
    pad.setKey code down = pad := by
  rw [setKey, key?, dif_neg h]

/-- A code sets the key that has it, and no other. -/
theorem isDown_setKey_code (pad : Keypad) (code : Int) (down : Bool) (k : Nibble) :
    (pad.setKey code down).isDown k = if code = k.val then down else pad.isDown k := by
  by_cases hcode : 0 ≤ code ∧ code < 16
  · lift code to Nat using hcode.1
    have hlt : code < 16 := by omega
    have hset := pad.isDown_setKey ⟨code, hlt⟩ k down
    rw [hset]
    simp only [Fin.ext_iff, Int.natCast_inj]
  · have hk := k.isLt
    rw [setKey_of_stray hcode, if_neg (by omega)]

theorem happen_of_code (pad : Keypad) (h : e.code? = some code) :
    pad.happen e = pad.setKey code e.presses := by
  cases e <;> cases h <;> rfl

@[simp] theorem isDown_initial (k : Nibble) : initial.isDown k = false := by
  simp [initial, isDown, Vector.get]

/-- **What an event does to a key.** -/
theorem isDown_happen_iff :
    (pad.happen e).isDown k = true ↔
      (e.code? = some (k.val : Int) ∧ e.presses = true) ∨
        (e ≠ .reset ∧ e.code? ≠ some (k.val : Int)) ∧ pad.isDown k = true := by
  cases hcode : e.code? with
  | none =>
    have hreset : e = .reset := by cases e <;> first | rfl | cases hcode
    subst hreset
    simp [happen]
  | some code =>
    have hreset : e ≠ .reset := by
      rintro rfl
      cases hcode
    rw [happen_of_code pad hcode, isDown_setKey_code]
    by_cases hk : code = k.val
    · simp [hk]
    · simp [hk, hreset]

/-! ## Sequences of events -/

/-- **A key is down just if the last event with its code was a press**, and no reset came since. -/
theorem isDown_after_iff (es : List KeyEvent) (k : Nibble) :
    (after es).isDown k = true ↔ PressedLast es k.val := by
  induction es using List.reverseRecOn with
  | nil => simp [after, not_pressedLast_nil]
  | append_singleton es e ih =>
    have hlast : after (es ++ [e]) = (after es).happen e := List.foldl_append
    rw [hlast, isDown_happen_iff, pressedLast_concat, ih]

/-- **A keypad is its history.** A key is down just if the last event with its code since the last
reset was a press; an event with a code that no key has changes nothing, whichever key the code
falls on; a question about a code is one about that code modulo sixteen; and the greatest key is the
greatest of those that were pressed last. -/
theorem keys_of_history (es : List KeyEvent) :
    (∀ k, (after es).isDown k = true ↔ PressedLast es k.val) ∧
    (∀ e code, e.code? = some code → ¬ (0 ≤ code ∧ code < 16) → (after es).happen e = after es) ∧
    (∀ code, (after es).isPressed code = true ↔ PressedLast es (code % 16)) ∧
    (∀ k, (after es).highestPressed = some k ↔
      PressedLast es k.val ∧ ∀ j : Nibble, PressedLast es j.val → j ≤ k) ∧
    ((after es).highestPressed = none ↔ ∀ k : Nibble, ¬ PressedLast es k.val) := by
  have hdown := isDown_after_iff es
  refine ⟨hdown, fun e code hcode hstray => ?_, fun code => ?_, fun k => ?_, ?_⟩
  · rw [happen_of_code _ hcode, setKey_of_stray hstray]
  · have hkey : (((code % 16).toNat : Nat) : Int) = code % 16 := by omega
    rw [isPressed, hdown, hkey]
  · simp only [highestPressed_eq_some_iff, hdown]
  · simp only [highestPressed_eq_none_iff, ← Bool.not_eq_true, hdown]

/-- A press of key 3 that a stray code does not touch, and one of key 5 before the reset. -/
example :
    let pad := after [.down 5, .reset, .down 3, .up 19, .set (-13) false]
    pad.isPressed 19 = true ∧ pad.isPressed 5 = false ∧ pad.highestPressed = some 3 := by
  decide

end Keypad

end Chip8
