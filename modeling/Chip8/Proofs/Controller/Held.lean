import Chip8.Controller.Basic
import Chip8.Proofs.Splits
import Mathlib

/-!
# What is held and what is down

A key is held while a button that stands for it is down or the directional pad stands in its
direction (`Held`). The keypad remembers of a key only whether it is down, not who put it there, so
it knows the last event that set the key (`isDown_keypadAfter`) and no more. For most keys only one
button or only the pad can be that event. Keys 2, 4 and 8 belong to a button and to the pad as well,
and the last of the two decides: the pad in its centre lets go of all four of its keys, whoever
holds them.

The pad lets go in its centre only. A key that it came to and left for another direction stays down,
though nothing holds it, until something else sets it.

* `isDown_iff_held`: which keys are down, of those that are held or that the pad was not the last to
  set.
* `released_while_held`: a key can be up though its button is down.
-/

namespace Chip8

/-! ## Events -/

/-- What the newest event that answers to `f` answers. -/
def latest? {α : Type} (f : PadEvent → Option α) (es : List PadEvent) : Option α :=
  es.reverse.findSome? f

theorem latest?_concat {α : Type} (f : PadEvent → Option α) (es : List PadEvent) (e : PadEvent) :
    latest? f (es ++ [e]) = (f e).or (latest? f es) := by
  rw [latest?, List.reverse_append, List.reverse_singleton, List.singleton_append,
    List.findSome?_cons, latest?]
  cases f e <;> rfl

namespace PadEvent

/-- The button went down, or up. -/
def button? (button : Int) : PadEvent → Option Bool
  | buttonDown b => if b = button then some true else none
  | buttonUp b => if b = button then some false else none
  | _ => none

/-- The directional pad moved to this position. -/
def position? : PadEvent → Option (Int × Int)
  | hat x y => some (x, y)
  | _ => none

/-- Which way a position of the directional pad sets a key, if it does. -/
def positionSets? (k : Nibble) (p : Int × Int) : Option Bool :=
  match hatKey p.1 p.2 with
  | some j => if j = k then some true else none
  | none => if (p.1 = 0 ∧ p.2 = 0) ∧ k ∈ hatKeys then some false else none

/-- Which way the event sets a key, if it does. -/
def sets? (k : Nibble) : PadEvent → Option Bool
  | buttonDown b => if buttonKey b = some k then some true else none
  | buttonUp b => if buttonKey b = some k then some false else none
  | hat x y => positionSets? k (x, y)
  | axis => none

/-- The directional pad came to the direction of the key. -/
def ComesTo (k : Nibble) (e : PadEvent) : Prop :=
  ∃ x y, e = hat x y ∧ hatKey x y = some k

theorem sets?_eq_true {k : Nibble} {e : PadEvent} (h : e.sets? k = some true) :
    (∃ b, e = buttonDown b ∧ buttonKey b = some k) ∨ e.ComesTo k := by
  cases e with
  | buttonDown b =>
    rw [sets?] at h
    split at h
    next hb => exact .inl ⟨b, rfl, hb⟩
    next => cases h
  | buttonUp b =>
    rw [sets?] at h
    split at h <;> cases h
  | hat x y =>
    rw [sets?, positionSets?] at h
    dsimp only at h
    cases hxy : hatKey x y with
    | some j =>
      simp only [hxy] at h
      split at h
      next hj => exact .inr ⟨x, y, rfl, hj ▸ hxy⟩
      next => cases h
    | none =>
      simp only [hxy] at h
      split at h <;> cases h
  | axis => cases h

end PadEvent

/-- A button that stands for the key was pressed last. -/
def HeldByButton (es : List PadEvent) (k : Nibble) : Prop :=
  ∃ b, buttonKey b = some k ∧ latest? (PadEvent.button? b) es = some true

/-- The directional pad was moved to the direction of the key last. -/
def HeldByPad (es : List PadEvent) (k : Nibble) : Prop :=
  ∃ p, latest? PadEvent.position? es = some p ∧ hatKey p.1 p.2 = some k

/-- **A key is held** by a button or by the directional pad. -/
def Held (es : List PadEvent) (k : Nibble) : Prop :=
  HeldByButton es k ∨ HeldByPad es k

/-- **The directional pad was the last to set the key**, by coming to its direction. -/
def SetByPad (es : List PadEvent) (k : Nibble) : Prop :=
  ∃ before e since, es = before ++ e :: since ∧ e.ComesTo k ∧ ∀ d ∈ since, d.sets? k = none

/-- The keypad once a host received the calls of the events. -/
def keypadAfter (bound : List Action) (es : List PadEvent) : Keypad :=
  (es.flatMap (eventCalls bound)).foldl Keypad.receive .initial

/-! ## The maps -/

/-- The keys that both a button and a direction stand for. -/
def sharedKeys : List Nibble :=
  [0x2, 0x4, 0x8]

/-- The button that stands for a key. -/
def buttonOf (k : Nibble) : Option Int :=
  match k.val with
  | 0x1 => some 1
  | 0x2 => some 0
  | 0x3 => some 3
  | 0x4 => some 4
  | 0x5 => some 5
  | 0x7 => some 8
  | 0x8 => some 9
  | 0x9 => some 12
  | 0xA => some 13
  | 0xC => some 2
  | 0xD => some 6
  | 0xE => some 7
  | _ => none

variable {b : Int} {k : Nibble}

theorem buttonOf_of_buttonKey (h : buttonKey b = some k) : buttonOf k = some b := by
  unfold buttonKey at h
  split at h <;> cases h <;> rfl

/-- No two buttons stand for one key. -/
theorem buttonKey_injective {c : Int} (hb : buttonKey b = some k) (hc : buttonKey c = some k) :
    b = c :=
  Option.some.inj ((buttonOf_of_buttonKey hb).symm.trans (buttonOf_of_buttonKey hc))

theorem hatKey_mem {x y : Int} (h : hatKey x y = some k) : k ∈ hatKeys := by
  unfold hatKey at h
  split at h <;> cases h <;> decide

theorem mem_sharedKeys_iff : k ∈ sharedKeys ↔ k ∈ hatKeys ∧ ∃ b, buttonKey b = some k := by
  constructor
  · intro h
    have hshared : k = 0x2 ∨ k = 0x4 ∨ k = 0x8 := by simpa [sharedKeys] using h
    rcases hshared with rfl | rfl | rfl
    · exact ⟨by decide, 0, rfl⟩
    · exact ⟨by decide, 4, rfl⟩
    · exact ⟨by decide, 9, rfl⟩
  · rintro ⟨hhat, b, hb⟩
    unfold buttonKey at hb
    split at hb <;> cases hb <;> revert hhat <;> decide

/-! ## What the keypad knows -/

theorem receive_actions (pad : Keypad) (action : Option Action) :
    (action.toList.map PadCall.action).foldl Keypad.receive pad = pad := by
  cases action <;> rfl

theorem isDown_receive_button (pad : Keypad) (bound : List Action) (down : Bool) :
    ((buttonCalls bound b down).foldl Keypad.receive pad).isDown k =
      if buttonKey b = some k then down else pad.isDown k := by
  rw [buttonCalls, List.foldl_append, receive_actions]
  cases hb : buttonKey b with
  | none => rfl
  | some j =>
    simp only [Option.some_inj]
    exact pad.isDown_setKey j k down

theorem isDown_receive_released (pad : Keypad) (ks : List Nibble) :
    ((ks.map (PadCall.key · false)).foldl Keypad.receive pad).isDown k =
      if k ∈ ks then false else pad.isDown k := by
  induction ks generalizing pad with
  | nil => rfl
  | cons j ks ih =>
    rw [List.map_cons, List.foldl_cons, ih, Keypad.receive, Keypad.isDown_setKey]
    by_cases hk : k ∈ ks
    · rw [if_pos hk, if_pos (List.mem_cons_of_mem j hk)]
    · rw [if_neg hk]
      by_cases hj : j = k
      · rw [if_pos hj, if_pos (hj ▸ List.mem_cons_self)]
      · rw [if_neg hj, if_neg fun h => (List.mem_cons.mp h).elim (Ne.symm hj) hk]

/-- **What one event does to a key.** -/
theorem isDown_receive (pad : Keypad) (bound : List Action) (e : PadEvent) :
    ((eventCalls bound e).foldl Keypad.receive pad).isDown k =
      (e.sets? k).getD (pad.isDown k) := by
  cases e with
  | buttonDown b =>
    rw [eventCalls, isDown_receive_button, PadEvent.sets?]
    split <;> rfl
  | buttonUp b =>
    rw [eventCalls, isDown_receive_button, PadEvent.sets?]
    split <;> rfl
  | hat x y =>
    rw [eventCalls, hatCalls, PadEvent.sets?, PadEvent.positionSets?]
    cases hatKey x y with
    | some j =>
      refine (pad.isDown_setKey j k true).trans ?_
      dsimp only
      split <;> rfl
    | none =>
      dsimp only
      by_cases hcentre : x = 0 ∧ y = 0
      · rw [if_pos hcentre, isDown_receive_released]
        simp only [hcentre, and_self, true_and]
        split <;> rfl
      · rw [if_neg hcentre, if_neg fun h => hcentre h.1]
        rfl
  | axis => rfl

/-- **The keypad knows the last event that set a key**, and no more. -/
theorem isDown_keypadAfter (bound : List Action) (es : List PadEvent) (k : Nibble) :
    (keypadAfter bound es).isDown k = true ↔ latest? (PadEvent.sets? k) es = some true := by
  induction es using List.reverseRecOn with
  | nil =>
    have hup : ∀ k, Keypad.initial.isDown k = false := by decide
    exact ⟨fun h => absurd ((hup k).symm.trans h) Bool.false_ne_true, nofun⟩
  | append_singleton es e ih =>
    rw [keypadAfter, List.flatMap_append, List.foldl_append, List.flatMap_singleton,
      isDown_receive, latest?_concat]
    cases e.sets? k with
    | some down => simp
    | none => exact ih

/-! ## What is held -/

/-- One more event: the pad comes to the key, or it was the last to set it and still is. -/
theorem setByPad_concat {es : List PadEvent} {e : PadEvent} :
    SetByPad (es ++ [e]) k ↔ e.ComesTo k ∨ e.sets? k = none ∧ SetByPad es k :=
  exists_since_concat

/-- An event that does not set a key leaves it held by its button. -/
theorem HeldByButton.concat {es : List PadEvent} {e : PadEvent} (h : HeldByButton es k)
    (he : e.sets? k = none) : HeldByButton (es ++ [e]) k := by
  obtain ⟨b, hb, hlatest⟩ := h
  have hbutton : e.button? b = none := by
    cases e with
    | buttonDown c =>
      refine if_neg ?_
      rintro rfl
      rw [PadEvent.sets?, if_pos hb] at he
      cases he
    | buttonUp c =>
      refine if_neg ?_
      rintro rfl
      rw [PadEvent.sets?, if_pos hb] at he
      cases he
    | _ => rfl
  exact ⟨b, hb, by rw [latest?_concat, hbutton]; exact hlatest⟩

/-- What was set to down last is held by its button, or the pad set it. -/
theorem heldByButton_or_setByPad {es : List PadEvent}
    (h : latest? (PadEvent.sets? k) es = some true) : HeldByButton es k ∨ SetByPad es k := by
  induction es using List.reverseRecOn with
  | nil => cases h
  | append_singleton es e ih =>
    rw [latest?_concat] at h
    cases he : e.sets? k with
    | none =>
      rw [he] at h
      exact (ih h).imp (·.concat he) fun hpad => setByPad_concat.mpr (.inr ⟨he, hpad⟩)
    | some down =>
      rw [he] at h
      cases h
      rcases PadEvent.sets?_eq_true he with ⟨b, rfl, hb⟩ | hcomes
      · refine .inl ⟨b, hb, ?_⟩
        rw [latest?_concat, PadEvent.button?, if_pos rfl]
        rfl
      · exact .inr (setByPad_concat.mpr (.inl hcomes))

/-! ## Keys that are not shared -/

/-- What only buttons set is set the way its button went last. -/
theorem latest?_sets_of_button {es : List PadEvent} (hb : buttonKey b = some k)
    (hk : k ∉ hatKeys) : latest? (PadEvent.sets? k) es = latest? (PadEvent.button? b) es := by
  have hbutton : ∀ c, buttonKey c = some k ↔ c = b := fun c =>
    ⟨fun hc => buttonKey_injective hc hb, fun hc => hc ▸ hb⟩
  have hsets : PadEvent.sets? k = PadEvent.button? b := by
    funext e
    cases e with
    | buttonDown c => simp only [PadEvent.sets?, PadEvent.button?, hbutton]
    | buttonUp c => simp only [PadEvent.sets?, PadEvent.button?, hbutton]
    | hat x y =>
      rw [PadEvent.sets?, PadEvent.positionSets?]
      cases hxy : hatKey x y with
      | some j => exact if_neg fun hj : j = k => hk (hj ▸ hatKey_mem hxy)
      | none => exact if_neg fun h => hk h.2
    | axis => rfl
  rw [hsets]

/-- What only the pad sets is set the way that its last position says, if that says anything. -/
theorem latest?_sets_of_position {es : List PadEvent} (hk : ∀ b, buttonKey b ≠ some k)
    {p : Int × Int} {down : Bool} (hp : latest? PadEvent.position? es = some p)
    (hset : PadEvent.positionSets? k p = some down) :
    latest? (PadEvent.sets? k) es = some down := by
  induction es using List.reverseRecOn with
  | nil => cases hp
  | append_singleton es e ih =>
    rw [latest?_concat] at hp ⊢
    cases e with
    | buttonDown b =>
      rw [PadEvent.sets?, if_neg (hk b)]
      exact ih hp
    | buttonUp b =>
      rw [PadEvent.sets?, if_neg (hk b)]
      exact ih hp
    | hat x y =>
      cases hp
      rw [PadEvent.sets?, hset]
      rfl
    | axis => exact ih hp

/-- A key that is not shared is set down by whoever holds it. -/
theorem latest?_sets_of_held {es : List PadEvent} (hk : k ∉ sharedKeys) (h : Held es k) :
    latest? (PadEvent.sets? k) es = some true := by
  rcases h with ⟨b, hb, hlatest⟩ | ⟨p, hp, hkey⟩
  · rw [latest?_sets_of_button hb fun hhat => hk (mem_sharedKeys_iff.mpr ⟨hhat, b, hb⟩)]
    exact hlatest
  · refine latest?_sets_of_position (fun b hb => ?_) hp ?_
    · exact hk (mem_sharedKeys_iff.mpr ⟨hatKey_mem hkey, b, hb⟩)
    · rw [PadEvent.positionSets?, hkey]
      exact if_pos rfl

/-! ## What is held and what is down -/

/-- **Which keys are down**, of those that are held or that the pad was not the last to set by
coming to their direction: those that are held and that the last event to set them put down. So a
key that is not shared between a button and the pad is down just if it is held. -/
theorem isDown_iff_held (bound : List Action) {es : List PadEvent} {k : Nibble}
    (h : Held es k ∨ ¬ SetByPad es k) :
    ((keypadAfter bound es).isDown k = true ↔
        Held es k ∧ latest? (PadEvent.sets? k) es = some true) ∧
      (k ∉ sharedKeys → ((keypadAfter bound es).isDown k = true ↔ Held es k)) := by
  have hdown : (keypadAfter bound es).isDown k = true ↔
      Held es k ∧ latest? (PadEvent.sets? k) es = some true := by
    rw [isDown_keypadAfter]
    refine ⟨fun hlatest => ⟨?_, hlatest⟩, And.right⟩
    rcases h with hheld | hnot
    · exact hheld
    · exact .inl ((heldByButton_or_setByPad hlatest).resolve_right hnot)
  exact ⟨hdown, fun hk => hdown.trans
    ⟨And.left, fun hheld => ⟨hheld, latest?_sets_of_held hk hheld⟩⟩⟩

/-- A button is held, and the pad goes to the direction of its key and back. -/
def letGo : List PadEvent :=
  [.buttonDown 0, .hat 0 (-1), .hat 0 0]

theorem held_letGo : Held letGo 0x2 :=
  .inl ⟨0, rfl, rfl⟩

/-- The pad goes to a direction and on to another, and then the button of the first goes down and
up. -/
def takenOver : List PadEvent :=
  [.hat 0 (-1), .hat 1 0, .buttonDown 0, .buttonUp 0]

/-- The button was the last to set its key. -/
theorem not_setByPad_takenOver : ¬ SetByPad takenOver 0x2 := by
  intro h
  have hlast : SetByPad (takenOver.dropLast ++ [.buttonUp 0]) 0x2 := h
  rcases setByPad_concat.mp hlast with ⟨x, y, hup, -⟩ | ⟨hnone, -⟩
  · cases hup
  · cases hnone

/-- The key of the button that is held is up; a key of another button is as it should be; and so is
the key that the pad left and its button let go of. -/
theorem isDown_iff_held_letGo :
    (Held letGo 0x2 ∧ (keypadAfter [] letGo).isDown 0x2 = false) ∧
      (Held (letGo ++ [.buttonDown 1]) 0x1 ∧ 0x1 ∉ sharedKeys ∧
        (keypadAfter [] (letGo ++ [.buttonDown 1])).isDown 0x1 = true) ∧
      ¬ SetByPad takenOver 0x2 ∧ (keypadAfter [] takenOver).isDown 0x2 = false := by
  have hup := (isDown_iff_held [] (.inl held_letGo)).1
  have hheld : Held (letGo ++ [.buttonDown 1]) 0x1 := .inl ⟨1, rfl, rfl⟩
  have hdown := (isDown_iff_held [] (.inl hheld)).2 (by decide)
  have htaken := (isDown_iff_held [] (.inr not_setByPad_takenOver)).1
  refine ⟨⟨held_letGo, Bool.eq_false_iff.mpr fun h => ?_⟩,
    ⟨hheld, by decide, hdown.mpr hheld⟩,
    not_setByPad_takenOver, Bool.eq_false_iff.mpr fun h => ?_⟩
  · exact absurd (hup.mp h).2 (by decide)
  · exact absurd (htaken.mp h).2 (by decide)

/-- **A key can be up though it is held**: the pad, back in its centre, lets go of a key whose button
is down. -/
theorem released_while_held :
    ¬ ∀ (bound : List Action) (es : List PadEvent) (k : Nibble),
      (keypadAfter bound es).isDown k = true ↔ Held es k := by
  intro hall
  have hdown := (hall [] letGo 0x2).mpr held_letGo
  exact absurd hdown (by decide)

end Chip8
