import Chip8.Controller.Polling
import Mathlib.Data.List.DropRight

/-!
# The delivery of a controller's events

Events wait in a queue and are handed on in the rounds that find a controller plugged in, all that
wait at once. So the rounds of polling fall into two: those up to the last one that found a
controller (`heard`), whose events were all handed on, in the order in which they came up, and those
since then (`unheard`), whose events all wait. A controller is opened where a round that finds one
follows a round that found none (`arrivals`).

What one round does is `round_spec`, and what it adds to the account of the rounds before it is
`delivered_round`. What waits before the first round came up in a round that found nothing.

* `rounds_delivered`: every event is delivered once and in order, whatever is plugged in and out.
-/

namespace Chip8

/-- **What an event says of the keys**: a button that stands for a key moves it, a direction puts
its key down, and the directional pad in its centre lets go of its four. -/
def PadEvent.keyChanges : PadEvent → List (Nibble × Bool)
  | buttonDown button => (buttonKey button).toList.map (·, true)
  | buttonUp button => (buttonKey button).toList.map (·, false)
  | hat x y =>
    match hatKey x y with
    | some k => [(k, true)]
    | none => if x = 0 ∧ y = 0 then hatKeys.map (·, false) else []
  | axis => []

namespace PadCall

/-- The change of a key that the call asks for. -/
def keyChange? : PadCall → Option (Nibble × Bool)
  | key k down => some (k, down)
  | _ => none

/-- The number of the joystick that the call asks to open. -/
def opened? : PadCall → Option Nat
  | openJoystick index => some index
  | _ => none

end PadCall

/-- What a host makes of the calls of an event, if it makes nothing of actions, it can make of what
the event says of the keys. -/
theorem filterMap_eventCalls {α : Type} (f : PadCall → Option α) (hf : ∀ a, f (.action a) = none)
    (bound : List Action) (e : PadEvent) :
    (eventCalls bound e).filterMap f = e.keyChanges.filterMap fun c => f (.key c.1 c.2) := by
  have hactions : ∀ action : Option Action,
      (action.toList.map PadCall.action).filterMap f = [] := by
    intro action
    cases action with
    | none => rfl
    | some a => exact List.filterMap_cons_none (hf a)
  have hbutton : ∀ button down, (buttonCalls bound button down).filterMap f =
      ((buttonKey button).toList.map (·, down)).filterMap fun c => f (.key c.1 c.2) := by
    intro button down
    rw [buttonCalls, List.filterMap_append, hactions]
    cases buttonKey button <;> rfl
  cases e with
  | buttonDown button => exact hbutton button true
  | buttonUp button => exact hbutton button false
  | hat x y =>
    rw [eventCalls, hatCalls, PadEvent.keyChanges]
    cases hatKey x y with
    | some k => rfl
    | none =>
      dsimp only
      split <;> rfl
  | axis => rfl

theorem keyChanges_events (bound : List Action) (es : List PadEvent) :
    (es.flatMap (eventCalls bound)).filterMap PadCall.keyChange? =
      es.flatMap PadEvent.keyChanges := by
  have hone : ∀ e, (eventCalls bound e).filterMap PadCall.keyChange? = e.keyChanges := fun e =>
    (filterMap_eventCalls _ (fun _ => rfl) bound e).trans List.filterMap_some
  rw [List.filterMap_flatMap]
  simp only [hone]

/-- No event opens a joystick. -/
theorem opened_events (bound : List Action) (es : List PadEvent) :
    (es.flatMap (eventCalls bound)).filterMap PadCall.opened? = [] := by
  rw [List.filterMap_flatMap]
  refine List.flatMap_eq_nil_iff.mpr fun e _ => ?_
  rw [filterMap_eventCalls _ fun _ => rfl]
  exact List.filterMap_eq_nil_iff.mpr fun c _ => rfl

/-! ## Schedules -/

namespace PollRound

/-- The round finds a controller. -/
def plugged (r : PollRound) : Bool :=
  !r.names.isEmpty

/-- The rounds up to the last one that finds a controller. -/
def heard (rs : List PollRound) : List PollRound :=
  rs.rdropWhile fun r => !r.plugged

/-- The rounds after the last one that finds a controller. -/
def unheard (rs : List PollRound) : List PollRound :=
  rs.rtakeWhile fun r => !r.plugged

/-- How often a round that finds a controller follows one that finds none. -/
def arrivals : List PollRound → Nat
  | r :: s :: rs => (if !r.plugged && s.plugged then 1 else 0) + arrivals (s :: rs)
  | _ => 0

theorem heard_concat (rs : List PollRound) (r : PollRound) :
    heard (rs ++ [r]) = if r.plugged then rs ++ [r] else heard rs := by
  rw [heard, List.rdropWhile_concat]
  cases r.plugged <;> rfl

theorem unheard_concat (rs : List PollRound) (r : PollRound) :
    unheard (rs ++ [r]) = if r.plugged then [] else unheard rs ++ [r] := by
  rw [unheard, List.rtakeWhile_concat]
  cases r.plugged <;> rfl

/-- No round is lost between the two. -/
theorem heard_append_unheard (rs : List PollRound) : heard rs ++ unheard rs = rs :=
  List.rdropWhile_append_rtakeWhile ..

theorem arrivals_concat (rs : List PollRound) (r : PollRound) :
    arrivals (rs ++ [r]) =
      arrivals rs + if rs.getLast?.any (!·.plugged) && r.plugged then 1 else 0 := by
  match rs with
  | [] => rfl
  | [s] => simp [arrivals]
  | s :: t :: rs =>
    have ih := arrivals_concat (t :: rs) r
    simp only [List.cons_append] at ih ⊢
    rw [arrivals, arrivals, ih, List.getLast?_cons_cons, Nat.add_assoc]

end PollRound

open PollRound

/-! ## Delivery -/

/-- **The account of a polling** that came to `done` in the rounds `rs`. -/
structure Polled.Delivered (done : Polled) (rs : List PollRound) : Prop where
  /-- The host takes itself to have a controller just if the last round found one. -/
  connected : done.poller.controller.connected = rs.getLast?.any plugged
  /-- Just then it holds one. -/
  joystick : done.poller.controller.joystick.isSome = rs.getLast?.any plugged
  /-- The first joystick was opened each time that one was plugged in where none was. -/
  opened : done.calls.filterMap PadCall.opened? = List.replicate (arrivals rs) 0
  /-- The keys were told of every event up to the last round that found a controller, in order. -/
  keys : done.calls.filterMap PadCall.keyChange? =
    ((heard rs).flatMap PollRound.events).flatMap PadEvent.keyChanges
  /-- Later events wait. -/
  waiting : done.poller.waiting = (unheard rs).flatMap PollRound.events

/-- **What looking for controllers comes to**: one is held just if one is plugged in, and opened if
none was held before. -/
theorem Controller.check_spec {c : Controller} (hc : c.joystick.isSome = c.connected)
    (names : List String) :
    (c.check names).controller.connected = !names.isEmpty ∧
      (c.check names).controller.joystick.isSome = !names.isEmpty ∧
      (c.check names).calls =
        if !c.connected && !names.isEmpty then [.openJoystick 0] else [] := by
  obtain ⟨joystick, connected⟩ := c
  cases connected with
  | false =>
    cases names with
    | nil => exact ⟨rfl, hc, rfl⟩
    | cons name names => exact ⟨rfl, rfl, rfl⟩
  | true =>
    cases names with
    | nil => exact ⟨rfl, rfl, rfl⟩
    | cons name names => exact ⟨rfl, hc, rfl⟩

namespace Poller

/-- **What one round does**: if it finds a controller, all that waits is handed on, and otherwise
nothing is. -/
theorem round_spec {p : Poller} (hp : p.controller.joystick.isSome = p.controller.connected)
    (bound : List Action) (r : PollRound) :
    (p.round bound r).poller.controller.connected = r.plugged ∧
      (p.round bound r).poller.controller.joystick.isSome = r.plugged ∧
      (p.round bound r).calls.filterMap PadCall.opened? =
        List.replicate (if !p.controller.connected && r.plugged then 1 else 0) 0 ∧
      (p.round bound r).calls.filterMap PadCall.keyChange? =
        (if r.plugged then p.waiting ++ r.events else []).flatMap PadEvent.keyChanges ∧
      (p.round bound r).poller.waiting = if r.plugged then [] else p.waiting ++ r.events := by
  obtain ⟨hconnected, hjoystick, hcalls⟩ := Controller.check_spec hp r.names
  have hplugged : (!r.names.isEmpty) = r.plugged := rfl
  rw [hplugged] at hconnected hjoystick hcalls
  cases hr : r.plugged with
  | true =>
    rw [hr] at hconnected hjoystick hcalls
    rw [round, if_pos hconnected, hcalls]
    refine ⟨hconnected, hjoystick, ?_, ?_, rfl⟩
    · rw [List.filterMap_append, opened_events, List.append_nil]
      cases p.controller.connected <;> rfl
    · rw [List.filterMap_append, keyChanges_events]
      cases p.controller.connected <;> rfl
  | false =>
    rw [hr] at hconnected hjoystick hcalls
    rw [Bool.and_false] at hcalls ⊢
    rw [round, if_neg (by rw [hconnected]; decide), hcalls]
    exact ⟨hconnected, hjoystick, rfl, rfl, rfl⟩

theorem rounds_concat (p : Poller) (hp : p.running = true) (bound : List Action)
    (rs : List PollRound) (r : PollRound) :
    p.rounds bound (rs ++ [r]) =
      let done := p.rounds bound rs
      let next := done.poller.round bound r
      ⟨next.poller, done.calls ++ next.calls, done.notices ++ next.notices⟩ := by
  simp only [rounds, hp, if_true, List.foldl_append, List.foldl_cons, List.foldl_nil]

/-- **What a round does to the account of the rounds before it.** -/
theorem delivered_round {done : Polled} {rs : List PollRound} (h : done.Delivered rs)
    (hrs : rs ≠ []) (bound : List Action) (r : PollRound) :
    let next := done.poller.round bound r
    Polled.Delivered ⟨next.poller, done.calls ++ next.calls, done.notices ++ next.notices⟩
      (rs ++ [r]) := by
  obtain ⟨hconnected, hjoystick, hopened, hkeys, hwaiting⟩ :=
    round_spec (h.joystick.trans h.connected.symm) bound r
  have hlast : (rs ++ [r]).getLast?.any plugged = r.plugged := by
    rw [List.getLast?_concat]
    rfl
  refine ⟨hconnected.trans hlast.symm, hjoystick.trans hlast.symm, ?_, ?_, ?_⟩
  · have hfound : rs.getLast?.any (!·.plugged) = !rs.getLast?.any plugged := by
      obtain ⟨s, hs⟩ := Option.isSome_iff_exists.mp (List.getLast?_isSome.mpr hrs)
      rw [hs]
      rfl
    rw [arrivals_concat, hfound, List.replicate_add, ← h.opened, ← h.connected, ← hopened]
    exact List.filterMap_append
  · have hall : (rs ++ [r]).flatMap PollRound.events = (heard rs).flatMap PollRound.events ++
        ((unheard rs).flatMap PollRound.events ++ r.events) := by
      rw [← List.append_assoc, ← List.flatMap_append, heard_append_unheard, List.flatMap_append,
        List.flatMap_singleton]
    rw [List.filterMap_append, h.keys, hkeys, h.waiting, heard_concat, ← List.flatMap_append]
    cases r.plugged with
    | true => rw [if_pos rfl, if_pos rfl, hall]
    | false => exact congrArg _ (List.append_nil _)
  · rw [hwaiting, h.waiting, unheard_concat]
    cases r.plugged with
    | true => rfl
    | false =>
      rw [if_neg Bool.false_ne_true, if_neg Bool.false_ne_true, List.flatMap_append,
        List.flatMap_singleton]

/-- **Every event is delivered once and in order.** While a controller is polled that was not
connected, whatever comes up and whatever is plugged in and out: after any rounds, it is connected
and a joystick is held just if the last round found one; a joystick was opened once for each time
that one was plugged in where none was; and the keys were told of every event that came up before
or in the last round that found one, of each once and in the order of the queue. Events that waited
when the polling began count as those of a round that found nothing. -/
theorem rounds_delivered {p : Poller} (hp : p.running = true) (hc : p.controller = .initial)
    (bound : List Action) (rs : List PollRound) :
    (p.rounds bound rs).Delivered (⟨[], p.waiting⟩ :: rs) := by
  induction rs using List.reverseRecOn with
  | nil =>
    rw [rounds, if_pos hp, List.foldl_nil]
    exact ⟨congrArg Controller.connected hc, congrArg (·.joystick.isSome) hc, rfl, rfl,
      (List.flatMap_singleton ..).symm⟩
  | append_singleton rs r ih =>
    rw [p.rounds_concat hp]
    exact delivered_round ih (List.cons_ne_nil _ _) bound r

/-- A button goes down with nothing plugged in and up in the round that connects; then the pad
moves, the controller is taken away while it comes to rest, and plugged in again. -/
def unsteady : List PollRound :=
  [⟨[], [.buttonDown 0]⟩, ⟨["a"], [.buttonUp 0, .axis]⟩, ⟨["a"], [.hat 0 1]⟩, ⟨[], [.hat 0 0]⟩,
    ⟨["a", "b"], []⟩, ⟨[], [.buttonDown 1]⟩]

theorem rounds_delivered_unsteady :
    let p := Poller.initial.start.1
    p.running = true ∧ p.controller = .initial ∧
      (p.rounds [] unsteady).poller.controller.connected = false ∧
      (p.rounds [] unsteady).calls.filterMap PadCall.opened? = [0, 0] ∧
      (p.rounds [] unsteady).calls.filterMap PadCall.keyChange? =
        [(0x2, true), (0x2, false), (0x8, true), (0x8, false), (0x2, false), (0x4, false),
          (0x6, false)] ∧
      (p.rounds [] unsteady).poller.waiting = [.buttonDown 1] := by
  intro p
  have h := rounds_delivered (p := p) rfl rfl [] unsteady
  exact ⟨rfl, rfl, h.connected, h.opened, h.keys.trans (by decide), h.waiting.trans (by decide)⟩

end Poller

end Chip8
