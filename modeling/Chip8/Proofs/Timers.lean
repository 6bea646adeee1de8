import Chip8.Time

/-!
# Counting down

Between two instructions that set them, the timers are counted down by ticks. What a sequence of
ticks leaves of the two registers, and which tones it gives, depends on the number of steps that
fire and on nothing else: not on when they fire, nor on what the other ticks were told.

* `CountsDown.quiet` and `CountsDown.fired`: one more tick, without a step and with one.
* `counts_down`: what every sequence of ticks comes to.
-/

namespace Chip8

namespace Timers

/-! ## One register -/

/-- What `k` steps leave of a register. -/
def remaining (value : Int) (k : Nat) : Int :=
  if 0 < value then max (value - k) 0 else value

/-- The tone of the step that comes after `k` others: the sound timer as it stands then, if it still
runs. -/
def toneAfter (sound : Int) (k : Nat) : Option Int :=
  if k < sound then some (sound - k) else none

theorem remaining_zero (value : Int) : remaining value 0 = value := by
  unfold remaining
  split <;> omega

theorem remaining_countDown (value : Int) (k : Nat) :
    remaining (countDown value) k = remaining value (k + 1) := by
  unfold remaining countDown
  by_cases h : 0 < value
  · simp only [if_pos h]
    split <;> omega
  · simp only [if_neg h]

theorem toneAfter_countDown (sound : Int) (k : Nat) :
    toneAfter (countDown sound) k = toneAfter sound (k + 1) := by
  unfold toneAfter countDown
  by_cases h : 0 < sound
  · have hrest : sound - 1 - (k : Int) = sound - (k + 1 : Nat) := by omega
    have hlast : (k : Int) < sound - 1 ↔ ((k + 1 : Nat) : Int) < sound := by omega
    simp only [if_pos h, hrest, hlast]
  · rw [if_neg h, if_neg (by omega), if_neg (by omega)]

/-- A register that runs has its first tone ahead, and then those of the register one lower. -/
theorem map_range_of_pos {sound : Int} (h : 0 < sound) (k : Nat) :
    (List.range (min sound.toNat (k + 1))).map (fun j : Nat => sound - j) =
      sound :: (List.range (min (sound - 1).toNat k)).map fun j : Nat => sound - 1 - j := by
  have hmin : min sound.toNat (k + 1) = min (sound - 1).toNat k + 1 := by omega
  rw [hmin, List.range_succ_eq_map, List.map_cons, List.map_map]
  congr 1
  · omega
  · refine List.map_congr_left fun j _ => ?_
    simp only [Function.comp_apply]
    omega

/-! ## Sequences of ticks -/

variable {τ : Type} [Seconds τ]

/-- The timers after a sequence of ticks. -/
def after (t : Timers τ) (es : List τ) : Timers τ :=
  es.foldl (fun t e => (t.tick e).2) t

/-- What the ticks of a sequence tell, in order. -/
def told (t : Timers τ) : List τ → List TickReport
  | [] => []
  | e :: es => (t.tick e).1 :: (t.tick e).2.told es

/-- **What the ticks `es` do to the timers `t`** when `k` of them fire a step. -/
structure CountsDown (t : Timers τ) (es : List τ) (k : Nat) : Prop where
  ticks : (t.after es).ticks = t.ticks + k
  delay : (t.after es).delay = remaining t.delay k
  sound : (t.after es).sound = remaining t.sound k
  /-- The steps give their tones one after another, until the sound timer has run out. -/
  tones : ((t.told es).filter TickReport.fired).map TickReport.tone =
    (List.range k).map (toneAfter t.sound)
  /-- All tones that are given, in order. -/
  heard : (t.told es).filterMap TickReport.tone =
    (List.range (min t.sound.toNat k)).map fun j : Nat => t.sound - j

variable {t : Timers τ} {e : τ} {es : List τ} {k : Nat}

theorem countsDown_nil (t : Timers τ) : t.CountsDown [] 0 where
  ticks := rfl
  delay := (remaining_zero _).symm
  sound := (remaining_zero _).symm
  tones := rfl
  heard := by rw [Nat.min_zero]; rfl

/-- **A tick without a step** changes nothing that is counted. -/
theorem CountsDown.quiet (h : t.gather e < Seconds.sixtieth)
    (hes : (t.tick e).2.CountsDown es k) : t.CountsDown (e :: es) k := by
  have htold : t.told (e :: es) = ⟨false, none⟩ :: (t.tick e).2.told es := by
    rw [told, tick_of_lt h]
  have hregisters : (t.tick e).2 = { t with gathered := t.gather e } := by rw [tick_of_lt h]
  obtain ⟨hticks, hdelay, hsound, htones, hheard⟩ := hes
  rw [hregisters] at hticks hdelay hsound htones hheard htold
  constructor
  case ticks => rw [← hticks, ← hregisters]; rfl
  case delay => rw [← hdelay, ← hregisters]; rfl
  case sound => rw [← hsound, ← hregisters]; rfl
  case tones => rw [htold]; exact htones
  case heard => rw [htold]; exact hheard

/-- **A tick with a step** takes one off each register that runs, and gives the first tone. -/
theorem CountsDown.fired (h : ¬ t.gather e < Seconds.sixtieth)
    (hes : (t.tick e).2.CountsDown es k) : t.CountsDown (e :: es) (k + 1) := by
  have htold : t.told (e :: es) = ⟨true, toneAfter t.sound 0⟩ :: (t.tick e).2.told es := by
    rw [told, tick_of_not_lt h]
    simp [toneAfter]
  have hticks' : (t.tick e).2.ticks = t.ticks + 1 := by rw [tick_of_not_lt h]
  have hdelay' : (t.tick e).2.delay = countDown t.delay := by rw [tick_of_not_lt h]
  have hsound' : (t.tick e).2.sound = countDown t.sound := by rw [tick_of_not_lt h]
  obtain ⟨hticks, hdelay, hsound, htones, hheard⟩ := hes
  rw [hticks'] at hticks
  rw [hdelay', remaining_countDown] at hdelay
  rw [hsound', remaining_countDown] at hsound
  rw [hsound'] at htones hheard
  constructor
  case ticks =>
    show ((t.tick e).2.after es).ticks = _
    omega
  case delay => exact hdelay
  case sound => exact hsound
  case tones =>
    rw [htold, List.filter_cons_of_pos rfl, List.map_cons, htones, List.range_succ_eq_map,
      List.map_cons, List.map_map]
    congr 1
    exact List.map_congr_left fun j _ => toneAfter_countDown t.sound j
  case heard =>
    by_cases hs : 0 < t.sound
    · have hfirst : toneAfter t.sound 0 = some t.sound := by simp [toneAfter, hs]
      have hdown : countDown t.sound = t.sound - 1 := if_pos hs
      rw [hdown] at hheard
      rw [htold, hfirst, map_range_of_pos hs, ← hheard]
      rfl
    · have hfirst : toneAfter t.sound 0 = none := by simp [toneAfter, hs]
      have hdown : countDown t.sound = t.sound := if_neg hs
      have hnone : t.sound.toNat = 0 := by omega
      rw [hdown, hnone, Nat.zero_min] at hheard
      rw [htold, hfirst, hnone, Nat.zero_min, ← hheard]
      rfl

/-- A tick that fires no step leaves both registers alone and gives no tone. -/
theorem tick_of_not_fired (h : (t.tick e).1.fired = false) :
    (t.tick e).1.tone = none ∧ (t.tick e).2.delay = t.delay ∧ (t.tick e).2.sound = t.sound ∧
      (t.tick e).2.ticks = t.ticks := by
  have hlt : t.gather e < Seconds.sixtieth := by
    by_cases hlt : t.gather e < Seconds.sixtieth
    · exact hlt
    · rw [tick_of_not_lt hlt] at h
      cases h
  rw [tick_of_lt hlt]
  exact ⟨rfl, rfl, rfl, rfl⟩

theorem countsDown_told (t : Timers τ) (es : List τ) :
    t.CountsDown es ((t.told es).countP TickReport.fired) := by
  induction es generalizing t with
  | nil => exact countsDown_nil t
  | cons e es ih =>
    by_cases h : t.gather e < Seconds.sixtieth
    · have hk : (t.told (e :: es)).countP TickReport.fired =
          ((t.tick e).2.told es).countP TickReport.fired := by
        simp [told, tick_of_lt h]
      rw [hk]
      exact (ih _).quiet h
    · have hk : (t.told (e :: es)).countP TickReport.fired =
          ((t.tick e).2.told es).countP TickReport.fired + 1 := by
        simp [told, tick_of_not_lt h]
      rw [hk]
      exact (ih _).fired h

/-- **Both timers count the steps that fire.** Whatever the registers hold, negative numbers too,
and whatever times the ticks are told: each register that runs falls by the number of steps, as far
as zero, and one that does not run stays; the steps give a tone each while the sound timer runs, and
tell it; and a tick that fires no step changes neither register and gives no tone. -/
theorem counts_down (t : Timers τ) (es : List τ) :
    t.CountsDown es ((t.told es).countP TickReport.fired) ∧
    ∀ before e rest, es = before ++ e :: rest → ((t.after before).tick e).1.fired = false →
      ((t.after before).tick e).1.tone = none ∧
      ((t.after before).tick e).2.delay = (t.after before).delay ∧
      ((t.after before).tick e).2.sound = (t.after before).sound ∧
      ((t.after before).tick e).2.ticks = (t.after before).ticks :=
  ⟨countsDown_told t es, fun _ _ _ _ h => tick_of_not_fired h⟩

/-- Three steps among five ticks, with the sound timer at two and a delay timer below zero. -/
example :
    let t : Timers Rat := ⟨-1, 2, 0, 0⟩
    let es : List Rat := [1, -5, 1 / 50, 1 / 100, 1 / 100]
    (t.told es).map TickReport.tone = [some 2, none, some 1, none, none] ∧
      (t.after es).sound = 0 ∧ (t.after es).delay = -1 := by
  decide +kernel

end Timers

end Chip8
