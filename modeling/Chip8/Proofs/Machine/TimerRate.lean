import Chip8.Proofs.Machine.Cadence
import Chip8.Proofs.Machine.Footprint
import Mathlib.Algebra.Order.Ring.Rat
import Mathlib.Tactic.Linarith
import Mathlib.Tactic.Ring

/-!
# The rate of the timers

The timers of a machine that is measured by a clock take no more steps than there are sixtieths of
a second between the first reading and the last. Two facts make up for it. The gate passes on no
more time than it was given: the steps that fired and the time that is still gathered come to the
time that went in, or less, for what is beyond a step is dropped (`count_firings_le`). And the times
between the readings of a clock that does not go back add up to the time between the first and the
last (`sum_elapsedTimes`). Time is exact here: a clock reads rational numbers.

The delay timer goes down by one for each step, so between two instructions that set it, it falls by
the number of steps that fired, as far as zero (`delay_calls`).

* `keepsTime_of_restart`: all of it, for every run from a reset or a load.
-/

namespace Chip8

/-! ## The gate -/

namespace Timers

/-- The gate, of exact times: only time that passes forward is gathered. -/
theorem gate_eq (gathered elapsed : Rat) :
    gate gathered elapsed =
      if gathered + max 0 elapsed < 1 / 60 then (false, gathered + max 0 elapsed)
      else (true, 0) := by
  have hsum : (if 0 < elapsed then gathered + elapsed else gathered) =
      gathered + max 0 elapsed := by
    split
    next h => rw [max_eq_right h.le]
    next h => rw [max_eq_left (not_lt.mp h), add_zero]
  rw [← hsum]
  rfl

/-- One account of time: what fires and what stays gathered is no more than there was. -/
theorem gate_le (gathered elapsed : Rat) :
    ([(gate gathered elapsed).1].count true : Rat) * (1 / 60) + (gate gathered elapsed).2 ≤
      gathered + max 0 elapsed := by
  rw [gate_eq]
  split
  next h => simp
  next h => simpa using not_lt.mp h

theorem gate_nonneg {gathered : Rat} (h : 0 ≤ gathered) (elapsed : Rat) :
    0 ≤ (gate gathered elapsed).2 := by
  rw [gate_eq]
  split
  · exact add_nonneg h (le_max_left 0 elapsed)
  · exact le_refl 0

/-- **The gate passes on no more time than it was given.** -/
theorem count_firings_le (gathered : Rat) (es : List Rat) :
    ((firings gathered es).count true : Rat) * (1 / 60) + gatheredAfter gathered es ≤
      gathered + (es.map (max 0)).sum := by
  induction es generalizing gathered with
  | nil => simp [firings, gatheredAfter]
  | cons e es ih =>
    have hone := gate_le gathered e
    have hrest := ih (gate gathered e).2
    have hfirings : firings gathered (e :: es) =
        [(gate gathered e).1] ++ firings (gate gathered e).2 es := rfl
    have hgathered : gatheredAfter gathered (e :: es) = gatheredAfter (gate gathered e).2 es := rfl
    rw [hfirings, hgathered, List.count_append, Nat.cast_add, List.map_cons, List.sum_cons]
    linarith

theorem gatheredAfter_nonneg {gathered : Rat} (h : 0 ≤ gathered) (es : List Rat) :
    0 ≤ gatheredAfter gathered es := by
  induction es generalizing gathered with
  | nil => exact h
  | cons e es ih => exact ih (gate_nonneg h e)

/-- A step that fires takes one off the delay timer, if there is one to take. -/
theorem delay_tick {τ : Type} [Seconds τ] {t : Timers τ} (h : 0 ≤ t.delay) (elapsed : τ) :
    (t.tick elapsed).2.delay = max 0 (t.delay - [(t.tick elapsed).1.fired].count true) := by
  by_cases hg : t.gather elapsed < Seconds.sixtieth
  · rw [tick_of_lt hg]
    simpa using h
  · rw [tick_of_not_lt hg]
    simp only [countDown, List.count_singleton_self, Nat.cast_one]
    split <;> omega

end Timers

/-! ## Readings -/

namespace Call

/-- The call is a cycle that reads the clock, or it moves a key or takes a picture. -/
def byClock {τ : Type} : Call τ → Bool
  | key _ _ => true
  | present => true
  | cycle (.measured _) => true
  | _ => false

/-- The reading of the clock that the call takes. -/
def reading? {τ : Type} : Call τ → Option τ
  | cycle (.measured now) => some now
  | _ => none

theorem restarts_of_byClock {τ : Type} {c : Call τ} (h : c.byClock = true) :
    c.restarts = false := by
  cases c with
  | reset => cases h
  | load image name => cases h
  | loadFile tree path => cases h
  | _ => rfl

end Call

/-- The readings of the clock that a sequence of calls takes, in order. -/
def readings {τ : Type} (cs : List (Call τ)) : List τ :=
  cs.filterMap Call.reading?

namespace Machine

/-- What a measured cycle takes for elapsed: `first` is the reading that it measures from, or its
own if none was taken before. -/
theorem elapsedTo_eq {m : Machine Rat} {first now : Rat} (hm : ∀ t ∈ m.lastReading, t = first)
    (hfirst : m.lastReading = none → now = first) : m.elapsedTo now = now - first := by
  unfold elapsedTo
  cases hlast : m.lastReading with
  | some last => rw [hm last hlast]
  | none => rw [hfirst hlast, sub_self]; rfl

theorem lastReading_measured {τ : Type} [Seconds τ] (m : Machine τ) (now : τ) :
    (m.cycleBy (.measured now)).2.lastReading = some now := by
  rw [cycleBy_snd]
  exact (sameHost_of_step (m.noted (.measured now))).lastReading

/-- **The times between the readings add up.** `first` is the last reading taken before; if none
was, it is the first one that is taken. -/
theorem sum_elapsedTimes {m : Machine Rat} {first : Rat} {cs : List (Call Rat)}
    (hcs : ∀ c ∈ cs, c.byClock = true) (hsorted : (first :: readings cs).Pairwise (· ≤ ·))
    (hm : ∀ t ∈ m.lastReading, t = first)
    (hfirst : m.lastReading = none → ∀ t ∈ (readings cs).head?, t = first) :
    ((m.elapsedTimes cs).map (max 0)).sum = (readings cs).getLastD first - first := by
  induction cs generalizing m first with
  | nil => simp [elapsedTimes, readings]
  | cons c cs ih =>
    have hrest := fun d hd => hcs d (List.mem_cons_of_mem c hd)
    cases c with
    | reset => cases hcs _ List.mem_cons_self
    | load image name => cases hcs _ List.mem_cons_self
    | loadFile tree path => cases hcs _ List.mem_cons_self
    | key code down => exact ih (m := m.setKey code down) hrest hsorted hm hfirst
    | present => exact ih (m := m.presented) hrest hsorted hm hfirst
    | cycle t =>
      cases t with
      | told e => cases hcs _ List.mem_cons_self
      | measured now =>
        have hreadings : readings (.cycle (.measured now) :: cs) = now :: readings cs := rfl
        rw [hreadings] at hsorted hfirst ⊢
        have hle : first ≤ now := List.rel_of_pairwise_cons hsorted List.mem_cons_self
        have hnext := m.lastReading_measured now
        -- what is left is measured from `now`
        have hsum : (((m.cycleBy (.measured now)).2.elapsedTimes cs).map (max 0)).sum =
            (readings cs).getLastD now - now :=
          ih hrest hsorted.of_cons (by simp [hnext]) (by simp [hnext])
        have htimes : m.elapsedTimes (.cycle (.measured now) :: cs) =
            m.elapsedTo now :: (m.cycleBy (.measured now)).2.elapsedTimes cs := rfl
        rw [htimes, List.map_cons, List.sum_cons, hsum, List.getLastD_cons,
          elapsedTo_eq hm fun hlast => hfirst hlast now rfl, max_eq_right (sub_nonneg.mpr hle)]
        ring

/-! ## Runs -/

section

variable {τ : Type} [Seconds τ] {m : Machine τ}

/-- The timer steps that fire in a sequence of calls. -/
def fired (m : Machine τ) (cs : List (Call τ)) : Nat :=
  ((m.reports cs).map CycleReport.fired).count true

theorem fired_cons (m : Machine τ) (c : Call τ) (cs : List (Call τ)) :
    m.fired (c :: cs) = m.fired [c] + (m.call c).fired cs := by
  unfold fired
  rw [reports, List.map_append, List.count_append, reports, reports, List.append_nil]

/-- **What one call does to the delay timer**, unless it carries out an instruction that sets it. -/
theorem delay_call (hm : 0 ≤ m.timers.delay) {c : Call τ} (hc : c.restarts = false)
    (hset : ∀ x, m.executed? c ≠ some (.setDelay x)) :
    (m.call c).timers.delay = max 0 (m.timers.delay - m.fired [c]) := by
  have hquiet : ∀ n : Machine τ, n.timers.delay = m.timers.delay → m.fired [c] = 0 →
      n.timers.delay = max 0 (m.timers.delay - m.fired [c]) := by
    intro n hn hf
    rw [hn, hf]
    simpa using hm
  cases c with
  | reset => cases hc
  | load image name => cases hc
  | loadFile tree path => cases hc
  | key code down => exact hquiet _ rfl rfl
  | present => exact hquiet _ rfl rfl
  | cycle t =>
    have huntouched : ∀ i, m.executed? (.cycle t) = some i → i.touches .delay = false := by
      intro i he
      cases i with
      | setDelay x => exact absurd he (hset x)
      | _ => rfl
    have hstep : (m.noted t).step.machine.timers.delay = m.timers.delay := same_of_cycle huntouched
    have hfired : m.fired [.cycle t] =
        [((m.noted t).step.machine.timers.tick (m.elapsed t)).1.fired].count true := by
      show [(m.cycleBy t).1.fired].count true = _
      rw [cycleBy_eq]
      rfl
    show (m.cycleBy t).2.timers.delay = _
    rw [cycleBy_snd, hfired, ← hstep]
    exact Timers.delay_tick (hstep ▸ hm) (m.elapsed t)

/-- **The delay timer falls by the steps that fire**, as far as zero, while nothing sets it. -/
theorem delay_calls (hm : 0 ≤ m.timers.delay) {cs : List (Call τ)}
    (hcs : ∀ c ∈ cs, c.restarts = false) (hset : ∀ x, .setDelay x ∉ m.executed cs) :
    (m.calls cs).timers.delay = max 0 (m.timers.delay - m.fired cs) := by
  induction cs generalizing m with
  | nil =>
    have hnone : m.fired [] = 0 := rfl
    rw [calls_nil, hnone]
    simpa using hm
  | cons c cs ih =>
    have hfirst : ∀ x, m.executed? c ≠ some (.setDelay x) := fun x hx =>
      hset x (List.mem_append_left _ (by rw [hx]; exact List.mem_cons_self))
    have hone := delay_call hm (hcs c List.mem_cons_self) hfirst
    have hrest := ih (m := m.call c) (by omega) (fun d hd => hcs d (List.mem_cons_of_mem c hd))
      fun x hx => hset x (List.mem_append_right _ hx)
    rw [calls_cons, hrest, hone, m.fired_cons c cs]
    omega

end

/-- A restart gathered no time yet and took no reading. -/
theorem timed_of_restarts {τ : Type} [Seconds τ] (m : Machine τ) {c : Call τ}
    (hc : c.restarts = true) :
    (m.call c).timers.gathered = Seconds.zero ∧ (m.call c).lastReading = none := by
  rw [m.frame_of_restarts hc]
  exact ⟨rfl, rfl⟩

/-- **The steps that fire take up no more time than the clock showed**, if no time was gathered and
no reading taken before. -/
theorem fired_le {m : Machine Rat}
    (hm : m.timers.gathered = Seconds.zero ∧ m.lastReading = none) {cs : List (Call Rat)}
    (hcs : ∀ c ∈ cs, c.byClock = true) (hsorted : (readings cs).Pairwise (· ≤ ·)) {first : Rat}
    {rest : List Rat} (hreadings : readings cs = first :: rest) :
    (m.fired cs : Rat) * (1 / 60) ≤ rest.getLastD first - first := by
  have hfired : m.fired cs = (Timers.firings 0 (m.elapsedTimes cs)).count true := by
    rw [fired, (m.fired_reports fun c hc => Call.restarts_of_byClock (hcs c hc)).1, hm.1]
    rfl
  have hsum : ((m.elapsedTimes cs).map (max 0)).sum = (readings cs).getLastD first - first :=
    sum_elapsedTimes hcs (by rw [hreadings] at hsorted ⊢; simpa using hsorted) (by simp [hm.2])
      (by simp [hreadings])
  have hgate := Timers.count_firings_le 0 (m.elapsedTimes cs)
  have hkept := Timers.gatheredAfter_nonneg (le_refl 0) (m.elapsedTimes cs)
  rw [hreadings, List.getLastD_cons] at hsum
  rw [hfired]
  linarith

/-- One call fires one step at most. -/
theorem ticks_call {τ : Type} [Seconds τ] (m : Machine τ) {c : Call τ} (hc : c.restarts = false) :
    (m.call c).timers.ticks =
      m.timers.ticks + if (m.report? c).any CycleReport.fired then 1 else 0 := by
  rw [(m.gate_of_call hc).2.2]
  cases m.report? c with
  | none => rfl
  | some report => cases hf : report.fired <;> simp [hf]

/-- **How the timers keep to the clock** in the calls `cs` on the machine `m`. -/
structure KeepsTime (m : Machine Rat) (cs : List (Call Rat)) : Prop where
  /-- The steps that fire take up no more time than there is between the first reading and the
  last. -/
  rate : ∀ first rest, readings cs = first :: rest →
    (m.fired cs : Rat) * (1 / 60) ≤ rest.getLastD first - first
  /-- Each call fires one step at most, a cycle whose report says so. -/
  single : ∀ before c after, cs = before ++ c :: after →
    (m.calls (before ++ [c])).timers.ticks = (m.calls before).timers.ticks +
      if ((m.calls before).report? c).any CycleReport.fired then 1 else 0
  /-- Over any stretch in which no instruction sets it, the delay timer falls by the steps that
  fire, as far as zero. -/
  delay : ∀ before stretch after, cs = before ++ stretch ++ after →
    (∀ x, .setDelay x ∉ (m.calls before).executed stretch) →
    (m.calls (before ++ stretch)).timers.delay =
      max 0 ((m.calls before).timers.delay - (m.calls before).fired stretch)

/-- **Timers never run faster than the clock.** From any reset or load, and through any run of
cycles, keys and pictures whose cycles read a clock that does not go back. -/
theorem keepsTime_of_restart (m : Machine Rat) {start : Call Rat} (hstart : start.restarts = true)
    {cs : List (Call Rat)} (hcs : ∀ c ∈ cs, c.byClock = true)
    (hsorted : (readings cs).Pairwise (· ≤ ·)) : (m.call start).KeepsTime cs := by
  have hm : Reachable (m.call start) := by
    rw [call_of_restarts m hstart]
    exact (Reachable.new m.seed).call start
  have hquiet : ∀ c ∈ cs, c.restarts = false := fun c hc => Call.restarts_of_byClock (hcs c hc)
  refine ⟨fun first rest hreadings => fired_le (timed_of_restarts m hstart) hcs hsorted hreadings,
    ?_, ?_⟩
  · rintro before c after rfl
    rw [calls_append]
    exact ticks_call _ (hquiet c (by simp))
  · rintro before stretch after rfl hset
    rw [calls_append]
    exact delay_calls (hm.calls before).wellFormed.timers.delay.1
      (fun c hc => hquiet c (by simp [hc])) hset

/-- A program that sets the delay timer to five and then runs in place. -/
def delaying : List UInt8 := [0x60, 0x05, 0xF0, 0x15, 0x12, 0x04]

/-- In six hundredths of a second the timer falls by two, and no faster. -/
theorem keepsTime_of_restart_delaying :
    let start : Call Rat := .load delaying ""
    let before : List (Call Rat) := [.cycle (.measured 1), .cycle (.measured (101 / 100))]
    let stretch : List (Call Rat) := [.cycle (.measured (102 / 100)), .key 3 true,
      .cycle (.measured (106 / 100))]
    let m : Machine Rat := (initial 0).call start
    start.restarts = true ∧ (∀ c ∈ before ++ stretch, c.byClock = true) ∧
      (readings (before ++ stretch)).Pairwise (· ≤ ·) ∧
      (m.fired (before ++ stretch) : Rat) * (1 / 60) ≤ 6 / 100 ∧
      (m.calls before).timers.delay = 5 ∧ (m.calls (before ++ stretch)).timers.delay = 3 := by
  intro start before stretch m
  have hstart : start.restarts = true := rfl
  have hcs : ∀ c ∈ before ++ stretch, c.byClock = true := by simp [before, stretch, Call.byClock]
  have hreadings : readings (before ++ stretch) = [1, 101 / 100, 102 / 100, 106 / 100] := rfl
  have hsorted : (readings (before ++ stretch)).Pairwise (· ≤ ·) := by
    rw [hreadings]
    decide +kernel
  have hdelay : (m.calls before).timers.delay = 5 := by decide +kernel
  have hset : ∀ x, Instruction.setDelay x ∉ (m.calls before).executed stretch := by
    decide +kernel
  have hfired : (m.calls before).fired stretch = 2 := by decide +kernel
  have h := keepsTime_of_restart (initial 0) hstart hcs hsorted
  have hrate := h.rate _ _ hreadings
  have hfall := h.delay before stretch [] (by simp) hset
  refine ⟨hstart, hcs, hsorted, hrate.trans (by norm_num), hdelay, hfall.trans ?_⟩
  show max 0 ((m.calls before).timers.delay - (m.calls before).fired stretch) = 3
  rw [hdelay, hfired]
  rfl

end Machine

end Chip8
