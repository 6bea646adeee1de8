import Chip8.Proofs.Machine.WellFormed

/-!
# The cadence of the timers

When a timer step fires is a matter of elapsed time alone. `Timers.gate` is the gate of the timers,
without registers and without a machine: the time gathered so far, what more time makes of it, and
whether a step fires. An instruction may set either timer register, but none touches the gate
(`gate_of_execute`); a cycle passes it once, whether it carries out an instruction, meets a fault or
waits for a key.

* `fired_reports`: the steps that fire in a run are those of the gate.
* `cadence_independent`: two machines whose gates stand alike fire alike, whatever they run.
-/

namespace Chip8

/-! ## The gate -/

namespace Timers

variable {τ : Type} [Seconds τ]

/-- **The gate**: whether a step fires once `elapsed` time is added to the time gathered, and the
time gathered from then on. -/
def gate (gathered elapsed : τ) : Bool × τ :=
  let sum := if Seconds.zero < elapsed then gathered + elapsed else gathered
  if sum < Seconds.sixtieth then (false, sum) else (true, Seconds.zero)

/-- Whether a step fires, account after account. -/
def firings (gathered : τ) : List τ → List Bool
  | [] => []
  | e :: es => (gate gathered e).1 :: firings (gate gathered e).2 es

/-- The time gathered after a sequence of accounts. -/
def gatheredAfter (gathered : τ) (es : List τ) : τ :=
  es.foldl (fun g e => (gate g e).2) gathered

theorem gatheredAfter_append (gathered : τ) (es fs : List τ) :
    gatheredAfter gathered (es ++ fs) = gatheredAfter (gatheredAfter gathered es) fs :=
  List.foldl_append

theorem firings_append (gathered : τ) (es fs : List τ) :
    firings gathered (es ++ fs) =
      firings gathered es ++ firings (gatheredAfter gathered es) fs := by
  induction es generalizing gathered with
  | nil => rfl
  | cons e es ih =>
    rw [List.cons_append, firings, ih, firings, List.cons_append]
    rfl

/-- What a tick does to the gate, it does by the gate alone; a step that fires is counted. -/
theorem tick_eq_gate (t : Timers τ) (elapsed : τ) :
    (t.tick elapsed).1.fired = (gate t.gathered elapsed).1 ∧
      (t.tick elapsed).2.gathered = (gate t.gathered elapsed).2 ∧
      (t.tick elapsed).2.ticks = t.ticks + [(t.tick elapsed).1.fired].count true := by
  by_cases h : t.gather elapsed < Seconds.sixtieth
  · have hgate : gate t.gathered elapsed = (false, t.gather elapsed) := if_pos h
    rw [tick_of_lt h, hgate]
    exact ⟨rfl, rfl, rfl⟩
  · have hgate : gate t.gathered elapsed = (true, Seconds.zero) := if_neg h
    rw [tick_of_not_lt h, hgate]
    exact ⟨rfl, rfl, rfl⟩

end Timers

namespace Machine

variable {τ : Type} {m n : Machine τ} {i : Instruction}

/-! ## Instructions, steps and cycles -/

/-- The gate of two machines stands alike, and they counted as many steps. -/
def SameGate (m n : Machine τ) : Prop :=
  m.timers.gathered = n.timers.gathered ∧ m.timers.ticks = n.timers.ticks

/-- **No instruction touches the gate**, those that set a timer included. -/
theorem gate_of_outcome (h : Outcome m i n) : SameGate n m := by
  rcases h.timers with ht | ⟨b, ht | ht⟩
  · exact ⟨by rw [ht], by rw [ht]⟩
  · exact ⟨by rw [ht], by rw [ht]⟩
  · exact ⟨by rw [ht], by rw [ht]⟩

theorem gate_of_step (m : Machine τ) : SameGate m.step.machine m := by
  rcases m.step_cases with h | ⟨-, h⟩ | ⟨key, -, h⟩ | ⟨d, n, hs, hd, he, h⟩ <;> rw [h]
  · exact ⟨rfl, rfl⟩
  · exact ⟨rfl, rfl⟩
  · exact ⟨rfl, rfl⟩
  · exact gate_of_outcome (n := n) (outcome_of_execute hs (fetch_eq_ok_iff.mp hd).1 he)

variable [Seconds τ]

/-! ## Runs -/

/-- The time that a call accounts for if it is a cycle. -/
def elapsed? (m : Machine τ) : Call τ → Option τ
  | .cycle t => some (m.elapsed t)
  | _ => none

/-- The times that the cycles of a sequence of calls account for, in order. -/
def elapsedTimes (m : Machine τ) : List (Call τ) → List τ
  | [] => []
  | c :: cs => (m.elapsed? c).toList ++ (m.call c).elapsedTimes cs

/-- **What one call does to the gate**: a cycle passes it once, whatever else comes of the cycle,
and no other call does. -/
theorem gate_of_call (m : Machine τ) {c : Call τ} (hc : c.restarts = false) :
    (m.report? c).toList.map CycleReport.fired =
        Timers.firings m.timers.gathered (m.elapsed? c).toList ∧
      (m.call c).timers.gathered =
        Timers.gatheredAfter m.timers.gathered (m.elapsed? c).toList ∧
      (m.call c).timers.ticks =
        m.timers.ticks + ((m.report? c).toList.map CycleReport.fired).count true := by
  cases c with
  | reset => cases hc
  | load image name => cases hc
  | loadFile tree path => cases hc
  | key code down => exact ⟨rfl, rfl, rfl⟩
  | present => exact ⟨rfl, rfl, rfl⟩
  | cycle t =>
    obtain ⟨hgathered, hticks⟩ := (m.noted t).gate_of_step
    have htick := (m.noted t).step.machine.timers.tick_eq_gate (m.elapsed t)
    rw [hgathered, hticks] at htick
    have hreport : (m.report? (.cycle t)).toList.map CycleReport.fired =
        [((m.noted t).step.machine.timers.tick (m.elapsed t)).1.fired] := by
      rw [report?, cycleBy_eq]
      rfl
    have hcall : m.call (.cycle t) = (m.noted t).step.machine.ticked (m.elapsed t) :=
      m.cycleBy_snd t
    rw [hreport, hcall]
    exact ⟨congrArg (fun b => [b]) htick.1, htick.2⟩

/-- **The steps that fire in a run are those of the gate**: nothing but the elapsed times goes into
them. -/
theorem fired_reports (m : Machine τ) {cs : List (Call τ)} (hcs : ∀ c ∈ cs, c.restarts = false) :
    (m.reports cs).map CycleReport.fired = Timers.firings m.timers.gathered (m.elapsedTimes cs) ∧
      (m.calls cs).timers.gathered = Timers.gatheredAfter m.timers.gathered (m.elapsedTimes cs) ∧
      (m.calls cs).timers.ticks =
        m.timers.ticks + ((m.reports cs).map CycleReport.fired).count true := by
  induction cs generalizing m with
  | nil => exact ⟨rfl, rfl, rfl⟩
  | cons c cs ih =>
    obtain ⟨hfired, hgathered, hticks⟩ := m.gate_of_call (hcs c List.mem_cons_self)
    obtain ⟨hfireds, hgathereds, htickss⟩ :=
      ih (m.call c) fun d hd => hcs d (List.mem_cons_of_mem c hd)
    rw [reports, elapsedTimes, List.map_append, List.count_append, calls_cons]
    refine ⟨?_, ?_, ?_⟩
    · rw [Timers.firings_append, hfired, hfireds, hgathered]
    · rw [Timers.gatheredAfter_append, hgathereds, hgathered]
    · rw [htickss, hticks, Nat.add_assoc]

/-- **The cadence of the timers is independent of the program.** Take two machines with the same
time gathered, in whatever state they are otherwise, and any two runs of cycles, keys and pictures
whose cycles account for the same times. Cycle by cycle a step fires in both or in neither, namely
when the gate says so; both counts of steps grow by the number of them; and the time gathered is the
same again. -/
theorem cadence_independent {m n : Machine τ} (h : m.timers.gathered = n.timers.gathered)
    {cs ds : List (Call τ)} (hcs : ∀ c ∈ cs, c.restarts = false)
    (hds : ∀ d ∈ ds, d.restarts = false) (he : m.elapsedTimes cs = n.elapsedTimes ds) :
    (m.reports cs).map CycleReport.fired = (n.reports ds).map CycleReport.fired ∧
      (m.reports cs).map CycleReport.fired =
        Timers.firings m.timers.gathered (m.elapsedTimes cs) ∧
      (∃ k, k = ((m.reports cs).map CycleReport.fired).count true ∧
        (m.calls cs).timers.ticks = m.timers.ticks + k ∧
        (n.calls ds).timers.ticks = n.timers.ticks + k) ∧
      (m.calls cs).timers.gathered = (n.calls ds).timers.gathered := by
  obtain ⟨hm, hmg, hmt⟩ := m.fired_reports hcs
  obtain ⟨hn, hng, hnt⟩ := n.fired_reports hds
  have hfired : (m.reports cs).map CycleReport.fired = (n.reports ds).map CycleReport.fired := by
    rw [hm, hn, h, he]
  refine ⟨hfired, hm, ⟨_, rfl, hmt, ?_⟩, ?_⟩
  · rw [hnt, hfired]
  · rw [hmg, hng, h, he]

/-- A program that sets both timers over and over. -/
def settingTimers : List UInt8 := [0x60, 0x05, 0xF0, 0x15, 0xF0, 0x18, 0x12, 0x02]

/-- A machine that sets its timers, with a key moved on the way, and a machine that has no program
and meets a fault in every cycle. -/
theorem cadence_independent_settingTimers :
    let m : Machine Rat := (initial 0).call (.load settingTimers "")
    let n : Machine Rat := initial 1
    let cs : List (Call Rat) := [.cycle (.told (1 / 100)), .key 3 true, .cycle (.told (1 / 100)),
      .cycle (.told (1 / 100))]
    let ds : List (Call Rat) := [.cycle (.told (1 / 100)), .cycle (.told (1 / 100)), .present,
      .cycle (.told (1 / 100))]
    m.timers.gathered = n.timers.gathered ∧ (∀ c ∈ cs, c.restarts = false) ∧
      (∀ d ∈ ds, d.restarts = false) ∧ m.elapsedTimes cs = n.elapsedTimes ds ∧
      (m.reports cs).map CycleReport.fired = (n.reports ds).map CycleReport.fired ∧
      (m.reports cs).map CycleReport.fired = [false, true, false] := by
  intro m n cs ds
  have hcs : ∀ c ∈ cs, c.restarts = false := by simp [cs, Call.restarts]
  have hds : ∀ d ∈ ds, d.restarts = false := by simp [ds, Call.restarts]
  have hm : m.elapsedTimes cs = [1 / 100, 1 / 100, 1 / 100] := rfl
  have hn : n.elapsedTimes ds = [1 / 100, 1 / 100, 1 / 100] := rfl
  have h := cadence_independent (m := m) (n := n) rfl hcs hds (hm.trans hn.symm)
  have hgate : Timers.firings (0 : Rat) [1 / 100, 1 / 100, 1 / 100] = [false, true, false] := by
    decide +kernel
  exact ⟨rfl, hcs, hds, hm.trans hn.symm, h.1, h.2.1.trans hgate⟩

end Machine

end Chip8
