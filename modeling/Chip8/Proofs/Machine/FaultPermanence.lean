import Chip8.Proofs.Machine.InPlace

/-!
# Faults change nothing and do not go away

A cycle that reports a fault leaves the machine as it was, one account of time for the timers apart.
From then on the machine is stuck: whatever keys are moved, pictures taken and cycles run, every
cycle reports the same fault again, until a reset or a load.

* `Stuck.calls`: the invariant, over any sequence of calls that restarts nothing.
* `fault_permanent`: both parts, for every machine.
-/

namespace Chip8.Machine

variable {τ : Type} {m : Machine τ} {f : Fault}

/-- The next cycle, whenever it comes, reports `f`. -/
def Stuck (m : Machine τ) (f : Fault) : Prop :=
  m.status = .running ∧ m.Faults f

variable [Seconds τ]

theorem stuck_of_cycle {t : Timing τ} (h : (m.cycleBy t).1.fault = some f) : m.Stuck f := by
  rw [cycleBy_fault] at h
  obtain ⟨hs, hf⟩ := step_fault_eq_some_iff.mp h
  exact ⟨hs, faults_noted.mp hf⟩

/-- A stuck machine's cycle reports the fault and gives the timers their time. -/
theorem Stuck.cycle (h : m.Stuck f) (t : Timing τ) :
    (m.cycleBy t).1.fault = some f ∧ (m.cycleBy t).2 = (m.noted t).ticked (m.elapsed t) := by
  have hf : (m.noted t).step.fault = some f :=
    step_fault_eq_some_iff.mpr ⟨h.1, faults_noted.mpr h.2⟩
  refine ⟨by rw [cycleBy_fault, hf], ?_⟩
  rw [cycleBy_snd, step_of_fault _ (by rw [hf]; rfl)]

/-- **What one call preserves**: only a restart frees a stuck machine. -/
theorem Stuck.call (h : m.Stuck f) {c : Call τ} (hc : c.restarts = false) : (m.call c).Stuck f := by
  obtain ⟨hs, hf⟩ := h
  cases c with
  | reset => cases hc
  | load image name => cases hc
  | loadFile tree path => cases hc
  | key code down => exact ⟨hs, hf.congr rfl rfl rfl⟩
  | present => exact ⟨hs, hf.congr rfl rfl rfl⟩
  | cycle t =>
    have hn : m.call (.cycle t) = (m.noted t).ticked (m.elapsed t) := (Stuck.cycle ⟨hs, hf⟩ t).2
    rw [hn]
    exact ⟨hs, hf.congr rfl rfl rfl⟩

theorem Stuck.calls (h : m.Stuck f) {cs : List (Call τ)} (hcs : ∀ c ∈ cs, c.restarts = false) :
    (m.calls cs).Stuck f := by
  induction cs generalizing m with
  | nil => exact h
  | cons c cs ih =>
    exact ih (h.call (hcs c List.mem_cons_self)) fun d hd => hcs d (List.mem_cons_of_mem c hd)

/-- **A fault changes nothing and stays.** If a cycle reports a fault, then all it changed is one
account of time for the timers (and the note of the clock, if it read it), and this also if it is
carried out in place, where a refused instruction leaves what it wrote before; and after any further
calls but resets and loads, every cycle reports the same fault and again changes nothing else. This
holds of every machine, reachable or not. -/
theorem fault_permanent {t : Timing τ} (h : (m.cycleBy t).1.fault = some f) :
    InPlace.step (m.noted t) = .error f (m.noted t) ∧
    (m.cycleBy t).2 = (m.noted t).ticked (m.elapsed t) ∧
    ∀ cs : List (Call τ), (∀ c ∈ cs, c.restarts = false) → ∀ u : Timing τ,
      (((m.cycleBy t).2.calls cs).cycleBy u).1.fault = some f ∧
      (((m.cycleBy t).2.calls cs).cycleBy u).2 =
        (((m.cycleBy t).2.calls cs).noted u).ticked (((m.cycleBy t).2.calls cs).elapsed u) := by
  have hm := stuck_of_cycle h
  have hstep : (m.noted t).step.fault = some f := by rw [← cycleBy_fault, h]
  refine ⟨?_, (hm.cycle t).2, fun cs hcs u => ?_⟩
  · rw [InPlace.step_eq, hstep]
  · have hn : (m.cycleBy t).2.Stuck f := hm.call (c := .cycle t) rfl
    exact (hn.calls hcs).cycle u

/-- A new machine has no instruction at its program counter. -/
theorem fault_permanent_initial :
    ((initial 0 : Machine Rat).cycleBy (.told 0)).1.fault = some (.unknownOpcode 0 (some 512)) ∧
    ∀ cs : List (Call Rat), (∀ c ∈ cs, c.restarts = false) →
      ((((initial 0 : Machine Rat).cycleBy (.told 0)).2.calls cs).cycleBy (.told 0)).1.fault =
        some (.unknownOpcode 0 (some 512)) := by
  have h : ((initial 0 : Machine Rat).cycleBy (.told 0)).1.fault =
      some (.unknownOpcode 0 (some 512)) := by decide +kernel
  exact ⟨h, fun cs hcs => ((fault_permanent h).2.2 cs hcs (.told 0)).1⟩

end Chip8.Machine
