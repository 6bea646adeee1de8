import Chip8.Proofs.Machine.WellFormed
import Chip8.Proofs.Session.Lifecycle

/-!
# Frames in batches

How many instructions a frame is given is up to the host, and does not matter: two frames, one right
after the other, do what one frame does that is given as many as both. The work of cycles does not
depend on what was done before them in the frame (`runCycles_eq_andThen`), and a batch can be cut
anywhere (`runCycles_add`); where the first part meets a fault, the second finds a session that may
not run.

Three accounts are kept of a frame: the number that it returns, the count of the machine, and the
trouble of the session. They agree (`FrameRun.Counts`).

* `runFrame_batches`: both, for every session, clock and number of instructions.
* `acts_runFrames`: any number of frames in a row are one.
-/

namespace Chip8

/-- Two frames, one right after the other, taken as one. -/
def FrameRun.andThen {τ : Type} (first second : FrameRun τ) : FrameRun τ :=
  { second with
    done := first.done + second.done
    notices := first.notices ++ second.notices }

/-- **What a frame of up to `k` instructions leaves behind in its three accounts.** -/
structure FrameRun.Counts {τ : Type} (run : FrameRun τ) (s : Session τ) (k : Nat) : Prop where
  /-- The machine counted what the frame says was done. -/
  cycles : run.session.machine.cycles = s.machine.cycles + run.done
  le : run.done ≤ k
  /-- A session that may run has no trouble, and falls short just if a fault becomes its trouble. -/
  short : s.runnable = true →
    s.trouble = none ∧ (run.done < k ↔ ∃ f, run.session.trouble = some (.fault f))

namespace Session

variable {τ : Type} [Seconds τ]

/-! ## Cycles -/

theorem runCycles_of_fault {r : FrameRun τ} {f : Fault}
    (h : (r.session.machine.cycleAt r.clock.read.1).1.fault = some f) (n : Nat) :
    runCycles (n + 1) r =
      { r with
        session := { r.session with
          machine := (r.session.machine.cycleAt r.clock.read.1).2
          trouble := some (.fault f) }
        clock := r.clock.read.2
        notices := r.notices ++
          (r.session.machine.cycleAt r.clock.read.1).1.notices.toArray } := by
  rw [runCycles]
  simp only [h]

/-- One more instruction of a frame is done. -/
def cycled (r : FrameRun τ) : FrameRun τ where
  session := { r.session with machine := (r.session.machine.cycleAt r.clock.read.1).2 }
  clock := r.clock.read.2
  done := r.done + 1
  notices := r.notices ++ (r.session.machine.cycleAt r.clock.read.1).1.notices.toArray

theorem runCycles_of_ok {r : FrameRun τ}
    (h : (r.session.machine.cycleAt r.clock.read.1).1.fault = none) (n : Nat) :
    runCycles (n + 1) r = runCycles n (cycled r) := by
  rw [runCycles]
  simp only [h]
  rfl

/-- **What cycles do does not depend on what the frame did before.** -/
theorem runCycles_eq_andThen (n : Nat) (r : FrameRun τ) :
    runCycles n r = r.andThen (runCycles n ⟨r.session, r.clock, 0, #[]⟩) := by
  induction n generalizing r with
  | zero => simp [runCycles, FrameRun.andThen]
  | succ n ih =>
    cases hf : (r.session.machine.cycleAt r.clock.read.1).1.fault with
    | some f =>
      rw [runCycles_of_fault hf, runCycles_of_fault (r := ⟨r.session, r.clock, 0, #[]⟩) hf]
      simp [FrameRun.andThen]
    | none =>
      rw [runCycles_of_ok hf, runCycles_of_ok (r := ⟨r.session, r.clock, 0, #[]⟩) hf, ih,
        ih (cycled ⟨r.session, r.clock, 0, #[]⟩)]
      simp [FrameRun.andThen, cycled, Nat.add_assoc]

/-- **A batch of cycles can be cut anywhere**: nothing is left for the second part to do if the
first met a fault. -/
theorem runCycles_add (n m : Nat) {r : FrameRun τ} (h : r.session.trouble = none) :
    runCycles (n + m) r =
      if (runCycles n r).session.trouble.isSome then runCycles n r
      else runCycles m (runCycles n r) := by
  induction n generalizing r with
  | zero =>
    rw [Nat.zero_add, runCycles, h]
    rfl
  | succ n ih =>
    rw [Nat.add_right_comm]
    cases hf : (r.session.machine.cycleAt r.clock.read.1).1.fault with
    | some f =>
      rw [runCycles_of_fault hf, runCycles_of_fault hf]
      rfl
    | none =>
      rw [runCycles_of_ok hf, runCycles_of_ok hf]
      exact ih h

/-- Cycles neither unload a program nor pause a session: only trouble keeps it from running on. -/
theorem runnable_runCycles (n : Nat) {r : FrameRun τ} (h : r.session.runnable = true) :
    (runCycles n r).session.runnable = (runCycles n r).session.trouble.isNone := by
  obtain ⟨himage, hpaused, -⟩ := runnable_iff.mp h
  obtain ⟨himage', -, -, hpaused'⟩ := kept_runCycles n r
  rw [runnable, himage', hpaused', himage, hpaused]
  rfl

/-- The three accounts of a frame under way. -/
theorem counts_runCycles (n : Nat) {r : FrameRun τ} (h : r.session.trouble = none) :
    (runCycles n r).session.machine.cycles + r.done =
        r.session.machine.cycles + (runCycles n r).done ∧
      (runCycles n r).done ≤ r.done + n ∧
      ((runCycles n r).done < r.done + n ↔
        ∃ f, (runCycles n r).session.trouble = some (.fault f)) := by
  induction n generalizing r with
  | zero => simp [runCycles, h]
  | succ n ih =>
    have hcycles : (r.session.machine.cycleAt r.clock.read.1).2.cycles = r.session.machine.cycles +
        if (r.session.machine.cycleAt r.clock.read.1).1.fault.isSome then 0 else 1 :=
      (r.session.machine.noted (.measured r.clock.read.1)).cycles_of_step
    cases hf : (r.session.machine.cycleAt r.clock.read.1).1.fault with
    | some f =>
      rw [hf] at hcycles
      rw [runCycles_of_fault hf]
      refine ⟨congrArg (· + r.done) hcycles, Nat.le_add_right .., ?_⟩
      exact ⟨fun _ => ⟨f, rfl⟩, fun _ => Nat.lt_add_of_pos_right n.succ_pos⟩
    | none =>
      rw [hf] at hcycles
      rw [runCycles_of_ok hf]
      obtain ⟨htotal, hle, hshort⟩ := ih (r := cycled r) h
      have hmachine : (cycled r).session.machine.cycles = r.session.machine.cycles + 1 := hcycles
      have hdone : (cycled r).done = r.done + 1 := rfl
      rw [hmachine, hdone] at htotal
      rw [hdone] at hle hshort
      rw [← hshort]
      omega

/-! ## Frames -/

theorem runFrame_of_runnable {s : Session τ} (h : s.runnable = true) (clock : Clock τ) (n : Nat) :
    s.runFrame clock n = runCycles n ⟨s, clock, 0, #[]⟩ :=
  if_pos h

/-- Two frames in a row. -/
theorem runFrame_add (s : Session τ) (clock : Clock τ) (n m : Nat) :
    s.runFrame clock (n + m) =
      (s.runFrame clock n).andThen
        ((s.runFrame clock n).session.runFrame (s.runFrame clock n).clock m) := by
  cases hs : s.runnable with
  | false =>
    rw [runFrame_of_not_runnable hs, runFrame_of_not_runnable hs, runFrame_of_not_runnable hs]
    rfl
  | true =>
    have htrouble := (runnable_iff.mp hs).2.2
    rw [runFrame_of_runnable hs, runFrame_of_runnable hs, runCycles_add n m htrouble]
    have hfirst := runnable_runCycles n (r := ⟨s, clock, 0, #[]⟩) hs
    generalize runCycles n ⟨s, clock, 0, #[]⟩ = first at hfirst ⊢
    cases ht : first.session.trouble with
    | some t =>
      rw [ht] at hfirst
      rw [runFrame_of_not_runnable hfirst]
      simp [FrameRun.andThen]
    | none =>
      rw [ht] at hfirst
      rw [runFrame_of_runnable hfirst]
      exact runCycles_eq_andThen m first

theorem counts_runFrame (s : Session τ) (clock : Clock τ) (k : Nat) :
    (s.runFrame clock k).Counts s k := by
  cases hs : s.runnable with
  | false =>
    rw [runFrame_of_not_runnable hs]
    exact ⟨rfl, k.zero_le, fun h => absurd (hs.symm.trans h) Bool.false_ne_true⟩
  | true =>
    have htrouble := (runnable_iff.mp hs).2.2
    obtain ⟨hcycles, hle, hshort⟩ := counts_runCycles k (r := ⟨s, clock, 0, #[]⟩) htrouble
    rw [Nat.zero_add] at hle hshort
    rw [runFrame_of_runnable hs]
    exact ⟨hcycles, hle, fun _ => ⟨htrouble, hshort⟩⟩

/-- **Batching does not matter.** For every session, clock and numbers of instructions: a frame does
what two frames do that are given as many between them, so it leaves the same session and the same
clock, read as often, tells the same and returns the sum; and the accounts of every frame agree. -/
theorem runFrame_batches (s : Session τ) (clock : Clock τ) :
    (∀ n m, s.runFrame clock (n + m) =
      (s.runFrame clock n).andThen
        ((s.runFrame clock n).session.runFrame (s.runFrame clock n).clock m)) ∧
      ∀ k, (s.runFrame clock k).Counts s k :=
  ⟨s.runFrame_add clock, s.counts_runFrame clock⟩

/-- A program that returns, at its third instruction, from a routine that nothing called. -/
def returning : List UInt8 := [0x60, 0x05, 0x61, 0x02, 0x00, 0xEE]

/-- A frame that ends short of the fault, and one that is given an instruction more. -/
theorem runFrame_batches_returning :
    let s : Session Rat := ofMachine ((Machine.initial 0).load returning "")
    let clock : Clock Rat := .ofList 0 []
    s.runnable = true ∧ (s.runFrame clock 2).done = 2 ∧
      (s.runFrame clock 2).session.trouble = none ∧ (s.runFrame clock 3).done = 2 ∧
      ∃ f, (s.runFrame clock 3).session.trouble = some (.fault f) := by
  intro s clock
  have hs : s.runnable = true := rfl
  have htwo : (s.runFrame clock 2).done = 2 := by decide +kernel
  have hthree : (s.runFrame clock (2 + 1)).done = 2 := by decide +kernel
  have hnone : (s.runFrame clock 2).session.trouble = none := by decide +kernel
  obtain ⟨-, hshort⟩ := ((s.runFrame_batches clock).2 (2 + 1)).short hs
  exact ⟨hs, htwo, hnone, hthree, hshort.mp (by rw [hthree]; decide)⟩

end Session

/-- Any number of frames in a row are one. -/
theorem SessionRun.acts_runFrames {τ : Type} [Seconds τ] (r : SessionRun τ) (ks : List Nat) :
    r.acts (ks.map .runFrame) = r.act (.runFrame ks.sum) := by
  induction ks generalizing r with
  | nil =>
    have hnone : r.session.runFrame r.clock 0 = ⟨r.session, r.clock, 0, #[]⟩ := by
      unfold Session.runFrame
      split <;> rfl
    show r = ⟨(r.session.runFrame r.clock 0).session, (r.session.runFrame r.clock 0).clock⟩
    rw [hnone]
  | cons k ks ih =>
    have hsum := r.session.runFrame_add r.clock k ks.sum
    rw [List.sum_cons]
    show (r.act (.runFrame k)).acts (ks.map .runFrame) = ⟨_, _⟩
    rw [ih, hsum]
    rfl

end Chip8
