import Chip8.Proofs.Bare.Operations

/-!
# A bare machine does what a machine does

Cycles, restarts and whole sequences of calls of a bare machine, compared with those of the machine
that it was laid out from.

* `runs_cycle`: a cycle meets no accident but a fault, which it reports.
* `runs_reset`: a reset in place leaves a new machine, whatever it was done to.
* `runs_history`: whatever happens to a new machine happens to it without an accident.
-/

namespace Chip8

namespace Bare

open Machine (initial)

variable {τ : Type} {m : Machine τ} {s : Bare τ}

/-! ## Steps -/

/-- The word that is read goes to the tables. -/
theorem fetch_of_readWord {w : Word} (h : m.memory.readWord m.registers.pc.toNat = .ok w) :
    fetch m.bare = (try decode (w.toNat : Int)
      catch
        | .fault (.unknownOpcode _ _) =>
          throw (.fault (.unknownOpcode w.toNat (some m.registers.pc.toNat)))
        | accident => throw accident : Work τ (Int × Operation)) m.bare :=
  (runs_get.apply).trans (runs_readWord h).apply

/-- A word is fetched with the operation that it stands for, and refused if there is none. -/
theorem fetch_cases (m : Machine τ) :
    (∃ (w : Word) (o : Operation), m.fetch = .ok ⟨w, o.instruction w⟩ ∧
      Runs fetch m.bare ((w.toNat : Int), o) m.bare) ∨
    ∃ f, m.fetch = .error f ∧ Refused fetch m.bare f := by
  cases hw : m.memory.readWord m.registers.pc.toNat with
  | error f =>
    refine Or.inr ⟨f, ?_, runs_get.refused (refused_readWord hw).bind⟩
    rw [Machine.fetch, hw]
    rfl
  | ok w =>
    have hfetch := fetch_of_readWord hw
    have hmachine := Machine.fetch_of_readWord hw
    unfold decoded? at hmachine
    have hdecodes := decodes (τ := τ) w
    generalize hi : Chip8.decode w = i at hdecodes
    cases hdecodes with
    | known o hdecode =>
      rw [hi] at hmachine
      rw [hdecode] at hfetch
      exact Or.inl ⟨w, o, hmachine, hfetch⟩
    | unknown hdecode =>
      rw [hi] at hmachine
      rw [hdecode] at hfetch
      exact Or.inr ⟨_, hmachine, hfetch⟩

theorem step_of_awaiting (hs : m.status = .awaitingKey) :
    step m.bare = (discard (resolveKey (m.keyRegister.val : Int)) >>= fun _ =>
      modify fun s => { s with cycles := s.cycles + 1 } : Work τ Unit) m.bare := by
  refine runs_get.apply.trans ?_
  rw [Machine.bare_status, hs]
  rfl

theorem step_of_running (hs : m.status = .running) :
    step m.bare = (fetch >>= fun d => perform d.2 d.1 >>= fun _ =>
      modify fun s => { s with cycles := s.cycles + 1 } : Work τ Unit) m.bare := by
  refine runs_get.apply.trans ?_
  rw [Machine.bare_status, hs]

/-- **A step meets no accident** but the fault that the machine's step reports. -/
theorem step_eq (hm : m.WellFormed) :
    step m.bare = match m.step.fault with
      | none => .ok () m.step.machine.bare
      | some f => .error (.fault f) m.bare := by
  cases hs : m.status with
  | awaitingKey =>
    have hp := (hm.waiting hs).1
    rw [Machine.step_of_awaiting hs]
    exact (step_of_awaiting hs).trans
      ((runs_resolveKey hp m.keyRegister).discard.bind (runs_modify rfl))
  | running =>
    rcases fetch_cases m with ⟨w, o, hd, hfetch⟩ | ⟨f, hd, hrefused⟩
    · obtain ⟨hp, -, -⟩ := Machine.fetch_eq_ok_iff.mp hd
      have hperform := perform_eq hm hp o w
      cases he : m.execute (o.instruction w) with
      | error f =>
        rw [Machine.step_of_execute_error hs hd he]
        rw [he] at hperform
        exact (step_of_running hs).trans (hfetch.refused (Refused.bind hperform))
      | ok n =>
        rw [Machine.step_of_execute hs hd he]
        rw [he] at hperform
        exact (step_of_running hs).trans (hfetch.bind (Runs.bind hperform (runs_modify rfl)))
    · rw [Machine.step_of_fetch_error hs hd]
      exact (step_of_running hs).trans hrefused.bind

/-- A fault that a step meets is caught. -/
theorem runs_attempt (hm : m.WellFormed) :
    Runs attempt m.bare m.step.fault m.step.machine.bare := by
  have hstep := step_eq hm
  cases hf : m.step.fault with
  | none =>
    rw [hf] at hstep
    have hdone : Runs step m.bare () m.step.machine.bare := hstep
    exact (hdone.bind (runs_pure none)).tryCatch
  | some f =>
    rw [hf] at hstep
    rw [m.step_of_fault (by rw [hf]; rfl)]
    have hrefused : Refused step m.bare f := hstep
    exact hrefused.bind.tryCatch

/-! ## Images -/

theorem runs_loadImage (image : List UInt8) :
    Runs (loadImage image) m.bare (Memory.imageSize image : Int)
      ({ m with memory := m.memory.loadImage image } : Machine τ).bare := by
  have hslice : slice image 0 maxImageSize = image.take maxImageSize :=
    slice_natCast image 0 maxImageSize
  have hfit : programStart + (image.take maxImageSize).length ≤ 4096 := by
    rw [List.length_take]
    simp only [programStart, maxImageSize, memorySize]
    omega
  have hsize : ((image.take maxImageSize).length : Int) = Memory.imageSize image := by
    rw [List.length_take, Nat.min_comm]
    rfl
  unfold loadImage
  simp only [hslice, length_numbers]
  rw [← hsize]
  refine (runs_modify ?_).bind (runs_pure _)
  exact congrArg (fun memory => { m.bare with memory }) (splice_memory _ hfit)

/-- The layout of a machine with another memory and what is known of the image in it. -/
theorem bare_withImage (m : Machine τ) (memory : Memory) (info : ImageInfo) :
    ({ m with memory, image := some info } : Machine τ).bare =
      { m.bare with
        memory := numbers memory.cells.toList
        loaded := true
        imageName := info.name
        imageSize := info.size } := rfl

/-- An image is copied, and noted. -/
theorem runs_copied (m : Machine τ) (image : List UInt8) (name : String) :
    Runs (do
        let size ← loadImage image
        modify ({ · with loaded := true, imageName := Chip8.imageName name, imageSize := size })
        return size) m.bare (Memory.imageSize image : Int)
      ({ m with
        memory := m.memory.loadImage image
        image := some ⟨Chip8.imageName name, Memory.imageSize image⟩ } : Machine τ).bare := by
  rw [bare_withImage]
  exact (runs_loadImage image).bind ((runs_modify rfl).bind (runs_pure _))

/-! ## Cycles -/

variable [Seconds τ]

theorem runs_measure (t : Timing τ) : Runs (measure t) m.bare (m.elapsed t) (m.noted t).bare := by
  cases t with
  | told elapsed => exact runs_pure elapsed
  | measured now =>
    refine runs_get.bind ((runs_set rfl).bind ?_)
    unfold Machine.elapsed Machine.elapsedTo
    rw [Machine.bare_lastReading]
    cases m.lastReading with
    | none => exact runs_pure _
    | some last => exact runs_pure _

/-- **A cycle meets no accident but a fault**, which it reports. -/
theorem runs_cycle (hm : m.WellFormed) (t : Timing τ) :
    Runs (cycle t) m.bare (m.cycleBy t).1.fault (m.cycleBy t).2.bare := by
  rw [Machine.cycleBy_fault, Machine.cycleBy_snd]
  exact (runs_measure t).bind ((runs_attempt (hm.noted t)).bind
    ((runs_modify rfl).bind (runs_pure _)))

/-! ## Restarts -/

theorem splice_glyphs :
    splice (List.replicate memorySize 0) 0 glyphEnd (numbers glyphBytes) =
      numbers Memory.initial.cells.toList := by
  have hzero : List.replicate memorySize (0 : Int) =
      numbers (Vector.replicate 4096 (0 : UInt8)).toList := by
    rw [Vector.toList_replicate, numbers, List.map_replicate]
    rfl
  rw [hzero]
  exact splice_memory ⟨Vector.replicate 4096 0⟩ (by decide : 0 + glyphBytes.length ≤ 4096)

/-- **A reset in place leaves a new machine**, if the pixels are as many as they should be. -/
theorem runs_reset (h : s.pixels.length = 2048) :
    Runs reset s () (initial s.seed : Machine τ).bare := by
  have hpixels : List.replicate s.pixels.length 0 = Screen.initial.frame.plane.pixels := by
    rw [h, ← pixels_dark]
    exact congrArg Plane.pixels (Screen.plane_clear .initial).symm
  show EStateM.Result.ok () ({ (initial s.seed : Machine τ).bare with
    memory := splice (List.replicate memorySize 0) 0 glyphEnd (numbers glyphBytes)
    pixels := List.replicate s.pixels.length 0 } : Bare τ) = _
  rw [splice_glyphs, hpixels]
  rfl

theorem runs_reset_bare (m : Machine τ) : Runs reset m.bare () m.reset.bare :=
  runs_reset (length_pixels _)

theorem runs_load (m : Machine τ) (image : List UInt8) (name : String) :
    Runs (load image name) m.bare (Memory.imageSize image : Int) (m.load image name).bare :=
  (runs_reset_bare m).bind (runs_copied m.reset image name)

theorem runs_loadFile (m : Machine τ) (tree : FileTree) (path : String) :
    Runs (loadFile tree path) m.bare
      ((m.loadFile tree path).answer.map fun size : Nat => (size : Int))
      (m.loadFile tree path).machine.bare := by
  refine (runs_reset_bare m).bind ?_
  unfold Machine.loadFile
  cases tree.read path with
  | error e => exact runs_pure _
  | ok image => exact (runs_load m.reset image _).bind (runs_pure _)

/-! ## Calls -/

theorem runs_call (hm : m.WellFormed) (c : Call τ) : Runs (call c) m.bare () (m.call c).bare := by
  cases c with
  | reset => exact runs_reset_bare m
  | load image name => exact (runs_load m image name).discard
  | loadFile tree path => exact (runs_loadFile m tree path).discard
  | key code down => exact runs_setKey code down
  | present => exact runs_modify rfl
  | cycle t => exact (runs_cycle hm t).bind (runs_pure ())

/-! ## Histories -/

/-- The machine once something happened to it. -/
def happen (m : Machine τ) : Event τ → Machine τ
  | .call c => m.call c
  | .stir random => { m with random }

theorem wellFormed_happen (hm : m.WellFormed) (e : Event τ) : (happen m e).WellFormed := by
  cases e with
  | call c => exact hm.call c
  | stir random => exact ⟨hm.glyphs, hm.pc_le, hm.returns, hm.timers, hm.waiting⟩

theorem wellFormed_happenings (hm : m.WellFormed) (es : List (Event τ)) :
    (es.foldl happen m).WellFormed := by
  induction es generalizing m with
  | nil => exact hm
  | cons e es ih => exact ih (wellFormed_happen hm e)

theorem runs_event (hm : m.WellFormed) (e : Event τ) :
    Runs (event e) m.bare () (happen m e).bare := by
  cases e with
  | call c => exact runs_call hm c
  | stir random => exact runs_modify rfl

theorem runs_events (hm : m.WellFormed) (es : List (Event τ)) :
    Runs (es.forM event) m.bare () (es.foldl happen m).bare := by
  induction es generalizing m with
  | nil => exact runs_pure ()
  | cons e es ih => exact (runs_event hm e).bind (ih (wellFormed_happen hm e))

/-- **Every history of a new machine** comes to the same in numbers. -/
theorem runs_history (seed : Nat) (es : List (Event τ)) :
    Runs (history es) (unset seed) () (es.foldl happen (initial seed)).bare := by
  have hpixels : (unset seed : Bare τ).pixels.length = 2048 := List.length_replicate
  exact (runs_reset hpixels).bind (runs_events (Machine.wellFormed_initial seed) es)

end Bare

end Chip8
