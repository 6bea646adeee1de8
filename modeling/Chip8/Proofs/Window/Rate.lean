import Chip8.Proofs.Session.Batching
import Chip8.Proofs.Window.Steady

/-!
# The rate of instructions

While the speed stays the same, every frame is given the same number of instructions: a frame's
exact share, rounded downwards. What is cut off is never made up for, so the machine falls behind
its rate by the same fraction of an instruction in every frame. It keeps to its rate for ever just
if there is nothing to cut off, and at a rate below one instruction a frame it stands still.

* `Window.rate_of_frames`: what frames are given, for how many frames that is near enough to the
  rate, and what the machine does with it.
* `Window.rate_lost`: with the usual settings it is not near enough after a second.
-/

namespace Chip8

namespace HostConfig

/-- A frame's share of the instructions, exactly. -/
def exactShare (c : HostConfig) (speed : Int) : ℚ :=
  (c.cpuFrequency * speed : Int) / (c.targetFps : ℚ)

variable {c : HostConfig} {speed : Int}

theorem floor_exactShare (hfps : 1 ≤ c.targetFps) :
    ⌊c.exactShare speed⌋ = c.frameShare speed := by
  obtain ⟨fps, hcast⟩ := Int.eq_ofNat_of_zero_le (by omega : 0 ≤ c.targetFps)
  rw [exactShare, frameShare, hcast, Int.fdiv_eq_ediv_of_nonneg _ (Int.natCast_nonneg fps)]
  exact Rat.floor_intCast_div_natCast _ fps

theorem exactShare_nonneg (hfrequency : 0 ≤ c.cpuFrequency) (hfps : 1 ≤ c.targetFps)
    (hspeed : 1 ≤ speed) : 0 ≤ c.exactShare speed := by
  have hproduct : 0 ≤ c.cpuFrequency * speed := Int.mul_nonneg hfrequency (by omega)
  exact div_nonneg (by exact_mod_cast hproduct) (by exact_mod_cast (by omega : 0 ≤ c.targetFps))

/-- Nothing is cut off from a share just if the frames divide the instructions. -/
theorem fract_exactShare_eq_zero_iff (hfps : 1 ≤ c.targetFps) :
    Int.fract (c.exactShare speed) = 0 ↔ c.targetFps ∣ c.cpuFrequency * speed := by
  have hne : (c.targetFps : ℚ) ≠ 0 := by exact_mod_cast (by omega : c.targetFps ≠ 0)
  rw [Int.fract_eq_zero_iff, exactShare]
  constructor
  · rintro ⟨k, hk⟩
    rw [eq_div_iff hne] at hk
    exact ⟨k, (by exact_mod_cast hk.symm : _ = k * c.targetFps).trans (mul_comm ..)⟩
  · rintro ⟨k, hk⟩
    refine ⟨k, ?_⟩
    rw [hk, Int.cast_mul, mul_div_cancel_left₀ _ hne]

end HostConfig

namespace Window

/-- The instructions that a frame is given. -/
def share (w : Window) : Nat :=
  (w.config.frameShare w.speed).toNat

/-- The act is a frame that the thread does. -/
def doesFrame (w : Window) : WindowAct → Bool
  | .frame _ => w.doesFrames
  | _ => false

/-- The window as each frame finds it that is done during these acts. -/
def framed (w : Window) : List WindowAct → List Window
  | [] => []
  | a :: as => if w.doesFrame a then w :: (w.act a).framed as else (w.act a).framed as

/-- **The rate is kept** at speed `m`: what the frames were given is less than a frame's share and
one instruction away from what they should have been given. -/
def KeepsRate (w : Window) (m : Int) (as : List WindowAct) : Prop :=
  |(((w.framed as).map share).sum : ℚ) - (w.framed as).length * w.config.exactShare m| <
    w.config.exactShare m + 1

/-- The thread on its own, doing frames. -/
def frames (now : Float) (n : Nat) : List WindowAct :=
  List.replicate n (.frame now)

variable {w : Window}

/-! ## What frames are given -/

theorem config_of_mem_framed {as : List WindowAct} {v : Window} (hv : v ∈ w.framed as) :
    v.config = w.config := by
  induction as generalizing w with
  | nil => cases hv
  | cons a as ih =>
    rw [framed] at hv
    split at hv
    · rcases List.mem_cons.mp hv with rfl | hlater
      · rfl
      · exact (ih hlater).trans (w.settings_act a).1
    · exact (ih hv).trans (w.settings_act a).1

/-- At one speed every frame is given the same. -/
theorem sum_share {m : Int} {as : List WindowAct} (hspeed : ∀ v ∈ w.framed as, v.speed = m) :
    ((w.framed as).map share).sum = (w.framed as).length * (w.config.frameShare m).toNat := by
  have hsame : ∀ k ∈ (w.framed as).map share, k = (w.config.frameShare m).toNat := by
    intro k hk
    obtain ⟨v, hv, rfl⟩ := List.mem_map.mp hk
    rw [share, config_of_mem_framed hv, hspeed v hv]
  rw [List.sum_eq_card_nsmul _ _ hsame, List.length_map, smul_eq_mul]

/-! ## The thread on its own -/

theorem act_frame (hdoes : w.doesFrames = true) (now : Float) :
    w.act (.frame now) = w.runFrame now :=
  if_pos hdoes

theorem doesFrames_runFrame (now : Float) : (w.runFrame now).doesFrames = w.doesFrames := by
  obtain ⟨bell, journal, hframe⟩ := w.runFrame_eq now
  rw [doesFrames, hframe]
  rfl

theorem speed_runFrame (now : Float) : (w.runFrame now).speed = w.speed := by
  obtain ⟨bell, journal, hframe⟩ := w.runFrame_eq now
  rw [hframe]

/-- No frame changes what the next one is given. -/
theorem share_runFrame (now : Float) : (w.runFrame now).share = w.share := by
  obtain ⟨bell, journal, hframe⟩ := w.runFrame_eq now
  rw [share, hframe]
  rfl

theorem framed_frames (hdoes : w.doesFrames = true) (now : Float) (n : Nat) :
    (w.framed (frames now n)).length = n ∧ ∀ v ∈ w.framed (frames now n), v.speed = w.speed := by
  induction n generalizing w with
  | zero => exact ⟨rfl, fun v hv => absurd hv List.not_mem_nil⟩
  | succ n ih =>
    obtain ⟨hlength, hsame⟩ := ih ((doesFrames_runFrame now).trans hdoes)
    have hframed : w.framed (frames now (n + 1)) = w :: (w.runFrame now).framed (frames now n) := by
      rw [← act_frame hdoes now]
      exact if_pos hdoes
    rw [hframed]
    refine ⟨congrArg (· + 1) hlength, fun v hv => ?_⟩
    rcases List.mem_cons.mp hv with rfl | hlater
    · rfl
    · exact (hsame v hlater).trans (speed_runFrame now)

/-- The frames of the thread on its own are frames of its session. -/
theorem emulate_eq_acts (hdoes : w.doesFrames = true) (began ended now : Float) (n : Nat) :
    (⟨(w.emulate began ended now n).2.session, (w.emulate began ended now n).2.clock⟩ :
        SessionRun Float) =
      SessionRun.acts ⟨w.session, w.clock⟩ ((List.replicate n w.share).map .runFrame) := by
  induction n generalizing w with
  | zero => rfl
  | succ n ih =>
    obtain ⟨bell, journal, hframe⟩ := w.runFrame_eq now
    have hloop : (w.emulate began ended now (n + 1)).2 =
        ((w.runFrame now).emulate began ended now n).2 := by
      rw [emulate, if_pos hdoes]
    rw [hloop, ih ((doesFrames_runFrame now).trans hdoes), share_runFrame, hframe]
    rfl

/-- **What the thread does with its instructions**: as much as in one frame that is given all of
them. -/
theorem session_emulate (hdoes : w.doesFrames = true) (began ended now : Float) (n : Nat) :
    (w.emulate began ended now n).2.session =
      (w.session.runFrame w.clock (n * w.share)).session := by
  have hframes := congrArg SessionRun.session (emulate_eq_acts hdoes began ended now n)
  rw [SessionRun.acts_runFrames, List.sum_replicate, smul_eq_mul] at hframes
  exact hframes

/-! ## The rate -/

variable {m : Int}

theorem cast_sum_share (hfrequency : 0 ≤ w.config.cpuFrequency) (hfps : 1 ≤ w.config.targetFps)
    (hm : 1 ≤ m) {as : List WindowAct} (hspeed : ∀ v ∈ w.framed as, v.speed = m) :
    (((w.framed as).map share).sum : ℚ) =
      (w.framed as).length * (⌊w.config.exactShare m⌋ : ℚ) := by
  have hnonneg : 0 ≤ ⌊w.config.exactShare m⌋ :=
    Int.floor_nonneg.mpr (HostConfig.exactShare_nonneg hfrequency hfps hm)
  rw [HostConfig.floor_exactShare hfps] at hnonneg ⊢
  have hcast : ((w.config.frameShare m).toNat : ℚ) = w.config.frameShare m := by
    exact_mod_cast Int.toNat_of_nonneg hnonneg
  rw [sum_share hspeed, Nat.cast_mul, hcast]

/-- What is cut off adds up. -/
theorem keepsRate_iff (hfrequency : 0 ≤ w.config.cpuFrequency) (hfps : 1 ≤ w.config.targetFps)
    (hm : 1 ≤ m) {as : List WindowAct} (hspeed : ∀ v ∈ w.framed as, v.speed = m) :
    w.KeepsRate m as ↔
      (w.framed as).length * Int.fract (w.config.exactShare m) < w.config.exactShare m + 1 := by
  have hshort : (w.framed as).length * (⌊w.config.exactShare m⌋ : ℚ) -
      (w.framed as).length * w.config.exactShare m =
        -((w.framed as).length * Int.fract (w.config.exactShare m)) := by
    rw [Int.fract]
    ring
  have hfract : 0 ≤ ((w.framed as).length : ℚ) * Int.fract (w.config.exactShare m) :=
    mul_nonneg (Nat.cast_nonneg _) (Int.fract_nonneg _)
  rw [KeepsRate, cast_sum_share hfrequency hfps hm hspeed, hshort, abs_neg, abs_of_nonneg hfract]

/-- Only a rate with nothing to cut off is kept for any number of frames. -/
theorem forall_mul_fract_lt_iff {x : ℚ} (hx : 0 ≤ x) :
    (∀ n : ℕ, n * Int.fract x < x + 1) ↔ Int.fract x = 0 := by
  constructor
  · intro hall
    by_contra hne
    have hpos : 0 < Int.fract x := lt_of_le_of_ne (Int.fract_nonneg x) (Ne.symm hne)
    obtain ⟨n, hn⟩ := Archimedean.arch (x + 1) hpos
    rw [nsmul_eq_mul] at hn
    exact absurd (hall n) (not_lt.mpr hn)
  · intro hzero n
    rw [hzero, mul_zero]
    linarith

/-- **The rate of instructions** of a window at speed `m`. Whatever else happens between its frames,
they are given their number times the share rounded downwards, which is near enough to the rate as
long as the parts that were cut off add up to less than a frame's share and one. The thread on its
own does with them what one frame does that is given them all, and it is near enough for any number
of frames just if the frames of a second divide its instructions. -/
theorem rate_of_frames (hfrequency : 0 ≤ w.config.cpuFrequency) (hfps : 1 ≤ w.config.targetFps)
    (hm : 1 ≤ m) :
    let x := w.config.exactShare m
    (∀ as, (∀ v ∈ w.framed as, v.speed = m) →
      (((w.framed as).map share).sum : ℚ) = (w.framed as).length * (⌊x⌋ : ℚ) ∧
        (w.KeepsRate m as ↔ (w.framed as).length * Int.fract x < x + 1)) ∧
      (w.emulating = true → w.speed = m →
        (∀ began ended now n, (w.emulate began ended now n).2.session =
          (w.session.runFrame w.clock (n * ⌊x⌋.toNat)).session) ∧
        ((∀ now n, w.KeepsRate m (frames now n)) ↔
          w.config.targetFps ∣ w.config.cpuFrequency * m)) := by
  intro x
  refine ⟨fun as hspeed => ⟨cast_sum_share hfrequency hfps hm hspeed,
    keepsRate_iff hfrequency hfps hm hspeed⟩, fun hrunning hspeed => ?_⟩
  have hdoes : w.doesFrames = true :=
    Bool.and_eq_true_iff.mpr ⟨hrunning, decide_eq_true (by omega)⟩
  refine ⟨?_, ?_⟩
  · intro began ended now n
    rw [session_emulate hdoes, share, hspeed, ← HostConfig.floor_exactShare hfps]
  · have hkept (now : Float) (n : Nat) :
        w.KeepsRate m (frames now n) ↔ n * Int.fract x < x + 1 := by
      obtain ⟨hlength, hsame⟩ := framed_frames hdoes now n
      have hiff := keepsRate_iff hfrequency hfps hm fun v hv => (hsame v hv).trans hspeed
      rwa [hlength] at hiff
    have hx : 0 ≤ x := HostConfig.exactShare_nonneg hfrequency hfps hm
    rw [← HostConfig.fract_exactShare_eq_zero_iff hfps, ← forall_mul_fract_lt_iff hx]
    exact ⟨fun hall n => (hkept 0.0 n).mp (hall 0.0 n),
      fun hall now n => (hkept now n).mpr (hall n)⟩

/-! ## A second with the usual settings -/

/-- A program is loaded, and the thread does its frames for a second. -/
def firstSecond : List WindowAct :=
  .load SessionRun.zeroTree "a" :: frames 0.0 60

theorem framed_firstSecond (seed : Nat) (clock : Clock Float) :
    ((initial {} seed clock).framed firstSecond).length = 60 ∧
      ∀ v ∈ (initial {} seed clock).framed firstSecond, v.speed = 1 := by
  obtain ⟨hrepainting, -, -, -, hspeed⟩ := act_load_of_stopped (w := initial {} seed clock)
    SessionRun.read_zeroTree rfl rfl rfl
  have hframed : (initial {} seed clock).framed firstSecond =
      ((initial {} seed clock).act (.load SessionRun.zeroTree "a")).framed (frames 0.0 60) := by
    rw [firstSecond, framed, if_neg (by simp [doesFrame])]
  have hinitial : (initial {} seed clock).speed = 1 := rfl
  rw [hframed, ← hinitial, ← hspeed]
  exact framed_frames hrepainting.doesFrames 0.0 60

theorem exactShare_usual : ({} : HostConfig).exactShare 1 = 25 / 3 := by
  norm_num [HostConfig.exactShare]

theorem floor_usual : ⌊({} : HostConfig).exactShare 1⌋ = 8 := by
  rw [HostConfig.floor_exactShare (by decide)]
  rfl

theorem fract_usual : Int.fract (({} : HostConfig).exactShare 1) = 1 / 3 := by
  rw [Int.fract, floor_usual, exactShare_usual]
  norm_num

/-- Five hundred instructions were asked for, and 480 were given. -/
theorem rate_of_frames_firstSecond :
    0 ≤ (initial {} 0 (.ofList 0.0 [])).config.cpuFrequency ∧
      1 ≤ (initial {} 0 (.ofList 0.0 [])).config.targetFps ∧ (1 : Int) ≤ 1 ∧
      ((((initial {} 0 (.ofList 0.0 [])).framed firstSecond).map share).sum : ℚ) = 480 ∧
      ¬ (initial {} 0 (.ofList 0.0 [])).KeepsRate 1 firstSecond := by
  obtain ⟨hlength, hspeed⟩ := framed_firstSecond 0 (.ofList 0.0 [])
  have hrate := (rate_of_frames (w := initial {} 0 (.ofList 0.0 [])) (m := 1) (by decide)
    (by decide) le_rfl).1 firstSecond hspeed
  have hconfig : (initial {} 0 (.ofList 0.0 [])).config = {} := rfl
  rw [hlength, hconfig, floor_usual, fract_usual, exactShare_usual] at hrate
  refine ⟨by decide, by decide, le_rfl, hrate.1.trans (by norm_num), fun hkept => ?_⟩
  exact absurd (hrate.2.mp hkept) (by norm_num)

/-- **The rate is not kept.** -/
theorem rate_lost :
    ¬ ∀ (config : HostConfig) (seed : Nat) (clock : Clock Float) (m : Int),
      0 ≤ config.cpuFrequency → 1 ≤ config.targetFps → 1 ≤ m →
        ∀ as, (∀ v ∈ (initial config seed clock).framed as, v.speed = m) →
          (initial config seed clock).KeepsRate m as := by
  intro hall
  obtain ⟨hlength, hspeed⟩ := framed_firstSecond 0 (.ofList 0.0 [])
  have hkept := hall {} 0 (.ofList 0.0 []) 1 (by decide) (by decide) le_rfl firstSecond hspeed
  have hconfig : (initial {} 0 (.ofList 0.0 [])).config = {} := rfl
  rw [keepsRate_iff (by decide) (by decide) le_rfl hspeed, hlength, hconfig, fract_usual,
    exactShare_usual] at hkept
  exact absurd hkept (by norm_num)

end Window

end Chip8
