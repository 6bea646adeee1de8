import Chip8.Proofs.Window.Steady

/-!
# How fast a window can be made

The speed is doubled as long as it is below the bound of the settings, and halved down to normal
speed. So it is a power of two, and the last doubling may carry it past the bound: what is compared
with the bound is the speed before. The speeds that presses lead to are the `Gear`s, which go up to
the first power of two that is not below the bound.

* `Window.speed_eq_iff_gear`: these are the speeds of a window, and when none of them is past the
  bound.
* `Window.speed_past_bound`: one of them can be.
-/

namespace Chip8

open Relation (ReflTransGen)

/-- **A speed that can be reached**: a power of two that comes, unless it is normal speed, of
doubling one below the bound. -/
def Gear (bound s : Int) : Prop :=
  ∃ k : Nat, s = 2 ^ k ∧ s < 2 * bound

namespace Gear

variable {bound s t : Int}

theorem one (h : 1 ≤ bound) : Gear bound 1 :=
  ⟨0, rfl, by omega⟩

theorem pos (h : Gear bound s) : 1 ≤ s := by
  obtain ⟨k, rfl, -⟩ := h
  exact Int.pow_pos (by decide)

theorem press (h : Gear bound s) (hp : SpeedPress bound s t) : Gear bound t := by
  obtain ⟨k, hs, hlt⟩ := h
  cases hp with
  | faster hbelow => exact ⟨k + 1, by rw [hs, pow_succ], by omega⟩
  | slower habove =>
    rw [Int.fdiv_eq_ediv_of_nonneg _ (by decide)]
    cases k with
    | zero =>
      rw [pow_zero] at hs
      omega
    | succ k =>
      rw [pow_succ] at hs
      have hhalf : s / 2 = 2 ^ k := by omega
      exact ⟨k, hhalf, by omega⟩

theorem presses (h : Gear bound s) (hp : ReflTransGen (SpeedPress bound) s t) : Gear bound t := by
  induction hp with
  | refl => exact h
  | tail _ hlast ih => exact ih.press hlast

/-- The last gear is not below the bound. -/
theorem exists_ge (h : 1 ≤ bound) : ∃ k : Nat, bound ≤ 2 ^ k ∧ Gear bound (2 ^ k) := by
  lift bound to Nat using by omega with n
  have hle : n ≤ 2 ^ Nat.clog 2 n := Nat.le_pow_clog (by decide) n
  have hlt : 2 ^ Nat.clog 2 n < 2 * n := by
    rcases Nat.eq_or_lt_of_le (Nat.one_le_cast.mp h) with hone | hmore
    · rw [← hone]
      decide
    · have hpred := Nat.pow_pred_clog_lt_self (b := 2) (by decide) hmore
      have hsucc := Nat.succ_pred_eq_of_pos (Nat.clog_pos (b := 2) (by decide) hmore)
      rw [← hsucc, pow_succ]
      omega
  exact ⟨Nat.clog 2 n, by exact_mod_cast hle, Nat.clog 2 n, rfl, by exact_mod_cast hlt⟩

/-- No gear is past a bound that is itself one. -/
theorem le_of_pow {k : Nat} (h : Gear (2 ^ k) s) : s ≤ 2 ^ k := by
  obtain ⟨j, rfl, hlt⟩ := h
  rw [← pow_succ'] at hlt
  have hjk : j < k + 1 := (pow_lt_pow_iff_right₀ (by decide)).mp hlt
  exact pow_le_pow_right₀ (by decide) (by omega)

end Gear

/-- One of the two keys that change the speed. -/
def WindowAct.IsSpeedKey : WindowAct → Prop
  | .keyboard _ b _ _ => b = .faster ∨ b = .slower
  | _ => False

namespace Window

/-- Presses of the key for more speed. -/
def fasterKeys (n : Nat) : List WindowAct :=
  List.replicate n (.keyboard .empty .faster "" "")

theorem isSpeedKey_of_mem_fasterKeys {n : Nat} {a : WindowAct} (h : a ∈ fasterKeys n) :
    a.IsSpeedKey := by
  rw [List.eq_of_mem_replicate h]
  exact .inl rfl

theorem speed_increaseSpeed {w : Window} (h : w.speed < w.config.maxSpeed) :
    w.increaseSpeed.speed = w.speed * 2 := by
  rw [increaseSpeed, if_pos h]
  rfl

/-- Every gear is reached by pressing on. -/
theorem speed_fasterKeys {w : Window} (hnormal : w.speed = 1) {k : Nat}
    (hk : Gear w.config.maxSpeed (2 ^ k)) : (w.acts (fasterKeys k)).speed = 2 ^ k := by
  induction k with
  | zero => exact hnormal
  | succ k ih =>
    obtain ⟨j, -, hlt⟩ := hk
    rw [pow_succ] at hlt
    have hbelow : (2 : Int) ^ k < w.config.maxSpeed := by omega
    have hpos : (0 : Int) < 2 ^ k := Int.pow_pos (by decide)
    have hspeed := ih ⟨k, rfl, by omega⟩
    have hlast : w.acts (fasterKeys (k + 1)) = (w.acts (fasterKeys k)).increaseSpeed := by
      rw [fasterKeys, List.replicate_succ', acts, List.foldl_append]
      rfl
    rw [← (w.settings_acts (fasterKeys k)).1, ← hspeed] at hbelow
    rw [hlast, speed_increaseSpeed hbelow, hspeed, pow_succ]

/-- **How fast a window can be made**, by its keys, by a controller or otherwise, and whatever else
happens to it: the speeds are the gears. So they keep to the bound of the settings just if that is a
power of two. -/
theorem speed_eq_iff_gear (config : HostConfig) (seed : Nat) (clock : Clock Float)
    (hbound : 1 ≤ config.maxSpeed) :
    (∀ s, (∃ as, ((initial config seed clock).acts as).speed = s) ↔ Gear config.maxSpeed s) ∧
      ((∀ as, 1 ≤ ((initial config seed clock).acts as).speed ∧
          ((initial config seed clock).acts as).speed ≤ config.maxSpeed) ↔
        ∃ k : Nat, config.maxSpeed = 2 ^ k) := by
  have hgear (as : List WindowAct) :
      Gear config.maxSpeed ((initial config seed clock).acts as).speed :=
    (Gear.one hbound).presses ((initial config seed clock).settings_acts as).2
  refine ⟨fun s => ⟨?_, ?_⟩, fun hall => ?_, ?_⟩
  · rintro ⟨as, rfl⟩
    exact hgear as
  · intro hs
    obtain ⟨k, rfl, -⟩ := id hs
    exact ⟨fasterKeys k, speed_fasterKeys rfl hs⟩
  · -- the last gear is reached, so it is the bound
    obtain ⟨k, hge, hk⟩ := Gear.exists_ge hbound
    have hle := (hall (fasterKeys k)).2
    rw [speed_fasterKeys rfl hk] at hle
    exact ⟨k, le_antisymm hge hle⟩
  · rintro ⟨k, hk⟩ as
    have has := hgear as
    rw [hk] at has ⊢
    exact ⟨has.pos, has.le_of_pow⟩

/-- With a bound of three, four is a speed and eight is none. -/
theorem speed_eq_iff_gear_three :
    1 ≤ ({ maxSpeed := 3 } : HostConfig).maxSpeed ∧
      (∃ as, ((initial { maxSpeed := 3 } 0 (.ofList 0.0 [])).acts as).speed = 4) ∧
      ¬ ∃ as, ((initial { maxSpeed := 3 } 0 (.ofList 0.0 [])).acts as).speed = 8 := by
  have hbound : 1 ≤ ({ maxSpeed := 3 } : HostConfig).maxSpeed := by decide
  have hspeeds := (speed_eq_iff_gear { maxSpeed := 3 } 0 (.ofList 0.0 []) hbound).1
  refine ⟨hbound, (hspeeds 4).mpr ⟨2, by decide, by decide⟩, fun hreached => ?_⟩
  obtain ⟨k, -, hlt⟩ := (hspeeds 8).mp hreached
  exact absurd hlt (by decide)

/-- **The speed can be brought past its bound** by its own two keys. -/
theorem speed_past_bound :
    ¬ ∀ (config : HostConfig) (seed : Nat) (clock : Clock Float), 1 ≤ config.maxSpeed →
      ∀ as : List WindowAct, (∀ a ∈ as, a.IsSpeedKey) →
        1 ≤ ((initial config seed clock).acts as).speed ∧
          ((initial config seed clock).acts as).speed ≤ config.maxSpeed := by
  intro hall
  have hle := (hall { maxSpeed := 3 } 0 (.ofList 0.0 []) (by decide) (fasterKeys 2)
    fun a ha => isSpeedKey_of_mem_fasterKeys ha).2
  rw [speed_fasterKeys rfl ⟨2, rfl, by decide⟩] at hle
  exact absurd hle (by decide)

end Window

end Chip8
