import Chip8.Host.Basic
import Mathlib.Algebra.Order.Ring.Rat
import Mathlib.Data.List.SplitBy
import Mathlib.Tactic.Linarith

/-!
# One bell for each burst

Tone signals come in bursts: within a burst each signal follows the one before it within the gap of
the bell, and between two bursts there is more. What a bell is for is to ring once for each burst,
at its first signal (`oneEach`). A bell that has been signalled before does so. A new one has not,
but it takes time zero for the time of its last signal, and a burst that begins within the gap after
zero is to it the rest of a burst that never was. Time is exact here: signals come at rational
numbers of seconds.

* `Bell.rung_of_bursts`: what a new bell answers to every sequence of signals.
* `Bell.first_burst_unrung`: a first burst for which it does not ring.
-/

namespace Chip8.Bell

/-- Two signals of one burst, if they follow each other at these times. -/
def together (gap a b : Rat) : Bool :=
  |b - a| ≤ gap

/-- The bursts of a sequence of signals: its longest runs in which each signal is together with the
one before it. -/
def bursts (gap : Rat) (times : List Rat) : List (List Rat) :=
  times.splitBy (together gap)

/-- The bell for the first signal of a burst and silence for the others. -/
def ringOnce : List Rat → List Bool
  | [] => []
  | _ :: rest => true :: rest.map fun _ => false

/-- One bell for each burst, at its first signal. -/
def oneEach (gap : Rat) (times : List Rat) : List Bool :=
  (bursts gap times).flatMap ringOnce

variable {gap : Rat} {b : Bell Rat} {times : List Rat}

/-! ## Sequences of signals -/

/-- The first signal is answered by the time since the last one, and the others as by a bell that
has just heard it. -/
theorem signals_cons (b : Bell Rat) (now : Rat) (rest : List Rat) :
    b.signals (now :: rest) =
      decide (b.minGap < now - b.last) :: ({ b with last := now } : Bell Rat).signals rest := rfl

/-- Of the signals before, a bell knows the last one only. -/
theorem signals_append (b : Bell Rat) {front : List Rat} (hfront : front ≠ []) (back : List Rat) :
    b.signals (front ++ back) =
      b.signals front ++ ({ b with last := front.getLast hfront } : Bell Rat).signals back := by
  induction front generalizing b with
  | nil => exact absurd rfl hfront
  | cons now front ih =>
    rw [List.cons_append, signals_cons, signals_cons, List.cons_append]
    cases front with
    | nil => rfl
    | cons next front =>
      rw [ih _ (List.cons_ne_nil next front), List.getLast_cons (List.cons_ne_nil next front)]

/-! ## Bursts -/

theorem not_gap_lt_of_together {a c : Rat} (h : together gap a c = true) : ¬ gap < c - a := by
  have habs : |c - a| ≤ gap := of_decide_eq_true h
  exact not_lt.mpr ((le_abs_self _).trans habs)

theorem gap_lt_of_not_together {a c : Rat} (hle : a ≤ c) (h : together gap a c = false) :
    gap < c - a := by
  have habs : ¬ |c - a| ≤ gap := of_decide_eq_false h
  rwa [abs_of_nonneg (sub_nonneg.mpr hle), not_le] at habs

/-- Within a burst only the first signal can ring. -/
theorem signals_burst {now : Rat} {rest : List Rat}
    (hclose : (now :: rest).IsChain fun a c => together b.minGap a c = true) :
    b.signals (now :: rest) =
      decide (b.minGap < now - b.last) :: rest.map fun _ => false := by
  induction rest generalizing b now with
  | nil => rfl
  | cons next rest ih =>
    obtain ⟨hnext, hrest⟩ := List.isChain_cons_cons.mp hclose
    have hsilent : decide (b.minGap < next - now) = false :=
      decide_eq_false (not_gap_lt_of_together hnext)
    rw [signals_cons, ih (b := { b with last := now }) hrest, List.map_cons]
    exact congrArg (fun answer => _ :: answer :: _) hsilent

/-- **Bursts one after the other** ring once each, if the first of them comes late enough. -/
theorem signals_flatten {bs : List (List Rat)} (hne : [] ∉ bs)
    (hclose : ∀ burst ∈ bs, burst.IsChain fun a c => together b.minGap a c = true)
    (hapart : bs.IsChain fun l m =>
      ∃ hl hm, together b.minGap (l.getLast hl) (m.head hm) = false)
    (hsorted : bs.flatten.Pairwise (· ≤ ·))
    (hlate : ∀ now ∈ bs.flatten.head?, b.minGap < now - b.last) :
    b.signals bs.flatten = bs.flatMap ringOnce := by
  induction bs generalizing b with
  | nil => rfl
  | cons burst bs ih =>
    obtain ⟨hburst, hbs⟩ := not_or.mp (List.mem_cons.not.mp hne)
    cases burst with
    | nil => exact absurd rfl hburst
    | cons now rest =>
      have hnow : b.minGap < now - b.last := hlate now rfl
      rw [List.flatten_cons, List.pairwise_append] at hsorted
      obtain ⟨-, hsorted, hacross⟩ := hsorted
      -- the next burst begins later than the gap after the last signal of this one
      have hnext : ∀ t ∈ bs.flatten.head?,
          b.minGap < t - (now :: rest).getLast (List.cons_ne_nil now rest) := by
        intro t ht
        cases bs with
        | nil => cases ht
        | cons next bs =>
          obtain ⟨hl, hm, hmore⟩ := (List.isChain_cons_cons.mp hapart).1
          have hhead : t = next.head hm := by
            rw [List.flatten_cons, List.head?_append_of_ne_nil _ hm,
              List.head?_eq_some_head hm] at ht
            exact (Option.some.inj ht).symm
          have hle := hacross _ (List.getLast_mem hl) t (List.mem_of_mem_head? ht)
          exact gap_lt_of_not_together hle (hhead ▸ hmore)
      have hrest := ih (b := { b with last := (now :: rest).getLast (List.cons_ne_nil now rest) })
        hbs (fun m hm => hclose m (List.mem_cons_of_mem _ hm)) hapart.tail hsorted hnext
      rw [List.flatten_cons, signals_append b (List.cons_ne_nil now rest), hrest,
        signals_burst (hclose _ List.mem_cons_self), decide_eq_true hnow, List.flatMap_cons]
      rfl

/-- **A bell rings once for each burst**, if the first of them comes later than the gap after the
signal that it heard last. -/
theorem signals_eq_oneEach (hsorted : times.Pairwise (· ≤ ·))
    (hlate : ∀ now ∈ times.head?, b.minGap < now - b.last) :
    b.signals times = oneEach b.minGap times := by
  have hjoin : (bursts b.minGap times).flatten = times := List.flatten_splitBy _ _
  rw [← hjoin] at hsorted hlate
  have hrings : b.signals (bursts b.minGap times).flatten = oneEach b.minGap times :=
    signals_flatten (List.nil_notMem_splitBy _ _) (fun _ h => List.isChain_of_mem_splitBy h)
      (List.isChain_getLast_head_splitBy _ _) hsorted hlate
  rwa [hjoin] at hrings

/-- However late the first signal comes, that decides about its own answer only. -/
theorem oneEach_cons {now : Rat} {rest : List Rat} (hsorted : (now :: rest).Pairwise (· ≤ ·)) :
    oneEach gap (now :: rest) = true :: (⟨gap, now⟩ : Bell Rat).signals rest := by
  -- a bell that heard its last signal long before
  have hlong : gap < now - (now - gap - 1) := by linarith
  have hrings := signals_eq_oneEach (b := ⟨gap, now - gap - 1⟩) hsorted
    fun t ht => Option.some.inj ht ▸ hlong
  rw [← hrings, signals_cons, decide_eq_true hlong]

/-! ## A new bell -/

theorem count_ringOnce {burst : List Rat} (h : burst ≠ []) : (ringOnce burst).count true = 1 := by
  cases burst with
  | nil => exact absurd rfl h
  | cons now rest => simp [ringOnce, List.count_eq_zero]

/-- One bell for each burst makes as many bells as there are bursts. -/
theorem count_oneEach (gap : Rat) (times : List Rat) :
    (oneEach gap times).count true = (bursts gap times).length := by
  have hone : (bursts gap times).map (fun burst => (ringOnce burst).count true) =
      (bursts gap times).map fun _ => 1 :=
    List.map_congr_left fun _ h => count_ringOnce (List.ne_nil_of_mem_splitBy h)
  rw [oneEach, List.count_flatMap]
  simp [Function.comp_def, hone]

/-- **A new bell rings once for each burst, at its first signal, but for the first burst**, for
which it rings just if that begins later than the gap after time zero. -/
theorem rung_of_bursts (gap : Rat) (times : List Rat) (hsorted : times.Pairwise (· ≤ ·)) :
    ((initial gap).signals times).tail = (oneEach gap times).tail ∧
    ((initial gap).signals times).head? = times.head?.map (fun now => decide (gap < now)) ∧
    ((initial gap).signals times = oneEach gap times ↔ ∀ now ∈ times.head?, gap < now) ∧
    ((initial gap).signals times).count true + (if times.head?.any (· ≤ gap) then 1 else 0) =
      (bursts gap times).length := by
  cases times with
  | nil => simp [signals, oneEach, bursts]
  | cons now rest =>
    have hanswers : (initial gap).signals (now :: rest) =
        decide (gap < now) :: (⟨gap, now⟩ : Bell Rat).signals rest := by
      have hzero : now - (initial gap : Bell Rat).last = now := sub_zero now
      rw [signals_cons, hzero]
      rfl
    have hbells : oneEach gap (now :: rest) = true :: (⟨gap, now⟩ : Bell Rat).signals rest :=
      oneEach_cons hsorted
    refine ⟨by rw [hanswers, hbells]; rfl, by rw [hanswers]; rfl, ?_, ?_⟩
    · rw [hanswers, hbells]
      simp
    · rw [← count_oneEach, hanswers, hbells, List.count_cons, List.count_cons]
      by_cases hlate : gap < now
      · simp [hlate]
      · simp [hlate, not_lt.mp hlate]

/-- A first burst soon after time zero, and two later ones. -/
theorem rung_of_bursts_early :
    [1 / 20, 1 / 10, 1, 21 / 20, (3 : Rat)].Pairwise (· ≤ ·) ∧
      ((initial (1 / 10)).signals [1 / 20, 1 / 10, 1, 21 / 20, (3 : Rat)]).tail =
        [false, true, false, true] ∧
      (bursts (1 / 10) [1 / 20, 1 / 10, 1, 21 / 20, 3]).length = 3 ∧
      ((initial (1 / 10)).signals [1 / 20, 1 / 10, 1, 21 / 20, (3 : Rat)]).count true = 2 := by
  have hsorted : [1 / 20, 1 / 10, 1, 21 / 20, (3 : Rat)].Pairwise (· ≤ ·) := by decide +kernel
  have hlength : (bursts (1 / 10) [1 / 20, 1 / 10, 1, 21 / 20, 3]).length = 3 := by decide +kernel
  obtain ⟨htail, -, -, hcount⟩ := rung_of_bursts (1 / 10) _ hsorted
  refine ⟨hsorted, htail.trans (by decide +kernel), hlength, ?_⟩
  have hearly : (if [1 / 20, 1 / 10, 1, 21 / 20, (3 : Rat)].head?.any (· ≤ 1 / 10) then 1 else 0) =
      1 := by decide +kernel
  rw [hlength, hearly] at hcount
  omega

/-- **A bell can miss a burst**: its first, if the clock stands early enough. -/
theorem first_burst_unrung :
    ¬ ∀ (gap : Rat) (times : List Rat), 0 ≤ gap → (∀ now ∈ times, 0 ≤ now) →
      times.Pairwise (· ≤ ·) →
        ((initial gap).signals times).count true = (bursts gap times).length ∧
          (initial gap).signals times = oneEach gap times := by
  intro hall
  have hone := (hall (1 / 10) [1 / 20] (by decide +kernel) (by decide +kernel)
    (List.pairwise_singleton _ _)).1
  exact absurd hone (by decide +kernel)

end Chip8.Bell
