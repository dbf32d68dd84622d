import Mathlib.Algebra.Order.Field.Rat
import Mathlib.Data.Nat.Find
import Mathlib.Logic.Function.Iterate
import Mathlib.Tactic.Linarith
import Mathlib.Tactic.Positivity
import Montage.Proofs.Easing.Polynomial

/-!
# The search for a parameter

The parameter at which a coordinate `f` of a curve passes a value `t` is searched for by halving the
unit interval until `f` is near to `t` at the middle. The intervals that a search goes through
(`Stretch.after`) and the turn at which it ends (`Stretch.Settles`) do not depend on how many turns it
may take: fewer than it needs give nothing, and more give the same (`Settles.search_eq`).

At the ends of each interval `f` lies on either side of `t`, however often it rises and falls in between.
So the search has ended by the turn at which `f` cannot change by as much as the tolerance over half of
the interval any more (`Encloses.near_after`). A search for a greater value never ends at a smaller
parameter, whatever the coordinate is (`search_mono`).
-/

namespace Montage.Cubic

variable {f : ℚ → ℚ} {t : ℚ}

theorem close_iff {x y : ℚ} : close x y ↔ |y - x| < 1 / 1000 := by
  have htolerance : (tolerance : ℚ) = 1 / 1000 := by
    rw [tolerance]
    norm_num only
  rw [close, Bool.and_eq_true, decide_eq_true_iff, decide_eq_true_iff, htolerance, abs_sub_comm,
    abs_lt]

/-! ## Intervals -/

/-- An interval inside of the unit interval. -/
structure Stretch where
  start : ℚ
  stop : ℚ
  start_nonneg : 0 ≤ start
  start_le_stop : start ≤ stop
  stop_le_one : stop ≤ 1

namespace Stretch

variable (stretch : Stretch)

def unit : Stretch where
  start := 0
  stop := 1
  start_nonneg := le_rfl
  start_le_stop := zero_le_one
  stop_le_one := le_rfl

def middle : ℚ :=
  (stretch.start + stretch.stop) / 2

theorem start_le_middle : stretch.start ≤ stretch.middle := by
  have hordered := stretch.start_le_stop
  rw [middle]
  linarith

theorem middle_le_stop : stretch.middle ≤ stretch.stop := by
  have hordered := stretch.start_le_stop
  rw [middle]
  linarith

/-- The middle of a stretch is a parameter between 0 and 1. -/
theorem middle_mem_unit : stretch.middle ∈ Set.Icc 0 1 :=
  ⟨stretch.start_nonneg.trans stretch.start_le_middle,
    stretch.middle_le_stop.trans stretch.stop_le_one⟩

def lower : Stretch where
  start := stretch.start
  stop := stretch.middle
  start_nonneg := stretch.start_nonneg
  start_le_stop := stretch.start_le_middle
  stop_le_one := stretch.middle_mem_unit.2

def upper : Stretch where
  start := stretch.middle
  stop := stretch.stop
  start_nonneg := stretch.middle_mem_unit.1
  start_le_stop := stretch.middle_le_stop
  stop_le_one := stretch.stop_le_one

/-- One turn of the search: the half at whose ends `f` lies on either side of `t`. -/
def halve (f : ℚ → ℚ) (t : ℚ) (stretch : Stretch) : Stretch :=
  if f stretch.middle < t then stretch.upper else stretch.lower

/-- The interval after some turns. -/
def after (f : ℚ → ℚ) (t : ℚ) (turns : ℕ) (stretch : Stretch) : Stretch :=
  (halve f t)^[turns] stretch

theorem after_zero : after f t 0 stretch = stretch :=
  rfl

theorem after_succ (turns : ℕ) :
    after f t (turns + 1) stretch = halve f t (after f t turns stretch) :=
  Function.iterate_succ_apply' _ _ _

/-- At the ends `f` lies on either side of `t`, the later end included. -/
structure Encloses (f : ℚ → ℚ) (t : ℚ) (stretch : Stretch) : Prop where
  start_lt : f stretch.start < t
  le_stop : t ≤ f stretch.stop

variable {stretch}

/-- What is looked for stays enclosed when a stretch is halved. -/
theorem Encloses.halve (h : stretch.Encloses f t) : (stretch.halve f t).Encloses f t := by
  rw [Stretch.halve]
  split
  · next hlt => exact ⟨hlt, h.le_stop⟩
  · next hle => exact ⟨h.start_lt, not_lt.mp hle⟩

theorem Encloses.after (h : stretch.Encloses f t) (turns : ℕ) :
    (stretch.after f t turns).Encloses f t := by
  induction turns with
  | zero => exact h
  | succ turns ih =>
    rw [after_succ]
    exact ih.halve

theorem width_halve : (stretch.halve f t).stop - (stretch.halve f t).start =
    (stretch.stop - stretch.start) / 2 := by
  rw [halve]
  split
  · show stretch.stop - (stretch.start + stretch.stop) / 2 = _
    ring
  · show (stretch.start + stretch.stop) / 2 - stretch.start = _
    ring

/-- After some halvings the stretch has the width that it had, over a power of two. -/
theorem width_after (turns : ℕ) : (stretch.after f t turns).stop - (stretch.after f t turns).start =
    (stretch.stop - stretch.start) / 2 ^ turns := by
  induction turns with
  | zero => rw [after_zero, pow_zero, div_one]
  | succ turns ih => rw [after_succ, width_halve, ih, pow_succ, div_div]

/-! ## Searches -/

/-- How a search in an interval goes on for some turns and then ends. -/
structure Settles (f : ℚ → ℚ) (t : ℚ) (turns : ℕ) (stretch : Stretch) : Prop where
  far : ∀ earlier < turns, 1 / 1000 ≤ |f (stretch.after f t earlier).middle - t|
  near : |f (stretch.after f t turns).middle - t| < 1 / 1000

/-- One turn of the search, as a step on stretches. -/
theorem search_succ (budget : ℕ) : search f t (budget + 1) stretch.start stretch.stop =
    if |f stretch.middle - t| < 1 / 1000 then some stretch.middle
    else search f t budget (stretch.halve f t).start (stretch.halve f t).stop := by
  have hmiddle : (stretch.start + stretch.stop) / 2.0 = stretch.middle := by
    rw [middle]
    norm_num only
  rw [search, hmiddle, halve]
  simp only [close_iff]
  split_ifs <;> rfl

/-- A search goes through the intervals one after the other. -/
theorem Settles.search_after {turns : ℕ} (h : stretch.Settles f t turns) {turn : ℕ}
    (hle : turn ≤ turns) (budget : ℕ) : search f t (turn + budget) stretch.start stretch.stop =
      search f t budget (stretch.after f t turn).start (stretch.after f t turn).stop := by
  induction turn generalizing budget with
  | zero => rw [Nat.zero_add, after_zero]
  | succ turn ih =>
    have hfar := h.far turn (Nat.lt_of_succ_le hle)
    rw [Nat.add_right_comm, Nat.add_assoc, ih (Nat.le_of_succ_le hle), search_succ,
      if_neg (not_lt.mpr hfar), after_succ]

/-- **A search ends by itself.** As many turns as it takes give the middle of the last interval, and so
do more of them, but fewer give nothing. -/
theorem Settles.search_eq {turns : ℕ} (h : stretch.Settles f t turns) (budget : ℕ) :
    search f t budget stretch.start stretch.stop =
      if turns < budget then some (stretch.after f t turns).middle else none := by
  split
  · next hlt =>
    obtain ⟨rest, rfl⟩ := Nat.exists_eq_add_of_lt hlt
    rw [Nat.add_assoc, h.search_after le_rfl, search_succ, if_pos h.near]
  · next hle => exact h.search_after (not_lt.mp hle) 0

/-- A function that changes by less than the tolerance over half of an interval comes near to a value
that it encloses there. -/
theorem Encloses.near {bound : ℚ} (h : stretch.Encloses f t)
    (hbound : ∀ x y, 0 ≤ x → x ≤ y → y ≤ 1 → |f y - f x| ≤ bound * (y - x))
    (hwidth : bound * (stretch.stop - stretch.start) < 2 / 1000) :
    |f stretch.middle - t| < 1 / 1000 := by
  have hbefore := abs_le.mp (hbound stretch.start stretch.middle stretch.start_nonneg
    stretch.start_le_middle stretch.middle_mem_unit.2)
  have hbehind := abs_le.mp (hbound stretch.middle stretch.stop stretch.middle_mem_unit.1
    stretch.middle_le_stop stretch.stop_le_one)
  -- the middle is half the width away from both ends, so the bound gives less than a thousandth
  have hhalves : stretch.middle - stretch.start = (stretch.stop - stretch.start) / 2 ∧
      stretch.stop - stretch.middle = (stretch.stop - stretch.start) / 2 := by
    rw [middle]
    constructor <;> ring
  rw [hhalves.1] at hbefore
  rw [hhalves.2] at hbehind
  rw [abs_lt]
  constructor
  · linarith [h.le_stop]
  · linarith [h.start_lt]

/-- **A search ends** by every turn whose interval is so short that the function cannot change over
half of it by as much as the tolerance. -/
theorem Encloses.near_after {bound : ℚ} (h : unit.Encloses f t)
    (hbound : ∀ x y, 0 ≤ x → x ≤ y → y ≤ 1 → |f y - f x| ≤ bound * (y - x)) {last : ℕ}
    (hlast : 1000 * bound < 2 ^ (last + 1)) :
    |f (unit.after f t last).middle - t| < 1 / 1000 := by
  refine (h.after last).near hbound ?_
  rw [width_after, unit, sub_zero, mul_one_div, div_lt_iff₀ (by positivity)]
  rw [pow_succ] at hlast
  linarith

/-- A search that is close enough at some turn settles at its first such turn. -/
theorem exists_settles {last : ℕ} (h : |f (stretch.after f t last).middle - t| < 1 / 1000) :
    ∃ turns ≤ last, stretch.Settles f t turns := by
  classical
  have hexists : ∃ turns, |f (stretch.after f t turns).middle - t| < 1 / 1000 := ⟨last, h⟩
  refine ⟨Nat.find hexists, Nat.find_min' hexists h, ?_, Nat.find_spec hexists⟩
  exact fun earlier hlt => not_lt.mp (Nat.find_min hexists hlt)

theorem Settles.le_of_near {turns last : ℕ} (h : stretch.Settles f t turns)
    (hnear : |f (stretch.after f t last).middle - t| < 1 / 1000) : turns ≤ last := by
  by_contra hlt
  exact absurd hnear (not_lt.mpr (h.far last (not_le.mp hlt)))

/-! ## Searches for two values -/

/-- What one turn of a search that finds something can do. -/
theorem search_succ_cases {budget : ℕ} {m : ℚ}
    (h : search f t (budget + 1) stretch.start stretch.stop = some m) :
    (t - 1 / 1000 < f stretch.middle ∧ f stretch.middle < t + 1 / 1000 ∧ m = stretch.middle) ∨
      (f stretch.middle ≤ t - 1 / 1000 ∧
        search f t budget stretch.upper.start stretch.upper.stop = some m) ∨
      (t + 1 / 1000 ≤ f stretch.middle ∧
        search f t budget stretch.lower.start stretch.lower.stop = some m) := by
  rw [search_succ] at h
  split at h
  · next hnear =>
    rw [abs_lt] at hnear
    exact .inl ⟨by linarith, by linarith, (Option.some.inj h).symm⟩
  · next hfar =>
    rw [not_lt, le_abs] at hfar
    rw [halve] at h
    split at h
    · next hlt => exact .inr (.inl ⟨by rcases hfar with hfar | hfar <;> linarith, h⟩)
    · next hle => exact .inr (.inr ⟨by rcases hfar with hfar | hfar <;> linarith, h⟩)

/-- What a search finds lies in the stretch that it began with. -/
theorem search_mem {budget : ℕ} {m : ℚ}
    (h : search f t budget stretch.start stretch.stop = some m) :
    m ∈ Set.Icc stretch.start stretch.stop := by
  induction budget generalizing stretch with
  | zero => cases h
  | succ budget ih =>
    obtain ⟨-, -, rfl⟩ | ⟨-, hupper⟩ | ⟨-, hlower⟩ := search_succ_cases h
    · exact ⟨stretch.start_le_middle, stretch.middle_le_stop⟩
    · exact ⟨stretch.start_le_middle.trans (ih hupper).1, (ih hupper).2⟩
    · exact ⟨(ih hlower).1, (ih hlower).2.trans stretch.middle_le_stop⟩

/-- **A search for a greater value ends no earlier in the interval.** The searches go through the same
intervals until one of them ends or they take different halves. Then the one for the smaller value ends
at the middle or takes the lower half, and the other ends at the middle or takes the upper half. -/
theorem search_mono {s t : ℚ} (hst : s ≤ t) {budget : ℕ} {m n : ℚ}
    (hm : search f s budget stretch.start stretch.stop = some m)
    (hn : search f t budget stretch.start stretch.stop = some n) : m ≤ n := by
  induction budget generalizing stretch with
  | zero => cases hm
  | succ budget ih =>
    -- where the two searches part, the one for the smaller value goes to the lower half
    obtain ⟨hbelow, habove, rfl⟩ | ⟨hle, hupper⟩ | ⟨hge, hlower⟩ := search_succ_cases hm
    · obtain ⟨-, -, rfl⟩ | ⟨-, htupper⟩ | ⟨htge, -⟩ := search_succ_cases hn
      · exact le_rfl
      · exact (search_mem htupper).1
      · linarith
    · obtain ⟨htbelow, -, -⟩ | ⟨-, htupper⟩ | ⟨htge, -⟩ := search_succ_cases hn
      · linarith
      · exact ih hupper htupper
      · linarith
    · obtain ⟨-, -, rfl⟩ | ⟨-, htupper⟩ | ⟨-, htlower⟩ := search_succ_cases hn
      · exact (search_mem hlower).2
      · exact (search_mem hlower).2.trans (search_mem htupper).1
      · exact ih hlower htlower

end Stretch

end Montage.Cubic
