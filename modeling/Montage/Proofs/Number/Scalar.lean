import Mathlib.Algebra.Order.Field.Basic
import Mathlib.Algebra.Order.Field.Rat
import Mathlib.Data.Int.ConditionallyCompleteOrder
import Mathlib.Data.Int.Notation
import Mathlib.Order.Interval.Set.UnorderedInterval
import Mathlib.Tactic.NormNum
import Mathlib.Tactic.NormNum.OfScientific
import Mathlib.Tactic.Ring
import Montage.Number.Scalar

/-!
# Scalars as rationals

Over the rationals the operations of geometry are exact. Numbers are moved into the unit interval
without a change of their order, and a quotient of integers fails only where its denominator is
zero. A segment is passed through without turning back, and its points are the same ones from its
other end.
-/

namespace Montage.Scalar

variable {x : ℚ}

/-! ## Quotients of integers -/

section Quotients

variable {num den : ℤ}

/-- A quotient of integers fails only for a denominator of 0. -/
theorem ratio_eq (num : ℤ) {den : ℤ} (h : den ≠ 0) :
    (ratio num den : Except ArithmeticFault ℚ) = .ok (num / den) :=
  if_neg h

theorem quotient_mono (hden : 0 < den) : Monotone fun num : ℤ => (num / den : ℚ) := by
  intro first second hle
  have hpos : (0 : ℚ) < den := by exact_mod_cast hden
  dsimp only
  gcongr

theorem quotient_nonpos (hden : 0 < den) (h : num ≤ 0) : (num / den : ℚ) ≤ 0 := by
  refine div_nonpos_of_nonpos_of_nonneg ?_ ?_
  · exact_mod_cast h
  · exact_mod_cast hden.le

theorem quotient_mem (hden : 0 < den) (h : num ∈ Set.Icc 0 den) :
    (num / den : ℚ) ∈ Set.Icc 0 1 := by
  have hpos : (0 : ℚ) < den := by exact_mod_cast hden
  constructor
  · exact div_nonneg (by exact_mod_cast h.1) hpos.le
  · rw [div_le_one hpos]
    exact_mod_cast h.2

theorem one_le_quotient (hden : 0 < den) (h : den ≤ num) : 1 ≤ (num / den : ℚ) := by
  have hpos : (0 : ℚ) < den := by exact_mod_cast hden
  rw [one_le_div hpos]
  exact_mod_cast h

end Quotients

/-! ## The unit interval -/

theorem clampUnit_eq (x : ℚ) : clampUnit x = max 0 (min 1 x) := by
  simp only [clampUnit]
  norm_num only
  split_ifs with hone hzero hzero
  · rw [min_eq_right hone.le, max_eq_right hzero.le]
  · rw [min_eq_right hone.le, max_eq_left (not_lt.mp hzero)]
  · rw [min_eq_left (not_lt.mp hone), max_eq_right zero_le_one]
  · exact absurd one_pos hzero

/-- A clamped number is between 0 and 1. -/
theorem clampUnit_mem (x : ℚ) : clampUnit x ∈ Set.Icc 0 1 := by
  rw [clampUnit_eq]
  exact ⟨le_max_left _ _, max_le zero_le_one (min_le_left _ _)⟩

theorem clampUnit_mono : Monotone (clampUnit : ℚ → ℚ) := by
  intro x y h
  rw [clampUnit_eq, clampUnit_eq]
  exact max_le_max_left 0 (min_le_min_left 1 h)

theorem clampUnit_of_nonpos (h : x ≤ 0) : clampUnit x = 0 := by
  rw [clampUnit_eq]
  exact max_eq_left ((min_le_right _ _).trans h)

theorem clampUnit_of_mem (h : x ∈ Set.Icc 0 1) : clampUnit x = x := by
  rw [clampUnit_eq, min_eq_right h.2, max_eq_right h.1]

theorem clampUnit_of_one_le (h : 1 ≤ x) : clampUnit x = 1 := by
  rw [clampUnit_eq, min_eq_left h]
  exact max_eq_right zero_le_one

/-- The unit interval is turned around with the numbers that are moved into it. -/
theorem clampUnit_one_sub (x : ℚ) : clampUnit (1 - x) = 1 - clampUnit x := by
  rcases le_total x 0 with hlow | hlow
  · rw [clampUnit_of_nonpos hlow, clampUnit_of_one_le ((le_sub_self_iff 1).mpr hlow), sub_zero]
  · rcases le_total 1 x with hhigh | hhigh
    · rw [clampUnit_of_one_le hhigh, clampUnit_of_nonpos (sub_nonpos.mpr hhigh), sub_self]
    · rw [clampUnit_of_mem ⟨hlow, hhigh⟩,
        clampUnit_of_mem ⟨sub_nonneg.mpr hhigh, sub_le_self 1 hlow⟩]

/-! ## Segments -/

/-- A point of a segment has a part of either end. -/
theorem mix_eq (a b t : ℚ) : mix a b t = (1 - t) * a + t * b := by
  show a + (b - a) * t = (1 - t) * a + t * b
  ring

theorem mix_zero (a b : ℚ) : mix a b 0 = a := by
  rw [mix_eq]
  ring

theorem mix_one (a b : ℚ) : mix a b 1 = b := by
  rw [mix_eq]
  ring

/-- Mixing from the other end is mixing the other way round. -/
theorem mix_one_sub (a b t : ℚ) : mix a b (1 - t) = mix b a t := by
  rw [mix_eq, mix_eq]
  ring

/-- From a smaller end to a larger one a mix never falls. -/
theorem mix_mono {a b : ℚ} (h : a ≤ b) : Monotone (mix a b) := by
  intro s t hst
  have hlength : 0 ≤ b - a := sub_nonneg.mpr h
  show a + (b - a) * s ≤ a + (b - a) * t
  gcongr

/-- From a larger end to a smaller one a mix never rises. -/
theorem mix_anti {a b : ℚ} (h : b ≤ a) : Antitone (mix a b) := by
  intro s t hst
  rw [← mix_one_sub b a s, ← mix_one_sub b a t]
  exact mix_mono h (sub_le_sub_left hst 1)

theorem mix_mem_uIcc (a b : ℚ) {t : ℚ} (h : t ∈ Set.Icc 0 1) : mix a b t ∈ Set.uIcc a b := by
  have hends : Set.uIcc (mix a b 0) (mix a b 1) = Set.uIcc a b := by rw [mix_zero, mix_one]
  rw [← hends]
  rcases le_total a b with hle | hge
  · exact Set.mem_uIcc_of_le (mix_mono hle h.1) (mix_mono hle h.2)
  · exact Set.mem_uIcc_of_ge (mix_anti hge h.2) (mix_anti hge h.1)

end Montage.Scalar
