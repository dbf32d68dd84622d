import Mathlib.Algebra.Order.Ring.Abs
import Mathlib.Tactic.Linarith
import Mathlib.Tactic.Ring
import Montage.Easing
import Montage.Proofs.Number.Scalar

/-!
# The coordinates of a cubic curve

A coordinate of a cubic curve is a polynomial of the third degree in the parameter
(`Cubic.polynomial`). How it changes is told by its slope, which is of the second degree: the change
over an interval is the length of the interval times a mean of three values of the slope
(`polynomial_sub`). So the coordinate changes no faster than the slope is large
(`abs_polynomial_sub_le`), and it never falls where the slope is not negative, as it is for control
values in the unit interval (`polynomial_monotoneOn`).
-/

namespace Montage.Cubic

variable {p q m bound : ℚ}

/-- The coordinate with the control values `p` and `q` at the parameter `m`. -/
def polynomial (p q m : ℚ) : ℚ :=
  3 * p * (1 - m) ^ 2 * m + 3 * q * (1 - m) * m ^ 2 + m ^ 3

/-- The slope of a coordinate, in the weights of a quadratic curve. -/
def slope (p q m : ℚ) : ℚ :=
  3 * (p * (1 - m) ^ 2 + (q - p) * (2 * (1 - m) * m) + (1 - q) * m ^ 2)

/-- The coordinate that the curve computes is a cubic polynomial in the parameter. -/
theorem coordinate_eq (p q : ℚ) : coordinate p q = polynomial p q := by
  funext m
  simp only [coordinate, polynomial]
  norm_num only
  ring

theorem polynomial_zero (p q : ℚ) : polynomial p q 0 = 0 := by
  simp [polynomial]

theorem polynomial_one (p q : ℚ) : polynomial p q 1 = 1 := by
  simp [polynomial]

/-- The rule of Simpson, which is exact for a slope of the second degree. -/
theorem polynomial_sub (p q x y : ℚ) : polynomial p q y - polynomial p q x =
    (slope p q x + 4 * slope p q ((x + y) / 2) + slope p q y) / 6 * (y - x) := by
  simp only [polynomial, slope]
  ring

/-! ## Bounds of the slope -/

section Slope

variable (hm : m ∈ Set.Icc 0 1)

include hm

/-- The three weights are not negative and add up to 1. -/
theorem abs_slope_le (hp : |p| ≤ bound) (hpq : |q - p| ≤ bound) (hq : |1 - q| ≤ bound) :
    |slope p q m| ≤ 3 * bound := by
  -- each control point contributes at most the bound, by its weight
  have hterm {factor weight : ℚ} (hfactor : |factor| ≤ bound) (hweight : 0 ≤ weight) :
      |factor * weight| ≤ bound * weight := by
    rw [abs_mul, abs_of_nonneg hweight]
    exact mul_le_mul_of_nonneg_right hfactor hweight
  have hmixed : 0 ≤ 2 * (1 - m) * m := mul_nonneg (by linarith [hm.2]) hm.1
  calc |slope p q m|
      = 3 * |p * (1 - m) ^ 2 + (q - p) * (2 * (1 - m) * m) + (1 - q) * m ^ 2| := by
        rw [slope, abs_mul, abs_of_pos three_pos]
    _ ≤ 3 * (bound * (1 - m) ^ 2 + bound * (2 * (1 - m) * m) + bound * m ^ 2) := by
        refine mul_le_mul_of_nonneg_left ((abs_add_three _ _ _).trans ?_) zero_le_three
        exact add_le_add (add_le_add (hterm hp (sq_nonneg _)) (hterm hpq hmixed))
          (hterm hq (sq_nonneg _))
    _ = 3 * bound := by ring

/-- Control values in order give three terms that are not negative. Control values out of order do so
too after the terms are gathered in another way. -/
theorem slope_nonneg (hp : p ∈ Set.Icc 0 1) (hq : q ∈ Set.Icc 0 1) : 0 ≤ slope p q m := by
  obtain ⟨hm₀, hm₁⟩ := hm
  obtain ⟨hp₀, hp₁⟩ := hp
  obtain ⟨hq₀, hq₁⟩ := hq
  -- if the first is below the second then all three terms are at least 0 as they stand
  rcases le_total p q with hpq | hqp
  · have hsecond : 0 ≤ 2 * (1 - m) * m := mul_nonneg (by linarith) hm₀
    have hterms : 0 ≤ p * (1 - m) ^ 2 + (q - p) * (2 * (1 - m) * m) + (1 - q) * m ^ 2 :=
      add_nonneg (add_nonneg (mul_nonneg hp₀ (sq_nonneg _)) (mul_nonneg (by linarith) hsecond))
        (mul_nonneg (by linarith) (sq_nonneg _))
    exact mul_nonneg zero_le_three hterms
  · -- otherwise the middle term is negative, and the square is completed around it
    have hgathered : slope p q m =
        3 * ((p - q) * (1 - 2 * m) ^ 2 + q * (1 - m) ^ 2 + (1 - p) * m ^ 2) := by
      rw [slope]
      ring
    have hterms : 0 ≤ (p - q) * (1 - 2 * m) ^ 2 + q * (1 - m) ^ 2 + (1 - p) * m ^ 2 :=
      add_nonneg (add_nonneg (mul_nonneg (by linarith) (sq_nonneg _)) (mul_nonneg hq₀ (sq_nonneg _)))
        (mul_nonneg (by linarith) (sq_nonneg _))
    rw [hgathered]
    exact mul_nonneg zero_le_three hterms

end Slope

/-! ## Changes of a coordinate -/

theorem middle_mem {x y : ℚ} (hx : 0 ≤ x) (hxy : x ≤ y) (hy : y ≤ 1) :
    (x + y) / 2 ∈ Set.Icc 0 1 :=
  ⟨by linarith, by linarith⟩

/-- A coordinate changes no faster than its slope is large. -/
theorem abs_polynomial_sub_le (hslope : ∀ m ∈ Set.Icc 0 1, |slope p q m| ≤ bound) {x y : ℚ}
    (hx : 0 ≤ x) (hxy : x ≤ y) (hy : y ≤ 1) :
    |polynomial p q y - polynomial p q x| ≤ bound * (y - x) := by
  have hfirst := abs_le.mp (hslope x ⟨hx, hxy.trans hy⟩)
  have hmiddle := abs_le.mp (hslope ((x + y) / 2) (middle_mem hx hxy hy))
  have hlast := abs_le.mp (hslope y ⟨hx.trans hxy, hy⟩)
  have hmean : |(slope p q x + 4 * slope p q ((x + y) / 2) + slope p q y) / 6| ≤ bound :=
    abs_le.mpr ⟨by linarith, by linarith⟩
  rw [polynomial_sub, abs_mul, abs_of_nonneg (sub_nonneg.mpr hxy)]
  exact mul_le_mul_of_nonneg_right hmean (sub_nonneg.mpr hxy)

/-- Between control values in the unit interval a coordinate never falls, even where the second lies
below the first. -/
theorem polynomial_monotoneOn (hp : p ∈ Set.Icc 0 1) (hq : q ∈ Set.Icc 0 1) :
    MonotoneOn (polynomial p q) (Set.Icc 0 1) := by
  intro x hx y hy hxy
  have hfirst := slope_nonneg hx hp hq
  have hmiddle := slope_nonneg (middle_mem hx.1 hxy hy.2) hp hq
  have hlast := slope_nonneg hy hp hq
  have hchange : 0 ≤ polynomial p q y - polynomial p q x := by
    rw [polynomial_sub]
    exact mul_nonneg (by linarith) (sub_nonneg.mpr hxy)
  exact sub_nonneg.mp hchange

/-- Control points between 0 and 1 keep the whole curve between 0 and 1. -/
theorem polynomial_mem (hp : p ∈ Set.Icc 0 1) (hq : q ∈ Set.Icc 0 1) (hm : m ∈ Set.Icc 0 1) :
    polynomial p q m ∈ Set.Icc 0 1 := by
  have hmono := polynomial_monotoneOn hp hq
  constructor
  · rw [← polynomial_zero p q]
    exact hmono ⟨le_rfl, zero_le_one⟩ hm hm.1
  · rw [← polynomial_one p q]
    exact hmono hm ⟨zero_le_one, le_rfl⟩ hm.2

end Montage.Cubic
