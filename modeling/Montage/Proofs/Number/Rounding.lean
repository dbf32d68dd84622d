import Mathlib.Algebra.Order.Field.Basic
import Mathlib.Algebra.Order.Field.Rat
import Mathlib.Data.Int.Notation
import Mathlib.Data.Rat.Floor
import Mathlib.Tactic.FieldSimp
import Mathlib.Tactic.Linarith
import Mathlib.Tactic.Ring
import Montage.Number.Rounding

/-!
# Rounding half up

`roundHalfUp` is characterized by what it is at least (`le_roundHalfUp_iff`), which gives how far it
moves a number (`roundHalfUp_bounds`), how far it moves two numbers apart (`roundHalfUp_step`) and when
it takes them together (`roundHalfUp_eq_roundHalfUp_iff`). It is computed for a quotient of integers
from the remainder (`roundHalfUp_div`).
-/

namespace Montage

theorem le_roundHalfUp_iff (n : ℤ) (x : ℚ) : n ≤ roundHalfUp x ↔ (n : ℚ) ≤ x + 1 / 2 :=
  Rat.le_floor_iff

theorem roundHalfUp_lt_iff (n : ℤ) (x : ℚ) : roundHalfUp x < n ↔ x + 1 / 2 < (n : ℚ) :=
  Rat.floor_lt_iff

/-- A number is rounded to the integer whose half-open unit interval it is in. -/
theorem roundHalfUp_eq_iff (n : ℤ) (x : ℚ) :
    roundHalfUp x = n ↔ (n : ℚ) ≤ x + 1 / 2 ∧ x + 1 / 2 < n + 1 := by
  have hlt := roundHalfUp_lt_iff (n + 1) x
  push_cast at hlt
  rw [← le_roundHalfUp_iff, ← hlt]
  omega

/-- A number is rounded by half a unit at most, and by less than that if it is rounded down. -/
theorem roundHalfUp_bounds (x : ℚ) :
    (roundHalfUp x : ℚ) ≤ x + 1 / 2 ∧ x + 1 / 2 < roundHalfUp x + 1 :=
  (roundHalfUp_eq_iff _ x).mp rfl

/-- A whole number is not moved. -/
theorem roundHalfUp_intCast (n : ℤ) : roundHalfUp n = n := by
  rw [roundHalfUp_eq_iff]
  constructor <;> linarith

theorem roundHalfUp_le_roundHalfUp {x y : ℚ} (h : x ≤ y) : roundHalfUp x ≤ roundHalfUp y := by
  rw [le_roundHalfUp_iff]
  linarith [(roundHalfUp_bounds x).1]

/-- Two numbers are rounded to the same one just when no tie is between them. -/
theorem roundHalfUp_eq_roundHalfUp_iff (x y : ℚ) :
    roundHalfUp x = roundHalfUp y ↔ ∀ k : ℤ, (k - 1 / 2 : ℚ) ≤ x ↔ (k - 1 / 2 : ℚ) ≤ y := by
  simp only [sub_le_iff_le_add, ← le_roundHalfUp_iff]
  constructor
  · rintro heq k
    rw [heq]
  · intro hiff
    exact Int.le_antisymm ((hiff _).mp le_rfl) ((hiff _).mpr le_rfl)

/-- Rounding moves a number by half a unit at most. -/
theorem abs_roundHalfUp_sub_le (x : ℚ) : |(roundHalfUp x : ℚ) - x| ≤ 1 / 2 := by
  obtain ⟨hupper, hlower⟩ := roundHalfUp_bounds x
  rw [abs_le]
  constructor <;> linarith

/-- A step is rounded down or up by itself, wherever it is taken from. -/
theorem roundHalfUp_step (x step : ℚ) :
    roundHalfUp (x + step) - roundHalfUp x = ⌊step⌋ ∨
      roundHalfUp (x + step) - roundHalfUp x = ⌈step⌉ := by
  obtain ⟨hupper, hlower⟩ := roundHalfUp_bounds x
  obtain ⟨hupper', hlower'⟩ := roundHalfUp_bounds (x + step)
  have hfloor : ⌊step⌋ ≤ roundHalfUp (x + step) - roundHalfUp x := by
    rw [← Int.lt_add_one_iff, Int.floor_lt]
    push_cast
    linarith
  have hceil : roundHalfUp (x + step) - roundHalfUp x ≤ ⌈step⌉ := by
    rw [← Int.sub_one_lt_iff, Int.lt_ceil]
    push_cast
    linarith
  have hadjacent := Int.ceil_le_floor_add_one step
  omega

/-- Numbers that are a unit apart stay apart when they are rounded. -/
theorem roundHalfUp_lt_roundHalfUp {x y : ℚ} (h : x + 1 ≤ y) : roundHalfUp x < roundHalfUp y := by
  rw [← Int.add_one_le_iff, le_roundHalfUp_iff]
  push_cast
  linarith [(roundHalfUp_bounds x).1]

/-- Rounding does not move a number past a whole number. -/
theorem natAbs_roundHalfUp_le_of_abs {x : ℚ} {bound : ℕ} (h : |x| < bound) :
    (roundHalfUp x).natAbs ≤ bound := by
  obtain ⟨hlow, hhigh⟩ := abs_lt.mp h
  have hle : -(bound : ℤ) ≤ roundHalfUp x := by
    rw [le_roundHalfUp_iff]
    push_cast
    linarith
  have hlt : roundHalfUp x < bound + 1 := by
    rw [roundHalfUp_lt_iff]
    push_cast
    linarith
  omega

/-- A bound on a number bounds what it is rounded to. -/
theorem natAbs_roundHalfUp_le {x : ℚ} {bound : ℕ} (hx : 0 ≤ x) (h : x < bound) :
    (roundHalfUp x).natAbs ≤ bound :=
  natAbs_roundHalfUp_le_of_abs (by rwa [abs_of_nonneg hx])

/-- A quotient is rounded up when the remainder is at least half of the divisor. -/
theorem roundHalfUp_div (a : ℤ) {b : ℤ} (hb : 0 < b) :
    roundHalfUp (a / b) = if 2 * (a % b) < b then a / b else a / b + 1 := by
  have hbq : (0 : ℚ) < b := by exact_mod_cast hb
  have hdiv : (a : ℚ) = b * (a / b : ℤ) + (a % b : ℤ) := by
    exact_mod_cast (Int.mul_ediv_add_emod a b).symm
  have hlt := Int.emod_lt_of_pos a hb
  have hnonneg := Int.emod_nonneg a hb.ne'
  generalize a / b = q, a % b = r at *
  have hquotient : (a / b : ℚ) = q + r / b := by
    rw [hdiv]
    field_simp
  have hzero : (0 : ℚ) ≤ r / b := div_nonneg (by exact_mod_cast hnonneg) hbq.le
  have hone : (r / b : ℚ) < 1 := (div_lt_one hbq).mpr (by exact_mod_cast hlt)
  -- the rounded quotient is the whole part or the next number, as the fraction is below 1
  rw [hquotient, roundHalfUp_eq_iff]
  by_cases hhalf : 2 * r < b
  · have hsmall : (r / b : ℚ) < 1 / 2 := by
      rw [div_lt_iff₀ hbq]
      have hcast : (2 * r : ℚ) < b := by exact_mod_cast hhalf
      linarith
    rw [if_pos hhalf]
    constructor <;> linarith
  · have hlarge : (1 / 2 : ℚ) ≤ r / b := by
      rw [le_div_iff₀ hbq]
      have hcast : (b : ℚ) ≤ 2 * r := by exact_mod_cast Int.not_lt.mp hhalf
      linarith
    rw [if_neg hhalf]
    push_cast
    constructor <;> linarith

end Montage
