import Mathlib.Tactic.FieldSimp
import Mathlib.Tactic.Linarith
import Montage.Proofs.Number.Finite
import Montage.Proofs.Number.Reading
import Montage.Proofs.Number.Unpacked

/-!
# Shortest decimals keep the order

The shortest decimal of a float is one that rounds to the float (`Shortest.within_search`). The reals
that round to one float are on one side of those that round to another (`Shortest.upper_le_lower`), so
a float that is not greater than another does not stand for a greater rational (`rationalOf_mono`).
With no sign of its own, a zero is not below zero either (`rationalOf_nonneg`).
-/

namespace Montage

/-- A power is split into the two factors of which one is 1. -/
theorem power_eq_zpow_mul {base : ℕ} (hpos : 0 < base) (exponent : ℤ) :
    (power base exponent : ℚ) = base ^ exponent * power base (-exponent) := by
  have hbase : (base : ℚ) ≠ 0 := by exact_mod_cast hpos.ne'
  have hpower : ∀ e : ℤ, (power base e : ℚ) = base ^ (e.toNat : ℤ) := by
    intro e
    rw [zpow_natCast]
    exact Nat.cast_pow base e.toNat
  rw [hpower, hpower, ← zpow_add₀ hbase]
  congr 1
  omega

/-- The value of a decimal is its coefficient times a power of ten, negative or not. -/
theorem Decimal.toRat_eq_zpow (d : Decimal) : d.toRat = d.coefficient * 10 ^ d.exponent := by
  have hpower := @power_eq_zpow_mul 10 (by decide) d.exponent
  have hpos : (0 : ℚ) < power 10 (-d.exponent) := by exact_mod_cast power_pos _ (by decide)
  rw [toRat]
  push_cast at hpower ⊢
  rw [hpower]
  field_simp

namespace Shortest

open Binary64 (leastExponent)

/-! ## The reals that round to a float -/

/-- The least of the reals that round to a magnitude, or the limit below them. -/
def lower (x : Magnitude) : ℚ :=
  (4 * x.significand - if x.narrowBelow then 1 else 2 : ℕ) * 2 ^ (x.exponent - 2)

/-- The greatest of the reals that round to a magnitude, or the limit above them. -/
def upper (x : Magnitude) : ℚ :=
  (4 * x.significand + 2 : ℕ) * 2 ^ (x.exponent - 2)

/-- The decimal with these digits and this exponent is between the limits. -/
def Within (x : Magnitude) (decimal : ℕ × ℤ) : Prop :=
  lower x ≤ decimal.1 * 10 ^ decimal.2 ∧ (decimal.1 * 10 ^ decimal.2 : ℚ) ≤ upper x

section Compare

variable (a : ℕ) (i : ℤ) (n : ℕ) (j : ℤ)

/-- The two naturals that are compared are the two numbers with a common factor. -/
theorem exists_compareScaled_eq : ∃ factor : ℚ, 0 < factor ∧ ∃ left right : ℕ,
    (left : ℚ) = a * 10 ^ i * factor ∧ (right : ℚ) = n * 2 ^ j * factor ∧
      compareScaled a i n j = compare left right := by
  have hten := @power_eq_zpow_mul 10 (by decide) i
  have htwo := @power_eq_zpow_mul 2 (by decide) j
  push_cast at hten htwo
  refine ⟨power 10 (-i) * power 2 (-j), ?_, _, _, ?_, ?_, rfl⟩
  · exact_mod_cast Nat.mul_pos (power_pos _ (by decide)) (power_pos _ (by decide))
  · push_cast
    rw [hten]
    ring
  · push_cast
    rw [htwo]
    ring

theorem compareScaled_ne_lt : compareScaled a i n j ≠ .lt ↔ (n * 2 ^ j : ℚ) ≤ a * 10 ^ i := by
  obtain ⟨factor, hpos, left, right, hleft, hright, hcompare⟩ := exists_compareScaled_eq a i n j
  rw [hcompare, Nat.compare_ne_lt, ← mul_le_mul_iff_left₀ hpos, ← hleft, ← hright, Nat.cast_le]

theorem compareScaled_ne_gt : compareScaled a i n j ≠ .gt ↔ (a * 10 ^ i : ℚ) ≤ n * 2 ^ j := by
  obtain ⟨factor, hpos, left, right, hleft, hright, hcompare⟩ := exists_compareScaled_eq a i n j
  rw [hcompare, Nat.compare_ne_gt, ← mul_le_mul_iff_left₀ hpos, ← hleft, ← hright, Nat.cast_le]

end Compare

/-- What is above a bound, or on it where that counts, is not below. -/
theorem ne_lt_of_low {order : Ordering} {included : Bool}
    (h : (order == .gt || (included && order == .eq)) = true) : order ≠ .lt := by
  rintro rfl
  cases included <;> cases h

theorem ne_gt_of_high {order : Ordering} {included : Bool}
    (h : (order == .lt || (included && order == .eq)) = true) : order ≠ .gt := by
  rintro rfl
  cases included <;> cases h

/-- Digits that read back as the float lie between its bounds. -/
theorem within_of_readsBack {x : Magnitude} {digits : ℕ} {exponent : ℤ}
    (h : readsBack x digits exponent) : Within x (digits, exponent) := by
  obtain ⟨hlow, hhigh⟩ := Bool.and_eq_true_iff.mp h
  exact ⟨(compareScaled_ne_lt ..).mp (ne_lt_of_low hlow),
    (compareScaled_ne_gt ..).mp (ne_gt_of_high hhigh)⟩

/-- What is found on a grid reads back as the float. -/
theorem readsBack_of_onGrid? {x : Magnitude} {exponent : ℤ} {digits : ℕ}
    (h : onGrid? x exponent = some digits) : readsBack x digits exponent := by
  unfold onGrid? at h
  dsimp only at h
  generalize x.significand * power 2 x.exponent * power 10 (-exponent) /
    (power 2 (-x.exponent) * power 10 exponent) = below at h
  -- of the two neighbours on the grid both, one or none may read back
  cases hbelow : readsBack x below exponent <;> cases habove : readsBack x (below + 1) exponent <;>
    rw [hbelow, habove] at h <;> dsimp only at h
  · cases h
  · obtain rfl := Option.some.inj h
    exact habove
  · obtain rfl := Option.some.inj h
    exact hbelow
  · split at h
    · obtain rfl := Option.some.inj h
      exact hbelow
    · obtain rfl := Option.some.inj h
      exact habove
    · obtain rfl := Option.some.inj h
      split
      · exact hbelow
      · exact habove

/-- A magnitude that is written out in full is the magnitude. -/
theorem exact_value (x : Magnitude) : ((exact x).1 * 10 ^ (exact x).2 : ℚ) = x.value := by
  obtain ⟨significand, exponent, narrowBelow⟩ := x
  rw [exact, Magnitude.value]
  dsimp only
  -- a power of two is written out, or turned into a power of ten by powers of five
  rcases Int.le_total 0 exponent with hnonneg | hnonpos
  · obtain ⟨n, rfl⟩ := Int.eq_ofNat_of_zero_le hnonneg
    rw [power_of_nonpos 5 (by omega), Int.min_eq_right hnonneg, power, Int.toNat_natCast]
    simp
  · obtain ⟨n, hn⟩ := Int.eq_ofNat_of_zero_le (Int.neg_nonneg_of_nonpos hnonpos)
    obtain rfl : exponent = -n := by omega
    rw [power_of_nonpos 2 hnonpos, Int.min_eq_left hnonpos, Int.neg_neg, power, Int.toNat_natCast]
    have hten : (10 : ℚ) ^ n = 2 ^ n * 5 ^ n := by
      rw [← mul_pow]
      norm_num
    simp only [zpow_neg, zpow_natCast, hten, Nat.pow_eq]
    push_cast
    field_simp

/-- A magnitude in quarters of its unit. -/
theorem value_eq_quarters (x : Magnitude) :
    x.value = (4 * x.significand : ℕ) * 2 ^ (x.exponent - 2) := by
  rw [Magnitude.value, zpow_sub₀ two_ne_zero]
  push_cast
  ring

/-- A float lies between its own bounds. -/
theorem within_value (x : Magnitude) : lower x ≤ x.value ∧ x.value ≤ upper x := by
  rw [value_eq_quarters, lower, upper]
  constructor
  · gcongr
    exact Nat.sub_le _ _
  · gcongr
    exact Nat.le_add_right _ _

/-- The shortest digits that are found lie between the bounds of the float. -/
theorem within_search (x : Magnitude) : Within x (search x) := by
  rw [search]
  dsimp only
  generalize hfound : List.findSome? _ (List.range 17) = found
  cases found with
  | none =>
    rw [Option.getD_none, Within, exact_value]
    exact within_value x
  | some decimal =>
    obtain ⟨n, -, hn⟩ := List.exists_of_findSome?_eq_some hfound
    obtain ⟨digits, hdigits, rfl⟩ := Option.map_eq_some_iff.mp hn
    exact within_of_readsBack (readsBack_of_onGrid? hdigits)

/-- Zeros are dropped from the end without changing the value. -/
theorem decimal_value {x : Magnitude} (h : x.significand ≠ 0) :
    ((decimal x).1 * 10 ^ (decimal x).2 : ℚ) = (search x).1 * 10 ^ (search x).2 := by
  have hdigits := (dropZeros_spec (search x).1 (Decimal.digitCount (search x).1)).1
  have hcast := congrArg (Nat.cast (R := ℚ)) hdigits
  push_cast at hcast
  rw [decimal, if_neg h]
  dsimp only
  rw [zpow_add₀ (by norm_num), zpow_natCast, ← hcast]
  ring

/-- The rational that the shortest decimal of a magnitude stands for. -/
def rational (x : Magnitude) : ℚ :=
  (decimal x).1 * 10 ^ (decimal x).2

theorem rational_nonneg (x : Magnitude) : 0 ≤ rational x := by
  rw [rational]
  positivity

theorem rational_of_value_eq_zero {x : Magnitude} (h : x.value = 0) : rational x = 0 := by
  rw [rational, decimal, if_pos (x.value_eq_zero_iff.mp h)]
  simp

/-- **The shortest decimal is a number that rounds to the magnitude.** -/
theorem rational_within {x : Magnitude} (h : x.value ≠ 0) :
    lower x ≤ rational x ∧ rational x ≤ upper x := by
  rw [rational, decimal_value (mt x.value_eq_zero_iff.mpr h)]
  exact within_search x

/-! ## Neighbours -/

/-- A magnitude that floats have. -/
structure Sound (x : Magnitude) : Prop extends Binary64.Proper x.significand x.exponent where
  narrow : x.narrowBelow ↔ x.significand = 2 ^ 52 ∧ x.exponent ≠ leastExponent

section Neighbours

variable {x y : Magnitude}

/-- A larger float does not have a smaller exponent. -/
theorem exponent_le (hx : Sound x) (hy : Sound y) (h : x.value ≤ y.value) :
    x.exponent ≤ y.exponent := by
  by_contra hlt
  have hne : x.exponent ≠ leastExponent := by
    have := hy.le
    omega
  have hfull : (2 ^ 52 : ℚ) ≤ x.significand := by exact_mod_cast hx.full.resolve_right hne
  have hvalue : y.value < x.value :=
    (hy.lt_of_lt (Int.lt_of_not_ge hlt)).trans_le (by rw [Magnitude.value]; gcongr)
  exact absurd h hvalue.not_ge

/-- Floats with equal magnitudes have the same one. -/
theorem eq_of_value_eq (hx : Sound x) (hy : Sound y) (h : x.value = y.value) : x = y := by
  have hexponent : x.exponent = y.exponent :=
    Int.le_antisymm (exponent_le hx hy h.le) (exponent_le hy hx h.ge)
  have hsignificand : x.significand = y.significand := by
    rw [Magnitude.value, Magnitude.value, hexponent] at h
    exact_mod_cast mul_right_cancel₀ (by positivity) h
  have hnarrow : x.narrowBelow = y.narrowBelow := by
    rw [Bool.eq_iff_iff, hx.narrow, hy.narrow, hexponent, hsignificand]
  cases x
  cases y
  simp_all

/-- **The reals that round to a float are below those that round to a greater one.** -/
theorem upper_le_lower (hx : Sound x) (hy : Sound y) (h : x.value < y.value) :
    upper x ≤ lower y := by
  have hreach : (if y.narrowBelow then 1 else 2) ≤ 2 := by split <;> decide
  rw [upper, lower]
  -- of two floats with one exponent the significands decide
  rcases (exponent_le hx hy h.le).eq_or_lt with heq | hlt
  · have hsignificand : x.significand < y.significand := by
      rw [Magnitude.value, Magnitude.value, heq] at h
      exact_mod_cast lt_of_mul_lt_mul_right h (by positivity)
    rw [heq]
    gcongr
    omega
  · -- otherwise the lower one is at most all ones, and the upper one has its leading bit
    have hne : y.exponent ≠ leastExponent := by
      have := hx.le
      omega
    have hfull := hy.full.resolve_right hne
    have habove : 4 * x.significand + 2 ≤ 2 ^ 55 - 2 := by
      have := hx.lt
      omega
    have hbelow : 2 ^ 54 - 1 ≤ 4 * y.significand - if y.narrowBelow then 1 else 2 := by
      by_cases hnarrow : y.narrowBelow
      · rw [if_pos hnarrow]
        omega
      · have : ¬y.significand = 2 ^ 52 := fun heq => hnarrow (hy.narrow.mpr ⟨heq, hne⟩)
        rw [if_neg hnarrow]
        omega
    have hpow : (2 : ℚ) ^ (x.exponent - 1) ≤ 2 ^ (y.exponent - 2) :=
      zpow_le_zpow_right₀ one_le_two (by omega)
    calc ((4 * x.significand + 2 : ℕ) * 2 ^ (x.exponent - 2) : ℚ)
        ≤ (2 ^ 55 - 2 : ℕ) * 2 ^ (x.exponent - 2) := by gcongr
      _ = (2 ^ 54 - 1 : ℕ) * 2 ^ (x.exponent - 1) := by
        have hexponent : x.exponent - 1 = x.exponent - 2 + 1 := by omega
        rw [hexponent, zpow_add₀ two_ne_zero, zpow_one]
        norm_num
        ring
      _ ≤ (4 * y.significand - if y.narrowBelow then 1 else 2 : ℕ) * 2 ^ (y.exponent - 2) := by
        gcongr

/-- The shortest decimals of magnitudes are in their order. -/
theorem rational_mono (hx : Sound x) (hy : Sound y) (h : x.value ≤ y.value) :
    rational x ≤ rational y := by
  rcases h.lt_or_eq with hlt | heq
  · by_cases hzero : x.value = 0
    · rw [rational_of_value_eq_zero hzero]
      exact rational_nonneg y
    · calc rational x ≤ upper x := (rational_within hzero).2
        _ ≤ lower y := upper_le_lower hx hy hlt
        _ ≤ rational y := (rational_within (x.value_nonneg.trans_lt hlt).ne').1
  · rw [eq_of_value_eq hx hy heq]

end Neighbours

end Shortest

/-! ## Floats with a sign -/

namespace Binary64

/-- Every float has a sound magnitude. -/
theorem sound_magnitude (x : Float) : Shortest.Sound (magnitude x) :=
  ⟨proper_magnitude x, narrowBelow_magnitude x⟩

end Binary64

open Binary64

/-- The rational of a finite float is that of its magnitude, with its sign. -/
theorem rationalOf_eq_ok {x : Float} {q : ℚ} (h : rationalOf x = .ok q) :
    q = if isNegative x then -Shortest.rational (magnitude x)
      else Shortest.rational (magnitude x) := by
  by_cases hfinite : x.isFinite
  · have hvalue : rationalOf x = .ok (Decimal.toRat
        ⟨if isNegative x then -(Shortest.decimal (magnitude x)).1
          else (Shortest.decimal (magnitude x)).1, (Shortest.decimal (magnitude x)).2⟩) := by
      rw [rationalOf, decimalOf?, if_pos hfinite]
    rw [hvalue] at h
    rw [← Except.ok.inj h, Decimal.toRat_eq_zpow, Shortest.rational]
    dsimp only
    split <;> push_cast
    · exact neg_mul _ _
    · rfl
  · rw [rationalOf, decimalOf?, if_neg hfinite] at h
    cases h

/-- **A float that is not greater than another does not stand for a greater rational.** -/
theorem rationalOf_mono {x y : Float} (hle : value x ≤ value y) {p q : ℚ}
    (hp : rationalOf x = .ok p) (hq : rationalOf y = .ok q) : p ≤ q := by
  have hx := sound_magnitude x
  have hy := sound_magnitude y
  rw [rationalOf_eq_ok hp, rationalOf_eq_ok hq]
  rw [value, value] at hle
  have hxNonneg := Shortest.rational_nonneg (magnitude x)
  have hyNonneg := Shortest.rational_nonneg (magnitude y)
  by_cases hxNegative : isNegative x <;> by_cases hyNegative : isNegative y
  · rw [if_pos hxNegative, if_pos hyNegative] at hle ⊢
    exact neg_le_neg (Shortest.rational_mono hy hx (neg_le_neg_iff.mp hle))
  · rw [if_pos hxNegative, if_neg hyNegative]
    exact (neg_nonpos.mpr hxNonneg).trans hyNonneg
  · -- only two zeros are in this order
    rw [if_neg hxNegative, if_pos hyNegative] at hle ⊢
    have hxValue := (magnitude x).value_nonneg
    have hyValue := (magnitude y).value_nonneg
    have hxZero : (magnitude x).value = 0 := by linarith
    have hyZero : (magnitude y).value = 0 := by linarith
    rw [Shortest.rational_of_value_eq_zero hxZero, Shortest.rational_of_value_eq_zero hyZero,
      neg_zero]
  · rw [if_neg hxNegative, if_neg hyNegative] at hle ⊢
    exact Shortest.rational_mono hx hy hle

/-- A float that is not below zero stands for a rational that is not. -/
theorem rationalOf_nonneg {x : Float} (h : ofRatio 0 1 ≤ x) {q : ℚ} (hq : rationalOf x = .ok q) :
    0 ≤ q := by
  have hvalue : 0 ≤ value x := value_nonneg h ((rationalOf_isOk_iff x).mp ⟨q, hq⟩)
  rw [value] at hvalue
  rw [rationalOf_eq_ok hq]
  split
  · rw [if_pos ‹_›] at hvalue
    have hzero := le_antisymm (neg_nonneg.mp hvalue) (magnitude x).value_nonneg
    rw [Shortest.rational_of_value_eq_zero hzero, neg_zero]
  · exact Shortest.rational_nonneg _

end Montage
