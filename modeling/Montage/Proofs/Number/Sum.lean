import Mathlib.Tactic.FieldSimp
import Montage.Proofs.Number.Unpacked

/-!
# Sums of floats

The sum of two floats is computed exactly and then rounded to a significand of 53 bits
(`exists_round`). Rounding does not move a number past a float (`le_unpackedValue_normalized`), so a
float does not get less by adding one that is not below zero (`value_le_value_add`).
-/

namespace Montage.Binary64

open Float.Model (Format UnpackedFloat totalExponent)
open Float.Model.UnpackedFloat

/-! ## Dropping bits -/

/-- A shift of a mantissa drops its low bits. -/
theorem mantissa_shiftRight (mantissa : ExtendedMantissa) (count : ℕ) :
    (mantissa >>> count).mantissa = mantissa.mantissa / 2 ^ count := by
  show (count.repeat ExtendedMantissa.shiftRightOne mantissa).mantissa = _
  induction count with
  | zero => simp [Nat.repeat]
  | succ count ih =>
    rw [Nat.repeat, ExtendedMantissa.shiftRightOne, ih, Nat.div_div_eq_div_mul, Nat.pow_succ]

/-- Nothing is lost when only zeros are dropped. -/
theorem shiftRight_of_dvd {significand count : ℕ} (h : 2 ^ count ∣ significand) :
    ExtendedMantissa.mk significand false false >>> count =
      ⟨significand / 2 ^ count, false, false⟩ := by
  show count.repeat ExtendedMantissa.shiftRightOne _ = _
  induction count with
  | zero => simp [Nat.repeat]
  | succ count ih =>
    obtain ⟨quotient, rfl⟩ := h
    have hdvd : 2 ^ count ∣ 2 ^ (count + 1) * quotient :=
      Dvd.dvd.mul_right (Nat.pow_dvd_pow 2 (Nat.le_succ count)) quotient
    have hhalf : 2 ^ (count + 1) * quotient / 2 ^ count = 2 * quotient := by
      rw [Nat.pow_succ, Nat.mul_assoc, Nat.mul_div_cancel_left _ (Nat.two_pow_pos count)]
    rw [Nat.repeat, ih hdvd, ExtendedMantissa.shiftRightOne, hhalf,
      Nat.mul_div_cancel_left _ (Nat.two_pow_pos _)]
    simp

/-- Rounding a mantissa changes it by at most one. -/
theorem roundedMantissa_bounds (mantissa : ExtendedMantissa) :
    mantissa.mantissa ≤ mantissa.roundedMantissa ∧
      mantissa.roundedMantissa ≤ mantissa.mantissa + 1 := by
  obtain ⟨significand, roundBit, stickyBit⟩ := mantissa
  rw [ExtendedMantissa.roundedMantissa]
  cases roundBit <;> cases stickyBit <;>
    simp only [ExtendedMantissa.accuracy, Accuracy.roundToNearestEven] <;> omega

/-- The significand that is left when its last bits are rounded off. -/
def rounded (significand count : ℕ) : ℕ :=
  (ExtendedMantissa.mk significand false false >>> count).roundedMantissa

/-- Rounding does not pass a number below that is representable. -/
theorem le_rounded {significand count n : ℕ} (h : n * 2 ^ count ≤ significand) :
    n ≤ rounded significand count := by
  have hfloor : n ≤ significand / 2 ^ count := (Nat.le_div_iff_mul_le (Nat.two_pow_pos _)).mpr h
  rw [← mantissa_shiftRight ⟨significand, false, false⟩] at hfloor
  exact hfloor.trans (roundedMantissa_bounds _).1

/-- Rounding does not pass a number above that is representable. -/
theorem rounded_le {significand count n : ℕ} (h : significand ≤ n * 2 ^ count) :
    rounded significand count ≤ n := by
  by_cases hdvd : 2 ^ count ∣ significand
  · rw [rounded, shiftRight_of_dvd hdvd]
    exact Nat.div_le_of_le_mul (by rwa [Nat.mul_comm])
  · have hne : significand ≠ n * 2 ^ count := fun heq => hdvd (heq ▸ Nat.dvd_mul_left _ _)
    have hfloor : significand / 2 ^ count < n :=
      (Nat.div_lt_iff_lt_mul (Nat.two_pow_pos _)).mpr (Nat.lt_of_le_of_ne h hne)
    have hupper :=
      (roundedMantissa_bounds (ExtendedMantissa.mk significand false false >>> count)).2
    rw [mantissa_shiftRight] at hupper
    exact hupper.trans hfloor

/-! ## Rounding -/

/-- The exponent that a number is rounded to. -/
def targetOf (significand : ℕ) (exponent : ℤ) : ℤ :=
  max (significand.log2 + exponent - 52) leastExponent

/-- The exponent that is aimed at keeps 53 bits, or it is the least there is. -/
theorem targetExponent_eq (significand : ℕ) (exponent : ℤ) :
    Format.binary64.targetExponent (totalExponent significand exponent) =
      targetOf significand exponent := by
  have hplaces : (Format.binary64.mantissaBits : ℤ) = 53 := rfl
  have hleast : Format.binary64.minExponent = leastExponent := rfl
  rw [Format.targetExponent, hplaces, hleast, totalExponent, targetOf]
  congr 1
  omega

theorem shiftToTargetExponent_eq (significand : ℕ) (exponent : ℤ) :
    shiftToTargetExponent Format.binary64 significand exponent .exact =
      (ExtendedMantissa.mk significand false false >>>
          (targetOf significand exponent - exponent).toNat,
        exponent + (targetOf significand exponent - exponent).toNat) := by
  rw [← targetExponent_eq]
  rfl

/-- A significand of at most 53 bits stays as it is. -/
theorem shiftToTargetExponent_of_lt {significand : ℕ} {exponent : ℤ}
    (hlt : significand < 2 ^ 53) (hle : leastExponent ≤ exponent) :
    shiftToTargetExponent Format.binary64 significand exponent .exact =
      (⟨significand, false, false⟩, exponent) := by
  have hlog : significand.log2 ≤ 52 := by
    by_cases hzero : significand = 0
    · rw [hzero]
      decide
    · exact Nat.le_of_lt_succ ((Nat.log2_lt hzero).mpr hlt)
  have htarget : (targetOf significand exponent - exponent).toNat = 0 := by
    rw [targetOf]
    omega
  rw [shiftToTargetExponent_eq, htarget]
  exact Prod.ext rfl (Int.add_zero exponent)

/-- A carry into one more bit moves the exponent. -/
theorem shiftToTargetExponent_carry {exponent : ℤ} (hle : leastExponent ≤ exponent) :
    shiftToTargetExponent Format.binary64 (2 ^ 53) exponent .exact =
      (⟨2 ^ 52, false, false⟩, exponent + 1) := by
  have htarget : (targetOf (2 ^ 53) exponent - exponent).toNat = 1 := by
    rw [targetOf, Nat.log2_two_pow]
    omega
  rw [shiftToTargetExponent_eq, htarget]
  rfl

/-- A significand that is not rounded any more, and its exponent, as an unpacked float. -/
def unpackedOf (sign : Sign) (shifted : ExtendedMantissa × ℤ) : UnpackedFloat :=
  if h : shifted.1.mantissa = 0 then .zero sign
  else .finite sign shifted.1.mantissa shifted.2 (Nat.pos_of_ne_zero h)

/-- A rounded significand as an unpacked float. -/
def settled (sign : Sign) (significand : ℕ) (exponent : ℤ) : UnpackedFloat :=
  unpackedOf sign (shiftToTargetExponent Format.binary64 significand exponent .exact)

/-- A rounded significand is packed as it is, or as a power of two, or as zero. -/
theorem settled_eq {sign : Sign} {significand : ℕ} {exponent : ℤ}
    (hle : significand ≤ 2 ^ 53) (hleast : leastExponent ≤ exponent) :
    significand = 2 ^ 53 ∧ settled sign significand exponent =
        .finite sign (2 ^ 52) (exponent + 1) (Nat.two_pow_pos 52) ∨
      significand = 0 ∧ settled sign significand exponent = .zero sign ∨
      significand < 2 ^ 53 ∧ ∃ hpos, settled sign significand exponent =
        .finite sign significand exponent hpos := by
  rcases Nat.eq_or_lt_of_le hle with rfl | hlt
  · left
    rw [settled, shiftToTargetExponent_carry hleast]
    exact ⟨rfl, rfl⟩
  · right
    rw [settled, shiftToTargetExponent_of_lt hlt hleast]
    rcases Nat.eq_zero_or_pos significand with hzero | hpos
    · exact .inl ⟨hzero, dif_pos hzero⟩
    · exact .inr ⟨hlt, hpos, dif_neg hpos.ne'⟩

/-- A sum that needs a shift is rounded once, with nothing lost before. -/
theorem roundWithAccuracy_eq (sign : Sign) {significand count : ℕ} {exponent : ℤ}
    (h : targetOf significand exponent = exponent + count) :
    roundWithAccuracy Format.binary64 sign significand exponent .exact =
      settled sign (rounded significand count) (exponent + count) := by
  have hcount : (exponent + count - exponent).toNat = count := by omega
  rw [roundWithAccuracy, shiftToTargetExponent_eq, h, hcount]
  rfl

/-- Before rounding the significand is scaled up to the exponent that is aimed at. -/
theorem round_eq (sign : Sign) (significand : ℕ) (exponent : ℤ) {scale : ℕ}
    (h : (exponent - targetOf significand exponent).toNat = scale) :
    UnpackedFloat.round Format.binary64 sign significand exponent =
      roundWithAccuracy Format.binary64 sign (significand * 2 ^ scale) (exponent - scale)
        .exact := by
  rw [UnpackedFloat.round, targetExponent_eq, decreaseExponent, h, Nat.shiftLeft_eq]

theorem apply_natCast (sign : Sign) (n : ℕ) : (sign.apply n : ℚ) = sign.apply 1 * n := by
  cases sign <;> simp [Sign.apply]

/-- A significand that a positive number is rounded to, and its exponent. -/
structure RoundsTo (x : ℚ) (significand : ℕ) (exponent : ℤ) : Prop where
  least : leastExponent ≤ exponent
  full : 2 ^ 52 * 2 ^ exponent ≤ x ∨ exponent = leastExponent
  lt : x < 2 ^ 53 * 2 ^ exponent
  lower : ∀ n : ℕ, n * 2 ^ exponent ≤ x → n ≤ significand
  upper : ∀ n : ℕ, x ≤ n * 2 ^ exponent → significand ≤ n

namespace RoundsTo

variable {x : ℚ} {significand : ℕ} {exponent : ℤ} (h : RoundsTo x significand exponent)

include h

theorem le : significand ≤ 2 ^ 53 :=
  h.upper (2 ^ 53) (by exact_mod_cast h.lt.le)

theorem full_significand : 2 ^ 52 ≤ significand ∨ exponent = leastExponent :=
  h.full.imp_left fun hx => h.lower (2 ^ 52) (by exact_mod_cast hx)

theorem canonical (sign : Sign) : Canonical (settled sign significand exponent) := by
  rcases @settled_eq sign _ _ h.le h.least with
    ⟨-, hsettled⟩ | ⟨-, hsettled⟩ | ⟨hlt, hpos, hsettled⟩ <;> rw [hsettled]
  · exact ⟨by decide, by have := h.least; omega, .inl le_rfl⟩
  · trivial
  · exact ⟨hlt, h.least, h.full_significand⟩

/-- What is packed has the value that was rounded. -/
theorem unpackedValue_settled (sign : Sign) :
    unpackedValue (settled sign significand exponent) =
      sign.apply 1 * (significand * 2 ^ exponent) := by
  rcases @settled_eq sign _ _ h.le h.least with
    ⟨heq, hsettled⟩ | ⟨heq, hsettled⟩ | ⟨hlt, hpos, hsettled⟩
  · rw [hsettled, unpackedValue_finite, heq, apply_natCast, zpow_add₀ two_ne_zero, zpow_one]
    push_cast
    ring
  · rw [hsettled, unpackedValue_zero, heq]
    simp
  · rw [hsettled, unpackedValue_finite, apply_natCast, mul_assoc]

/-- A float below a full significand is a multiple of the unit that is rounded to, or else less than
all that have a full significand. -/
theorem grid {n : ℕ} {least : ℤ} (hproper : Proper n least) :
    (∃ k : ℕ, (n * 2 ^ least : ℚ) = k * 2 ^ exponent) ∨
      2 ^ 52 * 2 ^ exponent ≤ x ∧ (n * 2 ^ least : ℚ) < 2 ^ 52 * 2 ^ exponent := by
  by_cases hle : exponent ≤ least
  · left
    obtain ⟨count, rfl⟩ := Int.le.dest hle
    refine ⟨n * 2 ^ count, ?_⟩
    rw [zpow_add₀ two_ne_zero, zpow_natCast]
    push_cast
    ring
  · right
    have hne : exponent ≠ leastExponent := by
      have := hproper.le
      omega
    exact ⟨h.full.resolve_right hne, hproper.lt_of_lt (Int.lt_of_not_ge hle)⟩

/-- A number is not rounded below a float that it is not below. -/
theorem proper_le {n : ℕ} {least : ℤ} (hproper : Proper n least) (hle : (n * 2 ^ least : ℚ) ≤ x) :
    (n * 2 ^ least : ℚ) ≤ significand * 2 ^ exponent := by
  rcases h.grid hproper with ⟨k, hk⟩ | ⟨hfull, hlt⟩
  · rw [hk] at hle ⊢
    have := h.lower k hle
    gcongr
  · have hsignificand : (2 ^ 52 : ℚ) ≤ significand := by
      exact_mod_cast h.lower (2 ^ 52) (by exact_mod_cast hfull)
    exact hlt.le.trans (by gcongr)

/-- A number is not rounded above a float that it is not above. -/
theorem le_proper {n : ℕ} {least : ℤ} (hproper : Proper n least) (hle : x ≤ (n * 2 ^ least : ℚ)) :
    (significand * 2 ^ exponent : ℚ) ≤ n * 2 ^ least := by
  rcases h.grid hproper with ⟨k, hk⟩ | ⟨hfull, hlt⟩
  · rw [hk] at hle ⊢
    have := h.upper k hle
    gcongr
  · exact absurd (hfull.trans hle) hlt.not_ge

end RoundsTo

/-- Each factor of two is one more bit. -/
theorem log2_mul_two_pow {n : ℕ} (hpos : 0 < n) (count : ℕ) :
    (n * 2 ^ count).log2 = n.log2 + count := by
  induction count with
  | zero => simp
  | succ count ih =>
    have hne : n * 2 ^ count ≠ 0 := (Nat.mul_pos hpos (Nat.two_pow_pos count)).ne'
    rw [Nat.pow_succ, ← Nat.mul_assoc, Nat.mul_comm _ 2, Nat.log2_two_mul hne, ih, Nat.add_assoc]

/-- The bits of a number that are kept, and the exponent that it is rounded to. -/
theorem targetOf_bounds {significand : ℕ} (hpos : 0 < significand) (exponent : ℤ) :
    (2 ^ 52 * 2 ^ targetOf significand exponent ≤ (significand * 2 ^ exponent : ℚ) ∨
        targetOf significand exponent = leastExponent) ∧
      (significand * 2 ^ exponent : ℚ) < 2 ^ 53 * 2 ^ targetOf significand exponent := by
  have hlower : (2 ^ significand.log2 : ℚ) ≤ significand := by
    exact_mod_cast Nat.log2_self_le hpos.ne'
  have hupper : (significand : ℚ) < 2 ^ (significand.log2 + 1) := by
    exact_mod_cast @Nat.lt_log2_self significand
  constructor
  · -- either the exponent aimed at is that of the leading bit, or the least there is
    rcases max_choice (significand.log2 + exponent - 52) leastExponent with htarget | htarget
    · left
      rw [targetOf, htarget]
      calc (2 ^ 52 * 2 ^ (significand.log2 + exponent - 52) : ℚ)
          = 2 ^ significand.log2 * 2 ^ exponent := by
            rw [zpow_sub₀ two_ne_zero, zpow_add₀ two_ne_zero, zpow_natCast]
            field_simp
        _ ≤ significand * 2 ^ exponent := by gcongr
    · exact .inr htarget
  · calc (significand * 2 ^ exponent : ℚ)
        < 2 ^ (significand.log2 + 1) * 2 ^ exponent := by gcongr
      _ = 2 ^ 53 * 2 ^ (significand.log2 + exponent - 52) := by
        rw [zpow_sub₀ two_ne_zero, zpow_add₀ two_ne_zero, zpow_natCast, pow_succ]
        field_simp
      _ ≤ 2 ^ 53 * 2 ^ targetOf significand exponent := by
        gcongr
        · exact one_le_two
        · exact le_max_left _ _

/-- Rounding off the last bits of a significand rounds the number to their exponent. -/
theorem roundsTo_rounded {significand count : ℕ} {exponent : ℤ}
    (hleast : leastExponent ≤ exponent + count)
    (hfull : 2 ^ 52 * 2 ^ (exponent + count) ≤ (significand * 2 ^ exponent : ℚ) ∨
      exponent + count = leastExponent)
    (hlt : (significand * 2 ^ exponent : ℚ) < 2 ^ 53 * 2 ^ (exponent + count)) :
    RoundsTo (significand * 2 ^ exponent) (rounded significand count) (exponent + count) := by
  have hpositive : (0 : ℚ) < 2 ^ exponent := by positivity
  have hunit : ∀ n : ℕ, (n * 2 ^ (exponent + count) : ℚ) = (n * 2 ^ count : ℕ) * 2 ^ exponent := by
    intro n
    rw [zpow_add₀ two_ne_zero, zpow_natCast]
    push_cast
    ring
  refine ⟨hleast, hfull, hlt, fun n hn => ?_, fun n hn => ?_⟩
  · rw [hunit, mul_le_mul_iff_left₀ hpositive] at hn
    exact le_rounded (by exact_mod_cast hn)
  · rw [hunit, mul_le_mul_iff_left₀ hpositive] at hn
    exact rounded_le (by exact_mod_cast hn)

/-- **Rounding a positive number.** -/
theorem exists_round (sign : Sign) {significand : ℕ} (hpos : 0 < significand) (exponent : ℤ) :
    ∃ kept target, RoundsTo (significand * 2 ^ exponent) kept target ∧
      UnpackedFloat.round Format.binary64 sign significand exponent = settled sign kept target := by
  obtain ⟨hfull, hlt⟩ := targetOf_bounds hpos exponent
  have hleast : leastExponent ≤ targetOf significand exponent := le_max_right _ _
  -- the significand is scaled first so that its exponent is the target or less
  obtain ⟨scale, hscale⟩ : ∃ scale, (exponent - targetOf significand exponent).toNat = scale :=
    ⟨_, rfl⟩
  obtain ⟨count, hcount⟩ :
      ∃ count : ℕ, targetOf significand exponent = exponent - scale + count :=
    ⟨(targetOf significand exponent - (exponent - scale)).toNat, by omega⟩
  have htarget : targetOf (significand * 2 ^ scale) (exponent - scale) =
      targetOf significand exponent := by
    rw [targetOf, log2_mul_two_pow hpos, targetOf]
    congr 1
    omega
  have hvalue : (significand * 2 ^ exponent : ℚ) =
      (significand * 2 ^ scale : ℕ) * 2 ^ (exponent - scale) := by
    rw [zpow_sub₀ two_ne_zero, zpow_natCast]
    push_cast
    field_simp
  rw [hcount, hvalue] at hfull hlt
  rw [hcount] at hleast
  refine ⟨_, _, hvalue ▸ roundsTo_rounded hleast hfull hlt, ?_⟩
  rw [round_eq sign significand exponent hscale, roundWithAccuracy_eq sign (htarget.trans hcount)]

/-- A significand with a sign and its exponent, rounded to an unpacked float. -/
def normalized (significand exponent : ℤ) : UnpackedFloat :=
  UnpackedFloat.normalize Format.binary64 significand exponent .positive

/-- A number is zero, or it is rounded on its side of zero. -/
theorem normalized_cases (significand exponent : ℤ) :
    significand = 0 ∧ normalized significand exponent = .zero .positive ∨
      (∃ kept target, 0 < significand ∧ RoundsTo (significand * 2 ^ exponent) kept target ∧
        normalized significand exponent = settled .positive kept target) ∨
      ∃ kept target, significand < 0 ∧ RoundsTo (-(significand * 2 ^ exponent)) kept target ∧
        normalized significand exponent = settled .negative kept target := by
  rw [normalized, UnpackedFloat.normalize]
  -- the three branches are by the sign of the significand
  split
  · case h_1 hcompare =>
    have hneg : significand < 0 := Int.compare_eq_lt.mp hcompare
    obtain ⟨n, hn⟩ := Int.eq_ofNat_of_zero_le (Int.neg_nonneg_of_nonpos hneg.le)
    have hpos : 0 < n := by omega
    have hvalue : -(significand * 2 ^ exponent : ℚ) = n * 2 ^ exponent := by
      rw [← neg_mul, ← Int.cast_neg, hn, Int.cast_natCast]
    obtain ⟨kept, target, hrounds, hround⟩ := exists_round .negative hpos exponent
    rw [← hvalue] at hrounds
    rw [hn]
    exact .inr (.inr ⟨kept, target, hneg, hrounds, hround⟩)
  · case h_2 hcompare => exact .inl ⟨Int.compare_eq_eq.mp hcompare, rfl⟩
  · case h_3 hcompare =>
    have hpos : 0 < significand := Int.compare_eq_gt.mp hcompare
    obtain ⟨n, rfl⟩ := Int.eq_ofNat_of_zero_le hpos.le
    obtain ⟨kept, target, hrounds, hround⟩ :=
      exists_round .positive (Int.natCast_pos.mp hpos) exponent
    exact .inr (.inl ⟨kept, target, hpos, by exact_mod_cast hrounds, hround⟩)

/-- What a sum is normalized to is canonical. -/
theorem canonical_normalized (significand exponent : ℤ) :
    Canonical (normalized significand exponent) := by
  rcases normalized_cases significand exponent with
    ⟨-, hzero⟩ | ⟨kept, target, -, hrounds, hround⟩ | ⟨kept, target, -, hrounds, hround⟩
  · rw [hzero]
    trivial
  · rw [hround]
    exact hrounds.canonical _
  · rw [hround]
    exact hrounds.canonical _

/-- **A number is not rounded below a float that it is not below.** -/
theorem le_unpackedValue_normalized {x : Float} {significand exponent : ℤ}
    (hle : value x ≤ significand * 2 ^ exponent) :
    value x ≤ unpackedValue (normalized significand exponent) := by
  have hproper := proper_magnitude x
  have hnonneg := (magnitude x).value_nonneg
  -- a positive sum is rounded from above its float, a negative one by the magnitudes the other way
  rcases normalized_cases significand exponent with
    ⟨rfl, hzero⟩ | ⟨kept, target, -, hrounds, hround⟩ | ⟨kept, target, hneg, hrounds, hround⟩
  · rw [hzero, unpackedValue_zero]
    simpa using hle
  · rw [hround, hrounds.unpackedValue_settled]
    simp only [Sign.apply, Int.cast_one, one_mul]
    rw [value] at hle ⊢
    split at hle
    · rw [if_pos ‹_›]
      exact (neg_nonpos.mpr hnonneg).trans (by positivity)
    · rw [if_neg ‹_›]
      exact hrounds.proper_le hproper hle
  · have hbelow : (significand * 2 ^ exponent : ℚ) < 0 :=
      mul_neg_of_neg_of_pos (by exact_mod_cast hneg) (by positivity)
    rw [hround, hrounds.unpackedValue_settled]
    simp only [Sign.apply, Int.cast_neg, Int.cast_one, neg_mul, one_mul]
    rw [value] at hle ⊢
    split at hle
    · rw [if_pos ‹_›]
      exact neg_le_neg (hrounds.le_proper hproper (neg_le.mp hle))
    · exact absurd (hnonneg.trans hle) hbelow.not_ge

/-! ## Adding -/

/-- A significand is written with a smaller exponent without loss. -/
theorem apply_shiftLeft (sign : Sign) (n : ℕ) {exponent target : ℤ} (h : target ≤ exponent) :
    (sign.apply ↑(n <<< (exponent - target).toNat) * 2 ^ target : ℚ) =
      sign.apply n * 2 ^ exponent := by
  obtain ⟨count, rfl⟩ := Int.le.dest h
  have hcount : (target + count - target).toNat = count := by omega
  rw [hcount, Nat.shiftLeft_eq, apply_natCast, apply_natCast sign n, zpow_add₀ two_ne_zero,
    zpow_natCast]
  push_cast
  ring

/-- One of two finite numbers is zero, or they are added exactly and then rounded. -/
theorem add_cases {u v : UnpackedFloat} (hu : u.isFinite) (hv : v.isFinite) :
    unpackedValue u = 0 ∧ UnpackedFloat.add Format.binary64 u v = v ∨
      unpackedValue v = 0 ∧ UnpackedFloat.add Format.binary64 u v = u ∨
      ∃ significand exponent : ℤ,
        (significand * 2 ^ exponent : ℚ) = unpackedValue u + unpackedValue v ∧
        UnpackedFloat.add Format.binary64 u v = normalized significand exponent := by
  match u, v with
  | .zero .negative, .zero .positive => exact .inl ⟨rfl, rfl⟩
  | .zero .positive, .zero _ => exact .inr (.inl ⟨rfl, by cases ‹Sign› <;> rfl⟩)
  | .zero .negative, .zero .negative => exact .inl ⟨rfl, rfl⟩
  | .zero _, .finite .. => exact .inl ⟨rfl, rfl⟩
  | .finite .., .zero _ => exact .inr (.inl ⟨rfl, rfl⟩)
  | .finite sign n exponent _, .finite sign' n' exponent' _ =>
    refine .inr (.inr ⟨_, min exponent exponent', ?_, rfl⟩)
    rw [Int.cast_add, add_mul, apply_shiftLeft sign n (min_le_left _ _),
      apply_shiftLeft sign' n' (min_le_right _ _)]
    rfl

/-- **A sum of floats is not below a float that the exact sum is not below.** -/
theorem le_value_add {x y z : Float} (hx : x.isFinite) (hy : y.isFinite) (hsum : (x + y).isFinite)
    (h : value z ≤ value x + value y) : value z ≤ value (x + y) := by
  have hpack : (x + y).toModel.unpack = unpack Format.binary64 (pack Format.binary64
      (UnpackedFloat.add Format.binary64 x.toModel.unpack y.toModel.unpack)) := rfl
  have hfinite : (x + y).toModel.unpack.isFinite := hsum
  rw [← unpackedValue_unpack hx, ← unpackedValue_unpack hy] at h
  rw [← unpackedValue_unpack hsum]
  rw [hpack] at hfinite ⊢
  -- either one of the floats is zero, and the other is the sum, or the exact sum is normalized
  rcases add_cases hx hy with ⟨hzero, hadd⟩ | ⟨hzero, hadd⟩ | ⟨significand, exponent, hvalue, hadd⟩
  · rw [hadd] at hfinite ⊢
    rw [unpack_pack (canonical_unpack hy) hfinite]
    rwa [hzero, zero_add] at h
  · rw [hadd] at hfinite ⊢
    rw [unpack_pack (canonical_unpack hx) hfinite]
    rwa [hzero, add_zero] at h
  · rw [hadd] at hfinite ⊢
    rw [unpack_pack (canonical_normalized _ _) hfinite]
    rw [← hvalue] at h
    exact le_unpackedValue_normalized h

/-- **A float does not get less by adding one that is not below zero.** -/
theorem value_le_value_add {x y : Float} (hx : x.isFinite) (hy : y.isFinite)
    (hsum : (x + y).isFinite) (hnonneg : 0 ≤ y) : value x ≤ value (x + y) :=
  le_value_add hx hy hsum (le_add_of_nonneg_right (value_nonneg hnonneg hy))

end Montage.Binary64
