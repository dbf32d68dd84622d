import Mathlib.Algebra.Order.Field.Power
import Mathlib.Algebra.Order.Field.Rat
import Mathlib.Data.Nat.Notation
import Mathlib.Data.Rat.Init
import Mathlib.Tactic.GCongr
import Mathlib.Tactic.Positivity
import Mathlib.Tactic.Ring
import Montage.Number.Binary64

/-!
# Floats as exact numbers

A finite float is a significand times a power of two, with a sign (`Binary64.value`). Arithmetic on
floats is done on unpacked floats, which have the same parts: a finite float is unpacked into its
sign and magnitude (`unpack_cases`), and a number whose significand and exponent are those of a float
is packed without loss (`unpack_pack`).
-/

namespace Montage

namespace Magnitude

/-- The number that a magnitude is. -/
def value (x : Magnitude) : ℚ :=
  x.significand * 2 ^ x.exponent

theorem value_nonneg (x : Magnitude) : 0 ≤ x.value := by
  rw [value]
  positivity

/-- A magnitude is zero when its significand is. -/
theorem value_eq_zero_iff (x : Magnitude) : x.value = 0 ↔ x.significand = 0 := by
  have hpower : (2 : ℚ) ^ x.exponent ≠ 0 := by positivity
  rw [value, mul_eq_zero, or_iff_left hpower, Nat.cast_eq_zero]

end Magnitude

namespace Binary64

open Float.Model (Format UnpackedFloat)
open Float.Model.UnpackedFloat

/-- The number that a finite float is. -/
def value (x : Float) : ℚ :=
  if isNegative x then -(magnitude x).value else (magnitude x).value

/-- A significand and an exponent of a float: all bits of the significand are in use, or else the
exponent is the least one. -/
structure Proper (significand : ℕ) (exponent : ℤ) : Prop where
  lt : significand < 2 ^ 53
  le : leastExponent ≤ exponent
  full : 2 ^ 52 ≤ significand ∨ exponent = leastExponent

/-- A float is less than all that have a greater exponent and a full significand. -/
theorem Proper.lt_of_lt {significand : ℕ} {exponent target : ℤ} (h : Proper significand exponent)
    (hlt : exponent < target) : (significand * 2 ^ exponent : ℚ) < 2 ^ 52 * 2 ^ target := by
  have hsignificand : (significand : ℚ) < 2 ^ 53 := by exact_mod_cast h.lt
  have hpow : (2 : ℚ) ^ exponent ≤ 2 ^ (target - 1) := zpow_le_zpow_right₀ one_le_two (by omega)
  calc (significand * 2 ^ exponent : ℚ)
      < 2 ^ 53 * 2 ^ exponent := mul_lt_mul_of_pos_right hsignificand (by positivity)
    _ ≤ 2 ^ 53 * 2 ^ (target - 1) := by gcongr
    _ = 2 ^ 52 * 2 ^ target := by
      rw [zpow_sub₀ two_ne_zero, zpow_one]
      ring

/-- The number that an unpacked float is, and 0 for one that is none. -/
def unpackedValue : UnpackedFloat → ℚ
  | .finite sign significand exponent _ => sign.apply significand * 2 ^ exponent
  | _ => 0

theorem unpackedValue_zero (sign : Sign) : unpackedValue (.zero sign) = 0 :=
  rfl

theorem unpackedValue_finite (sign : Sign) {significand : ℕ} (exponent : ℤ)
    (hpos : 0 < significand) : unpackedValue (.finite sign significand exponent hpos) =
      sign.apply significand * 2 ^ exponent :=
  rfl

/-- An unpacked float has a significand and an exponent of a float, unless the exponent is too large
for one. -/
def Canonical : UnpackedFloat → Prop
  | .finite _ significand exponent _ => Proper significand exponent
  | _ => True

/-! ## Fields of bits -/

def bits (x : Float) : BitVec Format.binary64.numBits :=
  x.toBits.toBitVec

def sign (x : Float) : Sign :=
  if isNegative x then .negative else .positive

/-- A bit vector in front counts for a power of two. -/
theorem toNat_append {m n : ℕ} (high : BitVec m) (low : BitVec n) :
    (high ++ low).toNat = high.toNat * 2 ^ n + low.toNat := by
  rw [BitVec.toNat_append, ← Nat.shiftLeft_add_eq_or_of_lt low.isLt, Nat.shiftLeft_eq]

section Fields

variable (pattern : BitVec Format.binary64.numBits)

theorem toNat_unpackExponent :
    (unpackExponent pattern).toNat = pattern.toNat / 2 ^ 52 % 2048 := by
  simp [unpackExponent, Nat.shiftRight_eq_div_pow]

theorem toNat_unpackMantissa : (unpackMantissa pattern).toNat = pattern.toNat % 2 ^ 52 := by
  simp [unpackMantissa]

/-- The first bit is the sign. -/
theorem ofBitVec_unpackSign : Sign.ofBitVec (unpackSign pattern) =
    if 2 ^ 63 ≤ pattern.toNat then .negative else .positive := by
  have hlt : pattern.toNat < 2 ^ 64 := pattern.isLt
  have hsign : (unpackSign pattern).toNat = pattern.toNat / 2 ^ 63 % 2 := by
    delta unpackSign
    simp [Nat.shiftRight_eq_div_pow]
  have hzero : unpackSign pattern = 0#1 ↔ ¬2 ^ 63 ≤ pattern.toNat := by
    rw [← BitVec.toNat_inj, hsign, BitVec.toNat_ofNat]
    omega
  rw [Sign.ofBitVec]
  by_cases hnegative : 2 ^ 63 ≤ pattern.toNat
  · rw [if_pos hnegative, if_neg (by simpa [hzero] using hnegative)]
  · rw [if_neg hnegative, if_pos (hzero.mpr hnegative)]

end Fields

/-- The sign of a float is read from its bits. -/
theorem sign_bits (x : Float) : Sign.ofBitVec (unpackSign (bits x)) = sign x := by
  rw [ofBitVec_unpackSign, sign, isNegative]
  simp only [decide_eq_true_eq]
  rfl

/-- Packing keeps the sign. -/
theorem sign_packComponents (sign : Sign) (exponent : BitVec 11) (mantissa : BitVec 52) :
    Sign.ofBitVec (unpackSign (packComponents Format.binary64 sign exponent mantissa)) = sign := by
  have hexponent : exponent.toNat < 2 ^ 11 := exponent.isLt
  have hmantissa : mantissa.toNat < 2 ^ 52 := mantissa.isLt
  have hpattern : (packComponents Format.binary64 sign exponent mantissa).toNat =
      (sign.toBitVec.toNat * 2 ^ 11 + exponent.toNat) * 2 ^ 52 + mantissa.toNat := by
    rw [packComponents, toNat_append, toNat_append]
  rw [ofBitVec_unpackSign, hpattern]
  cases sign with
  | negative =>
    have hone : Sign.negative.toBitVec.toNat = 1 := rfl
    rw [if_pos (by omega)]
  | positive =>
    have hzero : Sign.positive.toBitVec.toNat = 0 := rfl
    rw [if_neg (by omega)]

/-! ## Unpacking -/

section Pattern

variable {pattern : BitVec Format.binary64.numBits}

/-- A pattern of zeros behind the sign is a zero. -/
theorem unpack_of_unpackExponent_eq_zero (hexponent : unpackExponent pattern = 0#11)
    (hmantissa : unpackMantissa pattern = 0#52) :
    unpack Format.binary64 pattern = .zero (Sign.ofBitVec (unpackSign pattern)) := by
  delta unpack
  dsimp only
  rw [hexponent, if_neg (by decide), if_pos rfl, dif_pos hmantissa]

/-- With the least exponent, the fraction is the whole significand. -/
theorem unpack_least (hexponent : unpackExponent pattern = 0#11)
    (hpos : 0 < (unpackMantissa pattern).toNat) :
    unpack Format.binary64 pattern = .finite (Sign.ofBitVec (unpackSign pattern))
      (unpackMantissa pattern).toNat leastExponent hpos := by
  have hmantissa : unpackMantissa pattern ≠ 0#52 := by
    intro hzero
    rw [hzero] at hpos
    exact Nat.lt_irrefl _ hpos
  delta unpack
  dsimp only
  rw [if_neg (by rw [hexponent]; decide), if_pos hexponent, dif_neg hmantissa,
    UnpackedFloat.finite.injEq, hexponent]
  exact ⟨rfl, rfl, rfl⟩

/-- With another exponent but the last, there is one more bit in front of the fraction. -/
theorem unpack_full (hleast : unpackExponent pattern ≠ 0#11)
    (hlast : unpackExponent pattern ≠ -1#11) : unpack Format.binary64 pattern =
      .finite (Sign.ofBitVec (unpackSign pattern)) (2 ^ 52 + (unpackMantissa pattern).toNat)
        ((unpackExponent pattern).toNat - 1075) (Nat.add_pos_left (by decide) _) := by
  delta unpack
  dsimp only
  rw [if_neg hlast, if_neg hleast, UnpackedFloat.finite.injEq, toNat_append]
  exact ⟨rfl, rfl, rfl⟩

/-- The last exponent is that of infinities and undefined floats. -/
theorem not_isFinite_of_last (hlast : unpackExponent pattern = -1#11) :
    (unpack Format.binary64 pattern).isFinite = false := by
  delta unpack
  dsimp only
  rw [if_pos hlast]
  split <;> rfl

end Pattern

section Unpack

variable {x : Float}

theorem magnitude_of_least (hfield : x.toBits.toNat / 2 ^ 52 % 2048 = 0) :
    magnitude x = ⟨x.toBits.toNat % 2 ^ 52, leastExponent, false⟩ :=
  if_pos hfield

theorem magnitude_of_field (hfield : x.toBits.toNat / 2 ^ 52 % 2048 ≠ 0) : magnitude x =
    ⟨2 ^ 52 + x.toBits.toNat % 2 ^ 52, (x.toBits.toNat / 2 ^ 52 % 2048 : ℕ) - 1075,
      x.toBits.toNat % 2 ^ 52 = 0 && x.toBits.toNat / 2 ^ 52 % 2048 ≠ 1⟩ :=
  if_neg hfield

theorem unpack_of_least (hfield : x.toBits.toNat / 2 ^ 52 % 2048 = 0) :
    x.toBits.toNat % 2 ^ 52 = 0 ∧ x.toModel.unpack = .zero (sign x) ∨
      ∃ hpos, x.toModel.unpack = .finite (sign x) (x.toBits.toNat % 2 ^ 52) leastExponent hpos := by
  have hexponent : unpackExponent (bits x) = 0#11 :=
    BitVec.eq_of_toNat_eq ((toNat_unpackExponent (bits x)).trans hfield)
  have hmantissa : (unpackMantissa (bits x)).toNat = x.toBits.toNat % 2 ^ 52 :=
    toNat_unpackMantissa (bits x)
  rw [← sign_bits, ← hmantissa]
  rcases Nat.eq_zero_or_pos (unpackMantissa (bits x)).toNat with hzero | hpos
  · exact .inl ⟨hzero, unpack_of_unpackExponent_eq_zero hexponent (BitVec.eq_of_toNat_eq hzero)⟩
  · exact .inr ⟨hpos, unpack_least hexponent hpos⟩

theorem unpack_of_field (hfinite : x.isFinite) (hfield : x.toBits.toNat / 2 ^ 52 % 2048 ≠ 0) :
    ∃ hpos, x.toModel.unpack = .finite (sign x) (2 ^ 52 + x.toBits.toNat % 2 ^ 52)
      ((x.toBits.toNat / 2 ^ 52 % 2048 : ℕ) - 1075) hpos := by
  have hexponent : (unpackExponent (bits x)).toNat = x.toBits.toNat / 2 ^ 52 % 2048 :=
    toNat_unpackExponent (bits x)
  have hmantissa : (unpackMantissa (bits x)).toNat = x.toBits.toNat % 2 ^ 52 :=
    toNat_unpackMantissa (bits x)
  rw [← hexponent] at hfield
  rw [← sign_bits, ← hmantissa, ← hexponent]
  refine ⟨Nat.add_pos_left (by decide) _, unpack_full ?_ ?_⟩
  · exact fun hleast => hfield (congrArg BitVec.toNat hleast)
  · intro hlast
    have hinfinite : x.isFinite = false := not_isFinite_of_last hlast
    rw [hfinite] at hinfinite
    cases hinfinite

/-- **A finite float is unpacked into its sign and magnitude.** -/
theorem unpack_cases (hfinite : x.isFinite) :
    (magnitude x).significand = 0 ∧ x.toModel.unpack = .zero (sign x) ∨
      ∃ hpos, x.toModel.unpack =
        .finite (sign x) (magnitude x).significand (magnitude x).exponent hpos := by
  by_cases hfield : x.toBits.toNat / 2 ^ 52 % 2048 = 0
  · rw [magnitude_of_least hfield]
    exact unpack_of_least hfield
  · rw [magnitude_of_field hfield]
    exact .inr (unpack_of_field hfinite hfield)

theorem proper_magnitude (x : Float) : Proper (magnitude x).significand (magnitude x).exponent := by
  by_cases hfield : x.toBits.toNat / 2 ^ 52 % 2048 = 0
  · rw [magnitude_of_least hfield]
    refine ⟨?_, le_rfl, .inr rfl⟩
    dsimp only
    omega
  · rw [magnitude_of_field hfield]
    refine ⟨?_, ?_, .inl (Nat.le_add_right _ _)⟩
    · dsimp only
      omega
    · rw [leastExponent]
      dsimp only
      omega

/-- The float below is nearer than the one above just where the exponent changes. -/
theorem narrowBelow_magnitude (x : Float) : (magnitude x).narrowBelow ↔
    (magnitude x).significand = 2 ^ 52 ∧ (magnitude x).exponent ≠ leastExponent := by
  by_cases hfield : x.toBits.toNat / 2 ^ 52 % 2048 = 0
  · rw [magnitude_of_least hfield]
    simp
  · rw [magnitude_of_field hfield, leastExponent]
    simp only [Bool.and_eq_true, decide_eq_true_eq]
    omega

theorem canonical_unpack (hfinite : x.isFinite) : Canonical x.toModel.unpack := by
  rcases unpack_cases hfinite with ⟨-, hunpack⟩ | ⟨hpos, hunpack⟩
  · rw [hunpack]
    trivial
  · rw [hunpack]
    exact proper_magnitude x

theorem unpackedValue_unpack (hfinite : x.isFinite) :
    unpackedValue x.toModel.unpack = value x := by
  rcases unpack_cases hfinite with ⟨hzero, hunpack⟩ | ⟨hpos, hunpack⟩
  · rw [hunpack, unpackedValue_zero, value, (magnitude x).value_eq_zero_iff.mpr hzero]
    simp
  · rw [hunpack, unpackedValue_finite, value, sign, Magnitude.value]
    split <;> simp [Sign.apply]

/-- A float that is not below zero is a number that is not. -/
theorem value_nonneg (h : 0 ≤ x) (hfinite : x.isFinite) : 0 ≤ value x := by
  have hle : UnpackedFloat.le (.zero .positive) x.toModel.unpack := of_decide_eq_true h
  rw [← unpackedValue_unpack hfinite]
  generalize x.toModel.unpack = u at hle
  match u, hle with
  | .finite .positive _ _ _, _ =>
    exact mul_nonneg (Int.cast_nonneg (Int.natCast_nonneg _)) (zpow_nonneg zero_le_two _)
  | .zero _, _ | .infinity .positive, _ => exact le_rfl

end Unpack

/-! ## Packing -/

theorem log2_of_full {significand : ℕ} (hlt : significand < 2 ^ 53) :
    significand.log2 + 1 = 53 ↔ 2 ^ 52 ≤ significand := by
  have hle := @Nat.le_log2 significand 52
  have hlog := @Nat.log2_lt significand 53
  by_cases hzero : significand = 0
  · subst hzero
    decide
  · have := hle hzero
    have := hlog hzero
    omega

theorem unpack_packComponents_least (sign : Sign) {significand : ℕ} (hpos : 0 < significand)
    (hlt : significand < 2 ^ 52) : unpack Format.binary64
        (packComponents Format.binary64 sign 0#11 (BitVec.ofNat 52 significand)) =
      .finite sign significand leastExponent hpos := by
  have hmantissa : (BitVec.ofNat 52 significand).toNat = significand := by
    rw [BitVec.toNat_ofNat, Nat.mod_eq_of_lt hlt]
  rw [unpack_least unpackExponent_packComponents, UnpackedFloat.finite.injEq,
    sign_packComponents, unpackMantissa_packComponents]
  · exact ⟨rfl, hmantissa, rfl⟩
  · rw [unpackMantissa_packComponents]
    exact hmantissa.symm ▸ hpos

/-- The first of all bits of a significand need not be packed. -/
theorem unpack_packComponents_full (sign : Sign) {significand : ℕ} {exponent : ℤ}
    (hpos : 0 < significand) (hfull : 2 ^ 52 ≤ significand) (hlt : significand < 2 ^ 53)
    (hle : leastExponent ≤ exponent) (hgreatest : exponent ≤ 971) :
    unpack Format.binary64 (packComponents Format.binary64 sign
        (BitVec.ofNat 11 (exponent + 1075).toNat) (BitVec.ofNat 52 significand)) =
      .finite sign significand exponent hpos := by
  rw [leastExponent] at hle
  have hmantissa : (BitVec.ofNat 52 significand).toNat = significand - 2 ^ 52 := by
    rw [BitVec.toNat_ofNat]
    omega
  have hexponent : (BitVec.ofNat 11 (exponent + 1075).toNat).toNat = (exponent + 1075).toNat := by
    rw [BitVec.toNat_ofNat]
    omega
  rw [unpack_full, UnpackedFloat.finite.injEq, sign_packComponents, unpackExponent_packComponents,
    unpackMantissa_packComponents, hmantissa, hexponent]
  · exact ⟨rfl, by omega, by omega⟩
  · rw [unpackExponent_packComponents, ne_eq, ← BitVec.toNat_inj, hexponent]
    show ¬_ = 0
    omega
  · rw [unpackExponent_packComponents, ne_eq, ← BitVec.toNat_inj, hexponent]
    show ¬_ = 2047
    omega

/-- **A canonical number that is packed as a finite float is packed without loss.** -/
theorem unpack_pack {u : UnpackedFloat} (h : Canonical u)
    (hfinite : (unpack Format.binary64 (pack Format.binary64 u)).isFinite) :
    unpack Format.binary64 (pack Format.binary64 u) = u := by
  have hbias : Format.binary64.exponentBias = 1023 := rfl
  have hplaces : Format.binary64.mantissaBits = 53 := rfl
  cases u with
  | notANumber => rfl
  | infinity sign | zero sign => cases sign <;> rfl
  | finite sign significand exponent hpos =>
    obtain ⟨hlt, hle, hfull⟩ := h
    have hbiased : exponent + 1023 + 52 = exponent + 1075 := by omega
    have hpack : pack Format.binary64 (.finite sign significand exponent hpos) =
        if 2 ^ 11 ≤ (exponent + 1075).toNat + 1 then packedInfinity Format.binary64 sign
        else if 2 ^ 52 ≤ significand then
          packComponents Format.binary64 sign (BitVec.ofNat 11 (exponent + 1075).toNat)
            (BitVec.ofNat 52 significand)
        else packComponents Format.binary64 sign 0#11 (BitVec.ofNat 52 significand) := by
      delta pack
      dsimp only
      simp only [hbias, hplaces, log2_of_full hlt, Nat.cast_ofNat, hbiased]
    rw [hpack] at hfinite ⊢
    by_cases hlarge : 2 ^ 11 ≤ (exponent + 1075).toNat + 1
    · -- an exponent that is too large is packed as infinity
      rw [if_pos hlarge, packedInfinity,
        not_isFinite_of_last unpackExponent_packComponents] at hfinite
      cases hfinite
    rw [if_neg hlarge]
    by_cases hbit : 2 ^ 52 ≤ significand
    · rw [if_pos hbit]
      exact unpack_packComponents_full sign hpos hbit hlt hle (by omega)
    · rw [if_neg hbit, unpack_packComponents_least sign hpos (Nat.lt_of_not_le hbit)]
      rw [hfull.resolve_left hbit]

end Binary64

end Montage
