import Montage.FrameRange
import Montage.Proofs.Number.Order
import Montage.Proofs.Number.Rounding
import Montage.Proofs.Number.Sum

/-!
# Ranges between times

Each bound of a range in seconds is rounded half up to a frame, on the rational that the caller wrote.
A start and a length that are no floats are added exactly (`ofSecondsDuration_exact`). Of two floats the
end is their float sum, and only the sum is read as a decimal. It is never read as a time before the
start, so there always is a range (`ofSecondsDuration_float`), but its end is not always that of the
exact sum: a tie that is between the two sums comes to be rounded down
(`ofSecondsDuration_below_tie`).
-/

namespace Montage

/-- Times that are no floats are added as the numbers that they stand for. -/
theorem Quantity.add_exact {start duration : Quantity} {first length : ℚ}
    (hstart : ∀ x, start ≠ .float x) (hduration : ∀ x, duration ≠ .float x)
    (hfirst : start.toRat = .ok first) (hlength : duration.toRat = .ok length) :
    ∃ sum, start.add duration = .ok sum ∧ sum.toRat = .ok (first + length) := by
  cases start with
  | float x => exact absurd rfl (hstart x)
  | whole | fraction =>
    cases duration with
    | float x => exact absurd rfl (hduration x)
    | whole | fraction =>
      cases hfirst
      cases hlength
      refine ⟨_, rfl, ?_⟩
      simp [toRat]

namespace FrameRange

variable {fps : ℤ} {first length last : ℚ}

/-- A range of seconds in order has its bounds at the nearest frames. -/
theorem ofSeconds_eq_ok (hfps : 0 < fps) {start stop : Quantity} (hfirst : start.toRat = .ok first)
    (hlast : stop.toRat = .ok last) (hle : first ≤ last) :
    ∃ range, ofSeconds fps start stop = .ok range ∧
      range.start = roundHalfUp (first * fps) ∧ range.stop = roundHalfUp (last * fps) := by
  have horder : roundHalfUp (first * fps) ≤ roundHalfUp (last * fps) :=
    roundHalfUp_le_roundHalfUp (mul_le_mul_of_nonneg_right hle (by exact_mod_cast hfps.le))
  refine ⟨⟨_, _, horder⟩, ?_, rfl, rfl⟩
  have hfirstFrame : Clock.ofSeconds fps start = .ok (roundHalfUp (first * fps)) := by
    rw [Clock.ofSeconds, hfirst]
    rfl
  have hlastFrame : Clock.ofSeconds fps stop = .ok (roundHalfUp (last * fps)) := by
    rw [Clock.ofSeconds, hlast]
    rfl
  rw [ofSeconds, if_neg (Int.not_le.mpr hfps), hfirstFrame, hlastFrame]
  exact (if_neg (Int.not_lt.mpr horder)).trans (dif_pos horder)

/-- A start and a length that are no floats give the range up to the exact sum. -/
theorem ofSecondsDuration_exact (hfps : 0 < fps) {start duration : Quantity}
    (hstart : ∀ x, start ≠ .float x) (hduration : ∀ x, duration ≠ .float x)
    (hfirst : start.toRat = .ok first) (hlength : duration.toRat = .ok length)
    (hnonneg : 0 ≤ length) : ∃ range, ofSecondsDuration fps start duration = .ok range ∧
      range.start = roundHalfUp (first * fps) ∧
        range.stop = roundHalfUp ((first + length) * fps) := by
  obtain ⟨sum, hsum, hlast⟩ := Quantity.add_exact hstart hduration hfirst hlength
  rw [ofSecondsDuration, hsum]
  exact ofSeconds_eq_ok hfps hfirst hlast (le_add_of_nonneg_right hnonneg)

/-- **A start and a length in floats.** There is a range from the start to the sum of the floats, each
read as a decimal and rounded. It ends where the exact sum would just when no tie is between the two
sums. -/
theorem ofSecondsDuration_float (hfps : 0 < fps) {start duration : Float}
    (hstart : start.isFinite) (hduration : duration.isFinite) (hnonneg : 0 ≤ duration)
    (hsum : (start + duration).isFinite) : ∃ first length last : ℚ,
      rationalOf start = .ok first ∧ rationalOf duration = .ok length ∧
        rationalOf (start + duration) = .ok last ∧
      ∃ range, ofSecondsDuration fps (.float start) (.float duration) = .ok range ∧
        range.start = roundHalfUp (first * fps) ∧ range.stop = roundHalfUp (last * fps) ∧
        (range.stop = roundHalfUp ((first + length) * fps) ↔
          ∀ k : ℤ, (k - 1 / 2 : ℚ) ≤ last * fps ↔ (k - 1 / 2 : ℚ) ≤ (first + length) * fps) := by
  obtain ⟨first, hfirst⟩ := (rationalOf_isOk_iff start).mpr hstart
  obtain ⟨length, hlength⟩ := (rationalOf_isOk_iff duration).mpr hduration
  obtain ⟨last, hlast⟩ := (rationalOf_isOk_iff (start + duration)).mpr hsum
  have hle : first ≤ last := rationalOf_mono
    (Binary64.value_le_value_add hstart hduration hsum hnonneg) hfirst hlast
  obtain ⟨range, hrange, hrangeStart, hrangeStop⟩ :=
    @ofSeconds_eq_ok fps first last hfps (.float start) (.float (start + duration)) hfirst hlast hle
  refine ⟨first, length, last, hfirst, hlength, hlast, range, hrange, hrangeStart, hrangeStop, ?_⟩
  rw [hrangeStop, roundHalfUp_eq_roundHalfUp_iff]

/-- A sum of floats that is not the exact one does not matter when both are well inside of a frame. -/
theorem ofSecondsDuration_float_inexact :
    rationalOf (0.1 + 0.2) = .ok (7500000000000001 / 25000000000000000) ∧
      ofSecondsDuration 30 (.float 0.1) (.float 0.2) = .ok ⟨3, 9, by decide⟩ ∧
      roundHalfUp ((1 / 10 + 1 / 5) * 30) = 9 := by
  obtain ⟨first, length, last, hfirst, hlength, hlast, range, hrange, -, -, hstop⟩ :=
    @ofSecondsDuration_float 30 (by decide) 0.1 0.2 (by decide +kernel) (by decide +kernel)
      (by decide +kernel) (by decide +kernel)
  -- the floats are decoded by evaluation, and what they stand for is compared after that
  have hfirstValue : (rationalOf 0.1).toOption = some (1 / 10) := by decide +kernel
  have hlengthValue : (rationalOf 0.2).toOption = some (1 / 5) := by decide +kernel
  have hlastValue : (rationalOf (0.1 + 0.2)).toOption =
      some (7500000000000001 / 25000000000000000) := by decide +kernel
  have hrangeValue : (ofSecondsDuration 30 (.float 0.1) (.float 0.2)).toOption =
      some ⟨3, 9, by decide⟩ := by decide +kernel
  rw [hfirst] at hfirstValue
  rw [hlength] at hlengthValue
  rw [hlast] at hlastValue
  rw [hrange] at hrangeValue
  obtain rfl := Option.some.inj hfirstValue
  obtain rfl := Option.some.inj hlengthValue
  obtain rfl := Option.some.inj hlastValue
  obtain rfl := Option.some.inj hrangeValue
  -- the two sums round to the same frame, since no half lies between them
  refine ⟨hlast, hrange, (hstop.mpr fun k => ⟨fun hk => ?_, fun hk => ?_⟩).symm⟩
  · have hlt : (k : ℚ) < 10 := by
      push_cast at hk
      linarith
    have hle : (k : ℚ) ≤ 9 := by exact_mod_cast Int.le_of_lt_add_one (by exact_mod_cast hlt)
    push_cast
    linarith
  · push_cast at hk ⊢
    linarith

/-- At 25 frames per second, 4.6 s from 0.1 s on end at a tie, frame 117.5. The sum of the floats is
read as a decimal below 4.7, and so it is rounded down. -/
theorem ofSecondsDuration_below_tie :
    (0 : Float) ≤ 4.6 ∧ (0.1 + 4.6 : Float).isFinite ∧
      (rationalOf 0.1).toOption = some (1 / 10) ∧ (rationalOf 4.6).toOption = some (23 / 5) ∧
      (ofSecondsDuration 25 (.float 0.1) (.float 4.6)).toOption = some ⟨3, 117, by decide⟩ ∧
      roundHalfUp ((1 / 10 + 23 / 5) * 25) = 118 := by
  decide +kernel

end FrameRange

end Montage
