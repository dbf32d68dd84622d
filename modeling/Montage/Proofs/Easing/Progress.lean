import Montage.Proofs.Easing.Height
import Montage.Transition

/-!
# Eased progress

Progress is complete when the window of a transition is empty. Else it is the height of a curve above
the part of the window that is over, and it is found for every number of frames (`progressAt_eq`).
Before and behind the window it is the height above an end of the unit interval, which is 0 or 1 for
every curve (`ease_of_nonpos`, `ease_of_one_le`). Within the window it never runs back for a cubic
curve whose second coordinates lie in the unit interval (`progress_never_falls`).
-/

namespace Montage

/-! ## Curves -/

namespace Curve

variable {curve : Curve} {t : ℚ}

theorem height_of_controlPoints {a b c d : ℚ} (h : curve.controlPoints? = some (a, b, c, d))
    (t : ℚ) : curve.height t = Cubic.height a b c d t := by
  rw [height, h]

/-- Without control points a curve is the bounce or the identity. -/
theorem height_of_no_controlPoints
    (h : (curve.controlPoints? : Option (ℚ × ℚ × ℚ × ℚ)) = none) (t : ℚ) :
    curve.height t = if curve = bounceOut then bounce t else t := by
  rw [height, h]

theorem bounce_end (h : t = 0 ∨ t = 1) : bounce t = t := by
  rcases h with rfl | rfl
  all_goals
    simp only [bounce]
    norm_num

/-- A curve begins at 0 and ends at 1. -/
theorem height_end (curve : Curve) (h : t = 0 ∨ t = 1) : curve.height t = t := by
  cases hpoints : (curve.controlPoints? : Option (ℚ × ℚ × ℚ × ℚ)) with
  | some points =>
    rw [height_of_controlPoints hpoints]
    exact Cubic.height_of_outside (h.imp Eq.le Eq.ge)
  | none =>
    rw [height_of_no_controlPoints hpoints]
    split
    · exact bounce_end h
    · rfl

/-- No progress has been made before the start. -/
theorem ease_of_nonpos (curve : Curve) (h : t ≤ 0) : curve.ease t = 0 := by
  rw [ease, Scalar.clampUnit_of_nonpos h]
  exact curve.height_end (.inl rfl)

theorem ease_of_one_le (curve : Curve) (h : 1 ≤ t) : curve.ease t = 1 := by
  rw [ease, Scalar.clampUnit_of_one_le h]
  exact curve.height_end (.inr rfl)

section Cubic

variable {a b c d : ℚ} (hpoints : curve.controlPoints? = some (a, b, c, d))
  (hwithin : curve ∉ overshooting)

include hpoints hwithin

/-- An easing never falls. -/
theorem ease_mono : Monotone (curve.ease : ℚ → ℚ) := by
  obtain ⟨hb, hd⟩ := upright_mem hpoints hwithin
  intro s t hst
  rw [ease, ease, height_of_controlPoints hpoints, height_of_controlPoints hpoints]
  exact Cubic.height_mono hb hd (Scalar.clampUnit_mono hst)

theorem ease_mem (t : ℚ) : curve.ease t ∈ Set.Icc 0 1 := by
  obtain ⟨hb, hd⟩ := upright_mem hpoints hwithin
  rw [ease, height_of_controlPoints hpoints]
  exact Cubic.height_mem hb hd (Scalar.clampUnit_mem t)

end Cubic

end Curve

/-! ## Transitions -/

namespace Transition

variable (transition : Transition ℚ) {elapsed : ℤ}

/-- Progress after some frames, as a number. -/
def progress (elapsed : ℤ) : ℚ :=
  if transition.duration ≤ 0 then 1 else transition.curve.ease (elapsed / transition.duration : ℚ)

/-- The division by the duration is guarded, so that the progress never fails. -/
theorem progressAt_eq (elapsed : ℤ) :
    transition.progressAt elapsed = .ok (transition.progress elapsed) := by
  rw [progressAt, progress]
  split
  · norm_num
  · next hlong =>
    rw [Scalar.ratio_eq elapsed (by omega)]
    rfl

theorem progress_of_nonpos (hlong : 0 < transition.duration) (h : elapsed ≤ 0) :
    transition.progress elapsed = 0 := by
  rw [progress, if_neg (not_le.mpr hlong)]
  exact transition.curve.ease_of_nonpos (Scalar.quotient_nonpos hlong h)

theorem progress_of_duration_le (h : transition.duration ≤ elapsed) :
    transition.progress elapsed = 1 := by
  rw [progress]
  split
  · rfl
  · next hlong =>
    exact transition.curve.ease_of_one_le (Scalar.one_le_quotient (not_le.mp hlong) h)

section Cubic

variable {transition} {a b c d : ℚ} (hpoints : transition.curve.controlPoints? = some (a, b, c, d))
  (hwithin : transition.curve ∉ Curve.overshooting)

include hpoints hwithin

/-- The progress never falls from one frame to a later one. -/
theorem progress_mono : Monotone transition.progress := by
  intro first second hle
  rw [progress, progress]
  split
  · exact le_rfl
  · next hlong =>
    exact Curve.ease_mono hpoints hwithin (Scalar.quotient_mono (not_le.mp hlong) hle)

theorem progress_mem (elapsed : ℤ) : transition.progress elapsed ∈ Set.Icc 0 1 := by
  rw [progress]
  split
  · exact ⟨zero_le_one, le_rfl⟩
  · exact Curve.ease_mem hpoints hwithin _

end Cubic

/-- **Eased progress never runs backwards.** The heights of a cubic curve with second coordinates in
the unit interval never fall. So neither does the progress of a transition with a named cubic curve
that does not overshoot. It has a value after every number of frames, in the unit interval. -/
theorem progress_never_falls :
    (∀ a b c d : ℚ, b ∈ Set.Icc 0 1 → d ∈ Set.Icc 0 1 → Monotone (Cubic.height a b c d)) ∧
      ∀ transition : Transition ℚ,
        (transition.curve.controlPoints? : Option (ℚ × ℚ × ℚ × ℚ)).isSome →
        transition.curve ∉ Curve.overshooting →
        ∃ progress : ℤ → ℚ, (∀ elapsed, transition.progressAt elapsed = .ok (progress elapsed)) ∧
          Monotone progress ∧ ∀ elapsed, progress elapsed ∈ Set.Icc 0 1 := by
  refine ⟨fun a b c d => Cubic.height_mono, ?_⟩
  intro transition hcubic hwithin
  obtain ⟨⟨a, b, c, d⟩, hpoints⟩ := Option.isSome_iff_exists.mp hcubic
  exact ⟨transition.progress, transition.progressAt_eq, progress_mono hpoints hwithin,
    progress_mem hpoints hwithin⟩

/-- Heights never fall on a curve whose first coordinate winds and whose control values are out of
order, and the progress of a fade over twenty frames with the steepest named curve never falls. -/
theorem progress_never_falls_steep :
    Monotone (Cubic.height (3 : ℚ) 1 (-3) 0) ∧
      ∃ progress : ℤ → ℚ,
        (∀ elapsed, progressAt ⟨20, .easeInOutExpo, .crossFade⟩ elapsed = .ok (progress elapsed)) ∧
          Monotone progress ∧ ∀ elapsed, progress elapsed ∈ Set.Icc 0 1 :=
  ⟨progress_never_falls.1 3 1 (-3) 0 (by norm_num) (by norm_num),
    progress_never_falls.2 ⟨20, .easeInOutExpo, .crossFade⟩ rfl (by decide)⟩

end Transition

end Montage
