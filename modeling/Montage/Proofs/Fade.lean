import Montage.Proofs.Number.Scalar
import Montage.Timeline

/-!
# How scenes fade in and out

The opacity of a scene is the product of two fades that are measured from its ends
(`PlacedScene.opacity`). Each of them goes from 0 to 1 within its length and stays there, so the
product is in the unit interval even where the fades overlap. When the scene is long enough for
both, each is done where the other one goes on, and the opacity rises, stays at 1 and falls
(`PlacedScene.fadeOpacity_envelope`).
-/

namespace Montage.PlacedScene

/-! ## Fades -/

/-- The part of a fade that is done after some frames, as a number. -/
def faded (elapsed length : ℤ) : ℚ :=
  if 0 < length then Scalar.clampUnit (elapsed / length : ℚ) else 1

variable {elapsed length : ℤ}

/-- A fade is guarded against a length of 0, so that it never fails. -/
theorem fadePart_eq (elapsed length : ℤ) :
    fadePart elapsed length = .ok (faded elapsed length) := by
  rw [fadePart, faded]
  split
  · next hlong =>
    rw [Scalar.ratio_eq elapsed hlong.ne']
    rfl
  · norm_num

theorem faded_mem (elapsed length : ℤ) : faded elapsed length ∈ Set.Icc 0 1 := by
  rw [faded]
  split
  · exact Scalar.clampUnit_mem _
  · exact ⟨zero_le_one, le_rfl⟩

/-- A longer time never means less of a fade. -/
theorem faded_mono (length : ℤ) : Monotone fun elapsed => faded elapsed length := by
  intro first second hle
  simp only [faded]
  split
  · next hlong => exact Scalar.clampUnit_mono (Scalar.quotient_mono hlong hle)
  · exact le_rfl

theorem faded_of_nonpos (hlong : 0 < length) (h : elapsed ≤ 0) : faded elapsed length = 0 := by
  rw [faded, if_pos hlong]
  exact Scalar.clampUnit_of_nonpos (Scalar.quotient_nonpos hlong h)

theorem faded_of_within (hlong : 0 < length) (h : elapsed ∈ Set.Icc 0 length) :
    faded elapsed length = elapsed / length := by
  rw [faded, if_pos hlong, Scalar.clampUnit_of_mem (Scalar.quotient_mem hlong h)]

/-- What has been fading for its length is visible in full. -/
theorem faded_of_length_le (h : length ≤ elapsed) : faded elapsed length = 1 := by
  rw [faded]
  split
  · next hlong => exact Scalar.clampUnit_of_one_le (Scalar.one_le_quotient hlong h)
  · rfl

/-! ## Scenes -/

variable (scene : PlacedScene ℚ) {frame : ℤ}

/-- The opacity of a scene in a frame, as a number. -/
def opacity (frame : ℤ) : ℚ :=
  faded (frame - scene.start) scene.fadeIn * faded (scene.stop - frame) scene.fadeOut

/-- The opacity never fails. -/
theorem fadeOpacity_eq (frame : ℤ) : scene.fadeOpacity frame = .ok (scene.opacity frame) := by
  rw [fadeOpacity, fadePart_eq, fadePart_eq]
  rfl

theorem opacity_mem (frame : ℤ) : scene.opacity frame ∈ Set.Icc 0 1 := by
  have hin := faded_mem (frame - scene.start) scene.fadeIn
  have hout := faded_mem (scene.stop - frame) scene.fadeOut
  exact ⟨mul_nonneg hin.1 hout.1, mul_le_one₀ hin.2 hout.1 hout.2⟩

/-- A fade in begins with nothing visible. -/
theorem opacity_of_le_start (hfade : 0 < scene.fadeIn) (h : frame ≤ scene.start) :
    scene.opacity frame = 0 := by
  rw [opacity, faded_of_nonpos hfade (Int.sub_nonpos_of_le h), zero_mul]

theorem opacity_of_stop_le (hfade : 0 < scene.fadeOut) (h : scene.stop ≤ frame) :
    scene.opacity frame = 0 := by
  rw [opacity, faded_of_nonpos hfade (Int.sub_nonpos_of_le h), mul_zero]

/-- Up to the fade-out, only the fade-in counts. -/
theorem opacity_of_le (h : frame ≤ scene.stop - scene.fadeOut) :
    scene.opacity frame = faded (frame - scene.start) scene.fadeIn := by
  have hdone : scene.fadeOut ≤ scene.stop - frame := by omega
  rw [opacity, faded_of_length_le hdone, mul_one]

/-- From the end of the fade-in on, only the fade-out counts. -/
theorem opacity_of_ge (h : scene.start + scene.fadeIn ≤ frame) :
    scene.opacity frame = faded (scene.stop - frame) scene.fadeOut := by
  have hdone : scene.fadeIn ≤ frame - scene.start := by omega
  rw [opacity, faded_of_length_le hdone, one_mul]

/-- Between the fades all of the scene is visible. -/
theorem opacity_of_between
    (h : frame ∈ Set.Icc (scene.start + scene.fadeIn) (scene.stop - scene.fadeOut)) :
    scene.opacity frame = 1 := by
  have hdone : scene.fadeOut ≤ scene.stop - frame := by
    have := h.2
    omega
  rw [scene.opacity_of_ge h.1, faded_of_length_le hdone]

section Long

variable (hlong : scene.fadeIn + scene.fadeOut ≤ scene.duration)

include hlong

/-- The fade-in is done before the fade-out begins. -/
theorem fadeIn_le_fadeOut : scene.start + scene.fadeIn ≤ scene.stop - scene.fadeOut := by
  rw [duration] at hlong
  omega

/-- While a scene fades in, its opacity grows by the same step at each frame. -/
theorem opacity_of_fading_in (hfade : 0 < scene.fadeIn)
    (h : frame ∈ Set.Icc scene.start (scene.start + scene.fadeIn)) :
    scene.opacity frame = (frame - scene.start : ℤ) / scene.fadeIn := by
  rw [scene.opacity_of_le (h.2.trans (scene.fadeIn_le_fadeOut hlong))]
  exact faded_of_within hfade ⟨Int.sub_nonneg_of_le h.1, Int.sub_left_le_of_le_add h.2⟩

theorem opacity_of_fading_out (hfade : 0 < scene.fadeOut)
    (h : frame ∈ Set.Icc (scene.stop - scene.fadeOut) scene.stop) :
    scene.opacity frame = (scene.stop - frame : ℤ) / scene.fadeOut := by
  rw [scene.opacity_of_ge ((scene.fadeIn_le_fadeOut hlong).trans h.1)]
  exact faded_of_within hfade ⟨Int.sub_nonneg_of_le h.2, sub_le_comm.mp h.1⟩

/-- Until the fade in is over the opacity never falls. -/
theorem opacity_monotoneOn : MonotoneOn scene.opacity (Set.Iic (scene.start + scene.fadeIn)) := by
  have hapart := scene.fadeIn_le_fadeOut hlong
  intro first hfirst second hsecond hle
  rw [scene.opacity_of_le (hfirst.trans hapart), scene.opacity_of_le (hsecond.trans hapart)]
  exact faded_mono scene.fadeIn (Int.sub_le_sub_right hle _)

/-- From the fade out on the opacity never rises. -/
theorem opacity_antitoneOn : AntitoneOn scene.opacity (Set.Ici (scene.stop - scene.fadeOut)) := by
  have hapart := scene.fadeIn_le_fadeOut hlong
  intro first hfirst second hsecond hle
  rw [scene.opacity_of_ge (hapart.trans hfirst), scene.opacity_of_ge (hapart.trans hsecond)]
  exact faded_mono scene.fadeOut (Int.sub_le_sub_left hle _)

end Long

/-! ## Envelopes -/

/-- How the opacity of a scene goes from frame to frame. It rises once and falls once, and evenly,
when the scene is long enough for both of its fades. -/
structure Envelope (opacity : ℤ → ℚ) : Prop where
  mem : ∀ frame, opacity frame ∈ Set.Icc 0 1
  of_le_start : 0 < scene.fadeIn → ∀ frame ≤ scene.start, opacity frame = 0
  of_stop_le : 0 < scene.fadeOut → ∀ frame ≥ scene.stop, opacity frame = 0
  rises : scene.fadeIn + scene.fadeOut ≤ scene.duration →
    MonotoneOn opacity (Set.Iic (scene.start + scene.fadeIn))
  stays : ∀ frame ∈ Set.Icc (scene.start + scene.fadeIn) (scene.stop - scene.fadeOut),
    opacity frame = 1
  falls : scene.fadeIn + scene.fadeOut ≤ scene.duration →
    AntitoneOn opacity (Set.Ici (scene.stop - scene.fadeOut))
  of_fading_in : scene.fadeIn + scene.fadeOut ≤ scene.duration → 0 < scene.fadeIn →
    ∀ frame ∈ Set.Icc scene.start (scene.start + scene.fadeIn),
      opacity frame = (frame - scene.start : ℤ) / scene.fadeIn
  of_fading_out : scene.fadeIn + scene.fadeOut ≤ scene.duration → 0 < scene.fadeOut →
    ∀ frame ∈ Set.Icc (scene.stop - scene.fadeOut) scene.stop,
      opacity frame = (scene.stop - frame : ℤ) / scene.fadeOut

/-- **A scene fades in and out** once: it has an opacity in every frame, which is in the unit
interval, rises to 1, stays there and falls. -/
theorem fadeOpacity_envelope (scene : PlacedScene ℚ) : ∃ opacity : ℤ → ℚ,
    (∀ frame, scene.fadeOpacity frame = .ok (opacity frame)) ∧ scene.Envelope opacity := by
  refine ⟨scene.opacity, scene.fadeOpacity_eq, ?_⟩
  constructor
  case mem => exact scene.opacity_mem
  case of_le_start => exact fun hfade frame h => scene.opacity_of_le_start hfade h
  case of_stop_le => exact fun hfade frame h => scene.opacity_of_stop_le hfade h
  case rises => exact scene.opacity_monotoneOn
  case stays => exact fun frame h => scene.opacity_of_between h
  case falls => exact scene.opacity_antitoneOn
  case of_fading_in =>
    exact fun hlong hfade frame h => scene.opacity_of_fading_in hlong hfade h
  case of_fading_out =>
    exact fun hlong hfade frame h => scene.opacity_of_fading_out hlong hfade h

/-- Ten frames are long enough to fade in over four of them and out over the other six. -/
theorem fadeOpacity_envelope_pulse :
    let pulse : PlacedScene ℚ := ⟨2, "pulse", 30, 40, none, none, 4, 6⟩
    0 < pulse.fadeIn ∧ 0 < pulse.fadeOut ∧ pulse.fadeIn + pulse.fadeOut ≤ pulse.duration ∧
      ∃ opacity : ℤ → ℚ,
        (∀ frame, pulse.fadeOpacity frame = .ok (opacity frame)) ∧ pulse.Envelope opacity :=
  ⟨by decide, by decide, by decide, fadeOpacity_envelope _⟩

/-- They are too short for two fades of eight frames, and the scene is never seen in full. -/
example : (fadeOpacity (⟨2, "pulse", 30, 40, none, none, 8, 8⟩ : PlacedScene ℚ) 35).toOption =
    some (25 / 64) := by
  decide +kernel

end Montage.PlacedScene
