import Montage.Proofs.Number.Reading
import Montage.Proofs.Number.Rounding

/-!
# Times on the millisecond grid

The text of the time of a frame is its delay in milliseconds, moved by three places
(`readDecimal?_timeText`). A delay is rounded, so it may lie after the frame that it was computed
from: it separates the frames there just when it is rounded down (`separates_start_iff`). A time
half a frame away from the frames on both sides is rounded without passing either
(`le_halfway_iff`). Times that are a millisecond apart stay apart (`exists_readDecimal?_lt`).

Up to 1000 frames a second the grid is fine enough for the frames: each is the nearest to its own
delay and to the time that its text is read as (`frames_restored`).
-/

namespace Montage.Clock

variable {fps : ℤ}

/-- A delay is a whole number of milliseconds, and one more when at least half of one is left. -/
theorem delay_eq (hfps : 0 < fps) (frames : ℤ) : delay fps frames =
    if 2 * (frames * 1000 % fps) < fps then frames * 1000 / fps else frames * 1000 / fps + 1 :=
  roundHalfUp_div (frames * 1000) hfps

theorem delay_eq_floor (fps frames : ℤ) :
    delay fps frames = (1000 * frames / fps + 1 / 2 : ℚ).floor := by
  rw [delay, time, roundHalfUp]
  push_cast
  ring_nf

/-- The delay of a frame before `10 ^ 28` milliseconds is not after them. -/
theorem natAbs_delay_le {frames : ℤ} (hfps : 0 < fps) (hframes : 0 ≤ frames)
    (h : 1000 * frames < 10 ^ 28 * fps) : (delay fps frames).natAbs ≤ 10 ^ 28 := by
  have hnonneg : 0 ≤ frames * 1000 / fps := Int.ediv_nonneg (by omega) hfps.le
  have hlt : frames * 1000 / fps < 10 ^ 28 := Int.ediv_lt_of_lt_mul hfps (by omega)
  rw [delay_eq hfps]
  split <;> omega

/-! ## Texts of times -/

theorem units_eq_delay (frames : ℤ) :
    roundHalfUp (time fps frames * 10 ^ 3) = delay fps frames := by
  rw [delay, time, time]
  push_cast
  ring_nf

/-- Up to `10 ^ 28` milliseconds, all digits of a time are kept. -/
theorem dropZeros_lt {n : ℕ} (h : n ≤ 10 ^ 28) :
    (Decimal.dropZeros n 3).1 < 10 ^ Decimal.precision := by
  rcases Nat.lt_or_eq_of_le h with hlt | rfl
  · exact Nat.lt_of_le_of_lt (dropZeros_le n 3) hlt
  · decide

/-- The text of a time is read as the time in whole milliseconds. -/
theorem readDecimal?_secondsText {seconds : ℚ}
    (h : (roundHalfUp (seconds * 10 ^ 3)).natAbs ≤ 10 ^ 28) :
    readDecimal? (secondsText seconds) = some (roundHalfUp (seconds * 10 ^ 3) / 1000 : ℚ) := by
  rw [secondsText, readDecimal?_decimalText (dropZeros_lt h)]
  norm_num

/-- The text of the time of a frame is read as the delay in milliseconds. -/
theorem readDecimal?_timeText {frames : ℤ} (h : (delay fps frames).natAbs ≤ 10 ^ 28) :
    readDecimal? (timeText fps frames) = some (delay fps frames / 1000 : ℚ) := by
  rw [timeText, readDecimal?_secondsText (by rwa [units_eq_delay]), units_eq_delay]

/-- Times that are a millisecond apart stay apart when they are written. -/
theorem exists_readDecimal?_lt {start stop : ℚ} (hstart : 0 ≤ start)
    (hapart : 1000 * start + 1 ≤ 1000 * stop) (hexact : 1000 * stop < 10 ^ 28) :
    ∃ first last, readDecimal? (secondsText start) = some first ∧
      readDecimal? (secondsText stop) = some last ∧ first < last := by
  have hread {seconds : ℚ} (hnonneg : 0 ≤ seconds) (hbound : 1000 * seconds < 10 ^ 28) :
      readDecimal? (secondsText seconds) = some (roundHalfUp (seconds * 10 ^ 3) / 1000 : ℚ) := by
    refine readDecimal?_secondsText (natAbs_roundHalfUp_le (by positivity) ?_)
    push_cast
    linarith
  have hlt : roundHalfUp (start * 10 ^ 3) < roundHalfUp (stop * 10 ^ 3) :=
    roundHalfUp_lt_roundHalfUp (by linarith)
  refine ⟨_, _, hread hstart (by linarith), hread (by linarith) hexact, ?_⟩
  exact div_lt_div_of_pos_right (by exact_mod_cast hlt) (by norm_num)

/-- Up to 1000 frames a second, a frame lasts a millisecond or more. -/
theorem time_apart (hfps : 0 < fps) (hslow : fps ≤ 1000) {first last : ℤ}
    (hlt : first < last) : 1000 * time fps first + 1 ≤ 1000 * time fps last := by
  have hfpsq : (0 : ℚ) < fps := by exact_mod_cast hfps
  have hapart : (1000 * first + fps : ℚ) ≤ 1000 * last := by exact_mod_cast (by omega)
  rw [time, time, ← mul_div_assoc, ← mul_div_assoc, div_add_one hfpsq.ne']
  exact div_le_div_of_nonneg_right hapart hfpsq.le

/-! ## Frames at times -/

/-- A time in milliseconds is not after a frame when that many frames' worth of it are not. -/
theorem div_le_div_iff_mul (hfps : 0 < fps) (milliseconds frame : ℤ) :
    (milliseconds / 1000 : ℚ) ≤ frame / fps ↔ milliseconds * fps ≤ frame * 1000 := by
  have hfpsq : (0 : ℚ) < fps := by exact_mod_cast hfps
  rw [div_le_div_iff₀ (by norm_num) hfpsq]
  exact_mod_cast Iff.rfl

/-- A delay that is computed from a frame is before the next frame, and it is after the frame itself
when it was rounded up. -/
theorem delay_le_iff (hfps : 0 < fps) (hslow : fps ≤ 999) (start frame : ℤ) :
    (delay fps start / 1000 : ℚ) ≤ frame / fps ↔
      start + (if 2 * (1000 * start % fps) < fps then 0 else 1) ≤ frame := by
  have hdiv := Int.mul_ediv_add_emod (1000 * start) fps
  have hlt := Int.emod_lt_of_pos (1000 * start) hfps
  have hnonneg := Int.emod_nonneg (1000 * start) hfps.ne'
  rw [div_le_div_iff_mul hfps, delay_eq hfps, Int.mul_comm start 1000]
  -- a frame lasts more than a millisecond, so only the remainder can decide
  generalize 1000 * start / fps = q, 1000 * start % fps = r at *
  by_cases hearly : 2 * r < fps
  · rw [if_pos hearly, if_pos hearly, Int.mul_comm q fps]
    omega
  · rw [if_neg hearly, if_neg hearly, Int.add_mul, Int.mul_comm q fps]
    omega

/-- A time half a frame before a frame, rounded to the millisecond, is before that frame and not
before the one in front of it: half a frame is longer than the half millisecond that rounding may
move it. -/
theorem le_halfway_iff (hfps : 0 < fps) (hslow : fps ≤ 999) (stop frame : ℤ) :
    (frame / fps : ℚ) ≤ roundHalfUp (time (2 * fps) (2 * stop - 1) * 10 ^ 3) / 1000 ↔
      frame < stop := by
  have hfpsq : (0 : ℚ) < fps := by exact_mod_cast hfps
  have hslowq : (fps : ℚ) ≤ 999 := by exact_mod_cast hslow
  have hhalfway : time (2 * fps) (2 * stop - 1) * 10 ^ 3 * fps = 1000 * stop - 500 := by
    rw [time]
    push_cast
    field_simp
    ring
  obtain ⟨hupper, hlower⟩ := roundHalfUp_bounds (time (2 * fps) (2 * stop - 1) * 10 ^ 3)
  -- both bounds are multiplied by the rate, and everything is linear then
  generalize time (2 * fps) (2 * stop - 1) * 10 ^ 3 = halfway at *
  have hupper := mul_le_mul_of_nonneg_right hupper hfpsq.le
  have hlower := mul_lt_mul_of_pos_right hlower hfpsq
  rw [div_le_div_iff₀ hfpsq (by norm_num)]
  constructor
  · -- half a frame is at least half a millisecond, which the rounding cannot reach
    intro hbefore
    by_contra hnot
    have hge : (stop : ℚ) ≤ frame := by exact_mod_cast Int.not_lt.mp hnot
    linarith
  · intro hbefore
    have hlt : (frame + 1 : ℚ) ≤ stop := by exact_mod_cast hbefore
    linarith

/-- A time in seconds separates the frames from some frame on from those before it. -/
def Separates (fps : ℤ) (seconds : ℚ) (start : ℤ) : Prop :=
  ∀ frame : ℕ, seconds ≤ frame / fps ↔ start ≤ frame

/-- A time separates the frames at one place only. -/
theorem Separates.unique {seconds : ℚ} {start other : ℤ} (hstart : 0 ≤ start) (hother : 0 ≤ other)
    (h : Separates fps seconds start) (h' : Separates fps seconds other) : start = other := by
  have hsame : ∀ frame : ℕ, start ≤ frame ↔ other ≤ frame := fun frame =>
    (h frame).symm.trans (h' frame)
  have hle := hsame start.toNat
  have hge := hsame other.toNat
  omega

/-- **The frames that are not before a delay** are those from the frame it was computed from on, or
from the next frame on when the delay was rounded up. -/
theorem separates_delay (hfps : 0 < fps) (hslow : fps ≤ 999) (start : ℤ) :
    Separates fps (delay fps start / 1000)
      (start + if 2 * (1000 * start % fps) < fps then 0 else 1) := by
  intro frame
  have hle := delay_le_iff hfps hslow start frame
  rwa [Int.cast_natCast] at hle

/-- A delay separates the frames at the frame it was computed from when it was not rounded up. -/
theorem separates_start_iff (hfps : 0 < fps) (hslow : fps ≤ 999) {start : ℤ} (hstart : 0 ≤ start) :
    Separates fps (delay fps start / 1000) start ↔ 2 * (1000 * start % fps) < fps := by
  have hseparates := separates_delay hfps hslow start
  constructor
  · intro h
    by_contra hlate
    rw [if_neg hlate] at hseparates
    have hsame := h.unique hstart (by omega) hseparates
    omega
  · intro hearly
    rwa [if_pos hearly, Int.add_zero] at hseparates

/-! ## Frames and back -/

/-- At a positive rate no division fails, and the delay is the time in milliseconds. -/
theorem milliseconds_eq (hfps : 0 < fps) (frames : ℤ) :
    milliseconds fps frames = .ok (delay fps frames) := by
  rw [milliseconds, fraction, if_neg hfps.ne']
  rfl

theorem text_eq (hfps : 0 < fps) (frames : ℤ) : text fps frames = .ok (timeText fps frames) := by
  rw [text, exactSeconds, fraction, if_neg hfps.ne']
  rfl

/-- Whole milliseconds are converted as the seconds that they are. -/
theorem ofMilliseconds_whole (fps milliseconds : ℤ) :
    ofMilliseconds fps (.whole milliseconds) = .ok (frameAt fps (milliseconds / 1000)) := by
  rw [frameAt, div_mul_eq_mul_div]
  rfl

/-- A frame is the nearest to its delay. Up to 1000 frames a second, the half millisecond that the
delay may be off is no more than half a frame, and it is less where the delay was rounded up. -/
theorem frameAt_delay (hfps : 0 < fps) (hslow : fps ≤ 1000) (frame : ℤ) :
    frameAt fps (delay fps frame / 1000) = frame := by
  have hquotient : (delay fps frame / 1000 * fps : ℚ) = (delay fps frame * fps : ℤ) / (1000 : ℤ) := by
    push_cast
    ring
  have hdiv := Int.mul_ediv_add_emod (frame * 1000) fps
  have hlt := Int.emod_lt_of_pos (frame * 1000) hfps
  have hnonneg := Int.emod_nonneg (frame * 1000) hfps.ne'
  rw [frameAt, hquotient, roundHalfUp_div _ (by decide), delay_eq hfps]
  -- the quotient and the remainder are all that matters: `frame * 1000 = fps * q + r`
  generalize frame * 1000 / fps = q, frame * 1000 % fps = r at *
  by_cases hearly : 2 * r < fps
  · rw [if_pos hearly, Int.mul_comm q fps]
    omega
  · rw [if_neg hearly, Int.add_mul, Int.mul_comm q fps]
    rcases Int.lt_or_eq_of_le hslow with hslower | rfl
    · omega
    · -- a frame lasts a millisecond, so there is nothing to round up
      omega

/-- Frames keep their order as whole milliseconds, up to 1000 of them a second. -/
theorem delay_lt_delay (hfps : 0 < fps) (hslow : fps ≤ 1000) {first last : ℤ} (hlt : first < last) :
    delay fps first < delay fps last := by
  have hapart := time_apart hfps hslow hlt
  rw [← units_eq_delay, ← units_eq_delay]
  exact roundHalfUp_lt_roundHalfUp (by linarith)

/-- The delay of a frame less than `10 ^ 28` milliseconds away is not further away than that. -/
theorem natAbs_delay_le_of_abs {frame : ℤ} (h : |(1000 * frame / fps : ℚ)| < 10 ^ 28) :
    (delay fps frame).natAbs ≤ 10 ^ 28 := by
  refine natAbs_roundHalfUp_le_of_abs ?_
  rw [time]
  push_cast
  rwa [mul_comm (frame : ℚ) 1000]

/-- **Frames survive the millisecond grid**, up to 1000 of them a second: the nearest frame to the
delay of a frame, and to the time that its text is read as, is the frame itself, and different frames
have different delays, in the same order. -/
theorem frames_restored (hfps : 1 ≤ fps) (hslow : fps ≤ 1000) :
    (∀ frame, ∃ delay, milliseconds fps frame = .ok delay ∧
        ofMilliseconds fps (.whole delay) = .ok frame) ∧
      (∀ frame : ℤ, |(1000 * frame / fps : ℚ)| < 10 ^ 28 →
        ∃ written seconds, text fps frame = .ok written ∧ readDecimal? written = some seconds ∧
          ofSeconds fps (.fraction seconds) = .ok frame) ∧
      ∀ first last, first < last → ∃ early late, milliseconds fps first = .ok early ∧
        milliseconds fps last = .ok late ∧ early < late := by
  have hpos : 0 < fps := hfps
  refine ⟨fun frame => ?_, fun frame hexact => ?_, fun first last hlt => ?_⟩
  · refine ⟨_, milliseconds_eq hpos frame, ?_⟩
    rw [ofMilliseconds_whole, frameAt_delay hpos hslow]
  · refine ⟨_, _, text_eq hpos frame, readDecimal?_timeText (natAbs_delay_le_of_abs hexact), ?_⟩
    show Except.ok (frameAt fps _) = _
    rw [frameAt_delay hpos hslow]
  · exact ⟨_, _, milliseconds_eq hpos first, milliseconds_eq hpos last,
      delay_lt_delay hpos hslow hlt⟩

/-- At 999 frames a second a frame is hardly longer than a millisecond. Halfway through the second
before the start the frame and its delay are one apart, and the delay goes back to the frame. -/
theorem frames_restored_brisk : ∃ written seconds, milliseconds 999 (-500) = .ok (-501) ∧
    ofMilliseconds 999 (.whole (-501)) = .ok (-500) ∧ text 999 (-500) = .ok written ∧
      written = "-0.501" ∧ readDecimal? written = some seconds ∧
        ofSeconds 999 (.fraction seconds) = .ok (-500) := by
  obtain ⟨hdelays, htexts, -⟩ := @frames_restored 999 (by decide) (by decide)
  obtain ⟨delay, hdelay, hback⟩ := hdelays (-500)
  obtain ⟨written, seconds, hwritten, hread, hframe⟩ := htexts (-500) (by norm_num)
  obtain rfl : delay = -501 := by
    rw [milliseconds_eq (by decide)] at hdelay
    exact (Except.ok.inj hdelay).symm.trans (by decide +kernel)
  obtain rfl : written = "-0.501" := by
    rw [text_eq (by decide)] at hwritten
    exact (Except.ok.inj hwritten).symm.trans (by decide +kernel)
  exact ⟨_, seconds, hdelay, hback, hwritten, rfl, hread, hframe⟩

/-- At 1001 frames a second, two frames share a millisecond. -/
example : delay 1001 500 = delay 1001 501 := by decide +kernel

end Montage.Clock
