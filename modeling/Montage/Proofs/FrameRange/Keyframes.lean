import Mathlib.Data.Int.Interval
import Montage.FrameRange
import Montage.Proofs.Number.Rounding

/-!
# Keyframes

The keyframes of a range lie on a straight line from its start to its stop, each rounded half up to a
frame. So they are spread as evenly as frames can be (`FrameRange.Spread`), from the first to the last
(`keyframes_spread`): rounding moves each by half a frame at most, and all steps from one to the next
have one of the two lengths next to the exact one. With more keyframes than frames some are the same.
-/

namespace Montage.FrameRange

variable (r : FrameRange) {count : ℤ}

/-- Frames are spread evenly over a range, from its start to its stop. -/
structure Spread (r : FrameRange) (count : ℤ) (frames : List ℤ) : Prop where
  length_eq : (frames.length : ℤ) = count
  first : frames.head? = some r.start
  last : frames.getLast? = some r.stop
  ascending : frames.Pairwise (· ≤ ·)
  within : ∀ frame ∈ frames, r.start ≤ frame ∧ frame ≤ r.stop
  near : ∀ i : ℕ, ∀ frame ∈ frames[i]?,
    |(frame - (r.start + i * r.duration / (count - 1)) : ℚ)| ≤ 1 / 2
  step : ∀ i : ℕ, ∀ frame ∈ frames[i]?, ∀ next ∈ frames[i + 1]?,
    next - frame = ⌊(r.duration / (count - 1) : ℚ)⌋ ∨
      next - frame = ⌈(r.duration / (count - 1) : ℚ)⌉
  nodup_iff : frames.Nodup ↔ count - 1 ≤ r.duration

/-- The keyframe at a place, counted from 0: as many exact steps from the start, rounded. -/
def keyframe (count : ℤ) (i : ℕ) : ℤ :=
  r.start + roundHalfUp (i * (r.duration / (count - 1)))

theorem duration_nonneg : 0 ≤ r.duration := by
  have := r.start_le_stop
  rw [duration]
  omega

/-- At least two frames are taken without a failure, one for each place. -/
theorem keyframes_eq (h : 2 ≤ count) :
    r.keyframes count = .ok ((List.range count.toNat).map (r.keyframe count)) := by
  rw [keyframes, if_neg (by omega)]
  congr 2
  funext i
  rw [keyframe]
  push_cast
  rw [mul_div_assoc]

/-! ## Single keyframes -/

section Keyframe

variable (h : 2 ≤ count)

include h

theorem step_nonneg : (0 : ℚ) ≤ r.duration / (count - 1) := by
  have hduration : (0 : ℚ) ≤ r.duration := by exact_mod_cast r.duration_nonneg
  have hcount : (2 : ℚ) ≤ count := by exact_mod_cast h
  exact div_nonneg hduration (by linarith)

omit h in
/-- The first place is the start of the range. -/
theorem keyframe_zero (count : ℤ) : r.keyframe count 0 = r.start := by
  have hzero : roundHalfUp 0 = 0 := roundHalfUp_intCast 0
  rw [keyframe, Nat.cast_zero, zero_mul, hzero, Int.add_zero]

/-- The last place is its stop, to which the steps add up without a remainder. -/
theorem keyframe_last : r.keyframe count (count.toNat - 1) = r.stop := by
  have hcount : (2 : ℚ) ≤ count := by exact_mod_cast h
  have hplace : ((count.toNat - 1 : ℕ) : ℚ) = count - 1 := by
    have hcast : ((count.toNat - 1 : ℕ) : ℤ) = count - 1 := by omega
    exact_mod_cast hcast
  rw [keyframe, hplace, mul_div_cancel₀ _ (by linarith), roundHalfUp_intCast, duration]
  omega

theorem keyframe_mono {i j : ℕ} (hij : i ≤ j) : r.keyframe count i ≤ r.keyframe count j := by
  have hplace : (i : ℚ) ≤ j := by exact_mod_cast hij
  have hrounded := roundHalfUp_le_roundHalfUp (mul_le_mul_of_nonneg_right hplace (r.step_nonneg h))
  rw [keyframe, keyframe]
  omega

omit h in
/-- Two neighbours are apart by the exact step, rounded down or up. -/
theorem keyframe_succ (count : ℤ) (i : ℕ) :
    r.keyframe count (i + 1) - r.keyframe count i = ⌊(r.duration / (count - 1) : ℚ)⌋ ∨
      r.keyframe count (i + 1) - r.keyframe count i = ⌈(r.duration / (count - 1) : ℚ)⌉ := by
  have hstep := roundHalfUp_step (i * (r.duration / (count - 1))) (r.duration / (count - 1))
  rw [← add_one_mul] at hstep
  rw [keyframe, keyframe, Nat.cast_add, Nat.cast_one]
  omega

/-- Steps of a frame or more keep keyframes apart. -/
theorem keyframe_lt_succ (hlong : count - 1 ≤ r.duration) (i : ℕ) :
    r.keyframe count i < r.keyframe count (i + 1) := by
  have hcount : (2 : ℚ) ≤ count := by exact_mod_cast h
  have hlongq : (count - 1 : ℚ) ≤ r.duration := by exact_mod_cast hlong
  have hone : (1 : ℤ) ≤ ⌊(r.duration / (count - 1) : ℚ)⌋ := by
    rw [Int.le_floor, Int.cast_one, one_le_div (by linarith)]
    exact hlongq
  have hceil := Int.floor_le_ceil (r.duration / (count - 1) : ℚ)
  have hsucc := r.keyframe_succ count i
  omega

end Keyframe

/-! ## All keyframes -/

/-- There are as many frames from the start to the stop as the range has, and one more. -/
theorem length_le_of_nodup {frames : List ℤ} (hnodup : frames.Nodup)
    (hwithin : ∀ frame ∈ frames, r.start ≤ frame ∧ frame ≤ r.stop) :
    (frames.length : ℤ) ≤ r.duration + 1 := by
  have hsubset : frames.toFinset ⊆ Finset.Icc r.start r.stop := by
    intro frame hframe
    exact Finset.mem_Icc.mpr (hwithin frame (List.mem_toFinset.mp hframe))
  have hcard := Finset.card_le_card hsubset
  have hduration := r.duration_nonneg
  rw [List.toFinset_card_of_nodup hnodup, Int.card_Icc] at hcard
  rw [duration] at hduration ⊢
  omega

theorem eq_keyframe {places i : ℕ} {frame : ℤ}
    (h : frame ∈ ((List.range places).map (r.keyframe count))[i]?) :
    frame = r.keyframe count i := by
  obtain ⟨hi, rfl⟩ := List.getElem?_eq_some_iff.mp h
  simp

theorem keyframe_within (h : 2 ≤ count) {frame : ℤ}
    (hframe : frame ∈ (List.range count.toNat).map (r.keyframe count)) :
    r.start ≤ frame ∧ frame ≤ r.stop := by
  obtain ⟨i, hi, rfl⟩ := List.mem_map.mp hframe
  rw [List.mem_range] at hi
  rw [← r.keyframe_zero count, ← r.keyframe_last h]
  exact ⟨r.keyframe_mono h (Nat.zero_le i), r.keyframe_mono h (by omega)⟩

/-- No two keyframes are the same just when each step is a frame or more. -/
theorem nodup_keyframes_iff (h : 2 ≤ count) :
    ((List.range count.toNat).map (r.keyframe count)).Nodup ↔ count - 1 ≤ r.duration := by
  constructor
  · intro hnodup
    have hle := r.length_le_of_nodup hnodup fun _ => r.keyframe_within h
    rw [List.length_map, List.length_range] at hle
    omega
  · intro hlong
    have hmono : StrictMono (r.keyframe count) :=
      strictMono_nat_of_lt_succ (r.keyframe_lt_succ h hlong)
    exact List.nodup_range.map hmono.injective

/-- **The keyframes of a range are spread evenly over it.** -/
theorem keyframes_spread (h : 2 ≤ count) :
    ∃ frames, r.keyframes count = .ok frames ∧ r.Spread count frames := by
  refine ⟨_, r.keyframes_eq h, ?_⟩
  -- every part is read from the closed form of the frame at a place
  constructor
  case length_eq =>
    rw [List.length_map, List.length_range]
    omega
  case first =>
    rw [List.head?_map, List.head?_range, if_neg (by omega), Option.map_some, r.keyframe_zero]
  case last =>
    rw [List.getLast?_map, List.getLast?_range, if_neg (by omega), Option.map_some,
      r.keyframe_last h]
  case ascending =>
    rw [List.pairwise_map]
    exact List.pairwise_lt_range.imp fun hlt => r.keyframe_mono h hlt.le
  case within => exact fun _ => r.keyframe_within h
  case near =>
    intro i frame hframe
    -- only the step is rounded, the start is a frame already
    have hrounded := abs_roundHalfUp_sub_le (i * (r.duration / (count - 1)))
    rw [r.eq_keyframe hframe, keyframe, mul_div_assoc]
    push_cast
    rwa [add_sub_add_left_eq_sub]
  case step =>
    intro i frame hframe next hnext
    rw [r.eq_keyframe hframe, r.eq_keyframe hnext]
    exact r.keyframe_succ count i
  case nodup_iff => exact r.nodup_keyframes_iff h

/-- Five keyframes from two frames before the origin to one after it are more than there is room for:
the exact steps are three quarters of a frame, so one of them is rounded to none. -/
theorem keyframes_spread_crowded :
    keyframes ⟨-2, 1, by decide⟩ 5 = .ok [-2, -1, 0, 0, 1] ∧
      Spread ⟨-2, 1, by decide⟩ 5 [-2, -1, 0, 0, 1] := by
  obtain ⟨frames, hframes, hspread⟩ := @keyframes_spread ⟨-2, 1, by decide⟩ 5 (by decide)
  have hvalue : (keyframes ⟨-2, 1, by decide⟩ 5).toOption = some [-2, -1, 0, 0, 1] := by
    decide +kernel
  rw [hframes] at hvalue
  obtain rfl : frames = [-2, -1, 0, 0, 1] := Option.some.inj hvalue
  exact ⟨hframes, hspread⟩

end Montage.FrameRange
