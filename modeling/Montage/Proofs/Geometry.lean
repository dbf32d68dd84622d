import Montage.Geometry
import Montage.Proofs.Number.Scalar

/-!
# Proper rectangles

A rectangle passes the check of its extents when neither of them is negative (`Rect.proper_iff`).
Between two such rectangles there are only such rectangles, so the way from one to the other never
fails (`Rect.lerp_eq`).
-/

namespace Montage.Rect

/-- Neither extent of the rectangle is negative. -/
structure Proper (rect : Rect ℚ) : Prop where
  width_nonneg : 0 ≤ rect.width
  height_nonneg : 0 ≤ rect.height

/-- An extent is refused just when it is negative. -/
theorem extent_eq (name : String) (x : ℚ) :
    extent name x = if 0 ≤ x then .ok x else .faulty [⟨[.field name], .below 0⟩] := by
  rw [extent, Checked.demand, Checked.andThen]
  norm_num only
  by_cases h : 0 ≤ x
  · rw [if_pos (decide_eq_true h), if_pos h]
    rfl
  · rw [if_neg (by simpa using h), if_neg h]
    rfl

/-- A rectangle is proper when its own constructor accepts it. -/
theorem proper_iff {rect : Rect ℚ} :
    rect.Proper ↔ ofExtents rect.left rect.top rect.width rect.height = .ok rect := by
  rw [ofExtents, extent_eq, extent_eq]
  constructor
  · intro h
    rw [if_pos h.width_nonneg, if_pos h.height_nonneg]
    rfl
  · intro h
    split_ifs at h with hwidth hheight hheight
    · exact ⟨hwidth, hheight⟩
    · cases h
    · cases h
    · cases h

/-! ## Between rectangles -/

/-- The rectangle at a part of the way, as one that is not checked. -/
def between (a b : Rect ℚ) (t : ℚ) : Rect ℚ where
  left := Scalar.mix a.left b.left t
  top := Scalar.mix a.top b.top t
  width := Scalar.mix a.width b.width t
  height := Scalar.mix a.height b.height t

variable {a b : Rect ℚ} {t : ℚ}

/-- What lies between two proper rectangles is proper. -/
theorem between_proper (ha : a.Proper) (hb : b.Proper) (ht : t ∈ Set.Icc 0 1) :
    (between a b t).Proper where
  width_nonneg := (le_min ha.width_nonneg hb.width_nonneg).trans (Scalar.mix_mem_uIcc _ _ ht).1
  height_nonneg := (le_min ha.height_nonneg hb.height_nonneg).trans (Scalar.mix_mem_uIcc _ _ ht).1

theorem lerp_eq (ha : a.Proper) (hb : b.Proper) (ht : t ∈ Set.Icc 0 1) :
    lerp a b t = .ok (between a b t) := by
  have haccepted := proper_iff.mp (between_proper ha hb ht)
  exact congrArg Checked.toExcept haccepted

end Montage.Rect
