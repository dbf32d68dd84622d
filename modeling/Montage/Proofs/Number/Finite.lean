import Montage.Number.Quantity
import Montage.Proofs.Schema.Valid

/-!
# Finite floats

A float stands for a rational exactly when it is finite. A float between two finite bounds is finite
itself, so a volume can always be written into a filter.
-/

namespace Montage

open Float.Model (UnpackedFloat)

/-- Between two finite numbers there is neither an infinity nor an undefined number. -/
theorem isFinite_of_unpacked_between {low x high : UnpackedFloat} (hlow : low.isFinite)
    (hhigh : high.isFinite) (hlx : low.le x) (hxh : x.le high) : x.isFinite := by
  -- an infinity is at one end of the order, so nothing finite is beyond it
  cases x with
  | infinity sign =>
    cases sign with
    | positive =>
      cases high with
      | infinity | notANumber => exact hhigh
      | zero | finite => exact absurd hxh Bool.false_ne_true
    | negative =>
      cases low with
      | infinity | notANumber => exact hlow
      | zero | finite => exact absurd hlx Bool.false_ne_true
  | notANumber => exact absurd hxh (by cases high <;> exact Bool.false_ne_true)
  | zero | finite => rfl

/-- A float between two finite floats is finite. -/
theorem isFinite_of_between {low x high : Float} (hlow : low.isFinite) (hhigh : high.isFinite)
    (hlx : low ≤ x) (hxh : x ≤ high) : x.isFinite :=
  isFinite_of_unpacked_between hlow hhigh (of_decide_eq_true hlx) (of_decide_eq_true hxh)

theorem Schema.Between.isFinite {x : Float} (h : Between 0 1 x) : x.isFinite :=
  isFinite_of_between (by decide +kernel) (by decide +kernel) h.1 h.2

/-- A float stands for a rational exactly when it is finite. -/
theorem rationalOf_isOk_iff (x : Float) : (∃ q, rationalOf x = .ok q) ↔ x.isFinite := by
  rw [rationalOf, decimalOf?]
  by_cases hx : x.isFinite <;> simp [hx]

end Montage
