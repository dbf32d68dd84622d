import Montage.Number.Scalar
import Montage.Schema.Checked

/-!
# Rectangles and points

Rectangles are axis-aligned, in pixels or in fractions of a frame. Their extents are not negative,
and `Rect.lerp`, which may extrapolate, fails where they would become so.
-/

namespace Montage

variable {α : Type}

/-- A rectangle by its left and top edges and its extents. -/
structure Rect (α : Type) where
  left : α
  top : α
  width : α
  height : α
deriving Repr, DecidableEq

structure Point (α : Type) where
  x : α
  y : α
deriving Repr, DecidableEq

/-- A place inside a frame, from `(-1, -1)` at the top left through the center at `(0, 0)`. -/
structure Alignment (α : Type) where
  x : α
  y : α
deriving Repr, DecidableEq

variable [Scalar α]

def Alignment.center : Alignment α where
  x := 0.0
  y := 0.0

namespace Rect

/-- An extent that is not negative. -/
def extent (name : String) (x : α) : Checked α :=
  ((Checked.ok x).demand (0.0 ≤ ·) (.below 0)).under (.field name)

/-- The rectangle with the given edges and extents, refused when an extent is negative. -/
def ofExtents (left top width height : α) : Checked (Rect α) :=
  Rect.mk left top <$> extent "width" width <*> extent "height" height

/-- The rectangle at `t` of the way from `a` to `b`. -/
def lerp (a b : Rect α) (t : α) : Except Failure (Rect α) :=
  (ofExtents (Scalar.mix a.left b.left t) (Scalar.mix a.top b.top t)
    (Scalar.mix a.width b.width t) (Scalar.mix a.height b.height t)).toExcept

end Rect

end Montage
