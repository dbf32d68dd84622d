import Montage.Geometry
import Montage.Schema.Record

/-!
# Stored rectangles and points
-/

namespace Montage

open Schema

namespace Rect

def ofData : Data → Checked (Rect Float) :=
  record "Rect" fun fields =>
    Rect.mk
      <$> fieldOr fields "left" 0.0 number
      <*> fieldOr fields "top" 0.0 number
      <*> fieldOr fields "width" 0.0 (numberFrom 0)
      <*> fieldOr fields "height" 0.0 (numberFrom 0)

def toData (rect : Rect Float) : Data :=
  .object [
    ("left", .float rect.left),
    ("top", .float rect.top),
    ("width", .float rect.width),
    ("height", .float rect.height)]

end Rect

namespace Point

def ofData : Data → Checked (Point Float) :=
  record "Point" fun fields =>
    Point.mk <$> fieldOr fields "x" 0.0 number <*> fieldOr fields "y" 0.0 number

def toData (point : Point Float) : Data :=
  .object [("x", .float point.x), ("y", .float point.y)]

end Point

namespace Alignment

def ofData : Data → Checked (Alignment Float) :=
  record "Alignment" fun fields =>
    Alignment.mk
      <$> fieldOr fields "x" 0.0 (numberWithin (-1) 1)
      <*> fieldOr fields "y" 0.0 (numberWithin (-1) 1)

def toData (alignment : Alignment Float) : Data :=
  .object [("x", .float alignment.x), ("y", .float alignment.y)]

end Alignment

end Montage
