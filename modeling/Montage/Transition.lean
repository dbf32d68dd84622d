import Montage.Easing
import Montage.Geometry

/-!
# Scene transitions

A transition leads from one scene into the next over a window of frames. Its progress through the
window is eased by a curve (`Transition.progressAt`), and its effect turns progress into an
`Appearance` of the scene that enters or leaves (`Transition.appearance`). Progress outside the unit
interval counts as its nearer end, so every progress has an appearance.
-/

namespace Montage

variable {α : Type}

/-- The direction in which a sliding scene moves. -/
inductive SlideDirection where
  | left
  | right
  | up
  | down
deriving Repr, DecidableEq

/-- The direction in which a wipe uncovers a scene. -/
inductive WipeDirection where
  | leftToRight
  | rightToLeft
  | topToBottom
  | bottomToTop
deriving Repr, DecidableEq

/-- What a transition does to a scene. -/
inductive Effect (α : Type) where
  /-- A hard cut. -/
  | none
  | crossFade
  | slide (direction : SlideDirection)
  | scale
  | wipe (direction : WipeDirection)
  /-- A zoom up to a peak factor, about a point or the center. -/
  | zoomWarp (maxZoom : α) (target : Option (Alignment α))
  /-- A solid colour over the scene. -/
  | colorBleed (color : String)
deriving Repr, DecidableEq

/-- A transition over a window of frames. -/
structure Transition (α : Type) where
  duration : Int
  curve : Curve
  effect : Effect α
deriving Repr, DecidableEq

/-- How a scene is shown in one frame: moved by fractions of the frame, scaled about an alignment,
clipped to a rectangle in fractions of the frame, and covered by a colour. -/
structure Appearance (α : Type) where
  translateX : α
  translateY : α
  scale : α
  opacity : α
  clip : Option (Rect α)
  overlayColor : Option String
  overlayAlpha : α
  alignment : Option (Alignment α)
deriving Repr, DecidableEq

variable [Scalar α]

namespace Appearance

/-- A scene shown as it is. -/
def plain : Appearance α where
  translateX := 0.0
  translateY := 0.0
  scale := 1.0
  opacity := 1.0
  clip := none
  overlayColor := none
  overlayAlpha := 0.0
  alignment := none

end Appearance

namespace Transition

/-- The least scale of a scene that grows or shrinks. -/
def minScale : α := 0.001

/-- The alpha of a colour that covers a scene most. -/
def maxBleed : α := 0.8

/-- Eased progress after a number of frames of the window. An empty window is complete. -/
def progressAt (transition : Transition α) (elapsed : Int) : Except ArithmeticFault α :=
  if transition.duration ≤ 0 then .ok 1.0
  else (Scalar.ratio elapsed transition.duration).map transition.curve.ease

/-- The part of a frame that a wipe has uncovered. -/
def wipeClip (direction : WipeDirection) (visible : α) : Rect α :=
  match direction with
  | .leftToRight => ⟨0.0, 0.0, visible, 1.0⟩
  | .rightToLeft => ⟨1.0 - visible, 0.0, visible, 1.0⟩
  | .topToBottom => ⟨0.0, 0.0, 1.0, visible⟩
  | .bottomToTop => ⟨0.0, 1.0 - visible, 1.0, visible⟩

/-- A scene moved along a direction by a fraction of the frame, counted against it. -/
def slideBy (direction : SlideDirection) (amount : α) : Appearance α :=
  match direction with
  | .left => { Appearance.plain with translateX := amount }
  | .right => { Appearance.plain with translateX := -amount }
  | .up => { Appearance.plain with translateY := amount }
  | .down => { Appearance.plain with translateY := -amount }

/-- A scale kept between the least one and 1. -/
def clampScale (scale : α) : α :=
  -- an undefined float is not below 1, so it counts as 1
  let low := if scale < 1.0 then scale else 1.0
  if minScale < low then low else minScale

/-- How the scene that enters, or leaves, is shown at a progress. -/
def appearance (transition : Transition α) (progress : α) (entering : Bool) : Appearance α :=
  let p := Scalar.clampUnit progress
  let shown := if entering then p else 1.0 - p
  match transition.effect with
  | .none => .plain
  | .crossFade => { Appearance.plain with opacity := shown }
  | .slide direction => slideBy direction (if entering then 1.0 - p else -p)
  | .scale => { Appearance.plain with scale := clampScale shown }
  | .wipe direction => { Appearance.plain with clip := some (wipeClip direction shown) }
  | .zoomWarp maxZoom target =>
    { Appearance.plain with
      scale := 1.0 + (maxZoom - 1.0) * (if entering then 1.0 - p else p)
      opacity := shown
      alignment := some (target.getD .center) }
  | .colorBleed color =>
    { Appearance.plain with
      overlayColor := some color
      overlayAlpha := (if entering then 1.0 - p else p) * maxBleed }

end Transition

end Montage
