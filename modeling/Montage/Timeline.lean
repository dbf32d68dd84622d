import Montage.Scene

/-!
# Timelines

A timeline is a composition with every frame absolute: scenes lie end to end, clips and tracks have
their starts, and anchors their frames. `PlacedScene.appearanceAt` and `PlacedScene.fadeOpacity` say
how a scene is shown in a frame.
-/

namespace Montage

variable {α : Type}

/-- A scene on the timeline, with its transitions and fades resolved. -/
structure PlacedScene (α : Type) where
  index : Int
  name : String
  start : Int
  stop : Int
  transitionIn : Option (Transition α)
  transitionOut : Option (Transition α)
  fadeIn : Int
  fadeOut : Int
deriving Repr, DecidableEq

namespace PlacedScene

/-- The frames of a scene. -/
def range (scene : PlacedScene α) : Except Failure FrameRange :=
  FrameRange.ofBounds scene.start scene.stop

/-- The number of frames. -/
def duration (scene : PlacedScene α) : Int :=
  scene.stop - scene.start

/-- The frame lies in the scene. -/
def contains (scene : PlacedScene α) (frame : Int) : Bool :=
  scene.start ≤ frame && frame < scene.stop

variable [Scalar α] (scene : PlacedScene α) (frame : Int)

/-- Eased progress of the entry, complete when there is no transition. -/
def entryProgress : Except ArithmeticFault α :=
  match scene.transitionIn with
  | none => .ok 1.0
  | some transition => transition.progressAt (frame - scene.start)

/-- Eased progress of the exit, zero when there is no transition or its window is empty. -/
def exitProgress : Except ArithmeticFault α :=
  match scene.transitionOut with
  | none => .ok 0.0
  | some transition =>
    if transition.duration ≤ 0 then .ok 0.0
    else transition.progressAt (frame - (scene.stop - transition.duration))

/-- How the scene is shown while it enters, if the frame lies before the end of its entry. -/
def entering? : Option (Except ArithmeticFault (Appearance α)) :=
  match scene.transitionIn with
  | none => none
  | some transition =>
    if frame < scene.start + transition.duration then
      some ((scene.entryProgress frame).map fun progress => transition.appearance progress true)
    else none

/-- How the scene is shown while it leaves, if the frame does not lie before the start of its exit.
-/
def leaving? : Option (Except ArithmeticFault (Appearance α)) :=
  match scene.transitionOut with
  | none => none
  | some transition =>
    if scene.stop - transition.duration ≤ frame then
      some ((scene.exitProgress frame).map fun progress => transition.appearance progress false)
    else none

/-- How the scene is shown in a frame. Where the windows overlap, the entry wins. -/
def appearanceAt : Except ArithmeticFault (Appearance α) :=
  match scene.entering? frame, scene.leaving? frame with
  | some entering, _ => entering
  | none, some leaving => leaving
  | none, none => .ok .plain

/-- The part of a fade that is done after some of its frames; a fade of no frames is done. -/
def fadePart (elapsed length : Int) : Except ArithmeticFault α :=
  if 0 < length then (Scalar.ratio elapsed length).map Scalar.clampUnit else .ok 1.0

/-- The opacity of a scene by its fade-in and fade-out. -/
def fadeOpacity : Except ArithmeticFault α := do
  let fadedIn ← fadePart (frame - scene.start) scene.fadeIn
  let fadedOut ← fadePart (scene.stop - frame) scene.fadeOut
  return fadedIn * fadedOut

end PlacedScene

/-- A composition with every frame absolute. -/
structure Timeline where
  fps : Int
  width : Int
  height : Int
  totalFrames : Int
  scenes : List (PlacedScene Float)
  tracks : List Track
  clips : List Clip
  anchors : Table Anchor

namespace Timeline

/-- The length in seconds. -/
def durationInSeconds (timeline : Timeline) : Except ArithmeticFault Float :=
  Clock.seconds timeline.fps timeline.totalFrames

/-- The scene that a frame lies in. -/
def sceneAt (timeline : Timeline) (frame : Int) : Option (PlacedScene Float) :=
  timeline.scenes.find? (·.contains frame)

end Timeline

end Montage
