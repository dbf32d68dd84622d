import Montage.Log
import Montage.Timeline

/-!
# Scenes laid end to end

`Scene.assemble` places scenes one after the other from frame 0 on. Transitions apply between scenes
only: the first scene has none in and the last none out. A scene's own transition is taken before
the default one, and a fade that is not given lasts as long as the transition on its side.
-/

namespace Montage

namespace Scene

variable (fallback : Option (Transition Float))

/-- The length of a fade: the one that is given, or that of the transition on its side. -/
def fadeLength (given : Option Int) (transition : Option (Transition Float)) : Int :=
  given.getD ((transition.map Transition.duration).getD 0)

/-- The scene at a position and a first frame, with a scene before or after it or not. -/
def placeAt (scene : Scene) (index : Nat) (start : Int) (hasBefore hasAfter : Bool) :
    PlacedScene Float :=
  -- at the ends of the timeline there is nothing to come from or to go to
  let transitionIn := if hasBefore then scene.transitionIn.or fallback else none
  let transitionOut := if hasAfter then scene.transitionOut.or fallback else none
  { index := index
    name := scene.name
    start := start
    stop := start + scene.duration
    transitionIn := transitionIn
    transitionOut := transitionOut
    fadeIn := fadeLength scene.fadeIn transitionIn
    fadeOut := fadeLength scene.fadeOut transitionOut }

/-- The scenes from a position and a first frame on. -/
def assembleFrom : Nat → Int → List Scene → List (PlacedScene Float)
  | _, _, [] => []
  | index, start, scene :: rest =>
    scene.placeAt fallback index start (index ≠ 0) (!rest.isEmpty) ::
      assembleFrom (index + 1) (start + scene.duration) rest

/-- The scenes on the timeline. -/
def assemble (scenes : List Scene) : List (PlacedScene Float) :=
  assembleFrom fallback 0 0 scenes

end Scene

namespace PlacedScene

/-- The frame at which the last of some scenes stops, and zero when there is none. -/
def lastStop (scenes : List (PlacedScene Float)) : Int :=
  (scenes.getLast?.map PlacedScene.stop).getD 0

/-- What there is to tell about assembled scenes. -/
def assembledNotes (scenes : List (PlacedScene Float)) : List Log.Entry :=
  [⟨.debug, Log.timeline, s!"Assembled {scenes.length} scenes spanning {lastStop scenes} frames"⟩]

end PlacedScene

end Montage
