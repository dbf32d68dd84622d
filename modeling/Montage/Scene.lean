import Montage.Audio
import Montage.Transition

/-!
# Compositions as they are authored

A composition is a list of scenes, audio tracks and anchors. Each scene holds a tree of nodes:
groups, which place their children in a window of their own, and clips, leaves and anchor marks. All
frames in a tree are relative to the window around them.
-/

namespace Montage

/-- A video file composited over the rendered frames. In a scene its start is relative to the window
around it, on a timeline it is absolute. A clip without a duration lasts to the end of its window.
-/
structure Clip where
  id : Option String
  path : String
  start : Int
  duration : Option Int
  trimStart : Float
  width : Int
  height : Int
  position : Point Float
  includeAudio : Bool
  volume : Float
  fadeIn : Int
  fadeOut : Int
deriving Repr

namespace Clip

/-- The name of a clip in messages: its identifier, or its path when it has none. -/
def label (clip : Clip) : String :=
  Text.orElse (clip.id.getD "") clip.path

/-- The frames of a clip, or nothing when it has no duration. -/
def range (clip : Clip) : Except Failure (Option FrameRange) :=
  match clip.duration with
  | none => .ok none
  | some duration => some <$> FrameRange.ofDuration clip.start duration

end Clip

/-- What is drawn in a scene. A leaf with a key is matched with the leaves of that key in other
scenes, and declares its bounds. -/
structure Leaf where
  name : String
  heroKey : Option String
  bounds : Option (Rect Float)
  rotation : Float
  scale : Float
deriving Repr

/-- A place in a scene that is published as an anchor. Without a duration the anchor lasts to the
end of its window. -/
structure Mark where
  anchorId : String
  start : Int
  duration : Option Int
  afterParentEntry : Bool
deriving Repr, DecidableEq

/-- The window that a group opens for its children, relative to the window around it. -/
structure Group where
  name : String
  start : Int
  duration : Option Int
  entryDuration : Int
  exitDuration : Int
  offset : Int
  afterParentEntry : Bool
deriving Repr, DecidableEq

/-- A node of a scene tree. -/
inductive Node where
  | group (group : Group) (children : List Node)
  | clip (clip : Clip) (afterParentEntry : Bool)
  | leaf (leaf : Leaf)
  | mark (mark : Mark)

/-- A scene of a composition. -/
structure Scene where
  name : String
  duration : Int
  transitionIn : Option (Transition Float)
  transitionOut : Option (Transition Float)
  fadeIn : Option Int
  fadeOut : Option Int
  children : List Node

/-- A whole composition as it is authored. -/
structure Composition where
  fps : Int
  width : Int
  height : Int
  scenes : List Scene
  defaultTransition : Option (Transition Float)
  tracks : List Track
  music : Option Music
  anchors : Table Anchor

namespace Composition

/-- The sum of all scene durations. -/
def totalFrames (composition : Composition) : Int :=
  composition.scenes.foldr (fun scene frames => scene.duration + frames) 0

end Composition

end Montage
