import Montage.FrameRange

/-!
# Anchors and audio tracks

An anchor is a named stretch of frames that other things are timed against. An audio track plays a
source from a frame on, and may be timed relative to anchors instead of absolutely.
-/

namespace Montage

/-- A stretch of frames that may be open at its end. -/
structure Anchor where
  start : Int
  stop : Option Int
deriving Repr, DecidableEq

namespace Anchor

/-- The frames of an anchor, or nothing when it is open. -/
def range (anchor : Anchor) : Except Failure (Option FrameRange) :=
  match anchor.stop with
  | none => .ok none
  | some stop => some <$> FrameRange.ofBounds anchor.start stop

end Anchor

/-- Where a sound came from. -/
inductive SourceKind where
  | asset
  | file
  | url
deriving Repr, DecidableEq

/-- A sound at a local path. -/
structure AudioSource where
  kind : SourceKind
  path : String
deriving Repr, DecidableEq

/-- What a track does whose source is shorter than the stretch between its anchors. -/
inductive SyncBehavior where
  | stopWhenEnds
  | loopToMatch
deriving Repr, DecidableEq

/-- The timing of a track relative to anchors. -/
structure Sync where
  startAnchor : Option String
  endAnchor : Option String
  startOffset : Int
  endOffset : Int
  behavior : SyncBehavior
deriving Repr, DecidableEq

namespace Sync

def hasReference (sync : Sync) : Bool :=
  sync.startAnchor.isSome || sync.endAnchor.isSome

end Sync

/-- A sound on the timeline. A track without a duration lasts to the end of the composition. -/
structure Track where
  id : Option String
  source : AudioSource
  start : Int
  duration : Option Int
  trimStart : Int
  trimEnd : Option Int
  volume : Float
  fadeIn : Int
  fadeOut : Int
  loop : Bool
  sync : Option Sync
deriving Repr

namespace Track

/-- The name of a track in messages: its identifier, or its path when it has none. -/
def label (track : Track) : String :=
  Text.orElse (track.id.getD "") track.source.path

/-- The frames of a track, or nothing when it has no duration. -/
def range (track : Track) : Except Failure (Option FrameRange) :=
  match track.duration with
  | none => .ok none
  | some duration => some <$> FrameRange.ofDuration track.start duration

end Track

/-- A sound under a whole composition. -/
structure Music where
  source : AudioSource
  volume : Float
  fadeIn : Int
  fadeOut : Int
  loop : Bool
deriving Repr

end Montage
