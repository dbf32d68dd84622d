import Montage.Content
import Montage.Sync

/-!
# Resolution of compositions

`Composition.resolve` turns a composition into a timeline: scenes are laid end to end, their content
is placed, tracks are timed against the anchors, and open tracks get the rest of the timeline.
Anchors given by the caller replace those of the composition, which replace those found in its
scenes.
-/

namespace Montage

namespace Music

/-- Background music as a track over the whole timeline. -/
def track (totalFrames : Int) (music : Music) : Track where
  id := some "background_music"
  source := music.source
  start := 0
  duration := some totalFrames
  trimStart := 0
  trimEnd := none
  volume := music.volume
  fadeIn := music.fadeIn
  fadeOut := music.fadeOut
  loop := music.loop
  sync := none

end Music

namespace Track

/-- The track with a duration: its own, or what is left of the timeline after its start. -/
def fillDuration (totalFrames : Int) (track : Track) : Track :=
  { track with duration := some (track.duration.getD (max (totalFrames - track.start) 0)) }

end Track

namespace Composition

variable (extra : Table Anchor) (strict : Bool) (composition : Composition)

/-- The scenes on the timeline. -/
def assembled : List (PlacedScene Float) :=
  Scene.assemble composition.defaultTransition composition.scenes

/-- The visits to all nodes of all scenes. -/
def visits : List Visit :=
  Scene.visits composition.scenes composition.assembled

/-- All anchors that tracks are timed against. -/
def anchorTable (content : Content) : Table Anchor :=
  Table.merge (Table.merge content.anchors composition.anchors) extra

/-- The tracks with the background music, if there is any, before the others. -/
def allTracks : List Track :=
  (composition.music.map (Music.track (PlacedScene.lastStop composition.assembled))).toList ++
    composition.tracks

def resolvedNotes (timeline : Timeline) : List Log.Entry :=
  [⟨.info, Log.timeline, s!"Resolved timeline: {timeline.scenes.length} scenes, " ++
    s!"{timeline.totalFrames} frames, {timeline.tracks.length} audio tracks, " ++
    s!"{timeline.clips.length} embedded videos"⟩]

/-! ## Reports -/

def reportContent : Report Content := do
  Report.tell (PlacedScene.assembledNotes composition.assembled)
  Content.reportVisits composition.visits

def reportResolve : Report Timeline := do
  let content ← composition.reportContent
  let anchors := composition.anchorTable extra content
  let totalFrames := PlacedScene.lastStop composition.assembled
  let tracks ← Track.reportAll anchors strict composition.allTracks
  let timeline : Timeline := {
    fps := composition.fps
    width := composition.width
    height := composition.height
    totalFrames := totalFrames
    scenes := composition.assembled
    tracks := tracks.map (Track.fillDuration totalFrames)
    clips := content.clips
    anchors := anchors }
  Report.tell (resolvedNotes timeline)
  return timeline

def reportHeroes : Report (Registry Float) := do
  Registry.reportList (← composition.reportContent).heroes

/-! ## Results -/

/-- What the scenes contain. -/
def content : Except Failure Content :=
  composition.reportContent.result

/-- The timeline of a composition. -/
def resolve : Except Failure Timeline :=
  (composition.reportResolve extra strict).result

/-- The heroes of all scenes. -/
def heroes : Except Failure (Registry Float) :=
  composition.reportHeroes.result

end Composition

end Montage
