import Montage.Schema.Scene
import Montage.Timeline

/-!
# Stored timelines
-/

namespace Montage

open Schema

namespace PlacedScene

def ofData : Data → Checked (PlacedScene Float) :=
  record "ResolvedScene" fun fields =>
    PlacedScene.mk
      <$> field fields "index" (integerFrom 0)
      <*> fieldOr fields "name" "" text
      <*> field fields "absolute_start" (integerFrom 0)
      <*> field fields "absolute_end" (integerFrom 0)
      <*> fieldOption fields "transition_in" Transition.ofData
      <*> fieldOption fields "transition_out" Transition.ofData
      <*> fieldOr fields "fade_in_frames" 0 (integerFrom 0)
      <*> fieldOr fields "fade_out_frames" 0 (integerFrom 0)

def toData (scene : PlacedScene Float) : Data :=
  .object [
    ("index", .int scene.index),
    ("name", .text scene.name),
    ("absolute_start", .int scene.start),
    ("absolute_end", .int scene.stop),
    ("transition_in", .ofOption Transition.toData scene.transitionIn),
    ("transition_out", .ofOption Transition.toData scene.transitionOut),
    ("fade_in_frames", .int scene.fadeIn),
    ("fade_out_frames", .int scene.fadeOut)]

end PlacedScene

namespace Timeline

def ofData : Data → Checked Timeline :=
  record "ResolvedTimeline" fun fields =>
    Timeline.mk
      <$> field fields "fps" positive
      <*> field fields "width" positive
      <*> field fields "height" positive
      <*> field fields "total_frames" (integerFrom 0)
      <*> fieldOr fields "scenes" [] (list PlacedScene.ofData)
      <*> fieldOr fields "audio_tracks" [] (list Track.ofData)
      <*> fieldOr fields "embedded_videos" [] (list Clip.ofData)
      <*> fieldOr fields "anchors" Table.empty (table Anchor.ofData)

def toData (timeline : Timeline) : Data :=
  .object [
    ("fps", .int timeline.fps),
    ("width", .int timeline.width),
    ("height", .int timeline.height),
    ("total_frames", .int timeline.totalFrames),
    ("scenes", .ofList PlacedScene.toData timeline.scenes),
    ("audio_tracks", .ofList Track.toData timeline.tracks),
    ("embedded_videos", .ofList Clip.toData timeline.clips),
    ("anchors", .ofTable Anchor.toData timeline.anchors)]

end Timeline

end Montage
