import Montage.Data.Basic
import Montage.Encoding
import Montage.Graph.Basic
import Montage.Log
import Montage.Timeline

/-!
# What contributes to a graph

Clips and tracks that have no length, and clips that would give neither picture nor sound, take no
part in a graph. Input 0 is the pipe with the rendered frames; the clips that contribute follow it,
and then the tracks, each in the order of the timeline.
-/

namespace Montage

/-- A clip that contributes to a graph, for a number of frames. -/
structure ClipSource where
  clip : Clip
  duration : Int
  overlaid : Bool
  heard : Bool
deriving Repr

/-- A track that contributes to a graph, for a number of frames. -/
structure TrackSource where
  track : Track
  duration : Int
deriving Repr

namespace Clip

/-- What there is to tell about the contribution of a clip, and the contribution. -/
def survey (overlaid : Bool) (clip : Clip) : List Log.Entry × Option ClipSource :=
  let duration := clip.duration.getD 0
  if duration = 0 then
    ([⟨.warning, Log.graph, s!"Skipping embedded video {clip.label}: zero duration"⟩], none)
  else if !overlaid && !clip.includeAudio then
    let name := (Data.ofOption .text clip.id).spoken
    ([⟨.debug, Log.graph, s!"Embedded video {name} contributes no streams"⟩], none)
  else ([], some ⟨clip, duration, overlaid, clip.includeAudio⟩)

/-- The contribution of a clip. -/
def source? (overlaid : Bool) (clip : Clip) : Option ClipSource :=
  (clip.survey overlaid).2

end Clip

namespace Track

/-- What there is to tell about the contribution of a track to a timeline of a given length, and the
contribution. -/
def survey (totalFrames : Int) (track : Track) : List Log.Entry × Option TrackSource :=
  let duration := track.duration.getD (max (totalFrames - track.start) 0)
  if duration ≤ 0 then
    ([⟨.warning, Log.graph, s!"Skipping audio track {track.label}: zero duration"⟩], none)
  else
    let unresolved := if track.sync.isNone then [] else
      [⟨.debug, Log.graph, s!"Audio track {track.label} still has unresolved sync; " ++
        "using authored timing"⟩]
    (unresolved, some ⟨track, duration⟩)

/-- The contribution of a track. -/
def source? (totalFrames : Int) (track : Track) : Option TrackSource :=
  (track.survey totalFrames).2

end Track

namespace Timeline

variable (timeline : Timeline) (encoding : Encoding)

def clipSources : List ClipSource :=
  timeline.clips.filterMap (Clip.source? encoding.overlayClips)

def trackSources : List TrackSource :=
  timeline.tracks.filterMap (Track.source? timeline.totalFrames)

/-- The clips that contribute, each with the number of its input. -/
def clipInputs : List (ClipSource × Nat) :=
  (timeline.clipSources encoding).zipIdx 1

/-- The tracks that contribute, each with the number of its input. -/
def trackInputs : List (TrackSource × Nat) :=
  timeline.trackSources.zipIdx (1 + (timeline.clipSources encoding).length)

/-- The input files of the graph. -/
def inputs : List Input :=
  ⟨0, .frames, "pipe:0", none⟩ ::
    (timeline.clipInputs encoding).map (fun (source, index) =>
      ⟨index, .clip, source.clip.path, source.clip.id⟩) ++
    (timeline.trackInputs encoding).map (fun (source, index) =>
      ⟨index, .audio, source.track.source.path, source.track.id⟩)

def sourceNotes : List Log.Entry :=
  timeline.clips.flatMap (fun clip => (clip.survey encoding.overlayClips).1) ++
    timeline.tracks.flatMap fun track => (track.survey timeline.totalFrames).1

end Timeline

end Montage
