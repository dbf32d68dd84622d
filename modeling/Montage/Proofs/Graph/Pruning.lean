import Mathlib.Data.Int.Notation
import Montage.Proofs.Graph.Steps
import Montage.Resolution

/-!
# Media that contribute nothing

A compilation looks at a timeline through the size and rate of its frames, its input files, the
pictures that are laid over the frames and the sounds that are heard (`Graph.compile_congr`). Clips
that give neither picture nor sound and tracks of no length show in none of these, and a track whose
duration is open sounds like one that is written to last to the end of the timeline. So they can be
removed and filled in before the compilation (`Graph.compile_pruned`).
-/

namespace Montage

/-- A compilation depends on a timeline through what contributes to it alone. -/
theorem Graph.compile_congr {first second : Timeline} {encoding : Encoding}
    (hfps : first.fps = second.fps) (hwidth : first.width = second.width)
    (hheight : first.height = second.height)
    (hinputs : first.inputs encoding = second.inputs encoding)
    (hoverlays : first.overlays encoding = second.overlays encoding)
    (hsounds : first.sounds encoding = second.sounds encoding) :
    Graph.compile first encoding = Graph.compile second encoding := by
  -- a timeline is read by the steps in a few fields, which are compared one after the other
  have hframes : first.frameStep encoding = second.frameStep encoding := by
    rw [Timeline.frameStep, Timeline.frameStep, hfps, hoverlays]
  have hpicture : first.pictureStep = second.pictureStep := by
    funext source input before
    rw [Timeline.pictureStep, Timeline.pictureStep, hfps]
  have hoverlay : first.overlayStep = second.overlayStep := by
    funext source before
    rw [Timeline.overlayStep, Timeline.overlayStep, hfps]
  have hsteps : first.steps encoding = second.steps encoding := by
    rw [Timeline.steps, Timeline.steps, Timeline.pictureSteps, Timeline.pictureSteps,
      Timeline.pictureLabels, Timeline.pictureLabels, hframes, hpicture, hoverlay, hoverlays,
      hsounds]
  have hbuild : first.build encoding = second.build encoding := by
    rw [Timeline.build_eq, Timeline.build_eq, hsteps, hinputs, Timeline.videoOut, Timeline.videoOut,
      hoverlays, Timeline.audioOut, Timeline.audioOut, hsounds]
  rw [Graph.compile_eq, Graph.compile_eq, Timeline.checkEncoding, Timeline.checkEncoding, hfps, hwidth,
    hheight, hbuild]

namespace Timeline

variable (encoding : Encoding) (timeline : Timeline)

/-- The timeline without what contributes nothing: clips of no frames and then clips that give
neither picture nor sound are removed, and tracks of no frames when all durations are filled in. -/
def pruned : Timeline :=
  { timeline with
    clips := (timeline.clips.filter fun clip => clip.duration ≠ none ∧ clip.duration ≠ some 0).filter
      fun clip => encoding.overlayClips || clip.includeAudio
    tracks := (timeline.tracks.map (Track.fillDuration timeline.totalFrames)).filter
      fun track => track.duration ≠ some 0 }

/-! ## Clips -/

/-- A clip that is removed is not among the sources. -/
theorem clipSources_pruned :
    (timeline.pruned encoding).clipSources encoding = timeline.clipSources encoding := by
  show ((timeline.clips.filter _).filter _).filterMap _ = timeline.clips.filterMap _
  rw [List.filter_filter, List.filterMap_filter]
  congr 1
  funext clip
  rcases hduration : clip.duration with _ | frames
  · simp [Clip.source?, Clip.survey, hduration]
  · by_cases hzero : frames = 0
    · simp [Clip.source?, Clip.survey, hduration, hzero]
    · cases hpicture : encoding.overlayClips <;> cases haudio : clip.includeAudio <;>
        simp [Clip.source?, Clip.survey, hduration, hzero, haudio]

/-- Pruning keeps all clips that contribute, at their places. -/
theorem clipInputs_pruned :
    (timeline.pruned encoding).clipInputs encoding = timeline.clipInputs encoding := by
  rw [clipInputs, clipInputs, clipSources_pruned]

end Timeline

/-! ## Tracks -/

namespace TrackSource

/-- The source of a track whose duration has been filled in. -/
def filled (totalFrames : ℤ) (source : TrackSource) : TrackSource :=
  { source with track := source.track.fillDuration totalFrames }

/-- The duration of a track is not looked at again once its source is known. -/
@[simp] theorem soundFilters_filled (fps totalFrames : ℤ) (source : TrackSource) :
    (source.filled totalFrames).soundFilters fps = source.soundFilters fps := rfl

end TrackSource

namespace Timeline

variable (encoding : Encoding) (timeline : Timeline)

/-- The tracks that are left are the sources from before, with their durations filled in. -/
theorem trackSources_pruned : (timeline.pruned encoding).trackSources =
    timeline.trackSources.map (TrackSource.filled timeline.totalFrames) := by
  show ((timeline.tracks.map _).filter _).filterMap (Track.source? timeline.totalFrames) =
    (timeline.tracks.filterMap _).map _
  rw [List.filterMap_filter, List.filterMap_map, List.map_filterMap]
  congr 1
  funext track
  by_cases hnone : track.duration.getD (max (timeline.totalFrames - track.start) 0) ≤ 0
  · simp [Track.source?, Track.survey, Track.fillDuration, hnone]
  · have hzero : track.duration.getD (max (timeline.totalFrames - track.start) 0) ≠ 0 := by omega
    simp [Track.source?, Track.survey, Track.fillDuration, TrackSource.filled, hnone, hzero]

/-- Pruning keeps all tracks that are heard, with their durations filled in. -/
theorem trackInputs_pruned : (timeline.pruned encoding).trackInputs encoding =
    (timeline.trackInputs encoding).map fun (source, index) =>
      (source.filled timeline.totalFrames, index) := by
  rw [trackInputs, trackInputs, trackSources_pruned, clipSources_pruned, List.zipIdx_map]
  rfl

theorem inputs_pruned : (timeline.pruned encoding).inputs encoding = timeline.inputs encoding := by
  rw [inputs, inputs, clipInputs_pruned, trackInputs_pruned, List.map_map]
  rfl

/-- The sounds of the pruned timeline are those of the timeline. -/
theorem sounds_pruned : (timeline.pruned encoding).sounds encoding = timeline.sounds encoding := by
  rw [sounds, sounds, clipInputs_pruned, trackInputs_pruned, List.map_map]
  simp only [Function.comp_def, TrackSource.soundFilters_filled]
  rfl

end Timeline

/-- **What contributes nothing leaves no trace in a graph**, and the durations that a compilation
assumes for open tracks are those that a resolution fills in. -/
theorem Graph.compile_pruned (timeline : Timeline) (encoding : Encoding) :
    Graph.compile (timeline.pruned encoding) encoding = Graph.compile timeline encoding := by
  have hoverlays : (timeline.pruned encoding).overlays encoding = timeline.overlays encoding := by
    rw [Timeline.overlays, Timeline.overlays, Timeline.clipInputs_pruned]
  exact @compile_congr (timeline.pruned encoding) timeline encoding rfl rfl rfl
    (timeline.inputs_pruned encoding) hoverlays (timeline.sounds_pruned encoding)

end Montage
