import Mathlib.Data.Int.Notation
import Mathlib.Data.Nat.Notation
import Montage.Proofs.Graph.Label
import Montage.Proofs.Lists

/-!
# Which clips and tracks contribute

A clip contributes when it gives picture or sound, a track when it gives sound. With the frames they
are the media of a graph, one for each input file (`inputs_eq`). The pictures that are laid over the
frames and the sounds that are heard are chosen among them, each in the order of the timeline and
under the number of its own input (`overlays_of_clips`, `sounds_of_voices`).
-/

namespace Montage

/-! ## Clips and tracks -/

namespace Clip

variable (overlaid : Bool) (clip : Clip)

def frames : ℤ :=
  clip.duration.getD 0

def givesPicture : Bool :=
  overlaid && clip.frames ≠ 0

def givesSound : Bool :=
  clip.includeAudio && clip.frames ≠ 0

def contribution : ClipSource where
  clip := clip
  duration := clip.frames
  overlaid := overlaid
  heard := clip.includeAudio

/-- A clip is a source when it gives a picture or a sound. -/
theorem source?_eq : clip.source? overlaid =
    if clip.givesPicture overlaid || clip.givesSound then some (clip.contribution overlaid)
    else none := by
  by_cases hzero : clip.frames = 0
  · have hnone : clip.source? overlaid = none := congrArg Prod.snd (if_pos hzero)
    simp [hnone, givesPicture, givesSound, hzero]
  · have hsource : clip.survey overlaid = _ := if_neg hzero
    have hgives : (clip.givesPicture overlaid || clip.givesSound) =
        (overlaid || clip.includeAudio) := by
      simp [givesPicture, givesSound, hzero]
    rw [source?, hsource, hgives, ← Bool.not_or]
    cases overlaid || clip.includeAudio <;> rfl

end Clip

namespace Track

variable (totalFrames : ℤ) (track : Track)

/-- The number of frames of a track. Without a duration it lasts to the end of the timeline. -/
def frames : ℤ :=
  track.duration.getD (max (totalFrames - track.start) 0)

def givesSound : Bool :=
  0 < track.frames totalFrames

def contribution : TrackSource where
  track := track
  duration := track.frames totalFrames

/-- A track is a source when it gives a sound. -/
theorem source?_eq : track.source? totalFrames =
    if track.givesSound totalFrames then some (track.contribution totalFrames) else none := by
  rw [givesSound]
  by_cases hpos : 0 < track.frames totalFrames
  · rw [if_pos (decide_eq_true hpos)]
    exact congrArg Prod.snd (if_neg (Int.not_le.mpr hpos))
  · rw [if_neg (by simpa using hpos)]
    exact congrArg Prod.snd (if_pos (Int.not_lt.mp hpos))

end Track

/-! ## Media -/

/-- What an input file of a graph holds: the frames, a clip, or a track. -/
inductive Medium where
  | frames
  | clip (clip : Clip)
  | track (track : Track)

namespace Medium

def kind : Medium → InputKind
  | frames => .frames
  | clip _ => .clip
  | track _ => .audio

def path : Medium → String
  | frames => "pipe:0"
  | clip own => own.path
  | track own => own.source.path

def sourceId : Medium → Option String
  | frames => none
  | clip own => own.id
  | track own => own.id

def input (medium : Medium) (index : ℕ) : Input where
  index := index
  kind := medium.kind
  path := medium.path
  sourceId := medium.sourceId

end Medium

namespace Timeline

variable (timeline : Timeline) (encoding : Encoding)

def contributingClips : List Clip :=
  timeline.clips.filter fun clip => clip.givesPicture encoding.overlayClips || clip.givesSound

def overlaidClips : List Clip :=
  timeline.clips.filter (Clip.givesPicture encoding.overlayClips)

def heardClips : List Clip :=
  timeline.clips.filter Clip.givesSound

def heardTracks : List Track :=
  timeline.tracks.filter (Track.givesSound timeline.totalFrames)

/-- The frames, and all that contributes to them, in the order of the input files. -/
def media : List Medium :=
  .frames :: ((timeline.contributingClips encoding).map .clip ++ timeline.heardTracks.map .track)

/-- All that is heard: clips and then tracks, each in the order of the timeline. -/
def voices : List Medium :=
  timeline.heardClips.map .clip ++ timeline.heardTracks.map .track

theorem clipSources_eq : timeline.clipSources encoding =
    (timeline.contributingClips encoding).map (Clip.contribution encoding.overlayClips) :=
  filterMap_eq_map_filter (Clip.source?_eq encoding.overlayClips) timeline.clips

theorem trackSources_eq : timeline.trackSources =
    timeline.heardTracks.map (Track.contribution timeline.totalFrames) :=
  filterMap_eq_map_filter (Track.source?_eq timeline.totalFrames) timeline.tracks

/-- The clips that contribute are numbered from 1, after the frames. -/
theorem clipInputs_eq : timeline.clipInputs encoding =
    ((timeline.contributingClips encoding).zipIdx 1).map fun (clip, index) =>
      (clip.contribution encoding.overlayClips, index) := by
  rw [clipInputs, clipSources_eq, List.zipIdx_map]
  rfl

/-- The tracks that are heard are numbered after the clips. -/
theorem trackInputs_eq : timeline.trackInputs encoding =
    (timeline.heardTracks.zipIdx (1 + (timeline.contributingClips encoding).length)).map
      fun (track, index) => (track.contribution timeline.totalFrames, index) := by
  rw [trackInputs, trackSources_eq, clipSources_eq, List.length_map, List.zipIdx_map]
  rfl

/-- **The input files are the media**, numbered in their order. -/
theorem inputs_eq : timeline.inputs encoding =
    (timeline.media encoding).zipIdx.map fun (medium, index) => medium.input index := by
  rw [inputs, media, List.zipIdx_cons, List.map_cons, List.zipIdx_append, List.map_append,
    clipInputs_eq, trackInputs_eq, List.zipIdx_map, List.zipIdx_map, List.map_map, List.map_map,
    List.map_map, List.map_map, List.length_map, Nat.zero_add]
  rfl

/-! ### Places among the media -/

/-- A clip is found among the media under its number. -/
theorem media_getElem?_clip {clip : Clip} {index : ℕ}
    (h : (clip, index) ∈ (timeline.contributingClips encoding).zipIdx 1) :
    (timeline.media encoding)[index]? = some (.clip clip) := by
  obtain ⟨hle, hget⟩ := List.mk_mem_zipIdx_iff_le_and_getElem?_sub.mp h
  obtain ⟨place, rfl⟩ := Nat.exists_eq_add_of_le' hle
  rw [Nat.add_sub_cancel] at hget
  obtain ⟨hlt, -⟩ := List.getElem?_eq_some_iff.mp hget
  rw [media, List.getElem?_cons_succ, List.getElem?_append_left (by rwa [List.length_map]),
    List.getElem?_map, hget]
  rfl

/-- A track is found among the media under its number. -/
theorem media_getElem?_track {track : Track} {index : ℕ}
    (h : (track, index) ∈
      timeline.heardTracks.zipIdx (1 + (timeline.contributingClips encoding).length)) :
    (timeline.media encoding)[index]? = some (.track track) := by
  obtain ⟨hle, hget⟩ := List.mk_mem_zipIdx_iff_le_and_getElem?_sub.mp h
  obtain ⟨place, rfl⟩ := Nat.exists_eq_add_of_le hle
  rw [Nat.add_sub_cancel_left] at hget
  rw [media, Nat.add_comm 1, Nat.add_right_comm, List.getElem?_cons_succ,
    List.getElem?_append_right (by rw [List.length_map]; omega), List.length_map,
    Nat.add_sub_cancel_left, List.getElem?_map, hget]
  rfl

/-! ### Pictures and sounds -/

/-- Of the clips that contribute, those that are laid over are the ones with a picture. -/
theorem contributingClips_filter_overlaid :
    ((timeline.contributingClips encoding).filter fun _ => encoding.overlayClips) =
      timeline.overlaidClips encoding := by
  -- a clip with a picture contributes, so both lists are filters of all clips by the same test
  rw [contributingClips, overlaidClips, List.filter_filter]
  apply List.filter_congr
  intro clip _
  rw [Clip.givesPicture, Clip.givesSound]
  cases encoding.overlayClips <;> simp +contextual

/-- Of the clips that contribute, those with sound are the ones that are heard. -/
theorem contributingClips_filter_heard :
    (timeline.contributingClips encoding).filter Clip.includeAudio = timeline.heardClips := by
  rw [contributingClips, heardClips, List.filter_filter]
  apply List.filter_congr
  intro clip _
  rw [Clip.givesPicture, Clip.givesSound]
  cases clip.includeAudio <;> simp +contextual

/-- The pictures are those of the overlaid clips, in their order, each under its own number. -/
theorem overlays_of_clips :
    List.Forall₂ (fun clip entry => entry.1 = clip.contribution encoding.overlayClips ∧
        (timeline.media encoding)[entry.2]? = some (.clip clip))
      (timeline.overlaidClips encoding) (timeline.overlays encoding) := by
  rw [overlays, clipInputs_eq, List.filter_map, List.forall₂_map_right_iff,
    ← contributingClips_filter_overlaid]
  refine (forall₂_zipIdx_filter _ 1 _).imp ?_
  rintro clip ⟨_, index⟩ ⟨hmem, rfl, -⟩
  exact ⟨rfl, timeline.media_getElem?_clip encoding hmem⟩

/-- The sound of a medium, read from the pad of its own number. -/
inductive SoundOf : Medium → Chain.Sound → Prop
  | clip {clip : Clip} {index : ℕ} (hindex : (timeline.media encoding)[index]? = some (.clip clip))
      (haudio : clip.includeAudio) : SoundOf (.clip clip)
        ⟨audioPad index, "a_embed",
          (clip.contribution encoding.overlayClips).soundFilters timeline.fps⟩
  | track {track : Track} {index : ℕ}
      (hindex : (timeline.media encoding)[index]? = some (.track track)) : SoundOf (.track track)
        ⟨audioPad index, "a_track",
          (track.contribution timeline.totalFrames).soundFilters timeline.fps⟩

/-- The sounds are those of all voices, in their order, each under its own number. -/
theorem sounds_of_voices :
    List.Forall₂ (timeline.SoundOf encoding) timeline.voices (timeline.sounds encoding) := by
  rw [voices, sounds, clipInputs_eq, trackInputs_eq, ← timeline.contributingClips_filter_heard encoding]
  -- the clips are filtered after they have been numbered, which keeps their numbers
  refine List.rel_append ?_ ?_
  · rw [List.filter_map, List.map_map, List.forall₂_map_right_iff, List.forall₂_map_left_iff]
    refine (forall₂_zipIdx_filter _ 1 _).imp ?_
    rintro clip ⟨_, index⟩ ⟨hmem, rfl, haudio⟩
    exact .clip (timeline.media_getElem?_clip encoding hmem) haudio
  · rw [List.map_map, List.forall₂_map_right_iff, List.forall₂_map_left_iff]
    -- all tracks are heard, so the filter on them keeps everything
    have hall := forall₂_zipIdx_filter timeline.heardTracks
      (1 + (timeline.contributingClips encoding).length) fun _ => true
    rw [List.filter_true, List.filter_true] at hall
    refine hall.imp ?_
    rintro track ⟨_, index⟩ ⟨hmem, rfl, -⟩
    exact .track (timeline.media_getElem?_track encoding hmem)

end Timeline

end Montage
