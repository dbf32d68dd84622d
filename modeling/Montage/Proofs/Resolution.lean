import Mathlib.Data.Int.Notation
import Montage.Proofs.Content.Sound
import Montage.Proofs.Schema.Model
import Montage.Proofs.Sync

/-!
# What has been resolved is sound

The resolution of a valid composition places clips and tracks without checking them again. They are
valid all the same: every frame that it computes is checked where it is placed, and a span that
could be negative is cut off at zero. So the timeline that comes out could have been read
(`Composition.resolve_sound`), and on it every clip has a name and every clip and track a duration.
-/

namespace Montage

/-! ## Tracks -/

namespace Track

variable {anchors : Table Anchor} {strict : Bool} {track : Track}

/-- A track of a resolved timeline: it is valid, has a duration, and refers to no anchor that could
be used, or to none at all after a strict pass. -/
structure Settled (anchors : Table Anchor) (strict : Bool) (track : Track) : Prop
    extends track.Valid where
  lasts : ∃ frames, track.duration = some frames ∧ 0 ≤ frames
  released : track.Released anchors strict

/-- A duration that is filled in does not move a track, so it stays settled. -/
theorem fillDuration_settled (totalFrames : ℤ) (h : track.Valid)
    (hreleased : track.Released anchors strict) :
    (track.fillDuration totalFrames).Settled anchors strict := by
  have hframes : 0 ≤ track.duration.getD (max (totalFrames - track.start) 0) := by
    cases hduration : track.duration with
    | none => exact Int.le_max_right _ _
    | some frames => exact h.duration frames hduration
  refine ⟨{ h with duration := ?_ }, ⟨_, rfl, hframes⟩, hreleased⟩
  rintro _ ⟨⟩
  exact hframes

end Track

/-- The track of the background music is valid. -/
theorem Music.track_valid {totalFrames : ℤ} (htotal : 0 ≤ totalFrames) {music : Music}
    (h : music.Valid) : (music.track totalFrames).Valid where
  path := h.path
  start := Int.le_refl 0
  duration := by
    rintro _ ⟨⟩
    exact htotal
  trimStart := Int.le_refl 0
  trimEnd := nofun
  volume := h.volume
  fadeIn := h.fadeIn
  fadeOut := h.fadeOut

/-! ## Timelines -/

namespace Composition

variable {extra : Table Anchor} {strict : Bool} {composition : Composition}

theorem Valid.allTracks (h : composition.Valid) :
    ∀ track ∈ composition.allTracks, track.Valid := by
  intro track htrack
  rcases List.mem_append.mp htrack with hmusic | hown
  · rw [Option.mem_toList, Option.map_eq_some_iff] at hmusic
    obtain ⟨music, hmusic, rfl⟩ := hmusic
    exact Music.track_valid h.lastStop_nonneg (h.music music hmusic)
  · exact h.tracks track hown

/-- All anchors of a resolution are valid, from wherever they come. -/
theorem Valid.anchorTable (h : composition.Valid) (hextra : ∀ entry ∈ extra, entry.2.Valid)
    {content : Content} (hcontent : content.Sound) :
    ∀ entry ∈ composition.anchorTable extra content, entry.2.Valid := by
  intro entry hentry
  rcases Table.mem_merge hentry with hentry | hentry
  · rcases Table.mem_merge hentry with hentry | hentry
    · exact hcontent.anchors entry hentry
    · exact h.anchors entry hentry
  · exact hextra entry hentry

section Resolved

variable {timeline : Timeline} (h : composition.Valid) (hextra : ∀ entry ∈ extra, entry.2.Valid)
  (htimeline : composition.resolve extra strict = .ok timeline)

include h htimeline

theorem tracks_settled : ∀ track ∈ timeline.tracks, track.Settled timeline.anchors strict := by
  obtain ⟨content, tracks, -, htracks, rfl⟩ := resolve_eq_ok htimeline
  rw [List.forall_mem_map]
  intro track htrack
  obtain ⟨hvalid, hreleased⟩ := Track.resolveAll_valid h.allTracks htracks track htrack
  exact Track.fillDuration_settled _ hvalid hreleased

theorem clips_placed : ∀ clip ∈ timeline.clips, clip.Placed := by
  obtain ⟨content, tracks, hcontent, -, rfl⟩ := resolve_eq_ok htimeline
  exact (h.content hcontent).clips

include hextra

/-- A resolved timeline is sound. -/
theorem sound_of_resolve : timeline.Sound := by
  have hsettled := tracks_settled h htimeline
  have hplaced := clips_placed h htimeline
  obtain ⟨content, tracks, hcontent, -, rfl⟩ := resolve_eq_ok htimeline
  refine ⟨⟨h.fps, h.width, h.height, h.lastStop_nonneg, ?_, ?_, ?_, ?_⟩, h.assembled⟩
  · exact fun scene hscene => (h.assembled scene hscene).toValid
  · exact fun track htrack => (hsettled track htrack).toValid
  · exact fun clip hclip => (hplaced clip hclip).toValid
  · exact h.anchorTable hextra (h.content hcontent)

end Resolved

/-- **The timeline of a valid composition is sound.** It could have been read, so all that is on it
keeps to its bounds; its tracks are settled against its anchors, its clips are placed. -/
theorem resolve_sound (h : composition.Valid) (hextra : ∀ entry ∈ extra, entry.2.Valid)
    {timeline : Timeline} (htimeline : composition.resolve extra strict = .ok timeline) :
    Timeline.ofData timeline.toData.dropNulls = .ok timeline ∧
      (∀ track ∈ timeline.tracks, track.Settled timeline.anchors strict) ∧
      (∀ clip ∈ timeline.clips, clip.Placed) ∧
      ∀ entry ∈ timeline.anchors, entry.2.Valid := by
  have hsound := sound_of_resolve h hextra htimeline
  exact ⟨(Timeline.restores hsound).read, tracks_settled h htimeline, clips_placed h htimeline,
    hsound.anchors⟩

/-- A scene of 90 frames with an anchor at frame 30, and two tracks: one from that anchor to one
that is given by the caller, and one from an anchor that nobody has. -/
def cued : Data :=
  .object [
    ("scenes", .list [
      .object [
        ("duration_in_frames", .int 90),
        ("children", .list [
          .object [("kind", .text "anchor"), ("anchor_id", .text "beat"), ("start_frame", .int 30)],
          .object [
            ("kind", .text "embedded_video"),
            ("video", .object [("path", .text "a.mp4")])]])]]),
    ("audio_tracks", .list [
      .object [
        ("source", .object [("path", .text "hit.wav")]),
        ("sync", .object [
          ("sync_start_anchor", .text "beat"), ("sync_end_anchor", .text "drop")])],
      .object [
        ("source", .object [("path", .text "hum.wav")]),
        ("start_frame", .int 10),
        ("sync", .object [("sync_start_anchor", .text "nowhere")])]])]

/-- The anchor that the caller gives. -/
def cue : Table Anchor := .ofEntries [("drop", ⟨60, some 75⟩)]

/-- The first track lasts from the one anchor to the other, the second keeps its reference and lasts
to the end. -/
theorem resolve_sound_cued : ∃ composition timeline, Composition.ofData cued = .ok composition ∧
    composition.resolve cue false = .ok timeline ∧
      (∀ track ∈ timeline.tracks, track.Settled timeline.anchors false) ∧
        timeline.tracks.map (fun track => (track.start, track.duration, track.sync.isSome)) =
          [(30, some 45, false), (10, some 80, true)] := by
  obtain ⟨composition, timeline, hread, htimeline, htracks⟩ :
      ∃ composition timeline, Composition.ofData cued = .ok composition ∧
        composition.resolve cue false = .ok timeline ∧
          timeline.tracks.map (fun track => (track.start, track.duration, track.sync.isSome)) =
            [(30, some 45, false), (10, some 80, true)] :=
    ⟨_, _, rfl, rfl, rfl⟩
  -- the only anchor from outside is the one of the cue
  have hextra : ∀ entry ∈ cue, entry.2.Valid := by
    intro entry hentry
    obtain rfl := List.mem_singleton.mp (Table.mem_ofEntries hentry)
    exact ⟨by decide, by simp⟩
  obtain ⟨-, hsettled, -, -⟩ :=
    resolve_sound (Composition.ofData_ensures cued composition hread) hextra htimeline
  exact ⟨composition, timeline, hread, htimeline, hsettled, htracks⟩

end Composition

end Montage