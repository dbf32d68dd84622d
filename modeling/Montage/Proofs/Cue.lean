import Mathlib.Data.Int.Notation
import Mathlib.Data.Nat.Notation
import Montage.Proofs.Clock
import Montage.Proofs.Command
import Montage.Proofs.Content.Anchors
import Montage.Proofs.Graph.Pruning
import Montage.Proofs.Sync

/-!
# From anchors to delays

A track that names an anchor goes through all stages of a compilation: the anchor is looked up in
the tables of the caller, the manifest and the composition and then in the scenes
(`Manifest.anchor?`), the track is moved to it (`Track.Follows`), and its sound is delayed to the
frame where it then starts (`Graph.Plays`). A track that has become empty leaves no trace in the
graph (`Graph.compile_withoutTrack`). `Manifest.tracks_follow_anchors` puts these together.
-/

namespace Montage

open Ledger

/-! ## Tracks at their anchors -/

section Following

variable {anchors : Table Anchor} {sync : Sync} {name : String} {anchor : Anchor}

theorem Sync.startFrame?_eq_some (hname : sync.startAnchor = some name)
    (hanchor : Table.get? name anchors = some anchor) :
    sync.startFrame? anchors = some (anchor.start + sync.startOffset) :=
  startFrame?_eq_some_iff.mpr ⟨name, hname, anchor, hanchor, rfl⟩

theorem Sync.stopFrame?_eq_some (hname : sync.endAnchor = some name)
    (hanchor : Table.get? name anchors = some anchor) {stop : ℤ} (hstop : anchor.stop = some stop) :
    sync.stopFrame? anchors = some (stop + sync.endOffset) :=
  stopFrame?_eq_some_iff.mpr ⟨name, hname, anchor, hanchor, stop, hstop, rfl⟩

/-- A track is where the anchors that it names have put it, and is otherwise as it was. -/
structure Track.Follows (anchor? : String → Option Anchor) (sync : Sync) (track own : Track) :
    Prop where
  start : ∀ name ∈ sync.startAnchor, ∀ anchor ∈ anchor? name,
    track.start = anchor.start + sync.startOffset
  duration : ∀ name ∈ sync.endAnchor, ∀ anchor ∈ anchor? name, ∀ stop ∈ anchor.stop,
    track.duration = some (stop + sync.endOffset - track.start)
  loop : ∀ name ∈ sync.endAnchor, ∀ anchor ∈ anchor? name, ∀ stop ∈ anchor.stop,
    sync.behavior = .loopToMatch → track.loop = true
  kept : track =
    { own with start := track.start, duration := track.duration, loop := track.loop, sync := none }

namespace Track

variable {strict : Bool} {own track : Track}

/-- A track that is moved follows the anchors that its references name. -/
theorem follows_moved :
    (own.moved sync (own.startFrame anchors sync) (sync.stopFrame? anchors)).Follows
      (fun name => Table.get? name anchors) sync own where
  start := by
    intro name hname anchor hanchor
    show own.startFrame anchors sync = _
    rw [startFrame, Sync.startFrame?_eq_some hname hanchor]
    rfl
  -- a duration is filled in only when the end reference can be used
  duration := by
    intro name hname anchor hanchor stop hstop
    rw [moved, Sync.stopFrame?_eq_some hname hanchor hstop]
    rfl
  loop := by
    intro name hname anchor hanchor stop hstop hbehavior
    simp [moved, Sync.stopFrame?_eq_some hname hanchor hstop, hbehavior]
  kept := rfl

/-- A track whose start anchor is there follows its anchors when it is resolved. -/
theorem follows_of_resolveSync (hsync : own.sync = some sync) (hname : sync.startAnchor = some name)
    (hanchor : Table.get? name anchors = some anchor)
    (h : resolveSync anchors strict own = .ok track) :
    track.Follows (fun name => Table.get? name anchors) sync own := by
  have hlisted : strict = true → sync.Usable anchors := by
    rintro rfl
    exact usable_of_strict hsync h
  -- one reference can be used, so the track is placed whatever the other is
  have husable : ¬sync.Unusable anchors := by
    rw [Sync.unusable_iff, Sync.startFrame?_eq_some hname hanchor]
    simp
  rw [resolveSync_of_usable hsync hlisted husable, place_eq_ok_iff] at h
  obtain ⟨-, -, rfl⟩ := h
  exact follows_moved

/-- A duration that is filled in is not one that an anchor gives. -/
theorem Follows.fillDuration {anchor? : String → Option Anchor}
    (h : track.Follows anchor? sync own) (totalFrames : ℤ) :
    (track.fillDuration totalFrames).Follows anchor? sync own where
  start := h.start
  duration := by
    intro name hname anchor hanchor stop hstop
    show some _ = some _
    rw [h.duration name hname anchor hanchor stop hstop]
    rfl
  loop := h.loop
  kept := congrArg (fun other : Track => other.fillDuration totalFrames) h.kept

end Track

end Following

/-! ## Tracks in a graph -/

namespace Timeline

variable (timeline : Timeline) (encoding : Encoding) {place : ℕ} {track : Track}

/-- The number of the input file of the track at a place, which comes after those of the clips and
of the tracks before it. -/
def trackIndex (place : ℕ) : ℕ :=
  1 + (timeline.contributingClips encoding).length +
    (timeline.tracks.take place).countP (Track.givesSound timeline.totalFrames)

/-- The timeline without the track at a place. -/
def withoutTrack (place : ℕ) : Timeline :=
  { timeline with tracks := timeline.tracks.eraseIdx place }

/-- The input file with the number of a track holds that track. -/
theorem media_trackIndex (htrack : timeline.tracks[place]? = some track)
    (hgives : track.givesSound timeline.totalFrames) :
    (timeline.media encoding)[timeline.trackIndex encoding place]? = some (.track track) := by
  rw [media_getElem?_eq_track_iff, List.mk_mem_zipIdx_iff_le_and_getElem?_sub, trackIndex,
    Nat.add_sub_cancel_left]
  exact ⟨Nat.le_add_right _ _, getElem?_filter_of_chosen htrack hgives⟩

/-- A track that is not heard is not among the sources, so it makes no difference to them. -/
theorem trackSources_withoutTrack (htrack : timeline.tracks[place]? = some track)
    (hgives : ¬track.givesSound timeline.totalFrames) :
    (timeline.withoutTrack place).trackSources = timeline.trackSources := by
  rw [trackSources_eq, trackSources_eq, heardTracks, heardTracks]
  exact congrArg _ (filter_eraseIdx_of_not_chosen htrack hgives)

end Timeline

namespace Graph

/-- A graph plays a track from a file with a number: the file is among its inputs, its sound is
read, and the chain that reads it ends with the delay to the start of the track. -/
structure Plays (graph : Graph) (fps : ℤ) (index : ℕ) (track : Track) : Prop where
  input : graph.inputs[index]? = some ⟨index, .audio, track.source.path, track.id⟩
  read : ∃ stage ∈ graph.stages, audioPad index ∈ stage.inputs
  delayed : ∀ stage ∈ graph.stages, audioPad index ∈ stage.inputs →
    ∃ filter delay, stage.filters.getLast? = some filter ∧
      filter.render = s!"adelay={delay}|{delay}" ∧
      delay = (1000 * track.start / fps + 1 / 2 : ℚ).floor

theorem render_delay (fps start : ℤ) : (Filter.delay fps start).render =
    s!"adelay={Clock.delay fps start}|{Clock.delay fps start}" := by
  simp [Filter.delay, Filter.plain, Filter.render, Argument.render, String.append_assoc]
  rfl

variable {timeline : Timeline} {encoding : Encoding} {graph : Graph} {place : ℕ} {track : Track}

/-- A track that gives sound is played by a chain of its own. -/
theorem plays_of_compile (h : Graph.compile timeline encoding = .ok graph)
    (htrack : timeline.tracks[place]? = some track)
    (hgives : track.givesSound timeline.totalFrames) :
    graph.Plays timeline.fps (timeline.trackIndex encoding place) track := by
  have hagree := Timeline.padsAgree_of_compile h
  have hmedium := timeline.media_trackIndex encoding htrack hgives
  refine ⟨?_, ?_, ?_⟩
  · rw [hagree.inputs_eq, List.getElem?_map, List.getElem?_zipIdx, hmedium]
    simp [Medium.input, Medium.kind, Medium.path, Medium.sourceId]
  · obtain ⟨stage, hstage, pad, hpad, hreads⟩ := hagree.exists_readsPad _ _ hmedium
    cases hreads with
    | track => exact ⟨stage, hstage, hpad⟩
  · intro stage hstage hread
    obtain ⟨index, medium, hother, hreads⟩ :=
      hagree.readsPad stage hstage _ hread (isPad_audioPad _)
    -- the pad has the number of the track alone, so it is the track's filters that the chain has
    generalize hpad : audioPad (timeline.trackIndex encoding place) = pad at hreads
    generalize stage.filters = filters at hreads ⊢
    cases hreads with
    | frames | picture => exact absurd hpad.symm (videoPad_ne_audioPad _ _)
    | sound =>
      rw [← audioPad_inj.mp hpad, hmedium] at hother
      cases hother
    | track hfilters =>
      rw [← audioPad_inj.mp hpad, hmedium] at hother
      cases hother
      obtain ⟨volume, -, hfilters⟩ := (TrackSource.soundFilters_eq_ok_iff _ _ _).mp hfilters
      refine ⟨Filter.delay timeline.fps track.start, _, ?_, render_delay _ _,
        Clock.delay_eq_floor _ _⟩
      rw [← hfilters, TrackSource.soundAt, List.getLast?_append]
      rfl

/-- A track that gives no sound can be left out of the timeline. -/
theorem compile_withoutTrack (htrack : timeline.tracks[place]? = some track)
    (hgives : ¬track.givesSound timeline.totalFrames) :
    Graph.compile (timeline.withoutTrack place) encoding = Graph.compile timeline encoding := by
  -- the tracks of a timeline are in a graph through the sources they give, and nowhere else
  have hsources := timeline.trackSources_withoutTrack htrack hgives
  have htracks : (timeline.withoutTrack place).trackInputs encoding =
      timeline.trackInputs encoding := by
    rw [Timeline.trackInputs, Timeline.trackInputs, hsources]
    rfl
  refine compile_congr rfl rfl rfl ?_ rfl ?_
  · rw [Timeline.inputs, Timeline.inputs, htracks]
    rfl
  · rw [Timeline.sounds, Timeline.sounds, htracks]
    rfl

end Graph

/-! ## Manifests -/

namespace Manifest

variable {settings : Settings} {extra : Table Anchor} {program : String} {strict : Bool}
  {manifest : Manifest} {command : Command}

/-- The anchor that a name stands for in a manifest when a caller has given others: that of the
caller, else that of the manifest, else one of the composition's own, else that of the last mark. -/
def anchor? (extra : Table Anchor) (manifest : Manifest) (name : String) : Option Anchor :=
  (Table.get? name extra).or <| (Table.get? name manifest.anchors).or <|
    (Table.get? name manifest.composition.anchors).or (manifest.composition.markedAnchor? name)

/-- The place on the timeline of a track of the composition, after the background music. -/
def trackPlace (manifest : Manifest) (place : ℕ) : ℕ :=
  manifest.composition.music.toList.length + place

/-- The tables are merged in the order in which the anchors are looked up. -/
theorem get?_anchors {content : Content} (h : manifest.composition.content = .ok content)
    (extra : Table Anchor) (name : String) :
    Table.get? name (manifest.composition.anchorTable (manifest.givenAnchors extra) content) =
      manifest.anchor? extra name := by
  rw [Composition.get?_anchorTable h, Composition.anchor?, givenAnchors, Table.get?_merge,
    Option.or_assoc, anchor?]

/-- A command is made from a timeline and its graph, so both are there when it is. -/
theorem compile_eq_ok (h : manifest.compile settings extra program strict = .ok command) :
    ∃ timeline graph, manifest.timeline extra strict = .ok timeline ∧
      Graph.compile timeline (manifest.resolvedEncoding settings.audioBitrate) = .ok graph ∧
      command = Command.ofGraph (Text.orElse program settings.encoder)
        (manifest.resolvedEncoding settings.audioBitrate) manifest.outputPath graph := by
  rw [compile_eq] at h
  obtain ⟨timeline, htimeline, h⟩ := bind_eq_ok_iff.mp h
  obtain ⟨graph, hgraph, rfl⟩ := (Command.ofTimeline_eq_ok_iff _ _ _ _ _).mp h
  exact ⟨timeline, graph, htimeline, hgraph, rfl⟩

/-- The tracks of a composition are on its timeline, each at its place. -/
theorem exists_track {timeline : Timeline}
    (htimeline : manifest.timeline extra strict = .ok timeline) {place : ℕ} {own : Track}
    (hown : manifest.composition.tracks[place]? = some own) {sync : Sync}
    (hsync : own.sync = some sync) {name : String} (hname : sync.startAnchor = some name)
    {anchor : Anchor} (hanchor : manifest.anchor? extra name = some anchor) :
    ∃ track frames, timeline.tracks[manifest.trackPlace place]? = some track ∧
      track.Follows (manifest.anchor? extra) sync own ∧ track.duration = some frames := by
  obtain ⟨content, tracks, hcontent, htracks, rfl⟩ := Composition.resolve_eq_ok htimeline
  have hget := get?_anchors hcontent extra
  have hall : manifest.composition.allTracks[manifest.trackPlace place]? = some own := by
    rw [trackPlace, Composition.allTracks]
    cases manifest.composition.music <;> simpa [Nat.add_comm] using hown
  rw [Track.resolveAll_eq, mapM_eq_ok_iff] at htracks
  obtain ⟨track, htrack, hresolved⟩ := exists_getElem?_of_forall₂ htracks hall
  -- what holds in the table of the resolution holds in the order of the tables
  rw [← hget] at hanchor
  have hfollows := Track.follows_of_resolveSync hsync hname hanchor hresolved
  simp only [hget] at hfollows
  have hfilled (totalFrames : ℤ) : (tracks.map (Track.fillDuration totalFrames))[
      manifest.trackPlace place]? = some (track.fillDuration totalFrames) := by
    rw [List.getElem?_map, htrack]
    rfl
  exact ⟨_, _, hfilled _, hfollows.fillDuration _, rfl⟩

/-- **A track that starts at an anchor is delayed to it**, in every command that a manifest is
compiled to. It follows the anchors that it names, and is played from the frame where it then
starts; if it has become empty, the graph is the same as without it. -/
theorem tracks_follow_anchors
    (hcompile : manifest.compile settings extra program strict = .ok command) :
    ∃ timeline graph, manifest.timeline extra strict = .ok timeline ∧
      Graph.compile timeline (manifest.resolvedEncoding settings.audioBitrate) = .ok graph ∧
      command = Command.ofGraph (Text.orElse program settings.encoder)
        (manifest.resolvedEncoding settings.audioBitrate) manifest.outputPath graph ∧
      ∀ place own sync name anchor, manifest.composition.tracks[place]? = some own →
        own.sync = some sync → sync.startAnchor = some name →
        manifest.anchor? extra name = some anchor →
        ∃ track frames, timeline.tracks[manifest.trackPlace place]? = some track ∧
          track.Follows (manifest.anchor? extra) sync own ∧ track.duration = some frames ∧
          (0 < frames → graph.Plays manifest.composition.fps
            (timeline.trackIndex (manifest.resolvedEncoding settings.audioBitrate)
              (manifest.trackPlace place)) track) ∧
          (frames ≤ 0 → Graph.compile (timeline.withoutTrack (manifest.trackPlace place))
            (manifest.resolvedEncoding settings.audioBitrate) = .ok graph) := by
  obtain ⟨timeline, graph, htimeline, hgraph, hcommand⟩ := compile_eq_ok hcompile
  refine ⟨timeline, graph, htimeline, hgraph, hcommand, ?_⟩
  intro place own sync name anchor hown hsync hname hanchor
  obtain ⟨track, frames, htrack, hfollows, hframes⟩ :=
    exists_track htimeline hown hsync hname hanchor
  -- the duration was filled in, so the track gives sound exactly when it is positive
  have hgives : track.givesSound timeline.totalFrames = decide (0 < frames) := by
    rw [Track.givesSound, Track.frames, hframes]
    rfl
  have hfps : timeline.fps = manifest.composition.fps := by
    obtain ⟨_, _, -, -, rfl⟩ := Composition.resolve_eq_ok htimeline
    rfl
  refine ⟨track, frames, htrack, hfollows, hframes, fun hpos => ?_, fun hempty => ?_⟩
  · rw [← hfps]
    exact Graph.plays_of_compile hgraph htrack (by rw [hgives]; exact decide_eq_true hpos)
  · rw [Graph.compile_withoutTrack htrack (by rw [hgives]; simpa using hempty), hgraph]

/-- A scene with two marks of one name, a track that starts five frames after them, and a track that
ends where it starts. -/
def refrain : Manifest where
  composition := {
    fps := 30
    width := 640
    height := 360
    scenes := [⟨"verse", 90, none, none, none, none,
      [.mark ⟨"beat", 30, none, false⟩, .mark ⟨"beat", 45, none, false⟩]⟩]
    defaultTransition := none
    tracks := [
      ⟨none, ⟨.file, "hit.wav"⟩, 0, none, 0, none, 1.0, 0, 0, false,
        some ⟨some "beat", some "drop", 5, 0, .loopToMatch⟩⟩,
      ⟨none, ⟨.file, "hum.wav"⟩, 0, none, 0, none, 1.0, 0, 0, false,
        some ⟨some "drop", some "drop", 0, -20, .stopWhenEnds⟩⟩]
    music := none
    anchors := .empty }
  outputPath := "out.mp4"
  encoding := none
  anchors := .ofEntries [("drop", ⟨60, some 75⟩)]

/-- The caller moves the end of the last anchor, which the first track lasts to from frame 50 on.
The second track is empty. -/
theorem tracks_follow_anchors_refrain : ∃ timeline graph track,
    refrain.timeline (.ofEntries [("drop", ⟨60, some 80⟩)]) false = .ok timeline ∧
      timeline.tracks.map (fun track => (track.start, track.duration, track.loop)) =
        [(50, some 30, true), (60, some 0, false)] ∧
      timeline.tracks[0]? = some track ∧ graph.Plays 30 1 track ∧
      Graph.compile (timeline.withoutTrack 1) (refrain.resolvedEncoding "192k") = .ok graph := by
  obtain ⟨command, hcompile⟩ : ∃ command, refrain.compile ⟨"ffmpeg", "192k", false, none⟩
      (.ofEntries [("drop", ⟨60, some 80⟩)]) "" false = .ok command := ⟨_, rfl⟩
  obtain ⟨timeline, graph, htimeline, -, -, htracks⟩ := tracks_follow_anchors hcompile
  cases htimeline
  obtain ⟨track, frames, htrack, -, hframes, hplays, -⟩ := htracks 0 _ _ _ _ rfl rfl rfl rfl
  obtain ⟨other, none, hother, -, hnone, -, hsilent⟩ := htracks 1 _ _ _ _ rfl rfl rfl rfl
  cases htrack
  cases hframes
  cases hother
  cases hnone
  exact ⟨_, graph, _, rfl, rfl, rfl, hplays (by decide), hsilent (by decide)⟩

end Manifest

end Montage
