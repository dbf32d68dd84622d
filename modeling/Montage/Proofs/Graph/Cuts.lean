import Mathlib.Data.Int.Notation
import Mathlib.Data.Nat.Notation
import Mathlib.Data.Rat.Init
import Montage.Proofs.Clock
import Montage.Proofs.Graph.Readers
import Montage.Proofs.Number.Order

/-!
# Cuts and fades

A track that loops is heard for as long as it lasts, another for no longer than its source has
(`Track.heardFrames`). Its filters cut exactly that many frames, and the fade at the end is measured
on them (`Track.Chain`).

Times are rounded to the millisecond when they are written. Up to 1000 frames a second, two frames
are a millisecond apart or more, so that a cut keeps something also as it is written
(`Filter.KeepsSome`).
-/

namespace Montage

open Ledger Layout

/-! ## Cuts that keep something -/

namespace Filter

/-- A filter that cuts at an end keeps something: it cuts at a start too, which is before the end as
the numbers are written. -/
def KeepsSome (filter : Filter) : Prop :=
  ∀ stop, ⟨some "end", stop⟩ ∈ filter.arguments → ∃ start first last,
    filter.arguments = [⟨some "start", start⟩, ⟨some "end", stop⟩] ∧
      readDecimal? start = some first ∧ readDecimal? stop = some last ∧ first < last

theorem keepsSome_of_key_ne {filter : Filter}
    (h : ∀ argument ∈ filter.arguments, argument.key ≠ some "end") : filter.KeepsSome :=
  fun _ hstop => absurd rfl (h _ hstop)

/-- Only a cut has an end, so that a filter without keys keeps what it is given. -/
theorem keepsSome_plain (name : String) (values : List String) : (plain name values).KeepsSome := by
  refine keepsSome_of_key_ne ?_
  simp [plain]

theorem keepsSome_fades (fps fadeIn fadeOut length : ℤ) :
    ∀ filter ∈ fades fps fadeIn fadeOut length, filter.KeepsSome := by
  intro filter hfilter
  refine keepsSome_of_key_ne ?_
  rw [fades, List.mem_append] at hfilter
  rcases hfilter with hfilter | hfilter <;> split at hfilter <;> simp at hfilter <;>
    simp +decide [hfilter, keyed]

/-- A trim keeps something when its bounds are a millisecond apart or more. -/
theorem keepsSome_trim (name : String) {start stop : ℚ} (hstart : 0 ≤ start)
    (hapart : 1000 * start + 1 ≤ 1000 * stop) (hexact : 1000 * stop < 10 ^ 28) :
    (ClipSource.trimFilter name start stop).KeepsSome := by
  intro text htext
  obtain rfl : text = secondsText stop := by
    simpa +decide [ClipSource.trimFilter, keyed] using htext
  obtain ⟨first, last, hfirst, hlast, hlt⟩ := Clock.exists_readDecimal?_lt hstart hapart hexact
  exact ⟨_, first, last, rfl, hfirst, hlast, hlt⟩

/-- Up to 1000 frames per second a frame lasts a millisecond or more, so any cut keeps one. -/
theorem keepsSome_cutFrames {fps first last : ℤ} (hfps : 0 < fps) (hslow : fps ≤ 1000)
    (hfirst : 0 ≤ first) (hlt : first < last) (hexact : 1000 * Clock.time fps last < 10 ^ 28) :
    (cutFrames fps first (some last)).KeepsSome := by
  have hstart : 0 ≤ Clock.time fps first :=
    div_nonneg (by exact_mod_cast hfirst) (by exact_mod_cast hfps.le)
  exact keepsSome_trim "atrim" hstart (Clock.time_apart hfps hslow hlt) hexact

end Filter

/-! ## Tracks -/

namespace Track

/-- How many of its frames a track is heard for: all of them when it loops, and otherwise no more
than its source has. -/
def heardFrames (frames : ℤ) (track : Track) : ℤ :=
  if track.loop then frames
  else
    match track.trimEnd with
    | none => frames
    | some stop => min frames (stop - track.trimStart)

/-- The frames at which a track is cut. -/
def ends (frames : ℤ) (track : Track) : List ℤ :=
  if track.loop then frames :: track.trimEnd.toList
  else [track.trimStart + track.heardFrames frames]

/-- Filters that cut a track to a length, one way for each kind of track. A track that loops and one
whose source is not used from its start have their timestamps reset after the part is taken. -/
inductive Cut (track : Track) (fps length : ℤ) : List Filter → Prop
  | repeated (hloop : track.loop = true) (hstart : track.trimStart = 0)
      (hstop : track.trimEnd = none) : Cut track fps length
        [Filter.loop, Filter.cutFrames fps 0 (some length)]
  | repeatedPart (hloop : track.loop = true)
      (hpart : 0 < track.trimStart ∨ track.trimEnd ≠ none) : Cut track fps length
        [Filter.cutFrames fps track.trimStart track.trimEnd, Filter.resetTimestamps,
          Filter.loop, Filter.cutFrames fps 0 (some length)]
  | once (hloop : track.loop = false) (hstart : track.trimStart = 0) : Cut track fps length
      [Filter.cutFrames fps 0 (some length)]
  | oncePart (hloop : track.loop = false) (hstart : 0 < track.trimStart) : Cut track fps length
      [Filter.cutFrames fps track.trimStart (some (track.trimStart + length)),
        Filter.resetTimestamps]

/-- The fade at the start of a sound. -/
inductive FadedIn (fps fadeIn : ℤ) : List Filter → Prop
  | absent (h : fadeIn = 0) : FadedIn fps fadeIn []
  | present (h : 0 < fadeIn) : FadedIn fps fadeIn
      [.keyed "afade" [("t", "in"), ("st", "0"), ("d", Clock.timeText fps fadeIn)]]

/-- The fade at the end of a sound of some length. It ends with the sound when it is not longer. -/
inductive FadedOut (fps fadeOut length : ℤ) : List Filter → Prop
  | absent (h : fadeOut = 0) : FadedOut fps fadeOut length []
  | present (h : 0 < fadeOut) {hold : ℤ} (hhold : hold = max (length - fadeOut) 0)
      (hends : fadeOut ≤ length → hold + fadeOut = length) : FadedOut fps fadeOut length
        [.keyed "afade" [("t", "out"), ("st", Clock.timeText fps hold),
          ("d", Clock.timeText fps fadeOut)]]

/-- The filters of a track that contributes some frames and is heard for a length: it is cut to that
length and faded, and then its volume is set and it is delayed. -/
structure Chain (track : Track) (fps frames length : ℤ) (filters : List Filter) : Prop where
  one_le : 1 ≤ length
  le : length ≤ frames
  parts : ∃ cut fadeIn fadeOut volume, filters = cut ++ fadeIn ++ fadeOut ++
      [.plain "volume" [decimalText volume 4], Filter.delay fps track.start] ∧
    track.Cut fps length cut ∧ FadedIn fps track.fadeIn fadeIn ∧
    FadedOut fps track.fadeOut length fadeOut ∧ rationalOf track.volume = .ok volume

variable {track : Track} {frames : ℤ}

/-- A track is heard for at least one of its frames, and for no more than it has. -/
theorem heardFrames_bounds (hvalid : track.Valid) (hframes : 0 < frames) :
    1 ≤ track.heardFrames frames ∧ track.heardFrames frames ≤ frames := by
  rw [heardFrames]
  split
  · omega
  · split
    · omega
    · have hlt := hvalid.trimEnd _ ‹_›
      omega

/-- Each cut keeps something when what is heard does not end too late. -/
theorem Cut.keepsSome {fps length : ℤ} {filters : List Filter} (h : track.Cut fps length filters)
    (hvalid : track.Valid) (hlength : length = track.heardFrames frames) (hframes : 0 < frames)
    (hfps : 0 < fps) (hslow : fps ≤ 1000)
    (hexact : ∀ last ∈ track.ends frames, 1000 * Clock.time fps last < 10 ^ 28) :
    ∀ filter ∈ filters, filter.KeepsSome := by
  have hpos := (heardFrames_bounds hvalid hframes).1
  have hstart := hvalid.trimStart
  have hreset : Filter.resetTimestamps.KeepsSome := Filter.keepsSome_plain _ _
  have hrepeat : Filter.loop.KeepsSome := Filter.keepsSome_of_key_ne (by decide +kernel)
  -- every cut that is made ends at one of the frames that are known to be exact
  have hcut {first last : ℤ} (hfirst : 0 ≤ first) (hlt : first < last)
      (hlast : last ∈ track.ends frames) : (Filter.cutFrames fps first (some last)).KeepsSome :=
    Filter.keepsSome_cutFrames hfps hslow hfirst hlt (hexact last hlast)
  rw [← hlength] at hpos
  rw [ends, ← hlength] at hcut
  cases h with
  | repeated hloop =>
    -- a track that is repeated is heard for all of its frames
    have hwhole : length = frames := by rw [hlength, heardFrames, if_pos hloop]
    have hlast := hcut le_rfl hframes (by rw [if_pos hloop]; exact List.mem_cons_self)
    simp [hrepeat, hwhole, hlast]
  | repeatedPart hloop =>
    have hwhole : length = frames := by rw [hlength, heardFrames, if_pos hloop]
    have hlast := hcut le_rfl hframes (by rw [if_pos hloop]; exact List.mem_cons_self)
    have hpart : (Filter.cutFrames fps track.trimStart track.trimEnd).KeepsSome := by
      cases hstop : track.trimEnd with
      | none => exact Filter.keepsSome_of_key_ne (by simp [Filter.cutFrames, Filter.keyed])
      | some stop => exact hcut hstart (hvalid.trimEnd stop hstop) (by simp [hloop, hstop])
    simp [hpart, hreset, hrepeat, hwhole, hlast]
  | once hloop hzero =>
    simpa using hcut le_rfl hpos (by simp [hloop, hzero])
  | oncePart hloop =>
    have hlast := hcut hstart (Int.lt_add_of_pos_right _ hpos)
      (by rw [hloop]; exact List.mem_singleton_self _)
    simp [hreset, hlast]

theorem exists_fades (fps : ℤ) {fadeIn fadeOut length : ℤ} (hin : 0 ≤ fadeIn) (hout : 0 ≤ fadeOut) :
    ∃ first last, Filter.fades fps fadeIn fadeOut length = first ++ last ∧
      FadedIn fps fadeIn first ∧ FadedOut fps fadeOut length last := by
  refine ⟨_, _, rfl, ?_, ?_⟩
  · by_cases hpos : 0 < fadeIn
    · rw [if_pos hpos]
      exact .present hpos
    · rw [if_neg hpos]
      exact .absent (by omega)
  · by_cases hpos : 0 < fadeOut
    · rw [if_pos hpos]
      exact .present hpos rfl (by omega)
    · rw [if_neg hpos]
      exact .absent (by omega)

end Track

namespace TrackSource

variable (fps : ℤ) (source : TrackSource)

/-- The length of a source is the number of frames that the track is heard for. -/
theorem length_eq : source.length = source.track.heardFrames source.duration := by
  rw [length, Track.heardFrames]
  rcases source.track.loop with _ | _ <;> rcases source.track.trimEnd with _ | stop
  case false.some =>
    show min _ stop - _ = min _ _
    omega
  all_goals rfl

/-- The filters of a track cut it to the length that it is heard for. -/
theorem cut_cutFilters (hvalid : source.track.Valid) :
    source.track.Cut fps source.length (source.cutFilters fps) := by
  have hnonneg := hvalid.trimStart
  rw [cutFilters]
  cases hloop : source.track.loop
  case true =>
    have hlength : source.length = source.duration := if_pos hloop
    rw [if_pos rfl, ← hlength]
    -- whether a part is taken is decided on a Boolean, while the cases are about the fields
    by_cases hpart : 0 < source.track.trimStart ∨ source.track.trimEnd ≠ none
    · have htrimmed : (0 < source.track.trimStart || source.track.trimEnd.isSome) = true := by
        simpa [Option.isSome_iff_ne_none] using hpart
      rw [if_pos htrimmed]
      exact .repeatedPart hloop hpart
    · rw [not_or, not_not] at hpart
      have hwhole : ¬(0 < source.track.trimStart || source.track.trimEnd.isSome) = true := by
        simpa [hpart.2] using hpart.1
      rw [if_neg hwhole]
      exact .repeated hloop (by omega) hpart.2
  case false =>
    rw [if_neg Bool.false_ne_true]
    by_cases hstart : 0 < source.track.trimStart
    · rw [if_pos hstart]
      exact .oncePart hloop hstart
    · have hzero : source.track.trimStart = 0 := by omega
      rw [if_neg hstart, hzero, zero_add]
      exact .once hloop hzero

/-- All filters of a track keep something. -/
theorem keepsSome_soundAt (volume : ℚ) (hvalid : source.track.Valid) (hframes : 0 < source.duration)
    (hfps : 0 < fps) (hslow : fps ≤ 1000) (hexact : ∀ last ∈ source.track.ends source.duration,
      1000 * Clock.time fps last < 10 ^ 28) :
    ∀ filter ∈ source.soundAt fps volume, filter.KeepsSome := by
  have hcut := source.cut_cutFilters fps hvalid
  rw [soundAt, List.forall_mem_append, List.forall_mem_append]
  refine ⟨⟨hcut.keepsSome hvalid source.length_eq hframes hfps hslow hexact,
    Filter.keepsSome_fades _ _ _ _⟩, ?_⟩
  simp [Filter.keepsSome_plain, Filter.delay]

end TrackSource

/-! ## Clips -/

theorem Clip.Valid.frames_nonneg {clip : Clip} (h : clip.Valid) : 0 ≤ clip.frames := by
  rw [Clip.frames]
  cases hduration : clip.duration with
  | none => exact le_rfl
  | some duration => exact h.duration duration hduration

namespace ClipSource

variable {fps : ℤ} {source : ClipSource} {start : ℚ}

theorem keepsSome_trim (name : String) (hstart : 0 ≤ start) (hframes : 0 < source.duration)
    (hfps : 0 < fps) (hslow : fps ≤ 1000)
    (hexact : 1000 * (start + Clock.time fps source.duration) < 10 ^ 28) :
    (trimFilter name start (start + Clock.time fps source.duration)).KeepsSome := by
  have hapart := Clock.time_apart hfps hslow hframes
  have hzero : Clock.time fps 0 = 0 := by simp [Clock.time]
  exact Filter.keepsSome_trim name hstart (by linarith) hexact

/-- All filters for the picture of a clip keep something. -/
theorem keepsSome_pictureAt (hstart : 0 ≤ start) (hframes : 0 < source.duration) (hfps : 0 < fps)
    (hslow : fps ≤ 1000) (hexact : 1000 * (start + Clock.time fps source.duration) < 10 ^ 28) :
    ∀ filter ∈ source.pictureAt fps start, filter.KeepsSome := by
  rw [pictureAt, List.forall_mem_cons]
  refine ⟨keepsSome_trim "trim" hstart hframes hfps hslow hexact, ?_⟩
  simp [Filter.keepsSome_plain]

theorem keepsSome_soundAt (volume : ℚ) (hstart : 0 ≤ start) (hframes : 0 < source.duration)
    (hfps : 0 < fps) (hslow : fps ≤ 1000)
    (hexact : 1000 * (start + Clock.time fps source.duration) < 10 ^ 28) :
    ∀ filter ∈ source.soundAt fps start volume, filter.KeepsSome := by
  rw [soundAt, List.forall_mem_append, List.cons_append, List.forall_mem_cons,
    List.forall_mem_append]
  refine ⟨⟨keepsSome_trim "atrim" hstart hframes hfps hslow hexact, ?_,
    Filter.keepsSome_fades _ _ _ _⟩, ?_⟩
  · split <;> simp [Filter.resetTimestamps, Filter.keepsSome_plain]
  · simp [Filter.keepsSome_plain, Filter.delay]

theorem keepsSome_overlayAt (x y : ℚ) : (source.overlayAt fps x y).KeepsSome :=
  Filter.keepsSome_of_key_ne (by simp [overlayAt])

end ClipSource

/-! ## Media -/

/-- Everything that a medium is cut at is before `10 ^ 28` milliseconds. -/
def Medium.Exact (fps totalFrames : ℤ) : Medium → Prop
  | .frames => True
  | .clip own => ∀ start, rationalOf own.trimStart = .ok start →
      1000 * (start + Clock.time fps own.frames) < 10 ^ 28
  | .track own => ∀ last ∈ own.ends (own.frames totalFrames),
      1000 * Clock.time fps last < 10 ^ 28

namespace Timeline

variable {timeline : Timeline} {encoding : Encoding} {graph : Graph} {index : ℕ}

/-- A track among the media is valid and has a frame to be heard in. -/
theorem track_of_media (hvalid : timeline.Valid) {track : Track}
    (h : (timeline.media encoding)[index]? = some (.track track)) :
    track.Valid ∧ 0 < track.frames timeline.totalFrames := by
  have hmem := List.fst_mem_of_mem_zipIdx ((timeline.media_getElem?_eq_track_iff encoding _ _).mp h)
  obtain ⟨htrack, hgives⟩ := List.mem_filter.mp hmem
  exact ⟨hvalid.tracks track htrack, of_decide_eq_true hgives⟩

theorem clip_of_media (hvalid : timeline.Valid) {clip : Clip}
    (h : (timeline.media encoding)[index]? = some (.clip clip)) :
    clip.Valid ∧ 0 < clip.frames := by
  have hmem := List.fst_mem_of_mem_zipIdx ((timeline.media_getElem?_eq_clip_iff encoding _ _).mp h)
  obtain ⟨hclip, hgives⟩ := List.mem_filter.mp hmem
  have hnonneg := (hvalid.clips clip hclip).frames_nonneg
  have hne : clip.frames ≠ 0 := fun hzero => by
    simp [Clip.givesPicture, Clip.givesSound, hzero] at hgives
  exact ⟨hvalid.clips clip hclip, by omega⟩

/-- Each track that contributes has a chain that cuts it to its length. -/
theorem exists_chain (hvalid : timeline.Valid) (h : Graph.compile timeline encoding = .ok graph)
    {track : Track} (hindex : (timeline.media encoding)[index]? = some (.track track)) :
    ∃ chain, graph.ReadBy (audioPad index) chain ∧
      track.Chain timeline.fps (track.frames timeline.totalFrames)
        (track.heardFrames (track.frames timeline.totalFrames)) chain.filters := by
  obtain ⟨hown, hframes⟩ := track_of_media hvalid hindex
  obtain ⟨hpos, hle⟩ := Track.heardFrames_bounds hown hframes
  obtain ⟨chain, volume, hchain, hvolume, hsound⟩ := Graph.exists_readBy_trackSound h hindex
  obtain ⟨fadeIn, fadeOut, hfades, hin, hout⟩ :=
    Track.exists_fades timeline.fps hown.fadeIn hown.fadeOut
  have hcut := (track.contribution timeline.totalFrames).cut_cutFilters timeline.fps hown
  rw [TrackSource.length_eq] at hcut
  refine ⟨chain, hchain, hpos, hle, _, fadeIn, fadeOut, volume, ?_, hcut, hin, hout, hvolume⟩
  rw [hsound, TrackSource.soundAt, TrackSource.length_eq, List.append_assoc _ fadeIn, ← hfades]
  rfl

/-- A pad that is read is one of the two pads of its input. -/
theorem ReadsPad.pad_eq {medium : Medium} {pad : String} {filters : List Filter}
    (h : timeline.ReadsPad encoding index medium pad filters) :
    pad = videoPad index ∨ pad = audioPad index := by
  cases h with
  | frames | picture => exact .inl rfl
  | sound | track => exact .inr rfl

/-- The filters that read a pad keep something when the medium is cut early enough. -/
theorem ReadsPad.keepsSome {medium : Medium} {pad : String} {filters : List Filter}
    (h : timeline.ReadsPad encoding index medium pad filters)
    (hindex : (timeline.media encoding)[index]? = some medium) (hvalid : timeline.Valid)
    (hslow : timeline.fps ≤ 1000) (hexact : medium.Exact timeline.fps timeline.totalFrames) :
    ∀ filter ∈ filters, filter.KeepsSome := by
  cases h with
  -- the numbers in the filters come from the fields, so each medium brings its own bounds
  | frames => simp [Filter.keepsSome_plain]
  | @picture clip _ _ hfilters =>
    obtain ⟨hclip, hframes⟩ := clip_of_media hvalid hindex
    obtain ⟨start, hstart, rfl⟩ := (ClipSource.pictureFilters_eq_ok_iff _ _ _).mp hfilters
    exact ClipSource.keepsSome_pictureAt (rationalOf_nonneg hclip.trimStart hstart) hframes
      hvalid.fps hslow (hexact start hstart)
  | @sound clip _ _ hfilters =>
    obtain ⟨hclip, hframes⟩ := clip_of_media hvalid hindex
    obtain ⟨start, hstart, volume, -, rfl⟩ := (ClipSource.soundFilters_eq_ok_iff _ _ _).mp hfilters
    exact ClipSource.keepsSome_soundAt volume (rationalOf_nonneg hclip.trimStart hstart) hframes
      hvalid.fps hslow (hexact start hstart)
  | @track track _ hfilters =>
    obtain ⟨htrack, hframes⟩ := track_of_media hvalid hindex
    obtain ⟨volume, -, rfl⟩ := (TrackSource.soundFilters_eq_ok_iff _ _ _).mp hfilters
    exact TrackSource.keepsSome_soundAt _ _ volume htrack hframes hvalid.fps hslow hexact

/-- A stage that reads no pad cuts nothing. -/
theorem reads_pad_or_keepsSome {laids : List LaidClip} {heard : List HeardSound}
    (hlaids : List.Forall₂ (LaidClip.Of timeline.fps) (timeline.overlays encoding) laids)
    (hheard : List.Forall₂ HeardSound.Of (timeline.sounds encoding) heard) {stage : Stage}
    (hstage : stage ∈ timeline.layout encoding laids heard) :
    (∃ pad ∈ stage.inputs, isPad pad = true) ∨ ∀ filter ∈ stage.filters, filter.KeepsSome := by
  -- a stage is the one of the frames, or lays a clip, or plays a sound
  rw [layout, List.mem_cons, List.mem_append] at hstage
  rcases hstage with rfl | hstage | hstage
  · exact .inl ⟨_, List.mem_singleton_self _, isPad_videoPad 0⟩
  · obtain ⟨laid, hlaid, place, rfl | rfl⟩ := exists_laid_of_mem_overlayStages hstage
    · exact .inl ⟨_, List.mem_singleton_self _, isPad_videoPad _⟩
    · obtain ⟨entry, -, hof⟩ := exists_mem_of_forall₂ hlaids hlaid
      obtain ⟨x, -, y, -, hoverlay⟩ := (ClipSource.overlayFilter_eq_ok_iff _ _ _).mp hof.overlay
      -- laying one picture on another reads no pad, and cuts nothing
      refine .inr ?_
      rw [overlaidStage, List.forall_mem_singleton, ← hoverlay]
      exact ClipSource.keepsSome_overlayAt x y
  · obtain ⟨chains, hplays, hsounds⟩ := soundStages_eq_append
      (if laids.isEmpty then 0 else 2 * laids.length + 1) heard
    rw [hsounds, List.mem_append] at hstage
    rcases hstage with hstage | hstage
    · obtain ⟨own, hown, hinputs, -⟩ := exists_mem_of_forall₂ hplays hstage
      refine .inl ⟨own.pad, by rw [hinputs]; exact List.mem_singleton_self _, ?_⟩
      exact (timeline.proper_of_sounds encoding hheard own hown).pad
    · -- the mix reads the chains, and cuts nothing
      split at hstage
      · rw [List.mem_singleton.mp hstage, Stage.mix, List.forall_mem_singleton]
        exact .inr (Filter.keepsSome_of_key_ne (by simp [Filter.mix, Filter.keyed]))
      · simp at hstage

/-- **How tracks are cut.** Each track that contributes has one chain, which cuts it to the length
that it is heard for and fades it there. Up to 1000 frames a second, no stage cuts so that nothing
is left, as the numbers are written, unless it cuts at a time after `10 ^ 28` milliseconds. -/
theorem cuts_of_compile (hvalid : timeline.Valid)
    (h : Graph.compile timeline encoding = .ok graph) :
    (∀ index track, (timeline.media encoding)[index]? = some (.track track) →
      ∃ chain, graph.ReadBy (audioPad index) chain ∧
        track.Chain timeline.fps (track.frames timeline.totalFrames)
          (track.heardFrames (track.frames timeline.totalFrames)) chain.filters) ∧
      (timeline.fps ≤ 1000 → ∀ stage ∈ graph.stages,
        (∀ index medium, (timeline.media encoding)[index]? = some medium →
          videoPad index ∈ stage.inputs ∨ audioPad index ∈ stage.inputs →
          medium.Exact timeline.fps timeline.totalFrames) →
        ∀ filter ∈ stage.filters, filter.KeepsSome) := by
  refine ⟨fun index track => exists_chain hvalid h, ?_⟩
  intro hslow stage hstage hexact
  have hagree := padsAgree_of_compile h
  obtain ⟨-, laids, heard, hlaids, hheard, hgraph⟩ := (Graph.compile_eq_ok_iff _ _ _).mp h
  rcases reads_pad_or_keepsSome hlaids hheard (hgraph ▸ hstage) with ⟨pad, hread, hpad⟩ | hkeeps
  · obtain ⟨index, medium, hindex, hreads⟩ := hagree.readsPad stage hstage pad hread hpad
    refine hreads.keepsSome hindex hvalid hslow (hexact index medium hindex ?_)
    rcases hreads.pad_eq with rfl | rfl
    · exact .inl hread
    · exact .inr hread
  · exact hkeeps

/-- A clip of one frame, a track that repeats a part of its source, and one that is cut off by the
end of its part, at 1000 frames a second. -/
def medley : Timeline where
  fps := 1000
  width := 640
  height := 360
  totalFrames := 100
  scenes := []
  tracks := [
    ⟨none, ⟨.file, "beat.mp3"⟩, 0, none, 10, some 40, 0.5, 0, 15, true, none⟩,
    ⟨none, ⟨.file, "voice.mp3"⟩, 50, some 60, 5, some 25, 1.0, 5, 30, false, none⟩]
  clips := [⟨none, "clip.mp4", 1, some 1, 0.5, 640, 360, ⟨0.0, 0.0⟩, true, 1.0, 0, 0⟩]
  anchors := .empty

theorem medley_clips : ∀ clip ∈ medley.clips, clip.Valid ∧ clip.Finite := by
  intro clip hclip
  obtain rfl := List.mem_singleton.mp hclip
  refine ⟨⟨?_, ?_, ?_, ?_, ?_, ?_, ?_, ?_, ?_⟩, ⟨?_, ?_, ?_⟩⟩
  all_goals decide +kernel

theorem medley_tracks : ∀ track ∈ medley.tracks, track.Valid := by
  intro track htrack
  rw [medley, List.mem_cons, List.mem_singleton] at htrack
  rcases htrack with rfl | rfl
  all_goals
    refine ⟨?_, ?_, ?_, ?_, ?_, ?_, ?_, ?_⟩
    all_goals decide +kernel

theorem medley_valid : medley.Valid :=
  ⟨by decide, by decide, by decide, by decide, by simp [medley], medley_tracks,
    fun clip hclip => (medley_clips clip hclip).1, by simp [medley]⟩

theorem medley_exact {medium : Medium}
    (h : medium ∈ medley.media (.standard "192k" .medium 640 360 1000)) :
    medium.Exact 1000 100 := by
  have hmedia : medley.media (.standard "192k" .medium 640 360 1000) =
      .frames :: (medley.clips.map .clip ++ medley.tracks.map .track) := rfl
  have hhalf : rationalOf 0.5 = .ok (1 / 2) := by decide +kernel
  rw [hmedia, medley] at h
  simp only [List.map_cons, List.map_nil, List.singleton_append, List.mem_cons, List.not_mem_nil,
    or_false] at h
  rcases h with rfl | rfl | rfl | rfl
  · trivial
  · intro start hstart
    obtain rfl : 1 / 2 = start := Except.ok.inj (hhalf.symm.trans hstart)
    norm_num [Clip.frames, Clock.time]
  · show ∀ last ∈ [100, 40], 1000 * Clock.time 1000 last < 10 ^ 28
    decide +kernel
  · show ∀ last ∈ [25], 1000 * Clock.time 1000 last < 10 ^ 28
    decide +kernel

/-- The track that repeats its part is heard for all of its frames, the other one for 20 of 60. -/
theorem cuts_of_compile_medley : ∃ graph,
    Graph.compile medley (.standard "192k" .medium 640 360 1000) = .ok graph ∧
      (∃ chain, graph.ReadBy (audioPad 2) chain ∧
        (medley.tracks.head (by decide)).Chain 1000 100 100 chain.filters) ∧
      (∃ chain, graph.ReadBy (audioPad 3) chain ∧
        (medley.tracks.getLast (by decide)).Chain 1000 60 20 chain.filters) ∧
      ∀ stage ∈ graph.stages, ∀ filter ∈ stage.filters, filter.KeepsSome := by
  obtain ⟨graph, hgraph⟩ := @Graph.exists_compile medley (.standard "192k" .medium 640 360 1000)
    medley_valid rfl rfl rfl fun clip hclip => (medley_clips clip hclip).2
  obtain ⟨hchains, hkeeps⟩ := cuts_of_compile medley_valid hgraph
  refine ⟨graph, hgraph, hchains 2 _ rfl, hchains 3 _ rfl, fun stage hstage => ?_⟩
  exact hkeeps (by decide) stage hstage fun index medium hindex _ =>
    medley_exact (List.mem_of_getElem? hindex)

end Timeline

end Montage
