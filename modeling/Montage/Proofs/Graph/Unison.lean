import Mathlib.Data.Nat.Notation
import Montage.Proofs.Clock
import Montage.Proofs.Graph.Readers

/-!
# Picture and sound of a clip

A clip that is seen and heard is read by two stages, and their times are computed apart: the picture
is moved and shown at seconds that are rounded when they are written, the sound is delayed by a
whole number of milliseconds. The texts say the same instant all the same, and both stages cut the
same part of the file (`picture_with_sound`).
-/

namespace Montage

open Layout

/-! ## Arguments of filters -/

namespace Filter

/-- The arguments of the filters that have a name, one list for each of them. -/
def argumentsOf (name : String) (filters : List Filter) : List (List Argument) :=
  (filters.filter fun filter => filter.name = name).map arguments

variable {name : String}

/-- The arguments that filters of one name are given are collected in order. -/
theorem argumentsOf_append (first second : List Filter) :
    argumentsOf name (first ++ second) = argumentsOf name first ++ argumentsOf name second := by
  simp [argumentsOf]

theorem argumentsOf_eq_nil {filters : List Filter} (h : ∀ filter ∈ filters, filter.name ≠ name) :
    argumentsOf name filters = [] := by
  rw [argumentsOf, List.map_eq_nil_iff, List.filter_eq_nil_iff]
  exact fun filter hfilter => by simpa using h filter hfilter

end Filter

/-- Between its cut and its delay, the sound of a clip has only filters that leave it in place. -/
theorem ClipSource.argumentsOf_soundAt {name : String}
    (hname : name ∉ ["asetpts", "afade", "volume"]) (fps : ℤ) (source : ClipSource)
    (start volume : ℚ) :
    Filter.argumentsOf name (source.soundAt fps start volume) =
      Filter.argumentsOf name
        [trimFilter "atrim" start (start + Clock.time fps source.duration),
          Filter.delay fps source.clip.start] := by
  -- between the cut and the delay there are filters of three other names only
  let between := (if 0 < start then [Filter.resetTimestamps] else []) ++
    Filter.fades fps source.clip.fadeIn source.clip.fadeOut source.duration ++
      [.plain "volume" [decimalText volume 4]]
  have hbetween : ∀ filter ∈ between, filter.name ∈ ["asetpts", "afade", "volume"] := by
    intro filter hfilter
    simp only [between, List.mem_append, List.mem_singleton] at hfilter
    rcases hfilter with (hreset | hfade) | rfl
    · split at hreset <;> simp at hreset
      simp [hreset, Filter.resetTimestamps, Filter.plain]
    · simp [Filter.name_of_mem_fades hfade]
    · simp [Filter.plain]
  have hnone : Filter.argumentsOf name between = [] :=
    Filter.argumentsOf_eq_nil fun filter hfilter hown => hname (hown ▸ hbetween filter hfilter)
  have hsound : source.soundAt fps start volume =
      [trimFilter "atrim" start (start + Clock.time fps source.duration)] ++ between ++
        [Filter.delay fps source.clip.start] := by
    simp [soundAt, between]
  rw [hsound, Filter.argumentsOf_append, Filter.argumentsOf_append, hnone, List.append_nil,
    ← Filter.argumentsOf_append]
  rfl

/-! ## Clips that are seen and heard -/

/-- The stages of a clip, those of its picture and that of its sound, are in unison: they take it to
one instant, written as seconds and as milliseconds, and cut one part of its file. -/
structure Graph.Unison (prepared laid chain : Stage) (instant : String) (milliseconds : ℤ) :
    Prop where
  /-- The seconds and the milliseconds are the same instant. -/
  read : ∃ seconds : ℚ, readDecimal? instant = some seconds ∧ 1000 * seconds = milliseconds
  moved : Filter.argumentsOf "setpts" prepared.filters =
    [[⟨none, s!"PTS-STARTPTS+{instant}/TB"⟩]]
  shown : ∃ x y last : String, Filter.argumentsOf "overlay" laid.filters =
    [[⟨none, x⟩, ⟨none, y⟩, ⟨some "enable", s!"'between(t,{instant},{last})'"⟩]]
  delayed : Filter.argumentsOf "adelay" chain.filters =
    [[⟨none, s!"{milliseconds}|{milliseconds}"⟩]]
  cut : ∃ start stop, Filter.argumentsOf "trim" prepared.filters =
      [[⟨some "start", start⟩, ⟨some "end", stop⟩]] ∧
    Filter.argumentsOf "atrim" chain.filters = [[⟨some "start", start⟩, ⟨some "end", stop⟩]]

namespace Timeline

variable {timeline : Timeline} {encoding : Encoding} {graph : Graph} {index : ℕ} {clip : Clip}

/-- **The picture of a clip and its sound stay together.** The one stage that prepares the picture,
the one that lays it over the frames and the one that makes the sound are in unison, at the start of
the clip rounded to the millisecond. -/
theorem picture_with_sound (h : Graph.compile timeline encoding = .ok graph)
    (hindex : (timeline.media encoding)[index]? = some (.clip clip))
    (hgives : clip.givesPicture encoding.overlayClips) (haudio : clip.includeAudio)
    (hexact : (Clock.delay timeline.fps clip.start).natAbs < 10 ^ 28) :
    ∃ prepared laid chain instant milliseconds, graph.ReadBy (videoPad index) prepared ∧
      graph.ReadBy prepared.output laid ∧ graph.ReadBy (audioPad index) chain ∧
      milliseconds = (1000 * clip.start / timeline.fps + 1 / 2 : ℚ).floor ∧
      Graph.Unison prepared laid chain instant milliseconds := by
  obtain ⟨prepared, laid, start, x, y, hprepared, hlaid, hstart, hpicture, hoverlay⟩ :=
    Graph.exists_readBy_picture h hindex hgives
  obtain ⟨chain, other, volume, hchain, hother, hsound⟩ :=
    Graph.exists_readBy_clipSound h hindex haudio
  -- both stages compute the start of the cut from the same float
  obtain rfl : start = other := Except.ok.inj (hstart.symm.trans hother)
  refine ⟨prepared, laid, chain, Clock.timeText timeline.fps clip.start,
    Clock.delay timeline.fps clip.start, hprepared, hlaid, hchain, Clock.delay_eq_floor _ _, ?_⟩
  have hseconds := Clock.readDecimal?_timeText hexact.le
  have hcut : Filter.argumentsOf "atrim" chain.filters = _ :=
    hsound ▸ ClipSource.argumentsOf_soundAt (by decide) _ _ _ _
  have hdelayed : Filter.argumentsOf "adelay" chain.filters = _ :=
    hsound ▸ ClipSource.argumentsOf_soundAt (by decide) _ _ _ _
  constructor
  case read => exact ⟨_, hseconds, mul_div_cancel₀ _ (by norm_num)⟩
  case moved => exact hpicture ▸ rfl
  case shown => exact ⟨decimalText x 3, decimalText y 3, _, by rw [hoverlay]; rfl⟩
  case delayed => exact hdelayed
  case cut => exact ⟨_, _, hpicture ▸ rfl, hcut⟩

/-- The first clip of the duet is at frame 10 of 30 in a second. -/
theorem picture_with_sound_duet : ∃ graph,
    Graph.compile duet (.standard "192k" .medium 640 360 30) = .ok graph ∧
      ∃ prepared laid chain instant, graph.ReadBy (videoPad 1) prepared ∧
        graph.ReadBy prepared.output laid ∧ graph.ReadBy (audioPad 1) chain ∧
        Graph.Unison prepared laid chain instant 333 := by
  obtain ⟨graph, hgraph⟩ := @Graph.exists_compile duet (.standard "192k" .medium 640 360 30)
    duet_valid rfl rfl rfl fun clip hclip => (duet_clips clip hclip).2
  obtain ⟨prepared, laid, chain, instant, milliseconds, hprepared, hlaid, hchain, hfloor, hjoint⟩ :=
    @picture_with_sound _ _ _ 1 (duet.clips.head (by decide)) hgraph rfl rfl rfl (by decide +kernel)
  obtain rfl : milliseconds = 333 := by
    rw [hfloor]
    decide +kernel
  exact ⟨graph, hgraph, prepared, laid, chain, instant, hprepared, hlaid, hchain, hjoint⟩

end Timeline

end Montage
