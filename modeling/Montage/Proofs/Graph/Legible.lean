import Mathlib.Data.Int.Notation
import Mathlib.Data.Nat.Notation
import Mathlib.Data.Rat.Init
import Montage.Proofs.Graph.Pads
import Montage.Proofs.Graph.Reading
import Montage.Proofs.Number.Reading

/-!
# Compiled graphs can be read

Numbers are written without marks, and so are the names of filters and of labels, so that every stage
of a compiled graph can be read when the pixel format has no marks (`legible_of_compile`). The graph
is then known from its text, down to the keys and values of arguments (`stages_eq_of_render_eq`).
-/

namespace Montage

open Layout

/-! ## Texts without marks -/

theorem not_mem_marks_of_isDigit {c : Char} (h : c.isDigit) : c ∉ marks := by
  simp only [marks, List.mem_cons, List.not_mem_nil, or_false, not_or]
  exact ⟨ne_of_isDigit h rfl, ne_of_isDigit h rfl, ne_of_isDigit h rfl, ne_of_isDigit h rfl,
    ne_of_isDigit h rfl, ne_of_isDigit h rfl, ne_of_isDigit h rfl⟩

@[simp] theorem clear_append {first second : String} :
    Clear (first ++ second) ↔ Clear first ∧ Clear second := by
  simp only [Clear, String.toList_append, List.forall_mem_append]

@[simp] theorem clear_nat (n : ℕ) : Clear n.repr := by
  intro c hc
  rw [Nat.toList_repr] at hc
  exact not_mem_marks_of_isDigit (isDigit_of_mem_digits hc)

@[simp] theorem clear_int (n : ℤ) : Clear n.repr := by
  match n with
  | .ofNat n => exact clear_nat n
  | .negSucc n =>
    show Clear ("-" ++ (n + 1).repr)
    simp +decide

/-- A decimal text has none of the marks of the graph, as it is made of digits, point and sign. -/
@[simp] theorem clear_decimalText (value : ℚ) (places : ℕ) : Clear (decimalText value places) := by
  have hmagnitude (n places : ℕ) : ∀ c ∈ Decimal.pointed n places, c ∉ marks := by
    intro c hc
    rcases isDigit_or_eq_of_mem_pointed hc with hdigit | rfl
    · exact not_mem_marks_of_isDigit hdigit
    · decide
  rw [Clear, decimalText, Decimal.text, String.toList_ofList]
  split
  · exact List.forall_mem_cons.mpr ⟨by decide, hmagnitude _ _⟩
  · exact hmagnitude _ _

@[simp] theorem clear_secondsText (seconds : ℚ) : Clear (secondsText seconds) :=
  clear_decimalText seconds 3

@[simp] theorem clear_timeText (fps frames : ℤ) : Clear (Clock.timeText fps frames) :=
  clear_secondsText _

/-! ## Filters -/

namespace Filter

/-- A filter without keys is legible when its name and its values have no marks. -/
theorem legible_plain {name : String} {values : List String}
    (h : Clear name ∧ ∀ value ∈ values, Clear value) : (plain name values).Legible := by
  refine ⟨h.1, ?_⟩
  rw [plain, List.forall_mem_map]
  exact fun value hvalue => ⟨by simp, .clear (h.2 value hvalue)⟩

theorem legible_keyed {name : String} {values : List (String × String)}
    (h : Clear name ∧ ∀ entry ∈ values, Clear entry.1 ∧ Clear entry.2) :
    (keyed name values).Legible := by
  refine ⟨h.1, ?_⟩
  rw [keyed, List.forall_mem_map]
  intro entry hentry
  obtain ⟨hkey, hvalue⟩ := h.2 entry hentry
  exact ⟨by simpa using hkey, .clear hvalue⟩

theorem legible_resetTimestamps : resetTimestamps.Legible :=
  legible_plain (by simp +decide)

theorem legible_loop : loop.Legible :=
  legible_keyed (by decide +kernel)

theorem legible_mix (count : ℕ) : (mix count).Legible :=
  legible_keyed (by simp +decide)

theorem legible_volume (value : ℚ) : (plain "volume" [decimalText value 4]).Legible :=
  legible_plain (by simp +decide)

theorem legible_delay (fps start : ℤ) : (delay fps start).Legible :=
  legible_plain (by simp +decide)

theorem legible_cutFrames (fps start : ℤ) (stop : Option ℤ) : (cutFrames fps start stop).Legible :=
  legible_keyed (by cases stop <;> simp +decide)

/-- All fades are legible. -/
theorem legible_fades (fps fadeIn fadeOut length : ℤ) :
    ∀ filter ∈ fades fps fadeIn fadeOut length, filter.Legible := by
  rw [fades, List.forall_mem_append]
  constructor
  · by_cases hin : 0 < fadeIn
    · rw [if_pos hin, List.forall_mem_singleton]
      exact legible_keyed (by simp +decide)
    · simp [hin]
  · by_cases hout : 0 < fadeOut
    · rw [if_pos hout, List.forall_mem_singleton]
      exact legible_keyed (by simp +decide)
    · simp [hout]

end Filter

/-! ### Clips -/

namespace ClipSource

variable (fps : ℤ) (source : ClipSource)

theorem legible_trimFilter {name : String} (hname : Clear name) (start stop : ℚ) :
    (trimFilter name start stop).Legible :=
  Filter.legible_keyed (by simp +decide [hname])

/-- The picture of a clip is legible, by its filters in turn. -/
theorem legible_pictureAt (start : ℚ) : ∀ filter ∈ source.pictureAt fps start, filter.Legible := by
  have hmove : Clear (s!"PTS-STARTPTS+{Clock.timeText fps source.clip.start}/TB") := by
    show Clear ("PTS-STARTPTS+" ++ Clock.timeText fps source.clip.start ++ "/TB")
    simp +decide
  rw [pictureAt, List.forall_mem_cons, List.forall_mem_cons, List.forall_mem_singleton]
  exact ⟨legible_trimFilter (by decide +kernel) _ _, Filter.legible_plain (by simp +decide [hmove]),
    Filter.legible_plain (by simp +decide)⟩

/-- The commas of an interval are in its quotes. -/
theorem legible_interval {first last : String} (hfirst : Clear first) (hlast : Clear last) :
    LegibleValue (s!"'between(t,{first},{last})'") := by
  have hquotes : s!"'between(t,{first},{last})'" =
      "'" ++ ("between(t," ++ first ++ "," ++ last ++ ")") ++ "'" := by
    show "'between(t," ++ first ++ "," ++ last ++ ")'" = _
    rw [← String.toList_inj]
    simp
  rw [hquotes]
  refine .quoted ?_
  simp only [String.toList_append]
  have hopen : Within [','] "between(t,".toList := by simp [Within, marks]
  have hcomma : Within [','] ",".toList := by simp [Within]
  have hclose : Within [','] ")".toList := by simp [Within, marks]
  exact (((hopen.append hfirst.within).append hcomma).append hlast.within).append hclose

theorem legible_overlayAt (x y : ℚ) : (source.overlayAt fps x y).Legible := by
  have hname : Clear "overlay" := by decide +kernel
  have hkey : Clear "enable" := by decide +kernel
  refine ⟨hname, ?_⟩
  rw [overlayAt, List.forall_mem_cons, List.forall_mem_cons, List.forall_mem_singleton]
  exact ⟨⟨by simp, .clear (by simp)⟩, ⟨by simp, .clear (by simp)⟩, by simpa using hkey,
    legible_interval (by simp) (by simp)⟩

/-- The sound of a clip is legible. -/
theorem legible_soundAt (start volume : ℚ) :
    ∀ filter ∈ source.soundAt fps start volume, filter.Legible := by
  rw [soundAt, List.forall_mem_append, List.cons_append, List.forall_mem_cons,
    List.forall_mem_append]
  refine ⟨⟨legible_trimFilter (by decide +kernel) _ _, ?_, Filter.legible_fades _ _ _ _⟩, ?_⟩
  · by_cases hpos : 0 < start
    · simp [hpos, Filter.legible_resetTimestamps]
    · simp [hpos]
  · simp [Filter.legible_volume, Filter.legible_delay]

end ClipSource

/-! ### Tracks -/

namespace TrackSource

variable (fps : ℤ) (source : TrackSource)

/-- Whichever way a track is cut, its filters are legible. -/
theorem legible_cutFilters : ∀ filter ∈ source.cutFilters fps, filter.Legible := by
  rw [cutFilters]
  split
  · rw [List.forall_mem_append]
    constructor
    · split <;> simp [Filter.legible_cutFrames, Filter.legible_resetTimestamps]
    · simp [Filter.legible_cutFrames, Filter.legible_loop]
  · rw [List.forall_mem_cons]
    refine ⟨Filter.legible_cutFrames _ _ _, ?_⟩
    split <;> simp [Filter.legible_resetTimestamps]

theorem legible_soundAt (volume : ℚ) : ∀ filter ∈ source.soundAt fps volume, filter.Legible := by
  rw [soundAt, List.forall_mem_append, List.forall_mem_append]
  refine ⟨⟨source.legible_cutFilters fps, Filter.legible_fades _ _ _ _⟩, ?_⟩
  simp [Filter.legible_volume, Filter.legible_delay]

end TrackSource

/-! ## Stages of a layout -/

/-- The pad of an input has no mark but its colon. -/
theorem within_pad {stream : String} (h : Within [':'] stream.toList) (input : ℕ) :
    Within [':'] (toString input ++ stream).toList := by
  rw [Nat.toString_eq_repr, String.toList_append]
  exact (clear_nat input).within.append h

theorem within_videoPad (input : ℕ) : Within [':'] (videoPad input).toList :=
  within_pad (by simp [Within, marks]) input

theorem within_audioPad (input : ℕ) : Within [':'] (audioPad input).toList :=
  within_pad (by simp [Within, marks]) input

theorem clear_videoLabel : Clear Graph.videoLabel := by
  decide +kernel

theorem clear_audioLabel : Clear Graph.audioLabel := by
  decide +kernel

theorem clear_pictureLabel (count : ℕ) : Clear (Timeline.pictureLabel count) := by
  rw [Timeline.pictureLabel]
  split
  · decide +kernel
  · show Clear ("v_embed_" ++ (2 * count).repr)
    simp +decide

theorem clear_preparedLabel (before : ℕ) : Clear (preparedLabel before) := by
  show Clear ("v_embed_src_" ++ (2 * before + 1).repr)
  simp +decide

/-- The first stage is legible if the pixel format is. -/
theorem legible_frameStage {fps : ℤ} {pixelFormat : String} {covered : Bool}
    (h : Clear pixelFormat) : (frameStage fps pixelFormat covered).Legible := by
  refine ⟨?_, ?_, by simp [frameStage], ?_⟩
  · rw [frameStage, List.forall_mem_singleton]
    exact within_videoPad 0
  · rw [frameStage]
    cases covered
    · exact clear_videoLabel.within
    · exact (clear_pictureLabel 0).within
  · rw [frameStage, List.forall_mem_cons, List.forall_mem_singleton]
    exact ⟨Filter.legible_plain (by simp +decide), Filter.legible_plain (by simp +decide [h])⟩

variable {timeline : Timeline} {encoding : Encoding}

/-- All stages of the overlays are legible. -/
theorem legible_of_mem_overlayStages {entries : List (ClipSource × ℕ)} {laids : List LaidClip}
    (hlaids : List.Forall₂ (LaidClip.Of timeline.fps) entries laids) {before : ℕ} {stage : Stage}
    (h : stage ∈ overlayStages before laids) : stage.Legible := by
  obtain ⟨laid, hlaid, place, hstage⟩ := exists_laid_of_mem_overlayStages h
  obtain ⟨⟨source, input⟩, -, hof⟩ := exists_mem_of_forall₂ hlaids hlaid
  -- either the picture is prepared, which reads a pad, or it is laid, which reads two labels
  rcases hstage with rfl | rfl
  · obtain ⟨start, -, hpicture⟩ := (ClipSource.pictureFilters_eq_ok_iff _ _ _).mp hof.picture
    refine ⟨?_, (clear_preparedLabel place).within, ?_, ?_⟩
    · rw [preparedStage, List.forall_mem_singleton]
      exact within_videoPad laid.input
    · simp [preparedStage, ← hpicture, ClipSource.pictureAt]
    · rw [preparedStage, ← hpicture]
      exact source.legible_pictureAt timeline.fps start
  · obtain ⟨x, -, y, -, hoverlay⟩ := (ClipSource.overlayFilter_eq_ok_iff _ _ _).mp hof.overlay
    refine ⟨?_, (clear_pictureLabel (place + 1)).within, by simp [overlaidStage], ?_⟩
    · rw [overlaidStage, List.forall_mem_cons, List.forall_mem_singleton]
      exact ⟨(clear_pictureLabel place).within, (clear_preparedLabel place).within⟩
    · rw [overlaidStage, List.forall_mem_singleton, ← hoverlay]
      exact source.legible_overlayAt timeline.fps x y

/-- A sound whose stage can be read. -/
structure HeardSound.Legible (heard : HeardSound) : Prop where
  pad : Within [':'] heard.pad.toList
  stem : Clear heard.stem
  filters_ne_nil : heard.filters ≠ []
  filters : ∀ filter ∈ heard.filters, filter.Legible

/-- What is heard of a medium is legible, as its filters hold numbers and names only. -/
theorem legible_of_soundOf {medium : Medium} {sound : Chain.Sound}
    (hsound : timeline.SoundOf encoding medium sound) {heard : HeardSound}
    (hof : HeardSound.Of sound heard) : heard.Legible := by
  obtain ⟨hpad, hstem, hfilters⟩ := hof
  have hclip : Clear "a_embed" := by decide +kernel
  have htrack : Clear "a_track" := by decide +kernel
  cases hsound with
  | clip hindex haudio =>
    obtain ⟨start, -, volume, -, hown⟩ := (ClipSource.soundFilters_eq_ok_iff _ _ _).mp hfilters
    refine ⟨hpad ▸ within_audioPad _, hstem ▸ hclip, ?_, ?_⟩
    · simp [← hown, ClipSource.soundAt]
    · rw [← hown]
      exact ClipSource.legible_soundAt _ _ start volume
  | track hindex =>
    obtain ⟨volume, -, hown⟩ := (TrackSource.soundFilters_eq_ok_iff _ _ _).mp hfilters
    refine ⟨hpad ▸ within_audioPad _, hstem ▸ htrack, ?_, ?_⟩
    · simp [← hown, TrackSource.soundAt]
    · rw [← hown]
      exact TrackSource.legible_soundAt _ _ volume

theorem legible_chainStage (number : ℕ) {heard : HeardSound} (h : heard.Legible) :
    (chainStage number heard).Legible := by
  have hlabel : Clear (heard.stem ++ "_" ++ toString number) := by
    rw [Nat.toString_eq_repr, clear_append, clear_append]
    exact ⟨⟨h.stem, by decide +kernel⟩, clear_nat number⟩
  refine ⟨?_, hlabel.within, h.filters_ne_nil, h.filters⟩
  rw [chainStage, List.forall_mem_singleton]
  exact h.pad

/-- All chains of legible sounds are legible, numbered or not. -/
theorem legible_chains {sounds : List HeardSound} (h : ∀ heard ∈ sounds, heard.Legible)
    (number : ℕ) : ∀ stage ∈ chains number sounds, stage.Legible := by
  have hseveral : ∀ stage ∈ chainStages number sounds, stage.Legible := by
    induction sounds generalizing number with
    | nil => simp [chainStages]
    | cons heard rest ih =>
      obtain ⟨hheard, hrest⟩ := List.forall_mem_cons.mp h
      rw [chainStages, List.forall_mem_cons]
      exact ⟨legible_chainStage number hheard, ih hrest (number + 1)⟩
  -- a single sound takes the label of the whole graph, so it is not numbered
  rw [chains.eq_def]
  split
  · obtain ⟨hpad, -, hne, hfilters⟩ := h _ List.mem_cons_self
    rw [List.forall_mem_singleton]
    exact ⟨by simpa using hpad, clear_audioLabel.within, hne, hfilters⟩
  · exact hseveral

/-- The mix of stages that can be read can be read. -/
theorem legible_mix_of_chains {stages : List Stage} (h : ∀ stage ∈ stages, stage.Legible) :
    (Stage.mix (stages.map Stage.output)).Legible := by
  refine ⟨?_, clear_audioLabel.within, by simp [Stage.mix], ?_⟩
  · rw [Stage.mix, List.forall_mem_map]
    exact fun stage hstage => (h stage hstage).output
  · rw [Stage.mix, List.forall_mem_singleton]
    exact Filter.legible_mix _

/-- All stages for the sounds are legible, the mix included. -/
theorem legible_soundStages {sounds : List HeardSound} (h : ∀ heard ∈ sounds, heard.Legible)
    (number : ℕ) : ∀ stage ∈ soundStages number sounds, stage.Legible := by
  have hchains := legible_chains h number
  rw [soundStages_eq, List.forall_mem_append]
  refine ⟨hchains, ?_⟩
  split
  · rw [List.forall_mem_singleton]
    exact legible_mix_of_chains hchains
  · simp

/-! ## Compiled graphs -/

namespace Graph

variable {graph : Graph}

/-- Each stage of a compiled graph can be read, and there is at least that of the frames. -/
theorem legible_of_compile (h : Graph.compile timeline encoding = .ok graph)
    (hclear : Clear encoding.pixelFormat) :
    graph.stages ≠ [] ∧ ∀ stage ∈ graph.stages, stage.Legible := by
  obtain ⟨-, laid, heard, hlaid, hheard, rfl⟩ := (compile_eq_ok_iff _ _ _).mp h
  have hsounds : ∀ sound ∈ heard, sound.Legible := by
    intro sound hsound
    obtain ⟨source, hsource, hof⟩ := exists_mem_of_forall₂ hheard hsound
    obtain ⟨medium, hmedium⟩ := (timeline.mem_sounds_iff encoding source).mp hsource
    exact legible_of_soundOf hmedium hof
  refine ⟨List.cons_ne_nil _ _, ?_⟩
  rw [Timeline.layout, List.forall_mem_cons, List.forall_mem_append]
  exact ⟨legible_frameStage hclear, fun stage => legible_of_mem_overlayStages hlaid,
    legible_soundStages hsounds _⟩

/-- **The text of a compiled graph says what its stages are.** The labels that they read and write,
their filters, and the keys and values of the arguments can all be told from the text, as long as the
pixel format has none of the marks that keep them apart. -/
theorem stages_eq_of_render_eq {first second : Timeline} {firstEncoding secondEncoding : Encoding}
    {graph other : Graph} (h : Graph.compile first firstEncoding = .ok graph)
    (hother : Graph.compile second secondEncoding = .ok other)
    (hclear : Clear firstEncoding.pixelFormat) (hotherClear : Clear secondEncoding.pixelFormat)
    (hrender : graph.render = other.render) : graph.stages = other.stages := by
  obtain ⟨hne, hlegible⟩ := legible_of_compile h hclear
  obtain ⟨hotherNe, hotherLegible⟩ := legible_of_compile hother hotherClear
  calc graph.stages
      = readStages graph.render := (readStages_render hne hlegible).symm
    _ = readStages other.render := by rw [hrender]
    _ = other.stages := readStages_render hotherNe hotherLegible

/-- The duet with other music. -/
def cover : Timeline :=
  { duet with tracks := duet.tracks.map fun track => { track with source := ⟨.file, "other.mp3"⟩ } }

/-- The text is the same for other music, which is in the input files and not in the stages. -/
theorem stages_eq_of_render_eq_cover : ∃ graph other : Graph,
    Graph.compile duet (.standard "192k" .medium 640 360 30) = .ok graph ∧
      Graph.compile cover (.standard "192k" .medium 640 360 30) = .ok other ∧
      graph.inputs ≠ other.inputs ∧ graph.render = other.render ∧ graph.stages = other.stages := by
  have hinputs : duet.inputs (.standard "192k" .medium 640 360 30) ≠
      cover.inputs (.standard "192k" .medium 640 360 30) := by decide +kernel
  obtain ⟨graph, hgraph⟩ := @exists_compile duet (.standard "192k" .medium 640 360 30)
    duet_valid rfl rfl rfl fun clip hclip => (duet_clips clip hclip).2
  obtain ⟨hcheck, laid, heard, hlaid, hheard, rfl⟩ := (compile_eq_ok_iff _ _ _).mp hgraph
  -- the filters of the track are those of the other track
  have hcover := (compile_eq_ok_iff cover (.standard "192k" .medium 640 360 30) _).mpr
    ⟨hcheck, laid, heard, hlaid, hheard, rfl⟩
  exact ⟨_, _, hgraph, hcover, hinputs, rfl,
    stages_eq_of_render_eq hgraph hcover (by decide +kernel) (by decide +kernel) rfl⟩

end Graph

end Montage
