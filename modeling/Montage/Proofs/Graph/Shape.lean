import Mathlib.Data.Int.Notation
import Mathlib.Data.Nat.Notation
import Montage.Proofs.Graph.Filters
import Montage.Proofs.Graph.Sources
import Montage.Proofs.Graph.Wiring

/-!
# The shape of a compiled graph

A valid timeline whose clips have finite numbers is compiled (`exists_compile`). What the graph then
looks like is said in two parts: how the labels connect its stages (`Graph.Wired`), which comes
from the wiring of a layout, and how many stages of each kind there are (`Timeline.Staged`), which
comes from the layout itself.
-/

namespace Montage

open Ledger Layout

/-! ## Labels -/

/-- The labels of a graph connect its stages one to one. -/
structure Graph.Wired (graph : Graph) : Prop where
  outputs_nodup : (graph.stages.map Stage.output).Nodup
  /-- What is read, other than from a pad, has been written by just one of the stages before, -/
  written_before : ∀ (i : ℕ) (reader : Stage), graph.stages[i]? = some reader →
    ∀ label ∈ reader.inputs, isPad label = false →
      ∃! j, j < i ∧ (graph.stages[j]?).map Stage.output = some label
  /-- and is read nowhere else. -/
  read_once : ∀ label ∈ graph.stages.flatMap Stage.inputs, isPad label = false →
    (graph.stages.flatMap Stage.inputs).count label = 1
  /-- What is not read is delivered, and what is delivered is not read. -/
  unread_iff : ∀ label, (label ∈ graph.stages.map Stage.output ∧
    label ∉ graph.stages.flatMap Stage.inputs) ↔
      label = graph.videoOut ∨ graph.audioOut = some label

/-- Linear stages are wired when no label looks like a pad. -/
theorem Graph.wired_of_pending {graph : Graph}
    (h : Pending graph.stages (graph.videoOut :: graph.audioOut.toList))
    (hpads : ∀ stage ∈ graph.stages, isPad stage.output = false) : graph.Wired where
  outputs_nodup := h.linear.outputs_nodup
  written_before := by
    -- linearity gives a writer before the reader; that it is the only one is in its uniqueness
    intro i reader hi label hlabel hpad
    obtain ⟨writer, hwriter, hout⟩ :=
      List.mem_map.mp (h.linear.read_later i reader hi label hlabel hpad)
    obtain ⟨j, hj, hget⟩ := mem_take_iff.mp hwriter
    refine ⟨j, ⟨hj, by rw [hget, ← hout]; rfl⟩, ?_⟩
    rintro k ⟨-, hk⟩
    obtain ⟨other, hother, hsame⟩ := Option.map_eq_some_iff.mp hk
    exact h.linear.position_unique hother hget (hsame.trans hout.symm)
  read_once := by
    intro label hlabel hpad
    exact Nat.le_antisymm (h.linear.read_once label hpad) (List.count_pos_iff.mpr hlabel)
  unread_iff := by
    intro label
    -- what is still pending at the end is what the graph puts out
    have hdelivered : label ∈ graph.videoOut :: graph.audioOut.toList ↔
        label = graph.videoOut ∨ graph.audioOut = some label := by
      simp
    rw [← hdelivered, h.mem_iff label]
    refine and_congr_right fun hwritten => not_congr ?_
    obtain ⟨stage, hstage, rfl⟩ := List.mem_map.mp hwritten
    rw [mem_fed]
    exact (and_iff_left (hpads stage hstage)).symm

/-! ### Labels of a layout -/

/-- The stages of the overlays put out labels, and no pads. -/
theorem isPad_of_mem_overlayStages {laid : List LaidClip} {before : ℕ} {stage : Stage}
    (h : stage ∈ overlayStages before laid) : isPad stage.output = false := by
  obtain ⟨clip, -, place, rfl | rfl⟩ := exists_laid_of_mem_overlayStages h
  · exact isPad_preparedLabel place
  · exact isPad_pictureLabel (place + 1)

theorem isPad_videoLabel : isPad Graph.videoLabel = false := by
  decide +kernel

theorem isPad_audioLabel : isPad Graph.audioLabel = false := by
  decide +kernel

/-- The stages of the sounds put out labels, and no pads. -/
theorem isPad_of_mem_soundStages {sounds : List HeardSound}
    (hproper : ∀ heard ∈ sounds, heard.Proper) {number : ℕ} {stage : Stage}
    (h : stage ∈ soundStages number sounds) : isPad stage.output = false := by
  rw [soundStages.eq_def] at h
  split at h
  · simp at h
  · rw [List.mem_singleton] at h
    rw [h]
    exact isPad_audioLabel
  · rw [List.mem_append, List.mem_singleton] at h
    rcases h with h | rfl
    · exact isPad_of_mem_chainStages hproper (List.mem_map_of_mem h)
    · exact isPad_audioLabel

/-- No stage puts out a pad. -/
theorem Timeline.isPad_of_mem_layout (timeline : Timeline) (encoding : Encoding)
    {laid : List LaidClip} {sounds : List HeardSound} (hproper : ∀ heard ∈ sounds, heard.Proper)
    {stage : Stage} (h : stage ∈ timeline.layout encoding laid sounds) :
    isPad stage.output = false := by
  rw [layout, List.mem_cons, List.mem_append] at h
  rcases h with rfl | h | h
  · rw [frameStage]
    split
    · exact isPad_pictureLabel 0
    · exact isPad_videoLabel
  · exact isPad_of_mem_overlayStages h
  · exact isPad_of_mem_soundStages hproper h

/-! ## Stages -/

/-- The stage is the chain of what a medium is heard as: it reads the sound from the pad of the
medium and has its filters. -/
def Timeline.ChainOf (timeline : Timeline) (encoding : Encoding) (medium : Medium)
    (stage : Stage) : Prop :=
  ∃ sound, timeline.SoundOf encoding medium sound ∧ stage.inputs = [sound.pad] ∧
    sound.filters = .ok stage.filters

/-- The stages of a graph by kind: those of the picture, then a chain for each voice, then the mix of
all chains when there are several. -/
structure Timeline.Staged (timeline : Timeline) (encoding : Encoding) (graph : Graph)
    (picture chains : List Stage) : Prop where
  stages_eq : graph.stages = picture ++ chains ++ if 2 ≤ chains.length then [
    { inputs := chains.map Stage.output
      output := "a_out"
      filters := [⟨"amix", [⟨some "inputs", toString chains.length⟩,
        ⟨some "duration", "longest"⟩]⟩] }] else []
  stages_length : graph.stages.length = 1 + 2 * (timeline.overlaidClips encoding).length +
    timeline.voices.length + if 2 ≤ timeline.voices.length then 1 else 0
  picture_length : picture.length = 1 + 2 * (timeline.overlaidClips encoding).length
  chains_of_voices : List.Forall₂ (timeline.ChainOf encoding) timeline.voices chains
  name_ne : ∀ stage ∈ picture ++ chains, ∀ filter ∈ stage.filters, filter.name ≠ "amix"
  audioOut_eq_none_iff : graph.audioOut = none ↔ timeline.voices = []

/-! ### Stages of a layout -/

/-- There are two stages for each clip that is laid over. -/
theorem length_overlayStages (before : ℕ) (laid : List LaidClip) :
    (overlayStages before laid).length = 2 * laid.length := by
  induction laid generalizing before with
  | nil => rfl
  | cons clip rest ih =>
    rw [overlayStages, List.length_cons, List.length_cons, ih, List.length_cons]
    omega

/-- The stage of a sound reads its pad and has its filters. -/
def HeardSound.Plays (heard : HeardSound) (stage : Stage) : Prop :=
  stage.inputs = [heard.pad] ∧ stage.filters = heard.filters

/-- A chain is made for each sound, in order. -/
theorem forall₂_plays_chainStages (number : ℕ) (sounds : List HeardSound) :
    List.Forall₂ HeardSound.Plays sounds (chainStages number sounds) := by
  induction sounds generalizing number with
  | nil => exact .nil
  | cons heard rest ih => exact .cons ⟨rfl, rfl⟩ (ih (number + 1))

/-- The chain of each sound: that of a single sound delivers it, those of several have labels with
numbers. -/
def Layout.chains (number : ℕ) : List HeardSound → List Stage
  | [heard] => [⟨[heard.pad], Graph.audioLabel, heard.filters⟩]
  | sounds => chainStages number sounds

theorem forall₂_plays_chains (number : ℕ) (sounds : List HeardSound) :
    List.Forall₂ HeardSound.Plays sounds (chains number sounds) := by
  rw [chains.eq_def]
  split
  · exact .cons ⟨rfl, rfl⟩ .nil
  · exact forall₂_plays_chainStages number _

/-- The stages of sounds are one chain each, and a mix when there are several. -/
theorem soundStages_eq (number : ℕ) (sounds : List HeardSound) :
    soundStages number sounds = chains number sounds ++
      if 2 ≤ (chains number sounds).length then [.mix ((chains number sounds).map Stage.output)]
      else [] := by
  match sounds with
  | [] => rfl
  | [heard] => rfl
  | first :: second :: rest =>
    rw [if_pos (by simp [chains, chainStages])]
    rfl

/-- The stages of the sounds are chains, with a mix behind them if they are several. -/
theorem soundStages_eq_append (number : ℕ) (sounds : List HeardSound) :
    ∃ chains, List.Forall₂ HeardSound.Plays sounds chains ∧
      soundStages number sounds = chains ++
        if 2 ≤ chains.length then [.mix (chains.map Stage.output)] else [] :=
  ⟨_, forall₂_plays_chains number sounds, soundStages_eq number sounds⟩

/-- Nothing is mixed while pictures are laid one over the other. -/
theorem name_ne_of_mem_overlayStages {laids : List LaidClip}
    (h : ∀ laid ∈ laids, (∀ filter ∈ laid.picture, filter.name ≠ "amix") ∧
      laid.overlay.name ≠ "amix") {before : ℕ} :
    ∀ stage ∈ overlayStages before laids, ∀ filter ∈ stage.filters, filter.name ≠ "amix" := by
  intro stage hstage filter hfilter
  obtain ⟨laid, hlaid, place, rfl | rfl⟩ := exists_laid_of_mem_overlayStages hstage
  · exact (h laid hlaid).1 filter hfilter
  · obtain rfl : filter = laid.overlay := List.mem_singleton.mp hfilter
    exact (h laid hlaid).2

namespace Timeline

variable (timeline : Timeline) (encoding : Encoding)

/-- A chain for a medium mixes nothing. -/
theorem name_ne_of_chain {medium : Medium} {stage : Stage}
    (h : timeline.ChainOf encoding medium stage) :
    ∀ filter ∈ stage.filters, filter.name ≠ "amix" := by
  obtain ⟨sound, hsound, -, hfilters⟩ := h
  cases hsound with
  | clip hindex haudio =>
    obtain ⟨start, -, volume, -, heq⟩ := (ClipSource.soundFilters_eq_ok_iff _ _ _).mp hfilters
    rw [← heq]
    exact fun _ => ClipSource.name_ne_of_mem_soundAt
  | track hindex =>
    obtain ⟨volume, -, heq⟩ := (TrackSource.soundFilters_eq_ok_iff _ _ _).mp hfilters
    rw [← heq]
    exact fun _ => TrackSource.name_ne_of_mem_soundAt

theorem name_ne_of_laid {entry : ClipSource × ℕ} {laid : LaidClip}
    (h : LaidClip.Of timeline.fps entry laid) :
    (∀ filter ∈ laid.picture, filter.name ≠ "amix") ∧ laid.overlay.name ≠ "amix" := by
  obtain ⟨start, -, hpicture⟩ := (ClipSource.pictureFilters_eq_ok_iff _ _ _).mp h.picture
  obtain ⟨x, -, y, -, hoverlay⟩ := (ClipSource.overlayFilter_eq_ok_iff _ _ _).mp h.overlay
  rw [← hpicture, ← hoverlay]
  exact ⟨fun _ => ClipSource.name_ne_of_mem_pictureAt, by simp [ClipSource.overlayAt]⟩

/-- The stages of the picture have no filter that mixes sounds. -/
theorem name_ne_of_picture {laid : List LaidClip}
    (hlaid : List.Forall₂ (LaidClip.Of timeline.fps) (timeline.overlays encoding) laid)
    {fps : ℤ} {pixelFormat : String} {covered : Bool} {stage : Stage}
    (hstage : stage ∈ frameStage fps pixelFormat covered :: overlayStages 0 laid) :
    ∀ filter ∈ stage.filters, filter.name ≠ "amix" := by
  rcases List.mem_cons.mp hstage with rfl | hstage
  · simp [frameStage, Filter.plain]
  · refine name_ne_of_mem_overlayStages (fun clip hclip => ?_) stage hstage
    obtain ⟨entry, -, hof⟩ := exists_mem_of_forall₂ hlaid hclip
    exact timeline.name_ne_of_laid hof

/-- There is sound exactly when something is heard. -/
theorem audioOut_eq_of_voices : timeline.audioOut encoding =
    if timeline.voices.isEmpty then none else some Graph.audioLabel := by
  have hvoices := timeline.sounds_of_voices encoding
  rw [audioOut]
  generalize timeline.sounds encoding = sounds, timeline.voices = voices at hvoices ⊢
  cases hvoices <;> rfl

/-- There is no audio output just when nothing is heard. -/
theorem audioOut_eq_none_iff : timeline.audioOut encoding = none ↔ timeline.voices = [] := by
  rw [audioOut_eq_of_voices]
  cases timeline.voices <;> simp

/-- The stages that play the sounds of a timeline are the chains of its voices. -/
theorem forall₂_chainOf {heard : List HeardSound} {chains : List Stage}
    (hheard : List.Forall₂ HeardSound.Of (timeline.sounds encoding) heard)
    (hplays : List.Forall₂ HeardSound.Plays heard chains) :
    List.Forall₂ (timeline.ChainOf encoding) timeline.voices chains := by
  -- voices to sounds, sounds to their filters, and filters to the stages that have them
  have hstages : List.Forall₂ (fun (sound : Chain.Sound) (stage : Stage) =>
      stage.inputs = [sound.pad] ∧ sound.filters = .ok stage.filters)
      (timeline.sounds encoding) chains := by
    refine forall₂_trans ?_ hheard hplays
    rintro sound heard stage ⟨hpad, -, hfilters⟩ ⟨hinputs, hsame⟩
    exact ⟨by rw [hinputs, hpad], by rw [hfilters, hsame]⟩
  exact forall₂_trans (fun _ sound _ hsound hstage => ⟨sound, hsound, hstage⟩)
    (timeline.sounds_of_voices encoding) hstages

/-- A layout has the stages of its clips and sounds. -/
theorem staged_layout {laid : List LaidClip} {heard : List HeardSound}
    (hlaid : List.Forall₂ (LaidClip.Of timeline.fps) (timeline.overlays encoding) laid)
    (hheard : List.Forall₂ HeardSound.Of (timeline.sounds encoding) heard) :
    ∃ picture chains, timeline.Staged encoding
      ⟨timeline.inputs encoding, timeline.layout encoding laid heard, timeline.videoOut encoding,
        timeline.audioOut encoding⟩ picture chains := by
  have hlength : laid.length = (timeline.overlaidClips encoding).length := by
    rw [← hlaid.length_eq, (timeline.overlays_of_clips encoding).length_eq]
  obtain ⟨chains, hplays, hsounds⟩ :=
    soundStages_eq_append (if laid.isEmpty then 0 else 2 * laid.length + 1) heard
  have hchains := timeline.forall₂_chainOf encoding hheard hplays
  -- the picture ends where the sounds begin: one stage for the frames and two for each clip
  have hpicture : (frameStage timeline.fps encoding.pixelFormat (!laid.isEmpty) ::
      overlayStages 0 laid).length = 1 + 2 * (timeline.overlaidClips encoding).length := by
    rw [List.length_cons, length_overlayStages, hlength, Nat.add_comm]
  have hstages : timeline.layout encoding laid heard =
      frameStage timeline.fps encoding.pixelFormat (!laid.isEmpty) :: overlayStages 0 laid ++
        chains ++ if 2 ≤ chains.length then [.mix (chains.map Stage.output)] else [] := by
    rw [layout, hsounds, List.append_assoc]
    rfl
  refine ⟨frameStage timeline.fps encoding.pixelFormat (!laid.isEmpty) :: overlayStages 0 laid,
    chains, ?_, ?_, hpicture, hchains, ?_, timeline.audioOut_eq_none_iff encoding⟩
  · show timeline.layout encoding laid heard = _
    rw [hstages]
    simp [Stage.mix, Filter.mix, Filter.keyed, Graph.audioLabel]
  · show (timeline.layout encoding laid heard).length = _
    rw [hstages, List.length_append, List.length_append, hpicture, hchains.length_eq]
    split <;> rfl
  · intro stage hstage
    rcases List.mem_append.mp hstage with hstage | hstage
    · exact timeline.name_ne_of_picture encoding hlaid hstage
    · obtain ⟨medium, -, hchain⟩ := exists_mem_of_forall₂ hchains hstage
      exact timeline.name_ne_of_chain encoding hchain

end Timeline

/-! ## Timelines that can be compiled -/

/-- The numbers of a clip that its bounds do not make finite are finite. -/
structure Clip.Finite (clip : Clip) : Prop where
  trimStart : clip.trimStart.isFinite
  x : clip.position.x.isFinite
  y : clip.position.y.isFinite

namespace Timeline

variable {timeline : Timeline} (encoding : Encoding)

/-- Every clip of finite numbers can be laid over the picture. -/
theorem exists_laid (hfinite : ∀ clip ∈ timeline.clips, clip.Finite) :
    ∃ laid, List.Forall₂ (LaidClip.Of timeline.fps) (timeline.overlays encoding) laid := by
  apply exists_forall₂
  intro entry hentry
  obtain ⟨clip, hclip, hcontribution, -⟩ :=
    exists_mem_of_forall₂ (timeline.overlays_of_clips encoding) hentry
  obtain ⟨htrim, hx, hy⟩ := hfinite clip (List.mem_filter.mp hclip).1
  -- only the start of the trim and the position are turned into rationals
  obtain ⟨start, hstart⟩ := (rationalOf_isOk_iff _).mpr htrim
  obtain ⟨x, hx⟩ := (rationalOf_isOk_iff _).mpr hx
  obtain ⟨y, hy⟩ := (rationalOf_isOk_iff _).mpr hy
  have hpicture := (ClipSource.pictureFilters_eq_ok_iff timeline.fps
    (clip.contribution encoding.overlayClips) _).mpr ⟨start, hstart, rfl⟩
  have hoverlay := (ClipSource.overlayFilter_eq_ok_iff timeline.fps
    (clip.contribution encoding.overlayClips) _).mpr ⟨x, hx, y, hy, rfl⟩
  rw [← hcontribution] at hpicture hoverlay
  exact ⟨⟨entry.2, _, _⟩, rfl, hpicture, hoverlay⟩

/-- Every sound of a valid timeline can be heard. -/
theorem exists_heard (hvalid : timeline.Valid) (hfinite : ∀ clip ∈ timeline.clips, clip.Finite) :
    ∃ heard, List.Forall₂ HeardSound.Of (timeline.sounds encoding) heard := by
  apply exists_forall₂
  intro sound hsound
  obtain ⟨medium, hmedium, hof⟩ :=
    exists_mem_of_forall₂ (timeline.sounds_of_voices encoding) hsound
  -- a clip needs its trim and its volume, a track the volume alone
  have hfilters : ∃ filters, sound.filters = .ok filters := by
    cases hof with
    | @clip clip _ hindex haudio =>
      have hclip : clip ∈ timeline.clips := by
        simp only [voices, heardClips, List.mem_append, List.mem_map, List.mem_filter] at hmedium
        grind
      obtain ⟨start, hstart⟩ := (rationalOf_isOk_iff _).mpr (hfinite clip hclip).trimStart
      obtain ⟨volume, hvolume⟩ :=
        (rationalOf_isOk_iff _).mpr (hvalid.clips clip hclip).volume.isFinite
      exact ⟨_, (ClipSource.soundFilters_eq_ok_iff _ _ _).mpr
        ⟨start, hstart, volume, hvolume, rfl⟩⟩
    | @track track _ hindex =>
      have htrack : track ∈ timeline.tracks := by
        simp only [voices, heardTracks, List.mem_append, List.mem_map, List.mem_filter] at hmedium
        grind
      obtain ⟨volume, hvolume⟩ :=
        (rationalOf_isOk_iff _).mpr (hvalid.tracks track htrack).volume.isFinite
      exact ⟨_, (TrackSource.soundFilters_eq_ok_iff _ _ _).mpr ⟨volume, hvolume, rfl⟩⟩
  obtain ⟨filters, hfilters⟩ := hfilters
  exact ⟨⟨sound.pad, sound.stem, filters⟩, rfl, rfl, hfilters⟩

end Timeline

/-- A valid timeline of finite numbers is compiled. -/
theorem Graph.exists_compile {timeline : Timeline} {encoding : Encoding} (hvalid : timeline.Valid)
    (hfps : encoding.fps = timeline.fps) (hwidth : encoding.width = timeline.width)
    (hheight : encoding.height = timeline.height)
    (hfinite : ∀ clip ∈ timeline.clips, clip.Finite) :
    ∃ graph, Graph.compile timeline encoding = .ok graph := by
  obtain ⟨laid, hlaid⟩ := Timeline.exists_laid encoding hfinite
  obtain ⟨heard, hheard⟩ := Timeline.exists_heard encoding hvalid hfinite
  have hcheck : timeline.checkEncoding encoding = .ok () := by
    simp [Timeline.checkEncoding, hfps, hwidth, hheight]
  exact ⟨_, (compile_eq_ok_iff _ _ _).mpr ⟨hcheck, laid, heard, hlaid, hheard, rfl⟩⟩

/-- **Compilation of a valid timeline of finite numbers.** Whatever clips and tracks are on it, there
is a graph whose labels are wired one to one, with two stages for each overlaid clip, a chain for
each voice and a mix of the chains when there are several. -/
theorem Graph.compile_of_finite (timeline : Timeline) (encoding : Encoding)
    (hvalid : timeline.Valid) (hfps : encoding.fps = timeline.fps)
    (hwidth : encoding.width = timeline.width) (hheight : encoding.height = timeline.height)
    (hfinite : ∀ clip ∈ timeline.clips, clip.Finite) :
    ∃ graph, Graph.compile timeline encoding = .ok graph ∧ graph.Wired ∧
      ∃ picture chains, timeline.Staged encoding graph picture chains := by
  obtain ⟨graph, hgraph⟩ := exists_compile hvalid hfps hwidth hheight hfinite
  obtain ⟨-, laid, heard, hlaid, hheard, rfl⟩ := (compile_eq_ok_iff _ _ _).mp hgraph
  refine ⟨_, hgraph, ?_, timeline.staged_layout encoding hlaid hheard⟩
  refine wired_of_pending (timeline.layout_delivered encoding hlaid hheard) fun stage hstage => ?_
  exact timeline.isPad_of_mem_layout encoding (timeline.proper_of_sounds encoding hheard) hstage

/-- A clip that is seen and heard, a clip of no frames, and a track, in two seconds. -/
def duet : Timeline where
  fps := 30
  width := 640
  height := 360
  totalFrames := 60
  scenes := []
  tracks := [⟨none, ⟨.file, "music.mp3"⟩, 0, none, 0, none, 0.5, 0, 15, true, none⟩]
  clips := [
    ⟨some "intro", "intro.mp4", 10, some 40, 1.5, 320, 180, ⟨20.0, 12.5⟩, true, 1.0, 5, 5⟩,
    ⟨none, "still.mp4", 50, some 0, 0.0, 320, 180, ⟨0.0, 0.0⟩, true, 1.0, 0, 0⟩]
  anchors := .empty

theorem duet_clips : ∀ clip ∈ duet.clips, clip.Valid ∧ clip.Finite := by
  intro clip hclip
  rw [duet, List.mem_cons, List.mem_singleton] at hclip
  rcases hclip with rfl | rfl
  all_goals
    refine ⟨⟨?_, ?_, ?_, ?_, ?_, ?_, ?_, ?_, ?_⟩, ⟨?_, ?_, ?_⟩⟩
    all_goals decide +kernel

theorem duet_tracks : ∀ track ∈ duet.tracks, track.Valid := by
  intro track htrack
  rw [duet, List.mem_singleton] at htrack
  subst htrack
  exact ⟨by decide +kernel, by decide, by simp, by decide, by simp, by decide +kernel, by decide,
    by decide⟩

theorem duet_valid : duet.Valid :=
  ⟨by decide, by decide, by decide, by decide, by simp [duet], duet_tracks,
    fun clip hclip => (duet_clips clip hclip).1, by simp [duet]⟩

/-- The frames, two stages for the clip, a chain for each of two voices, and a mix. -/
theorem Graph.compile_of_finite_duet : ∃ graph,
    Graph.compile duet (.standard "192k" .medium 640 360 30) = .ok graph ∧ graph.Wired ∧
      graph.stages.length = 6 := by
  obtain ⟨graph, hgraph, hwired, picture, chains, hstaged⟩ :=
    Graph.compile_of_finite duet (.standard "192k" .medium 640 360 30) duet_valid rfl rfl rfl
      fun clip hclip => (duet_clips clip hclip).2
  refine ⟨graph, hgraph, hwired, ?_⟩
  rw [hstaged.stages_length]
  decide +kernel

end Montage
