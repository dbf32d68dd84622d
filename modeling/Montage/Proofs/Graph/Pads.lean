import Mathlib.Data.Int.Notation
import Mathlib.Data.Nat.Notation
import Montage.Proofs.Graph.Shape

/-!
# Pads and input files

The stages of a graph read from pads, which name an input file by its number alone. Here the numbers
are shown to be right: a pad that is read belongs to the medium whose filters the reading stage has
(`Timeline.ReadsPad`), each medium is read, and no pad is read twice. The command then lists the
input files in the order of their numbers (`ofTimeline_arguments`).
-/

namespace Montage

open Ledger Layout

namespace Timeline

variable (timeline : Timeline) (encoding : Encoding)

/-! ## Places among the media -/

/-- A clip has the number of its place among the contributing clips, which follow the frames. -/
theorem media_getElem?_eq_clip_iff (clip : Clip) (index : ℕ) :
    (timeline.media encoding)[index]? = some (.clip clip) ↔
      (clip, index) ∈ (timeline.contributingClips encoding).zipIdx 1 := by
  refine ⟨fun h => ?_, timeline.media_getElem?_clip encoding⟩
  rw [List.mk_mem_zipIdx_iff_le_and_getElem?_sub]
  rcases index with _ | place
  · simp [media] at h
  · rw [media, List.getElem?_cons_succ, List.getElem?_append] at h
    split at h
    · simpa using h
    · simp at h

/-- A track has the number of its place among the tracks that are heard, which follow the clips. -/
theorem media_getElem?_eq_track_iff (track : Track) (index : ℕ) :
    (timeline.media encoding)[index]? = some (.track track) ↔
      (track, index) ∈
        timeline.heardTracks.zipIdx (1 + (timeline.contributingClips encoding).length) := by
  refine ⟨fun h => ?_, timeline.media_getElem?_track encoding⟩
  rw [List.mk_mem_zipIdx_iff_le_and_getElem?_sub]
  rcases index with _ | place
  · simp [media] at h
  · rw [media, List.getElem?_cons_succ, List.getElem?_append] at h
    split at h
    · simp at h
    · rename_i hlt
      rw [List.length_map] at hlt h
      rw [Nat.add_comm 1, Nat.add_sub_add_right]
      exact ⟨by omega, by simpa using h⟩

/-- Only input 0 holds the frames. -/
theorem media_getElem?_eq_frames_iff (index : ℕ) :
    (timeline.media encoding)[index]? = some .frames ↔ index = 0 := by
  rcases index with _ | place
  · simp [media]
  · simp only [media, List.getElem?_cons_succ, Nat.add_one_ne_zero, iff_false]
    intro h
    simpa using List.mem_of_getElem? h

/-! ## Pictures and sounds of media -/

/-- A picture is laid over the frames for each clip that gives one, under its number. -/
theorem mem_overlays_iff (entry : ClipSource × ℕ) :
    entry ∈ timeline.overlays encoding ↔
      ∃ clip, (timeline.media encoding)[entry.2]? = some (.clip clip) ∧
        clip.givesPicture encoding.overlayClips ∧
          entry.1 = clip.contribution encoding.overlayClips := by
  -- a clip is laid over when it gives a picture, which the lists of sources check one by one
  constructor
  · intro hentry
    obtain ⟨clip, hclip, hcontribution, hindex⟩ :=
      exists_mem_of_forall₂ (timeline.overlays_of_clips encoding) hentry
    exact ⟨clip, hindex, (List.mem_filter.mp hclip).2, hcontribution⟩
  · rintro ⟨clip, hindex, hpicture, hcontribution⟩
    rw [overlays, clipInputs_eq, List.mem_filter, List.mem_map]
    refine ⟨⟨_, (timeline.media_getElem?_eq_clip_iff encoding clip _).mp hindex, ?_⟩, ?_⟩
    · exact Prod.ext hcontribution.symm rfl
    · rw [Clip.givesPicture, Bool.and_eq_true] at hpicture
      show entry.1.overlaid = true
      rw [hcontribution]
      exact hpicture.1

/-- Each sound is that of a medium, and each medium that is heard has its sound. -/
theorem mem_sounds_iff (sound : Chain.Sound) :
    sound ∈ timeline.sounds encoding ↔ ∃ medium, timeline.SoundOf encoding medium sound := by
  -- the sounds of the clips come first, then those of the tracks, as among the media
  constructor
  · intro hsound
    obtain ⟨medium, -, hof⟩ := exists_mem_of_forall₂ (timeline.sounds_of_voices encoding) hsound
    exact ⟨medium, hof⟩
  · rintro ⟨medium, hof⟩
    rw [sounds, clipInputs_eq, trackInputs_eq, List.mem_append, List.mem_map, List.mem_map]
    cases hof with
    | @clip clip index hindex haudio =>
      rw [media_getElem?_eq_clip_iff] at hindex
      exact .inl ⟨(clip.contribution encoding.overlayClips, index),
        List.mem_filter.mpr ⟨List.mem_map_of_mem hindex, haudio⟩, rfl⟩
    | @track track index hindex =>
      rw [media_getElem?_eq_track_iff] at hindex
      exact .inr ⟨(track.contribution timeline.totalFrames, index),
        List.mem_map_of_mem hindex, rfl⟩

/-! ## Pads that are read -/

/-- A stage with some filters reads a pad of the input file with the number of a medium, and the
filters are those of that medium. -/
inductive ReadsPad (index : ℕ) : Medium → String → List Filter → Prop
  | frames : ReadsPad index .frames (videoPad index)
      [.plain "fps" [toString timeline.fps], .plain "format" [encoding.pixelFormat]]
  | picture {clip : Clip} {filters : List Filter} (hgives : clip.givesPicture encoding.overlayClips)
      (hfilters : (clip.contribution encoding.overlayClips).pictureFilters timeline.fps =
        .ok filters) : ReadsPad index (.clip clip) (videoPad index) filters
  | sound {clip : Clip} {filters : List Filter} (hgives : clip.includeAudio)
      (hfilters : (clip.contribution encoding.overlayClips).soundFilters timeline.fps =
        .ok filters) : ReadsPad index (.clip clip) (audioPad index) filters
  | track {track : Track} {filters : List Filter}
      (hfilters : (track.contribution timeline.totalFrames).soundFilters timeline.fps =
        .ok filters) : ReadsPad index (.track track) (audioPad index) filters

/-- The input files of a graph and the pads that its stages read agree. -/
structure PadsAgree (graph : Graph) : Prop where
  inputs_eq : graph.inputs =
    (timeline.media encoding).zipIdx.map fun (medium, index) => medium.input index
  /-- A pad that is read is one of an input file, and is read for what is in that file. -/
  readsPad : ∀ stage ∈ graph.stages, ∀ pad ∈ stage.inputs, isPad pad = true →
    ∃ index medium, (timeline.media encoding)[index]? = some medium ∧
      timeline.ReadsPad encoding index medium pad stage.filters
  /-- Each input file is read. -/
  exists_readsPad : ∀ index medium, (timeline.media encoding)[index]? = some medium →
    ∃ stage ∈ graph.stages, ∃ pad ∈ stage.inputs,
      timeline.ReadsPad encoding index medium pad stage.filters
  /-- No pad is read twice. -/
  pads_nodup : ((graph.stages.flatMap Stage.inputs).filter isPad).Nodup

end Timeline

/-! ### The pads of a layout -/

/-- The stages of the overlays read one pad for each clip. -/
theorem overlayStages_pads (before : ℕ) (laids : List LaidClip) :
    ((overlayStages before laids).flatMap Stage.inputs).filter isPad =
      laids.map fun laid => videoPad laid.input := by
  induction laids generalizing before with
  | nil => rfl
  | cons laid rest ih =>
    rw [overlayStages, List.flatMap_cons, List.flatMap_cons, List.filter_append, List.filter_append,
      ih, List.map_cons]
    simp [preparedStage, overlaidStage]

/-- The chains read one pad for each sound. -/
theorem chainStages_pads {sounds : List HeardSound} (hproper : ∀ heard ∈ sounds, heard.Proper)
    (number : ℕ) : ((chainStages number sounds).flatMap Stage.inputs).filter isPad =
      sounds.map HeardSound.pad := by
  induction sounds generalizing number with
  | nil => rfl
  | cons heard rest ih =>
    obtain ⟨hheard, hproper⟩ := List.forall_mem_cons.mp hproper
    rw [chainStages, List.flatMap_cons, List.filter_append, ih hproper, List.map_cons]
    simp [chainStage, hheard.pad]

/-- The mix reads labels only, so that the pads are those of the chains. -/
theorem soundStages_pads {sounds : List HeardSound} (hproper : ∀ heard ∈ sounds, heard.Proper)
    (number : ℕ) : ((soundStages number sounds).flatMap Stage.inputs).filter isPad =
      sounds.map HeardSound.pad := by
  match sounds, hproper with
  | [], _ => rfl
  | [heard], hproper => simp [soundStages, (hproper heard (by simp)).pad]
  | first :: second :: rest, hproper =>
    rw [soundStages_cons_cons, List.flatMap_append, List.filter_append, chainStages_pads hproper,
      List.flatMap_singleton]
    have hlabels : ((chainStages number (first :: second :: rest)).map Stage.output).filter isPad =
        [] := by
      rw [List.filter_eq_nil_iff]
      intro label hlabel
      simp [isPad_of_mem_chainStages hproper hlabel]
    rw [Stage.mix, hlabels, List.append_nil]

namespace Timeline

variable (timeline : Timeline) (encoding : Encoding)

/-- The pads of a layout are the frames', and those of its clips and sounds. -/
theorem layout_pads {laids : List LaidClip} {sounds : List HeardSound}
    (hproper : ∀ heard ∈ sounds, heard.Proper) :
    ((timeline.layout encoding laids sounds).flatMap Stage.inputs).filter isPad =
      videoPad 0 ::
        (laids.map (fun laid => videoPad laid.input) ++ sounds.map HeardSound.pad) := by
  rw [layout, List.flatMap_cons, List.flatMap_append, List.filter_append, List.filter_append,
    overlayStages_pads, soundStages_pads hproper]
  simp [frameStage]

/-- The pads of the clips that are laid are those of their inputs. -/
theorem laid_pads {fps : ℤ} {entries : List (ClipSource × ℕ)} {laids : List LaidClip}
    (h : List.Forall₂ (LaidClip.Of fps) entries laids) :
    laids.map (fun laid => videoPad laid.input) = (entries.map Prod.snd).map videoPad := by
  induction h with
  | nil => rfl
  | cons hfirst _ ih => rw [List.map_cons, ih, hfirst.input, List.map_cons, List.map_cons]

theorem heard_pads {sounds : List Chain.Sound} {heard : List HeardSound}
    (h : List.Forall₂ HeardSound.Of sounds heard) :
    heard.map HeardSound.pad = sounds.map Chain.Sound.pad := by
  induction h with
  | nil => rfl
  | cons hfirst _ ih => rw [List.map_cons, ih, hfirst.pad, List.map_cons]

/-- The numbers of the input files that sounds are read from. -/
def soundIndices : List ℕ :=
  ((timeline.clipInputs encoding).filter fun entry => entry.1.heard).map Prod.snd ++
    (timeline.trackInputs encoding).map Prod.snd

/-- The pads of the sounds are the audio pads of their inputs. -/
theorem sounds_map_pad : (timeline.sounds encoding).map Chain.Sound.pad =
    (timeline.soundIndices encoding).map audioPad := by
  rw [sounds, soundIndices, List.map_append, List.map_append, List.map_map, List.map_map,
    List.map_map, List.map_map]
  rfl

theorem clipInputs_map_snd : (timeline.clipInputs encoding).map Prod.snd =
    List.range' 1 (timeline.clipSources encoding).length :=
  List.zipIdx_map_snd 1 _

/-- The clips that are overlaid have different numbers, none of which is that of the frames. -/
theorem overlays_indices_sublist : List.Sublist ((timeline.overlays encoding).map Prod.snd)
    (List.range' 1 (timeline.clipSources encoding).length) := by
  rw [← clipInputs_map_snd]
  exact List.filter_sublist.map Prod.snd

/-- No input is heard twice. -/
theorem soundIndices_nodup : (timeline.soundIndices encoding).Nodup := by
  have htracks : (timeline.trackInputs encoding).map Prod.snd =
      List.range' (1 + (timeline.clipSources encoding).length) timeline.trackSources.length :=
    List.zipIdx_map_snd _ _
  have hsublist : List.Sublist (timeline.soundIndices encoding)
      (List.range' 1 ((timeline.clipSources encoding).length + timeline.trackSources.length)) := by
    rw [← List.range'_append_1, ← clipInputs_map_snd, ← htracks]
    exact (List.filter_sublist.map Prod.snd).append (List.Sublist.refl _)
  exact hsublist.nodup List.nodup_range'

/-- No pad of a layout is read twice. -/
theorem layout_pads_nodup {laids : List LaidClip} {heard : List HeardSound}
    (hlaids : List.Forall₂ (LaidClip.Of timeline.fps) (timeline.overlays encoding) laids)
    (hheard : List.Forall₂ HeardSound.Of (timeline.sounds encoding) heard) :
    (((timeline.layout encoding laids heard).flatMap Stage.inputs).filter isPad).Nodup := by
  rw [timeline.layout_pads encoding (timeline.proper_of_sounds encoding hheard), laid_pads hlaids,
    heard_pads hheard, sounds_map_pad, List.nodup_cons, List.nodup_append']
  have hoverlays := timeline.overlays_indices_sublist encoding
  -- the frames' pad has a number of its own, and no pad of a picture is one of a sound
  refine ⟨?_, (hoverlays.nodup List.nodup_range').map fun _ _ => videoPad_inj.mp,
    (timeline.soundIndices_nodup encoding).map fun _ _ => audioPad_inj.mp, ?_⟩
  · rw [List.mem_append, List.mem_map, List.mem_map]
    rintro (⟨index, hindex, hpad⟩ | ⟨index, -, hpad⟩)
    · have hrange := hoverlays.subset hindex
      rw [videoPad_inj.mp hpad, List.mem_range'_1] at hrange
      omega
    · exact videoPad_ne_audioPad 0 index hpad.symm
  · intro pad hvideo haudio
    obtain ⟨i, -, rfl⟩ := List.mem_map.mp hvideo
    obtain ⟨j, -, hpad⟩ := List.mem_map.mp haudio
    exact videoPad_ne_audioPad i j hpad.symm

end Timeline

/-! ### The stages that read pads -/

/-- A pad that is read while clips are laid over the picture is that of a clip. -/
theorem exists_laid_of_pad {laids : List LaidClip} {before : ℕ} {stage : Stage} {pad : String}
    (hstage : stage ∈ overlayStages before laids) (hread : pad ∈ stage.inputs)
    (hpad : isPad pad = true) :
    ∃ laid ∈ laids, pad = videoPad laid.input ∧ stage.filters = laid.picture := by
  obtain ⟨laid, hlaid, place, rfl | rfl⟩ := exists_laid_of_mem_overlayStages hstage
  · exact ⟨laid, hlaid, List.mem_singleton.mp hread, rfl⟩
  · -- the stage that lays a clip over the picture reads two labels and no pad
    rw [overlaidStage, List.mem_cons, List.mem_singleton] at hread
    rcases hread with rfl | rfl <;> simp at hpad

/-- A pad that is read for the sound is that of a sound. -/
theorem exists_heard_of_pad {sounds : List HeardSound} (hproper : ∀ heard ∈ sounds, heard.Proper)
    {number : ℕ} {stage : Stage} {pad : String} (hstage : stage ∈ soundStages number sounds)
    (hread : pad ∈ stage.inputs) (hpad : isPad pad = true) :
    ∃ heard ∈ sounds, pad = heard.pad ∧ stage.filters = heard.filters := by
  obtain ⟨chains, hplays, hsounds⟩ := soundStages_eq_append number sounds
  have hchains : ∀ chain ∈ chains, isPad chain.output = false := fun chain hchain =>
    @isPad_of_mem_soundStages _ hproper number _
      (by rw [hsounds]; exact List.mem_append_left _ hchain)
  rw [hsounds, List.mem_append] at hstage
  rcases hstage with hstage | hstage
  · obtain ⟨heard, hheard, hinputs, hfilters⟩ := exists_mem_of_forall₂ hplays hstage
    rw [hinputs, List.mem_singleton] at hread
    exact ⟨heard, hheard, hread, hfilters⟩
  · -- the mix reads the labels of the chains, none of which looks like a pad
    split at hstage
    · rw [List.mem_singleton] at hstage
      rw [hstage, Stage.mix, List.mem_map] at hread
      obtain ⟨chain, hchain, rfl⟩ := hread
      rw [hchains chain hchain] at hpad
      simp at hpad
    · simp at hstage

/-- Every sound is played by one of the stages. -/
theorem exists_stage_of_heard {sounds : List HeardSound} {heard : HeardSound}
    (hheard : heard ∈ sounds) (number : ℕ) :
    ∃ stage ∈ soundStages number sounds, heard.Plays stage := by
  obtain ⟨chains, hplays, hsounds⟩ := soundStages_eq_append number sounds
  obtain ⟨stage, hstage, hof⟩ := exists_mem_of_forall₂ hplays.flip hheard
  exact ⟨stage, by rw [hsounds]; exact List.mem_append_left _ hstage, hof⟩

namespace Timeline

variable {timeline : Timeline} {encoding : Encoding}

/-- The picture of a clip that is laid reads the pad of that clip. -/
theorem readsPad_of_laid {entry : ClipSource × ℕ} (hentry : entry ∈ timeline.overlays encoding)
    {laid : LaidClip} (hof : LaidClip.Of timeline.fps entry laid) :
    ∃ medium, (timeline.media encoding)[laid.input]? = some medium ∧
      timeline.ReadsPad encoding laid.input medium (videoPad laid.input) laid.picture := by
  obtain ⟨clip, hindex, hgives, hcontribution⟩ := (timeline.mem_overlays_iff encoding entry).mp hentry
  rw [← hof.input] at hindex
  exact ⟨_, hindex, .picture hgives (hcontribution ▸ hof.picture)⟩

/-- A sound reads the pad of the medium that it is of. -/
theorem readsPad_of_heard {sound : Chain.Sound} {medium : Medium}
    (hsound : timeline.SoundOf encoding medium sound) {filters : List Filter}
    (hfilters : sound.filters = .ok filters) :
    ∃ index, (timeline.media encoding)[index]? = some medium ∧
      timeline.ReadsPad encoding index medium sound.pad filters := by
  cases hsound with
  | clip hindex haudio => exact ⟨_, hindex, .sound haudio hfilters⟩
  | track hindex => exact ⟨_, hindex, .track hfilters⟩

/-- A pad that a layout reads is that of the medium whose filters the stage has. -/
theorem readsPad_of_layout {laids : List LaidClip} {heard : List HeardSound}
    (hlaids : List.Forall₂ (LaidClip.Of timeline.fps) (timeline.overlays encoding) laids)
    (hheard : List.Forall₂ HeardSound.Of (timeline.sounds encoding) heard) {stage : Stage}
    (hstage : stage ∈ timeline.layout encoding laids heard) {pad : String}
    (hread : pad ∈ stage.inputs) (hpad : isPad pad = true) :
    ∃ index medium, (timeline.media encoding)[index]? = some medium ∧
      timeline.ReadsPad encoding index medium pad stage.filters := by
  -- a pad is read by the stage of the frames, by a picture or by a chain
  rw [layout, List.mem_cons, List.mem_append] at hstage
  rcases hstage with rfl | hstage | hstage
  · obtain rfl : pad = videoPad 0 := List.mem_singleton.mp hread
    exact ⟨0, .frames, rfl, .frames⟩
  · obtain ⟨laid, hlaid, rfl, hfilters⟩ := exists_laid_of_pad hstage hread hpad
    obtain ⟨entry, hentry, hof⟩ := exists_mem_of_forall₂ hlaids hlaid
    rw [hfilters]
    exact ⟨laid.input, readsPad_of_laid hentry hof⟩
  · obtain ⟨sound, hsound, rfl, hfilters⟩ :=
      exists_heard_of_pad (timeline.proper_of_sounds encoding hheard) hstage hread hpad
    obtain ⟨source, hsource, hof⟩ := exists_mem_of_forall₂ hheard hsound
    obtain ⟨medium, hmedium⟩ := (timeline.mem_sounds_iff encoding source).mp hsource
    obtain ⟨index, hindex, hreads⟩ := readsPad_of_heard hmedium hof.filters
    rw [hfilters, hof.pad]
    exact ⟨index, medium, hindex, hreads⟩

/-- A medium with a picture has the two stages of a clip with its filters in a layout. -/
theorem exists_stages_of_picture {laids : List LaidClip} {heard : List HeardSound}
    (hlaids : List.Forall₂ (LaidClip.Of timeline.fps) (timeline.overlays encoding) laids)
    {index : ℕ} {clip : Clip} (hindex : (timeline.media encoding)[index]? = some (.clip clip))
    (hgives : clip.givesPicture encoding.overlayClips) :
    ∃ laid place, LaidClip.Of timeline.fps (clip.contribution encoding.overlayClips, index) laid ∧
      preparedStage place laid ∈ timeline.layout encoding laids heard ∧
      overlaidStage place laid ∈ timeline.layout encoding laids heard := by
  have hentry : (clip.contribution encoding.overlayClips, index) ∈ timeline.overlays encoding :=
    (timeline.mem_overlays_iff encoding _).mpr ⟨clip, hindex, hgives, rfl⟩
  obtain ⟨laid, hlaid, hof⟩ := exists_mem_of_forall₂ hlaids.flip hentry
  obtain ⟨place, hprepared, hoverlaid⟩ := exists_stages_of_laid hlaid 0
  exact ⟨laid, place, hof, List.mem_cons_of_mem _ (List.mem_append_left _ hprepared),
    List.mem_cons_of_mem _ (List.mem_append_left _ hoverlaid)⟩

/-- Each sound has a stage with its pad and its filters in a layout. -/
theorem exists_stage_of_sound {laids : List LaidClip} {heard : List HeardSound}
    (hheard : List.Forall₂ HeardSound.Of (timeline.sounds encoding) heard) {sound : Chain.Sound}
    (hsound : sound ∈ timeline.sounds encoding) :
    ∃ stage ∈ timeline.layout encoding laids heard, stage.inputs = [sound.pad] ∧
      sound.filters = .ok stage.filters := by
  obtain ⟨own, hown, hof⟩ := exists_mem_of_forall₂ hheard.flip hsound
  obtain ⟨stage, hstage, hinputs, hfilters⟩ := exists_stage_of_heard hown
    (if laids.isEmpty then 0 else 2 * laids.length + 1)
  refine ⟨stage, List.mem_cons_of_mem _ (List.mem_append_right _ hstage), ?_, ?_⟩
  · rw [hinputs, hof.pad]
  · rw [hfilters, hof.filters]

/-- Each medium is read by a layout. -/
theorem exists_readsPad_of_layout {laids : List LaidClip} {heard : List HeardSound}
    (hlaids : List.Forall₂ (LaidClip.Of timeline.fps) (timeline.overlays encoding) laids)
    (hheard : List.Forall₂ HeardSound.Of (timeline.sounds encoding) heard) {index : ℕ}
    {medium : Medium} (hindex : (timeline.media encoding)[index]? = some medium) :
    ∃ stage ∈ timeline.layout encoding laids heard, ∃ pad ∈ stage.inputs,
      timeline.ReadsPad encoding index medium pad stage.filters := by
  -- every medium that is an input is read for its picture or for its sound
  cases medium with
  | frames =>
    rw [media_getElem?_eq_frames_iff] at hindex
    subst hindex
    exact ⟨_, List.mem_cons_self, _, List.mem_singleton_self _, .frames⟩
  | clip clip =>
    have hmem := (timeline.media_getElem?_eq_clip_iff encoding clip index).mp hindex
    have hgives := (List.mem_filter.mp (List.fst_mem_of_mem_zipIdx hmem)).2
    rw [Bool.or_eq_true] at hgives
    rcases hgives with hgives | hgives
    · obtain ⟨laid, place, hof, hprepared, -⟩ := exists_stages_of_picture hlaids hindex hgives
      refine ⟨preparedStage place laid, hprepared, videoPad index, ?_, .picture hgives hof.picture⟩
      rw [preparedStage, hof.input]
      exact List.mem_singleton_self _
    · -- a clip that gives no picture has been kept for its sound
      have haudio : clip.includeAudio := by
        rw [Clip.givesSound, Bool.and_eq_true] at hgives
        exact hgives.1
      obtain ⟨stage, hstage, hinputs, hfilters⟩ := exists_stage_of_sound hheard
        ((timeline.mem_sounds_iff encoding _).mpr ⟨_, .clip hindex haudio⟩)
      exact ⟨stage, hstage, _, by rw [hinputs]; exact List.mem_singleton_self _,
        .sound haudio hfilters⟩
  | track track =>
    obtain ⟨stage, hstage, hinputs, hfilters⟩ := exists_stage_of_sound hheard
      ((timeline.mem_sounds_iff encoding _).mpr ⟨_, .track hindex⟩)
    exact ⟨stage, hstage, _, by rw [hinputs]; exact List.mem_singleton_self _, .track hfilters⟩

/-- **The pads of a compiled graph are those of its input files.** -/
theorem padsAgree_of_compile {graph : Graph} (h : Graph.compile timeline encoding = .ok graph) :
    timeline.PadsAgree encoding graph := by
  obtain ⟨-, laids, heard, hlaids, hheard, rfl⟩ := (Graph.compile_eq_ok_iff _ _ _).mp h
  exact ⟨timeline.inputs_eq encoding,
    fun _ hstage _ => readsPad_of_layout hlaids hheard hstage,
    fun _ _ => exists_readsPad_of_layout hlaids hheard,
    timeline.layout_pads_nodup encoding hlaids hheard⟩

end Timeline

end Montage
