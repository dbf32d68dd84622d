import Mathlib.Data.List.Forall2
import Mathlib.Data.Nat.Notation
import Montage.Proofs.Graph.Pads

/-!
# What a graph sounds like

The sound of a graph is read off the graph itself: a stage that reads the pad of one input file is a
chain, and `Graph.soundChains` lists the chains with the files that their pads refer to. Numbers of
files and of labels depend on what else is in the graph, so a chain is given without them.

The chains of a compiled graph are those of the voices of its timeline, in their order
(`Timeline.HeardAs`, `soundChains_of_compile`), and the mix reads what they write
(`mixes_of_compile`). Neither depends on whether clips are laid over the picture, so the sound stays
the same when they are not (`Graph.compile_without_overlays`).
-/

namespace Montage

open Ledger Layout

/-! ## Labels without their numbers -/

/-- A label without the number at its end. -/
def stemOf (label : String) : String :=
  String.ofList (label.toList.reverse.dropWhile Char.isDigit).reverse

/-- The number after a stem is all that is taken off, as long as the stem does not end in a digit. -/
theorem stemOf_append {stem : String} (number : ℕ)
    (h : stem.toList.reverse.dropWhile Char.isDigit = stem.toList.reverse) :
    stemOf (stem ++ toString number) = stem := by
  have hdigits : ∀ c ∈ (Nat.toDigits 10 number).reverse, c.isDigit = true := fun c hc =>
    Nat.isDigit_of_mem_toDigits (by decide) (by decide) (List.mem_reverse.mp hc)
  rw [stemOf, String.toList_append, List.reverse_append, Nat.toString_eq_repr, Nat.toList_repr,
    List.dropWhile_append_of_pos hdigits, h, List.reverse_reverse, String.ofList_toList]

/-- The stem of a label is what stands before its number. -/
theorem stemOf_chainStage (number : ℕ) (heard : HeardSound) :
    stemOf (chainStage number heard).output = heard.stem ++ "_" :=
  stemOf_append number (by simp)

theorem stemOf_audioLabel : stemOf Graph.audioLabel = Graph.audioLabel := by
  decide +kernel

/-! ## Reading the sound of a graph -/

namespace Graph

/-- A chain of sound: the file that it is read from, the label that it writes, up to its number, and
its filters. -/
structure SoundChain where
  path : String
  sourceId : Option String
  stem : String
  filters : List Filter
deriving Repr, DecidableEq

variable (graph : Graph)

/-- The input file that a pad reads the sound of. -/
def soundFile? (pad : String) : Option Input :=
  graph.inputs.find? fun file => audioPad file.index = pad

/-- The chain of a stage that reads the sound of one file. -/
def chainOf? (stage : Stage) : Option SoundChain :=
  match stage.inputs with
  | [pad] => (graph.soundFile? pad).map fun file =>
    ⟨file.path, file.sourceId, stemOf stage.output, stage.filters⟩
  | _ => none

/-- The chains of a graph, in the order of its stages. -/
def soundChains : List SoundChain :=
  graph.stages.filterMap graph.chainOf?

/-- The mixes of a graph, each with the labels that it reads, up to their numbers. -/
def mixes : List (List String × Filter) :=
  graph.stages.flatMap fun stage =>
    (stage.filters.filter fun filter => filter.name = "amix").map fun filter =>
      (stage.inputs.map stemOf, filter)

/-- A stage that reads one sound file is the chain of that file. -/
theorem chainOf?_of_soundFile {stage : Stage} {pad : String} (hinputs : stage.inputs = [pad])
    {file : Input} (hfile : graph.soundFile? pad = some file) : graph.chainOf? stage =
      some ⟨file.path, file.sourceId, stemOf stage.output, stage.filters⟩ := by
  simp [chainOf?, hinputs, hfile]

/-- No sound is read from the pad of a picture. -/
theorem chainOf?_of_videoPad {stage : Stage} {index : ℕ} (hinputs : stage.inputs = [videoPad index]) :
    graph.chainOf? stage = none := by
  have hfile : graph.soundFile? (videoPad index) = none := by
    rw [soundFile?, List.find?_eq_none]
    intro file _ hpad
    exact videoPad_ne_audioPad index file.index (of_decide_eq_true hpad).symm
  simp [chainOf?, hinputs, hfile]

/-- A stage that reads several labels is no chain. -/
theorem chainOf?_of_several {stage : Stage} (hinputs : 2 ≤ stage.inputs.length) :
    graph.chainOf? stage = none := by
  rw [chainOf?]
  split
  · rename_i hone
    simp [hone] at hinputs
  · rfl

theorem stem_of_chainOf? {stage : Stage} {chain : SoundChain}
    (h : graph.chainOf? stage = some chain) : chain.stem = stemOf stage.output := by
  rw [chainOf?] at h
  split at h
  · obtain ⟨file, -, rfl⟩ := Option.map_eq_some_iff.mp h
    rfl
  · cases h

end Graph

/-! ## The chains of voices -/

namespace Timeline

variable {timeline : Timeline} {encoding : Encoding}

/-- What the chain of a voice writes, up to a number: the sound itself when there is no other
voice. -/
def chainStem (timeline : Timeline) (stem : String) : String :=
  if timeline.voices.length = 1 then Graph.audioLabel else stem ++ "_"

/-- A voice is heard through a chain: the chain is read from its file and has its filters. Whether a
clip is laid over the picture makes no difference to its filters. -/
inductive HeardAs (timeline : Timeline) : Medium → Graph.SoundChain → Prop
  | clip {clip : Clip} {filters : List Filter}
      (hfilters : (clip.contribution true).soundFilters timeline.fps = .ok filters) :
      HeardAs timeline (.clip clip) ⟨clip.path, clip.id, timeline.chainStem "a_embed", filters⟩
  | track {track : Track} {filters : List Filter}
      (hfilters : (track.contribution timeline.totalFrames).soundFilters timeline.fps =
        .ok filters) :
      HeardAs timeline (.track track)
        ⟨track.source.path, track.id, timeline.chainStem "a_track", filters⟩

/-- A voice is heard through one chain only. -/
theorem HeardAs.unique {medium : Medium} {first second : Graph.SoundChain}
    (hfirst : timeline.HeardAs medium first) (hsecond : timeline.HeardAs medium second) :
    first = second := by
  cases hfirst with
  | clip hfilters =>
    cases hsecond with
    | clip hother =>
      obtain rfl := Except.ok.inj (hfilters.symm.trans hother)
      rfl
  | track hfilters =>
    cases hsecond with
    | track hother =>
      obtain rfl := Except.ok.inj (hfilters.symm.trans hother)
      rfl

/-- The file with the number of a medium is found by that number. -/
theorem soundFile?_of_media {graph : Graph} (hinputs : graph.inputs = timeline.inputs encoding)
    {index : ℕ} {medium : Medium} (hmedium : (timeline.media encoding)[index]? = some medium) :
    graph.soundFile? (audioPad index) = some (medium.input index) := by
  have hget (place : ℕ) : graph.inputs[place]? =
      ((timeline.media encoding)[place]?).map fun medium => medium.input place := by
    rw [hinputs, inputs_eq, List.getElem?_map, List.getElem?_zipIdx, Option.map_map]
    simp [Function.comp_def]
  have hmem : medium.input index ∈ graph.inputs := by
    rw [List.mem_iff_getElem?]
    exact ⟨index, by rw [hget, hmedium]; rfl⟩
  obtain ⟨file, hfile⟩ : ∃ file, graph.soundFile? (audioPad index) = some file := by
    rw [← Option.isSome_iff_exists, Graph.soundFile?, List.find?_isSome]
    exact ⟨_, hmem, decide_eq_true rfl⟩
  -- the file that is found stands at the place that its number says
  obtain ⟨place, hplace⟩ := List.mem_iff_getElem?.mp (List.mem_of_find?_eq_some hfile)
  have hfound : graph.inputs.find? (fun file => audioPad file.index = audioPad index) = some file :=
    hfile
  have hindex := List.find?_some hfound
  rw [decide_eq_true_eq, audioPad_inj] at hindex
  rw [hget] at hplace
  obtain ⟨other, hother, rfl⟩ := Option.map_eq_some_iff.mp hplace
  obtain rfl : place = index := hindex
  rw [hmedium] at hother
  cases hother
  exact hfile

/-- A stage is the chain of a voice when it reads the pad of the voice, has its filters, and writes
the label that comes with the number of voices. -/
theorem heardAs_of_chain {graph : Graph} (hinputs : graph.inputs = timeline.inputs encoding)
    {medium : Medium} {sound : Chain.Sound} (hsound : timeline.SoundOf encoding medium sound)
    {stage : Stage} (hpad : stage.inputs = [sound.pad])
    (hfilters : sound.filters = .ok stage.filters)
    (hstem : stemOf stage.output = timeline.chainStem sound.stem) :
    ∃ chain, graph.chainOf? stage = some chain ∧ timeline.HeardAs medium chain := by
  cases hsound with
  | clip hindex haudio =>
    refine ⟨_, graph.chainOf?_of_soundFile hpad (soundFile?_of_media hinputs hindex), ?_⟩
    rw [hstem]
    exact .clip hfilters
  | track hindex =>
    refine ⟨_, graph.chainOf?_of_soundFile hpad (soundFile?_of_media hinputs hindex), ?_⟩
    rw [hstem]
    exact .track hfilters

/-! ### Stages of a layout -/

/-- Every chain plays its sound under a label with the stem of the sound. -/
theorem forall₂_stem_chainStages (number : ℕ) (sounds : List HeardSound) :
    List.Forall₂ (fun (heard : HeardSound) (stage : Stage) =>
        heard.Plays stage ∧ stemOf stage.output = heard.stem ++ "_")
      sounds (chainStages number sounds) := by
  induction sounds generalizing number with
  | nil => exact .nil
  | cons heard rest ih =>
    refine .cons ?_ (ih (number + 1))
    exact ⟨⟨rfl, rfl⟩, stemOf_chainStage number heard⟩

/-- Each sound has a chain with its pad, its filters and, up to a number, its stem. -/
theorem forall₂_stem_chains (number : ℕ) (sounds : List HeardSound) :
    List.Forall₂ (fun (heard : HeardSound) (stage : Stage) => heard.Plays stage ∧
        stemOf stage.output = if sounds.length = 1 then Graph.audioLabel else heard.stem ++ "_")
      sounds (chains number sounds) := by
  match sounds with
  | [] => exact .nil
  | [heard] =>
    refine .cons ?_ .nil
    exact ⟨⟨rfl, rfl⟩, stemOf_audioLabel⟩
  | first :: second :: rest =>
    simp only [List.length_cons, Nat.add_eq_right, Nat.add_one_ne_zero, if_false]
    exact forall₂_stem_chainStages number (first :: second :: rest)

/-- The chains of a layout are those of the voices, in their order. -/
theorem heard_of_layout {graph : Graph} (hinputs : graph.inputs = timeline.inputs encoding)
    {heard : List HeardSound} (hheard : List.Forall₂ HeardSound.Of (timeline.sounds encoding) heard)
    (number : ℕ) :
    List.Forall₂ (fun medium stage =>
        ∃ chain, graph.chainOf? stage = some chain ∧ timeline.HeardAs medium chain)
      timeline.voices (chains number heard) := by
  have hvoices := timeline.sounds_of_voices encoding
  have hlength : heard.length = timeline.voices.length := by
    rw [← hheard.length_eq, hvoices.length_eq]
  have hstages := forall₂_stem_chains number heard
  rw [hlength] at hstages
  -- sounds, what is heard of them and the chains are matched in order, and the matches composed
  have hfilters : List.Forall₂ (fun medium heard =>
      ∃ sound, timeline.SoundOf encoding medium sound ∧ HeardSound.Of sound heard)
      timeline.voices heard :=
    forall₂_trans (fun _ sound _ hsound hof => ⟨sound, hsound, hof⟩) hvoices hheard
  refine forall₂_trans ?_ hfilters hstages
  rintro medium heard stage ⟨sound, hsound, hof⟩ ⟨⟨hpad, hsame⟩, hstem⟩
  refine heardAs_of_chain hinputs hsound (by rw [hpad, hof.pad]) (by rw [hsame, hof.filters]) ?_
  rw [hstem, hof.stem]
  rfl

/-- No chain belongs to the picture. -/
theorem silent_of_picture (graph : Graph) {fps : ℤ} {pixelFormat : String} {covered : Bool}
    {laid : List LaidClip} {stage : Stage}
    (hstage : stage ∈ frameStage fps pixelFormat covered :: overlayStages 0 laid) :
    graph.chainOf? stage = none := by
  rcases List.mem_cons.mp hstage with rfl | hstage
  · exact graph.chainOf?_of_videoPad rfl
  · obtain ⟨clip, -, place, rfl | rfl⟩ := exists_laid_of_mem_overlayStages hstage
    · exact graph.chainOf?_of_videoPad rfl
    · exact graph.chainOf?_of_several (Nat.le_refl 2)

/-- The stages of a graph as they sound: those of the picture are silent, each voice has a chain, and
the chains are mixed when there are several. -/
structure Sounding (timeline : Timeline) (graph : Graph) (picture chains : List Stage) : Prop where
  stages_eq : graph.stages = picture ++ chains ++
    if 2 ≤ chains.length then [.mix (chains.map Stage.output)] else []
  silent : ∀ stage ∈ picture, graph.chainOf? stage = none
  heard : List.Forall₂ (fun medium stage =>
    ∃ chain, graph.chainOf? stage = some chain ∧ timeline.HeardAs medium chain)
    timeline.voices chains
  name_ne : ∀ stage ∈ picture ++ chains, ∀ filter ∈ stage.filters, filter.name ≠ "amix"

/-- A compiled graph is a picture and chains, one for each voice. -/
theorem sounding_of_compile {graph : Graph} (h : Graph.compile timeline encoding = .ok graph) :
    ∃ picture chains, timeline.Sounding graph picture chains := by
  obtain ⟨-, laid, heard, hlaid, hheard, hgraph⟩ := (Graph.compile_eq_ok_iff _ _ _).mp h
  have hinputs : graph.inputs = timeline.inputs encoding := by rw [hgraph]
  -- where the labels of the sounds begin
  obtain ⟨number, hnumber⟩ : ∃ number, number = if laid.isEmpty then 0 else 2 * laid.length + 1 :=
    ⟨_, rfl⟩
  refine ⟨frameStage timeline.fps encoding.pixelFormat (!laid.isEmpty) :: overlayStages 0 laid,
    chains number heard, ?_, fun _ => silent_of_picture _, heard_of_layout hinputs hheard number, ?_⟩
  · rw [hgraph, List.append_assoc, ← soundStages_eq, hnumber]
    rfl
  · intro stage hstage
    rcases List.mem_append.mp hstage with hstage | hstage
    · exact timeline.name_ne_of_picture encoding hlaid hstage
    · have hchains := timeline.forall₂_chainOf encoding hheard (forall₂_plays_chains number heard)
      obtain ⟨medium, -, hchain⟩ := exists_mem_of_forall₂ hchains hstage
      exact timeline.name_ne_of_chain encoding hchain

namespace Sounding

variable {graph : Graph} {picture chains : List Stage}
  (h : timeline.Sounding graph picture chains)

include h

/-- The chains of a graph are read off the stages of the voices. -/
theorem soundChains_eq : graph.soundChains = chains.filterMap graph.chainOf? := by
  have hpicture : picture.filterMap graph.chainOf? = [] :=
    List.filterMap_eq_nil_iff.mpr h.silent
  have hmix : (if 2 ≤ chains.length then [Stage.mix (chains.map Stage.output)] else []).filterMap
      graph.chainOf? = [] := by
    by_cases hseveral : 2 ≤ chains.length
    · have hnone : graph.chainOf? (.mix (chains.map Stage.output)) = none :=
        graph.chainOf?_of_several (by rwa [Stage.mix, List.length_map])
      rw [if_pos hseveral, List.filterMap_cons_none hnone, List.filterMap_nil]
    · rw [if_neg hseveral, List.filterMap_nil]
  rw [Graph.soundChains, h.stages_eq, List.filterMap_append, List.filterMap_append, hpicture, hmix,
    List.nil_append, List.append_nil]

/-- The chains of sound stand for the voices of the timeline, in order. -/
theorem heardAs : List.Forall₂ timeline.HeardAs timeline.voices graph.soundChains := by
  rw [h.soundChains_eq]
  exact forall₂_filterMap h.heard

/-- The labels of the chains, up to their numbers. -/
theorem map_stem : graph.soundChains.map Graph.SoundChain.stem =
    (chains.map Stage.output).map stemOf := by
  rw [h.soundChains_eq, List.map_map, ← List.forall₂_eq_eq_eq, List.forall₂_map_left_iff,
    List.forall₂_map_right_iff]
  have hchains : List.Forall₂ (fun stage other =>
      ∃ chain, graph.chainOf? other = some chain ∧ stemOf stage.output = chain.stem)
      chains chains := by
    rw [List.forall₂_same]
    intro stage hstage
    obtain ⟨-, -, chain, hchain, -⟩ := exists_mem_of_forall₂ h.heard hstage
    exact ⟨chain, hchain, (Graph.stem_of_chainOf? graph hchain).symm⟩
  exact (forall₂_filterMap hchains).flip.imp fun _ _ => Eq.symm

/-- There is one mix, of all chains, when there are several. -/
theorem mixes_eq : graph.mixes = if 2 ≤ graph.soundChains.length then
    [(graph.soundChains.map Graph.SoundChain.stem, .mix graph.soundChains.length)] else [] := by
  have hlength : graph.soundChains.length = chains.length := by
    rw [← h.heardAs.length_eq, h.heard.length_eq]
  -- no other stage mixes, so what is collected comes from the last one
  have hothers : ((picture ++ chains).flatMap fun stage =>
      (stage.filters.filter fun filter => filter.name = "amix").map fun filter =>
        (stage.inputs.map stemOf, filter)) = [] := by
    rw [List.flatMap_eq_nil_iff]
    intro stage hstage
    rw [List.map_eq_nil_iff, List.filter_eq_nil_iff]
    intro filter hfilter
    rw [decide_eq_true_eq]
    exact h.name_ne stage hstage filter hfilter
  rw [Graph.mixes, h.stages_eq, List.flatMap_append, hothers, List.nil_append, h.map_stem, hlength]
  by_cases hseveral : 2 ≤ chains.length
  · rw [if_pos hseveral, if_pos hseveral]
    simp [Stage.mix, Filter.mix, Filter.keyed]
  · rw [if_neg hseveral, if_neg hseveral, List.flatMap_nil]

end Sounding

end Timeline

/-! ## Clips that are not laid over the picture -/

namespace Graph

variable {timeline : Timeline} {encoding : Encoding} {graph : Graph}

/-- The sound of a compiled graph: a chain for each voice, in their order, and one mix of the chains
when there are several. It is delivered when there are voices. -/
theorem sound_of_compile (h : Graph.compile timeline encoding = .ok graph) :
    List.Forall₂ timeline.HeardAs timeline.voices graph.soundChains ∧
      (graph.mixes = if 2 ≤ graph.soundChains.length then
        [(graph.soundChains.map SoundChain.stem, .mix graph.soundChains.length)] else []) ∧
      graph.audioOut = if timeline.voices.isEmpty then none else some Graph.audioLabel := by
  obtain ⟨picture, chains, hsounding⟩ := Timeline.sounding_of_compile h
  obtain ⟨-, _, _, -, -, rfl⟩ := (compile_eq_ok_iff _ _ _).mp h
  exact ⟨hsounding.heardAs, hsounding.mixes_eq, timeline.audioOut_eq_of_voices encoding⟩

/-- A timeline that can be compiled can also be compiled without laying its clips over the picture. -/
theorem exists_compile_without_overlays (h : Graph.compile timeline encoding = .ok graph) :
    ∃ other, Graph.compile timeline { encoding with overlayClips := false } = .ok other := by
  obtain ⟨hcheck, -, -, -, -, -⟩ := (compile_eq_ok_iff _ _ _).mp h
  obtain ⟨hvoices, -⟩ := sound_of_compile h
  have hnone : timeline.overlays { encoding with overlayClips := false } = [] := by
    have hclips := timeline.overlays_of_clips { encoding with overlayClips := false }
    have hempty : timeline.overlaidClips { encoding with overlayClips := false } = [] := by
      rw [Timeline.overlaidClips, List.filter_eq_nil_iff]
      intro clip _
      simp [Clip.givesPicture]
    rw [hempty, List.forall₂_nil_left_iff] at hclips
    exact hclips
  -- the filters of each voice have been computed
  obtain ⟨heard, hheard⟩ : ∃ heard, List.Forall₂ HeardSound.Of
      (timeline.sounds { encoding with overlayClips := false }) heard := by
    apply exists_forall₂
    intro sound hsound
    obtain ⟨medium, hmedium, hof⟩ := exists_mem_of_forall₂
      (timeline.sounds_of_voices { encoding with overlayClips := false }) hsound
    obtain ⟨chain, -, hchain⟩ := exists_mem_of_forall₂ hvoices.flip hmedium
    cases hof <;> cases hchain <;> exact ⟨⟨_, _, _⟩, rfl, rfl, ‹_›⟩
  refine ⟨_, (compile_eq_ok_iff _ _ _).mpr ⟨hcheck, [], heard, ?_, hheard, rfl⟩⟩
  rw [hnone]
  exact .nil

/-- **The sound stays the same when clips are not laid over the picture.** The graph is compiled, with
the same chains of sound, each read from the same file through the same filters; there is sound in
one of the graphs if there is in the other, and the mix has as many inputs, which are labelled the
same up to numbers. The chains are those of the voices of the timeline. -/
theorem compile_without_overlays (h : Graph.compile timeline encoding = .ok graph) :
    ∃ other, Graph.compile timeline { encoding with overlayClips := false } = .ok other ∧
      other.soundChains = graph.soundChains ∧ other.audioOut = graph.audioOut ∧
      other.mixes = graph.mixes ∧
      List.Forall₂ timeline.HeardAs timeline.voices graph.soundChains := by
  obtain ⟨other, hother⟩ := exists_compile_without_overlays h
  obtain ⟨hvoices, hmixes, haudio⟩ := sound_of_compile h
  obtain ⟨hotherVoices, hotherMixes, hotherAudio⟩ := sound_of_compile hother
  -- a voice is heard through one chain only, so the same voices have the same chains
  have hunique : Relator.RightUnique timeline.HeardAs := fun _ _ _ => Timeline.HeardAs.unique
  have hchains : other.soundChains = graph.soundChains := hunique.forall₂ hotherVoices hvoices
  have hmix : other.mixes = graph.mixes := by rw [hotherMixes, hmixes, hchains]
  exact ⟨other, hother, hchains, hotherAudio.trans haudio.symm, hmix, hvoices⟩

end Graph

/-- The duet with its clips seen only. -/
def mime : Timeline :=
  { duet with clips := duet.clips.map fun clip => { clip with includeAudio := false } }

theorem mime_clips : ∀ clip ∈ mime.clips, clip.Valid ∧ clip.Finite := by
  intro clip hclip
  obtain ⟨own, hown, rfl⟩ := List.mem_map.mp hclip
  obtain ⟨hvalid, hfinite⟩ := duet_clips own hown
  exact ⟨{ hvalid with }, { hfinite with }⟩

theorem mime_valid : mime.Valid :=
  { duet_valid with clips := fun clip hclip => (mime_clips clip hclip).1 }

/-- Without the clip, which is silent, the track is read from the file after the frames. -/
theorem Graph.compile_without_overlays_mime : ∃ graph other : Graph,
    Graph.compile mime (.standard "192k" .medium 640 360 30) = .ok graph ∧
      graph.inputs.length = 3 ∧ other.inputs.length = 2 ∧ graph.soundChains.length = 1 ∧
      other.soundChains = graph.soundChains ∧ other.mixes = graph.mixes := by
  obtain ⟨graph, hgraph⟩ := @Graph.exists_compile mime (.standard "192k" .medium 640 360 30)
    mime_valid rfl rfl rfl fun clip hclip => (mime_clips clip hclip).2
  obtain ⟨other, hother, hchains, -, hmixes, hvoices⟩ := Graph.compile_without_overlays hgraph
  refine ⟨graph, other, hgraph, ?_, ?_, hvoices.length_eq.symm, hchains, hmixes⟩
  · obtain ⟨-, _, _, -, -, rfl⟩ := (Graph.compile_eq_ok_iff _ _ _).mp hgraph
    rfl
  · obtain ⟨-, _, _, -, -, rfl⟩ := (Graph.compile_eq_ok_iff _ _ _).mp hother
    rfl

end Montage
