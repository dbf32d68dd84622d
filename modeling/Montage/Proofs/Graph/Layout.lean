import Mathlib.Data.Int.Notation
import Montage.Proofs.Graph.Label
import Montage.Proofs.Graph.Linear
import Montage.Proofs.Graph.Steps
import Montage.Proofs.Lists

/-!
# The layout of a compiled graph

The steps of a compilation may fail one by one. Where none does, the stages that they add can be
written down at once, from the filters of the clips that are laid over the picture (`LaidClip`) and
of the sounds that are heard (`HeardSound`): `Timeline.layout` is that list. This module shows that
the steps add the stages of a layout and nothing else (`steps_yield_iff`). What the label ledger says
to them is left to the modules that follow.
-/

namespace Montage

/-! ## Steps that add a stage -/

/-- A step adds a stage when it can compute it. -/
def Step.Yields (step : Step) (stage : Stage) : Prop :=
  step.stage = .ok stage

namespace Workbench

/-- How many labels have been handed out makes no difference to a stage. -/
theorem add_relabel (bench : Workbench) (labels : ℕ) (stage : Stage) :
    ({ bench with labels := labels } : Workbench).add stage =
      ({ (bench.add stage).1 with labels := labels }, (bench.add stage).2) := by
  rw [add, add]
  rcases bench.ledger.add stage.inputs stage.output with ⟨ledger, _ | failure⟩ <;> rfl

/-- How many labels have been given makes no difference to which stages are accepted. -/
theorem addAll_relabel (bench : Workbench) (labels : ℕ) (stages : List Stage) :
    ({ bench with labels := labels } : Workbench).addAll stages =
      ({ (bench.addAll stages).1 with labels := labels }, (bench.addAll stages).2) := by
  induction stages generalizing bench with
  | nil => rfl
  | cons stage rest ih =>
    rw [addAll, addAll, add_relabel]
    rcases bench.add stage with ⟨next, _ | failure⟩
    · exact ih next
    · rfl

/-- Steps that can be computed add their stages. -/
theorem run_of_yields {steps : List Step} {stages : List Stage}
    (h : List.Forall₂ Step.Yields steps stages) (bench : Workbench) :
    ∃ labels, bench.run steps =
      ({ (bench.addAll stages).1 with labels := labels }, (bench.addAll stages).2) := by
  induction h generalizing bench with
  | nil => exact ⟨bench.labels, rfl⟩
  | @cons step stage steps stages hstep _ ih =>
    rw [Step.Yields] at hstep
    rw [run, Workbench.step, hstep]
    dsimp only
    rw [add_relabel, addAll]
    rcases bench.add stage with ⟨next, _ | failure⟩
    · -- the rest runs on another count of labels, which its stages do not depend on
      obtain ⟨labels, hrest⟩ := ih { next with labels := step.labels }
      rw [addAll_relabel] at hrest
      exact ⟨labels, hrest⟩
    · exact ⟨step.labels, rfl⟩

/-- Steps that have all been carried out can be computed. -/
theorem yields_of_run {steps : List Step} {bench next : Workbench}
    (h : bench.run steps = (next, none)) :
    ∃ stages, List.Forall₂ Step.Yields steps stages := by
  induction steps generalizing bench with
  | nil => exact ⟨[], .nil⟩
  | cons step rest ih =>
    rw [run] at h
    rcases hstage : step.stage with failure | stage
    · simp [Workbench.step, hstage] at h
    · rcases hnext : bench.step step with ⟨after, _ | failure⟩
      · rw [hnext] at h
        obtain ⟨stages, hstages⟩ := ih h
        exact ⟨stage :: stages, .cons hstage hstages⟩
      · rw [hnext] at h
        simp at h

end Workbench

/-! ## Layouts -/

/-- A clip that is laid over the picture: its input and its filters. -/
structure LaidClip where
  input : ℕ
  picture : List Filter
  overlay : Filter

structure LaidClip.Of (fps : ℤ) (entry : ClipSource × ℕ) (laid : LaidClip) : Prop where
  input : laid.input = entry.2
  picture : entry.1.pictureFilters fps = .ok laid.picture
  overlay : entry.1.overlayFilter fps = .ok laid.overlay

/-- A sound that is heard: its pad, the stem of its label and its filters. -/
structure HeardSound where
  pad : String
  stem : String
  filters : List Filter

structure HeardSound.Of (sound : Chain.Sound) (heard : HeardSound) : Prop where
  pad : heard.pad = sound.pad
  stem : heard.stem = sound.stem
  filters : sound.filters = .ok heard.filters

namespace Layout

/-- The label of the prepared picture of a clip, after a number of others. -/
def preparedLabel (before : ℕ) : String :=
  "v_embed_src_" ++ toString (2 * before + 1)

def frameStage (fps : ℤ) (pixelFormat : String) (covered : Bool) : Stage where
  inputs := [videoPad 0]
  output := if covered then Timeline.pictureLabel 0 else Graph.videoLabel
  filters := [.plain "fps" [toString fps], .plain "format" [pixelFormat]]

/-- The stage that prepares the picture of a clip, after a number of others. -/
def preparedStage (before : ℕ) (laid : LaidClip) : Stage where
  inputs := [videoPad laid.input]
  output := preparedLabel before
  filters := laid.picture

/-- The stage that lays a clip over the picture, after a number of others. -/
def overlaidStage (before : ℕ) (laid : LaidClip) : Stage where
  inputs := [Timeline.pictureLabel before, preparedLabel before]
  output := Timeline.pictureLabel (before + 1)
  filters := [laid.overlay]

/-- The stages that lay clips over the picture, after a number of others. -/
def overlayStages : ℕ → List LaidClip → List Stage
  | _, [] => []
  | before, laid :: rest =>
    preparedStage before laid :: overlaidStage before laid :: overlayStages (before + 1) rest

/-- The stage of one of several sounds. -/
def chainStage (number : ℕ) (heard : HeardSound) : Stage where
  inputs := [heard.pad]
  output := heard.stem ++ "_" ++ toString number
  filters := heard.filters

/-- The stages of several sounds, with labels from a number on. -/
def chainStages : ℕ → List HeardSound → List Stage
  | _, [] => []
  | number, heard :: rest => chainStage number heard :: chainStages (number + 1) rest

/-- The stages of all sounds, with labels from a number on. A single sound needs no mix. -/
def soundStages (number : ℕ) : List HeardSound → List Stage
  | [] => []
  | [heard] => [⟨[heard.pad], Graph.audioLabel, heard.filters⟩]
  | several =>
    chainStages number several ++ [.mix ((chainStages number several).map Stage.output)]

/-- Each stage that lays clips over the picture is one of the two stages of a clip. -/
theorem exists_laid_of_mem_overlayStages {laids : List LaidClip} {before : ℕ} {stage : Stage}
    (h : stage ∈ overlayStages before laids) :
    ∃ laid ∈ laids, ∃ place, stage = preparedStage place laid ∨ stage = overlaidStage place laid := by
  induction laids generalizing before with
  | nil => simp [overlayStages] at h
  | cons laid rest ih =>
    rw [overlayStages, List.mem_cons, List.mem_cons] at h
    rcases h with hprepared | hoverlaid | hrest
    · exact ⟨laid, List.mem_cons_self, before, .inl hprepared⟩
    · exact ⟨laid, List.mem_cons_self, before, .inr hoverlaid⟩
    · obtain ⟨other, hother, hstage⟩ := ih hrest
      exact ⟨other, List.mem_cons_of_mem _ hother, hstage⟩

/-- Each clip that is laid over the picture has its two stages. -/
theorem exists_stages_of_laid {laids : List LaidClip} {laid : LaidClip} (hlaid : laid ∈ laids)
    (before : ℕ) : ∃ place, preparedStage place laid ∈ overlayStages before laids ∧
      overlaidStage place laid ∈ overlayStages before laids := by
  induction laids generalizing before with
  | nil => simp at hlaid
  | cons first rest ih =>
    rw [overlayStages]
    rcases List.mem_cons.mp hlaid with rfl | hlaid
    · exact ⟨before, by simp, by simp⟩
    · obtain ⟨place, hprepared, hoverlaid⟩ := ih hlaid (before + 1)
      exact ⟨place, List.mem_cons_of_mem _ (List.mem_cons_of_mem _ hprepared),
        List.mem_cons_of_mem _ (List.mem_cons_of_mem _ hoverlaid)⟩

/-- Two sounds or more are mixed. -/
theorem soundStages_cons_cons (number : ℕ) (first second : HeardSound) (rest : List HeardSound) :
    soundStages number (first :: second :: rest) =
      chainStages number (first :: second :: rest) ++
        [.mix ((chainStages number (first :: second :: rest)).map Stage.output)] :=
  rfl

end Layout

open Layout

namespace Timeline

variable (timeline : Timeline) (encoding : Encoding)

/-- All stages, from clips and sounds with their filters. -/
def layout (laid : List LaidClip) (heard : List HeardSound) : List Stage :=
  frameStage timeline.fps encoding.pixelFormat (!laid.isEmpty) ::
    (overlayStages 0 laid ++
      soundStages (if laid.isEmpty then 0 else 2 * laid.length + 1) heard)

/-! ### Picture -/

/-- The first step always yields the stage of the frames, under a label of its own if clips are laid
over them. -/
theorem frameStep_yields_iff (stage : Stage) :
    (timeline.frameStep encoding).Yields stage ↔
      stage = frameStage timeline.fps encoding.pixelFormat
        (!(timeline.overlays encoding).isEmpty) := by
  rw [Step.Yields, frameStep, Except.ok.injEq, eq_comm]
  rfl

/-- The step for a picture yields a stage when its filters can be computed. -/
theorem pictureStep_yields_iff (source : ClipSource) (input before : ℕ) (stage : Stage) :
    (timeline.pictureStep source input before).Yields stage ↔
      ∃ filters, source.pictureFilters timeline.fps = .ok filters ∧
        stage = ⟨[videoPad input], preparedLabel before, filters⟩ := by
  rw [Step.Yields, pictureStep]
  rcases source.pictureFilters timeline.fps with failure | filters
  · simp
  · simp only [Except.ok.injEq, exists_eq_left', eq_comm]
    rfl

/-- The step for an overlay joins the picture so far with the one prepared. -/
theorem overlayStep_yields_iff (source : ClipSource) (before : ℕ) (stage : Stage) :
    (timeline.overlayStep source before).Yields stage ↔
      ∃ filter, source.overlayFilter timeline.fps = .ok filter ∧
        stage = ⟨[pictureLabel before, preparedLabel before], pictureLabel (before + 1),
          [filter]⟩ := by
  rw [Step.Yields, overlayStep]
  rcases source.overlayFilter timeline.fps with failure | filter
  · simp [bind, Except.bind]
  · simp only [bind, Except.bind, pure, Except.pure, Except.ok.injEq, exists_eq_left', eq_comm]
    rfl

/-- The steps of some clips add the stages of these clips, when their filters can be computed. -/
theorem overlaySteps_yield_iff (entries : List (ClipSource × ℕ)) (before : ℕ)
    (stages : List Stage) :
    List.Forall₂ Step.Yields
        ((entries.zipIdx before).flatMap fun ((source, input), before) =>
          [timeline.pictureStep source input before, timeline.overlayStep source before]) stages ↔
      ∃ laid, List.Forall₂ (LaidClip.Of timeline.fps) entries laid ∧
        stages = overlayStages before laid := by
  induction entries generalizing before stages with
  | nil =>
    simp [overlayStages]
  -- the induction is on the clips, with two stages for each of them
  | cons entry rest ih =>
    obtain ⟨source, input⟩ := entry
    simp only [List.zipIdx_cons, List.flatMap_cons, List.cons_append, List.nil_append,
      List.forall₂_cons_left_iff, pictureStep_yields_iff, overlayStep_yields_iff, ih]
    constructor
    · rintro ⟨_, _, ⟨picture, hpicture, rfl⟩, ⟨_, _, ⟨overlay, hoverlay, rfl⟩,
        ⟨laid, hlaid, rfl⟩, rfl⟩, rfl⟩
      exact ⟨⟨input, picture, overlay⟩ :: laid,
        ⟨_, _, ⟨rfl, hpicture, hoverlay⟩, hlaid, rfl⟩, rfl⟩
    · rintro ⟨_, ⟨first, laid, ⟨hinput, hpicture, hoverlay⟩, hlaid, rfl⟩, rfl⟩
      refine ⟨_, _, ⟨_, hpicture, rfl⟩, ⟨_, _, ⟨_, hoverlay, rfl⟩, ⟨laid, hlaid, rfl⟩, rfl⟩, ?_⟩
      rw [overlayStages, preparedStage, hinput]
      rfl

/-! ### Sound -/

/-- Steps that are known to succeed add just the stages that they carry. -/
theorem yields_iff_of_map_eq {steps : List Step} {known : List Stage}
    (h : steps.map Step.stage = known.map .ok) (stages : List Stage) :
    List.Forall₂ Step.Yields steps stages ↔ stages = known := by
  have hmap : List.Forall₂ Step.Yields steps stages ↔
      steps.map Step.stage = stages.map .ok := by
    rw [← List.forall₂_eq_eq_eq, List.forall₂_map_left_iff, List.forall₂_map_right_iff]
    rfl
  rw [hmap, h, eq_comm]
  exact (List.map_injective_iff.mpr fun _ _ heq => Except.ok.inj heq).eq_iff

/-- A sound with filters that have been computed. -/
def heardOf (entry : Chain.Sound × List Filter) : HeardSound where
  pad := entry.1.pad
  stem := entry.1.stem
  filters := entry.2

/-- Sounds are heard just when all of their filters can be computed. -/
theorem forall₂_heard_iff (sounds : List Chain.Sound) (heard : List HeardSound) :
    List.Forall₂ HeardSound.Of sounds heard ↔
      ∃ filters, sounds.mapM Chain.Sound.filters = .ok filters ∧
        heard = (sounds.zip filters).map heardOf := by
  simp only [mapM_eq_ok_iff]
  induction sounds generalizing heard with
  | nil => simp
  | cons sound rest ih =>
    simp only [List.forall₂_cons_left_iff, ih]
    constructor
    · rintro ⟨⟨pad, stem, own⟩, _, ⟨rfl, rfl, hown⟩, ⟨filters, hfilters, rfl⟩, rfl⟩
      exact ⟨own :: filters, ⟨own, filters, hown, hfilters, rfl⟩, rfl⟩
    · rintro ⟨_, ⟨own, filters, hown, hfilters, rfl⟩, rfl⟩
      exact ⟨heardOf (sound, own), _, ⟨rfl, rfl, hown⟩, ⟨filters, hfilters, rfl⟩, rfl⟩

/-- The chains of sounds are numbered one after the other. -/
theorem chainStages_map_heardOf (entries : List (Chain.Sound × List Filter)) (number : ℕ) :
    chainStages number (entries.map heardOf) =
      (entries.zipIdx number).map fun ((sound, filters), number) =>
        ⟨[sound.pad], soundLabel sound number, filters⟩ := by
  induction entries generalizing number with
  | nil => rfl
  | cons entry rest ih =>
    rw [List.map_cons, chainStages, ih, List.zipIdx_cons, List.map_cons]
    rfl

/-- The steps of some sounds add the stages of these sounds, when their filters can be computed. -/
theorem soundSteps_yield_iff (number : ℕ) (sounds : List Chain.Sound) (stages : List Stage) :
    List.Forall₂ Step.Yields (soundSteps number sounds) stages ↔
      ∃ heard, List.Forall₂ HeardSound.Of sounds heard ∧ stages = soundStages number heard := by
  simp only [forall₂_heard_iff, soundSteps]
  rcases sounds.mapM Chain.Sound.filters with failure | filters
  · -- the only step is then one that fails
    simp [List.forall₂_cons_left_iff, Step.Yields]
  · dsimp only
    have hknown : ∀ steps, steps.map Step.stage =
        (soundStages number ((sounds.zip filters).map heardOf)).map .ok →
        (List.Forall₂ Step.Yields steps stages ↔
          stages = soundStages number ((sounds.zip filters).map heardOf)) :=
      fun _ h => yields_iff_of_map_eq h stages
    rw [hknown]
    · simp
    · rcases sounds.zip filters with _ | ⟨first, _ | ⟨second, rest⟩⟩
      · rfl
      · rfl
      · have hseveral := soundStages_cons_cons number (heardOf first) (heardOf second)
          (rest.map heardOf)
        rw [← List.map_cons, ← List.map_cons] at hseveral
        rw [hseveral, chainStages_map_heardOf]
        simp only [List.map_append, List.map_map, List.map_singleton]
        rfl

/-! ### All together -/

theorem isEmpty_overlays {timeline : Timeline} {encoding : Encoding} {laid : List LaidClip}
    (h : List.Forall₂ (LaidClip.Of timeline.fps) (timeline.overlays encoding) laid) :
    (timeline.overlays encoding).isEmpty = laid.isEmpty := by
  generalize timeline.overlays encoding = entries at h ⊢
  cases h <;> rfl

/-- Two labels are given to a clip that is laid over, and one to the frames below. -/
theorem pictureLabels_eq {timeline : Timeline} {encoding : Encoding} {laid : List LaidClip}
    (h : List.Forall₂ (LaidClip.Of timeline.fps) (timeline.overlays encoding) laid) :
    timeline.pictureLabels encoding = if laid.isEmpty then 0 else 2 * laid.length + 1 := by
  rw [pictureLabels, h.length_eq]
  cases laid <;> simp

/-- **The steps of a compilation add the stages of a layout.** -/
theorem steps_yield_iff (stages : List Stage) :
    List.Forall₂ Step.Yields (timeline.steps encoding) stages ↔
      ∃ laid heard, List.Forall₂ (LaidClip.Of timeline.fps) (timeline.overlays encoding) laid ∧
        List.Forall₂ HeardSound.Of (timeline.sounds encoding) heard ∧
        stages = timeline.layout encoding laid heard := by
  rw [steps, pictureSteps, List.cons_append, List.forall₂_cons_left_iff]
  simp only [frameStep_yields_iff, forall₂_append_left_iff, overlaySteps_yield_iff,
    soundSteps_yield_iff]
  constructor
  · rintro ⟨_, _, rfl, ⟨_, _, ⟨laid, hlaid, rfl⟩, ⟨heard, hheard, rfl⟩, rfl⟩, rfl⟩
    refine ⟨laid, heard, hlaid, hheard, ?_⟩
    rw [layout, pictureLabels_eq hlaid, isEmpty_overlays hlaid]
  · rintro ⟨laid, heard, hlaid, hheard, rfl⟩
    refine ⟨_, _, rfl, ⟨_, _, ⟨laid, hlaid, rfl⟩, ⟨heard, hheard, rfl⟩, rfl⟩, ?_⟩
    rw [layout, pictureLabels_eq hlaid, isEmpty_overlays hlaid]

end Timeline

end Montage
