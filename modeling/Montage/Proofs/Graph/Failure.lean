import Mathlib.Data.Int.Notation
import Mathlib.Data.List.Induction
import Mathlib.Data.Nat.Notation
import Mathlib.Data.Rat.Init
import Montage.Proofs.Graph.Sources
import Montage.Proofs.Graph.Wiring
import Montage.Proofs.Number.Finite

/-!
# How a compilation fails

The labels of a compilation never collide, and not only where it succeeds: before the filters of
some clip or sound turn out not to be computable, every stage that was added has been accepted. So a
compilation that fails does so for the settings, or for such filters (`Graph.compile_eq_error`).

The reason is that labels do not depend on filters. A sketch of the compilation (`Timeline.sketch`)
is a layout without filters, and the steps follow it up to the first that fails (`Step.Follow`). A
sketch is linear like any layout, so the ledger accepts whatever follows one.
-/

namespace Montage

open Ledger Layout

/-! ## Steps that follow a sketch -/

structure Stage.SameLabels (stage other : Stage) : Prop where
  inputs : stage.inputs = other.inputs
  output : stage.output = other.output

/-- Steps add stages with the labels of a sketch, as far as they can be computed. -/
inductive Step.Follow : List Step → List Stage → Prop
  | nil : Follow [] []
  | add {step : Step} {stage drawn : Stage} {steps : List Step} {sketch : List Stage}
      (hstage : step.Yields stage) (hlabels : stage.SameLabels drawn)
      (hrest : Follow steps sketch) : Follow (step :: steps) (drawn :: sketch)
  | fail {step : Step} {failure : Failure} (hfailure : step.stage = .error failure)
      (steps : List Step) (sketch : List Stage) : Follow (step :: steps) sketch

namespace Step.Follow

/-- A sequence of steps can be followed by another. -/
theorem append {first second : List Step} {sketch others : List Stage} (h : Follow first sketch)
    (hsecond : Follow second others) : Follow (first ++ second) (sketch ++ others) := by
  induction h with
  | nil => exact hsecond
  | add hstage hlabels _ ih => exact .add hstage hlabels ih
  | fail hfailure => exact .fail hfailure _ _

/-- Steps that all succeed follow the sketch of what they yield. -/
theorem of_yields {steps : List Step} {stages sketch : List Stage}
    (h : List.Forall₂ Step.Yields steps stages)
    (hlabels : List.Forall₂ Stage.SameLabels stages sketch) :
    Follow steps sketch := by
  induction h generalizing sketch with
  | nil =>
    cases hlabels
    exact .nil
  | cons hstage _ ih =>
    cases hlabels with
    | cons hsame hrest => exact .add hstage hsame (ih hrest)

end Step.Follow

/-- The stages at the front of a linear list are linear. -/
theorem Linear.of_append {first second : List Stage} (h : Linear (first ++ second)) :
    Linear first := by
  induction second using List.reverseRecOn with
  | nil => simpa using h
  | append_singleton second stage ih =>
    rw [← List.append_assoc, linear_concat_iff] at h
    exact ih h.1

/-- The next stage of a linear list is accepted by the ledger of the stages before it. -/
theorem Linear.add_next {done rest : List Stage} {stage : Stage}
    (h : Linear (done ++ stage :: rest)) :
    (Ledger.ofStages done).add stage.inputs stage.output =
      (.ofStages (done ++ [stage]), none) := by
  rw [← List.singleton_append, ← List.append_assoc] at h
  obtain ⟨-, hfresh, hinputs, hnodup⟩ := (linear_concat_iff done stage).mp h.of_append
  rw [Ledger.add_eq_none_iff, Ledger.ofStages_concat]
  refine ⟨fun hproduced => hfresh (List.mem_reverse.mp hproduced), fun label hlabel => ?_,
    hnodup, rfl⟩
  obtain ⟨hwritten, hunread⟩ := hinputs label hlabel
  exact ⟨List.mem_reverse.mpr hwritten, fun hread => hunread (List.mem_reverse.mp hread)⟩

/-- **Steps that follow a linear sketch fail only by themselves**, never for a label. -/
theorem Workbench.exists_failed {steps : List Step} {sketch done : List Stage}
    (h : Step.Follow steps sketch) (hlinear : Linear (done ++ sketch)) {bench next : Workbench}
    (hledger : bench.ledger = .ofStages done) {failure : Failure}
    (hrun : bench.run steps = (next, some failure)) :
    ∃ step ∈ steps, step.stage = .error failure := by
  -- the bench holds the ledger of the stages done, and these with the rest of the sketch are linear
  induction h generalizing done bench with
  | nil => cases hrun
  | @add step stage drawn steps sketch hstage hlabels _ ih =>
    have hadd : bench.ledger.add stage.inputs stage.output =
        (.ofStages (done ++ [drawn]), none) := by
      rw [hledger, hlabels.inputs, hlabels.output, hlinear.add_next]
    rw [Step.Yields] at hstage
    simp only [run, Workbench.step, hstage, add, hadd] at hrun
    rw [← List.singleton_append, ← List.append_assoc] at hlinear
    obtain ⟨other, hother, hfailed⟩ := ih hlinear rfl hrun
    exact ⟨other, List.mem_cons_of_mem _ hother, hfailed⟩
  | @fail step other hfailure steps sketch =>
    simp only [run, Workbench.step, hfailure, Prod.mk.injEq, Option.some.injEq] at hrun
    exact ⟨step, List.mem_cons_self, hrun.2 ▸ hfailure⟩

/-! ## Sketches -/

/-- A clip that is laid over the picture, without filters of its own. -/
def LaidClip.sketch (entry : ClipSource × ℕ) : LaidClip where
  input := entry.2
  picture := []
  overlay := ⟨"overlay", []⟩

/-- A sound without filters. -/
def HeardSound.sketch (sound : Chain.Sound) : HeardSound where
  pad := sound.pad
  stem := sound.stem
  filters := []

/-- Two sounds differ at most in their filters. -/
structure HeardSound.SameLabels (heard other : HeardSound) : Prop where
  pad : heard.pad = other.pad
  stem : heard.stem = other.stem

/-- The stages of two lists of sounds have the same labels when the sounds have. -/
theorem chainStages_sameLabels {sounds others : List HeardSound}
    (h : List.Forall₂ HeardSound.SameLabels sounds others) (number : ℕ) :
    List.Forall₂ Stage.SameLabels (chainStages number sounds) (chainStages number others) := by
  induction h generalizing number with
  | nil => exact .nil
  | @cons heard other _ _ hsame _ ih =>
    refine .cons ⟨?_, ?_⟩ (ih (number + 1))
    · rw [chainStage, chainStage, hsame.pad]
    · rw [chainStage, chainStage, hsame.stem]

theorem map_output_eq {stages others : List Stage}
    (h : List.Forall₂ Stage.SameLabels stages others) :
    stages.map Stage.output = others.map Stage.output := by
  induction h with
  | nil => rfl
  | cons hsame _ ih => rw [List.map_cons, List.map_cons, hsame.output, ih]

theorem soundStages_sameLabels {sounds others : List HeardSound}
    (h : List.Forall₂ HeardSound.SameLabels sounds others) (number : ℕ) :
    List.Forall₂ Stage.SameLabels (soundStages number sounds) (soundStages number others) := by
  cases h with
  | nil => exact .nil
  | cons hfirst hrest =>
    cases hrest with
    | nil => exact .cons ⟨by rw [hfirst.pad], rfl⟩ .nil
    | cons hsecond hothers =>
      have hchains := chainStages_sameLabels (.cons hfirst (.cons hsecond hothers)) number
      rw [soundStages_cons_cons, soundStages_cons_cons, map_output_eq hchains]
      exact List.rel_append hchains (.cons ⟨rfl, rfl⟩ .nil)

namespace Timeline

variable (timeline : Timeline) (encoding : Encoding)

/-- The stages of a timeline without filters. -/
def sketch : List Stage :=
  timeline.layout encoding ((timeline.overlays encoding).map LaidClip.sketch)
    ((timeline.sounds encoding).map HeardSound.sketch)

/-- The sketch is linear like every layout, since linearity is about the labels only. -/
theorem linear_sketch : Linear (timeline.sketch encoding) := by
  refine (timeline.layout_pending encoding _ fun heard hheard => ?_).linear
  obtain ⟨sound, hsound, rfl⟩ := List.mem_map.mp hheard
  rw [Timeline.sounds, List.mem_append, List.mem_map, List.mem_map] at hsound
  rcases hsound with ⟨⟨clip, input⟩, -, rfl⟩ | ⟨⟨track, input⟩, -, rfl⟩
  · exact ⟨isPad_audioPad input, .inl rfl⟩
  · exact ⟨isPad_audioPad input, .inr rfl⟩

theorem overlaySteps_follow (entries : List (ClipSource × ℕ)) (before : ℕ) :
    Step.Follow
      ((entries.zipIdx before).flatMap fun ((source, input), before) =>
        [timeline.pictureStep source input before, timeline.overlayStep source before])
      (overlayStages before (entries.map LaidClip.sketch)) := by
  induction entries generalizing before with
  | nil => exact .nil
  | cons entry rest ih =>
    obtain ⟨source, input⟩ := entry
    rw [List.zipIdx_cons, List.flatMap_cons, List.map_cons, overlayStages]
    -- both steps of a clip may fail, the first before any stage of the clip has been added
    rcases hpicture : (timeline.pictureStep source input before).stage with failure | prepared
    · exact .fail hpicture _ _
    · obtain ⟨picture, -, rfl⟩ := (timeline.pictureStep_yields_iff _ _ _ _).mp hpicture
      refine .add hpicture ⟨rfl, rfl⟩ ?_
      rcases hoverlay : (timeline.overlayStep source before).stage with failure | overlaid
      · exact .fail hoverlay _ _
      · obtain ⟨overlay, -, rfl⟩ := (timeline.overlayStep_yields_iff _ _ _).mp hoverlay
        exact .add hoverlay ⟨rfl, rfl⟩ (ih (before + 1))

/-- The steps of the sounds follow their sketch, whether or not the filters can be computed. -/
theorem soundSteps_follow (number : ℕ) (sounds : List Chain.Sound) :
    Step.Follow (soundSteps number sounds) (soundStages number (sounds.map HeardSound.sketch)) := by
  rcases hfilters : sounds.mapM Chain.Sound.filters with failure | filters
  · rw [soundSteps, hfilters]
    exact .fail rfl _ _
  · -- the filters of all sounds come before the first stage, so there is nothing left to fail
    have hheard := (forall₂_heard_iff sounds _).mpr ⟨filters, hfilters, rfl⟩
    have hyields := (soundSteps_yield_iff number sounds _).mpr ⟨_, hheard, rfl⟩
    refine .of_yields hyields (soundStages_sameLabels ?_ number)
    rw [List.forall₂_map_right_iff]
    exact hheard.flip.imp fun _ _ hof => ⟨hof.pad, hof.stem⟩

/-- **The steps of a compilation follow the sketch of its timeline.** -/
theorem steps_follow : Step.Follow (timeline.steps encoding) (timeline.sketch encoding) := by
  have hempty : ((timeline.overlays encoding).map LaidClip.sketch).isEmpty =
      (timeline.overlays encoding).isEmpty := by
    cases timeline.overlays encoding <;> rfl
  have hlabels : timeline.pictureLabels encoding =
      if ((timeline.overlays encoding).map LaidClip.sketch).isEmpty then 0
      else 2 * ((timeline.overlays encoding).map LaidClip.sketch).length + 1 := by
    rw [pictureLabels, List.length_map]
    cases timeline.overlays encoding <;> rfl
  rw [steps, pictureSteps, List.cons_append, sketch, layout, ← hlabels, hempty]
  refine .add rfl ⟨rfl, rfl⟩ ?_
  exact (timeline.overlaySteps_follow _ 0).append (soundSteps_follow _ _)

end Timeline

/-! ## Failures -/

namespace Timeline

variable {timeline : Timeline} {encoding : Encoding} {failure : Failure}

/-- The filters of a clip or a sound cannot be computed. -/
def Unfiltered (timeline : Timeline) (encoding : Encoding) (failure : Failure) : Prop :=
  (∃ entry ∈ timeline.overlays encoding, entry.1.pictureFilters timeline.fps = .error failure ∨
      entry.1.overlayFilter timeline.fps = .error failure) ∨
    ∃ sound ∈ timeline.sounds encoding, sound.filters = .error failure

/-- A step that fails does so for the filters of a clip or of a sound. -/
theorem unfiltered_of_mem_steps {step : Step} (hstep : step ∈ timeline.steps encoding)
    (h : step.stage = .error failure) : timeline.Unfiltered encoding failure := by
  -- the steps are those of the frames, which cannot fail, of the clips and of the sounds
  rw [steps, pictureSteps, List.cons_append, List.mem_cons, List.mem_append] at hstep
  rcases hstep with rfl | hstep | hstep
  · cases h
  · obtain ⟨⟨⟨source, input⟩, before⟩, hentry, hstep⟩ := List.mem_flatMap.mp hstep
    refine .inl ⟨(source, input), List.fst_mem_of_mem_zipIdx hentry, ?_⟩
    simp only [List.mem_cons, List.not_mem_nil, or_false] at hstep
    rcases hstep with rfl | rfl
    · left
      rw [pictureStep] at h
      rcases hfilters : source.pictureFilters timeline.fps with other | filters
      · rw [hfilters] at h
        cases h
        rfl
      · rw [hfilters] at h
        cases h
    · right
      rcases bind_eq_error_iff.mp h with hfilter | ⟨filter, -, h⟩
      · exact hfilter
      · cases h
  · right
    rcases hfilters : (timeline.sounds encoding).mapM Chain.Sound.filters with other | filters
    · rw [soundSteps, hfilters, List.mem_singleton] at hstep
      obtain rfl := hstep
      cases h
      exact exists_of_mapM_eq_error hfilters
    · have hheard := (forall₂_heard_iff _ _).mpr ⟨filters, hfilters, rfl⟩
      have hyields := (soundSteps_yield_iff (timeline.pictureLabels encoding) _ _).mpr
        ⟨_, hheard, rfl⟩
      obtain ⟨stage, -, hstage⟩ := exists_mem_of_forall₂ hyields.flip hstep
      cases h.symm.trans hstage

/-- A build fails for filters that cannot be computed, and for no label. -/
theorem build_eq_error (h : (timeline.build encoding).2 = .error failure) :
    timeline.Unfiltered encoding failure := by
  rcases hrun : Workbench.empty.run (timeline.steps encoding) with ⟨bench, _ | other⟩
  · obtain ⟨stages, hyields⟩ := Workbench.yields_of_run hrun
    obtain ⟨laid, heard, hlaid, hheard, -⟩ := (timeline.steps_yield_iff encoding _).mp hyields
    rw [timeline.build_eq_ok encoding hlaid hheard] at h
    cases h
  · rw [build_eq, hrun] at h
    cases h
    have hempty : Workbench.empty.ledger = Ledger.ofStages [] := rfl
    obtain ⟨step, hstep, hfailed⟩ := Workbench.exists_failed (timeline.steps_follow encoding)
      (timeline.linear_sketch encoding) hempty hrun
    exact unfiltered_of_mem_steps hstep hfailed

end Timeline

/-! ## Numbers that are not finite -/

/-- The failure says of a number that it stands for no rational. -/
inductive Failure.Names : Failure → Float → Prop
  | intro {x : Float} (hx : x.isFinite = false) :
      Names (.arithmetic (.notRational (floatText x))) x

/-- Only a float that is not finite is named by a failure. -/
theorem Failure.Names.not_isFinite {failure : Failure} {x : Float} (h : failure.Names x) :
    ¬x.isFinite := by
  cases h with
  | intro hx => simp [hx]

/-- A rational is refused for the float that it is read from. -/
theorem rationalOf_eq_error {x : Float} {fault : ArithmeticFault}
    (h : rationalOf x = .error fault) :
    Failure.Names (.arithmetic fault) x := by
  rw [rationalOf, decimalOf?] at h
  by_cases hx : x.isFinite
  · simp [hx] at h
  · simp only [hx, Bool.false_eq_true, if_false] at h
    cases h
    exact ⟨Bool.not_eq_true _ ▸ hx⟩

/-- A computation that starts with the rational of a float fails for the float or goes on. -/
theorem rationalOf_bind_eq_error {α : Type} {x : Float} {f : ℚ → Except Failure α}
    {failure : Failure} (h : ((liftM (rationalOf x) : Except Failure ℚ) >>= f) = .error failure) :
    failure.Names x ∨ ∃ q, f q = .error failure := by
  rcases hx : rationalOf x with fault | q
  · rw [hx] at h
    cases h
    exact .inl (rationalOf_eq_error hx)
  · rw [hx] at h
    exact .inr ⟨q, h⟩

theorem Filter.volume_bind_eq_error {α : Type} {x : Float} {f : Filter → Except Failure α}
    {failure : Failure} (h : (Filter.volume x >>= f) = .error failure) :
    failure.Names x ∨ ∃ filter, f filter = .error failure := by
  rw [Filter.volume, bind_assoc] at h
  refine (rationalOf_bind_eq_error h).imp_right ?_
  rintro ⟨q, hq⟩
  exact ⟨_, hq⟩

namespace ClipSource

variable {fps : ℤ} {source : ClipSource} {failure : Failure}

theorem trim_bind_eq_error {α : Type} {f : ℚ × ℚ → Except Failure α}
    (h : (source.trim fps >>= f) = .error failure) :
    failure.Names source.clip.trimStart ∨ ∃ part, f part = .error failure := by
  rw [trim, bind_assoc] at h
  refine (rationalOf_bind_eq_error h).imp_right ?_
  rintro ⟨q, hq⟩
  exact ⟨_, hq⟩

theorem pictureFilters_eq_error (h : source.pictureFilters fps = .error failure) :
    failure.Names source.clip.trimStart := by
  rcases trim_bind_eq_error h with hnames | ⟨part, hrest⟩
  · exact hnames
  · cases hrest

/-- What lays a clip over the picture fails for its position only. -/
theorem overlayFilter_eq_error (h : source.overlayFilter fps = .error failure) :
    failure.Names source.clip.position.x ∨ failure.Names source.clip.position.y := by
  rcases rationalOf_bind_eq_error h with hnames | ⟨x, hrest⟩
  · exact .inl hnames
  · rcases rationalOf_bind_eq_error hrest with hnames | ⟨y, hrest⟩
    · exact .inr hnames
    · cases hrest

theorem soundFilters_eq_error (h : source.soundFilters fps = .error failure) :
    failure.Names source.clip.trimStart ∨ failure.Names source.clip.volume := by
  rcases trim_bind_eq_error h with hnames | ⟨part, hrest⟩
  · exact .inl hnames
  · rcases Filter.volume_bind_eq_error hrest with hnames | ⟨filter, hrest⟩
    · exact .inr hnames
    · cases hrest

end ClipSource

/-- The sound of a track fails for its volume only. -/
theorem TrackSource.soundFilters_eq_error {fps : ℤ} {source : TrackSource} {failure : Failure}
    (h : source.soundFilters fps = .error failure) : failure.Names source.track.volume := by
  rcases Filter.volume_bind_eq_error h with hnames | ⟨filter, hrest⟩
  · exact hnames
  · cases hrest

/-! ## All together -/

/-- The numbers of a clip that its bounds do not make finite. -/
def Clip.unbounded (clip : Clip) : List Float :=
  [clip.trimStart, clip.position.x, clip.position.y]

namespace Timeline

variable {timeline : Timeline} {encoding : Encoding} {failure : Failure}

/-- The failure of a picture names a field that the checks of the clip leave open. -/
theorem exists_clip_of_overlay {entry : ClipSource × ℕ}
    (hentry : entry ∈ timeline.overlays encoding)
    (h : entry.1.pictureFilters timeline.fps = .error failure ∨
      entry.1.overlayFilter timeline.fps = .error failure) :
    ∃ clip ∈ timeline.clips, ∃ x ∈ clip.unbounded, failure.Names x := by
  obtain ⟨clip, hclip, hcontribution, -⟩ :=
    exists_mem_of_forall₂ (timeline.overlays_of_clips encoding) hentry
  rw [hcontribution] at h
  refine ⟨clip, (List.mem_filter.mp hclip).1, ?_⟩
  rcases h with h | h
  · exact ⟨clip.trimStart, by simp [Clip.unbounded], ClipSource.pictureFilters_eq_error h⟩
  · rcases ClipSource.overlayFilter_eq_error h with hx | hy
    · exact ⟨clip.position.x, by simp [Clip.unbounded], hx⟩
    · exact ⟨clip.position.y, by simp [Clip.unbounded], hy⟩

/-- A valid volume is finite, so the sound of a track can be computed, and that of a clip fails only
for the start of its part. -/
theorem exists_clip_of_sound (hvalid : timeline.Valid) {sound : Chain.Sound}
    (hsound : sound ∈ timeline.sounds encoding) (h : sound.filters = .error failure) :
    ∃ clip ∈ timeline.clips, ∃ x ∈ clip.unbounded, failure.Names x := by
  obtain ⟨medium, hmedium, hof⟩ :=
    exists_mem_of_forall₂ (timeline.sounds_of_voices encoding) hsound
  rw [voices, List.mem_append, List.mem_map, List.mem_map] at hmedium
  rcases hmedium with ⟨clip, hclip, rfl⟩ | ⟨track, htrack, rfl⟩
  · -- a volume has been checked to be finite, so only the start of the trim is left
    have hclip := (List.mem_filter.mp hclip).1
    cases hof
    rcases ClipSource.soundFilters_eq_error h with hstart | hvolume
    · exact ⟨clip, hclip, clip.trimStart, by simp [Clip.unbounded], hstart⟩
    · exact absurd (hvalid.clips clip hclip).volume.isFinite hvolume.not_isFinite
  · have htrack := (List.mem_filter.mp htrack).1
    cases hof
    have hvolume := TrackSource.soundFilters_eq_error h
    exact absurd (hvalid.tracks track htrack).volume.isFinite hvolume.not_isFinite

end Timeline

/-- **A compilation of a valid timeline fails for the settings, or for a number of a clip** that is
not finite. No label is ever in the way. -/
theorem Graph.compile_eq_error {timeline : Timeline} {encoding : Encoding} {failure : Failure}
    (hvalid : timeline.Valid) (h : Graph.compile timeline encoding = .error failure) :
    timeline.checkEncoding encoding = .error failure ∨
      ∃ clip ∈ timeline.clips, ∃ x ∈ clip.unbounded, failure.Names x := by
  rw [Graph.compile_eq] at h
  rcases bind_eq_error_iff.mp h with hcheck | ⟨⟨⟩, -, h⟩
  · exact .inl hcheck
  · rcases Timeline.build_eq_error h with ⟨entry, hentry, hfailed⟩ | ⟨sound, hsound, hfailed⟩
    · exact .inr (Timeline.exists_clip_of_overlay hentry hfailed)
    · exact .inr (Timeline.exists_clip_of_sound hvalid hsound hfailed)

end Montage
