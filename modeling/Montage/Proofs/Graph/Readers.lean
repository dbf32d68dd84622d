import Mathlib.Data.Int.Notation
import Mathlib.Data.List.Lattice
import Mathlib.Data.List.Pairwise
import Mathlib.Data.Nat.Notation
import Mathlib.Data.Rat.Init
import Montage.Proofs.Graph.Pads

/-!
# Which stage reads a label

Nothing is read twice in a compiled graph, neither a pad nor a label (`Graph.inputs_nodup`). So the
stage that reads one is the only one that does (`Graph.ReadBy`), and from the number of an input
file the stages of a clip or of a track are found one after the other: the picture is read from its
pad and prepared, the prepared picture is laid over the frames (`Graph.exists_readBy_picture`), and
the sound is read by its chain (`Graph.exists_readBy_clipSound`, `Graph.exists_readBy_trackSound`).
-/

namespace Montage

open Ledger Layout

/-- A value that a list without repetition has from two items has come from one and the same. -/
theorem eq_of_mem_flatMap_nodup {α β : Type} {f : α → List β} {items : List α}
    (h : (items.flatMap f).Nodup) {first second : α} (hfirst : first ∈ items)
    (hsecond : second ∈ items) {value : β} (hvalue : value ∈ f first) (hother : value ∈ f second) :
    first = second := by
  by_contra hne
  have hsymm : Std.Symm (Function.onFun List.Disjoint f) := ⟨fun _ _ => List.Disjoint.symm⟩
  exact (List.nodup_flatMap.mp h).2.forall hfirst hsecond hne hvalue hother

namespace Graph

/-- A stage is the one that reads a label in a graph, and no other stage does. -/
def ReadBy (graph : Graph) (label : String) (stage : Stage) : Prop :=
  ∀ other, other ∈ graph.stages ∧ label ∈ other.inputs ↔ other = stage

/-- A label has one reader. -/
theorem ReadBy.eq {graph : Graph} {label : String} {stage other : Stage}
    (h : graph.ReadBy label stage) (hother : other ∈ graph.stages) (hread : label ∈ other.inputs) :
    other = stage :=
  (h other).mp ⟨hother, hread⟩

variable {timeline : Timeline} {encoding : Encoding} {graph : Graph}

/-- **Nothing is read twice in a compiled graph.** -/
theorem inputs_nodup (h : compile timeline encoding = .ok graph) :
    (graph.stages.flatMap Stage.inputs).Nodup := by
  have hpads := (Timeline.padsAgree_of_compile h).pads_nodup
  obtain ⟨-, laids, heard, hlaids, hheard, rfl⟩ := (compile_eq_ok_iff _ _ _).mp h
  have hlabels := (timeline.layout_delivered encoding hlaids hheard).linear.read_once
  rw [List.nodup_iff_count_le_one] at hpads ⊢
  intro label
  by_cases hpad : isPad label = true
  · rw [← List.count_filter hpad]
    exact hpads label
  · exact hlabels label (Bool.not_eq_true _ ▸ hpad)

/-- A stage that reads a label is the only one. -/
theorem readBy_of_mem (h : compile timeline encoding = .ok graph) {stage : Stage}
    (hstage : stage ∈ graph.stages) {label : String} (hread : label ∈ stage.inputs) :
    graph.ReadBy label stage := by
  intro other
  constructor
  · rintro ⟨hother, hlabel⟩
    exact eq_of_mem_flatMap_nodup (inputs_nodup h) hother hstage hlabel hread
  · rintro rfl
    exact ⟨hstage, hread⟩

variable {index : ℕ} {clip : Clip} {track : Track}

/-- The picture of a clip is prepared by one stage and laid over the frames by one. -/
theorem exists_readBy_picture (h : compile timeline encoding = .ok graph)
    (hindex : (timeline.media encoding)[index]? = some (.clip clip))
    (hgives : clip.givesPicture encoding.overlayClips) :
    ∃ prepared laid start x y, graph.ReadBy (videoPad index) prepared ∧
      graph.ReadBy prepared.output laid ∧ rationalOf clip.trimStart = .ok start ∧
      prepared.filters =
        (clip.contribution encoding.overlayClips).pictureAt timeline.fps start ∧
      laid.filters = [(clip.contribution encoding.overlayClips).overlayAt timeline.fps x y] := by
  obtain ⟨-, laids, heard, hlaids, -, hgraph⟩ := (compile_eq_ok_iff _ _ _).mp h
  obtain ⟨laid, place, hof, hprepared, hoverlaid⟩ :=
    @Timeline.exists_stages_of_picture _ _ _ heard hlaids _ _ hindex hgives
  obtain ⟨start, hstart, hpicture⟩ := (ClipSource.pictureFilters_eq_ok_iff _ _ _).mp hof.picture
  obtain ⟨x, -, y, -, hoverlay⟩ := (ClipSource.overlayFilter_eq_ok_iff _ _ _).mp hof.overlay
  refine ⟨preparedStage place laid, overlaidStage place laid, start, x, y, ?_, ?_, hstart,
    hpicture.symm, by rw [overlaidStage, hoverlay]⟩
  · refine readBy_of_mem h (by rwa [hgraph]) ?_
    rw [preparedStage, hof.input]
    exact List.mem_singleton_self _
  · exact readBy_of_mem h (by rwa [hgraph]) (by simp [preparedStage, overlaidStage])

/-- A sound is read from its pad by one stage, which has its filters. -/
theorem exists_readBy_sound (h : compile timeline encoding = .ok graph) {sound : Chain.Sound}
    (hsound : sound ∈ timeline.sounds encoding) :
    ∃ chain, graph.ReadBy sound.pad chain ∧ sound.filters = .ok chain.filters := by
  obtain ⟨-, laids, heard, -, hheard, hgraph⟩ := (compile_eq_ok_iff _ _ _).mp h
  obtain ⟨chain, hchain, hinputs, hfilters⟩ :=
    @Timeline.exists_stage_of_sound _ _ laids heard hheard _ hsound
  refine ⟨chain, readBy_of_mem h (by rwa [hgraph]) ?_, hfilters⟩
  rw [hinputs]
  exact List.mem_singleton_self _

/-- The sound of a clip is read by a chain that plays it. -/
theorem exists_readBy_clipSound (h : compile timeline encoding = .ok graph)
    (hindex : (timeline.media encoding)[index]? = some (.clip clip)) (haudio : clip.includeAudio) :
    ∃ chain start volume, graph.ReadBy (audioPad index) chain ∧
      rationalOf clip.trimStart = .ok start ∧
      chain.filters =
        (clip.contribution encoding.overlayClips).soundAt timeline.fps start volume := by
  obtain ⟨chain, hread, hfilters⟩ :=
    exists_readBy_sound h ((timeline.mem_sounds_iff encoding _).mpr ⟨_, .clip hindex haudio⟩)
  obtain ⟨start, hstart, volume, -, hsound⟩ := (ClipSource.soundFilters_eq_ok_iff _ _ _).mp hfilters
  exact ⟨chain, start, volume, hread, hstart, hsound.symm⟩

/-- The sound of a track is read by a chain that plays it. -/
theorem exists_readBy_trackSound (h : compile timeline encoding = .ok graph)
    (hindex : (timeline.media encoding)[index]? = some (.track track)) :
    ∃ chain volume, graph.ReadBy (audioPad index) chain ∧
      rationalOf track.volume = .ok volume ∧
      chain.filters =
        (track.contribution timeline.totalFrames).soundAt timeline.fps volume := by
  obtain ⟨chain, hread, hfilters⟩ :=
    exists_readBy_sound h ((timeline.mem_sounds_iff encoding _).mpr ⟨_, .track hindex⟩)
  obtain ⟨volume, hvolume, hsound⟩ := (TrackSource.soundFilters_eq_ok_iff _ _ _).mp hfilters
  exact ⟨chain, volume, hread, hvolume, hsound.symm⟩

end Graph

end Montage
