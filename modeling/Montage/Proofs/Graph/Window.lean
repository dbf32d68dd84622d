import Mathlib.Data.Int.Notation
import Mathlib.Data.Nat.Notation
import Mathlib.Data.Rat.Init
import Montage.Proofs.Clock
import Montage.Proofs.Graph.Pads

/-!
# Windows of clips

A clip is laid over the frames between two times (`Graph.ShownBetween`). The first of them is the
start of the clip, rounded half up to the millisecond, and a frame is shown exactly at its time. So
the clip is seen from its first frame on when the start is rounded down, and from its second frame on
when it is rounded up (`window_separates`). At 60 frames a second the latter befalls a clip that starts
at frame 1 (`window_late_upbeat`).
-/

namespace Montage

open Layout

/-- The picture of an input file is laid over the frames between two times, given by their texts. -/
def Graph.ShownBetween (graph : Graph) (index : ℕ) (first last : String) : Prop :=
  ∃ prepared ∈ graph.stages, prepared.inputs = [videoPad index] ∧
    ∃ laid ∈ graph.stages, prepared.output ∈ laid.inputs ∧
      ∃ x y, laid.filters = [⟨"overlay", [⟨none, x⟩, ⟨none, y⟩,
        ⟨some "enable", s!"'between(t,{first},{last})'"⟩]⟩]

namespace Timeline

variable {timeline : Timeline} {encoding : Encoding} {graph : Graph}

/-- A clip is shown from the time of its start to the last instant of it. -/
theorem shownBetween_of_compile (h : Graph.compile timeline encoding = .ok graph) {index : ℕ}
    {clip : Clip} (hindex : (timeline.media encoding)[index]? = some (.clip clip))
    (hgives : clip.givesPicture encoding.overlayClips) :
    graph.ShownBetween index (Clock.timeText timeline.fps clip.start)
      (secondsText ((clip.contribution encoding.overlayClips).lastInstant timeline.fps)) := by
  obtain ⟨-, laids, heard, hlaids, -, rfl⟩ := (Graph.compile_eq_ok_iff _ _ _).mp h
  obtain ⟨laid, place, hof, hprepared, hoverlaid⟩ :=
    @exists_stages_of_picture _ _ _ heard hlaids _ _ hindex hgives
  obtain ⟨x, -, y, -, hfilter⟩ := (ClipSource.overlayFilter_eq_ok_iff _ _ _).mp hof.overlay
  refine ⟨_, hprepared, by rw [preparedStage, hof.input], _, hoverlaid,
    by simp [preparedStage, overlaidStage], decimalText x 3, decimalText y 3, ?_⟩
  rw [overlaidStage, ← hfilter]
  rfl

/-- **The frames that are not before the window of a clip.** Below 1000 frames a second they are the
frames from the start of the clip on when the start is rounded down to the millisecond, and the frames
after the start when it is rounded up. So the window opens with the clip exactly in the first case. -/
theorem window_separates (hcompile : Graph.compile timeline encoding = .ok graph)
    (hfps : 1 ≤ timeline.fps) (hslow : timeline.fps ≤ 999) {index : ℕ} {clip : Clip}
    (hindex : (timeline.media encoding)[index]? = some (.clip clip))
    (hgives : clip.givesPicture encoding.overlayClips) (hstart : 0 ≤ clip.start)
    (hexact : 1000 * clip.start < 10 ^ 28 * timeline.fps) :
    ∃ first last lower, graph.ShownBetween index first last ∧ readDecimal? first = some lower ∧
      Clock.Separates timeline.fps lower
        (clip.start + if 2 * (1000 * clip.start % timeline.fps) < timeline.fps then 0 else 1) ∧
      (Clock.Separates timeline.fps lower clip.start ↔
        2 * (1000 * clip.start % timeline.fps) < timeline.fps) := by
  refine ⟨_, _, _, shownBetween_of_compile hcompile hindex hgives,
    Clock.readDecimal?_timeText (Clock.natAbs_delay_le hfps hstart hexact), ?_, ?_⟩
  · exact Clock.separates_delay hfps hslow clip.start
  · exact Clock.separates_start_iff hfps hslow hstart

/-- Frame 10 is at a third of a second, which is rounded down: the window opens with the clip. -/
theorem window_separates_duet : ∃ graph,
    Graph.compile duet (.standard "192k" .medium 640 360 30) = .ok graph ∧
      ∃ first last lower, graph.ShownBetween 1 first last ∧ readDecimal? first = some lower ∧
        Clock.Separates 30 lower 10 := by
  obtain ⟨graph, hgraph⟩ := @Graph.exists_compile duet (.standard "192k" .medium 640 360 30)
    duet_valid rfl rfl rfl fun clip hclip => (duet_clips clip hclip).2
  obtain ⟨first, last, lower, hshown, hlower, -, hiff⟩ :=
    @window_separates _ _ _ hgraph (by decide) (by decide) 1 (duet.clips.head (by decide)) rfl rfl
      (by decide) (by decide)
  exact ⟨graph, hgraph, first, last, lower, hshown, hlower, hiff.mpr (by decide)⟩

/-- A clip that starts with the second of 60 frames in a second. -/
def upbeat : Timeline where
  fps := 60
  width := 640
  height := 360
  totalFrames := 120
  scenes := []
  tracks := []
  clips := [⟨none, "clip.mp4", 1, some 60, 0.0, 640, 360, ⟨0.0, 0.0⟩, false, 1.0, 0, 0⟩]
  anchors := .empty

theorem upbeat_clips : ∀ clip ∈ upbeat.clips, clip.Valid ∧ clip.Finite := by
  intro clip hclip
  rw [upbeat, List.mem_singleton] at hclip
  subst hclip
  refine ⟨⟨?_, ?_, ?_, ?_, ?_, ?_, ?_, ?_, ?_⟩, ⟨?_, ?_, ?_⟩⟩
  all_goals decide +kernel

theorem upbeat_valid : upbeat.Valid :=
  ⟨by decide, by decide, by decide, by decide, by simp [upbeat], by simp [upbeat],
    fun clip hclip => (upbeat_clips clip hclip).1, by simp [upbeat]⟩

/-- The start of this clip is rounded up, so that its first frame is before its window. -/
theorem window_late_upbeat : ∃ graph,
    Graph.compile upbeat (.standard "192k" .medium 640 360 60) = .ok graph ∧
      ∃ first last, graph.ShownBetween 1 first last ∧ readDecimal? first = some (17 / 1000) ∧
        ¬ Clock.Separates 60 (17 / 1000) 1 := by
  obtain ⟨graph, hgraph⟩ := @Graph.exists_compile upbeat (.standard "192k" .medium 640 360 60)
    upbeat_valid rfl rfl rfl fun clip hclip => (upbeat_clips clip hclip).2
  have hshown := @shownBetween_of_compile _ _ _ hgraph 1 (upbeat.clips.head (by decide)) rfl rfl
  have hdelay : Clock.delay 60 1 = 17 := by decide +kernel
  have hlower := @Clock.readDecimal?_timeText 60 1 (by rw [hdelay]; decide)
  rw [hdelay] at hlower
  refine ⟨graph, hgraph, _, _, hshown, hlower, fun hseparates => ?_⟩
  -- the first frame of the clip is shown at 1/60 of a second
  have hfirst := (hseparates 1).mpr (by decide)
  norm_num at hfirst

end Timeline

end Montage
