import Mathlib.Data.List.Basic
import Montage.Proofs.Graph.Legible
import Montage.Proofs.Graph.Readers
import Montage.Proofs.Graph.Window

/-!
# Clips in succession

The window of a clip ends half a frame before the frame after the clip. Rounding moves a time by
half a millisecond at most, which is less than half a frame below 1000 frames a second, so the
window holds the last frame of the clip and not the next one. A clip that begins where another has
ended is then never shown together with it (`windows_in_succession`).

The window is what the graph says, read back from its text (`Graph.Window`). A graph has one window
for each picture (`Timeline.shownBetween_iff`).
-/

namespace Montage

open Layout

/-- The commas of an interval tell its ends apart. -/
theorem interval_inj {first last other final : String} (hfirst : Clear first) (hlast : Clear last)
    (h : s!"'between(t,{first},{last})'" = s!"'between(t,{other},{final})'") :
    first = other ∧ last = final := by
  have hlists (first last : String) : (s!"'between(t,{first},{last})'").toList =
      "'between(t,".toList ++ (first.toList ++ ',' :: (last.toList ++ [')', '\''])) := by
    show ("'between(t," ++ first ++ "," ++ last ++ ")'").toList = _
    simp
  have hcomma {text : String} (htext : Clear text) : ',' ∉ text.toList := htext.not_mem (by decide)
  have hclosed : ',' ∉ last.toList ++ [')', '\''] := by
    rw [List.mem_append, not_or]
    exact ⟨hcomma hlast, by decide⟩
  rw [← String.toList_inj, hlists, hlists, List.append_cancel_left_eq,
    List.append_cons_inj_of_notMem (hcomma hfirst) hclosed, List.append_cancel_right_eq,
    String.toList_inj, String.toList_inj] at h
  exact ⟨h.1, h.2.2⟩

/-- The window of an input file: the times, in seconds, from which on and up to which its picture is
laid over the frames. -/
def Graph.Window (graph : Graph) (index : ℕ) (lower upper : ℚ) : Prop :=
  ∃ first last, graph.ShownBetween index first last ∧ readDecimal? first = some lower ∧
    readDecimal? last = some upper

namespace Timeline

variable {timeline : Timeline} {encoding : Encoding} {graph : Graph} {index : ℕ} {clip : Clip}

/-- The texts of a window are those of the start and of the last instant of the clip, and no others.
-/
theorem shownBetween_iff (h : Graph.compile timeline encoding = .ok graph)
    (hindex : (timeline.media encoding)[index]? = some (.clip clip))
    (hgives : clip.givesPicture encoding.overlayClips) (first last : String) :
    graph.ShownBetween index first last ↔ first = Clock.timeText timeline.fps clip.start ∧
      last = secondsText ((clip.contribution encoding.overlayClips).lastInstant timeline.fps) := by
  refine ⟨?_, ?_⟩
  · rintro ⟨prepared, hprepared, hinputs, laid, hlaid, houtput, x, y, hfilters⟩
    obtain ⟨other, another, start, x', y', hother, hanother, -, -, hoverlay⟩ :=
      Graph.exists_readBy_picture h hindex hgives
    obtain rfl := hother.eq hprepared (by rw [hinputs]; exact List.mem_singleton_self _)
    obtain rfl := hanother.eq hlaid houtput
    rw [hoverlay, ClipSource.overlayAt] at hfilters
    simp only [List.cons.injEq, Filter.mk.injEq, Argument.mk.injEq, true_and, and_true] at hfilters
    obtain ⟨hfirst, hlast⟩ := interval_inj (clear_timeText _ _) (clear_secondsText _) hfilters.2.2
    exact ⟨hfirst.symm, hlast.symm⟩
  · rintro ⟨rfl, rfl⟩
    exact shownBetween_of_compile h hindex hgives

/-- The window of a clip can be read, and begins with the delay to its start, if that is exact. -/
theorem lower_of_window (h : Graph.compile timeline encoding = .ok graph)
    (hindex : (timeline.media encoding)[index]? = some (.clip clip))
    (hgives : clip.givesPicture encoding.overlayClips) (hfps : 0 < timeline.fps)
    (hstart : 0 ≤ clip.start) (hexact : 1000 * clip.start < 10 ^ 28 * timeline.fps)
    {lower upper : ℚ} (hwindow : graph.Window index lower upper) :
    lower = Clock.delay timeline.fps clip.start / 1000 := by
  obtain ⟨first, last, hshown, hlower, -⟩ := hwindow
  obtain ⟨rfl, -⟩ := (shownBetween_iff h hindex hgives _ _).mp hshown
  rw [Clock.readDecimal?_timeText (Clock.natAbs_delay_le hfps hstart hexact)] at hlower
  exact (Option.some.inj hlower).symm

/-- The last instant of a clip can be read from its text, rounded to the millisecond. -/
theorem readDecimal?_lastInstant (hfps : 0 < timeline.fps) (hstop : 1 ≤ clip.start + clip.frames)
    (hexact : 1000 * (2 * (clip.start + clip.frames) - 1) < 10 ^ 28 * (2 * timeline.fps))
    (overlaid : Bool) :
    readDecimal? (secondsText ((clip.contribution overlaid).lastInstant timeline.fps)) =
      some (roundHalfUp (Clock.time (2 * timeline.fps) (2 * (clip.start + clip.frames) - 1) *
        10 ^ 3) / 1000 : ℚ) := by
  have hfpsq : (0 : ℚ) < (2 * timeline.fps : ℤ) := by exact_mod_cast by omega
  refine Clock.readDecimal?_secondsText (natAbs_roundHalfUp_le ?_ ?_)
  · have hnonneg : (0 : ℚ) ≤ (2 * (clip.start + clip.frames) - 1 : ℤ) := by
      exact_mod_cast by omega
    exact mul_nonneg (div_nonneg hnonneg hfpsq.le) (by norm_num)
  · have hexactq : (1000 * (2 * (clip.start + clip.frames) - 1 : ℤ) : ℚ) <
        10 ^ 28 * (2 * timeline.fps : ℤ) := by
      exact_mod_cast hexact
    show Clock.time (2 * timeline.fps) (2 * (clip.start + clip.frames) - 1) * 10 ^ 3 < _
    rw [Clock.time, div_mul_eq_mul_div, div_lt_iff₀ hfpsq]
    push_cast at hexactq ⊢
    linarith

/-- **The window of a clip ends with the clip.** Below 1000 frames a second, the frames that are not
after the window are those before the end of the clip, and no frame lies both in its window and in
that of a clip that starts there or later. -/
theorem windows_in_succession (h : Graph.compile timeline encoding = .ok graph)
    (hfps : 1 ≤ timeline.fps) (hslow : timeline.fps ≤ 999)
    (hindex : (timeline.media encoding)[index]? = some (.clip clip))
    (hgives : clip.givesPicture encoding.overlayClips) (hstart : 0 ≤ clip.start)
    (hframes : 1 ≤ clip.frames)
    (hexact : 1000 * (2 * (clip.start + clip.frames) - 1) < 10 ^ 28 * (2 * timeline.fps)) :
    (∃ lower upper, graph.Window index lower upper) ∧
      ∀ lower upper, graph.Window index lower upper →
        (∀ frame : ℤ, (frame / timeline.fps : ℚ) ≤ upper ↔ frame < clip.start + clip.frames) ∧
        ∀ next follower, (timeline.media encoding)[next]? = some (.clip follower) →
          follower.givesPicture encoding.overlayClips →
          clip.start + clip.frames ≤ follower.start →
          1000 * follower.start < 10 ^ 28 * timeline.fps →
          ∀ opening closing, graph.Window next opening closing → ∀ frame : ℤ,
            ¬((lower ≤ frame / timeline.fps ∧ (frame / timeline.fps : ℚ) ≤ upper) ∧
              opening ≤ frame / timeline.fps ∧ (frame / timeline.fps : ℚ) ≤ closing) := by
  have hlast := @readDecimal?_lastInstant timeline clip hfps (by omega) hexact encoding.overlayClips
  refine ⟨⟨_, _, _, _, shownBetween_of_compile h hindex hgives,
    Clock.readDecimal?_timeText (Clock.natAbs_delay_le hfps hstart (by omega)), hlast⟩, ?_⟩
  rintro lower upper ⟨first, last, hshown, -, hupper⟩
  obtain ⟨-, rfl⟩ := (shownBetween_iff h hindex hgives _ _).mp hshown
  obtain rfl := Option.some.inj (hlast.symm.trans hupper)
  have hends := Clock.le_halfway_iff hfps hslow (clip.start + clip.frames)
  refine ⟨hends, ?_⟩
  rintro next follower hnext hfollows hafter hfollower opening closing hwindow frame
    ⟨⟨-, hbefore⟩, hopen, -⟩
  -- a frame before the end of the first clip is before the start of the other, and so of its window
  have hlt := (hends frame).mp hbefore
  rw [lower_of_window h hnext hfollows hfps (by omega) hfollower hwindow,
    Clock.delay_le_iff hfps hslow] at hopen
  split at hopen <;> omega

/-- Two clips of one frame each, one after the other, at 999 frames a second. -/
def relay : Timeline where
  fps := 999
  width := 640
  height := 360
  totalFrames := 2
  scenes := []
  tracks := []
  clips := [
    ⟨none, "a.mp4", 0, some 1, 0.0, 640, 360, ⟨0.0, 0.0⟩, false, 1.0, 0, 0⟩,
    ⟨none, "b.mp4", 1, some 1, 0.0, 640, 360, ⟨0.0, 0.0⟩, false, 1.0, 0, 0⟩]
  anchors := .empty

theorem relay_clips : ∀ clip ∈ relay.clips, clip.Valid ∧ clip.Finite := by
  intro clip hclip
  rw [relay, List.mem_cons, List.mem_singleton] at hclip
  rcases hclip with rfl | rfl
  all_goals
    refine ⟨⟨?_, ?_, ?_, ?_, ?_, ?_, ?_, ?_, ?_⟩, ⟨?_, ?_, ?_⟩⟩
    all_goals decide +kernel

theorem relay_valid : relay.Valid :=
  ⟨by decide, by decide, by decide, by decide, by simp [relay], by simp [relay],
    fun clip hclip => (relay_clips clip hclip).1, by simp [relay]⟩

/-- Both the end of the first window and the start of the second are a millisecond after the first
frame, which the second frame is not before by a thousandth of a millisecond. -/
theorem windows_in_succession_relay : ∃ graph,
    Graph.compile relay (.standard "192k" .medium 640 360 999) = .ok graph ∧
      ∃ lower upper opening closing, graph.Window 1 lower upper ∧ graph.Window 2 opening closing ∧
        (∀ frame : ℤ, (frame / 999 : ℚ) ≤ upper ↔ frame < 1) ∧
        ∀ frame : ℤ, ¬((lower ≤ frame / 999 ∧ (frame / 999 : ℚ) ≤ upper) ∧
          opening ≤ frame / 999 ∧ (frame / 999 : ℚ) ≤ closing) := by
  obtain ⟨graph, hgraph⟩ := @Graph.exists_compile relay (.standard "192k" .medium 640 360 999)
    relay_valid rfl rfl rfl fun clip hclip => (relay_clips clip hclip).2
  obtain ⟨⟨lower, upper, hwindow⟩, hfirst⟩ := @windows_in_succession relay _ graph 1
    (relay.clips.head (by decide)) hgraph (by decide) (by decide) rfl rfl (by decide) (by decide)
    (by decide)
  obtain ⟨⟨opening, closing, hnext⟩, -⟩ := @windows_in_succession relay _ graph 2
    (relay.clips.getLast (by decide)) hgraph (by decide) (by decide) rfl rfl (by decide) (by decide)
    (by decide)
  obtain ⟨hends, hapart⟩ := hfirst lower upper hwindow
  exact ⟨graph, hgraph, lower, upper, opening, closing, hwindow, hnext, hends,
    hapart 2 _ rfl rfl (by decide) (by decide) opening closing hnext⟩

end Timeline

end Montage
