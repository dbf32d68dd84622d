import Mathlib.Data.Int.Notation
import Montage.Proofs.Content.Sites

/-!
# How long open clips last

A clip without a duration lasts to the end of its window. A window ends with the window around it or
earlier, except when it starts later than that: then it is empty, and ends at its own start. So a
window ends no later than its scene or than the start of a group around it, whichever is later
(`stop_window`), and an open clip that is not empty ends just when its window does
(`openClips_last`).

The start of a clip is moved by the offsets of the groups around it and the end of its window is
not, so a clip in an empty window need not be empty. It may even start inside its scene and end long
after it (`openClip_outlives_scene`).
-/

namespace Montage

namespace TimingContext

/-- A window inside one that ends at some frame ends no later, or else just where it starts. -/
theorem stop_child {context : TimingContext} {stop : ℤ} (h : context.stop = some stop)
    (group : Group) : ∃ last, (context.child group).stop = some last ∧
      (last ≤ stop ∨ stop < last ∧ last = (context.child group).start) := by
  have hlimit : ∃ limit, context.groupLimit group = some limit ∧ limit ≤ stop := by
    rw [groupLimit.eq_def, h]
    rcases group.duration with _ | duration
    · exact ⟨stop, rfl, Int.le_refl stop⟩
    · exact ⟨_, rfl, Int.min_le_right _ _⟩
  obtain ⟨limit, hlimit, hle⟩ := hlimit
  refine ⟨max limit (context.groupStart group), by rw [child, hlimit]; rfl, ?_⟩
  show _ ∨ _ ∧ _ = context.groupStart group
  omega

end TimingContext

namespace PlacedScene

/-- **A nested window ends no later than its scene**, or than the start of one of the groups that
open it, if that group starts after the end of the scene. -/
theorem stop_window (place : PlacedScene Float) (groups : List Group) :
    ∃ stop, (place.window groups).stop = some stop ∧
      (stop ≤ place.stop ∨ ∃ outer, outer <+: groups ∧
        place.stop < (place.window outer).start ∧ stop ≤ (place.window outer).start) := by
  -- on the innermost group, whose window is cut off by the window of the groups around it
  induction groups using List.reverseRecOn with
  | nil => exact ⟨place.stop, rfl, .inl (Int.le_refl _)⟩
  | append_singleton groups group ih =>
    obtain ⟨stop, hstop, hbound⟩ := ih
    obtain ⟨last, hlast, hchild⟩ := TimingContext.stop_child hstop group
    rw [← window_concat] at hlast hchild
    refine ⟨last, hlast, ?_⟩
    rcases hchild with hle | ⟨hlt, heq⟩
    · rcases hbound with hscene | ⟨outer, hprefix, hlate, hbound⟩
      · exact .inl (Int.le_trans hle hscene)
      · exact .inr ⟨outer, hprefix.trans (List.prefix_append _ _), hlate, Int.le_trans hle hbound⟩
    · -- the new group starts late, and is itself the one that bounds its window
      by_cases hscene : last ≤ place.stop
      · exact .inl hscene
      · exact .inr ⟨groups ++ [group], List.prefix_rfl, by omega, by omega⟩

end PlacedScene

namespace Site

/-- The clip of a site, when it is authored without a duration, is empty or lasts just to the end of
its window. The window does not outlast the scene unless a group around the site starts after the
end of the scene, and then it ends by such a start. -/
def LastsToStop (site : Site) (clip : Clip) : Prop :=
  ∀ own afterParentEntry, site.node = .clip own afterParentEntry → own.duration = none →
    ∃ stop duration, site.window.stop = some stop ∧ clip.duration = some duration ∧
      (duration = 0 ∧ stop ≤ clip.start ∨ 0 < duration ∧ clip.start + duration = stop) ∧
      (stop ≤ site.place.stop ∨ ∃ outer, outer <+: site.groups ∧
        site.place.stop < (site.place.window outer).start ∧
        stop ≤ (site.place.window outer).start)

/-- The clip of a site, when it is authored without a duration, is empty or ends within the scene.
-/
def EndsInScene (site : Site) (clip : Clip) : Prop :=
  ∀ own afterParentEntry, site.node = .clip own afterParentEntry → own.duration = none →
    ∃ duration, clip.duration = some duration ∧
      (duration = 0 ∨ clip.start + duration ≤ site.place.stop)

/-- Where no group around a site starts after the end of the scene, an open clip ends within it. -/
theorem LastsToStop.endsInScene {site : Site} {clip : Clip} (h : site.LastsToStop clip)
    (hgroups : ∀ outer, outer <+: site.groups → (site.place.window outer).start ≤ site.place.stop) :
    site.EndsInScene clip := by
  intro own afterParentEntry hnode hopen
  obtain ⟨stop, duration, -, hduration, hlast, hstop⟩ := h own afterParentEntry hnode hopen
  refine ⟨duration, hduration, ?_⟩
  rcases hstop with hstop | ⟨outer, hprefix, hlate, -⟩
  · omega
  · have := hgroups outer hprefix
    omega

end Site

/-- A clip without a duration is placed to last to the end of its window. -/
theorem Clip.placeIn_open {context : TimingContext} {afterParentEntry : Bool} {ordinal : ℕ}
    {own clip : Clip} {stop : ℤ} (hplaced : own.placeIn context afterParentEntry ordinal = .ok clip)
    (hopen : own.duration = none) (hstop : context.stop = some stop) :
    clip.duration = some (max (stop - clip.start) 0) := by
  rw [placeIn] at hplaced
  split at hplaced
  · cases hplaced
  · cases hplaced
    rw [hopen, hstop]
    rfl

namespace Composition

variable {extra : Table Anchor} {strict : Bool} {composition : Composition} {timeline : Timeline}

/-- **Open clips are empty or last to the end of their windows**, for every depth of groups and all
starts and offsets. They end no later than their scenes, except inside groups that start after the
end of the scene. -/
theorem openClips_last (h : composition.resolve extra strict = .ok timeline) :
    List.Forall₂ Site.LastsToStop composition.clipSites timeline.clips := by
  obtain ⟨content, tracks, hcontent, -, rfl⟩ := resolve_eq_ok h
  refine (clips_of_sites hcontent).imp fun site clip => ?_
  rintro ⟨own, afterParentEntry, ordinal, hnode, hplaced⟩ other after hother hopen
  rw [hnode, Node.clip.injEq] at hother
  obtain ⟨rfl, rfl⟩ := hother
  obtain ⟨stop, hstop, hbound⟩ := site.place.stop_window site.groups
  refine ⟨stop, _, hstop, Clip.placeIn_open hplaced hopen hstop, ?_, hbound⟩
  -- the clip is empty just when it starts at the end of its window or later
  omega

/-- A scene of 100 frames before one of 150, with an open clip in a group that starts at frame 200
and is moved back by 150 frames. -/
def belated : Composition where
  fps := 30
  width := 640
  height := 360
  scenes := [
    ⟨"opening", 100, none, none, none, none, [
      .group ⟨"late", 200, none, 0, 0, -150, false⟩ [
        .clip ⟨none, "clip.mp4", 0, none, 0.0, 640, 360, ⟨0.0, 0.0⟩, true, 1.0, 0, 0⟩ false]]⟩,
    ⟨"closing", 150, none, none, none, none, []⟩]
  defaultTransition := none
  tracks := []
  music := none
  anchors := .empty

/-- The window of the group is empty at frame 200, the clip in it starts at frame 50. -/
theorem openClips_last_belated : ∃ timeline, belated.resolve .empty false = .ok timeline ∧
    List.Forall₂ Site.LastsToStop belated.clipSites timeline.clips ∧
      belated.clipSites.map (fun site => site.window.stop) = [some 200] := by
  obtain ⟨timeline, htimeline⟩ : ∃ timeline, belated.resolve .empty false = .ok timeline := ⟨_, rfl⟩
  exact ⟨timeline, htimeline, openClips_last htimeline, rfl⟩

/-- **An open clip may outlive its scene.** It starts at frame 50 of a scene that ends at frame 100,
and lasts to frame 200. -/
theorem openClip_outlives_scene : ∃ timeline, belated.resolve .empty false = .ok timeline ∧
    timeline.clips.map (fun clip => (clip.start, clip.duration)) = [(50, some 150)] ∧
      ¬List.Forall₂ Site.EndsInScene belated.clipSites timeline.clips := by
  refine ⟨_, rfl, rfl, fun hall => ?_⟩
  obtain ⟨hfirst, -⟩ := List.forall₂_cons.mp hall
  obtain ⟨duration, hduration, hbound⟩ := hfirst _ _ rfl rfl
  obtain rfl : 150 = duration := Option.some.inj hduration
  revert hbound
  decide

end Composition

end Montage
