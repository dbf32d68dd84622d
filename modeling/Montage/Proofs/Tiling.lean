import Mathlib.Algebra.Ring.Int.Defs
import Mathlib.Data.Int.Notation
import Mathlib.Data.Nat.Notation
import Montage.Proofs.Content.Sites

/-!
# Scenes tile the timeline

Scenes lie end to end from frame 0 on, so the sums of their durations (`Scene.elapsed`) are the
places where one scene stops and the next starts. What a scene has on the timeline depends on its
position and on these sums alone (`Composition.getElem?_assembled`). Since durations are not
negative the sums are in order, so that every frame below the last of them lies between two that
follow each other (`Scene.exists_scene_of_frame`), and between no others (`Scene.position_unique`).
-/

namespace Montage

/-! ## Sums of durations -/

namespace Scene

variable {scenes : List Scene} {frame : ℤ} {j k : ℕ}

/-- How long the first `k` scenes last. -/
def elapsed (scenes : List Scene) (k : ℕ) : ℤ :=
  ((scenes.take k).map Scene.duration).sum

@[simp] theorem elapsed_zero (scenes : List Scene) : elapsed scenes 0 = 0 := rfl

@[simp] theorem elapsed_cons_succ (scene : Scene) (scenes : List Scene) (k : ℕ) :
    elapsed (scene :: scenes) (k + 1) = scene.duration + elapsed scenes k := by
  rw [elapsed, List.take_succ_cons, List.map_cons, List.sum_cons, elapsed]

/-- The frames up to a scene grow by its duration. -/
theorem elapsed_succ {scene : Scene} (h : scenes[k]? = some scene) :
    elapsed scenes (k + 1) = elapsed scenes k + scene.duration := by
  rw [elapsed, List.take_add_one, h, List.map_append, List.sum_append]
  simp [elapsed]

/-- Behind the last scene nothing is added. -/
theorem elapsed_succ_of_none (h : scenes[k]? = none) :
    elapsed scenes (k + 1) = elapsed scenes k := by
  rw [elapsed, List.take_add_one, h, Option.toList_none, List.append_nil, elapsed]

theorem elapsed_le_succ (hlasts : ∀ scene ∈ scenes, 0 ≤ scene.duration) (k : ℕ) :
    elapsed scenes k ≤ elapsed scenes (k + 1) := by
  cases hscene : scenes[k]? with
  | none => exact Int.le_of_eq (elapsed_succ_of_none hscene).symm
  | some scene =>
    have := hlasts scene (List.mem_of_getElem? hscene)
    rw [elapsed_succ hscene]
    omega

/-- With durations that are not negative, a later scene does not start earlier. -/
theorem elapsed_mono (hlasts : ∀ scene ∈ scenes, 0 ≤ scene.duration) (h : j ≤ k) :
    elapsed scenes j ≤ elapsed scenes k := by
  induction h with
  | refl => exact Int.le_refl _
  | step _ ih => exact Int.le_trans ih (elapsed_le_succ hlasts _)

/-- A frame before the end of some scenes lies in one of them. -/
theorem exists_scene_of_frame (hframe : 0 ≤ frame) (h : frame < elapsed scenes k) :
    ∃ place scene, scenes[place]? = some scene ∧
      elapsed scenes place ≤ frame ∧ frame < elapsed scenes (place + 1) := by
  induction k with
  | zero =>
    rw [elapsed_zero] at h
    omega
  | succ k ih =>
    by_cases hbefore : frame < elapsed scenes k
    · exact ih hbefore
    · cases hscene : scenes[k]? with
      | none =>
        rw [elapsed_succ_of_none hscene] at h
        exact absurd h hbefore
      | some scene => exact ⟨k, scene, hscene, Int.not_lt.mp hbefore, h⟩

/-- A frame lies in one scene only: of two scenes, the earlier is over when the later starts. -/
theorem position_unique (hlasts : ∀ scene ∈ scenes, 0 ≤ scene.duration)
    (hj : elapsed scenes j ≤ frame ∧ frame < elapsed scenes (j + 1))
    (hk : elapsed scenes k ≤ frame ∧ frame < elapsed scenes (k + 1)) : j = k := by
  rcases Nat.lt_trichotomy j k with hlt | heq | hgt
  · have := elapsed_mono hlasts (show j + 1 ≤ k by omega)
    omega
  · exact heq
  · have := elapsed_mono hlasts (show k + 1 ≤ j by omega)
    omega

/-- Each scene is placed by its position and by what lies before it. -/
theorem getElem?_assembleFrom (fallback : Option (Transition Float)) (index : ℕ) (start : ℤ)
    (scenes : List Scene) (k : ℕ) :
    (assembleFrom fallback index start scenes)[k]? = scenes[k]?.map fun scene =>
      scene.placeAt fallback (index + k) (start + elapsed scenes k) (index + k ≠ 0)
        (k + 1 ≠ scenes.length) := by
  induction scenes generalizing index start k with
  | nil => rfl
  | cons scene rest ih =>
    rw [assembleFrom]
    cases k with
    | zero =>
      have hafter : (!rest.isEmpty) = decide (1 ≠ (scene :: rest).length) := by
        cases rest <;> simp
      simp [hafter]
    -- the head has gone into the start and the index of the scenes that are left
    | succ k =>
      have hindex : index + 1 + k = index + (k + 1) := by omega
      have hstart : start + scene.duration + elapsed rest k =
          start + elapsed (scene :: rest) (k + 1) := by
        rw [elapsed_cons_succ, Int.add_assoc]
      rw [List.getElem?_cons_succ, List.getElem?_cons_succ, ih, hindex, hstart]
      simp

end Scene

open Scene

namespace Composition

variable (composition : Composition)

/-- **What a scene has on the timeline**, by its position and the scenes before it. -/
theorem getElem?_assembled (k : ℕ) :
    composition.assembled[k]? = composition.scenes[k]?.map fun scene =>
      scene.placeAt composition.defaultTransition k (elapsed composition.scenes k) (k ≠ 0)
        (k + 1 ≠ composition.scenes.length) := by
  rw [assembled, assemble, getElem?_assembleFrom]
  simp

/-- A place belongs to the scene at its index, from the frames that have elapsed before. -/
theorem getElem?_assembled_eq_some_iff {k : ℕ} {place : PlacedScene Float} :
    composition.assembled[k]? = some place ↔ ∃ scene, composition.scenes[k]? = some scene ∧
      place = scene.placeAt composition.defaultTransition k (elapsed composition.scenes k) (k ≠ 0)
        (k + 1 ≠ composition.scenes.length) := by
  rw [getElem?_assembled, Option.map_eq_some_iff]
  simp only [eq_comm]

theorem length_assembled : composition.assembled.length = composition.scenes.length := by
  apply Nat.le_antisymm
  · rw [← List.getElem?_eq_none_iff, getElem?_assembled, List.getElem?_eq_none (Nat.le_refl _)]
    rfl
  · have hnone := List.getElem?_eq_none (Nat.le_refl composition.assembled.length)
    rwa [getElem?_assembled, Option.map_eq_none_iff, List.getElem?_eq_none_iff] at hnone

theorem totalFrames_eq : composition.totalFrames = (composition.scenes.map Scene.duration).sum := by
  rw [totalFrames]
  induction composition.scenes with
  | nil => rfl
  | cons scene rest ih => rw [List.foldr_cons, ih, List.map_cons, List.sum_cons]

/-- After the last scene all frames have elapsed. -/
theorem elapsed_length :
    elapsed composition.scenes composition.scenes.length = composition.totalFrames := by
  rw [elapsed, List.take_length, totalFrames_eq]

/-- The last scene stops when all scenes are over. -/
theorem lastStop_assembled : PlacedScene.lastStop composition.assembled = composition.totalFrames := by
  rw [PlacedScene.lastStop, List.getLast?_eq_getElem?, length_assembled, getElem?_assembled,
    ← elapsed_length]
  cases hlength : composition.scenes.length with
  | zero => simp [List.length_eq_zero_iff.mp hlength]
  | succ last =>
    obtain ⟨scene, hscene⟩ : ∃ scene, composition.scenes[last]? = some scene :=
      ⟨_, List.getElem?_eq_getElem (by omega)⟩
    rw [Nat.add_sub_cancel, hscene, elapsed_succ hscene]
    rfl

end Composition

/-! ## Timelines -/

namespace Timeline

/-- The scenes of a composition lie end to end on a timeline, from its first frame to its last. -/
structure Tiled (composition : Composition) (timeline : Timeline) : Prop where
  length_eq : timeline.scenes.length = composition.scenes.length
  index_eq : ∀ (k : ℕ) place, timeline.scenes[k]? = some place → place.index = k
  start_eq : ∀ (k : ℕ) place, timeline.scenes[k]? = some place →
    place.start = ((composition.scenes.take k).map Scene.duration).sum
  stop_eq : ∀ (k : ℕ) place, timeline.scenes[k]? = some place →
    place.stop = ((composition.scenes.take (k + 1)).map Scene.duration).sum
  stop_eq_start : ∀ (k : ℕ) place next, timeline.scenes[k]? = some place →
    timeline.scenes[k + 1]? = some next → place.stop = next.start
  totalFrames_eq : timeline.totalFrames = composition.totalFrames ∧
    timeline.totalFrames = (composition.scenes.map Scene.duration).sum

/-- Each frame of a timeline lies in just one scene, the one that is found for it. -/
structure Partitioned (timeline : Timeline) : Prop where
  inside : ∀ frame, 0 ≤ frame → frame < timeline.totalFrames → ∃ (k : ℕ) (place : PlacedScene Float),
    timeline.scenes[k]? = some place ∧ timeline.sceneAt frame = some place ∧
      ∀ (j : ℕ) other, timeline.scenes[j]? = some other →
        (other.start ≤ frame ∧ frame < other.stop ↔ j = k)
  outside : ∀ frame, ¬(0 ≤ frame ∧ frame < timeline.totalFrames) → timeline.sceneAt frame = none
  index_le : ∀ early late first second, early ≤ late → timeline.sceneAt early = some first →
    timeline.sceneAt late = some second → first.index ≤ second.index

/-- The scenes of a composition have transitions between them only, their own or the default one, and
fades of the lengths that they give or of their transitions. -/
structure Joined (composition : Composition) (timeline : Timeline) : Prop where
  first : ∀ place, timeline.scenes.head? = some place → place.transitionIn = none
  last : ∀ place, timeline.scenes.getLast? = some place → place.transitionOut = none
  boundary : ∀ (k : ℕ) own next place after, composition.scenes[k]? = some own →
    composition.scenes[k + 1]? = some next → timeline.scenes[k]? = some place →
    timeline.scenes[k + 1]? = some after →
      place.transitionOut = own.transitionOut.or composition.defaultTransition ∧
      after.transitionIn = next.transitionIn.or composition.defaultTransition ∧
      (own.transitionOut = none → next.transitionIn = none →
        place.transitionOut = after.transitionIn)
  fades : ∀ (k : ℕ) own place, composition.scenes[k]? = some own →
    timeline.scenes[k]? = some place →
      place.fadeIn = own.fadeIn.getD (place.transitionIn.elim 0 Transition.duration) ∧
      place.fadeOut = own.fadeOut.getD (place.transitionOut.elim 0 Transition.duration)

end Timeline

namespace Composition

variable {extra : Table Anchor} {strict : Bool} {composition : Composition} {timeline : Timeline}

section Resolved

variable (h : composition.resolve extra strict = .ok timeline)

include h

/-- The places of the timeline are those of the composition. -/
theorem getElem?_scenes_iff {k : ℕ} {place : PlacedScene Float} :
    timeline.scenes[k]? = some place ↔ ∃ scene, composition.scenes[k]? = some scene ∧
      place = scene.placeAt composition.defaultTransition k (elapsed composition.scenes k) (k ≠ 0)
        (k + 1 ≠ composition.scenes.length) := by
  obtain ⟨content, tracks, -, -, rfl⟩ := resolve_eq_ok h
  exact composition.getElem?_assembled_eq_some_iff

theorem totalFrames_of_resolve : timeline.totalFrames = composition.totalFrames := by
  obtain ⟨content, tracks, -, -, rfl⟩ := resolve_eq_ok h
  exact composition.lastStop_assembled

/-- The scenes of a resolved timeline tile it. -/
theorem tiled_of_resolve : timeline.Tiled composition where
  length_eq := by
    obtain ⟨content, tracks, -, -, rfl⟩ := resolve_eq_ok h
    exact composition.length_assembled
  index_eq := by
    intro k place hplace
    obtain ⟨scene, -, rfl⟩ := (getElem?_scenes_iff h).mp hplace
    rfl
  -- the frames that have elapsed are the start by definition, and the stop by one step more
  start_eq := by
    intro k place hplace
    obtain ⟨scene, -, rfl⟩ := (getElem?_scenes_iff h).mp hplace
    rfl
  stop_eq := by
    intro k place hplace
    obtain ⟨scene, hscene, rfl⟩ := (getElem?_scenes_iff h).mp hplace
    exact (elapsed_succ hscene).symm
  stop_eq_start := by
    intro k place next hplace hnext
    obtain ⟨scene, hscene, rfl⟩ := (getElem?_scenes_iff h).mp hplace
    obtain ⟨_, -, rfl⟩ := (getElem?_scenes_iff h).mp hnext
    exact (elapsed_succ hscene).symm
  totalFrames_eq :=
    ⟨totalFrames_of_resolve h, (totalFrames_of_resolve h).trans composition.totalFrames_eq⟩

/-- Neighbouring scenes are joined by the transitions that their scenes ask for. -/
theorem joined_of_resolve : timeline.Joined composition where
  first := by
    intro place hplace
    rw [List.head?_eq_getElem?] at hplace
    obtain ⟨scene, -, rfl⟩ := (getElem?_scenes_iff h).mp hplace
    rfl
  last := by
    intro place hplace
    rw [List.getLast?_eq_getElem?, (tiled_of_resolve h).length_eq] at hplace
    obtain ⟨scene, hscene, rfl⟩ := (getElem?_scenes_iff h).mp hplace
    have hlt := (List.getElem?_eq_some_iff.mp hscene).1
    have hlast : composition.scenes.length - 1 + 1 = composition.scenes.length := by omega
    simp [placeAt, hlast]
  boundary := by
    intro k own next place after hown hnext hplace hafter
    obtain ⟨scene, hscene, rfl⟩ := (getElem?_scenes_iff h).mp hplace
    obtain ⟨other, hother, rfl⟩ := (getElem?_scenes_iff h).mp hafter
    obtain rfl : own = scene := Option.some.inj (hown.symm.trans hscene)
    obtain rfl : next = other := Option.some.inj (hnext.symm.trans hother)
    -- a scene with another one behind it is not the last
    have hlt := (List.getElem?_eq_some_iff.mp hnext).1
    have hinterior : k + 1 ≠ composition.scenes.length := by omega
    refine ⟨by simp [placeAt, hinterior], by simp [placeAt], fun hout hin => ?_⟩
    simp [placeAt, hinterior, hout, hin]
  fades := by
    intro k own place hown hplace
    obtain ⟨scene, hscene, rfl⟩ := (getElem?_scenes_iff h).mp hplace
    obtain rfl : own = scene := Option.some.inj (hown.symm.trans hscene)
    have hfade (given : Option ℤ) (transition : Option (Transition Float)) :
        fadeLength given transition = given.getD (transition.elim 0 Transition.duration) := by
      cases transition <;> rfl
    exact ⟨hfade _ _, hfade _ _⟩

/-- A scene holds the frames between two sums of durations. -/
theorem contains_iff {k : ℕ} {place : PlacedScene Float} (hplace : timeline.scenes[k]? = some place)
    (frame : ℤ) : place.start ≤ frame ∧ frame < place.stop ↔
      elapsed composition.scenes k ≤ frame ∧ frame < elapsed composition.scenes (k + 1) := by
  rw [(tiled_of_resolve h).start_eq k place hplace, (tiled_of_resolve h).stop_eq k place hplace]
  rfl

/-- A scene that is found for a frame is a scene that it lies in. -/
theorem exists_position_of_sceneAt {frame : ℤ} {place : PlacedScene Float}
    (hfound : timeline.sceneAt frame = some place) : ∃ k, timeline.scenes[k]? = some place ∧
      elapsed composition.scenes k ≤ frame ∧ frame < elapsed composition.scenes (k + 1) := by
  obtain ⟨k, hplace⟩ := List.mem_iff_getElem?.mp (List.mem_of_find?_eq_some hfound)
  have hcontains := List.find?_some hfound
  rw [PlacedScene.contains, Bool.and_eq_true, decide_eq_true_eq, decide_eq_true_eq] at hcontains
  exact ⟨k, hplace, (contains_iff h hplace frame).mp hcontains⟩

/-- Some scene is found for a frame that lies in one. -/
theorem exists_sceneAt {frame : ℤ} {k : ℕ} {place : PlacedScene Float}
    (hplace : timeline.scenes[k]? = some place)
    (hframe : elapsed composition.scenes k ≤ frame ∧ frame < elapsed composition.scenes (k + 1)) :
    ∃ found, timeline.sceneAt frame = some found := by
  rw [← Option.isSome_iff_exists, Timeline.sceneAt, List.find?_isSome]
  refine ⟨place, List.mem_of_getElem? hplace, ?_⟩
  rw [PlacedScene.contains, Bool.and_eq_true, decide_eq_true_eq, decide_eq_true_eq]
  exact (contains_iff h hplace frame).mpr hframe

variable (hlasts : ∀ scene ∈ composition.scenes, 0 ≤ scene.duration)

include hlasts

theorem partitioned_of_resolve : timeline.Partitioned where
  inside := by
    intro frame hnonneg hlt
    rw [totalFrames_of_resolve h, ← elapsed_length] at hlt
    obtain ⟨k, scene, hscene, hframe⟩ := exists_scene_of_frame hnonneg hlt
    have hplace := (getElem?_scenes_iff h).mpr ⟨scene, hscene, rfl⟩
    obtain ⟨found, hfound⟩ := exists_sceneAt h hplace hframe
    -- the first scene that is found is this one, as there is no other
    obtain ⟨j, hj, hjframe⟩ := exists_position_of_sceneAt h hfound
    obtain rfl := position_unique hlasts hjframe hframe
    refine ⟨j, found, hj, hfound, fun i other hother => ?_⟩
    rw [contains_iff h hother]
    constructor
    · exact fun hi => position_unique hlasts hi hframe
    · rintro rfl
      exact hframe
  outside := by
    intro frame hout
    by_contra hfound
    obtain ⟨place, hfound⟩ := Option.ne_none_iff_exists'.mp hfound
    obtain ⟨k, hplace, hframe⟩ := exists_position_of_sceneAt h hfound
    have hfirst := elapsed_mono hlasts (Nat.zero_le k)
    obtain ⟨scene, hscene, -⟩ := (getElem?_scenes_iff h).mp hplace
    have hlt := (List.getElem?_eq_some_iff.mp hscene).1
    have hlast := elapsed_mono hlasts (show k + 1 ≤ composition.scenes.length by omega)
    rw [elapsed_zero] at hfirst
    rw [elapsed_length, ← totalFrames_of_resolve h] at hlast
    omega
  index_le := by
    intro early late first second hle hfirst hsecond
    obtain ⟨j, hj, hearly⟩ := exists_position_of_sceneAt h hfirst
    obtain ⟨k, hk, hlate⟩ := exists_position_of_sceneAt h hsecond
    rw [(tiled_of_resolve h).index_eq j first hj, (tiled_of_resolve h).index_eq k second hk]
    by_contra hback
    have := elapsed_mono hlasts (show k + 1 ≤ j by omega)
    omega

end Resolved

/-- **The scenes of a composition tile its timeline.** They lie end to end, each frame of the
timeline lies in just one of them, and they have transitions between each other only. -/
theorem resolve_tiles (h : composition.resolve extra strict = .ok timeline)
    (hlasts : ∀ scene ∈ composition.scenes, 0 ≤ scene.duration) :
    timeline.Tiled composition ∧ timeline.Partitioned ∧ timeline.Joined composition :=
  ⟨tiled_of_resolve h, partitioned_of_resolve h hlasts, joined_of_resolve h⟩

/-- Three scenes with a cross-fade between them by default. The first has a transition of its own on
both sides, and the one in the middle gives the length of its fade-in. -/
def triptych : Composition where
  fps := 30
  width := 640
  height := 360
  scenes := [
    ⟨"left", 60, some ⟨5, .linear, .scale⟩, some ⟨8, .linear, .scale⟩, none, none, []⟩,
    ⟨"middle", 40, none, none, some 3, none, []⟩,
    ⟨"right", 50, none, some ⟨5, .linear, .scale⟩, none, none, []⟩]
  defaultTransition := some ⟨10, .linear, .crossFade⟩
  tracks := []
  music := none
  anchors := .empty

/-- Frame 60 is the first of the scene in the middle, which is left through the default transition as
the last scene is entered, and frame 150 is in no scene. -/
theorem resolve_tiles_triptych : ∃ timeline, triptych.resolve .empty true = .ok timeline ∧
    (∀ place, timeline.scenes.head? = some place → place.transitionIn = none) ∧
    (∃ (k : ℕ) (place : PlacedScene Float), timeline.scenes[k]? = some place ∧
      timeline.sceneAt 60 = some place ∧
      place.start = 60 ∧ place.stop = 100 ∧ place.fadeIn = 3 ∧
      (place.transitionOut.map Transition.duration) = some 10) ∧
    timeline.sceneAt 150 = none := by
  have hlasts : ∀ scene ∈ triptych.scenes, 0 ≤ scene.duration := by
    simp [triptych]
  obtain ⟨timeline, htimeline⟩ : ∃ timeline, triptych.resolve .empty true = .ok timeline := ⟨_, rfl⟩
  obtain ⟨htiled, hpartitioned, hjoined⟩ := resolve_tiles htimeline hlasts
  have htotal : timeline.totalFrames = 150 := htiled.totalFrames_eq.1
  refine ⟨timeline, htimeline, hjoined.first, ?_, hpartitioned.outside 150 (by omega)⟩
  obtain ⟨k, place, hplace, hfound, honly⟩ := hpartitioned.inside 60 (by omega) (by omega)
  cases htimeline
  obtain rfl : 1 = k := (honly 1 _ rfl).mp (by decide)
  cases hplace
  exact ⟨1, _, rfl, hfound, rfl, rfl, rfl, rfl⟩

end Composition

end Montage
