import Mathlib.Data.Option.Basic
import Montage.Proofs.Easing.Progress
import Montage.Proofs.Geometry
import Montage.Timeline

/-!
# How scenes enter and leave

A transition shows a scene within bounds for every progress (`Transition.Bounded`), because progress
is moved into the unit interval first. A scene that has entered, or has not begun to leave, is shown as
it is (`Appearance.Neutral`): the curves lead from 0 to 1, and every effect is done at the end of the
entry and has not begun at the start of the exit. A scene is shown without a transition outside of both
windows (`PlacedScene.Joins`), so it does not jump where a window begins or ends (`appearances_join`).
-/

namespace Montage

/-! ## Appearances -/

namespace Rect

/-- A rectangle that lies inside of the unit square, and that passes the check of its extents. -/
structure InUnitSquare (rect : Rect ℚ) : Prop where
  left_nonneg : 0 ≤ rect.left
  top_nonneg : 0 ≤ rect.top
  width_nonneg : 0 ≤ rect.width
  height_nonneg : 0 ≤ rect.height
  right_le_one : rect.left + rect.width ≤ 1
  bottom_le_one : rect.top + rect.height ≤ 1
  accepted : ofExtents rect.left rect.top rect.width rect.height = .ok rect

/-- A rectangle is in the unit square when its far edges are. -/
theorem InUnitSquare.of_le {left top width height : ℚ} (hleft : 0 ≤ left) (htop : 0 ≤ top)
    (hwidth : 0 ≤ width) (hheight : 0 ≤ height) (hright : left + width ≤ 1)
    (hbottom : top + height ≤ 1) : InUnitSquare ⟨left, top, width, height⟩ :=
  ⟨hleft, htop, hwidth, hheight, hright, hbottom, proper_iff.mp ⟨hwidth, hheight⟩⟩

end Rect

namespace Appearance

/-- A scene is shown as it is, whatever point it would be scaled about and whatever colour would cover
it. -/
structure Neutral (shown : Appearance ℚ) : Prop where
  translateX_eq : shown.translateX = 0
  translateY_eq : shown.translateY = 0
  scale_eq : shown.scale = 1
  opacity_eq : shown.opacity = 1
  overlayAlpha_eq : shown.overlayAlpha = 0
  clip_eq : ∀ rect ∈ shown.clip, rect = ⟨0, 0, 1, 1⟩

/-- A scene is moved by a frame at most, shown and covered in part, and clipped inside of the frame. -/
structure Within (shown : Appearance ℚ) : Prop where
  translateX_mem : shown.translateX ∈ Set.Icc (-1) 1
  translateY_mem : shown.translateY ∈ Set.Icc (-1) 1
  opacity_mem : shown.opacity ∈ Set.Icc 0 1
  overlayAlpha_mem : shown.overlayAlpha ∈ Set.Icc 0 (4 / 5)
  clip_inUnitSquare : ∀ rect ∈ shown.clip, rect.InUnitSquare

theorem plain_neutral : (plain : Appearance ℚ).Neutral := by
  constructor
  case clip_eq => exact fun _ hrect => absurd hrect (Option.not_mem_none _)
  all_goals norm_num [plain]

theorem plain_within : (plain : Appearance ℚ).Within := by
  constructor
  case clip_inUnitSquare => exact fun _ hrect => absurd hrect (Option.not_mem_none _)
  all_goals norm_num [plain]

end Appearance

namespace Transition

open Appearance

variable (transition : Transition ℚ) {amount part : ℚ}

/-! ## Effects -/

/-- A slide by less than its own size keeps within the bounds of appearances. -/
theorem slideBy_within (direction : SlideDirection) (h : amount ∈ Set.Icc (-1) 1) :
    (slideBy direction amount).Within := by
  have hback : -amount ∈ Set.Icc (-1) 1 := ⟨neg_le_neg h.2, neg_le.mp h.1⟩
  cases direction
  case left => exact { plain_within with translateX_mem := h }
  case right => exact { plain_within with translateX_mem := hback }
  case up => exact { plain_within with translateY_mem := h }
  case down => exact { plain_within with translateY_mem := hback }

theorem slideBy_zero (direction : SlideDirection) : (slideBy direction (0 : ℚ)).Neutral := by
  cases direction
  case left => exact { plain_neutral with translateX_eq := rfl }
  case right => exact { plain_neutral with translateX_eq := neg_zero }
  case up => exact { plain_neutral with translateY_eq := rfl }
  case down => exact { plain_neutral with translateY_eq := neg_zero }

/-- A part of a wipe covers a rectangle in the unit square. -/
theorem wipeClip_inUnitSquare (direction : WipeDirection) (h : part ∈ Set.Icc 0 1) :
    (wipeClip direction part).InUnitSquare := by
  obtain ⟨hpart₀, hpart₁⟩ := h
  cases direction
  all_goals
    simp only [wipeClip]
    norm_num only
    apply Rect.InUnitSquare.of_le <;> linarith

theorem wipeClip_one (direction : WipeDirection) : wipeClip direction (1 : ℚ) = ⟨0, 0, 1, 1⟩ := by
  cases direction
  all_goals
    simp only [wipeClip]
    norm_num only

/-- A scale is neither 0 nor larger than 1. -/
theorem clampScale_mem (scale : ℚ) : clampScale scale ∈ Set.Icc (1 / 1000) 1 := by
  simp only [clampScale, minScale]
  norm_num only
  split_ifs with hone hleast hleast
  · exact ⟨hleast.le, hone.le⟩
  · norm_num
  · norm_num
  · norm_num

theorem clampScale_one : clampScale (1 : ℚ) = 1 := by
  simp only [clampScale, minScale]
  norm_num

/-! ## Bounds -/

/-- A zoom is between none and its peak. -/
theorem zoom_mem {maxZoom : ℚ} (hpeak : 1 ≤ maxZoom) (h : part ∈ Set.Icc 0 1) :
    1 + (maxZoom - 1) * part ∈ Set.Icc 1 maxZoom := by
  have hrange : 0 ≤ maxZoom - 1 := sub_nonneg.mpr hpeak
  have hlow : 0 ≤ (maxZoom - 1) * part := mul_nonneg hrange h.1
  have hhigh : (maxZoom - 1) * part ≤ maxZoom - 1 := mul_le_of_le_one_right hrange h.2
  exact ⟨by linarith, by linarith⟩

/-- How a transition may show a scene. A scene that grows or shrinks never vanishes, and a zoom goes from
the size of the scene up to its peak. -/
structure Bounded (transition : Transition ℚ) (shown : Appearance ℚ) : Prop extends shown.Within where
  scale_mem : transition.effect = .scale → shown.scale ∈ Set.Icc (1 / 1000) 1
  zoom_mem : ∀ maxZoom target, transition.effect = .zoomWarp maxZoom target → 1 ≤ maxZoom →
    shown.scale ∈ Set.Icc 1 maxZoom

/-- **A transition shows a scene within bounds**, whatever its progress is. -/
theorem appearance_bounded (progress : ℚ) (entering : Bool) :
    transition.Bounded (transition.appearance progress entering) := by
  obtain ⟨duration, curve, effect⟩ := transition
  have hdone := Scalar.clampUnit_mem progress
  simp only [appearance, maxBleed]
  norm_num only
  generalize Scalar.clampUnit progress = done at *
  have hleft : 1 - done ∈ Set.Icc 0 1 := ⟨by linarith [hdone.2], by linarith [hdone.1]⟩
  -- a scene that enters is shown as far as it is done, and one that leaves as far as it is not
  have hshown : (if entering then done else 1 - done) ∈ Set.Icc 0 1 := by
    split
    exacts [hdone, hleft]
  have hhidden : (if entering then 1 - done else done) ∈ Set.Icc 0 1 := by
    split
    exacts [hleft, hdone]
  cases effect with
  | none => exact { plain_within with scale_mem := nofun, zoom_mem := nofun }
  | crossFade =>
    exact { plain_within with opacity_mem := hshown, scale_mem := nofun, zoom_mem := nofun }
  | slide direction =>
    have hamount : (if entering then 1 - done else -done) ∈ Set.Icc (-1) 1 := by
      split
      · exact ⟨by linarith [hleft.1], hleft.2⟩
      · exact ⟨by linarith [hdone.2], by linarith [hdone.1]⟩
    exact { slideBy_within direction hamount with scale_mem := nofun, zoom_mem := nofun }
  | scale =>
    exact { plain_within with scale_mem := fun _ => clampScale_mem _, zoom_mem := nofun }
  | wipe direction =>
    have hclip := wipeClip_inUnitSquare direction hshown
    exact { plain_within with
      clip_inUnitSquare := fun rect hrect => Option.some.inj hrect ▸ hclip
      scale_mem := nofun
      zoom_mem := nofun }
  | zoomWarp maxZoom target =>
    refine { plain_within with opacity_mem := hshown, scale_mem := nofun, zoom_mem := ?_ }
    rintro _ _ ⟨⟩ hpeak
    exact zoom_mem hpeak hhidden
  | colorBleed color =>
    refine { plain_within with overlayAlpha_mem := ?_, scale_mem := nofun, zoom_mem := nofun }
    show (if entering then 1 - done else done) * (4 / 5) ∈ _
    exact ⟨by linarith [hhidden.1], by linarith [hhidden.2]⟩

/-- **A transition that is done with a scene that enters, or has not begun with one that leaves, shows it
as it is.** -/
theorem appearance_neutral {progress : ℚ} {entering : Bool}
    (h : progress = if entering then 1 else 0) :
    (transition.appearance progress entering).Neutral := by
  obtain ⟨duration, curve, effect⟩ := transition
  have hdone : Scalar.clampUnit progress = if entering then 1 else 0 := by
    rw [h]
    split
    · exact Scalar.clampUnit_of_one_le le_rfl
    · exact Scalar.clampUnit_of_nonpos le_rfl
  generalize hp : Scalar.clampUnit progress = done at hdone
  -- nothing is hidden or moved at the end of an entry, or at the start of an exit
  have hshown : (if entering then done else 1 - done) = 1 := by cases entering <;> simp [hdone]
  have hhidden : (if entering then 1 - done else done) = 0 := by cases entering <;> simp [hdone]
  have hmoved : (if entering then 1 - done else -done) = 0 := by cases entering <;> simp [hdone]
  simp only [appearance, maxBleed, hp]
  norm_num only
  rw [hshown, hhidden, hmoved]
  -- each kind starts from the plain appearance in the parts that it leaves alone
  cases effect with
  | none => exact plain_neutral
  | crossFade => exact { plain_neutral with opacity_eq := rfl }
  | slide direction => exact slideBy_zero direction
  | scale => exact { plain_neutral with scale_eq := clampScale_one }
  | wipe direction =>
    exact { plain_neutral with
      clip_eq := fun rect hrect => (Option.some.inj hrect).symm.trans (wipeClip_one direction) }
  | zoomWarp maxZoom target =>
    exact { plain_neutral with
      scale_eq := by
        show 1 + (maxZoom - 1) * 0 = 1
        ring
      opacity_eq := rfl }
  | colorBleed color => exact { plain_neutral with overlayAlpha_eq := zero_mul _ }

end Transition

/-! ## Scenes -/

namespace PlacedScene

open Appearance Transition

variable (scene : PlacedScene ℚ) (frame : ℤ) {transition : Transition ℚ}

def Enters : Prop :=
  ∃ transition ∈ scene.transitionIn, frame < scene.start + transition.duration

def Leaves : Prop :=
  ∃ transition ∈ scene.transitionOut, scene.stop - transition.duration ≤ frame

/-! ### Progress -/

theorem entryProgress_eq (h : transition ∈ scene.transitionIn) :
    scene.entryProgress frame = .ok (transition.progress (frame - scene.start)) := by
  rw [entryProgress, Option.mem_def.mp h]
  exact transition.progressAt_eq _

/-- An exit begins its duration before the stop, and is done at once if it takes no time. -/
theorem exitProgress_eq (h : transition ∈ scene.transitionOut) : scene.exitProgress frame =
    .ok (if transition.duration ≤ 0 then 0
      else transition.progress (frame - (scene.stop - transition.duration))) := by
  rw [exitProgress, Option.mem_def.mp h]
  dsimp only
  split
  · norm_num
  · exact transition.progressAt_eq _

/-- A scene that has entered has made its whole progress. -/
theorem entryProgress_of_entered (h : transition ∈ scene.transitionIn)
    (hframe : scene.start + transition.duration ≤ frame) : scene.entryProgress frame = .ok 1 := by
  rw [scene.entryProgress_eq frame h, transition.progress_of_duration_le (by omega)]

/-- A scene that does not leave yet has made no progress. -/
theorem exitProgress_of_staying (h : transition ∈ scene.transitionOut)
    (hframe : frame ≤ scene.stop - transition.duration) : scene.exitProgress frame = .ok 0 := by
  rw [scene.exitProgress_eq frame h]
  split
  · rfl
  · next hlong => rw [transition.progress_of_nonpos (not_le.mp hlong) (by omega)]

theorem entering?_eq_none (h : ¬scene.Enters frame) : scene.entering? frame = none := by
  rw [entering?]
  split
  · rfl
  · next transition htransition => exact if_neg fun hlt => h ⟨transition, htransition, hlt⟩

theorem leaving?_eq_none (h : ¬scene.Leaves frame) : scene.leaving? frame = none := by
  rw [leaving?]
  split
  · rfl
  · next transition htransition => exact if_neg fun hle => h ⟨transition, htransition, hle⟩

/-! ### Frames -/

/-- While a scene enters it appears by the progress of its entry. -/
theorem appearanceAt_of_enters (h : scene.Enters frame) : ∃ transition ∈ scene.transitionIn,
    ∃ progress, scene.entryProgress frame = .ok progress ∧
      scene.appearanceAt frame = .ok (transition.appearance progress true) := by
  obtain ⟨transition, htransition, hframe⟩ := h
  have hprogress := scene.entryProgress_eq frame htransition
  refine ⟨transition, htransition, _, hprogress, ?_⟩
  rw [appearanceAt, entering?, Option.mem_def.mp htransition]
  dsimp only
  rw [if_pos hframe, hprogress]
  rfl

/-- While a scene leaves it appears by the progress of its exit, unless it still enters. -/
theorem appearanceAt_of_leaves (henters : ¬scene.Enters frame) (h : scene.Leaves frame) :
    ∃ transition ∈ scene.transitionOut, ∃ progress, scene.exitProgress frame = .ok progress ∧
      scene.appearanceAt frame = .ok (transition.appearance progress false) := by
  obtain ⟨transition, htransition, hframe⟩ := h
  have hprogress := scene.exitProgress_eq frame htransition
  refine ⟨transition, htransition, _, hprogress, ?_⟩
  rw [appearanceAt, scene.entering?_eq_none frame henters, leaving?, Option.mem_def.mp htransition]
  dsimp only
  rw [if_pos hframe, hprogress]
  rfl

/-- A scene that neither enters nor leaves appears as it is. -/
theorem appearanceAt_of_outside (henters : ¬scene.Enters frame) (hleaves : ¬scene.Leaves frame) :
    scene.appearanceAt frame = .ok .plain := by
  rw [appearanceAt, scene.entering?_eq_none frame henters, scene.leaving?_eq_none frame hleaves]

/-- The first frame of the exit is shown by the transition already, which has not begun then. -/
theorem appearanceAt_still (henters : ¬scene.Enters frame)
    (hstays : ∀ transition ∈ scene.transitionOut, frame ≤ scene.stop - transition.duration) :
    ∃ shown, scene.appearanceAt frame = .ok shown ∧ shown.Neutral := by
  by_cases hleaves : scene.Leaves frame
  · obtain ⟨transition, htransition, progress, hprogress, hshown⟩ :=
      scene.appearanceAt_of_leaves frame henters hleaves
    have hzero := scene.exitProgress_of_staying frame htransition (hstays transition htransition)
    cases hprogress.symm.trans hzero
    exact ⟨_, hshown, transition.appearance_neutral rfl⟩
  · exact ⟨_, scene.appearanceAt_of_outside frame henters hleaves, plain_neutral⟩

/-- How a scene is shown in a frame, inside of its windows, where they end and outside of them. -/
structure Joins (scene : PlacedScene ℚ) (frame : ℤ) : Prop where
  entered : ∀ transition ∈ scene.transitionIn, scene.start + transition.duration ≤ frame →
    ∃ progress, scene.entryProgress frame = .ok progress ∧
      (transition.appearance progress true).Neutral
  stays : ∀ transition ∈ scene.transitionOut, frame ≤ scene.stop - transition.duration →
    ∃ progress, scene.exitProgress frame = .ok progress ∧
      (transition.appearance progress false).Neutral
  enters : scene.Enters frame → ∃ transition ∈ scene.transitionIn, ∃ progress,
    scene.entryProgress frame = .ok progress ∧
      scene.appearanceAt frame = .ok (transition.appearance progress true)
  leaves : ¬scene.Enters frame → scene.Leaves frame → ∃ transition ∈ scene.transitionOut,
    ∃ progress, scene.exitProgress frame = .ok progress ∧
      scene.appearanceAt frame = .ok (transition.appearance progress false)
  outside : ¬scene.Enters frame → ¬scene.Leaves frame → scene.appearanceAt frame = .ok .plain
  still : ¬scene.Enters frame →
    (∀ transition ∈ scene.transitionOut, frame ≤ scene.stop - transition.duration) →
    ∃ shown, scene.appearanceAt frame = .ok shown ∧ shown.Neutral

/-- **Transition windows join without a jump and stay in bounds.** Each transition shows the scene as
it is from the end of its window on, or up to the start of it, and that is where the scene begins or
ceases to be shown without it. -/
theorem appearances_join (scene : PlacedScene ℚ) (frame : ℤ) (transition : Transition ℚ)
    (progress : ℚ) (entering : Bool) :
    scene.Joins frame ∧ transition.Bounded (transition.appearance progress entering) := by
  refine ⟨?_, transition.appearance_bounded progress entering⟩
  constructor
  case entered =>
    intro own hown hframe
    exact ⟨1, scene.entryProgress_of_entered frame hown hframe, own.appearance_neutral rfl⟩
  case stays =>
    intro own hown hframe
    exact ⟨0, scene.exitProgress_of_staying frame hown hframe, own.appearance_neutral rfl⟩
  case enters => exact scene.appearanceAt_of_enters frame
  case leaves => exact scene.appearanceAt_of_leaves frame
  case outside => exact scene.appearanceAt_of_outside frame
  case still => exact scene.appearanceAt_still frame

/-- A scene too short for its windows has begun to leave when it has entered, and is not shown as it is
in any frame between. -/
example : ((appearanceAt ⟨0, "short", 0, 10, some ⟨8, .linear, .crossFade⟩,
    some ⟨8, .linear, .crossFade⟩, 0, 0⟩ 8).toOption.map Appearance.opacity : Option ℚ) =
      some (1 / 4) := by
  decide +kernel

end PlacedScene

end Montage
