import Mathlib.Data.Int.Notation
import Mathlib.Data.Nat.Notation
import Montage.Proofs.Content.Sites
import Montage.Proofs.Schema.Authored
import Montage.Proofs.Table

/-!
# What is placed on the timeline is sound

The scenes of a valid composition lie on the timeline as they should
(`Composition.Valid.assembled`), and what the walk finds in them is sound
(`Composition.Valid.content`): all clips are valid, named and of some length, all anchors are valid.
None of it is checked when it is placed but the start, which must not be negative; the rest holds
because lengths are cut off at zero and stops at the start.
-/

namespace Montage

open Schema

/-! ## Scenes -/

namespace Scene

/-- A fade is not negative when it has been given or taken from a transition of its scene. -/
theorem fadeLength_nonneg {given : Option ℤ} {transition : Option (Transition Float)}
    (hgiven : ∀ frames ∈ given, 0 ≤ frames) (htransition : ∀ found ∈ transition, found.Valid) :
    0 ≤ fadeLength given transition := by
  rw [fadeLength]
  rcases given with _ | frames
  · rcases transition with _ | found
    · exact Int.le_refl 0
    · exact (htransition found rfl).duration
  · exact hgiven frames rfl

section Assembly

variable {fallback : Option (Transition Float)}

/-- The transition that is used is the scene's own, or the default one, or none. -/
theorem chosen_valid {own : Option (Transition Float)} (hown : ∀ transition ∈ own, transition.Valid)
    (hfallback : ∀ transition ∈ fallback, transition.Valid) (used : Bool) :
    ∀ transition ∈ (if used then own.or fallback else none), transition.Valid := by
  cases used
  · intro transition htransition
    cases htransition
  · cases own with
    | none => exact hfallback
    | some _ => exact hown

/-- A scene that is put on the timeline keeps to its bounds. -/
theorem placeAt_sound {scene : Scene} (h : scene.Valid)
    (hfallback : ∀ transition ∈ fallback, transition.Valid) (index : ℕ) {start : ℤ}
    (hstart : 0 ≤ start) (hasBefore hasAfter : Bool) :
    (scene.placeAt fallback index start hasBefore hasAfter).Sound := by
  have hin := chosen_valid h.transitionIn hfallback hasBefore
  have hout := chosen_valid h.transitionOut hfallback hasAfter
  have hstop : 0 ≤ start + scene.duration := by
    have := h.duration
    omega
  exact ⟨⟨Int.natCast_nonneg index, hstart, hstop, fadeLength_nonneg h.fadeIn hin,
    fadeLength_nonneg h.fadeOut hout⟩, hin, hout⟩

/-- All scenes keep to their bounds when they are put one after the other. -/
theorem assembleFrom_sound {scenes : List Scene} (h : ∀ scene ∈ scenes, scene.Valid)
    (hfallback : ∀ transition ∈ fallback, transition.Valid) (index : ℕ) {start : ℤ}
    (hstart : 0 ≤ start) : ∀ place ∈ assembleFrom fallback index start scenes, place.Sound := by
  induction scenes generalizing index start with
  | nil => simp [assembleFrom]
  | cons scene rest ih =>
    obtain ⟨hscene, hrest⟩ := List.forall_mem_cons.mp h
    have hduration := hscene.duration
    rw [assembleFrom]
    refine List.forall_mem_cons.mpr ⟨placeAt_sound hscene hfallback index hstart _ _, ?_⟩
    exact ih hrest (index + 1) (by omega)

end Assembly

end Scene

namespace Composition.Valid

variable {composition : Composition} (h : composition.Valid)

include h

theorem assembled : ∀ place ∈ composition.assembled, place.Sound :=
  Scene.assembleFrom_sound h.scenes h.defaultTransition 0 (Int.le_refl 0)

/-- The timeline is not of negative length. -/
theorem lastStop_nonneg : 0 ≤ PlacedScene.lastStop composition.assembled := by
  rw [PlacedScene.lastStop]
  cases hlast : composition.assembled.getLast? with
  | none => exact Int.le_refl 0
  | some place => exact (h.assembled place (List.mem_of_getLast? hlast)).stop

end Composition.Valid

/-! ## Content -/

namespace Node

theorem mem_sitesOfList {place : PlacedScene Float} {groups : List Group} {nodes : List Node}
    {site : Site} (h : site ∈ sitesOfList place groups nodes) :
    ∃ node ∈ nodes, site ∈ node.sites place groups := by
  induction nodes with
  | nil => simp [sitesOfList] at h
  | cons node rest ih =>
    rw [sitesOfList, List.mem_append] at h
    rcases h with hnode | hrest
    · exact ⟨node, List.mem_cons_self, hnode⟩
    · obtain ⟨other, hother, hsite⟩ := ih hrest
      exact ⟨other, List.mem_cons_of_mem _ hother, hsite⟩

/-- The nodes of all sites of a valid tree are valid, at any depth. -/
theorem Valid.sites {node : Node} (h : node.Valid) {place : PlacedScene Float} {groups : List Group}
    {site : Site} (hsite : site ∈ node.sites place groups) : site.node.Valid := by
  induction h generalizing groups with
  | @group own children hown hchildren ih =>
    rw [Node.sites, List.mem_cons] at hsite
    rcases hsite with rfl | hbelow
    · exact .group hown hchildren
    · -- a site below the group is a site of one of its children
      obtain ⟨child, hchild, hsite⟩ := mem_sitesOfList hbelow
      exact ih child hchild hsite
  | clip hown | leaf hown | mark hown =>
    obtain rfl := List.mem_singleton.mp hsite
    first
      | exact .clip hown
      | exact .leaf hown
      | exact .mark hown

end Node

theorem Composition.Valid.sites {composition : Composition} (h : composition.Valid) :
    ∀ site ∈ composition.sites, site.node.Valid := by
  intro site hsite
  obtain ⟨⟨scene, place⟩, hzip, hbelow⟩ := List.mem_flatMap.mp hsite
  obtain ⟨node, hnode, hsite⟩ := Node.mem_sitesOfList hbelow
  exact ((h.scenes scene (List.of_mem_zip hzip).1).children node hnode).sites hsite

/-- A text that stands in for an empty one is not empty. -/
theorem Text.isEmpty_orElse (s : String) {other : String} (h : other.isEmpty = false) :
    (orElse s other).isEmpty = false := by
  rw [orElse]
  split
  · exact h
  · exact Bool.eq_false_iff.mpr ‹_›

/-- A valid clip on the timeline has a name and a duration. -/
structure Clip.Placed (clip : Clip) : Prop extends clip.Valid where
  named : ∃ id, clip.id = some id ∧ id.isEmpty = false
  lasts : ∃ frames, clip.duration = some frames ∧ 0 ≤ frames

/-- A valid clip is placed as a valid clip with a name and a duration. -/
theorem Clip.placeIn_placed {context : TimingContext} {afterParentEntry : Bool} {ordinal : ℕ}
    {own clip : Clip} (h : own.Valid)
    (hplaced : own.placeIn context afterParentEntry ordinal = .ok clip) : clip.Placed := by
  rw [placeIn] at hplaced
  split at hplaced
  · cases hplaced
  · rename_i hstart
    cases hplaced
    -- a written duration is not negative when it is read, and one to the end is cut off at zero
    have hframes : 0 ≤ own.duration.getD
        (max (context.stop.getD (context.effectiveStart own.start afterParentEntry) -
          context.effectiveStart own.start afterParentEntry) 0) := by
      cases hduration : own.duration with
      | none => exact Int.le_max_right _ _
      | some frames => exact h.duration frames hduration
    have hname : (Text.orElse (own.id.getD "") s!"embedded_video_{ordinal}").isEmpty = false :=
      Text.isEmpty_orElse _ (by simp)
    refine ⟨{ h with start := Int.not_lt.mp hstart, duration := ?_ }, ⟨_, rfl, hname⟩,
      ⟨_, rfl, hframes⟩⟩
    rintro _ ⟨⟩
    exact hframes

/-- The anchor of a mark is never inverted, whatever window it stands in. -/
theorem Mark.placeIn_valid {context : TimingContext} {mark : Mark} {anchor : Anchor}
    (hplaced : mark.placeIn context = .ok anchor) : anchor.Valid := by
  rw [placeIn] at hplaced
  split at hplaced
  · cases hplaced
  · rename_i hstart
    cases hplaced
    refine ⟨Int.not_lt.mp hstart, ?_⟩
    intro stop hstop
    obtain ⟨limit, -, rfl⟩ := Option.map_eq_some_iff.mp hstop
    exact Int.le_max_left _ _

namespace Content

/-- The clips and anchors that have been placed are sound. -/
structure Sound (content : Content) : Prop where
  clips : ∀ clip ∈ content.clips, clip.Placed
  anchors : ∀ entry ∈ content.anchors, entry.2.Valid

/-- A visit to a valid node keeps the content sound. -/
theorem Gains.sound {content next : Content} {visit : Visit} (h : content.Gains visit next)
    (hnode : visit.node.Valid) (hcontent : content.Sound) : next.Sound := by
  cases h with
  | group | leaf => exact ⟨hcontent.clips, hcontent.anchors⟩
  | clip own afterParentEntry clip hvisit hplaced =>
    refine ⟨fun other hother => ?_, hcontent.anchors⟩
    -- the clip that was added is the only new one
    rcases List.mem_append.mp hother with hother | hother
    · exact hcontent.clips other hother
    · obtain rfl := List.mem_singleton.mp hother
      rw [hvisit] at hnode
      cases hnode with
      | clip hown => exact Clip.placeIn_placed hown hplaced
  | mark own anchor hvisit hplaced =>
    refine ⟨hcontent.clips, fun entry hentry => ?_⟩
    rcases Table.mem_insert hentry with rfl | hentry
    · exact Mark.placeIn_valid hplaced
    · exact hcontent.anchors entry hentry

/-- The content of valid nodes keeps to its bounds, by induction on the visits. -/
theorem ofVisits_sound {visits : List Visit} (hvisits : ∀ visit ∈ visits, visit.node.Valid)
    {content : Content} (h : ofVisits visits = .ok content) : content.Sound := by
  induction visits using List.reverseRecOn generalizing content with
  | nil =>
    cases h
    exact ⟨by simp [empty], by simp [empty]⟩
  | append_singleton visits visit ih =>
    obtain ⟨before, hbefore, hgains⟩ := ofVisits_concat_eq_ok h
    rw [List.forall_mem_append] at hvisits
    exact hgains.sound (hvisits.2 visit List.mem_cons_self) (ih hvisits.1 hbefore)

end Content

theorem Composition.Valid.content {composition : Composition} (h : composition.Valid)
    {content : Content} (hcontent : composition.content = .ok content) : content.Sound := by
  refine Content.ofVisits_sound ?_ hcontent
  rw [composition.visits_eq_map_sites, List.forall_mem_map]
  exact h.sites

end Montage
