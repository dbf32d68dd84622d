import Mathlib.Data.List.Induction
import Montage.Proofs.Lists
import Montage.Proofs.Results

/-!
# Where nodes stand

A node stands in a scene, inside the groups around it. The sites of a composition
(`Composition.sites`) are all its nodes with these groups, in the order of the walk, and the window
of a site is opened by the groups one after the other inside the window of the scene. The walk
visits the sites with their windows (`visits_eq_map_sites`), so what the scenes contain can be said
of the sites: each clip on the timeline is placed from one site, in the same order
(`clips_of_sites`).
-/

namespace Montage

/-- A node with the scene it stands in and the groups around it, outermost first. -/
structure Site where
  place : PlacedScene Float
  groups : List Group
  node : Node

namespace PlacedScene

/-- The window that groups open one inside the other, the outermost in the window of a scene. -/
def window (place : PlacedScene Float) (groups : List Group) : TimingContext :=
  groups.foldl TimingContext.child place.context

/-- A window inside of groups is opened by the innermost of them. -/
theorem window_concat (place : PlacedScene Float) (groups : List Group) (group : Group) :
    place.window (groups ++ [group]) = (place.window groups).child group := by
  rw [window, List.foldl_append]
  rfl

end PlacedScene

namespace Site

/-- The window that a node stands in. -/
def window (site : Site) : TimingContext :=
  site.place.window site.groups

def visit (site : Site) : Visit where
  scene := site.place.index
  context := site.window
  node := site.node

end Site

/-! ## The walk -/

namespace Node

def isClip : Node → Bool
  | .clip .. => true
  | _ => false

mutual

/-- The sites of a node inside some groups and of all nodes below it. -/
def sites (place : PlacedScene Float) (around : List Group) : Node → List Site
  | .group own children =>
    ⟨place, around, .group own children⟩ :: sitesOfList place (around ++ [own]) children
  | .clip own afterParentEntry => [⟨place, around, .clip own afterParentEntry⟩]
  | .leaf own => [⟨place, around, .leaf own⟩]
  | .mark own => [⟨place, around, .mark own⟩]

/-- The sites of the nodes of a list and of all nodes below them. -/
def sitesOfList (place : PlacedScene Float) (around : List Group) : List Node → List Site
  | [] => []
  | node :: rest => sites place around node ++ sitesOfList place around rest

end

mutual

/-- The walk over a node comes to its sites, one visit for each. -/
theorem visits_eq_map_sites (place : PlacedScene Float) (around : List Group) : ∀ node : Node,
    visits place.index (place.window around) node = (sites place around node).map Site.visit
  | .group own children => by
    rw [visits, sites, List.map_cons, ← place.window_concat,
      visitsOfList_eq_map_sites place (around ++ [own]) children]
    rfl
  | .clip .. | .leaf _ | .mark _ => rfl

theorem visitsOfList_eq_map_sites (place : PlacedScene Float) (around : List Group) :
    ∀ nodes : List Node, visitsOfList place.index (place.window around) nodes =
      (sitesOfList place around nodes).map Site.visit
  | [] => rfl
  | node :: rest => by
    rw [visitsOfList, sitesOfList, List.map_append, visits_eq_map_sites place around node,
      visitsOfList_eq_map_sites place around rest]

end

mutual

/-- All sites of a node are in the scene that the walk is in. -/
theorem place_of_mem_sites {place : PlacedScene Float} {around : List Group} {site : Site} :
    ∀ {node : Node}, site ∈ sites place around node → site.place = place
  | .group own children, h => by
    rcases List.mem_cons.mp h with rfl | hbelow
    · rfl
    · exact place_of_mem_sitesOfList hbelow
  | .clip .., h | .leaf _, h | .mark _, h => by
    rw [List.mem_singleton.mp h]

theorem place_of_mem_sitesOfList {place : PlacedScene Float} {around : List Group} {site : Site} :
    ∀ {nodes : List Node}, site ∈ sitesOfList place around nodes → site.place = place
  | [], h => nomatch h
  | _ :: _, h => by
    rcases List.mem_append.mp h with hnode | hrest
    · exact place_of_mem_sites hnode
    · exact place_of_mem_sitesOfList hrest

end

end Node

namespace Composition

variable (composition : Composition)

/-- All nodes of a composition with the groups around them, in the order of the walk. -/
def sites : List Site :=
  (composition.scenes.zip composition.assembled).flatMap fun (scene, place) =>
    Node.sitesOfList place [] scene.children

/-- A site stands in one of the scenes on the timeline. -/
theorem place_mem_assembled {site : Site} (h : site ∈ composition.sites) :
    site.place ∈ composition.assembled := by
  obtain ⟨⟨scene, place⟩, hzip, hsite⟩ := List.mem_flatMap.mp h
  rw [Node.place_of_mem_sitesOfList hsite]
  exact (List.of_mem_zip hzip).2

def clipSites : List Site :=
  composition.sites.filter fun site => site.node.isClip

/-- **The walk visits the sites**, each with its window. -/
theorem visits_eq_map_sites : composition.visits = composition.sites.map Site.visit := by
  rw [visits, Scene.visits, sites, List.map_flatMap]
  congr 1
  funext ⟨scene, place⟩
  exact Node.visitsOfList_eq_map_sites place [] scene.children

end Composition

/-! ## What is placed -/

namespace Content

/-- What the content becomes when a visit has been added to it. -/
inductive Gains (content : Content) (visit : Visit) : Content → Prop
  | group (own : Group) (children : List Node) (hnode : visit.node = .group own children) :
      Gains content visit content
  | clip (own : Clip) (afterParentEntry : Bool) (clip : Clip)
      (hnode : visit.node = .clip own afterParentEntry)
      (hplaced : own.placeIn visit.context afterParentEntry content.clips.length = .ok clip) :
      Gains content visit { content with clips := content.clips ++ [clip] }
  | mark (own : Mark) (anchor : Anchor) (hnode : visit.node = .mark own)
      (hplaced : own.placeIn visit.context = .ok anchor) :
      Gains content visit
        { content with anchors := Table.insert own.anchorId anchor content.anchors }
  | leaf (own : Leaf) (found : Option (Registration Float)) (hnode : visit.node = .leaf own)
      (hfound : own.register? visit.scene = .ok found) :
      Gains content visit { content with heroes := content.heroes ++ found.toList }

/-- What a visit adds depends on the kind of its node. -/
theorem gains_of_add {content next : Content} {visit : Visit}
    (h : content.add visit = .ok next) : content.Gains visit next := by
  rw [add_eq] at h
  -- in all cases but the first something is placed, which has to have succeeded
  rcases hnode : visit.node with ⟨own, children⟩ | ⟨own, afterParentEntry⟩ | own | own
  · rw [hnode] at h
    cases h
    exact .group own children hnode
  · rw [hnode] at h
    obtain ⟨clip, hplaced, hnext⟩ := bind_eq_ok_iff.mp h
    cases hnext
    exact .clip own afterParentEntry clip hnode hplaced
  · rw [hnode] at h
    obtain ⟨found, hfound, hnext⟩ := bind_eq_ok_iff.mp h
    cases hnext
    exact .leaf own found hnode hfound
  · rw [hnode] at h
    obtain ⟨anchor, hplaced, hnext⟩ := bind_eq_ok_iff.mp h
    cases hnext
    exact .mark own anchor hnode hplaced

/-- The content of visits up to a last one is the content of the others, with that one added. -/
theorem ofVisits_concat_eq_ok {visits : List Visit} {visit : Visit} {next : Content}
    (h : ofVisits (visits ++ [visit]) = .ok next) :
    ∃ content, ofVisits visits = .ok content ∧ content.Gains visit next := by
  rw [ofVisits_eq, List.foldlM_append, ← ofVisits_eq] at h
  obtain ⟨content, hcontent, hlast⟩ := bind_eq_ok_iff.mp h
  rw [List.foldlM_cons] at hlast
  obtain ⟨other, hadd, hother⟩ := bind_eq_ok_iff.mp hlast
  cases hother
  exact ⟨content, hcontent, gains_of_add hadd⟩

end Content

/-- A visit with an ordinal places a clip. -/
def Visit.Shows (entry : Visit × ℕ) (clip : Clip) : Prop :=
  ∃ own afterParentEntry, entry.1.node = .clip own afterParentEntry ∧
    own.placeIn entry.1.context afterParentEntry entry.2 = .ok clip

/-- The clips of the content are placed by the visits to clips, each by its own. -/
theorem Content.clips_of_visits {visits : List Visit} {content : Content}
    (h : Content.ofVisits visits = .ok content) :
    List.Forall₂ Visit.Shows (visits.filter fun visit => visit.node.isClip).zipIdx
      content.clips := by
  induction visits using List.reverseRecOn generalizing content with
  | nil =>
    cases h
    exact .nil
  | append_singleton visits visit ih =>
    -- the ordinal of a clip is the number of clips before it, which the visits before it determine
    obtain ⟨before, hbefore, hgains⟩ := ofVisits_concat_eq_ok h
    have hclips := ih hbefore
    rw [List.filter_append, List.filter_singleton]
    cases hgains with
    | clip own afterParentEntry clip hnode hplaced =>
      have hlength := hclips.length_eq
      rw [List.length_zipIdx] at hlength
      rw [hnode, Node.isClip, cond_true, List.zipIdx_append, Nat.zero_add, hlength]
      exact List.rel_append hclips (.cons ⟨own, afterParentEntry, hnode, hplaced⟩ .nil)
    | group _ _ hnode | mark _ _ hnode | leaf _ _ hnode =>
      rw [hnode]
      simpa [Node.isClip] using hclips

namespace Composition

variable {composition : Composition}

/-- **Each clip on the timeline is placed from one site of a clip**, in the same order. -/
theorem clips_of_sites {content : Content} (h : composition.content = .ok content) :
    List.Forall₂ (fun site clip => ∃ own afterParentEntry ordinal,
        site.node = .clip own afterParentEntry ∧
          own.placeIn site.window afterParentEntry ordinal = .ok clip)
      composition.clipSites content.clips := by
  have hclips := Content.clips_of_visits h
  rw [visits_eq_map_sites, List.filter_map, List.zipIdx_map, List.forall₂_map_left_iff] at hclips
  rw [← List.zipIdx_map_fst 0 composition.clipSites, List.forall₂_map_left_iff]
  refine hclips.imp ?_
  rintro ⟨site, ordinal⟩ clip ⟨own, afterParentEntry, hnode, hplaced⟩
  exact ⟨own, afterParentEntry, ordinal, hnode, hplaced⟩

/-- The parts of a resolved timeline. -/
theorem resolve_eq_ok {extra : Table Anchor} {strict : Bool} {timeline : Timeline}
    (h : composition.resolve extra strict = .ok timeline) :
    ∃ content tracks, composition.content = .ok content ∧
      Track.resolveAll (composition.anchorTable extra content) strict composition.allTracks =
        .ok tracks ∧
      timeline = {
        fps := composition.fps
        width := composition.width
        height := composition.height
        totalFrames := PlacedScene.lastStop composition.assembled
        scenes := composition.assembled
        tracks := tracks.map (Track.fillDuration (PlacedScene.lastStop composition.assembled))
        clips := content.clips
        anchors := composition.anchorTable extra content } := by
  rw [resolve_eq] at h
  obtain ⟨content, hcontent, h⟩ := bind_eq_ok_iff.mp h
  obtain ⟨tracks, htracks, h⟩ := bind_eq_ok_iff.mp h
  cases h
  exact ⟨content, tracks, hcontent, htracks, rfl⟩

end Composition

end Montage
