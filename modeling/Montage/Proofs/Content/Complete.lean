import Mathlib.Data.Int.Notation
import Mathlib.Data.Nat.Notation
import Montage.Proofs.Content.Sites
import Montage.Proofs.Table
import Montage.Proofs.Tiling

/-!
# The walk is complete

The nodes of a composition are those of its scenes, one scene after the other and each tree in
preorder (`Composition.nodes`). The walk passes a window down the trees and collects what it finds
in one place, which also gives the clips their numbers. It comes to exactly these nodes, in their
order (`sites_map_node`), and from what one visit adds (`Content.Collects.gains`) it follows what
all of them have collected: each clip once, each hero once, and of the marks of a name the last
(`Composition.resolve_walks`).
-/

namespace Montage

/-! ## Nodes in order -/

namespace Node

mutual

/-- A node and all nodes below it, each before those below it. -/
def preorder : Node → List Node
  | .group own children => .group own children :: preorderOfList children
  | .clip own afterParentEntry => [.clip own afterParentEntry]
  | .leaf own => [.leaf own]
  | .mark own => [.mark own]

/-- The nodes of a list and all nodes below them, in preorder. -/
def preorderOfList : List Node → List Node
  | [] => []
  | node :: rest => preorder node ++ preorderOfList rest

end

mutual

/-- The sites of a node stand for the node and all below it, in preorder. -/
theorem map_node_sites (place : PlacedScene Float) (around : List Group) : ∀ node : Node,
    (sites place around node).map Site.node = preorder node
  | .group own children => by
    rw [sites, preorder, List.map_cons, map_node_sitesOfList place (around ++ [own]) children]
  | .clip .. | .leaf _ | .mark _ => rfl

theorem map_node_sitesOfList (place : PlacedScene Float) (around : List Group) :
    ∀ nodes : List Node, (sitesOfList place around nodes).map Site.node = preorderOfList nodes
  | [] => rfl
  | node :: rest => by
    rw [sitesOfList, preorderOfList, List.map_append, map_node_sites place around node,
      map_node_sitesOfList place around rest]

end

/-- The clip that a node shows. -/
def clip? : Node → Option Clip
  | .clip own _ => some own
  | .group .. | .leaf _ | .mark _ => none

/-- The leaf of a node, if it has a hero key. -/
def hero? : Node → Option Leaf
  | .leaf own => if own.heroKey.isSome then some own else none
  | .group .. | .clip .. | .mark _ => none

end Node

namespace Composition

variable (composition : Composition)

def nodes : List (ℤ × Node) :=
  composition.scenes.zipIdx.flatMap fun (scene, index) =>
    (Node.preorderOfList scene.children).map fun node => ((index : ℤ), node)

/-- The clips as they are authored. -/
def authoredClips : List Clip :=
  composition.nodes.filterMap fun entry => entry.2.clip?

/-- The leaves that have a hero key, each with the number of its scene. -/
def heroLeaves : List (ℤ × Leaf) :=
  composition.nodes.filterMap fun entry => entry.2.hero?.map fun leaf => (entry.1, leaf)

/-- A scene is placed under its own number. -/
theorem zip_assembled_map_index :
    (composition.scenes.zip composition.assembled).map (fun entry => (entry.1, entry.2.index)) =
      composition.scenes.zipIdx.map fun entry => (entry.1, (entry.2 : ℤ)) := by
  apply List.ext_getElem?
  intro place
  rw [List.getElem?_map, List.getElem?_map, List.getElem?_zipIdx, List.zip, List.getElem?_zipWith,
    composition.getElem?_assembled]
  cases composition.scenes[place]? <;> simp [Scene.placeAt]

/-- **The sites are the nodes**, in their order and each in its own scene. -/
theorem sites_map_node :
    composition.sites.map (fun site => (site.place.index, site.node)) = composition.nodes := by
  -- all sites of a scene are at its place, so the pairs are made scene by scene
  have hscene (scene : Scene) (place : PlacedScene Float) :
      (Node.sitesOfList place [] scene.children).map (fun site => (site.place.index, site.node)) =
        (Node.preorderOfList scene.children).map fun node => (place.index, node) := by
    rw [← Node.map_node_sitesOfList place [], List.map_map]
    exact List.map_congr_left fun site hsite => by rw [Node.place_of_mem_sitesOfList hsite]; rfl
  calc composition.sites.map (fun site => (site.place.index, site.node))
      = (composition.scenes.zip composition.assembled).flatMap fun entry =>
          (Node.preorderOfList entry.1.children).map fun node => (entry.2.index, node) := by
        rw [sites, List.map_flatMap]
        exact List.flatMap_congr fun entry _ => hscene entry.1 entry.2
    _ = ((composition.scenes.zip composition.assembled).map fun entry =>
          (entry.1, entry.2.index)).flatMap fun entry =>
            (Node.preorderOfList entry.1.children).map fun node => (entry.2, node) := by
        rw [List.flatMap_map]
    _ = composition.nodes := by
        rw [zip_assembled_map_index, List.flatMap_map]
        rfl

end Composition

/-! ## What is collected -/

/-- A clip on the timeline is the one that was authored, but for its name, its start and its
duration. A duration and a name that were given are kept, a clip without a name is named for its
ordinal. -/
structure Clip.Kept (own : Clip) (ordinal : ℕ) (clip : Clip) : Prop where
  kept : clip = { own with id := clip.id, start := clip.start, duration := clip.duration }
  duration : ∀ duration ∈ own.duration, clip.duration = some duration
  named : ∀ id ∈ own.id, id ≠ "" → clip.id = some id
  numbered : own.id = none ∨ own.id = some "" → clip.id = some s!"embedded_video_{ordinal}"

/-- A clip on the timeline keeps the duration and the name that its author gave it. -/
theorem Clip.kept_of_placeIn {context : TimingContext} {afterParentEntry : Bool} {ordinal : ℕ}
    {own clip : Clip} (h : own.placeIn context afterParentEntry ordinal = .ok clip) :
    own.Kept ordinal clip := by
  rw [placeIn] at h
  split at h
  · cases h
  · cases h
    refine ⟨rfl, ?_, ?_, ?_⟩
    · intro duration hduration
      rw [Option.mem_def] at hduration
      rw [hduration]
      rfl
    · intro id hid hne
      rw [Option.mem_def] at hid
      rw [hid, Option.getD_some, Text.orElse, if_neg (by simpa using hne)]
    · rintro (hid | hid) <;> rw [hid] <;> rfl

/-- A registration is that of a leaf in a scene. -/
structure Leaf.Registers (leaf : Leaf) (scene : ℤ) (registration : Registration Float) : Prop where
  key : leaf.heroKey = some registration.key
  scene : registration.scene = scene
  bounds : leaf.bounds = some registration.bounds
  rotation : registration.rotation = leaf.rotation
  scale : registration.scale = leaf.scale

/-- A leaf without a hero key is not registered, and one with a key is. -/
theorem Leaf.registers_of_register? {leaf : Leaf} {scene : ℤ} {found : Option (Registration Float)}
    (h : leaf.register? scene = .ok found) :
    leaf.heroKey = none ∧ found = none ∨
      ∃ registration, found = some registration ∧ leaf.Registers scene registration := by
  rw [register?.eq_def] at h
  rcases hkey : leaf.heroKey with _ | key
  · rw [hkey] at h
    cases h
    exact .inl ⟨rfl, rfl⟩
  · -- a valid registration needs bounds and a key that is not empty; other leaves are refused
    rcases hbounds : leaf.bounds with _ | rect <;> rcases hempty : key.isEmpty with _ | _ <;>
      rw [hkey, hbounds] at h <;>
      simp only [Checked.demand, Checked.andThen, hempty, Bool.not_false, Bool.not_true, if_true,
        Bool.false_eq_true, if_false] at h
    case some.false =>
      cases h
      exact .inr ⟨_, rfl, hkey, rfl, hbounds, rfl, rfl⟩
    all_goals cases h

/-! ### One visit -/

namespace Site

variable {site : Site}

/-- The leaf of a site that has a hero key, with the number of its scene. -/
def hero? (site : Site) : Option (ℤ × Leaf) :=
  site.node.hero?.map fun leaf => (site.place.index, leaf)

/-- The node of a site is a mark of a name. -/
def Marks (site : Site) (name : String) : Prop :=
  ∃ own, site.node = .mark own ∧ own.anchorId = name

theorem hero?_eq_none (h : site.node.hero? = none) : site.hero? = none := by
  rw [hero?, h, Option.map_none]

/-- A leaf with a hero key is a hero of the scene that its site is in. -/
theorem hero?_eq_some {own : Leaf} (h : site.node.hero? = some own) :
    site.hero? = some (site.place.index, own) := by
  rw [hero?, h, Option.map_some]

theorem marks_iff {own : Mark} (hnode : site.node = .mark own) (name : String) :
    site.Marks name ↔ own.anchorId = name := by
  simp [Marks, hnode]

theorem not_marks {node : Node} (hnode : site.node = node) (h : ∀ own, node ≠ .mark own)
    (name : String) : ¬site.Marks name := by
  rintro ⟨own, hmark, -⟩
  exact h own (hnode.symm.trans hmark)

end Site

namespace Content.Gains

variable {content next : Content} {site : Site}

/-- A visit adds the clip of its node to the clips, if it has one. -/
theorem clips_eq (h : content.Gains site.visit next) :
    site.node.clip? = none ∧ next.clips = content.clips ∨
      ∃ own clip, site.node.clip? = some own ∧ own.Kept content.clips.length clip ∧
        next.clips = content.clips ++ [clip] := by
  cases h with
  | clip own afterParentEntry clip hnode hplaced =>
    exact .inr ⟨own, clip, congrArg Node.clip? hnode, Clip.kept_of_placeIn hplaced, rfl⟩
  | group _ _ hnode | mark _ _ hnode | leaf _ _ hnode =>
    exact .inl ⟨congrArg Node.clip? hnode, rfl⟩

/-- A visit adds the hero of its node to the heroes, if it has one. -/
theorem heroes_eq (h : content.Gains site.visit next) :
    site.hero? = none ∧ next.heroes = content.heroes ∨
      ∃ entry registration, site.hero? = some entry ∧ entry.2.Registers entry.1 registration ∧
        next.heroes = content.heroes ++ [registration] := by
  cases h with
  | leaf own found hnode hfound =>
    have hhero : site.node.hero? = if own.heroKey.isSome then some own else none :=
      congrArg Node.hero? hnode
    rcases Leaf.registers_of_register? hfound with ⟨hkey, rfl⟩ | ⟨registration, rfl, hregisters⟩
    · rw [hkey] at hhero
      exact .inl ⟨Site.hero?_eq_none hhero, List.append_nil _⟩
    · rw [hregisters.key] at hhero
      exact .inr ⟨_, registration, Site.hero?_eq_some hhero, hregisters, rfl⟩
  | group _ _ hnode | mark _ _ hnode | clip _ _ _ hnode =>
    exact .inl ⟨Site.hero?_eq_none (congrArg Node.hero? hnode), rfl⟩

/-- A visit writes the anchor of its node, if that is a mark. -/
theorem anchors_eq (h : content.Gains site.visit next) :
    (∀ name, ¬site.Marks name) ∧ next.anchors = content.anchors ∨
      ∃ own anchor, site.node = .mark own ∧ own.placeIn site.window = .ok anchor ∧
        next.anchors = Table.insert own.anchorId anchor content.anchors := by
  cases h with
  | mark own anchor hnode hplaced => exact .inr ⟨own, anchor, hnode, hplaced, rfl⟩
  | group _ _ hnode | leaf _ _ hnode | clip _ _ _ hnode =>
    exact .inl ⟨Site.not_marks hnode nofun, rfl⟩

end Content.Gains

/-! ### All visits -/

/-- Of the sites, the last one with a mark of a name publishes an anchor. -/
def LastMark (sites : List Site) (name : String) (anchor : Anchor) : Prop :=
  ∃ before site after own, sites = before ++ site :: after ∧ site.node = .mark own ∧
    own.anchorId = name ∧ own.placeIn site.window = .ok anchor ∧
    ∀ other ∈ after, ¬other.Marks name

section LastMark

variable {sites : List Site} {site : Site} {name : String} {anchor : Anchor}

/-- A site without a mark of that name changes nothing about which mark is the last. -/
theorem lastMark_concat_of_not_marks (h : ¬site.Marks name) :
    LastMark (sites ++ [site]) name anchor ↔ LastMark sites name anchor := by
  constructor
  · rintro ⟨before, found, after, own, hsites, hnode, hname, hplaced, hlast⟩
    rcases concat_eq_append_cons hsites with ⟨rfl, rfl, rfl⟩ | ⟨rest, rfl, rfl⟩
    · exact absurd ⟨own, hnode, hname⟩ h
    · exact ⟨before, found, rest, own, rfl, hnode, hname, hplaced,
        fun other hother => hlast other (List.mem_append_left _ hother)⟩
  · rintro ⟨before, found, after, own, rfl, hnode, hname, hplaced, hlast⟩
    refine ⟨before, found, after ++ [site], own, by simp, hnode, hname, hplaced, ?_⟩
    rw [List.forall_mem_append, List.forall_mem_singleton]
    exact ⟨hlast, h⟩

/-- A mark that comes last is the last mark of its name. -/
theorem lastMark_concat_of_mark {own : Mark} (hnode : site.node = .mark own)
    (hplaced : own.placeIn site.window = .ok anchor) {other : Anchor} :
    LastMark (sites ++ [site]) own.anchorId other ↔ anchor = other := by
  constructor
  · rintro ⟨before, found, after, mark, hsites, hfound, -, hother, hlast⟩
    rcases concat_eq_append_cons hsites with ⟨rfl, rfl, rfl⟩ | ⟨rest, rfl, -⟩
    · obtain rfl := Node.mark.inj (hnode.symm.trans hfound)
      exact Except.ok.inj (hplaced.symm.trans hother)
    · exact absurd ⟨own, hnode, rfl⟩ (hlast site (by simp))
  · rintro rfl
    exact ⟨sites, site, [], own, rfl, hnode, rfl, hplaced, by simp⟩

end LastMark

/-- Content is what some sites hold: a clip for each clip among them and a registration for each
leaf with a hero key, in their order, and the anchor of the last mark of each name. -/
structure Content.Collects (content : Content) (sites : List Site) : Prop where
  clips : List.Forall₂ (fun entry clip => entry.1.Kept entry.2 clip)
    (sites.filterMap fun site => site.node.clip?).zipIdx content.clips
  heroes : List.Forall₂ (fun entry registration => entry.2.Registers entry.1 registration)
    (sites.filterMap Site.hero?) content.heroes
  marked : ∀ name, (∃ anchor, Table.get? name content.anchors = some anchor) ↔
    ∃ site ∈ sites, site.Marks name
  last : ∀ name anchor, Table.get? name content.anchors = some anchor ↔ LastMark sites name anchor

namespace Content

variable {content next : Content} {sites : List Site} {site : Site}

/-- Where nothing has been visited, nothing is collected. -/
theorem collects_nil : empty.Collects [] where
  clips := .nil
  heroes := .nil
  marked := by simp [empty, Table.empty, Table.get?, Entries.get?]
  last := by simp [empty, Table.empty, Table.get?, Entries.get?, LastMark]

/-- **One visit more**, and the content is what one site more holds. -/
theorem Collects.gains (h : content.Collects sites) (hgains : content.Gains site.visit next) :
    next.Collects (sites ++ [site]) where
  clips := by
    rw [List.filterMap_append, List.zipIdx_append]
    rcases hgains.clips_eq with ⟨hnode, hclips⟩ | ⟨own, clip, hnode, hkept, hclips⟩
    · simpa [hnode, hclips] using h.clips
    · -- the clip has the number of clips before it
      have hlength := h.clips.length_eq
      rw [List.length_zipIdx] at hlength
      rw [hclips, hlength]
      refine List.rel_append h.clips ?_
      simpa [hnode] using hkept
  heroes := by
    rw [List.filterMap_append]
    rcases hgains.heroes_eq with
      ⟨hnone, hheroes⟩ | ⟨entry, registration, hentry, hregisters, hheroes⟩
    · simpa [hnone, hheroes] using h.heroes
    · rw [hheroes]
      refine List.rel_append h.heroes ?_
      simpa [hentry] using hregisters
  marked := by
    intro name
    have hsites : (∃ other ∈ sites ++ [site], other.Marks name) ↔
        (∃ other ∈ sites, other.Marks name) ∨ site.Marks name := by
      simp [or_and_right, exists_or]
    rw [hsites, ← h.marked]
    rcases hgains.anchors_eq with ⟨hnone, hanchors⟩ | ⟨own, placed, hnode, -, hanchors⟩
    · simp [hanchors, hnone name]
    · -- a mark fills the entry of its own name, and leaves the others
      simp only [hanchors, Table.get?_insert, Site.marks_iff hnode]
      by_cases hname : own.anchorId = name <;> simp [hname]
  last := by
    intro name anchor
    rcases hgains.anchors_eq with ⟨hnone, hanchors⟩ | ⟨own, placed, hnode, hplaced, hanchors⟩
    · rw [hanchors, lastMark_concat_of_not_marks (hnone name), h.last]
    · rw [hanchors, Table.get?_insert]
      by_cases hname : own.anchorId = name
      · subst hname
        rw [if_pos rfl, lastMark_concat_of_mark hnode hplaced, Option.some.injEq]
      · rw [if_neg hname, h.last,
          lastMark_concat_of_not_marks (mt (Site.marks_iff hnode name).mp hname)]

/-- **What visits have collected** is what their sites hold. -/
theorem collects_of_ofVisits (h : ofVisits (sites.map Site.visit) = .ok content) :
    content.Collects sites := by
  induction sites using List.reverseRecOn generalizing content with
  | nil =>
    cases h
    exact collects_nil
  | append_singleton sites site ih =>
    rw [List.map_append, List.map_singleton] at h
    obtain ⟨before, hbefore, hgains⟩ := ofVisits_concat_eq_ok h
    exact (ih hbefore).gains hgains

end Content

namespace Composition

variable {composition : Composition} {content : Content}

/-- The scenes of a composition have been walked completely: the content is that of its nodes, in
their order. The window of a mark is that of its site. -/
structure Walked (composition : Composition) (content : Content) : Prop where
  order : composition.sites.map (fun site => (site.place.index, site.node)) = composition.nodes
  clips : List.Forall₂ (fun entry clip => entry.1.Kept entry.2 clip)
    composition.authoredClips.zipIdx content.clips
  heroes : List.Forall₂ (fun entry registration => entry.2.Registers entry.1 registration)
    composition.heroLeaves content.heroes
  distinct : content.anchors.entries.names.Nodup
  marked : ∀ name, (∃ anchor, Table.get? name content.anchors = some anchor) ↔
    ∃ site ∈ composition.sites, site.Marks name
  last : ∀ name anchor,
    Table.get? name content.anchors = some anchor ↔ LastMark composition.sites name anchor

/-- The content of a composition comes from one walk over all its nodes. -/
theorem walked_of_content (h : composition.content = .ok content) :
    composition.Walked content := by
  rw [Composition.content_eq, visits_eq_map_sites] at h
  have hcollects := Content.collects_of_ofVisits h
  refine ⟨composition.sites_map_node, ?_, ?_, content.anchors.distinct, hcollects.marked, hcollects.last⟩
  · rw [authoredClips, ← sites_map_node, List.filterMap_map]
    exact hcollects.clips
  · rw [heroLeaves, ← sites_map_node, List.filterMap_map]
    exact hcollects.heroes

/-- **The walk is complete.** When a composition resolves, the content of its scenes is that of all
their nodes in order, and its clips are those of the timeline. -/
theorem resolve_walks {extra : Table Anchor} {strict : Bool} {timeline : Timeline}
    (h : composition.resolve extra strict = .ok timeline) :
    ∃ content, composition.content = .ok content ∧ timeline.clips = content.clips ∧
      composition.Walked content := by
  obtain ⟨content, tracks, hcontent, -, rfl⟩ := resolve_eq_ok h
  exact ⟨content, hcontent, rfl, walked_of_content hcontent⟩

/-- Two scenes with clips at different depths, of which only the second has a name, with a leaf of
the same hero in each scene, and with two marks of one name. -/
def mosaic : Composition where
  fps := 30
  width := 640
  height := 360
  scenes := [
    ⟨"opening", 60, none, none, none, none, [
      .group ⟨"outer", 10, none, 0, 0, 0, false⟩ [
        .group ⟨"inner", 5, none, 0, 0, 0, false⟩ [
          .clip ⟨none, "a.mp4", 0, none, 0.0, 640, 360, ⟨0.0, 0.0⟩, true, 1.0, 0, 0⟩ false,
          .leaf ⟨"title", some "title", some ⟨0.0, 0.0, 10.0, 10.0⟩, 0.0, 1.0⟩],
        .mark ⟨"beat", 0, none, false⟩],
      .clip ⟨some "logo", "b.mp4", 0, some 20, 0.0, 640, 360, ⟨0.0, 0.0⟩, true, 1.0, 0, 0⟩ false]⟩,
    ⟨"closing", 90, none, none, none, none, [
      .leaf ⟨"title", some "title", some ⟨5.0, 0.0, 10.0, 10.0⟩, 0.0, 2.0⟩,
      .mark ⟨"beat", 10, none, false⟩,
      .clip ⟨some "", "c.mp4", 0, none, 0.0, 640, 360, ⟨0.0, 0.0⟩, true, 1.0, 0, 0⟩ false]⟩]
  defaultTransition := none
  tracks := []
  music := none
  anchors := .empty

/-- The third clip is named for the two before it, and the mark of the second scene counts. -/
theorem resolve_walks_mosaic : ∃ timeline content, mosaic.resolve .empty false = .ok timeline ∧
    mosaic.content = .ok content ∧ mosaic.Walked content ∧
      timeline.clips.map Clip.id = [some "embedded_video_0", some "logo", some "embedded_video_2"] ∧
        content.heroes.map (fun registration => (registration.key, registration.scene)) =
          [("title", 0), ("title", 1)] ∧
        Table.get? "beat" content.anchors = some ⟨70, some 150⟩ := by
  obtain ⟨timeline, found, htimeline, hfound, hclips, hheroes, hanchor⟩ :
      ∃ timeline content, mosaic.resolve .empty false = .ok timeline ∧ mosaic.content = .ok content ∧
        timeline.clips.map Clip.id =
          [some "embedded_video_0", some "logo", some "embedded_video_2"] ∧
        content.heroes.map (fun registration => (registration.key, registration.scene)) =
          [("title", 0), ("title", 1)] ∧
        Table.get? "beat" content.anchors = some ⟨70, some 150⟩ :=
    ⟨_, _, rfl, rfl, by decide +kernel, rfl, by decide +kernel⟩
  obtain ⟨content, hcontent, -, hwalked⟩ := resolve_walks htimeline
  obtain rfl : found = content := Except.ok.inj (hfound.symm.trans hcontent)
  exact ⟨timeline, found, htimeline, hfound, hwalked, hclips, hheroes, hanchor⟩

end Composition

end Montage
