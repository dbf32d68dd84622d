import Montage.Proofs.Content.Sites
import Montage.Proofs.Table

/-!
# Which anchor a name stands for

Several marks of a composition may publish an anchor under one name, and tables of anchors that are
written over those of the scenes may have the name as well. In the walk the last mark counts
(`Composition.get?_anchors`), and in a merged table the one that was written over the other
(`Table.get?_merge`). So a name stands for the anchor of the caller, or else of the composition, or
else of the last mark (`Composition.get?_anchorTable`).
-/

namespace Montage

/-! ## Marks -/

/-- The anchor that the mark of a site publishes under a name. -/
def Site.anchor? (name : String) (site : Site) : Option Anchor :=
  match site.node with
  | .mark own => if own.anchorId = name then (own.placeIn site.window).toOption else none
  | .group .. | .clip .. | .leaf _ => none

/-- A visit to a site writes the anchor of that site, and no other. -/
theorem Content.Gains.get?_anchors {content next : Content} {site : Site}
    (h : content.Gains site.visit next) (name : String) :
    Table.get? name next.anchors = (site.anchor? name).or (Table.get? name content.anchors) := by
  -- only a mark publishes an anchor; it is read before what the table had for its name
  cases h with
  | group own children hnode =>
    rw [Site.anchor?, show site.node = .group own children from hnode]
    rfl
  | clip own afterParentEntry clip hnode =>
    rw [Site.anchor?, show site.node = .clip own afterParentEntry from hnode]
    rfl
  | leaf own found hnode =>
    rw [Site.anchor?, show site.node = .leaf own from hnode]
    rfl
  | mark own anchor hnode hplaced =>
    have hplaced : own.placeIn site.window = .ok anchor := hplaced
    rw [Site.anchor?, show site.node = .mark own from hnode, Table.get?_insert]
    dsimp only
    split
    · rw [hplaced]
      rfl
    · rfl

namespace Composition

/-- The anchor of the last mark of a name, in the order of the walk. -/
def markedAnchor? (composition : Composition) (name : String) : Option Anchor :=
  composition.sites.reverse.findSome? (Site.anchor? name)

/-- The anchor that a name stands for when a caller has given others: that of the caller, else one
of the composition's own, else that of the last mark. -/
def anchor? (extra : Table Anchor) (composition : Composition) (name : String) : Option Anchor :=
  (Table.get? name extra).or
    ((Table.get? name composition.anchors).or (composition.markedAnchor? name))

variable {composition : Composition} {content : Content}

/-- **In the content of the scenes** a name stands for its last mark. -/
theorem get?_anchors (h : composition.content = .ok content) (name : String) :
    Table.get? name content.anchors = composition.markedAnchor? name := by
  rw [Composition.content_eq, visits_eq_map_sites] at h
  rw [markedAnchor?]
  generalize composition.sites = sites at h ⊢
  induction sites using List.reverseRecOn generalizing content with
  | nil =>
    cases h
    rfl
  | append_singleton sites site ih =>
    -- the last site is the first to be asked, and what it does not publish is left to the others
    rw [List.map_append, List.map_singleton] at h
    obtain ⟨before, hbefore, hgains⟩ := Content.ofVisits_concat_eq_ok h
    rw [hgains.get?_anchors, ih hbefore, List.reverse_concat, List.findSome?_cons]
    cases site.anchor? name <;> rfl

/-- **Among all anchors of a composition** a name stands for the one that was written last: by the
caller, by the composition, or in the scenes. -/
theorem get?_anchorTable (h : composition.content = .ok content) {extra : Table Anchor}
    (name : String) :
    Table.get? name (composition.anchorTable extra content) = composition.anchor? extra name := by
  rw [anchorTable, Table.get?_merge, Table.get?_merge, get?_anchors h, anchor?]

end Composition

end Montage
