import Mathlib.Algebra.BigOperators.Group.List.Basic
import Mathlib.Algebra.Ring.Int.Defs
import Mathlib.Data.Int.Notation
import Mathlib.Data.Nat.Notation
import Montage.Proofs.Content.Anchors

/-!
# Where nodes start

A node starts where the elements around it put it (`Site.startAt`): at the start of its scene, moved
by the starts of all groups around it and its own, by the entries that it and these groups wait for,
and by the offsets of the groups. Each of them counts once, at every depth.

The walk comes to the same frame in another way. It passes down a window, whose start takes in the
starts and entries but none of the offsets, and an inherited offset beside it, and adds the two up
where a node is placed (`effectiveStart_window`). So every clip and every anchor starts by its path
(`Composition.starts_of_paths`).
-/

namespace Montage

/-! ## Paths -/

namespace PlacedScene

variable (place : PlacedScene Float) (groups : List Group) (afterParentEntry : Bool)

/-- The length of the entry phase of a scene, zero when it has no transition in. -/
def entryLength : ℤ :=
  (place.transitionIn.map Transition.duration).getD 0

/-- The elements on the path from a scene to a node inside some groups, the node being the last. For
each of them it is said whether it starts after the entry of its parent, and how long that entry is.
-/
def path : List (Bool × ℤ) :=
  (groups.map Group.afterParentEntry ++ [afterParentEntry]).zip
    (place.entryLength :: groups.map Group.entryDuration)

/-- How many frames the elements on a path wait for the entries of their parents. -/
def waits : ℤ :=
  ((place.path groups afterParentEntry).map fun (waiting, entry) => if waiting then entry else 0).sum

theorem waits_nil :
    place.waits [] afterParentEntry = if afterParentEntry then place.entryLength else 0 := by
  simp [waits, path]

/-- A node in one group more waits for that group, and the group waits as the node did. -/
theorem waits_concat (group : Group) :
    place.waits (groups ++ [group]) afterParentEntry = place.waits groups group.afterParentEntry +
      if afterParentEntry then group.entryDuration else 0 := by
  have hpath : place.path (groups ++ [group]) afterParentEntry =
      place.path groups group.afterParentEntry ++ [(afterParentEntry, group.entryDuration)] := by
    rw [path, path, List.map_append, List.map_append, ← List.cons_append, List.map_singleton,
      List.map_singleton, List.zip_append (by simp)]
    rfl
  rw [waits, hpath, List.map_append, List.sum_append, List.map_singleton, List.sum_singleton]
  rfl

end PlacedScene

namespace Site

variable (site : Site)

/-- The frame at which something starts that stands at a site, from all that is around it. Its own
start counts from its window on, or from the end of the window's entry. -/
def startAt (start : ℤ) (afterParentEntry : Bool) : ℤ :=
  site.place.start + ((site.groups.map Group.start).sum + start) +
    site.place.waits site.groups afterParentEntry + (site.groups.map Group.offset).sum

/-- What is placed at a site, and the frame at which it starts. Only clips and marks are placed. -/
def placed? : Option (Placed × ℤ) :=
  match site.node with
  | .clip own afterParentEntry => some (.clip own.label, site.startAt own.start afterParentEntry)
  | .mark own => some (.anchor own.anchorId, site.startAt own.start own.afterParentEntry)
  | .group .. | .leaf _ => none

end Site

/-! ## Windows -/

namespace PlacedScene

variable (place : PlacedScene Float) (groups : List Group)

/-- The offsets of all groups are inherited. -/
theorem inheritedOffset_window :
    (place.window groups).inheritedOffset = (groups.map Group.offset).sum := by
  induction groups using List.reverseRecOn with
  | nil => rfl
  | append_singleton groups group ih =>
    rw [window_concat, List.map_append, List.sum_append, List.map_singleton, List.sum_singleton,
      ← ih]
    rfl

/-- **The base of a window**: the starts of the groups that open it, and the entries that they wait
for, but none of their offsets. -/
theorem base_window (afterParentEntry : Bool) : (place.window groups).base afterParentEntry =
    place.start + (groups.map Group.start).sum + place.waits groups afterParentEntry := by
  -- on the innermost group, which starts at the base of the window around it
  induction groups using List.reverseRecOn generalizing afterParentEntry with
  | nil =>
    rw [waits_nil, List.map_nil, List.sum_nil]
    cases afterParentEntry
    · show place.start = place.start + 0 + 0
      omega
    · show place.start + place.entryLength = place.start + 0 + place.entryLength
      omega
  | append_singleton groups group ih =>
    have hstart : (place.window (groups ++ [group])).start =
        (place.window groups).base group.afterParentEntry + group.start := by
      rw [window_concat]
      rfl
    have hentry : (place.window (groups ++ [group])).entryDuration = group.entryDuration := by
      rw [window_concat]
      rfl
    rw [waits_concat, List.map_append, List.sum_append, List.map_singleton, List.sum_singleton,
      TimingContext.base, TimingContext.entryComplete, hstart, hentry, ih]
    split <;> omega

end PlacedScene

/-- The window of a site starts a child at the frame that the path formula gives. -/
theorem Site.effectiveStart_window (site : Site) (start : ℤ) (afterParentEntry : Bool) :
    site.window.effectiveStart start afterParentEntry = site.startAt start afterParentEntry := by
  rw [TimingContext.effectiveStart, window, PlacedScene.base_window,
    PlacedScene.inheritedOffset_window, startAt]
  omega

/-! ## Placement -/

/-- The frame at which something is placed, which must not be before frame 0. -/
def Placed.startingAt (what : Placed) (start : ℤ) : Except Failure ℤ :=
  if start < 0 then .error (.configuration (.negativeStart what start)) else .ok start

/-- What is placed starts where it should, unless that is before frame 0. -/
theorem Placed.startingAt_eq_ok_iff {what : Placed} {start frame : ℤ} :
    what.startingAt start = .ok frame ↔ 0 ≤ start ∧ frame = start := by
  rw [startingAt]
  split <;> simp <;> omega

/-- A clip starts where its site says, or is refused there. -/
theorem Clip.map_start_placeIn (own : Clip) (site : Site) (afterParentEntry : Bool) (ordinal : ℕ) :
    (own.placeIn site.window afterParentEntry ordinal).map Clip.start =
      (Placed.clip own.label).startingAt (site.startAt own.start afterParentEntry) := by
  rw [placeIn, site.effectiveStart_window, Placed.startingAt]
  split <;> rfl

/-- An anchor starts where its site says, or is refused there. -/
theorem Mark.map_start_placeIn (own : Mark) (site : Site) :
    (own.placeIn site.window).map Anchor.start =
      (Placed.anchor own.anchorId).startingAt (site.startAt own.start own.afterParentEntry) := by
  rw [placeIn, site.effectiveStart_window, Placed.startingAt]
  split <;> rfl

namespace Composition

variable {composition : Composition} {content : Content}

/-- Every clip of the content starts by the path to its node. -/
theorem clips_start (h : composition.content = .ok content) :
    List.Forall₂ (fun site clip => ∃ own afterParentEntry, site.node = .clip own afterParentEntry ∧
      clip.start = site.startAt own.start afterParentEntry) composition.clipSites content.clips := by
  refine (clips_of_sites h).imp ?_
  rintro site clip ⟨own, afterParentEntry, ordinal, hnode, hplaced⟩
  have hstart := own.map_start_placeIn site afterParentEntry ordinal
  rw [hplaced] at hstart
  exact ⟨own, afterParentEntry, hnode, (Placed.startingAt_eq_ok_iff.mp hstart.symm).2⟩

/-- Every anchor of the content starts by the path to a mark of its name. -/
theorem anchors_start (h : composition.content = .ok content) {name : String} {anchor : Anchor}
    (hanchor : Table.get? name content.anchors = some anchor) :
    ∃ site ∈ composition.sites, ∃ own, site.node = .mark own ∧ own.anchorId = name ∧
      anchor.start = site.startAt own.start own.afterParentEntry := by
  rw [get?_anchors h] at hanchor
  obtain ⟨site, hsite, hfound⟩ := List.exists_of_findSome?_eq_some hanchor
  refine ⟨site, List.mem_reverse.mp hsite, ?_⟩
  rw [Site.anchor?.eq_def] at hfound
  -- only a mark of that name can have published the anchor
  split at hfound
  · rename_i own hnode
    split at hfound
    · rename_i hname
      have hstart := own.map_start_placeIn site
      cases hplaced : own.placeIn site.window with
      | error failure => rw [hplaced] at hfound; cases hfound
      | ok other =>
        rw [hplaced] at hfound hstart
        cases hfound
        exact ⟨own, hnode, hname, (Placed.startingAt_eq_ok_iff.mp hstart.symm).2⟩
    · cases hfound
  all_goals cases hfound

/-- **Every clip and every anchor starts by the path to its node.** The walk visits the nodes of a
composition in their order, and gives each clip and each mark the frame that its path says, which it
refuses when it is before frame 0. Where it refuses none, each clip of the content starts at the
frame of its own node, and each anchor at that of a mark of its name. -/
theorem starts_of_paths (composition : Composition) :
    composition.visits = composition.sites.map Site.visit ∧
      (∀ site ∈ composition.sites,
        (∀ own afterParentEntry, site.node = .clip own afterParentEntry → ∀ ordinal,
          (own.placeIn site.visit.context afterParentEntry ordinal).map Clip.start =
            (Placed.clip own.label).startingAt (site.startAt own.start afterParentEntry)) ∧
        ∀ own, site.node = .mark own →
          (own.placeIn site.visit.context).map Anchor.start =
            (Placed.anchor own.anchorId).startingAt
              (site.startAt own.start own.afterParentEntry)) ∧
      ∀ content, composition.content = .ok content →
        List.Forall₂ (fun site clip => ∃ own afterParentEntry,
            site.node = .clip own afterParentEntry ∧
              clip.start = site.startAt own.start afterParentEntry)
          composition.clipSites content.clips ∧
        ∀ name anchor, Table.get? name content.anchors = some anchor →
          ∃ site ∈ composition.sites, ∃ own, site.node = .mark own ∧ own.anchorId = name ∧
            anchor.start = site.startAt own.start own.afterParentEntry := by
  refine ⟨composition.visits_eq_map_sites, fun site _ => ⟨?_, ?_⟩, fun content h => ?_⟩
  · intro own afterParentEntry _ ordinal
    exact own.map_start_placeIn site afterParentEntry ordinal
  · intro own _
    exact own.map_start_placeIn site
  · exact ⟨clips_start h, fun name anchor => anchors_start h⟩

/-- A scene of 200 frames after one of 50, entered over 15 frames, with a clip and a mark inside two
groups. -/
def nested : Composition where
  fps := 30
  width := 640
  height := 360
  scenes := [
    ⟨"opening", 50, none, none, none, none, []⟩,
    ⟨"main", 200, none, none, none, none, [
      .group ⟨"outer", 10, none, 8, 0, 5, true⟩ [
        .group ⟨"inner", 20, none, 4, 0, -3, true⟩ [
          .clip ⟨none, "clip.mp4", 2, none, 0.0, 640, 360, ⟨0.0, 0.0⟩, true, 1.0, 0, 0⟩ true,
          .mark ⟨"cue", -30, none, false⟩]]]⟩]
  defaultTransition := some ⟨15, .linear, .crossFade⟩
  tracks := []
  music := none
  anchors := .empty

/-- The clip starts at `50 + (10 + 20 + 2) + (15 + 8 + 4) + (5 - 3)`, the anchor at
`50 + (10 + 20 - 30) + (15 + 8) + (5 - 3)`. -/
theorem starts_of_paths_nested : ∃ content, nested.content = .ok content ∧
    content.clips.map Clip.start = [111] ∧
      (Table.get? "cue" content.anchors).map Anchor.start = some 75 := by
  refine ⟨_, rfl, ?_⟩
  obtain ⟨-, -, hplaced⟩ := starts_of_paths nested
  obtain ⟨hclips, -⟩ := hplaced _ rfl
  obtain ⟨⟨own, afterParentEntry, hnode, hstart⟩, -⟩ := List.forall₂_cons.mp hclips
  cases hnode
  exact ⟨congrArg (fun start => [start]) hstart, rfl⟩

end Composition

end Montage
