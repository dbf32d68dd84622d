import Montage.Assembly
import Montage.Hero
import Montage.Report
import Montage.Timing

/-!
# The content of scenes

One walk over the node trees of all scenes finds the clips, anchors and heroes in them. The walk is
a list of visits (`Scene.visits`), each scene's tree in preorder, and every visit knows the window
that its node stands in. `Content.ofVisits` collects what the visits place, in their order, and
fails at the first visit whose node would start before frame 0.
-/

namespace Montage

/-! ## The walk -/

/-- A node that the walk comes to, with the scene and the window it stands in. -/
structure Visit where
  scene : Int
  context : TimingContext
  node : Node

namespace Node

mutual

/-- The visits to a node and all below it. -/
def visits (scene : Int) (context : TimingContext) : Node → List Visit
  | .group own children =>
    ⟨scene, context, .group own children⟩ :: visitsOfList scene (context.child own) children
  | .clip own afterParentEntry => [⟨scene, context, .clip own afterParentEntry⟩]
  | .leaf own => [⟨scene, context, .leaf own⟩]
  | .mark own => [⟨scene, context, .mark own⟩]

/-- The visits to the nodes of a list and all below them. -/
def visitsOfList (scene : Int) (context : TimingContext) : List Node → List Visit
  | [] => []
  | node :: rest => visits scene context node ++ visitsOfList scene context rest

end

end Node

namespace PlacedScene

/-- The window that a scene opens for its nodes. -/
def context (scene : PlacedScene Float) : TimingContext where
  start := scene.start
  entryDuration := (scene.transitionIn.map Transition.duration).getD 0
  exitDuration := (scene.transitionOut.map Transition.duration).getD 0
  stop := some scene.stop
  inheritedOffset := 0

end PlacedScene

namespace Scene

/-- The visits to all nodes of scenes and their places on the timeline. -/
def visits (scenes : List Scene) (placed : List (PlacedScene Float)) : List Visit :=
  (scenes.zip placed).flatMap fun (scene, place) =>
    Node.visitsOfList place.index place.context scene.children

end Scene

/-! ## Placement -/

namespace Clip

/-- The clip on the timeline. It keeps its own duration or lasts to the end of its window, and it is
named for its ordinal when it has no identifier. -/
def placeIn (context : TimingContext) (afterParentEntry : Bool) (ordinal : Nat) (clip : Clip) :
    Except Failure Clip :=
  let start := context.effectiveStart clip.start afterParentEntry
  if start < 0 then .error (.configuration (.negativeStart (.clip clip.label) start))
  else
    .ok { clip with
      id := some (Text.orElse (clip.id.getD "") s!"embedded_video_{ordinal}")
      start := start
      -- a window that is over before the clip starts leaves it no frames
      duration := some (clip.duration.getD (max (context.stop.getD start - start) 0)) }

end Clip

namespace Mark

/-- The anchor that a mark publishes. It lasts for the mark's own duration or to the end of the
window, and is never inverted. -/
def placeIn (context : TimingContext) (mark : Mark) : Except Failure Anchor :=
  let start := context.effectiveStart mark.start mark.afterParentEntry
  if start < 0 then .error (.configuration (.negativeStart (.anchor mark.anchorId) start))
  else
    let stop := (mark.duration.map (start + ·)).or context.stop
    .ok ⟨start, stop.map (max start)⟩

end Mark

namespace Leaf

/-- The registration of a leaf that has a hero key. An empty key is refused. -/
def register? (scene : Int) (leaf : Leaf) : Except Failure (Option (Registration Float)) :=
  match leaf.heroKey with
  | none => .ok none
  | some key =>
    let named := ((Checked.ok key).demand (!·.isEmpty) .emptyText).under (.field "identity_key")
    let bounded := (leaf.bounds.elim (Checked.refuse (.notRecord "Rect")) pure).under
      (.field "bounds")
    -- both are checked, so that every fault is reported
    let registration : Checked (Registration Float) :=
      (fun key bounds => ⟨key, scene, bounds, leaf.rotation, leaf.scale⟩) <$> named <*> bounded
    some <$> registration.toExcept

end Leaf

/-! ## Collection -/

/-- What the walk finds: clips in order, anchors by name, and the registrations of heroes in order.
-/
structure Content where
  clips : List Clip
  anchors : Table Anchor
  heroes : List (Registration Float)

namespace Content

/-- No content. -/
def empty : Content where
  clips := []
  anchors := .empty
  heroes := []

/-- A note that an anchor takes the place of another one with its name. -/
def redeclaredNotes (content : Content) (name : String) : List Log.Entry :=
  match Table.get? name content.anchors with
  | none => []
  | some _ =>
    [⟨.warning, Log.timeline, s!"Anchor '{name}' declared more than once; keeping the last"⟩]

/-- The report of a visit, with what it places added to the content before it. Of anchors with the
same name the last is kept. -/
def reportAdd (content : Content) (visit : Visit) : Report Content :=
  match visit.node with
  | .group own _ => do
    Report.tell (visit.context.groupNotes own)
    return content
  | .clip own afterParentEntry => do
    let clip ← own.placeIn visit.context afterParentEntry content.clips.length
    return { content with clips := content.clips ++ [clip] }
  | .mark own => do
    let anchor ← own.placeIn visit.context
    Report.tell (content.redeclaredNotes own.anchorId)
    return { content with anchors := Table.insert own.anchorId anchor content.anchors }
  | .leaf own => do
    let registration? ← own.register? visit.scene
    return { content with heroes := content.heroes ++ registration?.toList }

/-- The report of visits one after the other, up to the first that fails. -/
def reportVisits (visits : List Visit) : Report Content :=
  visits.foldlM reportAdd empty

/-- The content with what a visit places. -/
def add (content : Content) (visit : Visit) : Except Failure Content :=
  (content.reportAdd visit).result

/-- The content that visits place one after the other. -/
def ofVisits (visits : List Visit) : Except Failure Content :=
  (reportVisits visits).result

end Content

end Montage
