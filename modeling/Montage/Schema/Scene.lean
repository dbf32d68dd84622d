import Montage.Scene
import Montage.Schema.Audio
import Montage.Schema.Transition

/-!
# Stored compositions

The nodes of a scene are told apart by their kind. The children of a group are read with it, at any
depth, by recursion on the data (`Node.ofData`).
-/

namespace Montage

open Schema

namespace Clip

def ofData : Data → Checked Clip :=
  record "EmbeddedVideoSpec" fun fields =>
    Clip.mk
      <$> fieldOption fields "id" text
      <*> field fields "path" nonEmptyText
      <*> fieldOr fields "start_frame" 0 (integerFrom 0)
      <*> fieldOption fields "duration_in_frames" (integerFrom 0)
      <*> fieldOr fields "trim_start_seconds" 0.0 (numberFrom 0)
      <*> fieldOr fields "width" 640 positive
      <*> fieldOr fields "height" 360 positive
      <*> fieldOr fields "position" ⟨0.0, 0.0⟩ Point.ofData
      <*> fieldOr fields "include_audio" true truth
      <*> fieldOr fields "audio_volume" 1.0 (numberWithin 0 1)
      <*> fieldOr fields "audio_fade_in_frames" 0 (integerFrom 0)
      <*> fieldOr fields "audio_fade_out_frames" 0 (integerFrom 0)

def toData (clip : Clip) : Data :=
  .object [
    ("id", .ofOption .text clip.id),
    ("path", .text clip.path),
    ("start_frame", .int clip.start),
    ("duration_in_frames", .ofOption .int clip.duration),
    ("trim_start_seconds", .float clip.trimStart),
    ("width", .int clip.width),
    ("height", .int clip.height),
    ("position", clip.position.toData),
    ("include_audio", .bool clip.includeAudio),
    ("audio_volume", .float clip.volume),
    ("audio_fade_in_frames", .int clip.fadeIn),
    ("audio_fade_out_frames", .int clip.fadeOut)]

end Clip

/-! ## Nodes -/

namespace Leaf

def ofFields (fields : Entries Data) : Checked Leaf :=
  ((fun _ name heroKey bounds rotation scale => ⟨name, heroKey, bounds, rotation, scale⟩)
    <$> fieldKind fields ["leaf"]
    <*> fieldOr fields "name" "" text
    <*> fieldOption fields "hero_key" text
    <*> fieldOption fields "bounds" Rect.ofData
    <*> fieldOr fields "rotation" 0.0 number
    <*> fieldOr fields "scale" 1.0 number).demand
      (fun leaf => leaf.heroKey.isNone || leaf.bounds.isSome) (.broken .heroBounds)

def toData (leaf : Leaf) : Data :=
  .object [
    ("kind", .text "leaf"),
    ("name", .text leaf.name),
    ("hero_key", .ofOption .text leaf.heroKey),
    ("bounds", .ofOption Rect.toData leaf.bounds),
    ("rotation", .float leaf.rotation),
    ("scale", .float leaf.scale)]

end Leaf

namespace Mark

def ofFields (fields : Entries Data) : Checked Mark :=
  (fun _ anchorId start duration afterParentEntry => ⟨anchorId, start, duration, afterParentEntry⟩)
    <$> fieldKind fields ["anchor"]
    <*> field fields "anchor_id" nonEmptyText
    <*> fieldOr fields "start_frame" 0 integer
    <*> fieldOption fields "duration_in_frames" (integerFrom 0)
    <*> fieldOr fields "after_parent_entry" false truth

def toData (mark : Mark) : Data :=
  .object [
    ("kind", .text "anchor"),
    ("anchor_id", .text mark.anchorId),
    ("start_frame", .int mark.start),
    ("duration_in_frames", .ofOption .int mark.duration),
    ("after_parent_entry", .bool mark.afterParentEntry)]

end Mark

namespace Group

def ofFields (fields : Entries Data) : Checked Group :=
  (fun _ name start duration entryDuration exitDuration offset afterParentEntry =>
      ⟨name, start, duration, entryDuration, exitDuration, offset, afterParentEntry⟩)
    <$> fieldKind fields ["container"]
    <*> fieldOr fields "name" "" text
    <*> fieldOr fields "start_frame" 0 integer
    <*> fieldOption fields "duration_in_frames" (integerFrom 0)
    <*> fieldOr fields "entry_duration" 0 (integerFrom 0)
    <*> fieldOr fields "exit_duration" 0 (integerFrom 0)
    <*> fieldOr fields "offset_frames" 0 integer
    <*> fieldOr fields "after_parent_entry" false truth

def toFields (group : Group) : Entries Data := [
  ("kind", .text "container"),
  ("name", .text group.name),
  ("start_frame", .int group.start),
  ("duration_in_frames", .ofOption .int group.duration),
  ("entry_duration", .int group.entryDuration),
  ("exit_duration", .int group.exitDuration),
  ("offset_frames", .int group.offset),
  ("after_parent_entry", .bool group.afterParentEntry)]

end Group

namespace Node

def kinds : List String :=
  ["container", "embedded_video", "leaf", "anchor"]

def clipOfFields (fields : Entries Data) : Checked Node :=
  (fun _ clip afterParentEntry => .clip clip afterParentEntry)
    <$> fieldKind fields ["embedded_video"]
    <*> field fields "video" Clip.ofData
    <*> fieldOr fields "after_parent_entry" false truth

/-- Reads the fields of a group, whose children have been read. -/
def groupOfFields (fields : Entries Data) (children : Checked (List Node)) : Checked Node :=
  Node.group <$> Group.ofFields fields <*> children.under (.field "children")

/-- Reads the fields of a node of a kind, whose children, if it can have any, have been read. -/
def ofFields (kind : String) (fields : Entries Data) (children : Checked (List Node)) :
    Checked Node :=
  if kind = "container" then groupOfFields fields children
  else if kind = "embedded_video" then clipOfFields fields
  else if kind = "leaf" then Node.leaf <$> Leaf.ofFields fields
  else Node.mark <$> Mark.ofFields fields

mutual

def ofData : Data → Checked Node
  | .object fields =>
    (tag kinds fields).andThen fun kind =>
      (ofFields kind fields (childrenAmong fields)).under (.field kind)
  | _ => Checked.refuse .notVariant

/-- Reads the list of nodes that is the value of the field for children, if there is one. -/
def childrenAmong : List (String × Data) → Checked (List Node)
  | [] => pure []
  | (name, value) :: rest => if name = "children" then listOfData value else childrenAmong rest

def listOfData : Data → Checked (List Node)
  | .list entries => listOfItems 0 entries
  | _ => Checked.refuse .notList

/-- Reads the nodes of a list from a position on. -/
def listOfItems : Nat → List Data → Checked (List Node)
  | _, [] => pure []
  | index, item :: rest =>
    List.cons <$> (ofData item).under (.item index) <*> listOfItems (index + 1) rest

end

def clipOfData : Data → Checked Node :=
  record "EmbeddedVideoNode" clipOfFields

def leafOfData : Data → Checked Node :=
  record "LeafNode" fun fields => Node.leaf <$> Leaf.ofFields fields

def markOfData : Data → Checked Node :=
  record "AnchorNode" fun fields => Node.mark <$> Mark.ofFields fields

def groupOfData : Data → Checked Node :=
  record "ContainerNode" fun fields => groupOfFields fields (childrenAmong fields)

mutual

def toData : Node → Data
  | .group own children => .object (own.toFields ++ [("children", .list (listToData children))])
  | .clip own afterParentEntry =>
    .object [
      ("kind", .text "embedded_video"),
      ("video", own.toData),
      ("after_parent_entry", .bool afterParentEntry)]
  | .leaf own => own.toData
  | .mark own => own.toData

def listToData : List Node → List Data
  | [] => []
  | node :: rest => toData node :: listToData rest

end

end Node

/-! ## Scenes and compositions -/

namespace Scene

def ofData : Data → Checked Scene :=
  record "SceneSpec" fun fields =>
    Scene.mk
      <$> fieldOr fields "name" "" text
      <*> field fields "duration_in_frames" positive
      <*> fieldOption fields "transition_in" Transition.ofData
      <*> fieldOption fields "transition_out" Transition.ofData
      <*> fieldOption fields "fade_in_frames" (integerFrom 0)
      <*> fieldOption fields "fade_out_frames" (integerFrom 0)
      <*> fieldOr fields "children" [] Node.listOfData

def toData (scene : Scene) : Data :=
  .object [
    ("name", .text scene.name),
    ("duration_in_frames", .int scene.duration),
    ("transition_in", .ofOption Transition.toData scene.transitionIn),
    ("transition_out", .ofOption Transition.toData scene.transitionOut),
    ("fade_in_frames", .ofOption .int scene.fadeIn),
    ("fade_out_frames", .ofOption .int scene.fadeOut),
    ("children", .list (Node.listToData scene.children))]

end Scene

namespace Composition

def ofData : Data → Checked Composition :=
  record "VideoSpec" fun fields =>
    Composition.mk
      <$> fieldOr fields "fps" 30 positive
      <*> fieldOr fields "width" 1920 positive
      <*> fieldOr fields "height" 1080 positive
      <*> fieldOr fields "scenes" [] (list Scene.ofData)
      <*> fieldOption fields "default_transition" Transition.ofData
      <*> fieldOr fields "audio_tracks" [] (list Track.ofData)
      <*> fieldOption fields "background_music" Music.ofData
      <*> fieldOr fields "anchors" Table.empty (table Anchor.ofData)

def toData (composition : Composition) : Data :=
  .object [
    ("fps", .int composition.fps),
    ("width", .int composition.width),
    ("height", .int composition.height),
    ("scenes", .ofList Scene.toData composition.scenes),
    ("default_transition", .ofOption Transition.toData composition.defaultTransition),
    ("audio_tracks", .ofList Track.toData composition.tracks),
    ("background_music", .ofOption Music.toData composition.music),
    ("anchors", .ofTable Anchor.toData composition.anchors)]

end Composition

end Montage
