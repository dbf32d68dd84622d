import Montage.Schema.Geometry
import Montage.Transition

/-!
# Stored transitions

A stored transition carries its kind, and each kind has its own defaults and fields. A `Form` holds
what belongs to one kind, or to the four kinds of slide together; `Transition.ofData` reads any of
them and tells them apart by the kind.
-/

namespace Montage

open Schema

namespace WipeDirection

def all : List WipeDirection :=
  [leftToRight, rightToLeft, topToBottom, bottomToTop]

def name : WipeDirection → String
  | leftToRight => "left_to_right"
  | rightToLeft => "right_to_left"
  | topToBottom => "top_to_bottom"
  | bottomToTop => "bottom_to_top"

end WipeDirection

namespace SlideDirection

def kind : SlideDirection → String
  | left => "slide_left"
  | right => "slide_right"
  | up => "slide_up"
  | down => "slide_down"

def ofKind (kind : String) : SlideDirection :=
  ([right, up, down].find? fun direction => direction.kind = kind).getD left

end SlideDirection

namespace Curve

def ofData : Data → Checked Curve :=
  choice all name

end Curve

/-! ## Forms -/

/-- A form of stored transition: its name, the kinds that have it, the length and the curve that it
has when none are given, and the reader of the fields of its own. -/
structure Form where
  name : String
  kinds : List String
  duration : Int
  curve : Curve
  effect : Entries Data → Checked (String → Effect Float)

namespace Form

def none : Form where
  name := "NoneTransition"
  kinds := ["none"]
  duration := 0
  curve := .linear
  effect _ := pure fun _ => .none

def crossFade : Form where
  name := "CrossFadeTransition"
  kinds := ["cross_fade"]
  duration := 15
  curve := .easeInOut
  effect _ := pure fun _ => .crossFade

/-- A slide, whose kind says in which direction. -/
def slide : Form where
  name := "SlideTransition"
  kinds := ["slide_left", "slide_right", "slide_up", "slide_down"]
  duration := 20
  curve := .easeInOut
  effect _ := pure fun kind => .slide (.ofKind kind)

def scale : Form where
  name := "ScaleTransition"
  kinds := ["scale"]
  duration := 20
  curve := .easeInOut
  effect _ := pure fun _ => .scale

def wipe : Form where
  name := "WipeTransition"
  kinds := ["wipe"]
  duration := 20
  curve := .easeInOut
  effect fields :=
    (fun direction _ => .wipe direction)
      <$> fieldOr fields "direction" .leftToRight (choice WipeDirection.all WipeDirection.name)

def zoomWarp : Form where
  name := "ZoomWarpTransition"
  kinds := ["zoom_warp"]
  duration := 30
  curve := .easeInOutCubic
  effect fields :=
    (fun maxZoom target _ => .zoomWarp maxZoom target)
      <$> fieldOr fields "max_zoom" 3.0 (numberFrom 1)
      <*> fieldOption fields "target" Alignment.ofData

def colorBleed : Form where
  name := "ColorBleedTransition"
  kinds := ["color_bleed"]
  duration := 25
  curve := .easeInOut
  effect fields :=
    (fun color _ => .colorBleed color) <$> fieldOr fields "color" "#000000" text

def all : List Form :=
  [none, crossFade, slide, scale, wipe, zoomWarp, colorBleed]

def allKinds : List String :=
  all.flatMap kinds

def ofKind (kind : String) : Form :=
  (all.find? fun form => kind ∈ form.kinds).getD none

/-- Reads the fields of a transition of a form. -/
def ofFields (form : Form) (fields : Entries Data) : Checked (Transition Float) :=
  (fun duration curve kind effect => ⟨duration, curve, effect kind⟩)
    <$> fieldOr fields "duration_in_frames" form.duration (integerFrom 0)
    <*> fieldOr fields "curve" form.curve Curve.ofData
    <*> fieldKind fields form.kinds
    <*> form.effect fields

def ofData (form : Form) : Data → Checked (Transition Float) :=
  record form.name form.ofFields

end Form

/-! ## Transitions -/

namespace Effect

def kind : Effect Float → String
  | none => "none"
  | crossFade => "cross_fade"
  | slide direction => direction.kind
  | scale => "scale"
  | wipe _ => "wipe"
  | zoomWarp .. => "zoom_warp"
  | colorBleed _ => "color_bleed"

/-- The fields that an effect has of its own. -/
def ownFields : Effect Float → Entries Data
  | wipe direction => [("direction", .text direction.name)]
  | zoomWarp maxZoom target =>
    [("max_zoom", .float maxZoom), ("target", .ofOption Alignment.toData target)]
  | colorBleed color => [("color", .text color)]
  | _ => []

end Effect

namespace Transition

def ofData : Data → Checked (Transition Float) :=
  variant Form.allKinds fun kind fields => (Form.ofKind kind).ofFields fields

def toData (transition : Transition Float) : Data :=
  .object ([
    ("duration_in_frames", .int transition.duration),
    ("curve", .text transition.curve.name),
    ("kind", .text transition.effect.kind)] ++ transition.effect.ownFields)

end Transition

namespace Appearance

def toData (appearance : Appearance Float) : Data :=
  .object [
    ("translate_x", .float appearance.translateX),
    ("translate_y", .float appearance.translateY),
    ("scale", .float appearance.scale),
    ("opacity", .float appearance.opacity),
    ("clip", .ofOption Rect.toData appearance.clip),
    ("overlay_color", .ofOption .text appearance.overlayColor),
    ("overlay_alpha", .float appearance.overlayAlpha),
    ("alignment", .ofOption Alignment.toData appearance.alignment)]

end Appearance

end Montage
