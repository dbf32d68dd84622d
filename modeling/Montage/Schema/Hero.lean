import Montage.Hero
import Montage.Schema.Geometry

/-!
# Stored hero registrations
-/

namespace Montage

open Schema

namespace Registration

def ofData : Data → Checked (Registration Float) :=
  record "HeroRegistration" fun fields =>
    Registration.mk
      <$> field fields "identity_key" nonEmptyText
      <*> field fields "scene_index" (integerFrom 0)
      <*> field fields "bounds" Rect.ofData
      <*> fieldOr fields "rotation" 0.0 number
      <*> fieldOr fields "scale" 1.0 number

def toData (registration : Registration Float) : Data :=
  .object [
    ("identity_key", .text registration.key),
    ("scene_index", .int registration.scene),
    ("bounds", registration.bounds.toData),
    ("rotation", .float registration.rotation),
    ("scale", .float registration.scale)]

end Registration

namespace HeroFrame

def toData (frame : HeroFrame Float) : Data :=
  .object [
    ("identity_key", .text frame.key),
    ("from_scene", .int frame.fromScene),
    ("to_scene", .int frame.toScene),
    ("progress", .float frame.progress),
    ("bounds", frame.bounds.toData),
    ("rotation", .float frame.rotation),
    ("scale", .float frame.scale)]

end HeroFrame

end Montage
