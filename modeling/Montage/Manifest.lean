import Montage.Encoding
import Montage.Scene

/-!
# Render manifests

A manifest is all that is needed to compile one encoder command: a composition, the file to write,
and possibly encoder settings and anchors found by earlier passes.
-/

namespace Montage

/-- A composition together with how and where it is to be rendered. -/
structure Manifest where
  composition : Composition
  outputPath : String
  encoding : Option Encoding
  anchors : Table Anchor

namespace Manifest

/-- The encoder settings, taken from the composition at medium quality when there are none. -/
def resolvedEncoding (bitrate : String) (manifest : Manifest) : Encoding :=
  let composition := manifest.composition
  manifest.encoding.getD
    (.standard bitrate .medium composition.width composition.height composition.fps)

end Manifest

end Montage
