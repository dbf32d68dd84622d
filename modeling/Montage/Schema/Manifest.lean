import Montage.Manifest
import Montage.Schema.Scene

/-!
# Stored encoder settings and manifests

The audio bitrate that is in force is the default of its field, so the readers of this module take
it as an argument.
-/

namespace Montage

open Schema

namespace Preset

def ofData (data : Data) : Checked Preset :=
  (text data).andThen fun s =>
    (all.find? fun preset => preset.name = s).elim
      (Checked.refuse (.broken (.knownPreset s (all.map name)))) pure

end Preset

namespace Encoding

def ofData (bitrate : String) : Data → Checked Encoding :=
  record "EncodingSpec" fun fields =>
    Encoding.mk
      <$> fieldOr fields "quality" .medium (choice Quality.all Quality.name)
      <*> fieldOr fields "frame_format" .rawRgba (choice FrameFormat.all FrameFormat.name)
      <*> field fields "width" positive
      <*> field fields "height" positive
      <*> field fields "fps" positive
      <*> fieldOption fields "crf_override" (integerWithin 0 51)
      <*> fieldOption fields "preset_override" Preset.ofData
      <*> fieldOr fields "video_codec" "libx264" text
      <*> fieldOr fields "pixel_format" "yuv420p" text
      <*> fieldOr fields "audio_codec" "aac" text
      <*> fieldOr fields "audio_bitrate" bitrate text
      <*> fieldOr fields "overlay_embedded_videos" true truth
      <*> fieldOr fields "faststart" true truth

def toData (encoding : Encoding) : Data :=
  .object [
    ("quality", .text encoding.quality.name),
    ("frame_format", .text encoding.frameFormat.name),
    ("width", .int encoding.width),
    ("height", .int encoding.height),
    ("fps", .int encoding.fps),
    ("crf_override", .ofOption .int encoding.crfOverride),
    ("preset_override", .ofOption (.text ·.name) encoding.presetOverride),
    ("video_codec", .text encoding.videoCodec),
    ("pixel_format", .text encoding.pixelFormat),
    ("audio_codec", .text encoding.audioCodec),
    ("audio_bitrate", .text encoding.audioBitrate),
    ("overlay_embedded_videos", .bool encoding.overlayClips),
    ("faststart", .bool encoding.faststart)]

/-- The settings for a composition at a quality, with some of the other fields given as data. -/
def customized (bitrate : String) (composition : Composition) (quality : Quality)
    (others : Entries Data) : Except Failure Encoding :=
  (ofData bitrate (.object (Entries.merge others [
    ("quality", .text quality.name),
    ("width", .int composition.width),
    ("height", .int composition.height),
    ("fps", .int composition.fps)]))).toExcept

end Encoding

namespace Manifest

def ofData (bitrate : String) : Data → Checked Manifest :=
  record "RenderManifest" fun fields =>
    Manifest.mk
      <$> field fields "video" Composition.ofData
      <*> field fields "output_path" nonEmptyText
      <*> fieldOption fields "encoding" (Encoding.ofData bitrate)
      <*> fieldOr fields "anchors" Table.empty (table Anchor.ofData)

def toData (manifest : Manifest) : Data :=
  .object [
    ("video", manifest.composition.toData),
    ("output_path", .text manifest.outputPath),
    ("encoding", .ofOption Encoding.toData manifest.encoding),
    ("anchors", .ofTable Anchor.toData manifest.anchors)]

/-- Reads a manifest that has to be one. -/
def load (bitrate : String) (data : Data) : Except Failure Manifest :=
  match ofData bitrate data with
  | .ok manifest => .ok manifest
  | .faulty faults => .error (.configuration (.invalidManifest faults))

end Manifest

end Montage
