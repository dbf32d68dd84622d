/-!
# Encoder settings

An `Encoding` says what the encoder is told besides the filter graph: the format of the frames that
are piped to it, their size and rate, codecs, and the two dials of compression. A quality level sets
both dials, `Quality.preset` and `Quality.crf`, and either may be set by hand instead.
-/

namespace Montage

/-- How much time the encoder spends, from least to most. -/
inductive Preset where
  | ultrafast
  | superfast
  | veryfast
  | faster
  | fast
  | medium
  | slow
  | slower
  | veryslow
deriving Repr, DecidableEq

namespace Preset

def all : List Preset :=
  [ultrafast, superfast, veryfast, faster, fast, medium, slow, slower, veryslow]

def name : Preset → String
  | ultrafast => "ultrafast"
  | superfast => "superfast"
  | veryfast => "veryfast"
  | faster => "faster"
  | fast => "fast"
  | medium => "medium"
  | slow => "slow"
  | slower => "slower"
  | veryslow => "veryslow"

end Preset

/-- A level of quality. -/
inductive Quality where
  | draft
  | low
  | medium
  | high
  | lossless
deriving Repr, DecidableEq

namespace Quality

def all : List Quality :=
  [draft, low, medium, high, lossless]

def name : Quality → String
  | draft => "draft"
  | low => "low"
  | medium => "medium"
  | high => "high"
  | lossless => "lossless"

def ofName? (text : String) : Option Quality :=
  all.find? fun quality => quality.name = text

def preset : Quality → Preset
  | draft => .ultrafast
  | low => .veryfast
  | medium => .medium
  | high => .slow
  | lossless => .veryslow

def crf : Quality → Int
  | draft => 35
  | low => 30
  | medium => 23
  | high => 18
  | lossless => 0

end Quality

inductive FrameFormat where
  | rawRgba
  | png
deriving Repr, DecidableEq

namespace FrameFormat

def all : List FrameFormat :=
  [rawRgba, png]

def name : FrameFormat → String
  | rawRgba => "raw_rgba"
  | png => "png"

end FrameFormat

/-- All settings of the encoder for one render. -/
structure Encoding where
  quality : Quality
  frameFormat : FrameFormat
  width : Int
  height : Int
  fps : Int
  crfOverride : Option Int
  presetOverride : Option Preset
  videoCodec : String
  pixelFormat : String
  audioCodec : String
  audioBitrate : String
  /-- Clips are composited in the graph; otherwise the frames contain them already. -/
  overlayClips : Bool
  faststart : Bool
deriving Repr, DecidableEq

namespace Encoding

def preset (encoding : Encoding) : Preset :=
  encoding.presetOverride.getD encoding.quality.preset

def crf (encoding : Encoding) : Int :=
  encoding.crfOverride.getD encoding.quality.crf

/-- The settings of a quality level for frames of a given size and rate, with the audio bitrate that
is in force. -/
def standard (bitrate : String) (quality : Quality) (width height fps : Int) : Encoding where
  quality := quality
  frameFormat := .rawRgba
  width := width
  height := height
  fps := fps
  crfOverride := none
  presetOverride := none
  videoCodec := "libx264"
  pixelFormat := "yuv420p"
  audioCodec := "aac"
  audioBitrate := bitrate
  overlayClips := true
  faststart := true

end Encoding

end Montage
