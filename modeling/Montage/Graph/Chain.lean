import Montage.Graph.Source

/-!
# Filter chains

The chain of filters that each contribution passes through: the picture of a clip is cut, moved to
its time and scaled (`ClipSource.pictureFilters`), then laid over the frames
(`ClipSource.overlayFilter`); sound is cut, looped, faded, set to its volume and delayed. Times are
in seconds, delays in milliseconds, both rounded half up.
-/

namespace Montage

namespace Filter

/-- Moves the timestamps of a sound so that it starts at zero. -/
def resetTimestamps : Filter :=
  plain "asetpts" ["PTS-STARTPTS"]

/-- How many samples a looped sound may have. -/
def loopSize : Nat := 2147483647

/-- Repeats a sound without end. -/
def loop : Filter :=
  keyed "aloop" [("loop", "-1"), ("size", toString loopSize)]

/-- Mixes sounds, for as long as the longest. -/
def mix (count : Nat) : Filter :=
  keyed "amix" [("inputs", toString count), ("duration", "longest")]

def volume (value : Float) : Except Failure Filter := do
  return plain "volume" [decimalText (← rationalOf value) 4]

variable (fps : Int)

/-- Delays both channels of a sound to a frame. -/
def delay (start : Int) : Filter :=
  let milliseconds := Clock.delay fps start
  plain "adelay" [s!"{milliseconds}|{milliseconds}"]

/-- Cuts a sound at two frames of its own, or at one. -/
def cutFrames (start : Int) (stop : Option Int) : Filter :=
  keyed "atrim" (("start", Clock.timeText fps start) ::
    (stop.map fun frame => ("end", Clock.timeText fps frame)).toList)

/-- Fades a sound of some length in at its start and out at its end. -/
def fades (fadeIn fadeOut length : Int) : List Filter :=
  (if 0 < fadeIn then
    [keyed "afade" [("t", "in"), ("st", "0"), ("d", Clock.timeText fps fadeIn)]]
  else []) ++
  (if 0 < fadeOut then
    [keyed "afade" [("t", "out"), ("st", Clock.timeText fps (max (length - fadeOut) 0)),
      ("d", Clock.timeText fps fadeOut)]]
  else [])

end Filter

namespace ClipSource

variable (fps : Int) (source : ClipSource)

/-- The part of a clip's file that is used, in seconds. -/
def trim : Except Failure (Rat × Rat) := do
  let start ← rationalOf source.clip.trimStart
  return (start, start + Clock.time fps source.duration)

def trimFilter (name : String) (start stop : Rat) : Filter :=
  .keyed name [("start", secondsText start), ("end", secondsText stop)]

/-- The picture of a clip: its part of the file, at its time, in its size. -/
def pictureFilters : Except Failure (List Filter) := do
  let (start, stop) ← source.trim fps
  return [
    trimFilter "trim" start stop,
    .plain "setpts" [s!"PTS-STARTPTS+{Clock.timeText fps source.clip.start}/TB"],
    .plain "scale" [toString source.clip.width, toString source.clip.height]]

/-- The last instant of a clip, half a frame before the frame after it. -/
def lastInstant : Rat :=
  Clock.time (2 * fps) (2 * (source.clip.start + source.duration) - 1)

/-- Lays the picture of a clip over the frames from its first frame to its last. Both bounds of the
interval are included, so it ends half a frame early. -/
def overlayFilter : Except Failure Filter := do
  let first := Clock.timeText fps source.clip.start
  let last := secondsText (source.lastInstant fps)
  let x ← rationalOf source.clip.position.x
  let y ← rationalOf source.clip.position.y
  return ⟨"overlay", [
    ⟨none, decimalText x 3⟩,
    ⟨none, decimalText y 3⟩,
    ⟨some "enable", s!"'between(t,{first},{last})'"⟩]⟩

def soundFilters : Except Failure (List Filter) := do
  let clip := source.clip
  let (start, stop) ← source.trim fps
  let volume ← Filter.volume clip.volume
  return trimFilter "atrim" start stop :: (if 0 < start then [Filter.resetTimestamps] else []) ++
    Filter.fades fps clip.fadeIn clip.fadeOut source.duration ++
    -- the delay comes last, as the fades count from the start of the sound
    [volume, Filter.delay fps clip.start]

end ClipSource

namespace TrackSource

variable (fps : Int) (source : TrackSource)

/-- How many frames of a track are heard: all of its duration when it loops, and otherwise no more
than its source has. -/
def length : Int :=
  let track := source.track
  if track.loop then source.duration
  else
    match track.trimEnd with
    | none => source.duration
    | some stop => min (track.trimStart + source.duration) stop - track.trimStart

/-- The filters that cut a track to its length. -/
def cutFilters : List Filter :=
  let track := source.track
  if track.loop then
    -- the part that is repeated is cut out first, and then what is heard of its repetition
    (if 0 < track.trimStart || track.trimEnd.isSome then
      [Filter.cutFrames fps track.trimStart track.trimEnd, Filter.resetTimestamps]
    else []) ++
    [Filter.loop, Filter.cutFrames fps 0 (some source.duration)]
  else
    Filter.cutFrames fps track.trimStart (some (track.trimStart + source.length)) ::
      (if 0 < track.trimStart then [Filter.resetTimestamps] else [])

def soundFilters : Except Failure (List Filter) := do
  let track := source.track
  let volume ← Filter.volume track.volume
  return source.cutFilters fps ++ Filter.fades fps track.fadeIn track.fadeOut source.length ++
    [volume, Filter.delay fps track.start]

end TrackSource

end Montage
