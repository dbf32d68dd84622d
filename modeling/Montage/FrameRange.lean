import Montage.Clock
import Montage.Failure

/-!
# Ranges of frames

A `FrameRange` is a half-open interval of frames: its start is included and its stop is not. The
stop is never before the start, so a range may be empty and is never inverted. Operations that move
one end fail when they would invert the range.
-/

namespace Montage

/-- The frames from `start` up to, and without, `stop`. -/
structure FrameRange where
  start : Int
  stop : Int
  start_le_stop : start ≤ stop
deriving Repr, DecidableEq

namespace FrameRange

variable (r s : FrameRange)

/-! ## Construction -/

/-- The range with the given bounds, refused when they are out of order. -/
def ofBounds (start stop : Int) : Except Failure FrameRange :=
  if h : start ≤ stop then .ok ⟨start, stop, h⟩
  else .error (.invalid [⟨[], .broken (.rangeOrder start stop)⟩])

/-- The range of a given length. -/
def ofDuration (start duration : Int) : Except Failure FrameRange :=
  if duration < 0 then .error (.configuration (.negativeDuration duration))
  else ofBounds start (start + duration)

/-- The range between two times, each rounded half up to a frame. -/
def ofSeconds (fps : Int) (start stop : Quantity) : Except Failure FrameRange := do
  if fps ≤ 0 then throw (.configuration (.fpsNotPositive fps))
  let first ← Clock.ofSeconds fps start
  let last ← Clock.ofSeconds fps stop
  if last < first then throw (.configuration (.endBeforeStart start stop))
  ofBounds first last

/-- The range from a time on for a length of time. -/
def ofSecondsDuration (fps : Int) (start duration : Quantity) : Except Failure FrameRange := do
  ofSeconds fps start (← start.add duration)

/-! ## Reading -/

/-- The number of frames. -/
def duration : Int :=
  r.stop - r.start

/-- The range holds no frame. -/
def isEmpty : Bool :=
  r.stop = r.start

/-- The length in seconds. -/
def durationInSeconds (fps : Int) : Except ArithmeticFault Float :=
  Clock.seconds fps r.duration

/-- The frame lies in the range. -/
def contains (frame : Int) : Bool :=
  r.start ≤ frame && frame < r.stop

/-- Both bounds of `s` lie between the bounds of `r`. -/
def containsRange : Bool :=
  r.start ≤ s.start && s.stop ≤ r.stop

/-- The later start is before the earlier stop. -/
def overlaps : Bool :=
  max r.start s.start < min r.stop s.stop

/-- How far a frame is into the range, between 0 and 1. -/
def progress (frame : Int) : Except ArithmeticFault Float :=
  if frame ≤ r.start then .ok 0.0
  else if r.stop ≤ frame then .ok 1.0
  else quotient (frame - r.start) r.duration

/-- How far a frame is into the range, also beyond its ends. -/
def unclampedProgress (frame : Int) : Except ArithmeticFault Float :=
  if r.duration = 0 then .ok 0.0 else quotient (frame - r.start) r.duration

/-- Frames evenly spaced from start to stop, both included, each rounded half up. -/
def keyframes (count : Int) : Except Failure (List Int) :=
  if count < 2 then .error (.configuration (.tooFewKeyframes count))
  else
    .ok ((List.range count.toNat).map fun (i : Nat) =>
      r.start + roundHalfUp ((i * r.duration : Int) / ((count - 1 : Int) : Rat)))

/-- The frame of the timeline for a frame counted from the start. -/
def toGlobal (frame : Int) : Int :=
  r.start + frame

/-- The frame counted from the start for a frame of the timeline. -/
def toLocal (frame : Int) : Int :=
  frame - r.start

/-! ## Two ranges -/

/-- The frames that lie in both ranges, or nothing when they share none. -/
def intersection : Option FrameRange :=
  if h : max r.start s.start < min r.stop s.stop then
    some ⟨max r.start s.start, min r.stop s.stop, Int.le_of_lt h⟩
  else none

/-- The least range that covers both, with any gap between them. -/
def union : FrameRange where
  start := min r.start s.start
  stop := max r.stop s.stop
  start_le_stop := by have := r.start_le_stop; omega

/-! ## Moving the bounds -/

/-- Both bounds moved by the same number of frames. -/
def offset (frames : Int) : FrameRange where
  start := r.start + frames
  stop := r.stop + frames
  start_le_stop := by have := r.start_le_stop; omega

/-- The start moved. -/
def shiftStart (frames : Int) : Except Failure FrameRange :=
  ofBounds (r.start + frames) r.stop

/-- The stop moved. -/
def shiftStop (frames : Int) : Except Failure FrameRange :=
  ofBounds r.start (r.stop + frames)

/-- Both bounds moved outwards. -/
def expand (frames : Int) : Except Failure FrameRange :=
  ofBounds (r.start - frames) (r.stop + frames)

/-- Both bounds moved inwards. -/
def contract (frames : Int) : Except Failure FrameRange :=
  ofBounds (r.start + frames) (r.stop - frames)

/-- The frames before a frame of the range, and those from it on. -/
def splitAt (frame : Int) : Except Failure (FrameRange × FrameRange) :=
  if h : r.start ≤ frame ∧ frame < r.stop then
    .ok (⟨r.start, frame, h.1⟩, ⟨frame, r.stop, Int.le_of_lt h.2⟩)
  else .error (.configuration (.frameOutside frame r.start r.stop))

end FrameRange

end Montage
