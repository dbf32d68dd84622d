import Montage.Number.Quantity

/-!
# Frames, seconds and milliseconds

Every time that reaches a filter argument is converted here, on exact rationals, and rounded half
up. The rate of a timeline is positive. A caller may give any integer as a rate; a rate of zero is a
fault of the division it appears in.
-/

namespace Montage

/-- The text of a rational rounded half up to a number of decimal places, without the zeros that
would end its fraction. -/
def decimalText (value : Rat) (places : Nat) : String :=
  (Decimal.ofUnits (roundHalfUp (value * (power 10 places : Nat))) places).text

/-- The text of a time in seconds, rounded half up to the millisecond. -/
def secondsText (seconds : Rat) : String :=
  decimalText seconds 3

namespace Clock

variable (fps : Int)

/-- The time of a frame in seconds, at a positive rate. -/
def time (frames : Int) : Rat :=
  frames / fps

def timeText (frames : Int) : String :=
  secondsText (time fps frames)

/-- The time of a frame in milliseconds, rounded half up, at a positive rate. -/
def delay (frames : Int) : Int :=
  roundHalfUp (time fps (frames * 1000))

/-! ## Conversions at any rate -/

/-- Frames as seconds, the nearest float. -/
def seconds (frames : Int) : Except ArithmeticFault Float :=
  quotient frames fps

def exactSeconds (frames : Int) : Except ArithmeticFault Rat :=
  fraction frames fps

def milliseconds (frames : Int) : Except ArithmeticFault Int := do
  return roundHalfUp (← fraction (frames * 1000) fps)

/-- The frame nearest to an exact time in seconds. -/
def frameAt (seconds : Rat) : Int :=
  roundHalfUp (seconds * fps)

/-- The frame nearest to a time in seconds. -/
def ofSeconds (seconds : Quantity) : Except ArithmeticFault Int := do
  return frameAt fps (← seconds.toRat)

def ofMilliseconds (milliseconds : Quantity) : Except ArithmeticFault Int := do
  return roundHalfUp ((← milliseconds.toRat) * fps / 1000)

/-- The text of a frame count in seconds. -/
def text (frames : Int) : Except ArithmeticFault String := do
  return secondsText (← exactSeconds fps frames)

end Clock

end Montage
