import Montage.Number.Power
import Montage.Number.Rounding

/-!
# Binary floats as exact numbers

A finite `Float` is a whole multiple of a power of two. This module takes one apart
(`Binary64.magnitude`), and goes the other way: `Binary64.ofRatio?` is the float nearest to a
quotient of integers of any size, with one rounding and a tie to the even neighbour. Everything is
exact arithmetic on `Nat`, so closed instances can be evaluated in a proof.
-/

namespace Montage

/-- A finite non-negative binary float, `significand * 2 ^ exponent`. -/
structure Magnitude where
  significand : Nat
  exponent : Int
  /-- The float below is half as far away as the float above. -/
  narrowBelow : Bool
deriving Repr, DecidableEq

namespace Binary64

/-- Bits of the fraction field. -/
def fractionBits : Nat := 52

/-- The exponent of the least positive float. -/
def leastExponent : Int := -1074

/-- The bit pattern of infinity, one above the greatest finite pattern. -/
def infinityBits : Nat := 2047 * power 2 fractionBits

/-- The sign bit, set also for a negative zero. -/
def isNegative (x : Float) : Bool :=
  power 2 63 ≤ x.toBits.toNat

/-- The float of a sign and the bit pattern of its magnitude. -/
def ofPattern (negative : Bool) (bits : Nat) : Float :=
  Float.ofBits (UInt64.ofNat (if negative then power 2 63 + bits else bits))

/-- The magnitude of a finite float. -/
def magnitude (x : Float) : Magnitude :=
  let bits := x.toBits.toNat
  let field := bits / power 2 fractionBits % 2048
  let fraction := bits % power 2 fractionBits
  -- without a leading bit in the lowest binade, whose exponent is that of the next
  if field = 0 then ⟨fraction, leastExponent, false⟩
  else ⟨power 2 fractionBits + fraction, field - 1075, fraction = 0 && field ≠ 1⟩

/-- The binary exponent at which a positive quotient has a full significand, or the least exponent
when it is smaller than that. -/
def exponentFor (num den : Nat) : Int :=
  let lead := (num.log2 : Int) - den.log2
  -- the lengths in bits leave two candidates
  let reaches := den * power 2 lead ≤ num * power 2 (-lead)
  max (if reaches then lead - 52 else lead - 53) leastExponent

/-- The bit pattern of a positive quotient rounded to nearest. A carry out of the significand moves
into the exponent field by itself. -/
def patternFor (num den : Nat) : Nat :=
  let exponent := exponentFor num den
  let significand := roundHalfEven (num * power 2 (-exponent)) (den * power 2 exponent)
  (exponent - leastExponent).toNat * power 2 fractionBits + significand

/-- The float nearest to `num / den`, or nothing when the quotient is too large for one. The
denominator is taken to be positive. -/
def ofRatio? (num : Int) (den : Nat) : Option Float :=
  if num = 0 then some 0.0
  else
    let bits := patternFor num.natAbs den
    if bits < infinityBits then some (ofPattern (num < 0) bits) else none

/-- The float nearest to `num / den`; a quotient too large for a float goes to infinity. -/
def ofRatio (num : Int) (den : Nat) : Float :=
  (ofRatio? num den).getD (ofPattern (num < 0) infinityBits)

end Binary64

end Montage
