import Montage.Number.Power
import Montage.Number.Rounding

/-!
# Decimal numbers and their positional text

A `Decimal` is an integer times a power of ten. `Decimal.ofUnits` limits a number to
`Decimal.precision` significant digits: a number that fits is kept exactly and loses the zeros that
end its fraction, one that does not fit is rounded half to even and keeps every digit.
`Decimal.text` never uses an exponent.
-/

namespace Montage

/-- The number `coefficient * 10 ^ exponent`. -/
structure Decimal where
  coefficient : Int
  exponent : Int
deriving Repr, DecidableEq

namespace Decimal

/-- Significant digits that a limited number keeps. -/
def precision : Nat := 28

def toRat (d : Decimal) : Rat :=
  (d.coefficient * power 10 d.exponent : Int) / (power 10 (-d.exponent) : Nat)

/-- Decimal digits of a natural, most significant first. -/
def digits (n : Nat) : List Char :=
  Nat.toDigits 10 n

/-- How many decimal digits a natural is written with. -/
def digitCount (n : Nat) : Nat :=
  (digits n).length

/-- Drops up to `places` zeros from the end of `n`, counting the places that stay. -/
def dropZeros (n : Nat) : Nat → Nat × Nat
  | 0 => (n, 0)
  | places + 1 => if n % 10 = 0 then dropZeros (n / 10) places else (n, places + 1)

/-- The magnitude `n / 10 ^ places` at limited precision, as a coefficient and an exponent. -/
def limit (n places : Nat) : Nat × Int :=
  let (coefficient, places) := dropZeros n places
  let count := digitCount coefficient
  if count ≤ precision then (coefficient, -places)
  else
    let drop := count - precision
    let rounded := roundHalfEven coefficient (power 10 drop)
    -- a carry into one more digit leaves a power of ten
    if precision < digitCount rounded then (rounded / 10, drop + 1 - places)
    else (rounded, drop - places)

/-- The number `units / 10 ^ places` at limited precision. -/
def ofUnits (units : Int) (places : Nat) : Decimal :=
  let (coefficient, exponent) := limit units.natAbs places
  ⟨if units < 0 then -coefficient else coefficient, exponent⟩

/-- A natural with the last `places` of its digits after the point. -/
def pointed (n places : Nat) : List Char :=
  if places = 0 then digits n
  else
    let padded := (digits n).leftpad (places + 1) '0'
    padded.take (padded.length - places) ++ '.' :: padded.drop (padded.length - places)

/-- The positional text: a minus sign when negative, digits up to the units, and as many places
after the point as the exponent asks for. -/
def text (d : Decimal) : String :=
  let magnitude := pointed (d.coefficient.natAbs * power 10 d.exponent) (-d.exponent).toNat
  String.ofList (if d.coefficient < 0 then '-' :: magnitude else magnitude)

end Decimal

end Montage
