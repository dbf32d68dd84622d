import Montage.Number.Binary64
import Montage.Number.Decimal

/-!
# The shortest decimal of a float

The reals that round to a float form an interval around it, ends included exactly when the
significand is even. `Shortest.decimal` selects the decimal of fewest digits in that interval, and
among those the one nearest to the float. `decimalOf?` is the selection for any float and
`floatText` its customary notation.
-/

namespace Montage

namespace Shortest

/-- Which of two exact numbers is greater: `a * 10 ^ i` or `n * 2 ^ j`. -/
def compareScaled (a : Nat) (i : Int) (n : Nat) (j : Int) : Ordering :=
  compare (a * power 10 i * power 2 (-j)) (n * power 2 j * power 10 (-i))

/-- The decimal `digits * 10 ^ exponent` lies in the interval of reals that round to `x`. -/
def readsBack (x : Magnitude) (digits : Nat) (exponent : Int) : Bool :=
  -- in quarters of the last bit, half of which lies on either side
  let below := 4 * x.significand - (if x.narrowBelow then 1 else 2)
  let above := 4 * x.significand + 2
  let included := x.significand % 2 = 0
  let low := compareScaled digits exponent below (x.exponent - 2)
  let high := compareScaled digits exponent above (x.exponent - 2)
  (low == .gt || (included && low == .eq)) && (high == .lt || (included && high == .eq))

/-- The least `k` with `x < 10 ^ k`, for a positive `x`: the digit counts of numerator and
denominator leave two candidates. -/
def scale (x : Magnitude) : Int :=
  let num := x.significand * power 2 x.exponent
  let den := power 2 (-x.exponent)
  let estimate := (Decimal.digitCount num : Int) - Decimal.digitCount den
  if compareScaled 1 estimate x.significand x.exponent == .gt then estimate else estimate + 1

/-- The neighbour of `x` on the grid of step `10 ^ exponent` that reads back: the nearer one if both
do, the even one if they are equally near. -/
def onGrid? (x : Magnitude) (exponent : Int) : Option Nat :=
  let below :=
    x.significand * power 2 x.exponent * power 10 (-exponent) /
      (power 2 (-x.exponent) * power 10 exponent)
  let above := below + 1
  match readsBack x below exponent, readsBack x above exponent with
  | false, false => none
  | true, false => some below
  | false, true => some above
  | true, true =>
    match compareScaled (below + above) exponent (2 * x.significand) x.exponent with
    | .gt => some below
    | .lt => some above
    | .eq => some (if below % 2 = 0 then below else above)

/-- The magnitude written out in full. -/
def exact (x : Magnitude) : Nat × Int :=
  -- a negative power of two is a power of five over one of ten
  (x.significand * power 2 x.exponent * power 5 (-x.exponent), min x.exponent 0)

/-- The first grid, from the coarsest on, that has a neighbour reading back. Seventeen digits tell
any two floats apart, so the search does not run out. -/
def search (x : Magnitude) : Nat × Int :=
  let k := scale x
  let found := (List.range 17).findSome? fun (n : Nat) =>
    let exponent := k - (n + 1)
    (onGrid? x exponent).map fun digits => (digits, exponent)
  found.getD (exact x)

/-- The shortest decimal that reads back to a finite magnitude, without zeros at its end. -/
def decimal (x : Magnitude) : Nat × Int :=
  if x.significand = 0 then (0, 0)
  else
    let (digits, exponent) := search x
    let (kept, left) := Decimal.dropZeros digits (Decimal.digitCount digits)
    (kept, exponent + (Decimal.digitCount digits - left : Nat))

end Shortest

/-- The shortest decimal that reads back to a float, or nothing for one that is not finite. -/
def decimalOf? (x : Float) : Option Decimal :=
  if x.isFinite then
    let (digits, exponent) := Shortest.decimal (Binary64.magnitude x)
    some ⟨if Binary64.isNegative x then -digits else digits, exponent⟩
  else none

/-- The notation of a finite magnitude: positional from `1e-4` up to `1e16`, with at least one place
after the point, and otherwise one digit before the point and a signed exponent of at least two
digits. -/
def customary (digits : Nat) (exponent : Int) : List Char :=
  let figures := Decimal.digits digits
  let lead : Int := exponent + figures.length - 1
  if -4 ≤ lead ∧ lead < 16 then
    if 0 ≤ exponent then Decimal.digits (digits * power 10 exponent) ++ ['.', '0']
    else Decimal.pointed digits (-exponent).toNat
  else
    let mantissa := match figures with
      | first :: second :: rest => first :: '.' :: second :: rest
      | short => short
    let power := (Decimal.digits lead.natAbs).leftpad 2 '0'
    mantissa ++ 'e' :: (if lead < 0 then '-' else '+') :: power

/-- The text of a float: its shortest decimal in the customary notation, with the sign of a negative
zero, and `nan`, `inf` or `-inf` for the others. -/
def floatText (x : Float) : String :=
  if x.isNaN then "nan"
  else
    let (digits, exponent) := Shortest.decimal (Binary64.magnitude x)
    let magnitude := if x.isInf then ['i', 'n', 'f'] else customary digits exponent
    String.ofList (if Binary64.isNegative x then '-' :: magnitude else magnitude)

end Montage
