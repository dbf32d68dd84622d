/-!
# Rounding to whole numbers

Two rules are in use. Frame counts and times go through `roundHalfUp`, where a tie goes towards
positive infinity; the significand of a float and a decimal of limited precision go through
`roundHalfEven`, where a tie goes to the even neighbour.
-/

namespace Montage

/-- The nearest integer, a tie going up. -/
def roundHalfUp (x : Rat) : Int :=
  (x + 1 / 2).floor

/-- The quotient of two naturals rounded to the nearest natural, a tie going to the even one. -/
def roundHalfEven (num den : Nat) : Nat :=
  let quotient := num / den
  let twice := 2 * (num % den)
  if twice < den then quotient
  else if den < twice then quotient + 1
  else quotient + quotient % 2

end Montage
