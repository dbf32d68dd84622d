import Montage.Number.Quantity

/-!
# The numbers that geometry is computed with

Curves, rectangles and opacities are computed on floats when a timeline is rendered, and the same
formulas make sense over the rationals, where they can be reasoned about exactly. `Scalar` lists
what the formulas need. Both instances use the ordinary operations of their type; a quotient of
integers is rounded once to the nearest float, and is exact as a rational.
-/

namespace Montage

/-- Numbers with the four operations, an order that can be decided, decimal literals, and quotients
of integers. -/
class Scalar (α : Type) extends Add α, Sub α, Mul α, Div α, Neg α, LT α, LE α, OfScientific α where
  ratio : Int → Int → Except ArithmeticFault α
  /-- Halvings of an interval after which a search for a point where a cubic with the given control
  points passes a value has found it. -/
  halvings : α → α → Nat
  decideLT : DecidableLT α
  decideLE : DecidableLE α

namespace Scalar

instance {α : Type} [Scalar α] : DecidableLT α := Scalar.decideLT

instance {α : Type} [Scalar α] : DecidableLE α := Scalar.decideLE

/-- A float interval cannot be halved more often than a float has bits to tell its ends apart. -/
instance : Scalar Float where
  ratio := quotient
  halvings _ _ := 1200
  decideLT := inferInstance
  decideLE := inferInstance

/-- A cubic with the control points `a` and `c` changes by at most `3 * (|a| + |c| + 1)` per unit,
so it changes by less than a thousandth over an interval `1 / (6000 * (|a| + |c| + 1))` wide. -/
instance : Scalar Rat where
  ratio num den := if den = 0 then .error .divisionByZero else .ok (num / den)
  halvings a c := (6000 * (a.num.natAbs + c.num.natAbs + 1)).log2 + 2
  decideLT := inferInstance
  decideLE := inferInstance

variable {α : Type} [Scalar α]

/-- A number moved into the unit interval. A number that is neither below nor at least one, as an
undefined float, goes to one. -/
def clampUnit (x : α) : α :=
  let low := if x < 1.0 then x else 1.0
  if 0.0 < low then low else 0.0

/-- The point at `t` of the segment from `a` to `b`. -/
def mix (a b t : α) : α :=
  a + (b - a) * t

end Scalar

end Montage
