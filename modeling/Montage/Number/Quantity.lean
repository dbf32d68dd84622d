import Montage.Number.Shortest

/-!
# Times and counts as they are given

A caller gives a time as an integer, a float or an exact fraction. `Quantity.toRat` reads it as a
rational; a float stands for its shortest decimal, so that `0.1` is a tenth and not the binary value
next to it.
-/

namespace Montage

/-- What can go wrong in arithmetic on numbers of any size. -/
inductive ArithmeticFault where
  | divisionByZero
  | zeroDenominator (numerator : Int)
  | quotientTooLarge
  | integerTooLarge
  | notRational (text : String)
deriving Repr, DecidableEq

namespace ArithmeticFault

def message : ArithmeticFault → String
  | divisionByZero => "division by zero"
  | zeroDenominator numerator => s!"Fraction({numerator}, 0)"
  | quotientTooLarge => "integer division result too large for a float"
  | integerTooLarge => "int too large to convert to float"
  | notRational text => s!"Invalid literal for Fraction: '{text}'"

end ArithmeticFault

/-- The exact quotient of two integers, refused when the denominator is zero. -/
def fraction (num den : Int) : Except ArithmeticFault Rat :=
  if den = 0 then .error (.zeroDenominator num) else .ok (num / den)

/-- The quotient of two integers as the nearest float. It is negative when just one of them is, also
where it is zero. -/
def quotient (num den : Int) : Except ArithmeticFault Float :=
  if den = 0 then .error .divisionByZero
  else
    match Binary64.ofRatio? num.natAbs den.natAbs with
    | some x => .ok (if (num < 0) ^^ (den < 0) then -x else x)
    | none => .error .quotientTooLarge

/-- The rational that a float stands for: the value of its shortest decimal. -/
def rationalOf (x : Float) : Except ArithmeticFault Rat :=
  match decimalOf? x with
  | some decimal => .ok decimal.toRat
  | none => .error (.notRational (floatText x))

/-- A number as a caller gives it. -/
inductive Quantity where
  | whole (n : Int)
  | float (x : Float)
  | fraction (q : Rat)

namespace Quantity

def toRat : Quantity → Except ArithmeticFault Rat
  | whole n => .ok n
  | float x => rationalOf x
  | fraction q => .ok q

def toFloat : Quantity → Except ArithmeticFault Float
  | whole n => (Binary64.ofRatio? n 1).elim (.error .integerTooLarge) .ok
  | float x => .ok x
  | fraction q => (Binary64.ofRatio? q.num q.den).elim (.error .quotientTooLarge) .ok

/-- The float nearest to a quantity, infinite for one beyond all floats. -/
def nearest : Quantity → Float
  | whole n => Binary64.ofRatio n 1
  | float x => x
  | fraction q => Binary64.ofRatio q.num q.den

/-- The sum of two quantities: exact as long as neither is a float, and otherwise one float
addition. -/
def add : Quantity → Quantity → Except ArithmeticFault Quantity
  | whole m, whole n => .ok (whole (m + n))
  | whole m, fraction q => .ok (fraction (m + q))
  | fraction p, whole n => .ok (fraction (p + n))
  | fraction p, fraction q => .ok (fraction (p + q))
  | p, q => do
    let x ← p.toFloat
    let y ← q.toFloat
    return float (x + y)

/-- The text of a quantity; a fraction with denominator one is written as an integer. -/
def text : Quantity → String
  | whole n => toString n
  | float x => floatText x
  | fraction q => if q.den = 1 then toString q.num else s!"{q.num}/{q.den}"

end Quantity

end Montage
