import Montage.Number.Scalar

/-!
# Easing curves

A curve maps the linear progress of a transition to the progress that is shown. Curves are addressed
by name, so that a transition can be stored as plain data. A cubic curve is given by two control
points `(a, b)` and `(c, d)`: its horizontal coordinate is a polynomial in `a` and `c`, its vertical
one the same polynomial in `b` and `d`, and the parameter where the horizontal coordinate passes a
given value is found by halving an interval until it is within `Cubic.tolerance`.
-/

namespace Montage

variable {α : Type} [Scalar α]

namespace Cubic

/-- How near to the wanted value the horizontal coordinate has to come. -/
def tolerance : α := 0.001

/-- One coordinate of a cubic curve from 0 to 1 at the parameter `m`. -/
def coordinate (p q m : α) : α :=
  3.0 * p * (1.0 - m) * (1.0 - m) * m + 3.0 * q * (1.0 - m) * m * m + m * m * m

/-- Two numbers differ by less than the tolerance. -/
def close (x y : α) : Bool :=
  -tolerance < x - y && x - y < tolerance

/-- Halves the interval from `start` to `stop` until `f` is close to `t` at its middle, and gives
the middle, or nothing if that takes more than the given number of turns. The half that is kept is
the one at whose ends `f` lies on either side of `t`. -/
def search (f : α → α) (t : α) : Nat → α → α → Option α
  | 0, _, _ => none
  | turns + 1, start, stop =>
    let middle := (start + stop) / 2.0
    let estimate := f middle
    if close t estimate then some middle
    else if estimate < t then search f t turns middle stop
    else search f t turns start middle

/-- The height of the cubic curve with control points `(a, b)` and `(c, d)` above `t`. A value that
is not inside the unit interval is its own height. -/
def height (a b c d t : α) : α :=
  if t ≤ 0.0 ∨ 1.0 ≤ t then t
  -- a search that runs out of turns leaves the value as it is
  else (search (coordinate a c) t (Scalar.halvings a c) 0.0 1.0).elim t (coordinate b d)

end Cubic

/-- The height of a ball that bounces three times, each time lower, before it comes to rest at 1. -/
def bounce (t : α) : α :=
  if t < 1.0 / 2.75 then 7.5625 * t * t
  else if t < 2.0 / 2.75 then
    let u := t - 1.5 / 2.75
    7.5625 * u * u + 0.75
  else if t < 2.5 / 2.75 then
    let u := t - 2.25 / 2.75
    7.5625 * u * u + 0.9375
  else
    let u := t - 2.625 / 2.75
    7.5625 * u * u + 0.984375

/-- The named curves. -/
inductive Curve where
  | linear
  | easeIn
  | easeOut
  | easeInOut
  | easeInSine
  | easeOutSine
  | easeInOutSine
  | easeInCubic
  | easeOutCubic
  | easeInOutCubic
  | easeOutQuart
  | easeInExpo
  | easeOutExpo
  | easeInOutExpo
  /-- Falls below 0 at first. -/
  | easeInBack
  /-- Rises above 1 at last. -/
  | easeOutBack
  | easeInOutBack
  | bounceOut
deriving Repr, DecidableEq

namespace Curve

def all : List Curve :=
  [linear, easeIn, easeOut, easeInOut, easeInSine, easeOutSine, easeInOutSine, easeInCubic,
    easeOutCubic, easeInOutCubic, easeOutQuart, easeInExpo, easeOutExpo, easeInOutExpo, easeInBack,
    easeOutBack, easeInOutBack, bounceOut]

def name : Curve → String
  | linear => "linear"
  | easeIn => "ease_in"
  | easeOut => "ease_out"
  | easeInOut => "ease_in_out"
  | easeInSine => "ease_in_sine"
  | easeOutSine => "ease_out_sine"
  | easeInOutSine => "ease_in_out_sine"
  | easeInCubic => "ease_in_cubic"
  | easeOutCubic => "ease_out_cubic"
  | easeInOutCubic => "ease_in_out_cubic"
  | easeOutQuart => "ease_out_quart"
  | easeInExpo => "ease_in_expo"
  | easeOutExpo => "ease_out_expo"
  | easeInOutExpo => "ease_in_out_expo"
  | easeInBack => "ease_in_back"
  | easeOutBack => "ease_out_back"
  | easeInOutBack => "ease_in_out_back"
  | bounceOut => "bounce_out"

def ofName? (text : String) : Option Curve :=
  all.find? fun curve => curve.name = text

/-- The control points of a cubic curve, as `(a, b, c, d)`. -/
def controlPoints? : Curve → Option (α × α × α × α)
  | linear => none
  | easeIn => some (0.42, 0.0, 1.0, 1.0)
  | easeOut => some (0.0, 0.0, 0.58, 1.0)
  | easeInOut => some (0.42, 0.0, 0.58, 1.0)
  | easeInSine => some (0.12, 0.0, 0.39, 0.0)
  | easeOutSine => some (0.61, 1.0, 0.88, 1.0)
  | easeInOutSine => some (0.37, 0.0, 0.63, 1.0)
  | easeInCubic => some (0.32, 0.0, 0.67, 0.0)
  | easeOutCubic => some (0.33, 1.0, 0.68, 1.0)
  | easeInOutCubic => some (0.65, 0.0, 0.35, 1.0)
  | easeOutQuart => some (0.25, 1.0, 0.5, 1.0)
  | easeInExpo => some (0.7, 0.0, 0.84, 0.0)
  | easeOutExpo => some (0.16, 1.0, 0.3, 1.0)
  | easeInOutExpo => some (0.87, 0.0, 0.13, 1.0)
  | easeInBack => some (0.36, 0.0, 0.66, -0.56)
  | easeOutBack => some (0.34, 1.56, 0.64, 1.0)
  | easeInOutBack => some (0.68, -0.6, 0.32, 1.6)
  | bounceOut => none

/-- The height of a curve above a value of the unit interval. -/
def height (curve : Curve) (t : α) : α :=
  match (curve.controlPoints? : Option (α × α × α × α)) with
  | some (a, b, c, d) => Cubic.height a b c d t
  | none => if curve = bounceOut then bounce t else t

/-- The eased progress for a linear progress, which is first moved into the unit interval. -/
def ease (curve : Curve) (t : α) : α :=
  curve.height (Scalar.clampUnit t)

end Curve

end Montage
