/-!
# Powers with a signed exponent

Floats and decimals are integers times a power of 2 or 10 whose exponent may be negative. As an
exact quotient, `n * base ^ e` is `n * power base e` over `power base (-e)`, of which one factor is
always 1.
-/

namespace Montage

/-- The power of a base, and 1 when the exponent is negative. -/
def power (base : Nat) (exponent : Int) : Nat :=
  Nat.pow base exponent.toNat

theorem power_of_nonpos (base : Nat) {exponent : Int} (h : exponent ≤ 0) :
    power base exponent = 1 := by
  have : exponent.toNat = 0 := by omega
  rw [power, this]
  rfl

theorem power_pos {base : Nat} (exponent : Int) (h : 0 < base) : 0 < power base exponent :=
  Nat.pow_pos h

end Montage
