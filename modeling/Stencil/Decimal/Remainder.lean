import Stencil.Decimal.Binary

/-!
# Exact operations on floats

The remainder of two finite floats is itself a float, so it can be found exactly: both are whole
multiples of one power of two. Floats and integers are compared as the numbers they are, without
rounding either.
-/

namespace Stencil.Decimal

/-- The float that a binary fraction is, if it is one. -/
def Binary.toFloat (b : Binary) : Float :=
  let x :=
    if 0 ≤ b.exponent then floatOfRatio (b.mantissa * Nat.pow 2 b.exponent.toNat) 1
    else floatOfRatio b.mantissa (Nat.pow 2 (-b.exponent).toNat)
  if b.negative then -x else x

/-- The remainder of the division of two finite floats with a quotient rounded towards zero. It has
the sign of the first. -/
def remainderTowardZero (x y : Float) : Float :=
  match FloatClass.ofFloat x, FloatClass.ofFloat y with
  | .finite a, .finite b =>
    let e := min a.exponent b.exponent
    let m := a.mantissa * Nat.pow 2 (a.exponent - e).toNat
    let n := b.mantissa * Nat.pow 2 (b.exponent - e).toNat
    if n = 0 then 0.0 / 0.0 else Binary.toFloat ⟨a.negative, m % n, e⟩
  | .finite _, .infinite _ => x
  | _, _ => 0.0 / 0.0

/-- Whether a float is negative, be it zero or not. -/
def hasSign (x : Float) : Bool := x.toBits.toNat / Nat.pow 2 63 = 1

/-- A zero with the sign of a float. -/
def zeroLike (x : Float) : Float := if hasSign x then -0.0 else 0.0

/-- The remainder of a division with a quotient rounded down. It has the sign of the divisor. -/
def floorRemainder (x y : Float) : Float :=
  let r := remainderTowardZero x y
  if r == 0 then zeroLike y
  else if (y < 0) != (r < 0) then r + y
  else r

/-- The quotient of two floats, rounded down. -/
def floorQuotient (x y : Float) : Float :=
  let r := remainderTowardZero x y
  let q := (x - r) / y
  let q := if !(r == 0) && ((y < 0) != (r < 0)) then q - 1.0 else q
  if q == 0 then zeroLike (x / y)
  else
    let down := q.floor
    if q - down > 0.5 then down + 1.0 else down

/-- How a float compares to an integer. What is not a number does not compare. -/
def compareToInt (x : Float) (n : Int) : Option Ordering :=
  match FloatClass.ofFloat x with
  | .nan => none
  | .infinite negative => some (if negative then .lt else .gt)
  | .finite b => some (compare b.ratio.1 (n * b.ratio.2))

end Stencil.Decimal
