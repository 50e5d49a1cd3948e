/-!
# Binary fractions

A finite floating-point number is a sign, a mantissa and a power of two. This module takes a `Float`
apart into these, and finds the float nearest to a quotient of natural numbers. All comparisons of
such numbers are made exactly, with naturals and integers.
-/

namespace Stencil.Decimal

/-- A number `mantissa * 2 ^ exponent`, with a sign. -/
structure Binary where
  /-- Whether the number is below zero, or is the negative zero. -/
  negative : Bool
  /-- The digits. -/
  mantissa : Nat
  /-- The power of two. -/
  exponent : Int
  deriving DecidableEq, Repr, Inhabited

/-- What a float stands for. -/
inductive FloatClass where
  /-- A finite number. -/
  | finite (b : Binary)
  /-- An infinity. -/
  | infinite (negative : Bool)
  /-- Not a number. -/
  | nan
  deriving DecidableEq, Repr, Inhabited

/-- Takes a float apart: one bit of sign, eleven of exponent, fifty-two of mantissa, to which a
normal number adds a leading one. -/
def FloatClass.ofFloat (x : Float) : FloatClass :=
  let bits : Nat := x.toBits.toNat
  let negative := bits / Nat.pow 2 63 = 1
  let exponent : Nat := bits / Nat.pow 2 52 % Nat.pow 2 11
  let fraction : Nat := bits % Nat.pow 2 52
  if exponent = 2047 then (if fraction = 0 then .infinite negative else .nan)
  else if exponent = 0 then .finite ⟨negative, fraction, -1074⟩
  else .finite ⟨negative, Nat.pow 2 52 + fraction, (exponent : Int) - 1075⟩

namespace Binary

/-- The number as a quotient of integers. The second part is positive. -/
def ratio (b : Binary) : Int × Nat :=
  let m : Int := if b.negative then -(b.mantissa : Int) else b.mantissa
  if 0 ≤ b.exponent then (m * Nat.pow 2 b.exponent.toNat, 1)
  else (m, Nat.pow 2 (-b.exponent).toNat)

/-- Whether the number is whole. -/
def isWhole (b : Binary) : Bool := b.ratio.1 % b.ratio.2 = 0

end Binary

/-- A quotient of two natural numbers, rounded to the nearest; at equal distance to the even one. -/
def roundQuotient (num den : Nat) : Nat :=
  let down := num / den
  match compare (2 * (num % den)) den with
  | .lt => down
  | .gt => down + 1
  | .eq => down + down % 2

/-- The float nearest to a quotient of two natural numbers, the second of which is positive. It is a
multiple of the power of two that leaves it fifty-three binary digits, but of none below the
least. -/
def floatOfRatio (num den : Nat) : Float :=
  if num = 0 then 0
  else
    let size : Int := (num.log2 : Int) - den.log2
    let isBelow := num * Nat.pow 2 (-size).toNat < den * Nat.pow 2 size.toNat
    let exponent := max (if isBelow then size - 53 else size - 52) (-1074)
    let mantissa :=
      roundQuotient (num * Nat.pow 2 (-exponent).toNat) (den * Nat.pow 2 exponent.toNat)
    (UInt64.ofNat mantissa).toFloat.scaleB exponent

/-- The float nearest to an integer. -/
def floatOfInt (n : Int) : Float :=
  let x := floatOfRatio n.natAbs 1
  if n < 0 then -x else x

/-- The float nearest to `digits * 10 ^ exponent`. Exponents far out of range give zero or an
infinity at once. -/
def floatOfDecimal (digits : Nat) (exponent : Int) : Float :=
  if digits = 0 then 0
  else
    let size : Int := (digits.log2 : Int) / 4 + exponent
    if 400 < size then 1.0 / 0.0
    else if size + (digits.log2 : Int) / 4 < -800 then 0
    else if 0 ≤ exponent then floatOfRatio (digits * Nat.pow 10 exponent.toNat) 1
    else floatOfRatio digits (Nat.pow 10 (-exponent).toNat)

end Stencil.Decimal
