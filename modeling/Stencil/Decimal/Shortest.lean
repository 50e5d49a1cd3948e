import Stencil.Decimal.Binary

/-!
# The shortest decimal of a float

Of all decimals that read back as a given float, the one with the fewest digits is written; among
those with that many digits, the nearest. A decimal reads back if it lies in the interval of numbers
that round to the float; the ends of the interval belong to it if the mantissa is even.

For each number of digits from one to seventeen the two neighbours of the float on that decimal grid
are tried, in exact arithmetic.
-/

namespace Stencil.Decimal

/-- A positive decimal `digits * 10 ^ exponent`. -/
structure Digits where
  /-- The digits, read as a number. -/
  digits : Nat
  /-- The power of ten. -/
  exponent : Int
  deriving DecidableEq, Repr, Inhabited

/-- A positive fraction, as numerator and denominator. -/
abbrev Fraction := Nat × Nat

/-- Whether one fraction is below another. -/
def Fraction.lt (a b : Fraction) : Bool := a.1 * b.2 < b.1 * a.2

/-- The fraction `m * 2 ^ q`. -/
def Fraction.ofBinary (m : Nat) (q : Int) : Fraction :=
  if 0 ≤ q then (m * Nat.pow 2 q.toNat, 1) else (m, Nat.pow 2 (-q).toNat)

/-- The fraction `d * 10 ^ e`. -/
def Fraction.ofDecimal (d : Nat) (e : Int) : Fraction :=
  if 0 ≤ e then (d * Nat.pow 10 e.toNat, 1) else (d, Nat.pow 10 (-e).toNat)

/-- The numbers that round to a float: the ends, and whether they belong. -/
structure Interval where
  /-- The lower end. -/
  low : Fraction
  /-- The upper end. -/
  high : Fraction
  /-- Whether the ends belong. -/
  closed : Bool

/-- The interval around `m * 2 ^ q`. Below a power of two the floats are twice as dense, except at
the smallest exponent. -/
def Interval.around (m : Nat) (q : Int) : Interval :=
  let narrow := m = Nat.pow 2 52 ∧ -1074 < q
  ⟨if narrow then .ofBinary (4 * m - 1) (q - 2) else .ofBinary (2 * m - 1) (q - 1),
    .ofBinary (2 * m + 1) (q - 1), m % 2 = 0⟩

/-- Whether a fraction lies in an interval. -/
def Interval.contains (i : Interval) (x : Fraction) : Bool :=
  if i.closed then !(x.lt i.low) && !(i.high.lt x) else i.low.lt x && x.lt i.high

/-- The least `j` from the given one on for which `num * 10 ^ j` reaches `den`. -/
def leastPower (num den : Nat) : Nat → Nat → Nat
  | 0, j => j
  | fuel + 1, j => if den ≤ num * Nat.pow 10 j then j else leastPower num den fuel (j + 1)

/-- The power of ten of the first digit of a fraction. -/
def leadingPower (x : Fraction) : Int :=
  if x.2 ≤ x.1 then ((toString (x.1 / x.2)).length : Int) - 1
  else -(leastPower x.1 x.2 400 1 : Int)

/-- The neighbours of a fraction on the grid of multiples of `10 ^ e`, as multiples. -/
def gridFloor (x : Fraction) (e : Int) : Nat :=
  if 0 ≤ e then x.1 / (x.2 * Nat.pow 10 e.toNat) else x.1 * Nat.pow 10 (-e).toNat / x.2

/-- Of two multiples of `10 ^ e` next to a fraction, the nearer; at equal distance the even one. -/
def nearer (x : Fraction) (e : Int) (d : Nat) : Nat :=
  let middle := Fraction.ofDecimal (2 * d + 1) e
  let doubled : Fraction := (2 * x.1, x.2)
  if doubled.lt middle then d
  else if middle.lt doubled then d + 1
  else if d % 2 = 0 then d else d + 1

/-- The decimal with the given number of digits that reads back, if there is one. -/
def withDigits? (x : Fraction) (i : Interval) (count : Nat) : Option Digits :=
  let e := leadingPower x - ((count : Int) - 1)
  let d := gridFloor x e
  let below := i.contains (.ofDecimal d e)
  let above := i.contains (.ofDecimal (d + 1) e)
  if below && above then some ⟨nearer x e d, e⟩
  else if below then some ⟨d, e⟩
  else if above then some ⟨d + 1, e⟩
  else none

/-- Takes zeros off the end of a decimal. -/
def trimZeros : Nat → Digits → Digits
  | 0, d => d
  | fuel + 1, d =>
    if d.digits ≠ 0 ∧ d.digits % 10 = 0 then trimZeros fuel ⟨d.digits / 10, d.exponent + 1⟩ else d

/-- The shortest decimal that reads back as the positive float `m * 2 ^ q`. -/
def shortest (m : Nat) (q : Int) : Digits :=
  let x := Fraction.ofBinary m q
  let i := Interval.around m q
  match ((List.range 17).map (· + 1)).findSome? (withDigits? x i) with
  | some d => trimZeros 20 d
  | none => ⟨gridFloor x (leadingPower x - 16), leadingPower x - 16⟩

end Stencil.Decimal
