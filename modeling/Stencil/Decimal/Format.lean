import Stencil.Decimal.Shortest

/-!
# How floats are written

The decisions of a number format are fields of a record: between which sizes a number is written
without an exponent, and how wide an exponent is. `standard` is the format of all output.
-/

namespace Stencil.Decimal

/-- The decisions of a number format. -/
structure NumberFormat where
  /-- The least power of ten of a first digit that is written without an exponent. -/
  least : Int
  /-- The greatest such power. -/
  greatest : Int
  /-- The least number of digits of an exponent. -/
  exponentWidth : Nat
  /-- The text of an infinity. -/
  infinity : String
  /-- The text of what is not a number. -/
  notANumber : String
  deriving Repr

/-- Numbers from `0.0001` to below `10 ^ 16` have no exponent; an exponent has two digits at
least. -/
def standard : NumberFormat := ⟨-4, 15, 2, "inf", "nan"⟩

namespace NumberFormat

/-- A text padded with zeros on the left. -/
def padLeft (width : Nat) (s : List Char) : List Char :=
  List.replicate (width - s.length) '0' ++ s

/-- The digits of a positive decimal with a point, or with an exponent. -/
def positive (f : NumberFormat) (d : Digits) : List Char :=
  let digits := (toString d.digits).toList
  let power := d.exponent + ((digits.length : Int) - 1)
  if f.least ≤ power ∧ power ≤ f.greatest then
    if power < 0 then ['0', '.'] ++ List.replicate (-power - 1).toNat '0' ++ digits
    else
      let whole := digits.take (power.toNat + 1)
      let fraction := digits.drop (power.toNat + 1)
      whole ++ List.replicate (power.toNat + 1 - digits.length) '0' ++ ['.']
        ++ (if fraction = [] then ['0'] else fraction)
  else
    digits.take 1 ++ (if digits.length ≤ 1 then [] else '.' :: digits.drop 1)
      ++ ['e', if power < 0 then '-' else '+']
      ++ padLeft f.exponentWidth (toString power.natAbs).toList

/-- A float in the format. -/
def written (f : NumberFormat) (x : Float) : List Char :=
  match FloatClass.ofFloat x with
  | .nan => f.notANumber.toList
  | .infinite negative => (if negative then ['-'] else []) ++ f.infinity.toList
  | .finite b =>
    (if b.negative then ['-'] else [])
      ++ if b.mantissa = 0 then ['0', '.', '0'] else f.positive (shortest b.mantissa b.exponent)

end NumberFormat

/-- A float as all output has it. -/
def floatText (x : Float) : List Char := standard.written x

end Stencil.Decimal
