import Stencil.Decimal.Remainder
import Stencil.Script.Machine

/-!
# Arithmetic

Numbers are integers of any size and floats; a truth value counts as zero or one. An operation on
two integers gives an integer, but a true division always gives a float. Division and remainder
round down: the remainder has the sign of the divisor.
-/

namespace Stencil.Script

/-- A number. -/
inductive Number where
  /-- An integer. -/
  | int (n : Int)
  /-- A float. -/
  | float (x : Float)

/-- The number that a value is, if it is one. -/
def Value.number? : Value → Option Number
  | int n => some (.int n)
  | bool b => some (.int (if b then 1 else 0))
  | float x => some (.float x)
  | _ => Option.none

/-- The integer that a value is, if it is one. -/
def Value.int? : Value → Option Int
  | int n => some n
  | bool b => some (if b then 1 else 0)
  | _ => Option.none

/-- The integer that a value equals, if it equals one. -/
def Value.wholeNumber? (v : Value) : Option Int :=
  match v.number? with
  | some (.int n) => some n
  | some (.float x) =>
    match Decimal.FloatClass.ofFloat x with
    | .finite b => if b.isWhole then some (b.ratio.1 / b.ratio.2) else Option.none
    | _ => Option.none
  | Option.none => Option.none

namespace Number

variable {W : Type}

/-- A number as a value. -/
def toValue : Number → Value
  | int n => .int n
  | float x => .float x

/-- A number as a float. An integer may be too large for that. -/
def toFloat : Number → Run W Float
  | float x => return x
  | int n =>
    let x := Decimal.floatOfInt n
    if x - x == 0 then return x
    else Run.raise .overflowError "int too large to convert to float"

/-- The quotient of two integers as a float. -/
def trueQuotient (m n : Int) : Run W Value :=
  let x := Decimal.floatOfRatio m.natAbs n.natAbs
  if x - x == 0 then return .float (if (m < 0) != (n < 0) then -x else x)
  else Run.raise .overflowError "integer division result too large for a float"

/-- An operation on two integers. -/
def onInts (op : BinaryOp) (m n : Int) : Run W Value :=
  match op with
  | .add => return .int (m + n)
  | .subtract => return .int (m - n)
  | .multiply => return .int (m * n)
  | .divide =>
    if n = 0 then Run.raise .zeroDivisionError "division by zero" else trueQuotient m n
  | .floorDivide =>
    if n = 0 then Run.raise .zeroDivisionError "integer division or modulo by zero"
    else return .int (m.fdiv n)
  | .modulo =>
    if n = 0 then Run.raise .zeroDivisionError "integer modulo by zero"
    else return .int (m.fmod n)

/-- An operation on two floats. -/
def onFloats (op : BinaryOp) (x y : Float) : Run W Value :=
  match op with
  | .add => return .float (x + y)
  | .subtract => return .float (x - y)
  | .multiply => return .float (x * y)
  | .divide =>
    if y == 0 then Run.raise .zeroDivisionError "float division by zero"
    else return .float (x / y)
  | .floorDivide =>
    if y == 0 then Run.raise .zeroDivisionError "float floor division by zero"
    else return .float (Decimal.floorQuotient x y)
  | .modulo =>
    if y == 0 then Run.raise .zeroDivisionError "float modulo"
    else return .float (Decimal.floorRemainder x y)

/-- An operation on two numbers. -/
def operate (op : BinaryOp) : Number → Number → Run W Value
  | int m, int n => onInts op m n
  | a, b => do onFloats op (← a.toFloat) (← b.toFloat)

/-- How two numbers compare. What is not a number does not compare. -/
def compare? : Number → Number → Option Ordering
  | int m, int n => some (compare m n)
  | float x, int n => Decimal.compareToInt x n
  | int n, float x => (Decimal.compareToInt x n).map Ordering.swap
  | float x, float y =>
    if x < y then some .lt else if x == y then some .eq else if y < x then some .gt else none

end Number

end Stencil.Script
