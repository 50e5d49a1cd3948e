import Stencil.Data.Basic
import Stencil.Decimal.Format
import Stencil.Text.LetterCase
import Stencil.Text.Numeral
import Stencil.Yaml.Node

/-!
# What scalars mean

A scalar has a text, and what it is says what the text means. A text may have no such meaning: then
the document has no data. The digits of numbers may be those of any script.

- `scalarData`: what a text means that is said to be of some kind.
-/

namespace Stencil.Yaml

open Text Calendar

/-! ## Numbers -/

/-- The number that digits to some base make. -/
def natOf? (base : Nat) (s : List Char) : Option Nat :=
  if s = [] then none
  else s.foldlM (fun n c =>
    match hexValue? c with
    | some d => if d < base then some (n * base + d) else none
    | none => none) 0

/-- A text without its sign, and whether it had a minus. -/
def splitSign : List Char → Bool × List Char
  | '-' :: s => (true, s)
  | '+' :: s => (false, s)
  | s => (false, s)

/-- A number with a sign. -/
def signed (negative : Bool) (n : Nat) : Int := if negative then -n else n

/-- What may stand in front of digits to some base. -/
def basePrefixes : Nat → List (List Char)
  | 2 => [['0', 'b'], ['0', 'B']]
  | 8 => [['0', 'o'], ['0', 'O']]
  | 16 => [['0', 'x'], ['0', 'X']]
  | _ => []

/-- Digits without what stands in front of them. -/
def dropBasePrefix (base : Nat) (s : List Char) : List Char :=
  if (basePrefixes base).contains (s.take 2) then s.drop 2 else s

/-- The integer that a text is to some base. -/
def intOf (base : Nat) (text : List Char) : Loaded Int :=
  let (negative, rest) := splitSign (plainNumeral text)
  let digits := dropBasePrefix base rest
  let count := (digits.takeWhile Char.isDigit).length
  if base = 10 ∧ digitLimit < count then .error (.longInt count)
  else
    match natOf? base digits with
    | some n => .ok (signed negative n)
    | none => .error (.noInt base text)

/-- The parts of a text between colons. -/
def splitColons : List Char → List (List Char)
  | [] => [[]]
  | ':' :: s => [] :: splitColons s
  | c :: s =>
    match splitColons s with
    | [] => [[c]]
    | part :: parts => (c :: part) :: parts

/-- A text without underscores. -/
def dropUnderscores (s : List Char) : List Char := s.filter (· ≠ '_')

/-- The integer that a text is. What starts with a zero is to the base of two, eight or sixteen. -/
def intData (text : List Char) : Loaded Int := do
  let plain := dropUnderscores text
  let (negative, s) := splitSign plain
  let sign : Int := if negative then -1 else 1
  match s with
  | [] => .error .noDigits
  | ['0'] => return 0
  | '0' :: 'b' :: digits => return sign * (← intOf 2 digits)
  | '0' :: 'x' :: digits => return sign * (← intOf 16 digits)
  | '0' :: _ => return sign * (← intOf 8 s)
  | _ =>
    if s.contains ':' then
      let parts ← (splitColons s).mapM (intOf 10)
      return sign * parts.foldl (fun n part => n * 60 + part) 0
    else return sign * (← intOf 10 s)

/-- A decimal: its digits, and the power of ten by which their number is multiplied. -/
def decimalOf? (s : List Char) : Option (Nat × Int) := do
  let whole := s.takeWhile Char.isDigit
  let s := s.drop whole.length
  let fraction := if s.head? = some '.' then (s.drop 1).takeWhile Char.isDigit else []
  let s := if s.head? = some '.' then s.drop (fraction.length + 1) else s
  let n ← natOf? 10 (whole ++ fraction)
  let power ← match s with
    | [] => some 0
    | 'e' :: s =>
      let (negative, digits) := splitSign s
      (natOf? 10 digits).map (signed negative)
    | _ => none
  return (n, power - fraction.length)

/-- The float that a text in small letters is. -/
def floatOf (text : List Char) : Loaded Float :=
  let (negative, s) := splitSign (plainNumeral text)
  let withSign := fun (x : Float) => if negative then -x else x
  let word := String.ofList s
  if word = "inf" || word = "infinity" then .ok (withSign (1.0 / 0.0))
  else if word = "nan" then .ok (0.0 / 0.0)
  else
    match decimalOf? s with
    | some (n, power) => .ok (withSign (Decimal.floatOfDecimal n power))
    | none => .error (.noFloat text)

/-- How much a part of a number counts, as a float. -/
def weightOf (n : Nat) : Loaded Float :=
  let x := Decimal.floatOfInt n
  if x == 1.0 / 0.0 then .error .greatFloat else .ok x

/-- The sum of floats each of which counts sixty times as much as the one before. -/
def sumSixties : Float → Nat → List Float → Loaded Float
  | sum, _, [] => .ok sum
  | sum, weight, x :: rest => do sumSixties (sum + x * (← weightOf weight)) (weight * 60) rest

/-- The word for what is not a number. -/
def nanWord : List Char := ".nan".toList

/-- The letters of a float: small ones, without underscores. -/
def floatLetters (text : List Char) : List Char := lowerText (dropUnderscores text)

/-- Whether a float is the one that is not a number and has a word of its own. -/
def isNanWord (text : List Char) : Bool := (splitSign (floatLetters text)).2 = nanWord

/-- The float that a text is. -/
def floatData (text : List Char) : Loaded Float := do
  let plain := floatLetters text
  let (negative, s) := splitSign plain
  let withSign := fun (x : Float) => if negative then -x else x
  if plain = [] then .error .noDigits
  else if s = ".inf".toList then return withSign (1.0 / 0.0)
  else if s = nanWord then return 0.0 / 0.0
  else if s.contains ':' then
    return withSign (← sumSixties 0 1 (← (splitColons s).mapM floatOf).reverse)
  else return withSign (← floatOf s)

/-! ## Times -/

/-- The number at the start of a text, and the rest. -/
def leadingNumber (s : List Char) : Nat × List Char :=
  let digits := s.takeWhile Char.isDigit
  ((natOf? 10 digits).getD 0, s.drop digits.length)

/-- The millionths of a second that some digits behind a point are. -/
def microOf (digits : List Char) : Nat :=
  let six := digits.take 6
  (natOf? 10 (six ++ List.replicate (6 - six.length) '0')).getD 0

/-- The offset from universal time, in seconds, at the start of a text. -/
def offsetOf? (s : List Char) : Option Int :=
  match s.dropWhile fun c => c = ' ' || c = '\t' with
  | 'Z' :: _ => some 0
  | c :: rest =>
    if c = '+' || c = '-' then
      let (hours, rest) := leadingNumber rest
      let (minutes, _) := leadingNumber (rest.drop 1)
      some (signed (c = '-') (hours * 3600 + minutes * 60))
    else none
  | [] => none

/-- The day or point in time that a text is. -/
def momentData (text : List Char) : Loaded Moment :=
  let s := dropFinalBreak text
  if !momentPattern.accepts s then .error .noMoment
  else
    let (year, s) := leadingNumber s
    let (month, s) := leadingNumber (s.drop 1)
    let (day, s) := leadingNumber (s.drop 1)
    let d : Date := ⟨year, month, day⟩
    if s = [] then
      match d.fault? with
      | some f => .error (.badMoment year f)
      | none => .ok (.date d)
    else
      let (hour, s) := leadingNumber (s.dropWhile fun c => !c.isDigit)
      let (minute, s) := leadingNumber (s.drop 1)
      let (second, s) := leadingNumber (s.drop 1)
      let fraction := if s.head? = some '.' then (s.drop 1).takeWhile Char.isDigit else []
      let s := if s.head? = some '.' then s.drop (fraction.length + 1) else s
      let t : Timestamp := ⟨d, hour, minute, second, microOf fraction, offsetOf? s⟩
      match t.fault? with
      | some f => .error (.badMoment year f)
      | none => .ok (.timestamp t)

/-! ## Bytes -/

/-- The value of a digit of base sixty-four. -/
def sixBits? (c : Char) : Option Nat :=
  if 'A' ≤ c ∧ c ≤ 'Z' then some (c.toNat - 'A'.toNat)
  else if 'a' ≤ c ∧ c ≤ 'z' then some (c.toNat - 'a'.toNat + 26)
  else if c.isDigit then some (c.toNat - '0'.toNat + 52)
  else if c = '+' then some 62
  else if c = '/' then some 63
  else none

/-- The bytes that digits of base sixty-four make, given those of the group that is not full yet and
the number of equals signs before. What is neither a digit nor an equals sign does not count. -/
def bytesFrom : List Nat → Nat → List Char → Loaded (List UInt8)
  | [], _, [] => .ok []
  | _ :: _, _, [] => .error .malformed
  | group, pads, c :: rest =>
    if c = '=' then
      if 2 ≤ group.length ∧ 4 ≤ group.length + pads + 1 then .ok (groupBytes group)
      else bytesFrom group (pads + 1) rest
    else
      match sixBits? c with
      | none => bytesFrom group pads rest
      | some n =>
        if group.length = 3 then
          (bytesFrom [] 0 rest).map fun b => groupBytes (group ++ [n]) ++ b
        else bytesFrom (group ++ [n]) 0 rest
where
  /-- The bytes of a group of two to four digits. -/
  groupBytes (group : List Nat) : List UInt8 :=
    let n := (group ++ List.replicate (4 - group.length) 0).foldl (fun n d => n * 64 + d) 0
    [UInt8.ofNat (n / 65536), UInt8.ofNat (n / 256 % 256), UInt8.ofNat (n % 256)].take
      (group.length - 1)

/-- The bytes that a text is. -/
def bytesData (s : List Char) : Loaded (List UInt8) :=
  if s.all isAscii then bytesFrom [] 0 s else .error .malformed

/-! ## Scalars -/

/-- The truth value that a word is, in letters of any size. -/
def boolData (s : List Char) : Loaded Bool :=
  let letters := lowerText s
  let word := String.ofList letters
  if trueWords.contains word then .ok true
  else if falseWords.contains word then .ok false
  else .error (.noBool letters)

/-- What a text means that is said to be of some kind. -/
def scalarData (s : List Char) : Tag → Loaded Data
  | .null => .ok .null
  | .bool => (boolData s).map .bool
  | .int => (intData s).map .int
  | .float => (floatData s).map .float
  | .timestamp => (momentData s).map .moment
  | .binary => (bytesData s).map .bytes
  | .text => .ok (.text s)
  | _ => .error .malformed

end Stencil.Yaml
