import Stencil.Decimal.Binary
import Stencil.Script.Symbol
import Stencil.Text.Word

/-!
# Tokens

The words of the script language: names, keywords, numbers, quoted texts and symbols. A number is
read from the characters that belong to it as a whole, so a number with a letter behind it is not a
number.

Numbers with an imaginary part, texts that go over several lines and texts with letters in front of
the quotes, such as formatted ones and those of bytes, are not modelled. The letters are a name
here, which no quoted text may follow, so a program with such a text is refused when it is read.
-/

namespace Stencil.Script

/-- A word of the language. -/
inductive Token where
  /-- The name of a variable, function or attribute. -/
  | name (s : String)
  /-- A keyword. -/
  | keyword (k : Keyword)
  /-- A whole number. -/
  | int (n : Nat)
  /-- A number `digits * 10 ^ exponent` with a point or an exponent. -/
  | decimal (digits : Nat) (exponent : Int)
  /-- A quoted text. -/
  | text (s : List Char)
  /-- A sign. -/
  | symbol (s : Symbol)
  deriving DecidableEq, Repr, Inhabited

/-- A token and the line of the program on which it starts. -/
structure Lexeme where
  /-- The token. -/
  token : Token
  /-- The line. -/
  line : Nat
  deriving DecidableEq, Repr, Inhabited

/-- Whether a character can start a name. -/
def isNameStart (c : Char) : Bool := Text.isWord c && !c.isDigit

/-- The token that a word is. -/
def Token.ofWord (word : List Char) : Token :=
  let s := String.ofList word
  match Keyword.ofWord? s with
  | some k => .keyword k
  | none => .name s

/-! ## Numbers -/

/-- The value of a hexadecimal digit. -/
def digitValue? (c : Char) : Option Nat :=
  if c.isDigit then some (c.toNat - '0'.toNat)
  else if 'a' ≤ c ∧ c ≤ 'f' then some (c.toNat - 'a'.toNat + 10)
  else if 'A' ≤ c ∧ c ≤ 'F' then some (c.toNat - 'A'.toNat + 10)
  else none

/-- The number that some digits spell, if all of them are digits below the base. -/
def numberOfDigits? (base : Nat) (s : List Char) : Option Nat :=
  s.foldlM (fun n c => (digitValue? c).bind fun d => if d < base then some (n * base + d) else none)
    0

/-- Digits without the underscores between them. There must be a digit at either end, and no two
underscores may touch. -/
def withoutUnderscores? : List Char → Option (List Char)
  | [] => none
  | ['_'] => none
  | [c] => some [c]
  | '_' :: _ => none
  | c :: '_' :: s => (withoutUnderscores? s).map (c :: ·)
  | c :: d :: s => (withoutUnderscores? (d :: s)).map (c :: ·)

/-- The number that digits with underscores spell. -/
def grouped? (base : Nat) (s : List Char) : Option Nat :=
  (withoutUnderscores? s).bind (numberOfDigits? base)

/-- Reads a decimal number with a point or an exponent, given the digits before the point. -/
def fraction? (whole rest : List Char) : Option Token := do
  let digits := rest.takeWhile fun c => c.isDigit || c = '_'
  let tail := rest.dropWhile fun c => c.isDigit || c = '_'
  let digits ← if digits = [] then some [] else withoutUnderscores? digits
  let whole ← if whole = [] then some [] else withoutUnderscores? whole
  guard (whole ++ digits ≠ [])
  let n ← numberOfDigits? 10 (whole ++ digits)
  let exponent ← match tail with
    | [] => some (0 : Int)
    | e :: power =>
      if e.toLower ≠ 'e' then none
      else
        match power with
        | '-' :: power => (grouped? 10 power).map fun p => -(p : Int)
        | '+' :: power => (grouped? 10 power).map Int.ofNat
        | _ => (grouped? 10 power).map Int.ofNat
  return .decimal n (exponent - digits.length)

/-- The token that the characters of a number make up, if they do. A number that starts with zero
has only zeros, unless a letter tells its base. -/
def Token.ofNumber? (s : List Char) : Option Token :=
  match s with
  | '0' :: x :: rest =>
    let digits := if rest.head? = some '_' then rest.drop 1 else rest
    if x.toLower = 'x' then (grouped? 16 digits).map .int
    else if x.toLower = 'o' then (grouped? 8 digits).map .int
    else if x.toLower = 'b' then (grouped? 2 digits).map .int
    else decimal
  | _ => decimal
where
  /-- A number of base ten. -/
  decimal : Option Token :=
    let isPart := fun (c : Char) => c.isDigit || c = '_'
    let whole := s.takeWhile isPart
    match s.dropWhile isPart with
    | [] =>
      match grouped? 10 whole with
      | some n => if whole.head? = some '0' ∧ n ≠ 0 then none else some (.int n)
      | none => none
    | '.' :: rest => fraction? whole rest
    | rest => fraction? whole rest

end Stencil.Script
