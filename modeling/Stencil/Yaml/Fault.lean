import Stencil.Calendar.Moment
import Stencil.Text.Quoted

/-!
# What can be wrong with a YAML text

A text that is not written in the language has no data. A text that is may still say of a scalar
that it is a number, a truth value, a time or a character, and it is none.

- `LoadFault`: why a text has no data.
-/

namespace Stencil.Yaml

open Calendar Text

/-- Why a text has no data. -/
inductive LoadFault where
  /-- It is not written in the language. -/
  | malformed
  /-- It has the number of no character. -/
  | noCharacter (number : Nat)
  /-- It has a scalar that is no integer to some base. -/
  | noInt (base : Nat) (text : List Char)
  /-- It has an integer with more digits than an integer may have. -/
  | longInt (digits : Nat)
  /-- It has a scalar that is no float. -/
  | noFloat (text : List Char)
  /-- It has a float with a part that counts more than any float. -/
  | greatFloat
  /-- It has a number without digits. -/
  | noDigits
  /-- It has a scalar that is no truth value. -/
  | noBool (text : List Char)
  /-- It has a scalar that is no time. -/
  | noMoment
  /-- It has a mapping that is said to be a time. -/
  | momentOfMapping
  /-- It has a time that does not exist, in some year. -/
  | badMoment (year : Nat) (f : MomentFault)
  /-- It has a scalar whose text is its own. -/
  | endless
  deriving DecidableEq, Repr, Inhabited

/-- How much of a text a message about an integer shows. -/
def shownLimit : Nat := 200

/-- The words for a fault. -/
def LoadFault.message : LoadFault → List Char
  | malformed => []
  | noCharacter n =>
    if n < 0x80000000 then "chr() arg not in range(0x110000)".toList
    else "Python int too large to convert to C int".toList
  | noInt base text =>
    "invalid literal for int() with base ".toList ++ (toString base).toList ++ [':', ' ']
      ++ (quoted text).take shownLimit
  | longInt digits =>
    ("Exceeds the limit (4300 digits) for integer string conversion: value has " ++ toString digits
      ++ " digits; use sys.set_int_max_str_digits() to increase the limit").toList
  | noFloat text => "could not convert string to float: ".toList ++ quoted text
  | greatFloat => "int too large to convert to float".toList
  | noDigits => "string index out of range".toList
  | noBool text => quoted text
  | noMoment => "'NoneType' object has no attribute 'groupdict'".toList
  | momentOfMapping => "expected string or bytes-like object, got 'list'".toList
  | badMoment year f => (f.message year).toList
  | endless => "maximum recursion depth exceeded".toList

/-- A result, or why there is none. -/
abbrev Loaded (α : Type) := Except LoadFault α

/-- A result, or a text that is not written in the language. -/
def orMalformed {α : Type} : Option α → Loaded α
  | some a => .ok a
  | none => .error .malformed

end Stencil.Yaml
