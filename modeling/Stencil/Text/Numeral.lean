import Stencil.Text.Blank

/-!
# Digits of all scripts

Many scripts have ten decimal digits of their own, which stand next to each other from zero to nine.
A numeral may be written with any of them, and with any blanks around it.

- `decimalDigit?`: the value of a digit.
- `plainNumeral`: a numeral with the digits and blanks of ASCII.
-/

namespace Stencil.Text

/-- The zeros of all scripts. Each is followed by the other nine digits. -/
def zeroDigits : List Nat := [
  0x30, 0x660, 0x6F0, 0x7C0, 0x966, 0x9E6, 0xA66, 0xAE6, 0xB66, 0xBE6, 0xC66, 0xCE6, 0xD66, 0xDE6,
  0xE50, 0xED0, 0xF20, 0x1040, 0x1090, 0x17E0, 0x1810, 0x1946, 0x19D0, 0x1A80, 0x1A90, 0x1B50,
  0x1BB0, 0x1C40, 0x1C50, 0xA620, 0xA8D0, 0xA900, 0xA9D0, 0xA9F0, 0xAA50, 0xABF0, 0xFF10, 0x104A0,
  0x10D30, 0x11066, 0x110F0, 0x11136, 0x111D0, 0x112F0, 0x11450, 0x114D0, 0x11650, 0x116C0, 0x11730,
  0x118E0, 0x11950, 0x11C50, 0x11D50, 0x11DA0, 0x16A60, 0x16AC0, 0x16B50, 0x1D7CE, 0x1D7D8, 0x1D7E2,
  0x1D7EC, 0x1D7F6, 0x1E140, 0x1E2F0, 0x1E950, 0x1FBF0]

/-- The value of a decimal digit of any script. -/
def decimalDigit? (c : Char) : Option Nat :=
  (zeroDigits.find? fun nought => nought ≤ c.toNat && c.toNat < nought + 10).map (c.toNat - ·)

/-- The digit of ASCII for a number below ten. -/
def digitChar (n : Nat) : Char := Char.ofNat ('0'.toNat + n)

/-- Whether a character is one of ASCII. -/
def isAscii (c : Char) : Bool := c.toNat < 128

/-- A character of a numeral as one of ASCII. A character that has no place in a numeral becomes a
question mark. -/
def plainNumeralChar (c : Char) : Char :=
  if c.toNat < 127 then c
  else if isBlank c then ' '
  else ((decimalDigit? c).map digitChar).getD '?'

/-- Whether a character is a blank of ASCII. -/
def isAsciiBlank (c : Char) : Bool := c = ' ' || ('\t' ≤ c && c ≤ '\r')

/-- A numeral with the digits of ASCII and without the blanks around it. -/
def plainNumeral (s : List Char) : List Char :=
  let plain := if s.all isAscii then s else s.map plainNumeralChar
  ((plain.dropWhile isAsciiBlank).reverse.dropWhile isAsciiBlank).reverse

end Stencil.Text
