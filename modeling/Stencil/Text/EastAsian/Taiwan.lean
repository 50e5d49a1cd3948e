import Stencil.Text.EastAsian.Basic
import Stencil.Text.Grid.HongKong
import Stencil.Text.Grid.TraditionalHan

/-!
# Encodings of Taiwan and Hong Kong

The encoding of Taiwan, with what a vendor and what Hong Kong added to it.

- `traditional?`, `traditionalVendor?`: the character of a pair.
- `hongKong?`: the characters of a pair. Four pairs have two characters each.
-/

namespace Stencil.Text

namespace EastAsian

/-- The character of a pair in the encoding of Taiwan. -/
def traditional? (a b : UInt8) : Option Char :=
  if 0xA1 ≤ a then
    (cell? 0xA1 b).bind fun cell => Grid.traditionalHan.char? (offset a 0xA1) cell
  else none

/-- Signs that a vendor took for others, by their pairs. -/
def vendorSigns : List ((UInt8 × UInt8) × Char) :=
  [((0xA1, 0x45), '\u2027'), ((0xA1, 0x4E), '\ufe51'), ((0xA1, 0xC2), '\u00af'),
    ((0xA1, 0xE3), '\uff5e'), ((0xA1, 0xF2), '\u2295'), ((0xA1, 0xF3), '\u2299'),
    ((0xA2, 0x41), '\u2215'), ((0xA2, 0x42), '\ufe68'), ((0xA2, 0x44), '\uffe5'),
    ((0xA2, 0x46), '\uffe0'), ((0xA2, 0x47), '\uffe1'), ((0xA3, 0xE1), '\u20ac')]

/-- Characters that a vendor added in the last row, from the byte 214 on. -/
def vendorRow : List Char := "碁銹裏墻恒粧嫺╔╦╗╠╬╣╚╩╝╒╤╕╞╪╡╘╧╛╓╥╖╟╫╢╙╨╜║═╭╮╰╯▓".toList

/-- The character of a pair in the encoding of Taiwan, as a vendor has it. -/
def traditionalVendor? (a b : UInt8) : Option Char :=
  if a = 0xF9 ∧ 0xD6 ≤ b then vendorRow[offset b 0xD6]?
  else (vendorSigns.lookup (a, b)).or (traditional? a b)

/-- The row of a first byte among those that Hong Kong added. -/
def hongKongRow? (a : UInt8) : Option Nat :=
  if 0x87 ≤ a ∧ a ≤ 0xA0 then some (offset a 0x87)
  else if 0xC6 ≤ a ∧ a ≤ 0xC8 then some (26 + offset a 0xC6)
  else if 0xF9 ≤ a ∧ a ≤ 0xFE then some (29 + offset a 0xF9)
  else none

/-- The marks that stand above letters, by their pairs. -/
def hongKongMarks : List ((UInt8 × UInt8) × Char) :=
  [((0x88, 0x62), '\u0304'), ((0x88, 0x64), '\u030c'), ((0x88, 0xA3), '\u0304'),
    ((0x88, 0xA5), '\u030c')]

/-- Whether Hong Kong took a pair for something else. -/
def isRetaken (a b : UInt8) : Bool := (a = 0xC6 && 0xA1 ≤ b) || a = 0xC7

/-- The characters of a pair in the encoding of Hong Kong. -/
def hongKong? (a b : UInt8) : Option (List Char) :=
  let added? := do
    let row ← hongKongRow? a
    let cell ← cell? 0xA1 b
    Grid.hongKong.char? row cell
  let c? := if isRetaken a b then added? else added?.or (traditional? a b)
  c?.map fun c => c :: (hongKongMarks.lookup (a, b)).toList

/-- What stands at the start of bytes in the encoding of Hong Kong. -/
def hongKongHead : List UInt8 → Head := pairHeadBy fun a b => orIllegalText 1 (hongKong? a b)

end EastAsian

end Stencil.Text
