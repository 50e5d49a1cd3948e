import Stencil.Text.Decoding
import Stencil.Text.Grid.Basic

/-!
# Characters of several bytes

In the encodings of East Asia a byte of ASCII is a character by itself, and most others start a
character of two bytes, which tell a row and a cell of a grid. Where the bytes at some place make no
character, the first of them alone is at fault, unless more would be needed to tell.

- `pairHead`: what stands at the start of bytes.
-/

namespace Stencil.Text

namespace EastAsian

/-- A first byte that starts no character. -/
def illegal : Head := .fault 1 "illegal multibyte sequence"

/-- Bytes up to the end that may be the first of a character. -/
def incomplete (bytes : List UInt8) : Head := .fault bytes.length "incomplete multibyte sequence"

/-- Characters of some more bytes, if there are any. -/
def orIllegalText (more : Nat) (s? : Option (List Char)) : Head :=
  match s? with
  | some s => .text s more
  | none => illegal

/-- A character of some more bytes, if there is one. -/
def orIllegal (more : Nat) (c? : Option Char) : Head := orIllegalText more (c?.map ([·]))

/-- What stands at the start of bytes in an encoding of single bytes below 128 and pairs of bytes,
given what a pair is. -/
def pairHeadBy (pair : UInt8 → UInt8 → Head) (bytes : List UInt8) : Head :=
  match bytes with
  | [] => incomplete bytes
  | [b] => if b < 0x80 then .text [Char.ofNat b.toNat] 0 else incomplete bytes
  | a :: b :: _ => if a < 0x80 then .text [Char.ofNat a.toNat] 0 else pair a b

/-- What stands at the start of bytes in such an encoding, given the character of a pair. -/
def pairHead (pair? : UInt8 → UInt8 → Option Char) : List UInt8 → Head :=
  pairHeadBy fun a b => orIllegal 1 (pair? a b)

/-- How far a byte is behind another. -/
def offset (b first : UInt8) : Nat := b.toNat - first.toNat

/-- The character of a pair in a grid of 94 rows of 94 cells, both counted from 161. -/
def square? (g : Grid) (a b : UInt8) : Option Char :=
  if 0xA1 ≤ a ∧ 0xA1 ≤ b ∧ b ≤ 0xFE then g.char? (offset a 0xA1) (offset b 0xA1) else none

/-- The character of a pair without high bits, given that of the pair with them. -/
def lowPair? (pair? : UInt8 → UInt8 → Option Char) (a b : UInt8) : Option Char :=
  if 0x21 ≤ a ∧ a ≤ 0x7E ∧ 0x21 ≤ b ∧ b ≤ 0x7E then pair? (a + 0x80) (b + 0x80) else none

/-- The cell of a second byte: the bytes from 64 to 126 come first, then those from another on. -/
def cell? (second b : UInt8) : Option Nat :=
  if 0x40 ≤ b ∧ b ≤ 0x7E then some (offset b 0x40)
  else if second ≤ b ∧ b ≤ 0xFE then some (63 + offset b second)
  else none

end EastAsian

end Stencil.Text
