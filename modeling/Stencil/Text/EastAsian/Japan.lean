import Stencil.Text.EastAsian.Basic
import Stencil.Text.Grid.Japanese
import Stencil.Text.Grid.JapaneseRevised
import Stencil.Text.Grid.JapaneseSecond
import Stencil.Text.Grid.JapaneseSupplement
import Stencil.Text.Grid.JapaneseVendor

/-!
# Encodings of Japan

In the unshifted encoding the second byte of a pair is above 160; in the shifted one it may be one
of ASCII, so that 94 rows fit between the bytes of the narrow signs. A vendor added characters to
the shifted encoding. A later standard added more to both, in two planes of 94 rows, and its
revision ten more kanji.

- `shiftedHead`, `shiftedVendorHead`, `unshiftedHead`: what stands at the start of bytes.
- `Edition.shiftedHead`, `Edition.unshiftedHead`: the same by the later standard.
-/

namespace Stencil.Text

namespace EastAsian

/-- The narrow sign of a byte. -/
def narrow? (b : UInt8) : Option Char :=
  if 0xA1 ≤ b ∧ b ≤ 0xDF then some (Char.ofNat (0xFEC0 + b.toNat)) else none

/-- Whether a byte starts a pair whose second byte is shifted. -/
def isShiftedLead (a : UInt8) : Bool := (0x81 ≤ a && a ≤ 0x9F) || (0xE0 ≤ a && a ≤ 0xEA)

/-- The cell of a shifted second byte, among the 188 of two rows. -/
def shiftedCell? (b : UInt8) : Option Nat := if b ≤ 0xFC then cell? 0x80 b else none

/-- The first of the two rows of a first byte, where the bytes of narrow signs are left out. -/
def shiftedRow (a : UInt8) : Nat := 2 * (if a < 0xE0 then offset a 0x81 else offset a 0xC1)

/-- The character of a pair whose second byte is shifted. -/
def shifted? (a b : UInt8) : Option Char :=
  (shiftedCell? b).bind fun cell =>
    Grid.japanese.char? (shiftedRow a + cell / 94) (cell % 94)

/-- What stands at the start of bytes in a shifted encoding, given the characters of bytes below
128, the bytes that start pairs, and what a pair is. -/
def shiftedHeadBy (low : UInt8 → Char) (isLead : UInt8 → Bool) (pair : UInt8 → UInt8 → Head)
    (bytes : List UInt8) : Head :=
  match bytes with
  | [] => incomplete bytes
  | a :: rest =>
    if a < 0x80 then .text [low a] 0
    else
      match narrow? a, isLead a, rest with
      | some c, _, _ => .text [c] 0
      | none, false, _ => illegal
      | none, true, [] => incomplete bytes
      | none, true, b :: _ => pair a b

/-- What stands at the start of bytes in the shifted encoding of Japan. -/
def shiftedHead : List UInt8 → Head :=
  shiftedHeadBy (fun a => Char.ofNat a.toNat) isShiftedLead fun a b => orIllegal 1 (shifted? a b)

/-- Signs that a vendor took for others, by their pairs. -/
def shiftedVendorSigns : List ((UInt8 × UInt8) × Char) :=
  [((0x81, 0x60), '\uff5e'), ((0x81, 0x61), '\u2225'), ((0x81, 0x7C), '\uff0d'),
    ((0x81, 0x91), '\uffe0'), ((0x81, 0x92), '\uffe1'), ((0x81, 0xCA), '\uffe2')]

/-- A character that a vendor added, by its place behind the numbers, units and signs. -/
def added? (n : Nat) : Option Char := Grid.japaneseVendor.char? (1 + n / 188) (n % 188)

/-- The character that a vendor added for a pair. Its kanji have two pairs each. -/
def vendorKanji? (a b : UInt8) : Option Char :=
  (shiftedCell? b).bind fun cell =>
    if a = 0x87 then Grid.japaneseVendor.char? 0 cell
    else if 0xFA ≤ a then added? (offset a 0xFA * 188 + cell)
    else if a = 0xED ∨ a = 0xEE then
      let n := offset a 0xED * 188 + cell
      if n < 360 then added? (28 + n)
      else if 362 ≤ n ∧ n < 372 then added? (n - 362)
      else if 372 ≤ n then added? (n - 352)
      else none
    else none

/-- The character of a pair whose second byte is shifted, as a vendor has it. -/
def shiftedVendor? (a b : UInt8) : Option Char :=
  match (shiftedVendorSigns.lookup (a, b)).or (vendorKanji? a b) with
  | some c => some c
  | none =>
    if isShiftedLead a then shifted? a b
    else if 0xF0 ≤ a ∧ a ≤ 0xF9 then
      (shiftedCell? b).map fun cell => Char.ofNat (0xE000 + 188 * offset a 0xF0 + cell)
    else none

/-- The character of a byte by itself, as a vendor has it. -/
def vendorSingle? (a : UInt8) : Option Char :=
  if a ≤ 0x80 then some (Char.ofNat a.toNat)
  else if a = 0xA0 then some '\uf8f0'
  else if 0xFD ≤ a then some (Char.ofNat (0xF8F1 + offset a 0xFD))
  else narrow? a

/-- What stands at the start of bytes in the shifted encoding of Japan, as a vendor has it. -/
def shiftedVendorHead (bytes : List UInt8) : Head :=
  match bytes with
  | [] => incomplete bytes
  | a :: rest =>
    match vendorSingle? a, rest with
    | some c, _ => .text [c] 0
    | none, [] => incomplete bytes
    | none, b :: _ => orIllegal 1 (shiftedVendor? a b)

/-- What stands at the start of bytes in the unshifted encoding of Japan. One byte announces a
narrow sign, another a character of the second grid. -/
def unshiftedHead (bytes : List UInt8) : Head :=
  match bytes with
  | 0x8E :: b :: _ => orIllegal 1 (narrow? b)
  | 0x8F :: a :: b :: _ => orIllegal 2 (square? Grid.japaneseSupplement a b)
  | [0x8F, _] => incomplete bytes
  | bytes => pairHead (square? Grid.japanese) bytes

/-! ## The later standard -/

/-- The editions of the later standard. -/
inductive Edition where
  | first | revised
  deriving DecidableEq, Repr, Inhabited

/-- The character of a byte below 128 in the roman letters of Japan, which have two other signs
than ASCII. -/
def roman (a : UInt8) : Char :=
  if a = 0x5C then '¥' else if a = 0x7E then '‾' else Char.ofNat a.toNat

/-- The kanji that only the revised edition has, by row and cell. -/
def lateKanji : List (Nat × Nat) :=
  [(13, 0), (14, 93), (46, 51), (46, 93), (83, 6), (93, 89), (93, 90), (93, 91), (93, 92), (93, 93)]

/-- Signs that follow a letter in a cell of the first plane, by row and cell. -/
def followers : List ((Nat × Nat) × Char) :=
  [((3, 86), '\u309a'), ((3, 87), '\u309a'), ((3, 88), '\u309a'), ((3, 89), '\u309a'),
    ((3, 90), '\u309a'), ((4, 86), '\u309a'), ((4, 87), '\u309a'), ((4, 88), '\u309a'),
    ((4, 89), '\u309a'), ((4, 90), '\u309a'), ((4, 91), '\u309a'), ((4, 92), '\u309a'),
    ((4, 93), '\u309a'), ((5, 87), '\u309a'), ((10, 35), '\u0300'), ((10, 39), '\u0300'),
    ((10, 40), '\u0301'), ((10, 41), '\u0300'), ((10, 42), '\u0301'), ((10, 43), '\u0300'),
    ((10, 44), '\u0301'), ((10, 45), '\u0300'), ((10, 46), '\u0301'), ((10, 68), '\u02e5'),
    ((10, 69), '\u02e9')]

namespace Edition

/-- Whether an edition lacks the kanji in a cell of the first plane that another one has. -/
def lacks (e : Edition) (row cell : Nat) : Bool := e = first && lateKanji.contains (row, cell)

/-- The characters in a cell of the first plane. -/
def firstPlane? (e : Edition) (row cell : Nat) : Option (List Char) :=
  if e.lacks row cell then none
  else
    ((Grid.japanese.char? row cell).or (Grid.japaneseRevised.char? row cell)).map fun c =>
      c :: (followers.lookup (row, cell)).toList

/-- The character in a cell of the second plane. One is not the same in both editions. -/
def secondPlane? (e : Edition) (row cell : Nat) : Option Char :=
  if e = first ∧ row = 92 ∧ cell = 26 then some '鬝' else Grid.japaneseSecond.char? row cell

/-- What a pair of the first plane is. Both bytes are at fault for a kanji of the revised
edition. -/
def firstPlaneHead (e : Edition) (row cell : Nat) : Head :=
  if e.lacks row cell then .fault 2 "illegal multibyte sequence"
  else orIllegalText 1 (e.firstPlane? row cell)

/-- What a pair is in the unshifted encoding. One sign is written wide. -/
def unshiftedPair (e : Edition) (a b : UInt8) : Head :=
  if a = 0xA2 ∧ b = 0xB2 then .text ['\uff5e'] 1
  else if 0xA1 ≤ a ∧ 0xA1 ≤ b ∧ b ≤ 0xFE then e.firstPlaneHead (offset a 0xA1) (offset b 0xA1)
  else illegal

/-- What stands at the start of bytes in the unshifted encoding. A character that is not in the
second plane may still be in the second grid. -/
def unshiftedHead (e : Edition) (bytes : List UInt8) : Head :=
  match bytes with
  | 0x8E :: b :: _ => orIllegal 1 (narrow? b)
  | 0x8F :: a :: b :: _ =>
    let second? :=
      if 0xA1 ≤ a ∧ 0xA1 ≤ b ∧ b ≤ 0xFE then e.secondPlane? (offset a 0xA1) (offset b 0xA1)
      else none
    orIllegal 2 (second?.or (square? Grid.japaneseSupplement a b))
  | [0x8F, _] => incomplete bytes
  | bytes => pairHeadBy e.unshiftedPair bytes

/-- The row of the second plane that takes the place of a row behind the 94 of the first. -/
def secondRow (row : Nat) : Nat :=
  if 103 ≤ row then row - 26
  else if 99 ≤ row ∨ row = 95 then row - 88
  else row - 94

/-- What a pair is in the shifted encoding. One sign is written as in ASCII. -/
def shiftedPair (e : Edition) (a b : UInt8) : Head :=
  match shiftedCell? b with
  | none => illegal
  | some cell =>
    let row := shiftedRow a + cell / 94
    if a = 0x81 ∧ b = 0x5F then .text ['\\'] 1
    else if row < 94 then e.firstPlaneHead row (cell % 94)
    else orIllegal 1 (e.secondPlane? (secondRow row) (cell % 94))

/-- What stands at the start of bytes in the shifted encoding. -/
def shiftedHead (e : Edition) : List UInt8 → Head :=
  shiftedHeadBy roman (fun a => (0x81 ≤ a && a ≤ 0x9F) || (0xE0 ≤ a && a ≤ 0xFC)) e.shiftedPair

end Edition

end EastAsian

end Stencil.Text
