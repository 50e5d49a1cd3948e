import Stencil.Text.EastAsian.Basic
import Stencil.Text.Grid.Korean

/-!
# Encodings of Korea

An encoding with the usual syllables, which can spell the others with letters; one in which the
others have pairs of their own; and one in which the bits of a pair are the letters of a syllable.

- `koreanHead`: what stands at the start of bytes in the first.
- `unified?`, `combined?`: the character of a pair in the others.
-/

namespace Stencil.Text

namespace EastAsian

/-- The consonants that can start a syllable, among all consonants. -/
def leading : List Nat := [0, 1, 3, 6, 7, 8, 16, 17, 18, 20, 21, 22, 23, 24, 25, 26, 27, 28, 29]

/-- The consonants that can end a syllable, among all consonants. -/
def trailing : List Nat := (List.range 30).filter fun n => n ≠ 7 && n ≠ 18 && n ≠ 24

/-- The syllable of three letters, the last of which may be the filler. -/
def syllable? (first middle last : UInt8) : Option Char := do
  let lead ← if 0xA1 ≤ first then leading.idxOf? (offset first 0xA1) else none
  let vowel ← if 0xBF ≤ middle ∧ middle ≤ 0xD3 then some (offset middle 0xBF) else none
  let tail ←
    if last = 0xD4 then some 0
    else if 0xA1 ≤ last then (trailing.idxOf? (offset last 0xA1)).map (· + 1)
    else none
  return Char.ofNat (0xAC00 + lead * 588 + vowel * 28 + tail)

/-- What stands at the start of bytes in the encoding of Korea. Behind the filler a syllable is
spelled with three letters. -/
def koreanHead (bytes : List UInt8) : Head :=
  match bytes with
  | 0xA4 :: 0xD4 :: rest =>
    match rest with
    | a :: first :: b :: middle :: c :: last :: _ =>
      if a = 0xA4 ∧ b = 0xA4 ∧ c = 0xA4 then orIllegal 7 (syllable? first middle last)
      else illegal
    | _ => incomplete bytes
  | bytes => pairHead (square? Grid.korean) bytes

/-- The numbers of a rising list that are not in another one. -/
def without : List Nat → List Nat → List Nat
  | ns, [] => ns
  | [], _ => []
  | n :: ns, m :: ms =>
    if n < m then n :: without ns (m :: ms)
    else if n = m then without ns ms
    else without (n :: ns) ms
termination_by ns ms => ns.length + ms.length

/-- The usual syllables. They stand in rising order. -/
def usualSyllables : List Nat :=
  ((Grid.korean.rows.toList.drop 15).take 25).flatMap fun row => row.toList.map Char.toNat

/-- The place of a second byte in the unified encoding of Korea: letters come before the others. -/
def unifiedCell? (b : UInt8) : Option Nat :=
  if 0x41 ≤ b ∧ b ≤ 0x5A then some (offset b 0x41)
  else if 0x61 ≤ b ∧ b ≤ 0x7A then some (26 + offset b 0x61)
  else if 0x81 ≤ b ∧ b ≤ 0xFE then some (52 + offset b 0x81)
  else none

/-- The unusual syllable of a pair. There are 178 cells in the first 32 rows, then 84. -/
def unusual? (a b : UInt8) : Option Char := do
  let cell ← unifiedCell? b
  let n ←
    if a < 0x81 then none
    else if a < 0xA1 then some (offset a 0x81 * 178 + cell)
    else if cell < 84 then some (32 * 178 + offset a 0xA1 * 84 + cell)
    else none
  let code ← (without ((List.range 11172).map (· + 0xAC00)) usualSyllables)[n]?
  return Char.ofNat code

/-- The character of a pair in the unified encoding of Korea. -/
def unified? (a b : UInt8) : Option Char := (square? Grid.korean a b).or (unusual? a b)

/-! ## Syllables of bits -/

/-- The bits of a vowel, by its place. -/
def vowelBits : List Nat :=
  [3, 4, 5, 6, 7, 10, 11, 12, 13, 14, 15, 18, 19, 20, 21, 22, 23, 26, 27, 28, 29]

/-- The place of a leading consonant by its bits; the filler has none. -/
def leadOfBits? (n : Nat) : Option (Option Nat) :=
  if n = 1 then some none else if 2 ≤ n ∧ n ≤ 20 then some (some (n - 2)) else none

/-- The place of a vowel by its bits; the filler has none. -/
def vowelOfBits? (n : Nat) : Option (Option Nat) :=
  if n = 2 then some none else (vowelBits.idxOf? n).map some

/-- The place of a trailing consonant by its bits, from one on; the filler has none. -/
def tailOfBits? (n : Nat) : Option (Option Nat) :=
  if n = 1 then some none
  else if 2 ≤ n ∧ n ≤ 17 then some (some (n - 1))
  else if 19 ≤ n ∧ n ≤ 29 then some (some (n - 2))
  else none

/-- The character of letters by their places: a syllable, which needs a leading consonant and a
vowel, a letter alone, or a blank. -/
def ofLetters? : Option Nat → Option Nat → Option Nat → Option Char
  | none, none, none => some '\u3000'
  | none, none, some tail => trailing[tail - 1]?.map fun n => Char.ofNat (0x3131 + n)
  | none, some vowel, none => some (Char.ofNat (0x314F + vowel))
  | some lead, none, none => leading[lead]?.map fun n => Char.ofNat (0x3131 + n)
  | some lead, some vowel, tail? =>
    some (Char.ofNat (0xAC00 + lead * 588 + vowel * 28 + tail?.getD 0))
  | _, _, _ => none

/-- The character of a pair whose bits are letters. -/
def bits? (a b : UInt8) : Option Char := do
  let lead? ← leadOfBits? (a.toNat / 4 % 32)
  let vowel? ← vowelOfBits? ((a.toNat * 8 + b.toNat / 32) % 32)
  let tail? ← tailOfBits? (b.toNat % 32)
  ofLetters? lead? vowel? tail?

/-- The place of the second byte of a sign or a word, among the 188 of two rows. -/
def signCell? (b : UInt8) : Option Nat :=
  if 0x31 ≤ b ∧ b ≤ 0x7E then some (offset b 0x31)
  else if 0x91 ≤ b ∧ b ≤ 0xFE then some (78 + offset b 0x91)
  else none

/-- The character of a pair that is no syllable of bits: one of the grid, but for its letters. -/
def sign? (a b : UInt8) : Option Char := do
  let row ←
    if 0xD9 ≤ a ∧ a ≤ 0xDE then some (2 * offset a 0xD9)
    else if 0xE0 ≤ a ∧ a ≤ 0xF9 then some (41 + 2 * offset a 0xE0)
    else none
  let cell ← if a = 0xDA ∧ 0xA1 ≤ b ∧ b ≤ 0xD3 then none else signCell? b
  Grid.korean.char? (row + cell / 94) (cell % 94)

/-- The character of a pair in the encoding in which the bits of a pair are the letters of a
syllable. -/
def combined? (a b : UInt8) : Option Char := if a < 0xD8 then bits? a b else sign? a b

end EastAsian

end Stencil.Text
