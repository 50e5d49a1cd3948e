import Stencil.Text.Decoding

/-!
# Escapes

Text in which a backslash and what follows it stand for a character; every other byte is the
character with its number. There is a full and a raw form: the raw form has only the escapes with
four or eight digits.

- `decodeEscapes`, `decodeRawEscapes`: the text of some bytes.
-/

namespace Stencil.Text

/-- The value of a hexadecimal digit. -/
def escapeDigit? (b : UInt8) : Option Nat :=
  if 0x30 ≤ b ∧ b ≤ 0x39 then some (b.toNat - 0x30)
  else if 0x61 ≤ b ∧ b ≤ 0x66 then some (b.toNat - 0x61 + 10)
  else if 0x41 ≤ b ∧ b ≤ 0x46 then some (b.toNat - 0x41 + 10)
  else none

/-- The hexadecimal digits at the start of some bytes, no more than a number of them. -/
def escapeDigits (count : Nat) (bytes : List UInt8) : List Nat :=
  ((bytes.take count).map escapeDigit?).takeWhile Option.isSome |>.filterMap id

/-- The character of an escape with a number of digits, which stand at the start of some bytes. -/
def digitEscape (count : Nat) (truncated tooLarge : String) (bytes : List UInt8) : Head :=
  let digits := escapeDigits count bytes
  let code := digits.foldl (fun n d => n * 16 + d) 0
  if digits.length < count then .fault (2 + digits.length) truncated
  else if 0x10FFFF < code then .fault (2 + count) tooLarge
  else .text [Char.ofNat code] (1 + count)

/-- The reason for an escape of four digits that ends early. -/
def shortEscape : String := "truncated \\uXXXX escape"

/-- The reason for an escape of eight digits that ends early. -/
def longEscape : String := "truncated \\UXXXXXXXX escape"

/-- Letters and signs that stand for a character behind a backslash. -/
def letterEscapes : List (UInt8 × Char) :=
  [(0x5C, '\\'), (0x27, '\''), (0x22, '"'), (0x62, '\x08'), (0x66, '\x0c'), (0x74, '\t'),
    (0x6E, '\n'), (0x72, '\r'), (0x76, '\x0b'), (0x61, '\x07')]

/-- Whether a byte is a digit below eight. -/
def isOctal (b : UInt8) : Bool := 0x30 ≤ b && b ≤ 0x37

/-- What stands at the start of some bytes behind a backslash. A line feed is dropped; a byte
without a meaning stays with its backslash. Names of characters are not known. -/
def escapeHead (bytes : List UInt8) : Head :=
  match bytes with
  | [] => .fault 1 "\\ at end of string"
  | 0x0A :: _ => .text [] 1
  | 0x78 :: rest => digitEscape 2 "truncated \\xXX escape" "illegal Unicode character" rest
  | 0x75 :: rest => digitEscape 4 shortEscape "illegal Unicode character" rest
  | 0x55 :: rest => digitEscape 8 longEscape "illegal Unicode character" rest
  | 0x4E :: _ => .fault 2 "malformed \\N character escape"
  | b :: _ =>
    let octal := (bytes.take 3).takeWhile isOctal
    match letterEscapes.lookup b with
    | some c => .text [c] 1
    | none =>
      if octal = [] then .text ['\\', Char.ofNat b.toNat] 1
      else
        .text [Char.ofNat (octal.foldl (fun n d => n * 8 + (d.toNat - 0x30)) 0)] octal.length

/-- What stands at the start of some bytes behind a backslash, in the raw form. -/
def rawEscapeHead (bytes : List UInt8) : Head :=
  match bytes with
  | [] => .text ['\\'] 0
  | 0x75 :: rest => digitEscape 4 shortEscape "\\Uxxxxxxxx out of range" rest
  | 0x55 :: rest => digitEscape 8 longEscape "\\Uxxxxxxxx out of range" rest
  | b :: _ => .text ['\\', Char.ofNat b.toNat] 1

/-- What stands at the start of some bytes, given what stands behind a backslash. -/
def backslashHead (behind : List UInt8 → Head) (bytes : List UInt8) : Head :=
  match bytes with
  | 0x5C :: rest => behind rest
  | b :: _ => .text [Char.ofNat b.toNat] 0
  | [] => .text [] 0

/-- The text of bytes in the full form. -/
def decodeEscapes (bytes : List UInt8) : Decoded :=
  decodeBy "unicodeescape" (backslashHead escapeHead) bytes

/-- The text of bytes in the raw form. -/
def decodeRawEscapes (bytes : List UInt8) : Decoded :=
  decodeBy "rawunicodeescape" (backslashHead rawEscapeHead) bytes

end Stencil.Text
