/-!
# Decoding of bytes

Bytes become text by an encoding. Decoding is a run over the bytes that remembers the character it
is in; the first bytes that make no character end it, with their places and a reason.

- `decodeUtf8`, `decodeUtf16`, `decodeUtf32`, `decodeAscii`, `decodeLatin1`: the text of some bytes.
- `decodeBy`: the text of some bytes, told bit by bit.
-/

namespace Stencil.Text

/-- Bytes that make no character. -/
structure DecodeFault where
  /-- The name of the encoding, as the message has it. -/
  codec : String
  /-- The place of the first of them. -/
  first : Nat
  /-- The bytes. -/
  bytes : List UInt8
  /-- What is wrong with them. -/
  reason : String
  deriving DecidableEq, Repr, Inhabited

/-- A byte as two hexadecimal digits. -/
def byteDigits (b : UInt8) : String :=
  let digits := Nat.toDigits 16 b.toNat
  String.ofList (List.replicate (2 - digits.length) '0' ++ digits)

/-- The message of a fault. -/
def DecodeFault.message (f : DecodeFault) : String :=
  match f.bytes with
  | [b] =>
    "'" ++ f.codec ++ "' codec can't decode byte 0x" ++ byteDigits b ++ " in position "
      ++ toString f.first ++ ": " ++ f.reason
  | bytes =>
    "'" ++ f.codec ++ "' codec can't decode bytes in position " ++ toString f.first ++ "-"
      ++ toString (f.first + bytes.length - 1) ++ ": " ++ f.reason

/-- The text of some bytes, or the first that make no character. -/
abbrev Decoded := Except DecodeFault (List Char)

/-- Why bytes have no text in an encoding. -/
inductive Refusal where
  /-- Bytes that make no character. -/
  | bytes (f : DecodeFault)
  /-- Something that cannot be told by bytes. -/
  | reason (text : String)
  deriving DecidableEq, Repr, Inhabited

/-- A character in front of a text. -/
def Decoded.cons (c : Char) (d : Decoded) : Decoded := d.map (c :: ·)

/-- The text, or the bytes that make no character as the cause of a refusal. -/
def Decoded.orRefusal (d : Decoded) : Except Refusal (List Char) := d.mapError .bytes

/-! ## UTF-8 -/

/-- A character of which some bytes have been read. -/
structure Utf8Char where
  /-- The bytes, last first. -/
  read : List UInt8
  /-- How many are to come. -/
  left : Nat
  /-- The least next byte. -/
  low : UInt8
  /-- The greatest next byte. -/
  high : UInt8
  /-- The bits of the bytes read. -/
  value : Nat

/-- The character that a byte starts, if it starts one of several bytes. The second byte is kept
from making a number that fewer bytes can make, a surrogate, or a number that is too large. -/
def Utf8Char.start? (b : UInt8) : Option Utf8Char :=
  if 0xC2 ≤ b ∧ b ≤ 0xDF then some ⟨[b], 1, 0x80, 0xBF, b.toNat - 0xC0⟩
  else if b = 0xE0 then some ⟨[b], 2, 0xA0, 0xBF, 0⟩
  else if b = 0xED then some ⟨[b], 2, 0x80, 0x9F, 0xD⟩
  else if 0xE1 ≤ b ∧ b ≤ 0xEF then some ⟨[b], 2, 0x80, 0xBF, b.toNat - 0xE0⟩
  else if b = 0xF0 then some ⟨[b], 3, 0x90, 0xBF, 0⟩
  else if 0xF1 ≤ b ∧ b ≤ 0xF3 then some ⟨[b], 3, 0x80, 0xBF, b.toNat - 0xF0⟩
  else if b = 0xF4 then some ⟨[b], 3, 0x80, 0x8F, 4⟩
  else none

/-- A fault of UTF-8 in a character that ends before some place. -/
def Utf8Char.fault (c : Utf8Char) (stop : Nat) (reason : String) : DecodeFault :=
  ⟨"utf-8", stop - c.read.length, c.read.reverse, reason⟩

/-- The text of bytes from some place on, within a character or between two. -/
def utf8From : Nat → Option Utf8Char → List UInt8 → Decoded
  | _, none, [] => .ok []
  | at_, some c, [] => .error (c.fault at_ "unexpected end of data")
  | at_, none, b :: rest =>
    if b < 0x80 then .cons (Char.ofNat b.toNat) (utf8From (at_ + 1) none rest)
    else
      match Utf8Char.start? b with
      | some c => utf8From (at_ + 1) (some c) rest
      | none => .error ⟨"utf-8", at_, [b], "invalid start byte"⟩
  | at_, some c, b :: rest =>
    if c.low ≤ b ∧ b ≤ c.high then
      let value := c.value * 64 + (b.toNat - 0x80)
      if c.left = 1 then .cons (Char.ofNat value) (utf8From (at_ + 1) none rest)
      else utf8From (at_ + 1) (some ⟨b :: c.read, c.left - 1, 0x80, 0xBF, value⟩) rest
    else .error (c.fault at_ "invalid continuation byte")

/-- The text of bytes in UTF-8. -/
def decodeUtf8 (bytes : List UInt8) : Decoded := utf8From 0 none bytes

/-- The text of bytes in UTF-8, without the mark that may stand in front. -/
def decodeUtf8Signed (bytes : List UInt8) : Decoded :=
  match bytes with
  | 0xEF :: 0xBB :: 0xBF :: rest => decodeUtf8 rest
  | bytes => decodeUtf8 bytes

/-! ## UTF-16 and UTF-32 -/

/-- Which byte of a number comes first. -/
inductive ByteOrder where
  /-- The least. -/
  | little
  /-- The greatest. -/
  | big
  deriving DecidableEq, Repr, Inhabited

/-- The number that some bytes make. -/
def ByteOrder.number (o : ByteOrder) (bytes : List UInt8) : Nat :=
  match o with
  | little => bytes.foldr (fun b n => n * 256 + b.toNat) 0
  | big => bytes.foldl (fun n b => n * 256 + b.toNat) 0

/-- The ending of an encoding's name. -/
def ByteOrder.suffix : ByteOrder → String
  | little => "-le"
  | big => "-be"

/-- The text of bytes in UTF-16 from some place on, after the first half of a character or not. -/
def utf16From (o : ByteOrder) : Nat → Option (UInt8 × UInt8 × Nat) → List UInt8 → Decoded
  | _, none, [] => .ok []
  | at_, some (a, b, _), [] =>
    .error ⟨"utf-16" ++ o.suffix, at_ - 2, [a, b], "unexpected end of data"⟩
  | at_, some (a, b, _), [c] =>
    .error ⟨"utf-16" ++ o.suffix, at_ - 2, [a, b, c], "unexpected end of data"⟩
  | at_, none, [a] => .error ⟨"utf-16" ++ o.suffix, at_, [a], "truncated data"⟩
  | at_, none, a :: b :: rest =>
    let n := o.number [a, b]
    if 0xD800 ≤ n ∧ n < 0xDC00 then utf16From o (at_ + 2) (some (a, b, n - 0xD800)) rest
    else if 0xDC00 ≤ n ∧ n < 0xE000 then
      .error ⟨"utf-16" ++ o.suffix, at_, [a, b], "illegal encoding"⟩
    else .cons (Char.ofNat n) (utf16From o (at_ + 2) none rest)
  | at_, some (a, b, high), c :: d :: rest =>
    let n := o.number [c, d]
    if 0xDC00 ≤ n ∧ n < 0xE000 then
      .cons (Char.ofNat (0x10000 + high * 0x400 + (n - 0xDC00))) (utf16From o (at_ + 2) none rest)
    else .error ⟨"utf-16" ++ o.suffix, at_ - 2, [a, b], "illegal UTF-16 surrogate"⟩

/-- The text of bytes in UTF-16. A mark in front tells the order of bytes if that is not given. -/
def decodeUtf16 (order? : Option ByteOrder) (bytes : List UInt8) : Decoded :=
  match order?, bytes with
  | some o, bytes => utf16From o 0 none bytes
  | none, 0xFF :: 0xFE :: rest => utf16From .little 2 none rest
  | none, 0xFE :: 0xFF :: rest => utf16From .big 2 none rest
  | none, bytes => utf16From .little 0 none bytes

/-- The text of bytes in UTF-32 from some place on. -/
def utf32From (o : ByteOrder) : Nat → List UInt8 → Decoded
  | _, [] => .ok []
  | at_, a :: b :: c :: d :: rest =>
    let n := o.number [a, b, c, d]
    if 0xD800 ≤ n ∧ n < 0xE000 then
      .error ⟨"utf-32" ++ o.suffix, at_, [a, b, c, d],
        "code point in surrogate code point range(0xd800, 0xe000)"⟩
    else if 0x10FFFF < n then
      .error ⟨"utf-32" ++ o.suffix, at_, [a, b, c, d], "code point not in range(0x110000)"⟩
    else .cons (Char.ofNat n) (utf32From o (at_ + 4) rest)
  | at_, bytes => .error ⟨"utf-32" ++ o.suffix, at_, bytes, "truncated data"⟩

/-- The text of bytes in UTF-32. A mark in front tells the order of bytes if that is not given. -/
def decodeUtf32 (order? : Option ByteOrder) (bytes : List UInt8) : Decoded :=
  match order?, bytes with
  | some o, bytes => utf32From o 0 bytes
  | none, 0xFF :: 0xFE :: 0x00 :: 0x00 :: rest => utf32From .little 4 rest
  | none, 0x00 :: 0x00 :: 0xFE :: 0xFF :: rest => utf32From .big 4 rest
  | none, bytes => utf32From .little 0 bytes

/-! ## One byte for each character -/

/-- The text of bytes of which each is a character by itself, or none. -/
def decodeSingle (codec reason : String) (char? : UInt8 → Option Char) : Nat → List UInt8 → Decoded
  | _, [] => .ok []
  | at_, b :: rest =>
    match char? b with
    | some c => .cons c (decodeSingle codec reason char? (at_ + 1) rest)
    | none => .error ⟨codec, at_, [b], reason⟩

/-- The text of bytes in ASCII. -/
def decodeAscii (bytes : List UInt8) : Decoded :=
  decodeSingle "ascii" "ordinal not in range(128)"
    (fun b => if b < 128 then some (Char.ofNat b.toNat) else none) 0 bytes

/-- The text of bytes that are the code points of its characters. -/
def decodeLatin1 (bytes : List UInt8) : Decoded :=
  .ok (bytes.map fun b => Char.ofNat b.toNat)

/-! ## What stands at the start of bytes -/

/-- What stands at the start of some bytes. -/
inductive Head where
  /-- Some text, with the number of its bytes after the first. -/
  | text (s : List Char) (more : Nat)
  /-- So many bytes that make no text, with the reason. -/
  | fault (length : Nat) (reason : String)
  deriving DecidableEq, Repr, Inhabited

/-- The text of bytes from some place on, of which a number of bytes are to be skipped, given what
stands at the start of bytes in a state, with the state after it. -/
def decodeFrom {σ : Type} (codec : String) (head : σ → List UInt8 → Head × σ) :
    σ → Nat → Nat → List UInt8 → Decoded
  | _, _, _, [] => .ok []
  | state, at_, skip + 1, _ :: rest => decodeFrom codec head state (at_ + 1) skip rest
  | state, at_, 0, b :: rest =>
    match head state (b :: rest) with
    | (.text s more, next) => (decodeFrom codec head next (at_ + 1) more rest).map (s ++ ·)
    | (.fault length reason, _) => .error ⟨codec, at_, (b :: rest).take length, reason⟩

/-- The text of bytes, given what stands at the start of bytes. -/
def decodeBy (codec : String) (head : List UInt8 → Head) (bytes : List UInt8) : Decoded :=
  decodeFrom codec (fun (_ : Unit) bytes => (head bytes, ())) () 0 0 bytes

/-! ## Encoding -/

/-- The bytes of a character in UTF-8. -/
def utf8Bytes (c : Char) : List UInt8 :=
  let n := c.toNat
  if n < 0x80 then [n.toUInt8]
  else if n < 0x800 then [(0xC0 + n / 64).toUInt8, (0x80 + n % 64).toUInt8]
  else if n < 0x10000 then
    [(0xE0 + n / 4096).toUInt8, (0x80 + n / 64 % 64).toUInt8, (0x80 + n % 64).toUInt8]
  else
    [(0xF0 + n / 262144).toUInt8, (0x80 + n / 4096 % 64).toUInt8, (0x80 + n / 64 % 64).toUInt8,
      (0x80 + n % 64).toUInt8]

/-- The bytes of a text in UTF-8. -/
def encodeUtf8 (s : List Char) : List UInt8 := s.flatMap utf8Bytes

end Stencil.Text
