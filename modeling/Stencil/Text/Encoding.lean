import Stencil.Text.CodePage.Dos
import Stencil.Text.CodePage.Iso
import Stencil.Text.CodePage.Mac
import Stencil.Text.CodePage.Mainframe
import Stencil.Text.CodePage.National
import Stencil.Text.CodePage.Windows
import Stencil.Text.EastAsian
import Stencil.Text.Escape
import Stencil.Text.Punycode
import Stencil.Text.Utf7

/-!
# Encodings and their names

An encoding has a proper name and further names. Capitals count as small letters, and what is
neither a letter nor a digit nor a point only keeps the parts of a name apart. A point does so too,
but not in a proper name. Some names belong to codings of bytes as other bytes; these make no text.

- `decode`: the text of bytes in the encoding of a name.
-/

namespace Stencil.Text

/-- An encoding of text. -/
inductive Encoding where
  | utf8 | utf8Signed | utf7 | ascii | latin1 | escapes | rawEscapes | punycode | hostName
  | utf16 (order? : Option ByteOrder)
  | utf32 (order? : Option ByteOrder)
  /-- Bytes that are characters by themselves. -/
  | page (p : CodePage)
  /-- Characters of several bytes. -/
  | eastAsian (decode : List UInt8 → Decoded)
  /-- An encoding that refuses all bytes. -/
  | undefined
  deriving Inhabited

/-- The names of the encodings that are not in tables of their own, the proper name first. -/
def Encoding.general : List (List String × Encoding) := [
  (["utf_8", "cp65001", "u8", "utf", "utf8", "utf8_ucs2", "utf8_ucs4"], .utf8),
  (["utf_8_sig"], .utf8Signed),
  (["utf_7", "u7", "unicode_1_1_utf_7", "utf7"], .utf7),
  (["ascii", "646", "ansi_x3.4_1968", "ansi_x3.4_1986", "ansi_x3_4_1968", "cp367", "csascii",
    "ibm367", "iso646_us", "iso_646.irv_1991", "iso_ir_6", "us", "us_ascii"], .ascii),
  (["latin_1", "8859", "cp819", "csisolatin1", "ibm819", "iso8859", "iso8859_1", "iso_8859_1",
    "iso_8859_1_1987", "iso_ir_100", "l1", "latin", "latin1"], .latin1),
  (["iso8859_1"], .latin1),
  (["charmap"], .latin1),
  (["utf_16", "u16", "utf16"], .utf16 none),
  (["utf_16_le", "unicodelittleunmarked", "utf_16le"], .utf16 (some .little)),
  (["utf_16_be", "unicodebigunmarked", "utf_16be"], .utf16 (some .big)),
  (["utf_32", "u32", "utf32"], .utf32 none),
  (["utf_32_le", "utf_32le"], .utf32 (some .little)),
  (["utf_32_be", "utf_32be"], .utf32 (some .big)),
  (["unicode_escape"], .escapes),
  (["raw_unicode_escape"], .rawEscapes),
  (["punycode"], .punycode),
  (["idna"], .hostName),
  (["undefined"], .undefined)]

/-- The code pages with their names. -/
def CodePage.all : List (List String × CodePage) :=
  isoPages ++ windowsPages ++ dosPages ++ macPages ++ mainframePages ++ nationalPages

/-- The names of each encoding, the proper name first. -/
def Encoding.table : List (List String × Encoding) :=
  general ++ CodePage.all.map (fun p => (p.1, .page p.2))
    ++ EastAsian.codings.map (fun c => (c.1, .eastAsian c.2))

/-- Names of codings that make no text, the proper name of each first. -/
def otherCodings : List (List String) := [
  ["base64_codec", "base64", "base_64"], ["bz2_codec", "bz2"], ["hex_codec", "hex"],
  ["quopri_codec", "quopri", "quoted_printable", "quotedprintable"], ["rot_13", "rot13"],
  ["uu_codec", "uu"], ["zlib_codec", "zip", "zlib"]]

/-- A name in the form of the tables, given whether its last character so far was a separator. -/
def plainNameFrom : Bool → List Char → List Char
  | _, [] => []
  | apart, c :: rest =>
    if c.isAlphanum || c = '.' then
      (if apart then ['_', c.toLower] else [c.toLower]) ++ plainNameFrom false rest
    else plainNameFrom true rest

/-- A name in the form of the tables: small letters, digits and points, with single underscores
between its parts. -/
def plainName (name : List Char) : String :=
  String.ofList (plainNameFrom false (name.dropWhile fun c => !(c.isAlphanum || c = '.')))

/-- Whether a name in the form of the tables is one of some names, of which the first is proper. -/
def isNamed (name : String) (names : List String) : Bool :=
  let undotted := String.ofList (name.toList.map fun c => if c = '.' then '_' else c)
  names.head? = some name || names.tail.contains name || names.tail.contains undotted

/-- The encoding of a name. -/
def Encoding.ofName? (name : List Char) : Option Encoding :=
  (Encoding.table.find? fun e => isNamed (plainName name) e.1).map (·.2)

/-- The text of bytes in an encoding. -/
def Encoding.decode (e : Encoding) (bytes : List UInt8) : Except Refusal (List Char) :=
  match e with
  | utf8 => (decodeUtf8 bytes).orRefusal
  | utf8Signed => (decodeUtf8Signed bytes).orRefusal
  | ascii => (decodeAscii bytes).orRefusal
  | latin1 => (decodeLatin1 bytes).orRefusal
  | utf16 order? => (decodeUtf16 order? bytes).orRefusal
  | utf32 order? => (decodeUtf32 order? bytes).orRefusal
  | utf7 => (decodeUtf7 bytes).orRefusal
  | escapes => (decodeEscapes bytes).orRefusal
  | rawEscapes => (decodeRawEscapes bytes).orRefusal
  | page p =>
    (decodeSingle "charmap" "character maps to <undefined>" p.char? 0 bytes).orRefusal
  | eastAsian decode => (decode bytes).orRefusal
  | punycode => decodePunycode bytes
  | hostName => decodeHostName bytes
  | undefined => .error (.reason "undefined encoding")

/-- Why bytes have no text. -/
inductive EncodingFault where
  /-- Bytes that make no character. -/
  | bytes (f : DecodeFault)
  /-- A name of no encoding. -/
  | unknown (name : List Char)
  /-- A name of a coding that makes no text. -/
  | noText (name : List Char)
  /-- The name of an encoding that refuses the bytes, and its reason. -/
  | refused (name : List Char) (reason : String)
  /-- A name with a null character in it. -/
  | nullName
  deriving DecidableEq, Repr, Inhabited

/-- The message of a fault. -/
def EncodingFault.message : EncodingFault → List Char
  | bytes f => f.message.toList
  | unknown name => "unknown encoding: ".toList ++ name
  | noText name =>
    '\'' :: name ++
      "' is not a text encoding; use codecs.decode() to handle arbitrary codecs".toList
  | refused name reason =>
    "decoding with '".toList ++ name ++ "' codec failed (UnicodeError: ".toList ++ reason.toList
      ++ [')']
  | nullName => "embedded null character".toList

/-- The text of bytes in the encoding of a name. No bytes are no text in any encoding. -/
def decode (name : List Char) (bytes : List UInt8) : Except EncodingFault (List Char) :=
  if name.contains '\x00' then .error .nullName
  else if bytes = [] then .ok []
  else
    match Encoding.ofName? name with
    | some e =>
      (e.decode bytes).mapError fun
        | .bytes f => .bytes f
        | .reason r => .refused name r
    | none =>
      if otherCodings.any (isNamed (plainName name)) then .error (.noText name)
      else .error (.unknown name)

end Stencil.Text
