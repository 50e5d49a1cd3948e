import Stencil.Text.CodePage.Iso
import Stencil.Text.EastAsian.Japan
import Stencil.Text.EastAsian.Korea
import Stencil.Text.EastAsian.MainlandChina

/-!
# Encodings that switch between sets of characters

All bytes are below 128. An escape sequence chooses a set of characters for one of three places; the
characters that follow are of the set in the first place. Where the encoding has shifts, a shift
byte changes to the second place and back. One character of the set in the third place can follow an
escape sequence of its own.

- `Charset.text?`: the characters of bytes in a set.
- `Switching.head`: what stands at the start of bytes in a state, with the state after it.
- `Switching.decode`: the text of bytes.
-/

namespace Stencil.Text

namespace EastAsian

/-! ## Sets -/

/-- A set of characters, by the last byte of the sequences that choose it. -/
inductive Charset where
  /-- A set in which a character has one byte. -/
  | single (final : Char)
  /-- A set in which a character has two bytes. -/
  | double (final : Char)
  deriving DecidableEq, Repr, Inhabited

namespace Charset

/-- ASCII. -/
def ascii : Charset := single 'B'

/-- The characters of a pair in the first plane of the later standard. -/
def firstPlane? (e : Edition) (a b : UInt8) : Option (List Char) :=
  if 0x21 ≤ a ∧ 0x21 ≤ b ∧ b ≤ 0x7E then e.firstPlane? (offset a 0x21) (offset b 0x21) else none

/-- The character of a pair with high bits in the second plane of the later standard. -/
def secondPlane? (a b : UInt8) : Option Char :=
  Edition.revised.secondPlane? (offset a 0xA1) (offset b 0xA1)

/-- The characters of a byte and the byte after it in a set. Some sets have characters in the third
place only. -/
def text? (s : Charset) (a b : UInt8) : Option (List Char) :=
  match s with
  | single 'B' => some [Char.ofNat a.toNat]
  | single 'J' => some [roman a]
  | single 'I' => (narrow? (a + 0x80)).map ([·])
  | double 'A' => (lowPair? oldest? a b).map ([·])
  | double 'B' | double '@' => (lowPair? (square? Grid.japanese) a b).map ([·])
  | double 'C' => (lowPair? (square? Grid.korean) a b).map ([·])
  | double 'D' => (lowPair? (square? Grid.japaneseSupplement) a b).map ([·])
  | double 'O' => firstPlane? .first a b
  | double 'Q' => firstPlane? .revised a b
  | double 'P' => (lowPair? secondPlane? a b).map ([·])
  | _ => none

/-- The character of a byte of a set in the third place. A byte with its high bit set stands for one
of the lower half of a page. -/
def third? (s : Charset) (a : UInt8) : Option Char :=
  match s with
  | single 'A' => if a < 0x80 then some (Char.ofNat (a.toNat + 0x80)) else none
  | single 'F' =>
    (CodePage.greek.char? (a ^^^ 0x80)).filter fun c => c ≠ '€' && c ≠ '₯' && c ≠ 'ͺ'
  | single 'B' => if a < 0x80 then some (Char.ofNat a.toNat) else none
  | _ => none

end Charset

/-! ## Escape sequences -/

/-- Whether a byte ends an escape sequence. -/
def isFinal (b : UInt8) : Bool := 0x40 ≤ b && b ≤ 0x5A

/-- An encoding that switches between sets. -/
structure Switching where
  /-- Its name, as messages have it. -/
  codec : String
  /-- The sets that can be chosen besides ASCII. -/
  sets : List Charset
  /-- Whether there are shifts. -/
  hasShifts : Bool
  /-- Whether there is a third place. -/
  hasThird : Bool
  deriving DecidableEq, Repr, Inhabited

/-- What is known between two characters. -/
structure Switches where
  /-- The set in the first place. -/
  first : Charset
  /-- The set in the second place. -/
  second : Charset
  /-- The set in the third place. -/
  third : Charset
  /-- Whether characters are of the set in the second place. -/
  shifted : Bool
  /-- Whether this is within an escape sequence that chooses no set. It is text. -/
  within : Bool
  deriving DecidableEq, Repr, Inhabited

/-- At first ASCII is chosen everywhere. -/
def Switches.start : Switches := ⟨.ascii, .ascii, .ascii, false, false⟩

/-- How far an escape sequence goes. -/
inductive Extent where
  /-- So many bytes. -/
  | length (n : Nat)
  /-- Further than the bytes. -/
  | unfinished
  /-- Further than any sequence. -/
  | endless
  deriving DecidableEq, Repr, Inhabited

namespace Switching

/-- Whether a sequence may announce a newer form of a set. -/
def hasRevisions (c : Switching) : Bool := !c.hasShifts

/-- How far an escape sequence goes, of which some bytes have been looked at and some more are to be
skipped. The announcement of a newer form hides the byte behind it. -/
def extent (c : Switching) (seen skip : Nat) : List UInt8 → Extent
  | [] => if 16 ≤ seen + skip then .endless else .unfinished
  | b :: rest =>
    if 16 ≤ seen then .endless
    else if 0 < skip then extent c (seen + 1) (skip - 1) rest
    else if isFinal b then .length (seen + 1)
    else if c.hasRevisions && b = 0x26 && rest.head? = some 0x40 then extent c (seen + 1) 2 rest
    else extent c (seen + 1) 0 rest

/-- The set that a sequence without its first byte chooses, and what chooses it. -/
def choice? (c : Switching) (sequence : List UInt8) (s : Switches) : Option (Charset × Switches) :=
  let single := fun (b : UInt8) => Charset.single (Char.ofNat b.toNat)
  let double := fun (b : UInt8) => Charset.double (Char.ofNat b.toNat)
  match sequence with
  | [0x24, f] => some (double f, { s with first := double f })
  | [0x28, f] => some (single f, { s with first := single f })
  | [0x29, f] => some (single f, { s with second := single f })
  | [0x2E, f] => if c.hasThird then some (single f, { s with third := single f }) else none
  | [0x24, 0x28, f] => some (double f, { s with first := double f })
  | [0x24, 0x29, f] => some (double f, { s with second := double f })
  | [_, _, 0x1B, 0x24, 0x42] =>
    if c.hasRevisions then some (double 0x42, { s with first := double 0x42 }) else none
  | _ => none

/-- What an escape sequence is, given what is behind its first byte. -/
def escape (c : Switching) (s : Switches) (rest : List UInt8) : Head × Switches :=
  match c.extent 1 0 rest with
  | .unfinished => (incomplete (0x1B :: rest), s)
  | .endless => (illegal, s)
  | .length n =>
    match c.choice? (rest.take (n - 1)) s with
    | some (set, next) =>
      if set = .ascii ∨ set ∈ c.sets then (.text [] (n - 1), next)
      else (.fault n "illegal multibyte sequence", s)
    | none => (.fault n "illegal multibyte sequence", s)

/-- What an escape byte starts, given what is behind it. -/
def afterEscape (c : Switching) (s : Switches) (rest : List UInt8) : Head × Switches :=
  match rest with
  | [] => (incomplete [0x1B], s)
  | b :: behind =>
    if [0x28, 0x29, 0x24, 0x2E, 0x26].contains b then c.escape s rest
    else if c.hasThird && b = 0x4E then
      match behind with
      | [] => (incomplete (0x1B :: rest), s)
      | a :: _ =>
        match s.third.third? a with
        | some c => (.text [c] 2, s)
        | none => (.fault 3 "illegal multibyte sequence", s)
    else (.text ['\x1b'] 0, { s with within := true })

/-- What a printing byte starts, given what is behind it. -/
def printing (s : Switches) (a : UInt8) (rest : List UInt8) : Head :=
  let set := if s.shifted then s.second else s.first
  match set, rest with
  | .single _, _ =>
    match set.text? a 0 with
    | some t => .text t 0
    | none => illegal
  | .double _, [] => incomplete [a]
  | .double _, b :: _ =>
    match set.text? a b with
    | some t => .text t 1
    | none => .fault 2 "illegal multibyte sequence"

/-- What stands at the start of bytes in a state, with the state after it. The end of a line ends a
shift. -/
def head (c : Switching) (s : Switches) (bytes : List UInt8) : Head × Switches :=
  match bytes with
  | [] => (incomplete [], s)
  | a :: rest =>
    let itself := Head.text [Char.ofNat a.toNat] 0
    if s.within then (itself, { s with within := !isFinal a })
    else if a = 0x1B then c.afterEscape s rest
    else if a = 0x0F ∧ c.hasShifts then (.text [] 0, { s with shifted := false })
    else if a = 0x0E ∧ c.hasShifts then (.text [] 0, { s with shifted := true })
    else if a = 0x0A then (itself, { s with shifted := false })
    else if a < 0x20 then (itself, s)
    else if 0x80 ≤ a then (illegal, s)
    else (printing s a rest, s)

/-- The text of bytes. -/
def decode (c : Switching) (bytes : List UInt8) : Decoded :=
  decodeFrom c.codec c.head .start 0 0 bytes

/-- The encodings that switch between sets, with their names. -/
def all : List (List String × Switching) := [
  (["iso2022_kr", "csiso2022kr", "iso2022kr", "iso_2022_kr"],
    ⟨"iso2022_kr", [.double 'C'], true, false⟩),
  (["iso2022_jp", "csiso2022jp", "iso2022jp", "iso_2022_jp"],
    ⟨"iso2022_jp", [.double 'B', .single 'J', .double '@'], false, false⟩),
  (["iso2022_jp_1", "iso2022jp_1", "iso_2022_jp_1"],
    ⟨"iso2022_jp_1", [.double 'B', .double 'D', .single 'J', .double '@'], false, false⟩),
  (["iso2022_jp_2", "iso2022jp_2", "iso_2022_jp_2"],
    ⟨"iso2022_jp_2", [.double 'B', .double 'D', .double 'C', .double 'A', .single 'J', .double '@',
      .single 'A', .single 'F'], false, true⟩),
  (["iso2022_jp_ext", "iso2022jp_ext", "iso_2022_jp_ext"],
    ⟨"iso2022_jp_ext", [.double 'B', .double 'D', .single 'J', .single 'I', .double '@'], false,
      false⟩),
  (["iso2022_jp_3", "iso2022jp_3", "iso_2022_jp_3"],
    ⟨"iso2022_jp_3", [.double 'B', .double 'O', .double 'P'], false, false⟩),
  (["iso2022_jp_2004", "iso2022jp_2004", "iso_2022_jp_2004"],
    ⟨"iso2022_jp_2004", [.double 'B', .double 'Q', .double 'P'], false, false⟩)]

end Switching

end EastAsian

end Stencil.Text
