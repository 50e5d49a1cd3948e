/-!
# Code pages

Encodings in which every byte is a character by itself. A code page lists the characters of the
bytes from 0 on; the sign for replaced characters stands for a byte without one. Most pages have
ASCII in their lower half.

- `CodePage.char?`: the character of a byte.
-/

namespace Stencil.Text

/-- A code page: the characters of the bytes from 0 on. -/
structure CodePage where
  /-- The characters. -/
  chars : List Char
  deriving DecidableEq, Repr, Inhabited

namespace CodePage

/-- The sign for a byte without a character. -/
def missing : Char := '\ufffd'

/-- The page of a text with the characters of all bytes. -/
def ofText (s : String) : CodePage := ⟨s.toList⟩

/-- Some characters in a row, given their numbers. -/
def charsFrom (start count : Nat) : List Char :=
  (List.range count).map fun i => Char.ofNat (start + i)

/-- The page of a text with the characters of the bytes from 128 on; those below are ASCII. -/
def overAscii (s : String) : CodePage := ⟨charsFrom 0 128 ++ s.toList⟩

/-- The page of a text with the characters of the bytes from 160 on; those below are ASCII and
control characters. -/
def overControls (s : String) : CodePage := ⟨charsFrom 0 160 ++ s.toList⟩

/-- The character of a byte. -/
def char? (p : CodePage) (b : UInt8) : Option Char := p.chars[b.toNat]?.filter (· ≠ missing)

end CodePage

end Stencil.Text
