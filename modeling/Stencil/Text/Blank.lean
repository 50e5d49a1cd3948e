import Stencil.Text.CharRange

/-!
# Blank characters

The characters that separate things without being seen: the tag grammar asks for one on either
side of a tag's body, and a line made of nothing else counts as blank.

The set has 29 characters, some of them outside ASCII. The zero-width space, the byte order mark
and the soft hyphen are not among them.
-/

namespace Stencil.Text

/-- The blank characters, as intervals. -/
def blankRanges : CharRanges :=
  [
    (0x9, 0xD), (0x1C, 0x20), (0x85, 0x85), (0xA0, 0xA0), (0x1680, 0x1680), (0x2000, 0x200A),
    (0x2028, 0x2029), (0x202F, 0x202F), (0x205F, 0x205F), (0x3000, 0x3000)]

/-- Whether a character is blank. -/
def isBlank (c : Char) : Bool := blankRanges.contains c

/-- Whether a text has nothing but blank characters, as the empty text does. -/
def isBlankText (s : List Char) : Bool := s.all isBlank

/-- A text without its leading blanks. -/
def trimLeft (s : List Char) : List Char := s.dropWhile isBlank

/-- A text without its trailing blanks. -/
def trimRight (s : List Char) : List Char := (s.reverse.dropWhile isBlank).reverse

/-- A text without the blanks at either end. -/
def trim (s : List Char) : List Char := trimRight (trimLeft s)

end Stencil.Text
