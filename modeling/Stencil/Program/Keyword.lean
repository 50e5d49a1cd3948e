import Stencil.Text.Blank
import Stencil.Text.Word

/-!
# Keywords at the start of a line

The layout of a program depends on the first word of a line: some headers cannot share a line with
another statement, and some continue the block before them. A keyword counts only as a whole word.
-/

namespace Stencil.Program

open Text

/-- What follows a keyword at the start of a line, if the line starts with it as a whole word. -/
def afterWord? (word line : List Char) : Option (List Char) :=
  if word.isPrefixOf line then
    let rest := line.drop word.length
    match rest with
    | [] => some rest
    | c :: _ => if isWord c then none else some rest
  else none

/-- Whether a line starts with one of the words. -/
def startsWithWord (words : List String) (line : List Char) : Bool :=
  words.any fun w => (afterWord? w.toList line).isSome

/-- Words that start a header which has to stand on a line of its own. -/
def compoundWords : List String :=
  ["if", "elif", "else", "for", "while", "with", "try", "except", "finally", "def", "class",
    "match", "case"]

/-- Words that close the current block and open a sibling of it. -/
def siblingWords : List String := ["elif", "else", "except", "finally"]

/-- Whether a line is a compound header: one of the words, with `async` and blanks in front of it or
not, or a decorator. -/
def isCompound (line : List Char) : Bool :=
  line.head? = some '@' || startsWithWord compoundWords line ||
    match line with
    | 'a' :: 's' :: 'y' :: 'n' :: 'c' :: c :: rest =>
      isBlank c && startsWithWord compoundWords (trimLeft rest)
    | _ => false

/-- Whether a line ends with a character, trailing blanks apart. -/
def endsWith (c : Char) (line : List Char) : Bool := (trimRight line).getLast? = some c

/-- Whether a line opens a block. -/
def opensBlock (line : List Char) : Bool := endsWith ':' line

/-- Whether a line, trimmed, continues the block before it. -/
def isSibling (head : List Char) : Bool :=
  startsWithWord siblingWords head && head.getLast? = some ':'

/-- The word that closes a block. -/
def blockEnd : List Char := ['e', 'n', 'd']

end Stencil.Program
