import Stencil.Text.Blank
import Stencil.Text.Line

/-!
# The margin of a tag's code

The code of a tag may span several lines, indented as the template's author likes. `realign` takes
off the blanks that all its lines share, and tells the blank lines around the code apart from the
code, so that they can be laid out as line feeds.
-/

namespace Stencil.Program

open Text

/-- Code without its margin. -/
structure Aligned where
  /-- The number of blank lines before the code. -/
  before : Nat
  /-- The lines of the code. A blank line among them is empty. -/
  code : List (List Char)
  /-- The number of blank lines after the code. -/
  after : Nat
  deriving DecidableEq, Repr, Inhabited

/-- The number of blanks with which a line starts. -/
def indentation (line : List Char) : Nat := (line.takeWhile isBlank).length

/-- The least indentation of the lines that are not blank, if there is one. -/
def margin? (lines : List (List Char)) : Option Nat :=
  ((lines.filter (! isBlankText ·)).map indentation).min?

/-- A line less a margin, or nothing if it is blank. -/
def cutMargin (margin : Nat) (line : List Char) : List Char :=
  if isBlankText line then [] else line.drop margin

/-- Removes blank lines from the end. -/
def dropBlankEnd (lines : List (List Char)) : List (List Char) :=
  (lines.reverse.dropWhile isBlankText).reverse

/-- Takes the common margin off the lines of a text. A text of blank lines has no code, and all its
line feeds count as coming before it. -/
def realign (body : List Char) : Aligned :=
  let lines := splitLines body
  match margin? lines with
  | none => ⟨lines.length - 1, [], 0⟩
  | some margin =>
    let inner := lines.dropWhile isBlankText
    let code := dropBlankEnd inner
    ⟨lines.length - inner.length, code.map (cutMargin margin), inner.length - code.length⟩

end Stencil.Program
