import Stencil.Text.Line
import Stencil.Text.Quoted

/-!
# Errors of the tag grammar

Brackets that do not make up a tag are refused, with the line on which they stand, the reason, and
an excerpt of the text around them.
-/

namespace Stencil.Template

open Text

/-- Why brackets do not make up a tag. -/
inductive TagFault where
  /-- Opening brackets that are not followed by a marker and a blank. -/
  | noBlankAfterStart
  /-- Closing brackets that are not preceded by a blank and a marker. -/
  | noBlankBeforeEnd
  /-- A tag that is not closed. -/
  | noEnd
  /-- Closing brackets outside of a tag. -/
  | strayEnd
  deriving DecidableEq, Repr, Inhabited

/-- The words for a fault. -/
def TagFault.reason : TagFault → String
  | noBlankAfterStart => "missing space after start marker [["
  | noBlankBeforeEnd => "missing space before end marker ]]"
  | noEnd => "missing ending marker ]]"
  | strayEnd => "extraneous end marker ]]"

/-- The first line of a text, cut after `limit` characters and quoted. Three dots stand for what
is left out, be it the end of the line or the lines after it. -/
def excerpt (limit : Nat) (s : List Char) : List Char :=
  let first := s.takeWhile (· ≠ '\n')
  if limit < first.length ∨ first.length < s.length then
    quoted (first.take limit ++ ['.', '.', '.'])
  else quoted first

/-- The most characters of a text that a message shows. -/
def excerptLimit : Nat := 40

/-- A refusal of the tag grammar. -/
structure TagError where
  /-- What is wrong. -/
  fault : TagFault
  /-- The line on which the offending brackets stand. -/
  line : Nat
  /-- The text to show an excerpt of. -/
  near : List Char
  deriving DecidableEq, Repr, Inhabited

/-- The message of a refusal. -/
def TagError.message (e : TagError) : String :=
  s!"Invalid tag on line {e.line}, {e.fault.reason} near "
    ++ String.ofList (excerpt excerptLimit e.near)

end Stencil.Template
