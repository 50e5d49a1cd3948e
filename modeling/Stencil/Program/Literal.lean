import Stencil.Text.Quoted

/-!
# Text in programs

A program holds each piece of a template's text between single quotes on one line. Five characters
are written as escapes: the backslash, the single quote, the two line break characters and the
null character.
-/

namespace Stencil.Program

/-- A character as it stands inside a literal. -/
def escapeChar (c : Char) : List Char :=
  if c = '\\' then ['\\', '\\']
  else if c = '\'' then ['\\', '\'']
  else if c = '\n' then ['\\', 'n']
  else if c = '\r' then ['\\', 'r']
  else if c = '\x00' then ['\\', 'x', '0', '0']
  else [c]

/-- The five characters that are escaped, and the others. -/
@[elab_as_elim]
theorem escapeChar_cases {motive : Char → Prop} (c : Char) (slash : motive '\\')
    (quote : motive '\'') (lineFeed : motive '\n') (carriageReturn : motive '\r')
    (null : motive '\x00')
    (other : ∀ c, c ≠ '\\' → c ≠ '\'' → c ≠ '\n' → c ≠ '\r' → c ≠ '\x00' → escapeChar c = [c] →
      motive c) : motive c := by
  by_cases hSlash : c = '\\'
  · exact hSlash ▸ slash
  by_cases hQuote : c = '\''
  · exact hQuote ▸ quote
  by_cases hFeed : c = '\n'
  · exact hFeed ▸ lineFeed
  by_cases hReturn : c = '\r'
  · exact hReturn ▸ carriageReturn
  by_cases hNull : c = '\x00'
  · exact hNull ▸ null
  refine other c hSlash hQuote hFeed hReturn hNull ?_
  simp only [escapeChar, hSlash, hQuote, hFeed, hReturn, hNull, if_false]

/-- A text as a literal of a program. -/
def escapeLiteral (text : List Char) : List Char :=
  '\'' :: text.flatMap escapeChar ++ ['\'']

end Stencil.Program
