/-!
# Places in a YAML text

A cursor is what is left of a text, with its place: the number of characters before it, its line and
its column. Five characters break lines; a carriage return and a line feed together are one break.

The end of a text reads as a null character, which no text has.

- `Cursor.next`: the cursor behind the next character.
- `Cursor.lineBreak`: a line break in its plain form, and the cursor behind it.
-/

namespace Stencil.Yaml

/-- The character that is read at the end. -/
def endMark : Char := '\x00'

/-- Whether a character breaks a line. -/
def isBreak (c : Char) : Bool :=
  c = '\n' || c = '\r' || c = '\x85' || c = '\u2028' || c = '\u2029'

/-- Whether a line ends at a character. -/
def endsLine (c : Char) : Bool := c = endMark || isBreak c

/-- Whether a word ends at a character: a blank, a line break or the end. -/
def endsWord (c : Char) : Bool := c = ' ' || endsLine c

/-- Whether a word ends at a character, where tabs end words too. -/
def isSeparator (c : Char) : Bool := c = '\t' || endsWord c

/-- What is left of a text, and where. -/
structure Cursor where
  /-- The characters that are left. -/
  rest : List Char
  /-- The number of characters before them. -/
  index : Nat
  /-- The number of line breaks before them. -/
  line : Nat
  /-- The number of characters before them on their line. -/
  column : Nat
  deriving DecidableEq, Repr, Inhabited

namespace Cursor

/-- The cursor at the start of a text. -/
def start (s : List Char) : Cursor := ⟨s, 0, 0, 0⟩

/-- The next character. -/
def peek (c : Cursor) : Char := c.rest.headD endMark

/-- The character some places further. -/
def peekAt (n : Nat) (c : Cursor) : Char := (c.rest[n]?).getD endMark

/-- The cursor behind the next character. A byte order mark takes no column. -/
def next (c : Cursor) : Cursor :=
  match c.rest with
  | [] => c
  | x :: rest =>
    if isBreak x && !(x = '\r' && rest.head? = some '\n') then ⟨rest, c.index + 1, c.line + 1, 0⟩
    else ⟨rest, c.index + 1, c.line, if x = '\uFEFF' then c.column else c.column + 1⟩

/-- The cursor some characters further. -/
def skip : Nat → Cursor → Cursor
  | 0, c => c
  | n + 1, c => skip n c.next

/-- The characters of some kind at a cursor. -/
def span (kind : Char → Bool) (c : Cursor) : List Char := c.rest.takeWhile kind

/-- The cursor behind the characters of some kind. -/
def skipWhile (kind : Char → Bool) (c : Cursor) : Cursor := c.skip (c.span kind).length

/-- Blanks skipped. -/
def skipBlanks (c : Cursor) : Cursor := c.skipWhile (· = ' ')

/-- The rest of the line skipped. -/
def skipLine (c : Cursor) : Cursor := c.skipWhile fun x => !isBreak x

/-- A comment skipped, if there is one. -/
def skipComment (c : Cursor) : Cursor := if c.peek = '#' then c.skipLine else c

/-- A line break, and the cursor behind it. Breaks of single lines are line feeds; there is no text
if there is no break. -/
def lineBreak (c : Cursor) : List Char × Cursor :=
  match c.rest with
  | '\r' :: '\n' :: _ => (['\n'], c.next.next)
  | x :: _ =>
    if x = '\u2028' || x = '\u2029' then ([x], c.next)
    else if isBreak x then (['\n'], c.next)
    else ([], c)
  | [] => ([], c)

/-- Whether a document starts or ends here, given that this is the start of a line. -/
def atMarker (c : Cursor) : Bool :=
  (c.rest.take 3 = ['-', '-', '-'] || c.rest.take 3 = ['.', '.', '.']) && isSeparator (c.peekAt 3)

/-- Only a comment may stand before the end of the line; the cursor behind the line's end. -/
def endLine? (c : Cursor) : Option Cursor :=
  let c := c.skipBlanks.skipComment
  if endsLine c.peek then some c.lineBreak.2 else none

end Cursor

end Stencil.Yaml
