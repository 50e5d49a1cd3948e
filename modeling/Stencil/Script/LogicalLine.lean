import Stencil.Script.Token

/-!
# Logical lines

A program is read character by character into logical lines. A logical line is the tokens of one
line of the program, or of several when a bracket is open at their end or a backslash stands there;
blank lines and comments make none. Its depth counts the indentations that are open: it grows by one
when a line starts further to the right than the one before, and each smaller indentation must be
one that is still open.

The reading is a fold, `Reading.step`, so reading a text in two parts is reading the one and then
the other. The first fault ends it.

- `Reading.run_append`: the fold property.
- `readLines`: the logical lines of a program, and how the reading ended.
-/

namespace Stencil.Script

/-- The tokens of a statement line. -/
structure LogicalLine where
  /-- The number of indentations open around it. -/
  depth : Nat
  /-- The line of the program on which it starts. -/
  line : Nat
  /-- The line of the program on which it ends. -/
  last : Nat
  /-- Its tokens. -/
  lexemes : List Lexeme
  deriving DecidableEq, Repr, Inhabited

/-- The width of an indentation: with tabs that reach to multiples of eight, and with tabs as wide
as one space. Two indentations have to compare alike in both. -/
structure Indentation where
  /-- The width with wide tabs. -/
  wide : Nat
  /-- The width with narrow tabs. -/
  narrow : Nat
  deriving DecidableEq, Repr, Inhabited

/-- What stopped a reading. -/
inductive ReadFault where
  /-- Characters that make no token. -/
  | token (line : Nat)
  /-- An indentation that fits none of the open ones. -/
  | indentation (line : Nat)
  /-- A backslash without a line break behind it, or with no line after that. -/
  | continuation (line : Nat)
  deriving DecidableEq, Repr, Inhabited

/-- Where in a token a reading stands. -/
inductive Mode where
  /-- At the start of a line, counting its indentation. -/
  | margin (indentation : Indentation)
  /-- At the start of a line whose indentation is that of the line before, which a backslash
  continues. -/
  | innerMargin (indentation : Indentation)
  /-- Between two tokens. -/
  | between
  /-- In a comment. The flag tells whether the line has tokens or an open bracket. -/
  | comment (inLine : Bool)
  /-- After a backslash that continues the line. The indentation is that of a line which has no
  token yet. -/
  | continued (margin? : Option Indentation)
  /-- At the start of the line after such a backslash. -/
  | resumed (margin? : Option Indentation)
  /-- In a word; its characters so far, last first. -/
  | word (read : List Char)
  /-- In a number. -/
  | number (read : List Char)
  /-- In a symbol. -/
  | symbol (read : List Char)
  /-- In a quoted text: the quote and what has been read, last first. -/
  | text (quote : Char) (read : List Char)
  /-- After a backslash in a quoted text. -/
  | escape (quote : Char) (read : List Char)
  /-- In the digits of an escape: how many are to come, and the value of those read. -/
  | hexadecimal (quote : Char) (read : List Char) (digits value : Nat)
  /-- In an octal escape. -/
  | octal (quote : Char) (read : List Char) (digits value : Nat)
  /-- Stopped by a fault. -/
  | stopped (fault : ReadFault)
  deriving DecidableEq, Repr, Inhabited

/-- The state of a reading. -/
structure Reading where
  /-- The finished lines, last first. -/
  lines : List LogicalLine
  /-- The tokens of the current line, last first. -/
  lexemes : List Lexeme
  /-- The line of the program on which the current logical line starts. -/
  start : Nat
  /-- The open indentations, innermost first. -/
  indents : List Indentation
  /-- The open brackets and their lines, innermost first. -/
  brackets : List (Symbol × Nat)
  /-- The current line of the program. -/
  row : Nat
  /-- The line of the program on which the current token starts. -/
  tokenRow : Nat
  /-- Where in a token the reading stands. -/
  mode : Mode
  deriving DecidableEq, Repr, Inhabited

namespace Reading

/-- The state before the first character. -/
def initial : Reading := ⟨[], [], 1, [], [], 1, 1, .margin ⟨0, 0⟩⟩

/-- Stops at a token fault on the current line. -/
def fail (r : Reading) : Reading := { r with mode := .stopped (.token r.row) }

/-- Stops at a token fault on the line on which the token starts. -/
def failAtStart (r : Reading) : Reading := { r with mode := .stopped (.token r.tokenRow) }

/-- Adds a token to the current line. -/
def push (t : Token) (r : Reading) : Reading :=
  { r with lexemes := ⟨t, r.tokenRow⟩ :: r.lexemes, mode := .between }

/-- Adds a symbol, and opens or closes a bracket with it. -/
def pushSymbol (s : Symbol) (r : Reading) : Reading :=
  match s.partner? with
  | some closing => { r.push (.symbol s) with brackets := (closing, r.row) :: r.brackets }
  | none =>
    if s.closes then
      match r.brackets with
      | (closing, _) :: outer =>
        if closing = s then { r.push (.symbol s) with brackets := outer } else r.fail
      | [] => r.fail
    else r.push (.symbol s)

/-- Adds the symbol that has been read, if it is one. -/
def endSymbol (read : List Char) (r : Reading) : Reading :=
  match Symbol.ofSpelling? read.reverse with
  | some s => r.pushSymbol s
  | none => r.fail

/-- Adds the number that has been read, if it is one. -/
def endNumber (read : List Char) (r : Reading) : Reading :=
  match Token.ofNumber? read.reverse with
  | some t => r.push t
  | none => r.fail

/-- Goes on to the next line of the program. With a bracket open the logical line goes on too. -/
def newline (r : Reading) : Reading :=
  if r.brackets ≠ [] then { r with row := r.row + 1, mode := .between }
  else
    let line := ⟨r.indents.length, r.start, r.row, r.lexemes.reverse⟩
    { r with lines := line :: r.lines, lexemes := [], row := r.row + 1, mode := .margin ⟨0, 0⟩ }

/-- Whether a character only keeps tokens apart. -/
def isIndent (c : Char) : Bool := c = ' ' || c = '\t' || c = '\x0c'

/-- Takes a character that starts a token, or stands between two. -/
def startToken (c : Char) (r : Reading) : Reading :=
  let r := { r with tokenRow := r.row }
  if isIndent c then { r with mode := .between }
  else if c = '\n' then r.newline
  else if c = '#' then { r with mode := .comment true }
  else if c = '\\' then { r with mode := .continued none }
  else if c = '\'' ∨ c = '"' then { r with mode := .text c [] }
  else if c.isDigit then { r with mode := .number [c] }
  else if isNameStart c then { r with mode := .word [c] }
  else if Symbol.longer [c] then { r with mode := .symbol [c] }
  else r.endSymbol [c]

/-- The open indentations that are wider than the given one are closed. -/
def closeIndents (i : Indentation) (open_ : List Indentation) : List Indentation :=
  open_.dropWhile fun j => i.wide < j.wide

/-- Starts a logical line with an indentation. -/
def startLine (i : Indentation) (r : Reading) : Reading :=
  let r := { r with start := r.row }
  let top := r.indents.headD ⟨0, 0⟩
  let misfit := { r with mode := .stopped (.indentation r.row) }
  if top.wide < i.wide then
    if top.narrow < i.narrow then { r with indents := i :: r.indents } else misfit
  else
    let rest := closeIndents i r.indents
    if rest.headD ⟨0, 0⟩ = i then { r with indents := rest } else misfit

/-- Whether a logical line has been started. -/
def inLine (r : Reading) : Bool := r.lexemes ≠ [] || r.brackets ≠ []

/-- The indentation one character further. -/
def widen (c : Char) (i : Indentation) : Indentation :=
  if c = '\t' then ⟨(i.wide / 8 + 1) * 8, i.narrow + 1⟩
  else if c = '\x0c' then ⟨0, 0⟩
  else ⟨i.wide + 1, i.narrow + 1⟩

/-- Whether a character goes on with a number of which some has been read, last first. A point does
so only after plain digits. -/
def extendsNumber (read : List Char) (c : Char) : Bool :=
  c.isAlphanum || c = '_' || (c = '.' && read.all fun d => d.isDigit || d = '_') ||
    ((c = '+' || c = '-') && (read.head?.map Char.toLower) = some 'e'
      && !(read.any fun d => d.toLower = 'x'))

/-- The character a one-letter escape stands for. -/
def simpleEscape? (c : Char) : Option Char :=
  [('\\', '\\'), ('\'', '\''), ('"', '"'), ('n', '\n'), ('r', '\r'), ('t', '\t'),
    ('a', '\x07'), ('b', '\x08'), ('f', '\x0c'), ('v', '\x0b')].lookup c

/-- Takes a character after a backslash in a quoted text. An escape without a meaning stays as it
is, backslash and all. -/
def takeEscape (quote : Char) (read : List Char) (c : Char) (r : Reading) : Reading :=
  match simpleEscape? c with
  | some plain => { r with mode := .text quote (plain :: read) }
  | none =>
    if c = '\n' then { r with row := r.row + 1, mode := .text quote read }
    else if c = 'x' then { r with mode := .hexadecimal quote read 2 0 }
    else if c = 'u' then { r with mode := .hexadecimal quote read 4 0 }
    else if c = 'U' then { r with mode := .hexadecimal quote read 8 0 }
    else if '0' ≤ c ∧ c ≤ '7' then { r with mode := .octal quote read 2 (c.toNat - '0'.toNat) }
    else if c = 'N' then r.fail
    else { r with mode := .text quote (c :: '\\' :: read) }

/-- Takes a character of a quoted text. -/
def takeText (quote : Char) (read : List Char) (c : Char) (r : Reading) : Reading :=
  if c = quote then r.push (.text read.reverse)
  else if c = '\\' then { r with mode := .escape quote read }
  else if c = '\n' then r.failAtStart
  else { r with mode := .text quote (c :: read) }

/-- Takes a character after an indentation. -/
def endMargin (i : Indentation) (r : Reading) (c : Char) : Reading :=
  if c = '\n' then { r with row := r.row + 1, mode := .margin ⟨0, 0⟩ }
  else if c = '#' then { r with mode := .comment false }
  else if c = '\\' then { r with mode := .continued (some i) }
  else
    let r := r.startLine i
    match r.mode with
    | .stopped _ => r
    | _ => r.startToken c

/-- Takes a character of an indentation, or after it. -/
def takeMargin (i : Indentation) (r : Reading) (c : Char) : Reading :=
  if isIndent c then { r with mode := .margin (widen c i) } else r.endMargin i c

/-- Takes a character of an indentation that a backslash has split. What stands before the backslash
counts, if there is anything. -/
def takeInnerMargin (i : Indentation) (r : Reading) (c : Char) : Reading :=
  if i.wide = 0 then r.takeMargin i c
  else if isIndent c then { r with mode := .innerMargin i }
  else r.endMargin i c

/-- Takes one character. -/
def step (r : Reading) (c : Char) : Reading :=
  match r.mode with
  | .stopped _ => r
  | .margin i => r.takeMargin i c
  | .innerMargin i => r.takeInnerMargin i c
  | .between => r.startToken c
  | .comment inLine =>
    if c ≠ '\n' then r
    else if inLine then r.newline
    else { r with row := r.row + 1, mode := .margin ⟨0, 0⟩ }
  | .continued margin? =>
    if c = '\n' then { r with row := r.row + 1, mode := .resumed margin? }
    else { r with mode := .stopped (.continuation r.row) }
  | .resumed none => r.startToken c
  | .resumed (some i) => r.takeInnerMargin i c
  | .word read =>
    if Text.isWord c then { r with mode := .word (c :: read) }
    else (r.push (.ofWord read.reverse)).startToken c
  | .number read =>
    if extendsNumber read c then { r with mode := .number (c :: read) }
    else
      let r := r.endNumber read
      match r.mode with
      | .stopped _ => r
      | _ => r.startToken c
  | .symbol read =>
    if read = ['.'] ∧ c.isDigit then { r with mode := .number [c, '.'] }
    else if Symbol.longer (c :: read).reverse
        || (Symbol.ofSpelling? (c :: read).reverse).isSome then
      { r with mode := .symbol (c :: read) }
    else
      let r := r.endSymbol read
      match r.mode with
      | .stopped _ => r
      | _ => r.startToken c
  | .text quote read => r.takeText quote read c
  | .escape quote read => r.takeEscape quote read c
  | .hexadecimal quote read digits value =>
    match digitValue? c with
    | none => r.fail
    | some d =>
      let value := value * 16 + d
      if 1 < digits then { r with mode := .hexadecimal quote read (digits - 1) value }
      else if 0x10FFFF < value then r.fail
      else { r with mode := .text quote (Char.ofNat value :: read) }
  | .octal quote read digits value =>
    if '0' ≤ c ∧ c ≤ '7' ∧ 0 < digits then
      { r with mode := .octal quote read (digits - 1) (value * 8 + (c.toNat - '0'.toNat)) }
    else r.takeText quote (Char.ofNat value :: read) c

/-- Takes the characters of a text. -/
def run (r : Reading) (s : List Char) : Reading := s.foldl step r

/-- Reading a text in two parts is reading the one and then the other. -/
theorem run_append (r : Reading) (s t : List Char) : r.run (s ++ t) = (r.run s).run t :=
  List.foldl_append

end Reading

/-- How the reading of a program ended. -/
structure Ending where
  /-- The line that was begun and not finished, if there is one. -/
  unfinished? : Option LogicalLine
  /-- The fault that ended it early. -/
  fault? : Option ReadFault
  /-- The line of the innermost bracket that was left open. -/
  openBracket? : Option Nat
  /-- The last line of the program. -/
  line : Nat
  deriving DecidableEq, Repr, Inhabited

/-- A text in which every line ends with a line feed alone: carriage returns, with a line feed or
without, count as line ends. -/
def unifyLines : List Char → List Char
  | [] => []
  | '\r' :: '\n' :: s => '\n' :: unifyLines s
  | '\r' :: s => '\n' :: unifyLines s
  | c :: s => c :: unifyLines s

/-- A text that ends with a line feed. -/
def endLine (s : List Char) : List Char := if s.getLast? = some '\n' then s else s ++ ['\n']

/-- How a reading ends in a state. -/
def Reading.ending (r : Reading) : Ending where
  unfinished? :=
    if r.inLine then some ⟨r.indents.length, r.start, r.row, r.lexemes.reverse⟩ else none
  fault? :=
    match r.mode with
    | .stopped f => some f
    | .continued _ | .resumed _ => some (.continuation (r.row - 1))
    | .text .. => some (.token r.tokenRow)
    | _ => none
  openBracket? := r.brackets.head?.map (·.2)
  line := r.row - 1

/-- The finished logical lines of a program, and how the reading ended. -/
def readLines (program : List Char) : List LogicalLine × Ending :=
  let r := Reading.initial.run (endLine (unifyLines program))
  (r.lines.reverse, r.ending)

end Stencil.Script
