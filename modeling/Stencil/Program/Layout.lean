import Stencil.Program.Keyword
import Stencil.Program.Literal
import Stencil.Program.Margin
import Stencil.Template.Chunk

/-!
# Layout of a program's body

Chunks become statements on lines. Statements of one template line share a line of the program, with
`; ` between them. Line feeds of the template are kept as pending and are written before the next
statement. Where the program needs a line break that the template does not have, the extra line is
a debt, which later line feeds pay back.

A layout is a list of `Placed` statements, each with the line breaks before it, its indentation and
its lines; the text is written from that list.

- `lay`: the statements of some chunks, or the error of an unbalanced block.
- `Body.written`: the text of a laid out body.
-/

namespace Stencil.Program

open Text Template

/-- A block tag without its partner. -/
inductive BlockError where
  /-- A keyword that ends or continues a block where no block is open. -/
  | notOpen (keyword : List Char) (line : Int)
  /-- A block that is still open at the end. -/
  | notClosed (line : Int)
  deriving DecidableEq, Repr, Inhabited

/-- The line an error points at. -/
def BlockError.line : BlockError → Int
  | notOpen _ line => line
  | notClosed line => line

/-- The message of an error. -/
def BlockError.message : BlockError → String
  | notOpen keyword line => s!"'{String.ofList keyword}' on line {line} without an open block"
  | notClosed line =>
    s!"Block opened on line {line} is never closed with '{String.ofList blockEnd}'"

/-- A statement in its place. -/
structure Placed where
  /-- The line breaks written before it. -/
  breaks : Nat
  /-- Whether it follows another statement on the same line. -/
  joined : Bool
  /-- The indentation of the block it stands in. -/
  indent : List Char
  /-- Its first line. -/
  first : List Char
  /-- Its other lines, relative to the indentation. -/
  others : List (List Char)
  /-- The line of the template on which it begins. -/
  origin : Int
  deriving DecidableEq, Repr, Inhabited

namespace Placed

/-- What separates two statements on one line. -/
def joiner : List Char := [';', ' ']

/-- The text of a statement, with what separates it from the one before. -/
def written (p : Placed) : List Char :=
  lineFeeds p.breaks ++ (if p.joined then joiner else p.indent) ++ p.first
    ++ p.others.flatMap fun line => '\n' :: if line = [] then [] else p.indent ++ line

end Placed

/-- A laid out body. -/
structure Body where
  /-- The statements in order. -/
  placed : List Placed
  /-- The line breaks after the last statement. -/
  ending : Nat
  deriving DecidableEq, Repr, Inhabited

/-- The text of a body. -/
def Body.written (b : Body) : List Char := b.placed.flatMap Placed.written ++ lineFeeds b.ending

/-- A block that has been opened. -/
structure OpenBlock where
  /-- The indentation of its statements. -/
  indent : List Char
  /-- The line of the chunk that opened it. -/
  line : Int
  /-- Whether it has no statement yet. -/
  isEmpty : Bool
  deriving DecidableEq, Repr, Inhabited

/-- The state of a layout between two statements. -/
structure Layout where
  /-- The open blocks, innermost first. -/
  blocks : List OpenBlock
  /-- Whether the current line has a statement. -/
  lineOpen : Bool
  /-- Whether another statement may follow on that line. -/
  joinable : Bool
  /-- Line feeds of the template that are not written yet. -/
  pending : Nat
  /-- Line breaks written that the template does not have. -/
  debt : Nat
  deriving DecidableEq, Repr, Inhabited

/-- The indentation of statements outside of any block. -/
def baseIndent : List Char := [' ', ' ', ' ', ' ']

/-- The indentation that a block adds to that of its header. -/
def blockIndent : List Char := [' ', ' ', ' ', ' ']

namespace Layout

/-- The state at the start of a body. -/
def start : Layout := ⟨[], false, false, 0, 0⟩

/-- The indentation of the next statement. -/
def indent (l : Layout) : List Char :=
  match l.blocks with
  | [] => baseIndent
  | block :: _ => block.indent

/-- Adds line feeds of the template. -/
def await (n : Nat) (l : Layout) : Layout := { l with pending := l.pending + n }

/-- Decides how many line breaks to write now. A statement that needs a fresh line gets at least
one if the current line is in use; any that are left over pay back the debt. -/
def flush (fresh : Bool) (l : Layout) : Nat × Layout :=
  let need := if fresh && l.lineOpen then 1 else 0
  let repaid := min (l.pending - need) l.debt
  let count := max l.pending need - repaid
  let debt := l.debt + (need - l.pending) - repaid
  (count, { l with pending := 0, debt := debt, lineOpen := l.lineOpen && count = 0 })

/-- Places a statement. -/
def emit (first : List Char) (others : List (List Char)) (origin : Int) (fresh : Bool)
    (l : Layout) : Placed × Layout :=
  let (breaks, l) := l.flush (fresh || (l.lineOpen && !l.joinable))
  let blocks :=
    match l.blocks with
    | [] => []
    | block :: outer => { block with isEmpty := false } :: outer
  (⟨breaks, l.lineOpen, l.indent, first, others, origin⟩,
    { l with lineOpen := true, blocks := blocks })

/-- Opens a block under a header. -/
def openBlock (line : Int) (header : List Char) (l : Layout) : Layout :=
  let block := ⟨l.indent ++ header.takeWhile isBlank ++ blockIndent, line, true⟩
  { l with blocks := block :: l.blocks, joinable := false }

/-- Closes the innermost block. A block without a statement gets a `pass`. -/
def closeBlock (keyword : List Char) (line origin : Int) (l : Layout) :
    Except BlockError (List Placed × Layout) :=
  match l.blocks with
  | [] => .error (.notOpen keyword line)
  | block :: _ =>
    let (placed, l) :=
      if block.isEmpty then
        let (p, l) := l.emit ['p', 'a', 's', 's'] [] origin true
        ([p], l)
      else ([], l)
    .ok (placed, { l with blocks := l.blocks.tail, joinable := false })

/-- Takes one semicolon off the end of some code, since statements are joined by one anyway. A last
line that had nothing else goes, and counts as a blank line after the code. -/
def dropSemicolon (a : Aligned) : Aligned :=
  match a.code.getLast? with
  | none => a
  | some last =>
    if endsWith ';' last then
      let last := trimRight (trimRight last).dropLast
      let lines := a.code.dropLast
      if last = [] then ⟨a.before, lines, if lines = [] then a.after else a.after + 1⟩
      else { a with code := lines ++ [last] }
    else a

/-- Places the lines of some code. -/
def code (first : List Char) (others : List (List Char)) (line origin : Int) (l : Layout) :
    Except BlockError (List Placed × Layout) :=
  let last := (first :: others).getLastD first
  let head := trim first
  if others = [] ∧ head = blockEnd then l.closeBlock head line origin
  else if others = [] ∧ isSibling head then do
    let (closing, l) ← l.closeBlock head line origin
    let (header, l) := l.emit first others origin true
    return (closing ++ [header], l.openBlock line last)
  else
    let opens := opensBlock last
    let compound := others ≠ [] || opens || isCompound head
    let (placed, l) := l.emit first others origin compound
    let l := if opens then l.openBlock line last else l
    .ok ([placed], { l with joinable := !compound })

/-- Lays out one chunk. -/
def add (c : Chunk) (l : Layout) : Except BlockError (List Placed × Layout) :=
  match c.kind with
  | .filler => .ok ([], l.await (newlines c.text))
  | .literal =>
    let call := ['_', 'e', 'c', 'h', 'o', '('] ++ escapeLiteral c.text ++ [')']
    let (placed, l) := l.emit call [] c.line false
    .ok ([placed], { l with joinable := true }.await (newlines c.text))
  | .code =>
    let a := dropSemicolon (realign c.text)
    let l := l.await a.before
    match a.code with
    | [] => .ok ([], l.await a.after)
    | first :: others => do
      let (placed, l) ← l.code first others c.line (c.line + a.before)
      return (placed, l.await a.after)

/-- Lays out chunks one after the other. -/
def addAll : List Chunk → Layout → Except BlockError (List Placed × Layout)
  | [], l => .ok ([], l)
  | c :: cs, l => do
    let (placed, l) ← l.add c
    let (others, l) ← l.addAll cs
    return (placed ++ others, l)

/-- Ends a layout: no block may be open, and a line that is in use gets a line break. -/
def finish (l : Layout) : Except BlockError Nat :=
  match l.blocks with
  | block :: _ => .error (.notClosed block.line)
  | [] =>
    let (count, l) := l.flush false
    .ok (if l.lineOpen then count + 1 else count)

end Layout

/-- Lays out the chunks of a template. -/
def lay (chunks : List Chunk) : Except BlockError Body := do
  let (placed, l) ← Layout.start.addAll chunks
  return ⟨placed, ← l.finish⟩

end Stencil.Program
