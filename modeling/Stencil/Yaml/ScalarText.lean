import Stencil.Yaml.Cursor
import Stencil.Yaml.Fault

/-!
# The texts of scalars

A scalar is written plainly, in quotes, or as a block. In plain and quoted scalars a single line
break is a blank, and of more line breaks in a row the first counts for nothing. A block keeps its
line breaks, or, if it is folded, treats those between lines that are not indented further likewise.

Each reader goes through the text it is given; a count of the characters that are left bounds its
rounds.

- `plain`, `quoted?`, `block?`: the scalar at a cursor, and the cursor behind it.
-/

namespace Stencil.Yaml

/-- Whether a character has a meaning of its own in a flow collection. -/
def isFlowSign (c : Char) : Bool := c = ',' || c = '[' || c = ']' || c = '\x7b' || c = '\x7d'

/-- The line breaks at a cursor, with what may stand between them, unless a document starts or ends
among them. -/
def breaks? (between : Char → Bool) : Nat → Cursor → Option (List Char × Cursor)
  | 0, c => some ([], c)
  | rounds + 1, c =>
    if c.atMarker then none
    else
      let c := c.skipWhile between
      if isBreak c.peek then
        let (first, c) := c.lineBreak
        (breaks? between rounds c).map fun r => (first ++ r.1, r.2)
      else some ([], c)

/-- The text for a line break and the breaks after it. -/
def folded (first more : List Char) : List Char :=
  if first ≠ ['\n'] then first ++ more
  else if more = [] then [' ']
  else more

/-! ## Plain scalars -/

/-- The characters up to the next blank or sign. -/
def plainRun (inFlow : Bool) : List Char → List Char
  | [] => []
  | c :: rest =>
    let next := rest.headD endMark
    if isSeparator c then []
    else if c = ':' && (isSeparator next || (inFlow && isFlowSign next)) then []
    else if inFlow && (isFlowSign c || c = '?') then []
    else c :: plainRun inFlow rest

/-- What stands between two runs of a plain scalar: its text, the cursor behind it, and whether
there was a line break. There is no text if the scalar cannot go on. -/
def plainGap (c : Cursor) : List Char × Cursor × Bool :=
  let blanks := c.span (· = ' ')
  let c := c.skipBlanks
  if isBreak c.peek then
    let (first, c) := c.lineBreak
    match breaks? (· = ' ') (c.rest.length + 1) c with
    | some (more, c) => (folded first more, c, true)
    | none => ([], c, true)
  else (blanks, c, false)

/-- A plain scalar after some text that belongs to it only if it goes on. -/
def plainFrom (inFlow : Bool) (indent : Int) : Nat → List Char → Bool → Cursor →
    List Char × Cursor × Bool
  | 0, _, crossed, c => ([], c, crossed)
  | rounds + 1, gap, crossed, c =>
    let run := plainRun inFlow c.rest
    if c.peek = '#' ∨ run = [] then ([], c, crossed)
    else
      let (more, c, crossed) := plainGap (c.skip run.length)
      if more = [] ∨ c.peek = '#' ∨ (!inFlow ∧ (c.column : Int) < indent) then
        (gap ++ run, c, crossed)
      else
        let (text, c, crossed) := plainFrom inFlow indent rounds more crossed c
        (gap ++ run ++ text, c, crossed)

/-- A plain scalar, and whether a line break was crossed to find its end. -/
def plain (inFlow : Bool) (indent : Int) (c : Cursor) : List Char × Cursor × Bool :=
  plainFrom inFlow indent (c.rest.length + 1) [] false c

/-! ## Quoted scalars -/

/-- The character that a letter after a backslash stands for. -/
def escape? (c : Char) : Option Char :=
  match c with
  | '0' => some '\x00' | 'a' => some '\x07' | 'b' => some '\x08' | 't' => some '\t'
  | '\t' => some '\t' | 'n' => some '\n' | 'v' => some '\x0b' | 'f' => some '\x0c'
  | 'r' => some '\r' | 'e' => some '\x1b' | ' ' => some ' ' | '"' => some '"'
  | '\\' => some '\\' | '/' => some '/' | 'N' => some '\x85' | '_' => some '\xa0'
  | 'L' => some '\u2028' | 'P' => some '\u2029'
  | _ => none

/-- How many digits follow a letter after a backslash that stands for a character by its number. -/
def escapeWidth? (c : Char) : Option Nat :=
  match c with
  | 'x' => some 2
  | 'u' => some 4
  | 'U' => some 8
  | _ => none

/-- The value of a digit of base sixteen. -/
def hexValue? (c : Char) : Option Nat :=
  if c.isDigit then some (c.toNat - '0'.toNat)
  else if 'a' ≤ c ∧ c ≤ 'f' then some (c.toNat - 'a'.toNat + 10)
  else if 'A' ≤ c ∧ c ≤ 'F' then some (c.toNat - 'A'.toNat + 10)
  else none

/-- The number that the next digits make. -/
def hexNumber? (width : Nat) (c : Cursor) : Option Nat :=
  let digits := c.rest.take width
  if digits.length = width then
    (digits.mapM hexValue?).map fun values => values.foldl (fun n v => n * 16 + v) 0
  else none

/-- What stands for a line break and the blanks around it in a quoted scalar. -/
def quotedGap (c : Cursor) : Loaded (List Char × Cursor) :=
  let blanks := c.span fun x => x = ' ' || x = '\t'
  let c := c.skip blanks.length
  if c.rest = [] then .error .malformed
  else if isBreak c.peek then
    let (first, c) := c.lineBreak
    match breaks? (fun x => x = ' ' || x = '\t') (c.rest.length + 1) c with
    | some (more, c) => .ok (folded first more, c)
    | none => .error .malformed
  else .ok (blanks, c)

/-- What a backslash and what follows it stand for; the cursor is behind the backslash. -/
def escapeAt (c : Cursor) : Loaded (List Char × Cursor) :=
  match escape? c.peek, escapeWidth? c.peek with
  | some x, _ => .ok ([x], c.next)
  | none, some width =>
    match hexNumber? width c.next with
    | some n =>
      if n < 0x110000 then .ok ([Char.ofNat n], c.next.skip width) else .error (.noCharacter n)
    | none => .error .malformed
  | none, none =>
    if isBreak c.peek then
      let c := c.lineBreak.2
      match breaks? (fun x => x = ' ' || x = '\t') (c.rest.length + 1) c with
      | some r => .ok r
      | none => .error .malformed
    else .error .malformed

/-- The rest of a quoted scalar up to its quote. -/
def quotedFrom (mark : Char) : Nat → Cursor → Loaded (List Char × Cursor)
  | 0, _ => .error .malformed
  | rounds + 1, c =>
    let x := c.peek
    let goOn := fun (r : List Char × Cursor) =>
      (quotedFrom mark rounds r.2).map fun s => (r.1 ++ s.1, s.2)
    if c.rest = [] then .error .malformed
    else if x = mark then
      if mark = '\'' && c.peekAt 1 = '\'' then goOn (['\''], c.skip 2)
      else .ok ([], c.next)
    else if x = '\\' && mark = '"' then (escapeAt c.next).bind goOn
    else if x = ' ' || x = '\t' || isBreak x then (quotedGap c).bind goOn
    else goOn ([x], c.next)

/-- A quoted scalar. -/
def quoted? (c : Cursor) : Loaded (List Char × Cursor) :=
  quotedFrom c.peek (c.rest.length + 1) c.next

/-! ## Block scalars -/

/-- What happens to the line breaks at the end of a block. -/
inductive Chomping where
  /-- None is kept. -/
  | strip
  /-- One is kept. -/
  | clip
  /-- All are kept. -/
  | keep
  deriving DecidableEq, Repr, Inhabited

/-- The sign of a chomping. -/
def chomping? (c : Char) : Option Chomping :=
  if c = '+' then some .keep else if c = '-' then some .strip else none

/-- The header of a block: its chomping, its indentation if that is given, and the cursor behind the
header's line. -/
def blockHeader? (c : Cursor) : Option (Chomping × Option Nat × Cursor) :=
  let sign := fun (c : Cursor) =>
    match chomping? c.peek with
    | some chomping => (some chomping, c.next)
    | none => (none, c)
  let digit := fun (c : Cursor) =>
    if c.peek.isDigit then (some (c.peek.toNat - '0'.toNat), c.next) else (none, c)
  let (before?, c) := sign c
  let (indent?, c) := digit c
  let (after?, c) := if before?.isNone && indent?.isSome then sign c else (none, c)
  if indent? = some 0 ∨ !endsWord c.peek then none
  else c.endLine?.map fun c => ((before?.or after?).getD .clip, indent?, c)

/-- The line breaks at the start of a block, the greatest column found on the way, and the cursor
behind them. -/
def leadingBreaks : Nat → Nat → Cursor → List Char × Nat × Cursor
  | 0, most, c => ([], most, c)
  | rounds + 1, most, c =>
    if c.peek = ' ' then leadingBreaks rounds (max most c.next.column) c.next
    else if isBreak c.peek then
      let (first, c) := c.lineBreak
      let (more, most, c) := leadingBreaks rounds most c
      (first ++ more, most, c)
    else ([], most, c)

/-- Blanks skipped up to a column. -/
def skipIndent (indent : Nat) (c : Cursor) : Cursor :=
  c.skip (min (c.span (· = ' ')).length (indent - c.column))

/-- The line breaks at a cursor with lines between them that have no more than the indentation, and
the cursor behind the indentation after them. -/
def blockBreaks (indent : Nat) : Nat → Cursor → List Char × Cursor
  | 0, c => ([], c)
  | rounds + 1, c =>
    let c := skipIndent indent c
    if isBreak c.peek then
      let (first, c) := c.lineBreak
      let (more, c) := blockBreaks indent rounds c
      (first ++ more, c)
    else ([], c)

/-- Whether a line is indented further than its block. -/
def startsBlank (c : Cursor) : Bool := c.peek = ' ' || c.peek = '\t'

/-- The lines of a block after some line breaks: their text, the line break of the last one, the
breaks after it, and the cursor behind those. -/
def blockLines (fold : Bool) (indent : Nat) : Nat → List Char → Cursor →
    List Char × List Char × List Char × Cursor
  | 0, before, c => ([], [], before, c)
  | rounds + 1, before, c =>
    let further := startsBlank c
    let line := c.span fun x => !isBreak x
    let (ending, c) := (c.skip line.length).lineBreak
    let (after, c) := blockBreaks indent (c.rest.length + 1) c
    if c.column = indent ∧ c.rest ≠ [] then
      let between :=
        if fold && ending = ['\n'] && !further && !startsBlank c then
          if after = [] then [' '] else []
        else ending
      let (text, last, after, c) := blockLines fold indent rounds after c
      (before ++ line ++ between ++ text, last, after, c)
    else (before ++ line, ending, after, c)

/-- A block in a collection with some indentation. -/
def block? (fold : Bool) (around : Int) (c : Cursor) : Option (List Char × Cursor) := do
  let (chomping, indent?, c) ← blockHeader? c.next
  let least := (max (around + 1) 1).toNat
  let rounds := c.rest.length + 1
  let (before, indent, c) := match indent? with
    | some n =>
      let indent := least + n - 1
      let (before, c) := blockBreaks indent rounds c
      (before, indent, c)
    | none =>
      let (before, most, c) := leadingBreaks rounds 0 c
      (before, max least most, c)
  let (text, last, after, c) :=
    if c.column = indent ∧ c.rest ≠ [] then blockLines fold indent rounds before c
    else ([], [], before, c)
  return (text ++ (match chomping with
    | .strip => []
    | .clip => last
    | .keep => last ++ after), c)

end Stencil.Yaml
