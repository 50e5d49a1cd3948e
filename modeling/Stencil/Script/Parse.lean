import Stencil.Script.Block

/-!
# Reading programs

A program is read into logical lines, and these into statements. A text that is no program has one
line on which the blame falls, which is what a failure reports.

Only the part of the language that `Expr` and `Stmt` have is read. A program beyond it gets the same
answer as a text that is no program: it cannot be compiled, and the blame falls on the line of the
first token that does not fit. What is said of all programs says nothing else about such a one.

Where several things are wrong, a line that stands too far to the right wins if it comes first; then
come characters that make no token, wherever they stand; then a bracket that is never closed, if it
stands on an earlier line; and then the first token that does not fit.

- `parse`: the statements of a program, or the line that is to blame.
-/

namespace Stencil.Script

namespace Ending

/-- The line to blame when the tokens of a program do not fit, given why. -/
def blame (e : Ending) (fault : NestingFault) : Nat :=
  match fault, e.fault?, e.openBracket? with
  | .indentation line, _, _ => line
  | .misfit _, some (.token line), _ => line
  | .misfit line, _, some bracket => min bracket line
  | .misfit line, _, none => line

/-- The line to blame for an ending that is no end of a program. -/
def fault (e : Ending) : Option Nat :=
  match e.fault? with
  | some (.token line) | some (.indentation line) | some (.continuation line) => some line
  | none => e.openBracket?

end Ending

/-- Why the line that a program breaks off in does not fit. A line that fits as far as it goes is
not to blame. -/
def Nesting.unfinished (n : Nesting) (l : LogicalLine) : Option NestingFault :=
  match n.enter l.depth l.line with
  | .error fault => some fault
  | .ok n =>
    match l.clause with
    | .error [] => none
    | .error left => some (.misfit (l.blame left))
    | .ok c =>
      match n.add l.line c with
      | .error fault => some fault
      | .ok _ => none

/-- The statements of a program, or the line that is to blame if it is none. -/
def parse (program : List Char) : Except Nat (List Stmt) := do
  let (lines, ending) := readLines program
  let nesting ← (Nesting.start.takeAll lines).mapError ending.blame
  match ending.unfinished?.bind nesting.unfinished with
  | some fault => .error (ending.blame fault)
  | none => pure ()
  match ending.fault with
  | some line => .error line
  | none => pure ()
  let statements ← (nesting.finish ending.line).mapError ending.blame
  match misplaced? statements with
  | some line => .error line
  | none => return statements

end Stencil.Script
