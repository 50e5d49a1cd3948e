import Stencil.Script.ExprReader
import Stencil.Script.LogicalLine
import Stencil.Script.Stmt

/-!
# Clauses

What a logical line says: some simple statements, with semicolons between them, or the header of a
block. A header may have its block on the same line, as simple statements. Statements and headers
of a form that `Stmt` does not have are refused.

- `LogicalLine.clause`: the clause of a line, or the tokens left where reading it broke off.
-/

namespace Stencil.Script

/-- The header of a block. -/
inductive Header where
  | if (test : Expr)
  | elif (test : Expr)
  | else
  | loop (head : LoopHead)
  | function (signature : Signature)
  | try
  | except (kind : Option Expr) (as? : Option String)
  | finally
  deriving Inhabited

/-- What a logical line says. -/
inductive Clause where
  /-- Simple statements. -/
  | simple (statements : List Stmt)
  /-- A header. Its block follows on the lines after it unless it is given here. -/
  | header (header : Header) (block? : Option (List Stmt))
  deriving Inhabited

/-- The operation of an assignment that changes a variable. -/
def augmentOp? : Token → Option BinaryOp
  | .symbol .plusAssign => some .add
  | .symbol .minusAssign => some .subtract
  | .symbol .starAssign => some .multiply
  | .symbol .slashAssign => some .divide
  | .symbol .doubleSlashAssign => some .floorDivide
  | .symbol .percentAssign => some .modulo
  | _ => none

namespace Reader

/-- Takes the names that are assigned to, each with its sign, from the front of a statement. -/
def targets : List Lexeme → List String × List Lexeme
  | ⟨.name n, _⟩ :: ⟨.symbol .assign, _⟩ :: s => (n :: (targets s).1, (targets s).2)
  | s => ([], s)

/-- Whether a statement ends here. -/
def atEnd : Reader Bool
  | [] => .ok (true, [])
  | l :: s => .ok (l.token = .symbol .semicolon, l :: s)

/-- An expression, if the statement goes on. -/
def optionalExpr : Reader (Option Expr) := do
  if ← atEnd then return none else return some (← expr)

/-- The names of a module's path, which have points between them. -/
def modulePath : List Lexeme → Except (List Lexeme) (List String × List Lexeme)
  | ⟨.name n, _⟩ :: ⟨.symbol .dot, _⟩ :: s => (modulePath s).map fun r => (n :: r.1, r.2)
  | ⟨.name n, _⟩ :: s => .ok ([n], s)
  | s => .error s

/-- The other name under which something is imported, if there is one. -/
def otherName? : Reader (Option String) := do
  if ← acceptKeyword .as then return some (← name) else return none

/-- The members that an import names. -/
def members : Nat → Reader (List (String × String))
  | 0 => refuse
  | count + 1 => do
    let own ← name
    let as_ := (← otherName?).getD own
    if ← acceptSymbol .comma then return (own, as_) :: (← members count)
    else return [(own, as_)]

/-- An assignment, a change of a variable, or an expression. -/
def assignmentOrExpr (line : Nat) : Reader Stmt := fun s =>
  match s with
  | ⟨.name n, _⟩ :: ⟨.symbol .assign, l⟩ :: rest =>
    let (names, rest) := targets (⟨.name n, l⟩ :: ⟨.symbol .assign, l⟩ :: rest)
    (Stmt.assign line names <$> expr) rest
  | ⟨.name n, l⟩ :: t :: rest =>
    match augmentOp? t.token with
    | some op => (Stmt.augment line n op <$> expr) rest
    | none => (Stmt.expr line <$> expr) (⟨.name n, l⟩ :: t :: rest)
  | s => (Stmt.expr line <$> expr) s

/-- A simple statement. -/
def simple : Reader Stmt := do
  let line ← line
  match ← peek with
  | some (.keyword .pass) =>
    skip
    return .pass
  | some (.keyword .break) =>
    skip
    return .break line
  | some (.keyword .continue) =>
    skip
    return .continue line
  | some (.keyword .return) =>
    skip
    return .return line (← optionalExpr)
  | some (.keyword .raise) =>
    skip
    return .raise line (← optionalExpr)
  | some (.keyword .import) =>
    skip
    let path ← modulePath
    return .importModule line path (← otherName?)
  | some (.keyword .from) =>
    skip
    let path ← modulePath
    expectKeyword .import
    return .importFrom line path (← fun s => members s.length s)
  | _ => assignmentOrExpr line

/-- Simple statements with semicolons between them, up to the end of the line. A semicolon may end
the line. -/
def simples : Nat → Reader (List Stmt)
  | 0 => refuse
  | count + 1 => do
    let first ← simple
    if ← acceptSymbol .semicolon then
      match ← peek with
      | none => return [first]
      | some _ => return first :: (← simples count)
    else
      ended
      return [first]

/-- The parameters of a function, up to the closing bracket. -/
def parameters (name : String) : Nat → List String → Reader Signature
  | 0, _ => refuse
  | count + 1, names => do
    if ← acceptSymbol .rightParen then return ⟨name, names, none⟩
    else if ← acceptSymbol .star then
      let rest ← Reader.name
      let _ ← acceptSymbol .comma
      expectSymbol .rightParen
      return ⟨name, names, some rest⟩
    else
      let own ← Reader.name
      if ← acceptSymbol .comma then parameters name count (names ++ [own])
      else
        expectSymbol .rightParen
        return ⟨name, names ++ [own], none⟩

/-- The header of a block without its colon, if the line starts with one. -/
def header? : Reader (Option Header) := do
  match ← peek with
  | some (.keyword .if) =>
    skip
    return some (.if (← expr))
  | some (.keyword .elif) =>
    skip
    return some (.elif (← expr))
  | some (.keyword .else) =>
    skip
    return some .else
  | some (.keyword .for) =>
    skip
    let target ← name
    expectKeyword .in
    return some (.loop (.each target (← expr)))
  | some (.keyword .while) =>
    skip
    return some (.loop (.while (← expr)))
  | some (.keyword .define) =>
    skip
    let own ← name
    expectSymbol .leftParen
    return some (.function (← fun s => parameters own s.length [] s))
  | some (.keyword .try) =>
    skip
    return some .try
  | some (.keyword .except) =>
    skip
    match ← peek with
    | some (.symbol .colon) => return some (.except none none)
    | _ =>
      let kind ← expr
      if ← acceptKeyword .as then return some (.except (some kind) (some (← name)))
      else return some (.except (some kind) none)
  | some (.keyword .finally) =>
    skip
    return some .finally
  | _ => return none

/-- A clause, which takes a whole line. -/
def clause : Reader Clause := do
  match ← header? with
  | none => return .simple (← fun s => simples (s.length + 1) s)
  | some header =>
    expectSymbol .colon
    match ← peek with
    | none => return .header header none
    | some _ => return .header header (some (← fun s => simples (s.length + 1) s))

end Reader

/-- The clause of a logical line. -/
def LogicalLine.clause (l : LogicalLine) : Except (List Lexeme) Clause :=
  (Reader.clause l.lexemes).map (·.1)

/-- The line of the program on which reading a logical line broke off: that of the first token that
is left, or else the end of the line. -/
def LogicalLine.blame (l : LogicalLine) (left : List Lexeme) : Nat :=
  (left.head?.map (·.line)).getD l.last

end Stencil.Script
