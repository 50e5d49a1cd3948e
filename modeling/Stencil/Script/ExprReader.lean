import Stencil.Script.Expr
import Stencil.Script.Reader

/-!
# Reading expressions

One reader for each level of binding, from the loosest, the choice between two expressions, to the
tightest, a name or a literal. A level reads operands of the next level and the operators between
them. Each call gets one less than the `depth` it was given, so that reading ends; `expressionDepth`
is enough for any expression of some tokens. An expression of a form that `Expr` does not have is
refused where that form begins.

- `Reader.expr`: an expression.
-/

namespace Stencil.Script

/-- The arithmetic operation that a token stands for between two terms. -/
def sumOp? : Token → Option BinaryOp
  | .symbol .plus => some .add
  | .symbol .minus => some .subtract
  | _ => none

/-- The arithmetic operation that a token stands for between two factors. -/
def termOp? : Token → Option BinaryOp
  | .symbol .star => some .multiply
  | .symbol .slash => some .divide
  | .symbol .doubleSlash => some .floorDivide
  | .symbol .percent => some .modulo
  | _ => none

/-- The comparison that a token starts, if it takes one token. -/
def compareOp? : Token → Option CompareOp
  | .symbol .equal => some .equal
  | .symbol .notEqual => some .notEqual
  | .symbol .less => some .less
  | .symbol .lessEqual => some .lessEqual
  | .symbol .greater => some .greater
  | .symbol .greaterEqual => some .greaterEqual
  | .keyword .in => some .isIn
  | _ => none

/-- The line on which a call is made, given the line on which it starts. A call of an attribute is
made where the attribute's name stands, unless some arguments are spread out of a collection. -/
def callLine (start : Nat) (function : Expr) (args : List Arg) : Nat :=
  match function with
  | .member line _ _ =>
    let isSingle : Arg → Bool
      | .mk kind _ => kind ≠ .starred && kind ≠ .spread
    if args.all isSingle then line else start
  | _ => start

namespace Reader

/-- Takes a comparison, if one stands in front. -/
def comparison? : Reader (Option CompareOp) := do
  match ← peek with
  | none => return none
  | some (.keyword .is) =>
    skip
    if ← acceptKeyword .not then return some .notSame else return some .same
  | some (.keyword .not) =>
    skip
    expectKeyword .in
    return some .isNotIn
  | some t =>
    match compareOp? t with
    | none => return none
    | some op =>
      skip
      return some op

/-- Takes an arithmetic operation, if one stands in front. -/
def operation? (op? : Token → Option BinaryOp) : Reader (Option BinaryOp) := do
  match ← peek with
  | none => return none
  | some t =>
    match op? t with
    | none => return none
    | some op =>
      skip
      return some op

/-- Takes quoted texts that stand next to each other, as one text. -/
def texts : List Lexeme → List Char × List Lexeme
  | ⟨.text s, _⟩ :: rest => ((s ++ (texts rest).1), (texts rest).2)
  | rest => ([], rest)

/-- Whether the next two tokens name an argument. -/
def argumentName? : Reader (Option String)
  | ⟨.name n, line⟩ :: ⟨.symbol .assign, line'⟩ :: s =>
    .ok (some n, ⟨.name n, line⟩ :: ⟨.symbol .assign, line'⟩ :: s)
  | s => .ok (none, s)

/-- Whether a reader would take what stands in front. Nothing is taken. -/
def wouldTake (r : Reader Expr) : Reader Bool := fun s =>
  match r s with
  | .ok _ => .ok (true, s)
  | .error _ => .ok (false, s)

/-- Whether a name with a quoted text behind it stands in front, or the start of a name that is a
keyword in some places. -/
def isPrefixName : List Lexeme → Bool
  | ⟨.name _, _⟩ :: ⟨.text _, _⟩ :: _ => true
  | ⟨.name n, _⟩ :: _ => ["_", "case", "match"].any fun k => n.toList.isPrefixOf k.toList
  | _ => false

mutual

/-- An expression of any kind. Inside brackets an expression that has another one right behind it is
to blame for that itself; so is a choice that lacks its other side, wherever it stands. -/
def exprAt (enclosed : Bool) : Nat → Reader Expr
  | 0 => refuse
  | depth + 1 => do
    let start ← get
    let yes ← disjunctionAt depth
    if enclosed && !isPrefixName start then
      if ← wouldTake (disjunctionAt depth) then blame start
    if ← acceptKeyword .if then
      let test ← disjunctionAt depth
      match ← peek with
      | some (.keyword .else) =>
        skip
        return .choose test yes (← exprAt enclosed depth)
      | some (.symbol .colon) => refuse
      | _ => blame start
    else return yes

/-- Operands joined by `or`. -/
def disjunctionAt : Nat → Reader Expr
  | 0 => refuse
  | depth + 1 => do
    let left ← conjunctionAt depth
    if ← acceptKeyword .or then return .or left (← disjunctionAt depth) else return left

/-- Operands joined by `and`. -/
def conjunctionAt : Nat → Reader Expr
  | 0 => refuse
  | depth + 1 => do
    let left ← inversionAt depth
    if ← acceptKeyword .and then return .and left (← conjunctionAt depth) else return left

/-- An operand with any number of `not` in front. -/
def inversionAt : Nat → Reader Expr
  | 0 => refuse
  | depth + 1 => do
    if ← acceptKeyword .not then return .not (← inversionAt depth) else comparisonAt depth

/-- Sums with comparisons between them. -/
def comparisonAt : Nat → Reader Expr
  | 0 => refuse
  | depth + 1 => do
    let line ← line
    let first ← sumAt depth
    match ← linksAt depth with
    | [] => return first
    | links => return .compare line first links

/-- The comparisons after a sum. -/
def linksAt : Nat → Reader (List Link)
  | 0 => refuse
  | depth + 1 => do
    match ← comparison? with
    | none => return []
    | some op =>
      let operand ← sumAt depth
      return .mk op operand :: (← linksAt depth)

/-- Terms with plus and minus between them. -/
def sumAt : Nat → Reader Expr
  | 0 => refuse
  | depth + 1 => do
    let line ← line
    sumTailAt depth line (← termAt depth)

/-- What a sum is, given what has been read of it. -/
def sumTailAt : Nat → Nat → Expr → Reader Expr
  | 0, _, _ => refuse
  | depth + 1, line, left => do
    match ← operation? sumOp? with
    | none => return left
    | some op => sumTailAt depth line (.binary line op left (← termAt depth))

/-- Factors with multiplications and divisions between them. -/
def termAt : Nat → Reader Expr
  | 0 => refuse
  | depth + 1 => do
    let line ← line
    termTailAt depth line (← factorAt depth)

/-- What a term is, given what has been read of it. -/
def termTailAt : Nat → Nat → Expr → Reader Expr
  | 0, _, _ => refuse
  | depth + 1, line, left => do
    match ← operation? termOp? with
    | none => return left
    | some op => termTailAt depth line (.binary line op left (← factorAt depth))

/-- A primary with any number of signs in front. -/
def factorAt : Nat → Reader Expr
  | 0 => refuse
  | depth + 1 => do
    let line ← line
    if ← acceptSymbol .minus then return .negate line (← factorAt depth)
    else if ← acceptSymbol .plus then return .plus line (← factorAt depth)
    else primaryTailAt depth line (← atomAt depth)

/-- What a primary is, given what has been read of it: attributes, calls and items follow. -/
def primaryTailAt : Nat → Nat → Expr → Reader Expr
  | 0, _, _ => refuse
  | depth + 1, line, base => do
    match ← peek with
    | some (.symbol .dot) =>
      skip
      let nameLine ← Reader.line
      primaryTailAt depth line (.member nameLine base (← name))
    | some (.symbol .leftParen) =>
      skip
      let args ← argumentsAt depth false
      primaryTailAt depth line (.call (callLine line base args) base args)
    | some (.symbol .leftBracket) =>
      skip
      let key ← exprAt true depth
      expectSymbol .rightBracket
      primaryTailAt depth line (.index line base key)
    | _ => return base

/-- The arguments of a call, and the bracket after them. After a named argument there are only named
ones. -/
def argumentsAt : Nat → Bool → Reader (List Arg)
  | 0, _ => refuse
  | depth + 1, named => do
    if ← acceptSymbol .rightParen then return []
    else
      let arg ← argumentAt depth named
      let named := match arg with
        | .mk .positional _ | .mk .starred _ => named
        | _ => true
      if ← acceptSymbol .comma then return arg :: (← argumentsAt depth named)
      else
        expectSymbol .rightParen
        return [arg]

/-- An argument of a call. -/
def argumentAt : Nat → Bool → Reader Arg
  | 0, _ => refuse
  | depth + 1, named => do
    match ← argumentName? with
    | some n =>
      skip
      skip
      return .mk (.named n) (← exprAt true depth)
    | none =>
      if ← acceptSymbol .doubleStar then return .mk .spread (← exprAt true depth)
      else if ← acceptSymbol .star then return .mk .starred (← exprAt true depth)
      else
        let value ← exprAt true depth
        if named then refuse else return .mk .positional value

/-- A literal, a name, a bracketed expression, a tuple, a list or a mapping. -/
def atomAt : Nat → Reader Expr
  | 0 => refuse
  | depth + 1 => do
    let line ← line
    match ← peek with
    | some (.name n) =>
      skip
      return .name line n
    | some (.int n) =>
      skip
      return .int n
    | some (.decimal digits exponent) =>
      skip
      return .decimal digits exponent
    | some (.text _) => fun s => .ok (.text (texts s).1, (texts s).2)
    | some (.keyword .none) =>
      skip
      return .none
    | some (.keyword .true) =>
      skip
      return .bool true
    | some (.keyword .false) =>
      skip
      return .bool false
    | some (.symbol .leftParen) =>
      skip
      if ← acceptSymbol .rightParen then return .tuple line []
      else
        let first ← itemAt depth
        if ← acceptSymbol .comma then
          return .tuple line (first :: (← itemsAt .rightParen depth))
        else
          expectSymbol .rightParen
          match first with
          | .mk .positional e => return e
          | _ => refuse
    | some (.symbol .leftBracket) =>
      skip
      if ← acceptSymbol .rightBracket then return .list line []
      else
        let first ← itemAt depth
        match first, ← acceptKeyword .for with
        | .mk .positional element, true =>
          let target ← name
          expectKeyword .in
          let items ← disjunctionAt depth
          let tests ← testsAt depth
          expectSymbol .rightBracket
          return .listFor line element target items tests
        | _, true => refuse
        | _, false =>
          if ← acceptSymbol .comma then return .list line (first :: (← itemsAt .rightBracket depth))
          else
            expectSymbol .rightBracket
            return .list line [first]
    | some (.symbol .leftBrace) =>
      skip
      return .dict line (← entriesAt depth)
    | _ => refuse

/-- An item of a list or a tuple. -/
def itemAt : Nat → Reader Arg
  | 0 => refuse
  | depth + 1 => do
    if ← acceptSymbol .star then return .mk .starred (← sumAt depth)
    else return .mk .positional (← exprAt true depth)

/-- The items of a list or a tuple, and the bracket after them. -/
def itemsAt (close : Symbol) : Nat → Reader (List Arg)
  | 0 => refuse
  | depth + 1 => do
    if ← acceptSymbol close then return []
    else
      let item ← itemAt depth
      if ← acceptSymbol .comma then return item :: (← itemsAt close depth)
      else
        expectSymbol close
        return [item]

/-- The tests of a list made from another one. -/
def testsAt : Nat → Reader (List Expr)
  | 0 => refuse
  | depth + 1 => do
    if ← acceptKeyword .if then
      let test ← disjunctionAt depth
      return test :: (← testsAt depth)
    else return []

/-- The entries of a mapping, and the bracket after them. -/
def entriesAt : Nat → Reader (List Entry)
  | 0 => refuse
  | depth + 1 => do
    if ← acceptSymbol .rightBrace then return []
    else
      let entry ← entryAt depth
      if ← acceptSymbol .comma then return entry :: (← entriesAt depth)
      else
        expectSymbol .rightBrace
        return [entry]

/-- An entry of a mapping. -/
def entryAt : Nat → Reader Entry
  | 0 => refuse
  | depth + 1 => do
    if ← acceptSymbol .doubleStar then return .spread (← sumAt depth)
    else
      let key ← exprAt true depth
      expectSymbol .colon
      return .pair key (← exprAt true depth)

end

/-- A depth that is enough for any expression of that many tokens. -/
def expressionDepth (tokens : Nat) : Nat := 16 * (tokens + 1)

/-- An expression. -/
def expr : Reader Expr := fun s => exprAt false (expressionDepth s.length) s

/-- An expression in a line of one call with one quoted text. -/
example (line : Nat) (s : List Char) :
    expr [⟨.name "f", line⟩, ⟨.symbol .leftParen, line⟩, ⟨.text s, line⟩,
      ⟨.symbol .rightParen, line⟩] =
    .ok (.call line (.name line "f") [.mk .positional (.text (s ++ []))], []) := by
  rfl

end Reader

end Stencil.Script
