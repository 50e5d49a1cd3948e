import Stencil.Script.Expr

/-!
# Statements

The statements of the script language, as trees. A name that a function assigns anywhere in its body
is local to the function; `assignedNames` collects them.

This is a part of the statements of the language. What is assigned to is a variable, never an item,
an attribute or several variables at once; parameters have no defaults; and there are no classes, no
`with`, `del`, `assert`, `global`, `nonlocal` or `match`. A program that has one of them is refused
when it is read.

- `misplaced?`: the line of the first statement that may not stand where it does, such as a `break`
  outside of a loop.
-/

namespace Stencil.Script

/-- A loop's kind of header. -/
inductive LoopHead where
  /-- Over the items of a sequence. -/
  | each (target : String) (items : Expr)
  /-- As long as a test holds. -/
  | while (test : Expr)
  deriving Inhabited

/-- The header of a function. -/
structure Signature where
  /-- The name of the function. -/
  name : String
  /-- The names of its parameters. -/
  parameters : List String
  /-- The name of the parameter that takes all other arguments, if there is one. -/
  rest? : Option String
  deriving DecidableEq, Repr, Inhabited

mutual

/-- A statement, with the line of the program on which it starts. -/
inductive Stmt where
  /-- Nothing. -/
  | pass
  /-- An expression whose value is dropped. -/
  | expr (line : Nat) (e : Expr)
  /-- An assignment to some variables. -/
  | assign (line : Nat) (targets : List String) (value : Expr)
  /-- A change of a variable by an operation. -/
  | augment (line : Nat) (target : String) (op : BinaryOp) (value : Expr)
  /-- A choice between blocks. -/
  | choose (line : Nat) (arms : List Arm) (otherwise : List Stmt)
  /-- A loop, and what runs after it unless it was left early. -/
  | loop (line : Nat) (head : LoopHead) (body afterwards : List Stmt)
  /-- Leaves a loop. -/
  | break (line : Nat)
  /-- Goes on with the next round of a loop. -/
  | continue (line : Nat)
  /-- A definition of a function. -/
  | function (line : Nat) (signature : Signature) (body : List Stmt)
  /-- Leaves a function. -/
  | return (line : Nat) (value : Option Expr)
  /-- Raises an exception. -/
  | raise (line : Nat) (value : Option Expr)
  /-- A block with handlers, what runs after it if nothing was raised, and what runs in any
  case. -/
  | attempt (line : Nat) (body : List Stmt) (handlers : List Handler)
      (afterwards finally_ : List Stmt)
  /-- Binds a module to a name, or without one binds the outermost module of its path. -/
  | importModule (line : Nat) (path : List String) (as? : Option String)
  /-- Binds members of a module to names. -/
  | importFrom (line : Nat) (path : List String) (members : List (String × String))

/-- A test and the block that it guards. -/
inductive Arm where
  | mk (line : Nat) (test : Expr) (body : List Stmt)

/-- A handler: the class of exceptions it takes, or all of them, the variable that holds the
exception, and its block. -/
inductive Handler where
  | mk (line : Nat) (kind : Option Expr) (as? : Option String) (body : List Stmt)

end

instance : Inhabited Stmt := ⟨.pass⟩
instance : Inhabited Arm := ⟨.mk 0 .none []⟩
instance : Inhabited Handler := ⟨.mk 0 Option.none Option.none []⟩

/-- Adds a name that is not there yet. -/
def addName (names : List String) (name : String) : List String :=
  if names.contains name then names else names ++ [name]

mutual

/-- The names assigned in some statements, added to those given. -/
def assignedIn (names : List String) : List Stmt → List String
  | [] => names
  | s :: rest => assignedIn (assignedBy names s) rest

/-- The names that a statement assigns, added to those given. -/
def assignedBy (names : List String) : Stmt → List String
  | .assign _ targets _ => targets.foldl addName names
  | .augment _ target _ _ => addName names target
  | .choose _ arms otherwise => assignedIn (assignedInArms names arms) otherwise
  | .loop _ (.each target _) body afterwards =>
    assignedIn (assignedIn (addName names target) body) afterwards
  | .loop _ (.while _) body afterwards => assignedIn (assignedIn names body) afterwards
  | .function _ signature _ => addName names signature.name
  | .attempt _ body handlers afterwards finally_ =>
    assignedIn (assignedIn (assignedInHandlers (assignedIn names body) handlers) afterwards)
      finally_
  | .importModule _ path as? => addName names (as?.getD (path.headD ""))
  | .importFrom _ _ members => (members.map (·.2)).foldl addName names
  | .pass | .expr .. | .break _ | .continue _ | .return .. | .raise .. => names

/-- The names assigned in the blocks of some tests. -/
def assignedInArms (names : List String) : List Arm → List String
  | [] => names
  | .mk _ _ body :: rest => assignedInArms (assignedIn names body) rest

/-- The names assigned in some handlers. -/
def assignedInHandlers (names : List String) : List Handler → List String
  | [] => names
  | .mk _ _ as? body :: rest =>
    assignedInHandlers (assignedIn ((as?.map (addName names)).getD names) body) rest

end

/-- The names that are local to a function with some parameters and a body. -/
def localNames (signature : Signature) (body : List Stmt) : List String :=
  assignedIn (signature.parameters ++ signature.rest?.toList) body

/-! ## Statements out of place -/

/-- What surrounds a statement. -/
structure Surroundings where
  /-- A function. -/
  inFunction : Bool
  /-- A loop, within the same function. -/
  inLoop : Bool

mutual

/-- The line of the first of some statements that is out of place. -/
def misplacedIn? (s : Surroundings) : List Stmt → Option Nat
  | [] => none
  | stmt :: rest => (misplacedBy? s stmt).or (misplacedIn? s rest)

/-- The line of a statement that is out of place, or that holds one. -/
def misplacedBy? (s : Surroundings) : Stmt → Option Nat
  | .break line | .continue line => if s.inLoop then none else some line
  | .return line _ => if s.inFunction then none else some line
  | .choose _ arms otherwise => (misplacedInArms? s arms).or (misplacedIn? s otherwise)
  | .loop _ _ body afterwards =>
    (misplacedIn? { s with inLoop := true } body).or (misplacedIn? s afterwards)
  | .function line signature body =>
    if (signature.parameters ++ signature.rest?.toList).Nodup then
      misplacedIn? ⟨true, false⟩ body
    else some line
  | .attempt _ body handlers afterwards finally_ =>
    (misplacedIn? s body).or <| (misplacedInHandlers? s handlers).or <|
      (misplacedIn? s afterwards).or (misplacedIn? s finally_)
  | .pass | .expr .. | .assign .. | .augment .. | .raise .. | .importModule .. | .importFrom .. =>
    none

/-- The line of the first statement out of place in the blocks of some tests. -/
def misplacedInArms? (s : Surroundings) : List Arm → Option Nat
  | [] => none
  | .mk _ _ body :: rest => (misplacedIn? s body).or (misplacedInArms? s rest)

/-- The line of the first statement out of place in some handlers. A handler for all exceptions has
to be the last. -/
def misplacedInHandlers? (s : Surroundings) : List Handler → Option Nat
  | [] => none
  | .mk line kind _ body :: rest =>
    if kind.isNone ∧ ¬ rest.isEmpty then some line
    else (misplacedIn? s body).or (misplacedInHandlers? s rest)

end

/-- The line of the first statement of a program that is out of place. -/
def misplaced? (program : List Stmt) : Option Nat := misplacedIn? ⟨false, false⟩ program

end Stencil.Script
