/-!
# Expressions

The expressions of the script language. Those whose evaluation can fail carry the line of the
program on which they start, since a failure is reported with the line of the expression that
failed.

This is a part of the expressions of the language. There are no anonymous functions, no sets and no
slices, no assignments within expressions, no powers, and of the forms that go over a sequence only
lists, with one variable. A program that has one of them is refused when it is read.
-/

namespace Stencil.Script

/-- Arithmetic on two operands. -/
inductive BinaryOp where
  | add | subtract | multiply | divide | floorDivide | modulo
  deriving DecidableEq, Repr, Inhabited

/-- The sign of an operation, as messages show it. -/
def BinaryOp.sign : BinaryOp → String
  | add => "+"
  | subtract => "-"
  | multiply => "*"
  | divide => "/"
  | floorDivide => "//"
  | modulo => "%"

/-- A comparison of two operands. -/
inductive CompareOp where
  | equal | notEqual | less | lessEqual | greater | greaterEqual
  | isIn | isNotIn | same | notSame
  deriving DecidableEq, Repr, Inhabited

/-- The sign of an order comparison, as messages show it. -/
def CompareOp.sign : CompareOp → String
  | equal => "=="
  | notEqual => "!="
  | less => "<"
  | lessEqual => "<="
  | greater => ">"
  | greaterEqual => ">="
  | isIn => "in"
  | isNotIn => "not in"
  | same => "is"
  | notSame => "is not"

/-- What an argument of a call is for. -/
inductive ArgKind where
  /-- The next argument. -/
  | positional
  /-- The arguments in a sequence, in order. -/
  | starred
  /-- The argument with a name. -/
  | named (name : String)
  /-- The arguments in a mapping, by their keys. -/
  | spread
  deriving DecidableEq, Repr, Inhabited

mutual

/-- An expression. -/
inductive Expr where
  /-- The value of nothing. -/
  | none
  /-- A truth value. -/
  | bool (b : Bool)
  /-- A whole number. -/
  | int (n : Nat)
  /-- A number `digits * 10 ^ exponent`. -/
  | decimal (digits : Nat) (exponent : Int)
  /-- A text. -/
  | text (s : List Char)
  /-- A variable. -/
  | name (line : Nat) (name : String)
  /-- A list of its items. -/
  | list (line : Nat) (items : List Arg)
  /-- A tuple of its items. -/
  | tuple (line : Nat) (items : List Arg)
  /-- A mapping of its entries. -/
  | dict (line : Nat) (entries : List Entry)
  /-- An item of a sequence or a mapping. -/
  | index (line : Nat) (base key : Expr)
  /-- An attribute. -/
  | member (line : Nat) (base : Expr) (name : String)
  /-- A call. -/
  | call (line : Nat) (function : Expr) (args : List Arg)
  /-- The opposite of a number. -/
  | negate (line : Nat) (e : Expr)
  /-- A number as it is. -/
  | plus (line : Nat) (e : Expr)
  /-- The opposite truth value. -/
  | not (e : Expr)
  /-- The first operand if it is false, and the second otherwise. -/
  | and (left right : Expr)
  /-- The first operand if it is true, and the second otherwise. -/
  | or (left right : Expr)
  /-- One of two operands, chosen by a test. -/
  | choose (test yes no : Expr)
  /-- Arithmetic. -/
  | binary (line : Nat) (op : BinaryOp) (left right : Expr)
  /-- A chain of comparisons. -/
  | compare (line : Nat) (first : Expr) (links : List Link)
  /-- A list of the values of an expression for the items of a sequence, or for those that pass all
  tests. -/
  | listFor (line : Nat) (element : Expr) (target : String) (items : Expr) (tests : List Expr)
  deriving Inhabited

/-- An argument of a call, or an item of a list or a tuple. -/
inductive Arg where
  | mk (kind : ArgKind) (value : Expr)

/-- An entry of a mapping. -/
inductive Entry where
  /-- A key and its value. -/
  | pair (key value : Expr)
  /-- The entries of another mapping. -/
  | spread (mapping : Expr)

/-- A comparison with the operand before it. -/
inductive Link where
  | mk (op : CompareOp) (operand : Expr)

end

instance : Inhabited Arg := ⟨.mk .positional .none⟩
instance : Inhabited Entry := ⟨.spread .none⟩
instance : Inhabited Link := ⟨.mk .equal .none⟩

end Stencil.Script
