/-!
# Keywords and symbols

The words with a meaning of their own and the signs of the script language. Words and signs that the
language reserves but this library gives no meaning are `reserved`; no statement can hold one. So
a program with a class, a generator, a `with` or an operation on bits is refused when it is read.

- `Symbol.longer`: a symbol goes on as long as some symbol starts with what has been read.
-/

namespace Stencil.Script

/-- The words with a meaning of their own. -/
inductive Keyword where
  | false | none | true | and | as | break | continue | define | elif | else | except | finally
  | for | from | if | import | in | is | not | or | pass | raise | return | try | while
  /-- A word that is reserved and has no meaning here. -/
  | reserved
  deriving DecidableEq, Repr, Inhabited

/-- The spelling of each keyword. -/
def Keyword.table : List (String × Keyword) := [
  ("False", .false), ("None", .none), ("True", .true), ("and", .and), ("as", .as),
  ("break", .break), ("continue", .continue), ("def", .define), ("elif", .elif), ("else", .else),
  ("except", .except), ("finally", .finally), ("for", .for), ("from", .from), ("if", .if),
  ("import", .import), ("in", .in), ("is", .is), ("not", .not), ("or", .or), ("pass", .pass),
  ("raise", .raise), ("return", .return), ("try", .try), ("while", .while),
  ("assert", .reserved), ("async", .reserved), ("await", .reserved), ("class", .reserved),
  ("del", .reserved), ("global", .reserved), ("lambda", .reserved), ("nonlocal", .reserved),
  ("with", .reserved), ("yield", .reserved)]

/-- The keyword that a word is, if it is one. -/
def Keyword.ofWord? (word : String) : Option Keyword := Keyword.table.lookup word

/-- The signs of the language. -/
inductive Symbol where
  | leftParen | rightParen | leftBracket | rightBracket | leftBrace | rightBrace
  | comma | colon | semicolon | dot | assign
  | plus | minus | star | slash | doubleSlash | percent | doubleStar
  | equal | notEqual | less | lessEqual | greater | greaterEqual
  | plusAssign | minusAssign | starAssign | slashAssign | doubleSlashAssign | percentAssign
  /-- A sign that is reserved and has no meaning here. -/
  | reserved
  deriving DecidableEq, Repr, Inhabited

/-- The spelling of each symbol. -/
def Symbol.table : List (List Char × Symbol) := [
  (['('], .leftParen), ([')'], .rightParen), (['['], .leftBracket), ([']'], .rightBracket),
  (['\x7b'], .leftBrace), (['\x7d'], .rightBrace), ([','], .comma), ([':'], .colon),
  ([';'], .semicolon), (['.'], .dot), (['='], .assign), (['+'], .plus), (['-'], .minus),
  (['*'], .star), (['/'], .slash), (['/', '/'], .doubleSlash), (['%'], .percent),
  (['*', '*'], .doubleStar), (['=', '='], .equal), (['!', '='], .notEqual), (['<'], .less),
  (['<', '='], .lessEqual), (['>'], .greater), (['>', '='], .greaterEqual),
  (['+', '='], .plusAssign), (['-', '='], .minusAssign), (['*', '='], .starAssign),
  (['/', '='], .slashAssign), (['/', '/', '='], .doubleSlashAssign),
  (['%', '='], .percentAssign), (['~'], .reserved), (['@'], .reserved), (['@', '='], .reserved),
  (['&'], .reserved), (['&', '='], .reserved), (['|'], .reserved), (['|', '='], .reserved),
  (['^'], .reserved), (['^', '='], .reserved), (['<', '<'], .reserved), (['>', '>'], .reserved),
  (['<', '<', '='], .reserved), (['>', '>', '='], .reserved), (['*', '*', '='], .reserved),
  (['-', '>'], .reserved), ([':', '='], .reserved), (['!'], .reserved), (['$'], .reserved),
  (['?'], .reserved), (['\x60'], .reserved)]

namespace Symbol

/-- The symbol with a spelling, if there is one. -/
def ofSpelling? (s : List Char) : Option Symbol := table.lookup s

/-- Whether some symbol is spelled with what is given and more. -/
def longer (s : List Char) : Bool := table.any fun e => s.isPrefixOf e.1 && s.length < e.1.length

/-- The closing bracket that an opening one asks for. -/
def partner? : Symbol → Option Symbol
  | leftParen => some rightParen
  | leftBracket => some rightBracket
  | leftBrace => some rightBrace
  | _ => none

/-- Whether a symbol is a closing bracket. -/
def closes (s : Symbol) : Bool := s = rightParen || s = rightBracket || s = rightBrace

end Symbol

end Stencil.Script
