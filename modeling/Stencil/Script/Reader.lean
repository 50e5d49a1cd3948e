import Stencil.Script.Token

/-!
# Readers

A reader takes tokens from the front of a line. It answers with what it has read and the tokens
that are left, or refuses; a refusal tells the tokens that were left where reading broke off, so the
first of them is the one to blame.
-/

namespace Stencil.Script

/-- A function that takes tokens from the front of a line. -/
abbrev Reader (α : Type) := StateT (List Lexeme) (Except (List Lexeme)) α

namespace Reader

/-- Refuses the next token. -/
def refuse {α : Type} : Reader α := fun s => .error s

/-- Refuses, and blames the first of some tokens. -/
def blame {α : Type} (s : List Lexeme) : Reader α := fun _ => .error s

/-- The next token, which stays in front. -/
def peek : Reader (Option Token) := fun s => .ok (s.head?.map (·.token), s)

/-- The line of the next token. -/
def line : Reader Nat := fun s => .ok ((s.head?.map (·.line)).getD 0, s)

/-- Takes the next token, whatever it is. -/
def skip : Reader Unit := fun s => .ok ((), s.tail)

/-- Takes a token if it is the next one. -/
def accept (t : Token) : Reader Bool
  | [] => .ok (false, [])
  | l :: s => if l.token = t then .ok (true, s) else .ok (false, l :: s)

/-- Takes a token, which has to be the next one. -/
def expect (t : Token) : Reader Unit
  | [] => .error []
  | l :: s => if l.token = t then .ok ((), s) else .error (l :: s)

/-- Takes a symbol if it is the next token. -/
def acceptSymbol (s : Symbol) : Reader Bool := accept (.symbol s)

/-- Takes a symbol, which has to be the next token. -/
def expectSymbol (s : Symbol) : Reader Unit := expect (.symbol s)

/-- Takes a keyword if it is the next token. -/
def acceptKeyword (k : Keyword) : Reader Bool := accept (.keyword k)

/-- Takes a keyword, which has to be the next token. -/
def expectKeyword (k : Keyword) : Reader Unit := expect (.keyword k)

/-- Takes a name, which has to be the next token. -/
def name : Reader String
  | ⟨.name n, _⟩ :: s => .ok (n, s)
  | s => .error s

/-- Refuses any token that is left. -/
def ended : Reader Unit
  | [] => .ok ((), [])
  | s => .error s

end Reader

end Stencil.Script
