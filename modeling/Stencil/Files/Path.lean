/-!
# Paths

The name of a file is a path: names with slashes between them, from the root or from the current
directory. Empty names and single points say nothing and are left out; two points are kept, since a
link may stand before them. A path that starts with exactly two slashes keeps both.

- `Path.written`: the text of a path.
- `Path.join`: a path within a directory.
-/

namespace Stencil.Files

/-- The name of an entry of a directory. -/
abbrev Name := List Char

/-- Where a path starts. -/
inductive Anchor where
  /-- At the current directory. -/
  | here
  /-- At the root. -/
  | root
  /-- At the root, written with two slashes. -/
  | doubleRoot
  deriving DecidableEq, Repr, Inhabited

/-- A path. -/
structure Path where
  /-- Where it starts. -/
  anchor : Anchor
  /-- Its names. -/
  names : List Name
  deriving DecidableEq, Repr, Inhabited

/-- The parts of a text between slashes. -/
def splitSlashes : List Char → List (List Char)
  | [] => [[]]
  | '/' :: s => [] :: splitSlashes s
  | c :: s =>
    match splitSlashes s with
    | [] => [[c]]
    | part :: parts => (c :: part) :: parts

/-- Whether a part of a path is a name that says something. -/
def isName (part : List Char) : Bool := part ≠ [] && part ≠ ['.']

namespace Path

/-- Where a text starts as a path. -/
def anchorOf (s : List Char) : Anchor :=
  match (s.takeWhile (· = '/')).length with
  | 0 => .here
  | 2 => .doubleRoot
  | _ => .root

/-- The path that a text stands for. -/
def ofText (s : List Char) : Path := ⟨anchorOf s, (splitSlashes s).filter isName⟩

/-- The text of an anchor. -/
def anchorText : Anchor → List Char
  | .here => []
  | .root => ['/']
  | .doubleRoot => ['/', '/']

/-- The text of a path. The current directory is a point. -/
def written (p : Path) : List Char :=
  if p.anchor = .here ∧ p.names = [] then ['.']
  else anchorText p.anchor ++ ['/'].intercalate p.names

/-- Whether a path starts at the root. -/
def isAbsolute (p : Path) : Bool := p.anchor ≠ .here

/-- A path within a directory. One that starts at the root stays as it is. -/
def join (directory p : Path) : Path :=
  if p.isAbsolute then p else ⟨directory.anchor, directory.names ++ p.names⟩

end Path

end Stencil.Files
