import Stencil.Files.Tree

/-!
# Finding a file by its name

A name that starts at the root is the path of its file. Any other name is looked for in directories,
one after the other; the first directory that has an entry of that name has the file. An entry that
leads nowhere, such as a link to nothing, is none; a name that is too long ends the search.

- `Tree.search`: the path of a file.
-/

namespace Stencil.Files

/-- Why no file has a name. -/
inductive SearchFault where
  /-- No directory has an entry of that name. -/
  | noEntry
  /-- A path cannot be looked at. -/
  | unreadable (p : Path) (f : PathFault)
  deriving DecidableEq, Repr, Inhabited

namespace PathFault

/-- Whether a fault means that there is no entry, and not that no one can tell. -/
def isAbsence : PathFault → Bool
  | nameTooLong => false
  | _ => true

end PathFault

namespace Tree

/-- Whether a path leads to an entry. -/
def hasEntry (t : Tree) (p : Path) : Except SearchFault Bool :=
  match t.find p with
  | .ok _ => .ok true
  | .error f => if f.isAbsence then .ok false else .error (.unreadable p f)

/-- The path of a name in the first of some directories that has an entry of that name. -/
def searchIn (t : Tree) (p : Path) : List (List Char) → Except SearchFault Path
  | [] => .error .noEntry
  | directory :: rest => do
    let candidate := (Path.ofText directory).join p
    if ← t.hasEntry candidate then return candidate
    else searchIn t p rest

/-- The path of the file of a name. -/
def search (t : Tree) (name : List Char) (directories : List (List Char)) :
    Except SearchFault Path :=
  let p := Path.ofText name
  if p.isAbsolute then .ok p else t.searchIn p directories

end Tree

end Stencil.Files
