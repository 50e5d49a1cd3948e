import Stencil.Files.Path
import Stencil.Text.Decoding

/-!
# Files

A tree of directories, files and symbolic links. A file has a serial number of its own, which it
keeps when it is renamed or written again; several entries may lead to one file. The serial number
of a file that is gone is not given out again.

Finding the entry of a path goes through its names one by one and follows links on the way. What can
go wrong is a `PathFault`.

- `Tree.find`: the entry that a path leads to.
-/

namespace Stencil.Files

/-- Names from the root to an entry, none of them two points. -/
abbrev Location := List Name

/-- An entry of a directory. -/
inductive Entry where
  | directory
  /-- A file, by its serial number. -/
  | file (serial : Nat)
  /-- A link to a path. -/
  | link (target : Path)
  deriving DecidableEq, Repr, Inhabited

/-- A file. -/
structure File where
  /-- Its bytes. -/
  bytes : List UInt8
  /-- The time of its last change. -/
  modified : Int
  deriving DecidableEq, Repr, Inhabited

/-- Why a path leads nowhere. -/
inductive PathFault where
  | notFound
  | notDirectory
  | isDirectory
  | tooManyLinks
  | nameTooLong
  /-- A path with a null character in it. -/
  | nullName
  deriving DecidableEq, Repr, Inhabited

/-- The words for a fault. -/
def PathFault.message : PathFault → String
  | notFound => "No such file or directory"
  | notDirectory => "Not a directory"
  | isDirectory => "Is a directory"
  | tooManyLinks => "Too many levels of symbolic links"
  | nameTooLong => "File name too long"
  | nullName => "embedded null byte"

/-- The number of a fault. -/
def PathFault.number : PathFault → Nat
  | notFound => 2
  | notDirectory => 20
  | isDirectory => 21
  | tooManyLinks => 40
  | nameTooLong => 36
  | nullName => 0

/-- A tree of files. -/
structure Tree where
  /-- The entries and where they are. The root has none of its own. -/
  entries : List (Location × Entry)
  /-- The files by their serial numbers. -/
  files : List (Nat × File)
  /-- The next serial number. -/
  nextSerial : Nat
  /-- The current directory. -/
  current : Location
  deriving Repr, Inhabited

namespace Tree

/-- The entry at a location. -/
def entry? (t : Tree) (l : Location) : Option Entry :=
  if l = [] then some .directory else t.entries.lookup l

/-- The most bytes of a name. -/
def nameLimit : Nat := 255

/-- The most bytes of a path. -/
def pathLimit : Nat := 4096

/-- Goes on from a directory by names, given how to follow a link. -/
def follow (t : Tree) (jump : Location → Path → Except PathFault Location) :
    List Name → Location → Except PathFault Location
  | [], here => .ok here
  | name :: rest, here =>
    match t.entry? here with
    | some .directory =>
      if name = ['.', '.'] then follow t jump rest here.dropLast
      else if nameLimit < (Text.encodeUtf8 name).length then .error .nameTooLong
      else
        match t.entry? (here ++ [name]) with
        | none => .error .notFound
        | some (.link target) =>
          match jump here target with
          | .ok there => follow t jump rest there
          | .error fault => .error fault
        | some _ => follow t jump rest (here ++ [name])
    | _ => .error .notDirectory

/-- Follows a path from a directory, through so many levels of links. -/
def walk (t : Tree) : Nat → Location → Path → Except PathFault Location
  | 0, _, _ => .error .tooManyLinks
  | levels + 1, here, p =>
    t.follow (walk t levels) p.names (if p.isAbsolute then [] else here)

/-- The most levels of links. -/
def linkLimit : Nat := 41

/-- Where a path leads. -/
def locate (t : Tree) (p : Path) : Except PathFault Location :=
  if p.written.contains '\x00' then .error .nullName
  else if pathLimit ≤ (Text.encodeUtf8 p.written).length then .error .nameTooLong
  else t.walk linkLimit t.current p

/-- The entry that a path leads to. -/
def find (t : Tree) (p : Path) : Except PathFault Entry := do
  let l ← t.locate p
  match t.entry? l with
  | some e => return e
  | none => .error .notFound

/-- The file that a path leads to, and its serial number. -/
def openFile (t : Tree) (p : Path) : Except PathFault (Nat × File) := do
  match ← t.find p with
  | .file serial =>
    match t.files.lookup serial with
    | some f => return (serial, f)
    | none => .error .notFound
  | _ => .error .isDirectory

/-! ## Changes -/

/-- The tree with one directory in it, which is the current one. -/
def inDirectory (l : Location) : Tree where
  entries := (List.range l.length).map fun n => (l.take (n + 1), .directory)
  files := []
  nextSerial := 1
  current := l

/-- Puts an entry at a location, in the place of any that is there. -/
def put (t : Tree) (l : Location) (e : Entry) : Tree :=
  { t with entries := (l, e) :: t.entries.filter fun x => x.1 ≠ l }

/-- The location of a path without following links, seen from the current directory. -/
def plainLocation (t : Tree) (p : Path) : Location :=
  p.names.foldl (fun l name => if name = ['.', '.'] then l.dropLast else l ++ [name])
    (if p.isAbsolute then [] else t.current)

/-- Makes the directories that lead to a location. -/
def makeParents (t : Tree) (l : Location) : Tree :=
  (List.range l.length).foldl (fun t n =>
    let l := l.take n
    match t.entry? l with
    | some _ => t
    | none => t.put l .directory) t

/-- Writes a file. One that exists stays the same file. -/
def write (t : Tree) (p : Path) (f : File) : Tree :=
  match t.find p with
  | .ok (.file serial) =>
    { t with files := (serial, f) :: t.files.filter fun x => x.1 ≠ serial }
  | _ =>
    let l := match t.locate p with
      | .ok l => l
      | .error _ =>
        match t.entry? (t.plainLocation p) with
        | some (.link target) => t.plainLocation ((⟨p.anchor, p.names.dropLast⟩ : Path).join target)
        | _ => t.plainLocation p
    let t := (t.makeParents l).put l (.file t.nextSerial)
    { t with files := (t.nextSerial, f) :: t.files, nextSerial := t.nextSerial + 1 }

/-- Sets the time of a file's last change. -/
def touch (t : Tree) (p : Path) (modified : Int) : Tree :=
  match t.openFile p with
  | .ok (serial, f) =>
    { t with files := (serial, { f with modified }) :: t.files.filter fun x => x.1 ≠ serial }
  | .error _ => t

/-- Makes a directory and those that lead to it. -/
def makeDirectory (t : Tree) (p : Path) : Tree :=
  let l := t.plainLocation p
  (t.makeParents l).put l .directory

/-- Removes an entry. -/
def remove (t : Tree) (p : Path) : Tree :=
  let l := t.plainLocation p
  { t with entries := t.entries.filter fun x => x.1 ≠ l }

/-- Moves an entry, with all that is below it. -/
def rename (t : Tree) (source destination : Path) : Tree :=
  let old := t.plainLocation source
  let new := t.plainLocation destination
  let t := { t with entries := t.entries.filter fun x => x.1 ≠ new ∨ new = old }
  { t with entries := t.entries.map fun x =>
      if old.isPrefixOf x.1 then (new ++ x.1.drop old.length, x.2) else x }

/-- Makes another entry for a file. -/
def link (t : Tree) (source destination : Path) : Tree :=
  match t.entry? (t.plainLocation source) with
  | some e => t.put (t.plainLocation destination) e
  | none => t

/-- Makes a link to a path. -/
def makeLink (t : Tree) (target destination : Path) : Tree :=
  t.put (t.plainLocation destination) (.link target)

end Tree

end Stencil.Files
