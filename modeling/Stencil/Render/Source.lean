import Stencil.Files.Search
import Stencil.Render.Identity
import Stencil.Script.Call
import Stencil.Text.Encoding

/-!
# Template files

A template file is found by its name, opened and read. The identity of an opened file belongs to
just the bytes that are read from it. Whatever goes wrong on the way is an exception.

- `openSource`: the file of a name.
- `Source.text`: its text in some encoding.
-/

namespace Stencil.Render

open Files Script

/-- An opened template file. -/
structure Source where
  /-- Where it was found. -/
  path : Path
  /-- What it is known by, if it is a file at all. -/
  identity? : Option Identity
  /-- What is in it. -/
  bytes : List UInt8
  deriving Repr, Inhabited

/-- The device that all files are on. -/
def device : Int := 1

/-- An exception about a path that cannot be looked at. -/
def pathFault (p : Path) (f : PathFault) : Fault :=
  .ofMessage .osError ("[Errno " ++ toString f.number ++ "] " ++ f.message ++ ": "
    ++ String.ofList (Text.quoted p.written))

/-- An exception about a file that cannot be read, with its path in front. -/
def resourceFault (p : Path) (message : List Char) : Fault :=
  .new .templateResourceError (.located (p.written ++ [':', ' '] ++ message) none .none none)

/-- An exception about a name that no file has. -/
def searchFault (name : List Char) : SearchFault → Fault
  | .noEntry => .new .templateNotFoundError (.located (notFoundMessage name) none .none (some name))
  | .unreadable p f => pathFault p f

/-- An exception about a path that cannot be opened. -/
def openFault (p : Path) : PathFault → Fault
  | .nullName => .ofMessage .valueError PathFault.nullName.message
  | f => resourceFault p f.message.toList

/-- The file of a name, looked for in some directories. -/
def openSource (files : Tree) (name : List Char) (directories : List (List Char)) :
    Except Fault Source :=
  match files.search name directories with
  | .error f => .error (searchFault name f)
  | .ok p =>
    match files.openFile p with
    | .error f => .error (openFault p f)
    | .ok (serial, file) => .ok ⟨p, some ⟨device, serial, file.modified⟩, file.bytes⟩

/-- An exception about bytes that have no text. -/
def decodeFault (p : Path) (f : Text.EncodingFault) : Fault :=
  match f with
  | .bytes _ => resourceFault p f.message
  | .unknown _ | .noText _ => .new .lookupError (.args [.text f.message])
  | .refused .. => .new .unicodeError (.args [.text f.message])
  | .nullName => .new .valueError (.args [.text f.message])

/-- The text of a file. -/
def Source.text (s : Source) (encoding : List Char) : Except Fault (List Char) :=
  (Text.decode encoding s.bytes).mapError (decodeFault s.path)

end Stencil.Render
