import Stencil.Files.Tree
import Stencil.Options.Validation
import Stencil.Yaml.Load

/-!
# Configuration files

Files in YAML that hold options or parameters. A file that holds nothing holds no options and no
parameters.

- `readDocument`: the data of a file.
- `loadDefaults`: the options of a file, which are the defaults of renders.
-/

namespace Stencil.Config

open Files

/-- Why a file has no options or parameters. -/
inductive ConfigFault where
  /-- There is no file of options at a path. -/
  | missing (p : Path)
  /-- A path cannot be opened. -/
  | path (p : Path) (f : PathFault)
  /-- The bytes of a file make no text. -/
  | bytes (f : Text.DecodeFault)
  /-- The text of a file has no data. -/
  | content (f : Yaml.LoadFault)
  /-- The data of a file of options is no mapping. -/
  | noMapping (p : Path)
  /-- The data of a file makes no options. -/
  | invalid (issues : List Issue)
  deriving DecidableEq, Repr, Inhabited

/-- The data of a file in YAML. -/
def readDocument (t : Tree) (p : Path) : Except ConfigFault Data := do
  let (_, file) ← (t.openFile p).mapError (.path p)
  let text ← (Text.decodeUtf8 file.bytes).mapError .bytes
  (Yaml.load text).mapError .content

/-- The entries of a mapping. Data that counts as false is an empty one. -/
def mappingOf? (d : Data) : Option (List (Data × Data)) :=
  if d.truthy then
    match d with
    | .dict entries => some entries
    | _ => none
  else some []

/-- The entries of the mapping in a file of options. -/
def readOptions (t : Tree) (p : Path) : Except ConfigFault (List (Data × Data)) := do
  match t.find p with
  | .error .nameTooLong => .error (.path p .nameTooLong)
  | .error _ => .error (.missing p)
  | .ok _ =>
    match mappingOf? (← readDocument t p) with
    | some entries => .ok entries
    | none => .error (.noMapping p)

/-- The options of a file. -/
def loadDefaults (t : Tree) (p : Path) : Except ConfigFault (Options Data) := do
  (Options.ofEntries (← readOptions t p)).mapError .invalid

end Stencil.Config
