import Stencil.Options.Basic
import Stencil.Yaml.Load

/-!
# Parameters on the command line

A parameter is given as a name and a value with an equals sign between them. The value is read as
YAML; a value that is not written in that language is a text as it stands.

- `parseParams`: the parameters of some arguments.
-/

namespace Stencil.CommandLine

/-- Why an argument is no parameter. -/
inductive ParamFault where
  /-- It has no name or no equals sign. -/
  | noPair (item : List Char)
  /-- Its value has no meaning. -/
  | value (f : Yaml.LoadFault)
  deriving DecidableEq, Repr, Inhabited

/-- The name and the value in an argument. -/
def splitParam? (item : List Char) : Option (List Char × List Char) :=
  let name := item.takeWhile (· ≠ '=')
  if name = [] ∨ name.length = item.length then none
  else some (name, item.drop (name.length + 1))

/-- What a value means. -/
def paramValue (s : List Char) : Except ParamFault Data :=
  if s = [] then .ok (.text [])
  else
    match Yaml.load s with
    | .ok d => .ok d
    | .error .malformed => .ok (.text s)
    | .error f => .error (.value f)

/-- Adds the parameter of an argument. -/
def addParam (params : Entries Data) (item : List Char) : Except ParamFault (Entries Data) :=
  match splitParam? item with
  | none => .error (.noPair item)
  | some (name, text) => (paramValue text).map fun d => params.put name d

/-- The parameters of some arguments. Of values for one name the last counts. -/
def parseParams (items : List (List Char)) : Except ParamFault (Entries Data) :=
  items.foldlM addParam []

/-- The message about an argument without a name or an equals sign. -/
def noPairMessage (item : List Char) : List Char :=
  "expected key=value, got ".toList ++ Text.quoted item

end Stencil.CommandLine
