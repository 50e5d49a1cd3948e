import Stencil.CommandLine.Arguments
import Stencil.CommandLine.Params
import Stencil.Config.Fault
import Stencil.Render.Template

/-!
# What the command line does

A command shows the version, or renders a template and shows the output. Parameters come from a file
and from the arguments, which count more; defaults come from a file that the arguments or the
environment name. The template is that of the arguments, and never that of the defaults.

A render has an engine of its own; templates that it renders on the way have the engine in charge.

- `perform`: the outcome of a command.
-/

namespace Stencil.CommandLine

open Files Script Render Config

/-- How a command ends. -/
inductive Outcome where
  /-- With some output. -/
  | output (text : List Char)
  /-- With the message of an error. -/
  | failure (message : List Char)
  /-- With a complaint about the arguments. -/
  | usage
  /-- With an exception of some class that nothing was prepared for. A text that should have been
  YAML has none. -/
  | exception (class? : Option String)
  deriving DecidableEq, Repr, Inhabited

/-- The exit code of an outcome. -/
def Outcome.exitCode : Outcome → Nat
  | output _ => 0
  | failure _ | exception _ => 1
  | usage => 2

/-- A result, or how the command ends without one. -/
abbrev Step (α : Type) := Except Outcome α

/-- The classes of exceptions about defaults whose messages are shown. -/
def shownClasses : List String :=
  ["FileNotFoundError", "ValueError", "UnicodeDecodeError", "ValidationError"]

/-- How a command ends that cannot read its defaults. -/
def configOutcome (f : ConfigFault) : Outcome :=
  match f.class? with
  | some c => if shownClasses.contains c then .failure f.message else .exception (some c)
  | none => .exception none

/-- How a command ends whose render does not come to an end. -/
def faultOutcome (heap : Heap) (f : Fault) : Outcome :=
  if f.isPlate || f.kind.isWithin .fileNotFoundError || f.kind.isWithin .valueError then
    .failure (f.message heap)
  else .exception (some f.kind.name)

/-! ## Options of a render -/

/-- The parameters in a file. -/
def fileParams (t : Tree) : Option Argument → Step (List (Data × Data))
  | none => .ok []
  | some name => do
    let d ← (readDocument t (.ofText name)).mapError fun f => Outcome.exception f.class?
    match mappingOf? d with
    | some entries => .ok entries
    | none => .error .usage

/-- How a command ends that cannot read a parameter. -/
def paramOutcome : ParamFault → Outcome
  | .noPair _ => .usage
  | .value f => .exception (contentClass? f)

/-- The parameters of a file and of the arguments. -/
def allParams (t : Tree) (r : RenderRequest) : Step (List (Data × Data)) := do
  let file ← fileParams t r.paramsFile?
  let given ← (parseParams r.params).mapError paramOutcome
  return putAllNamed given file

/-- A list of texts as data. -/
def textList (l : List (List Char)) : Data := .list (l.map .text)

/-- The options that a command asks for. Only what is given on the command line is set. -/
def requestEntries (r : RenderRequest) (params : List (Data × Data)) : List (Data × Data) :=
  let source := if r.isText then OptionField.inputString else OptionField.inputFile
  let flag := fun (f : OptionField) (on : Bool) =>
    if on then [(Data.text f.name, Data.bool true)] else []
  [(.text OptionField.params.name, .dict params), (.text OptionField.path.name, textList r.path),
    (.text source.name, .text r.template)]
    ++ flag .raw r.raw ++ flag .preprocessOnly r.preprocessOnly

/-- The defaults in a file. -/
def fileDefaults (t : Tree) : Option Argument → Step (Options Data)
  | none => .ok .empty
  | some name => (loadDefaults t (.ofText name)).mapError configOutcome

/-- The options and the defaults of a render. -/
def renderOptions (t : Tree) (environment? : Option Argument) (r : RenderRequest) :
    Step (Options Data × Options Data) := do
  let params ← allParams t r
  let defaults ← fileDefaults t (r.config?.or (environment?.filter (· ≠ [])))
  match Options.ofEntries (requestEntries r params) with
  | .ok o => return (o, defaults)
  | .error issues => .error (.failure (issuesMessage issues))

/-! ## Commands -/

/-- A render with an engine of its own. -/
def renderApart (options defaults : Options Data) : Work Value := do
  let defaults ← ofOptions defaults
  updateWorld (World.updateEngine .apart fun _ => Engine.create defaults none)
  render calls .apart (← newOptions (← ofOptions options)) []

/-- The text that is shown for the output of a template. Nothing is shown for nothing, and bytes are
shown as the text that they make. -/
def shownText (heap : Heap) : Value → List Char
  | .none => []
  | .bytes b => (Text.decodeUtf8 b).toOption.getD []
  | v => v.display heap

/-- The outcome of a render. -/
def performRender (t : Tree) (environment? : Option Argument) (r : RenderRequest) : Outcome :=
  match renderOptions t environment? r with
  | .error outcome => outcome
  | .ok (options, defaults) =>
    match (renderApart options defaults).perform (.start (.start t)) with
    | (.ok v, m) => .output (shownText m.heap v)
    | (.error f, m) => faultOutcome m.heap f

/-- What is shown for the version. -/
def versionText : List Char := (programName ++ " " ++ version ++ "\n").toList

/-- How the command line is used. -/
def usageText : List Char := "Usage: plate [render TEMPLATE | version]\n".toList

/-- The outcome of a command line, given the files and the variable of the environment that names a
file of defaults. -/
def perform (t : Tree) (environment? : Option Argument) (arguments : List Argument) : Outcome :=
  match Command.ofArguments? arguments with
  | none => .usage
  | some .help => .output usageText
  | some .version => .output versionText
  | some (.render r) => performRender t environment? r

end Stencil.CommandLine
