import Stencil.Options.Coerce
import Stencil.Render.Source
import Stencil.Render.World
import Stencil.Script.Build

/-!
# Renders

A render takes the caller's options over the defaults of an engine, finds the template that they
name or hold, makes a unit of it unless the engine keeps one, and runs the unit. What goes wrong
with a template that came from a file is told with the file's name, as the caller gave it, in front.

Running a template may render others with the engine in charge, give it other defaults and empty its
store; the commands for that are the `host` of the scripts.

- `renderMerged`: a render whose options are complete.
- `render`: a render, with the options as a caller gives them.
-/

namespace Stencil.Render

open Script

/-- The name of the file of a template that is given as a text. -/
def textFileName : List Char := "<string>".toList

/-- An exception about a template without a program. -/
def templateFault (e : Program.TemplateError) : Fault :=
  .located .templateSyntaxError e.message (some e.line)

/-- The program of a template. -/
def compile (text : List Char) : Work (List Char) := do
  updateWorld fun w => { w with compiles := w.compiles + 1 }
  unsettle ((Program.preprocess text).mapError templateFault)

/-- The program that a text is or has, and the number of its lines before the first line of the
text. -/
def programOf (raw : Bool) (text : List Char) : Work (List Char × Int) := do
  if raw then return (text, 0)
  else return (← compile text, Program.lineOffset)

/-- The parameters of some options. No parameters are a mapping of their own. -/
def paramsOf (options : Value) : Work Value := do
  match ← Run.object? options with
  | some (.options o params _) =>
    if o.params.isEmpty then Run.newObject (.dict []) else return .ref params
  | _ => Run.newObject (.dict [])

/-- Runs a unit with some options, and counts it among those that are running. -/
def runUnit (call : Caller World) (seat : Seat) (unit : CompiledUnit) (options : Value) :
    Work Value := do
  let params ← paramsOf options
  counted (fun change => World.updateEngine seat fun e => { e with depth := change e.depth })
    (execute call unit options params)

/-- What a text answers, given the unit that is kept for it, if there is one. -/
def renderSource (call : Caller World) (seat : Seat) (o : Options Value) (key? : Option Identity)
    (kept? : Option CompiledUnit) (text fileName : List Char) : Work Value := do
  if o.preprocessOnly then return .text (← compile text)
  else
    let unit ← match kept? with
      | some unit => pure unit
      | none => do
        let (program, lineOffset) ← programOf o.raw text
        install call seat key? program fileName lineOffset
    runUnit call seat unit (← newOptions o)

/-- A computation whose exceptions about templates get a name in front. -/
def withName {α : Type} (name : List Char) (r : Work α) : Work α :=
  tryCatch r fun f => do Run.fail (← Run.keep (if f.isPlate then f.addPrefix name else f))

/-- What the file of a name answers. The file is only read if its text is needed. -/
def renderFile (call : Caller World) (seat : Seat) (o : Options Value) (name : List Char) :
    Work Value := do
  let source ← unsettle (openSource (← Run.world).files name o.path)
  let kept? ← lookup seat source.identity?
  let text ←
    if kept?.isNone || o.preprocessOnly then unsettle (source.text o.encoding) else pure []
  withName name (renderSource call seat o source.identity? kept? text source.path.written)

/-- An exception about a render of nothing. -/
def noSourceFault : Fault := .located .templateResourceError "No input specified" none

/-- A render whose options are complete. A text comes before a file. -/
def renderMerged (call : Caller World) (seat : Seat) (o : Options Value) : Work Value := do
  match o.inputString, o.inputFile with
  | some text, _ => renderSource call seat o none none text textFileName
  | none, some name => renderFile call seat o name
  | none, none => Run.fail noSourceFault

/-! ## Options of a render -/

/-- The mapping that pairs make. -/
def pairEntries (pairs : List Value) : Work (List (Value × Value)) :=
  pairs.zipIdx.foldlM (fun entries p => do
    let element := "dictionary update sequence element #" ++ toString p.2
    match ← items? p.1 with
    | some [key, v] => addEntry entries key v
    | some items =>
      Run.raise .valueError
        (element ++ " has length " ++ toString items.length ++ "; 2 is required")
    | none => Run.typeError ("cannot convert " ++ element ++ " to a sequence")) []

/-- The mapping that a value stands for: the value itself, or the pairs in it. -/
def mappingOf (v : Value) : Work (List (Value × Value)) := do
  match ← Run.object? v with
  | some (.dict entries) => return entries
  | _ =>
    match ← items? v with
    | some pairs => pairEntries pairs
    | none => Run.typeError ("'" ++ (← Run.typeOf v) ++ "' object is not iterable")

/-- Options whose parameters and extras are copies. -/
def copyOptions (o : Options Value) : Work (Options Value) := do
  let params? ← match o.params? with
    | some params => pure (some (← copyAll params))
    | none => pure none
  return { o with params?, extras := ← copyAll o.extras }

/-- The search path of options as it is now, if it was given and no other is given anew. -/
def pathEntry (o : Options Value) (path : Address) (overrides : Entries Value) : Entries Value :=
  let name := OptionField.path.name
  if o.path?.isSome && (overrides.get? name).isNone then [(name, .ref path)] else []

/-- The options that a caller means with a value, some names of which are given anew. -/
def givenOptions (options : Value) (overrides : Entries Value) : Work (Options Value) := do
  let (given, overrides) ← match options, ← Run.object? options with
    | .none, _ => pure (Given.nothing, overrides)
    | _, some (.options o _ path) =>
      pure (.options (← copyOptions o), pathEntry o path overrides ++ overrides)
    | v, _ => pure (.mapping (← mappingOf v), overrides)
  match @Options.coerce Value (Value.material (← Run.heap)) given overrides with
  | .ok o => return o
  | .error issues => Run.fail (.new .validationError (.issues issues))

/-- Options with the defaults of an engine for what they do not give. -/
def mergeDefaults (seat : Seat) (o : Options Value) : Work (Options Value) := do
  let extras ← copyAll o.extras
  let defaults := (← engineAt seat).defaults
  return @Options.merge Value (Value.material (← Run.heap)) { o with extras } defaults

/-- A render, with the options as a caller gives them. -/
def render (call : Caller World) (seat : Seat) (options : Value) (overrides : Entries Value) :
    Work Value := do
  renderMerged call seat (← mergeDefaults seat (← givenOptions options overrides))

/-- Replaces the defaults of the engine in charge. -/
def setDefaults (options : Value) : Work Unit := do
  let defaults ← givenOptions options []
  updateWorld (World.updateEngine .shared fun e => { e with defaults })

/-! ## Commands for scripts -/

/-- The value of a parameter, or nothing. -/
def argument (name : String) (bound : List (String × Value)) : Value :=
  (bound.lookup name).getD .none

/-- A render, as a template asks for it. What is named and no parameter is an option. -/
def renderCommand (p : Parameters) (call : Caller World) (args : Args) : Work Value := do
  let (named, overrides) := args.named.partition fun e => p.names.contains e.1
  let bound ← p.bind { args with named }
  render call .shared (argument "options" bound) (overrides.map fun e => (e.1.toList, e.2))

/-- A replacement of the defaults, as a template asks for it. -/
def setDefaultsCommand (args : Args) : Work Value := do
  let bound ← Parameters.bind ⟨"set_defaults", ["defaults"], 0, none⟩ args
  setDefaults (argument "defaults" bound)
  return .none

/-- An emptied store, as a template asks for it. -/
def clearCommand (args : Args) : Work Value := do
  let _ ← Parameters.bind ⟨"CompiledUnitCache.clear", ["self"], 0, none⟩ args
  updateUnits .shared (·.clear)
  return .none

/-- What scripts can ask of their world. -/
def host : Host World := ⟨renderCommand, setDefaultsCommand, clearCommand⟩

/-- Calls that scripts make. -/
def calls : Caller World := callAt host callDepth

end Stencil.Render
