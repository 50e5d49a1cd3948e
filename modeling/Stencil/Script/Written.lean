import Stencil.Decimal.Format
import Stencil.Script.Value
import Stencil.Text.Quoted

/-!
# Values as text

A value has two texts: one for people, its display, and one that shows what it is, as it stands in a
list or a mapping. The two differ for texts, which are quoted in the second, for exceptions and for
dates. A list or mapping within itself is written as three dots.

- `Value.display`, `Value.written`: the two texts.
- `Fault.message`: the display of an exception.
-/

namespace Stencil.Script

open Text

/-- Texts with a comma and a blank between them. -/
def commaJoined : List (List Char) → List Char
  | [] => []
  | [s] => s
  | s :: rest => s ++ [',', ' '] ++ commaJoined rest

/-- A truth value as text. -/
def boolText (b : Bool) : List Char := if b then "True".toList else "False".toList

/-- A text that may be missing, as an expression. -/
def optionalWritten : Option (List Char) → List Char
  | none => "None".toList
  | some s => quoted s

/-- The fields of options with their values as expressions, given how values are written. -/
def optionFields (write : Value → List Char) (o : Options Value) (params path : Address) :
    List (List Char) :=
  let field := fun (name : String) (value : List Char) => name.toList ++ ['='] ++ value
  [field "input_file" (optionalWritten o.inputFile),
    field "input_string" (optionalWritten o.inputString),
    field "params" (write (.ref params)),
    field "path" (write (.ref path)),
    field "raw" (boolText o.raw),
    field "preprocess_only" (boolText o.preprocessOnly),
    field "encoding" (quoted o.encoding)]
    ++ o.extras.map fun e => e.1 ++ ['='] ++ write e.2

/-- The address of an object that has no text of its own, as a stand-in for one. -/
def anonymous (what : String) : List Char := ("<" ++ what ++ ">").toList

namespace Value

/-- What a value is, as an expression. The objects in `inside` are being written; `depth` bounds how
far objects may be nested, and there are no more levels than objects. -/
def writtenAt (heap : Heap) : Nat → List Address → Value → List Char
  | _, _, none => "None".toList
  | _, _, bool b => boolText b
  | _, _, int n => (toString n).toList
  | _, _, float x => Decimal.floatText x
  | _, _, text s => quoted s
  | _, _, moment m => m.expression
  | _, _, bytes b => quotedBytes b
  | _, _, builtin .len => anonymous "built-in function len"
  | _, _, builtin .warn => anonymous "built-in function warn"
  | _, _, builtin .str => anonymous "class 'str'"
  | _, _, builtin .range => anonymous "class 'range'"
  | _, _, builtin .render => anonymous "function render"
  | _, _, builtin .setDefaults => anonymous "function set_defaults"
  | _, _, builtin .getEngine => anonymous "function get_engine"
  | _, _, builtin .loadDefaults => anonymous "function load_defaults"
  | _, _, builtin .renderOptions => anonymous "class 'plate.config.RenderOptions'"
  | _, _, builtin .engineRender => anonymous "bound method Engine.render"
  | _, _, builtin .clearCache => anonymous "bound method CompiledUnitCache.clear"
  | _, _, errorClass c => anonymous ("class '" ++ c.name ++ "'")
  | _, _, module _ => anonymous "module"
  | _, _, member _ => anonymous "bound method"
  | _, _, handle .engine => anonymous "plate.engine.Engine object"
  | _, _, handle .cache => anonymous "plate.runtime.cache.CompiledUnitCache object"
  | 0, _, ref _ => ['.', '.', '.']
  | depth + 1, inside, ref a =>
    let write := writtenAt heap depth (a :: inside)
    match heap[a]? with
    | some (.list items) =>
      if inside.contains a then "[...]".toList
      else '[' :: commaJoined (items.map write) ++ [']']
    | some (.tuple items) =>
      if inside.contains a then "(...)".toList
      else match items with
        | [item] => '(' :: write item ++ [',', ')']
        | items => '(' :: commaJoined (items.map write) ++ [')']
    | some (.set items) =>
      if inside.contains a then "set(...)".toList
      else if items.isEmpty then "set()".toList
      else '\x7b' :: commaJoined (items.map write) ++ ['\x7d']
    | some (.dict entries) =>
      if inside.contains a then "\x7b...\x7d".toList
      else '\x7b' :: commaJoined (entries.map fun e => write e.1 ++ [':', ' '] ++ write e.2)
        ++ ['\x7d']
    | some (.range start stop step) =>
      let numbers := if step = 1 then [start, stop] else [start, stop, step]
      "range(".toList ++ commaJoined (numbers.map fun n => (toString n).toList) ++ [')']
    | some (.function f) => anonymous ("function " ++ f.path)
    | some (.method ..) => anonymous "built-in method"
    | some (.options o params path) =>
      "RenderOptions(".toList ++ commaJoined (optionFields write o params path) ++ [')']
    | some (.exception f) =>
      let args := match f.detail with
        | .args args => args.map write
        | .located message .. => [quoted message]
        | .issues _ => []
      f.kind.name.toList ++ ['('] ++ commaJoined args ++ [')']
    | Option.none => anonymous "object"

/-- What a value is, as an expression. -/
def written (heap : Heap) (v : Value) : List Char := v.writtenAt heap (heap.size + 1) []

end Value

/-- The words for what is wrong with some options. -/
def issuesMessage (issues : List Issue) : List Char :=
  let count := issues.length
  let head := toString count ++ " validation error" ++ (if count = 1 then "" else "s")
    ++ " for RenderOptions"
  let place := fun (p : List Place) =>
    ['.'].intercalate (p.map fun
      | .name s => s
      | .index n => (toString n).toList)
  let one := fun (i : Issue) =>
    '\n' :: place i.place ++ "\n  ".toList ++ i.complaint.message.toList
      ++ " [type=".toList ++ i.complaint.code.toList ++ [']']
  head.toList ++ issues.flatMap one

/-- The message of an exception, given how the values are displayed that it was made with. A key
that was not found is shown as an expression, an error of the system with its number. -/
def Fault.messageBy (display : Value → List Char) (heap : Heap) (f : Fault) : List Char :=
  let numbered := fun (number text : Value) =>
    "[Errno ".toList ++ display number ++ "] ".toList ++ display text
  match f.detail with
  | .located message .. => message
  | .issues issues => issuesMessage issues
  | .args [] => if f.kind.isWithin .syntaxError then "None".toList else []
  | .args [v] => if f.kind.isWithin .keyError then v.written heap else display v
  | .args args =>
    match f.kind.isWithin .osError, args with
    | true, [number, text] | true, [number, text, .none] => numbered number text
    | true, number :: text :: file :: _ => numbered number text ++ ": ".toList ++ file.written heap
    | _, args => '(' :: commaJoined (args.map (·.written heap)) ++ [')']

/-- The text of a value for people. There are no more levels of exceptions made with exceptions than
`depth`. -/
def Value.displayAt (heap : Heap) : Nat → Value → List Char
  | 0, v => v.written heap
  | depth + 1, v =>
    match v with
    | .text s => s
    | .moment m => m.display
    | .ref a =>
      match heap[a]? with
      | some (.exception f) => f.messageBy (displayAt heap depth) heap
      | some (.options o params path) =>
        [' '].intercalate (optionFields (Value.written heap) o params path)
      | _ => v.written heap
    | _ => v.written heap

/-- The text of a value for people. -/
def Value.display (heap : Heap) (v : Value) : List Char := v.displayAt heap (heap.size + 1)

/-- The message of an exception. -/
def Fault.message (heap : Heap) (f : Fault) : List Char := f.messageBy (Value.display heap) heap

end Stencil.Script
