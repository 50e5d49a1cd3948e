import Stencil.Options.Coerce
import Stencil.Script.Operation

/-!
# Calls

How arguments meet parameters, and what the functions do that need no running script: lengths,
texts, ranges, warnings, exceptions, options, and the functions of texts, lists and mappings. They
are those of `Builtin` and `Method`; the language has more.

- `bind`: the values of parameters, or the first thing wrong with the arguments.
-/

namespace Stencil.Script

variable {W : Type}

/-- Names with quotes, with commas and a final `and` between them. -/
def quotedNames : List String → String
  | [] => ""
  | [a] => "'" ++ a ++ "'"
  | [a, b] => "'" ++ a ++ "' and '" ++ b ++ "'"
  | names =>
    ", ".intercalate (names.dropLast.map fun n => "'" ++ n ++ "'")
      ++ ", and '" ++ names.getLastD "" ++ "'"

/-- The parameters of a function. -/
structure Parameters where
  /-- How messages call the function. -/
  shown : String
  /-- Their names. -/
  names : List String
  /-- How many of the last ones may be missing. -/
  optional : Nat
  /-- The parameter that takes all other arguments, if there is one. -/
  rest? : Option String

namespace Parameters

/-- The words for how many arguments a function takes. -/
def expectation (p : Parameters) : String :=
  let most := p.names.length
  let least := most - p.optional
  if least = most then toString most ++ " positional argument" ++ (if most = 1 then "" else "s")
  else "from " ++ toString least ++ " to " ++ toString most ++ " positional arguments"

/-- Adds an argument with a name to those that are bound. -/
def bindNamed (p : Parameters) (bound : List (String × Value)) (name : String) (v : Value) :
    Run W (List (String × Value)) :=
  if !p.names.contains name then
    Run.typeError (p.shown ++ "() got an unexpected keyword argument '" ++ name ++ "'")
  else if (bound.map (·.1)).contains name then
    Run.typeError (p.shown ++ "() got multiple values for argument '" ++ name ++ "'")
  else return bound ++ [(name, v)]

/-- The values of the parameters, in any order. A parameter that may be missing may have none. -/
def bind (p : Parameters) (args : Args) : Run W (List (String × Value)) := do
  let given := args.positional.length
  let bound ← args.named.foldlM (fun bound a => bindNamed p bound a.1 a.2)
    (p.names.zip args.positional)
  if p.names.length < given ∧ p.rest? = none then
    Run.typeError (p.shown ++ "() takes " ++ p.expectation ++ " but " ++ toString given
      ++ (if given = 1 then " was" else " were") ++ " given")
  let required := p.names.take (p.names.length - p.optional)
  match required.filter fun n => !(bound.map (·.1)).contains n with
  | [] =>
    match p.rest? with
    | none => return bound
    | some rest =>
      let others ← Run.newObject (.tuple (args.positional.drop p.names.length))
      return bound ++ [(rest, others)]
  | missing =>
    Run.typeError (p.shown ++ "() missing " ++ toString missing.length
      ++ " required positional argument" ++ (if missing.length = 1 then "" else "s") ++ ": "
      ++ quotedNames missing)

end Parameters

/-- The parameters of a function that renders. -/
def renderParameters : Parameters := ⟨"render", ["options"], 1, none⟩

/-- The parameters of the function of an engine that renders. -/
def engineRenderParameters : Parameters := ⟨"Engine.render", ["self", "options"], 1, none⟩

/-- The parameters of a function that a program defines. -/
def Closure.parameters (f : Closure) : Parameters :=
  ⟨f.path, f.signature.parameters, 0, f.signature.rest?⟩

/-! ## Exceptions -/

/-- The parameters of an exception about a template. -/
def faultParameters (c : ErrorClass) : Parameters :=
  if c = .templateNotFoundError then
    ⟨"TemplateNotFoundError.__init__", ["self", "name"], 0, none⟩
  else if c = .templateRuntimeError then
    ⟨"TemplateRuntimeError.__init__", ["self", "message", "line", "original"], 2, none⟩
  else ⟨"PlateError.__init__", ["self", "message", "line"], 1, none⟩

/-- The message of an exception for a template that was not found. -/
def notFoundMessage (name : List Char) : List Char := name ++ ": not found in search path".toList

/-- How many values an exception has to be made with, if it is not made with any number. -/
def valueCount? (c : ErrorClass) : Option Nat :=
  match c with
  | .unicodeDecodeError | .unicodeEncodeError => some 5
  | .unicodeTranslateError => some 4
  | _ => none

/-- The names that values may have with which an exception is made, with the class that takes
them. -/
def valueNames? (c : ErrorClass) : Option (ErrorClass × List String) :=
  [(.importError, ["name", "path"]), (.nameError, ["name"]),
    (.attributeError, ["name", "obj"])].find? fun e => c.isWithin e.1

/-- The class of an error of the system, by its number. -/
def systemClasses : List (Int × ErrorClass) :=
  [(1, .permissionError), (2, .fileNotFoundError), (3, .processLookupError),
    (4, .interruptedError), (10, .childProcessError), (11, .blockingIOError),
    (13, .permissionError), (17, .fileExistsError), (20, .notADirectoryError),
    (21, .isADirectoryError), (32, .brokenPipeError), (103, .connectionAbortedError),
    (104, .connectionResetError), (108, .brokenPipeError), (110, .timeoutError),
    (111, .connectionRefusedError), (114, .blockingIOError), (115, .blockingIOError)]

/-- The class that an exception is of which is made with some values: an error of the system with a
number and a text has a class by its number. -/
def classFor (c : ErrorClass) (args : List Value) : ErrorClass :=
  match c, args with
  | .osError, number :: _ :: _ => ((number.int?.bind fun n => systemClasses.lookup n).getD .osError)
  | c, _ => c

/-- An exception of a class that is known without an import. -/
def makeBuiltin (c : ErrorClass) (args : Args) : Run W Fault := do
  let given := args.positional.length
  match args.named, valueNames? c with
  | [], _ => pure ()
  | _, none => Run.typeError (c.name ++ "() takes no keyword arguments")
  | named, some (owner, names) =>
    if let some (name, _) := named.find? fun a => !names.contains a.1 then
      Run.typeError ("'" ++ name ++ "' is an invalid keyword argument for " ++ owner.name ++ "()")
  if let some count := valueCount? c then
    if given ≠ count then
      Run.typeError ("function takes exactly " ++ toString count ++ " arguments ("
        ++ toString given ++ " given)")
  return .new (classFor c args.positional) (.args args.positional)

/-- An exception of a class. -/
def makeFault (c : ErrorClass) (args : Args) : Run W Fault := do
  if c.isWithin .plateError then
    let self : Args := { args with positional := .errorClass c :: args.positional }
    let bound ← (faultParameters c).bind self
    let heap ← Run.heap
    let text := fun name => ((bound.lookup name).map (Value.display heap)).getD []
    if c = .templateNotFoundError then
      return .new c (.located (notFoundMessage (text "name")) none .none (some (text "name")))
    else
      let line? := (bound.lookup "line").bind Value.int?
      let wrapped := (bound.lookup "original").getD .none
      return .new c (.located (text "message") line? wrapped none)
  else makeBuiltin c args

/-- The exception that a value stands for when it is raised. -/
def faultOf (v : Value) : Run W Fault := do
  match v, ← Run.object? v with
  | .errorClass c, _ => makeFault c ⟨[], []⟩
  | .ref a, some (.exception f) => return { f with object? := some a }
  | _, _ => return .ofMessage .typeError "exceptions must derive from BaseException"

/-! ## Functions of values -/

/-- Refuses arguments with names. -/
def noNamed (shown : String) (args : Args) : Run W Unit := do
  if args.named ≠ [] then Run.typeError (shown ++ " takes no keyword arguments")

/-- An argument that has to be an integer. -/
def expectInt (v : Value) : Run W Int := do
  match v.int? with
  | some n => return n
  | none =>
    Run.typeError ("'" ++ (← Run.typeOf v) ++ "' object cannot be interpreted as an integer")

/-- A range of integers. -/
def makeRange (args : List Value) : Run W Value := do
  match args with
  | [] => Run.typeError "range expected at least 1 argument, got 0"
  | [stop] =>
    let stop ← expectInt stop
    Run.newObject (.range 0 stop 1)
  | [start, stop] =>
    let start ← expectInt start
    let stop ← expectInt stop
    Run.newObject (.range start stop 1)
  | [start, stop, step] =>
    let start ← expectInt start
    let stop ← expectInt stop
    let step ← expectInt step
    if step = 0 then Run.raise .valueError "range() arg 3 must not be zero"
    else Run.newObject (.range start stop step)
  | args => Run.typeError ("range expected at most 3 arguments, got " ++ toString args.length)

/-- Texts with another text between them. -/
def joinTexts (separator : List Char) (items : List Value) : Run W Value := do
  let texts ← (items.zipIdx).mapM fun (v, i) => do
    match v with
    | .text s => return s
    | v =>
      Run.typeError ("sequence item " ++ toString i ++ ": expected str instance, "
        ++ (← Run.typeOf v) ++ " found")
  return .text (separator.intercalate texts)

/-- Bytes with other bytes between them. -/
def joinBytes (separator : List UInt8) (items : List Value) : Run W Value := do
  let parts ← (items.zipIdx).mapM fun (v, i) => do
    match v with
    | .bytes b => return b
    | v =>
      Run.typeError ("sequence item " ++ toString i ++ ": expected a bytes-like object, "
        ++ (← Run.typeOf v) ++ " found")
  return .bytes (separator.intercalate parts)

/-- A text or bytes in another letter case. In bytes, only the letters of ASCII have a case. -/
def inCase (textCase : List Char → List Char) (v : Value) : Value :=
  match v with
  | .text s => .text (textCase s)
  | .bytes b =>
    .bytes (b.map fun x =>
      if x < 128 then ((textCase [Char.ofNat x.toNat]).map fun c => c.toNat.toUInt8).headD x else x)
  | v => v

/-- The function of a value, applied. -/
def applyMethod (m : Method) (self : Value) (args : Args) : Run W Value := do
  let given := args.positional.length
  let toCase := fun (name : String) (textCase : List Char → List Char) => do
    let shown := (← Run.typeOf self) ++ "." ++ name ++ "()"
    noNamed shown args
    if given = 0 then return inCase textCase self
    else Run.typeError (shown ++ " takes no arguments (" ++ toString given ++ " given)")
  match m, self, ← Run.object? self with
  | .get, _, some (.dict entries) =>
    noNamed "dict.get()" args
    match args.positional with
    | [key] => return (← entry? entries key).getD .none
    | [key, otherwise] => return (← entry? entries key).getD otherwise
    | [] => Run.typeError "get expected at least 1 argument, got 0"
    | _ => Run.typeError ("get expected at most 2 arguments, got " ++ toString given)
  | .join, _, _ =>
    let shown := (← Run.typeOf self) ++ ".join()"
    noNamed shown args
    match args.positional with
    | [v] =>
      match self, ← items? v with
      | .text s, some items => joinTexts s items
      | .bytes b, some items => joinBytes b items
      | _, _ => Run.typeError "can only join an iterable"
    | _ => Run.typeError (shown ++ " takes exactly one argument (" ++ toString given ++ " given)")
  | .append, .ref a, some (.list items) =>
    noNamed "list.append()" args
    match args.positional with
    | [v] =>
      Run.setObject a (.list (items ++ [v]))
      return .none
    | _ =>
      Run.typeError ("list.append() takes exactly one argument (" ++ toString given ++ " given)")
  | .upper, _, _ => toCase "upper" Text.upperText
  | .lower, _, _ => toCase "lower" Text.lowerText
  | _, _, _ => Run.typeError "descriptor does not apply"

/-- The line to which a warning is attributed: that of the call or of one of those around it. -/
def warningLine (level : Int) (lines : List Nat) : Nat := (lines[(level - 1).toNat]?).getD 1

/-- Issues a warning, as the function for it does. The lines are those of the call and of the calls
around it, innermost first. -/
def applyWarn (args : Args) (lines : List Nat) : Run W Value := do
  let kind := match args.positional[1]?.or (args.named.lookup "category") with
    | some (.errorClass c) => c
    | _ => .userWarning
  let level := ((args.positional[2]?.or (args.named.lookup "stacklevel")).bind Value.int?).getD 1
  let message := (args.positional[0]?.or (args.named.lookup "message")).toList
  Run.warn kind message (warningLine level lines)
  return .none

/-- Options with some fields and extras, all of which have to be named. -/
def makeOptions (args : Args) : Run W Value := do
  match args.positional with
  | [] =>
    let given := args.named.map fun e => (e.1.toList, e.2)
    match @Options.coerce Value (Value.material (← Run.heap)) .nothing given with
    | .ok o => newOptions o
    | .error issues => Run.fail (.new .validationError (.issues issues))
  | given =>
    Run.typeError ("BaseModel.__init__() takes 1 positional argument but "
      ++ toString (given.length + 1) ++ " were given")

/-- The functions that need nothing but their arguments, applied. -/
def applyPlain (f : Builtin) (args : Args) (lines : List Nat) : Run W Value := do
  let given := args.positional.length
  match f with
  | .len =>
    noNamed "len()" args
    match args.positional with
    | [v] => length v
    | _ => Run.typeError ("len() takes exactly one argument (" ++ toString given ++ " given)")
  | .str =>
    match args.positional, args.named with
    | [], [] => return .text []
    | [v], [] => return .text (v.display (← Run.heap))
    | _, _ => Run.typeError ("str() takes at most 3 arguments (" ++ toString given ++ " given)")
  | .range =>
    noNamed "range()" args
    makeRange args.positional
  | .warn => applyWarn args lines
  | .getEngine =>
    let _ ← Parameters.bind ⟨"get_engine", [], 0, none⟩ args
    return .handle .engine
  | .renderOptions => makeOptions args
  | .render | .setDefaults | .loadDefaults | .engineRender | .clearCache => return .none

end Stencil.Script
