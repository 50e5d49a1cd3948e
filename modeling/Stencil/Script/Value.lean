import Stencil.Calendar.Moment
import Stencil.Options.Merge
import Stencil.Options.Validation
import Stencil.Script.ErrorClass
import Stencil.Script.Stmt

/-!
# Values of running scripts

A value is either complete in itself, such as a number or a text, or the address of an object. Lists
are objects, since two variables may hold the same list and both see what is appended to it.

A fault is an exception on its way out. It carries its class, what it tells, and its trace: for each
function that it left, the program and the line on which that function stood, outermost first.

Scripts get the functions of `Builtin`, the modules of `Module` and the exceptions of `ErrorClass`,
and of the functions that belong to values those of `Method`. A name of anything else counts as not
defined, and an attribute as missing. Of the engine in charge, scripts can hold the engine and its
store, which counts as true whatever it holds; they make no engines of their own.
-/

namespace Stencil.Script

/-- The place of an object or of the variables of a block. -/
abbrev Address := Nat

/-- A function that scripts find ready: one that the language brings along, or one of the module for
templates. -/
inductive Builtin where
  | len | str | range
  /-- Issues a warning. -/
  | warn
  /-- Renders a template with the engine in charge. -/
  | render
  /-- Replaces the defaults of the engine in charge. -/
  | setDefaults
  /-- Gives the engine in charge. -/
  | getEngine
  /-- Makes options. -/
  | renderOptions
  /-- Reads defaults from a file. -/
  | loadDefaults
  /-- Renders a template, as a function of the engine in charge. -/
  | engineRender
  /-- Empties the store of the engine in charge. -/
  | clearCache
  deriving DecidableEq, Repr, Inhabited

/-- What a script can hold of the engine in charge. -/
inductive Handle where
  /-- The engine. -/
  | engine
  /-- The store of its units. -/
  | cache
  deriving DecidableEq, Repr, Inhabited

/-- A module that can be imported. -/
inductive Module where
  | warnings | plate | exceptions
  deriving DecidableEq, Repr, Inhabited

/-- A function that belongs to a value. -/
inductive Method where
  | get | join | upper | lower | append
  deriving DecidableEq, Repr, Inhabited

/-- A value. -/
inductive Value where
  | none
  | bool (b : Bool)
  | int (n : Int)
  | float (x : Float)
  | text (s : List Char)
  | moment (m : Calendar.Moment)
  | bytes (b : List UInt8)
  | builtin (f : Builtin)
  | errorClass (c : ErrorClass)
  | module (m : Module)
  /-- A member of options, by its name. -/
  | member (name : List Char)
  /-- A part of the engine in charge. -/
  | handle (h : Handle)
  /-- An object. -/
  | ref (a : Address)
  deriving Inhabited

/-- A step of a trace: the variables that the program of a function calls global, and the line on
which the function stood. -/
structure Step where
  /-- The global variables. -/
  globals : Address
  /-- The line. -/
  line : Nat
  deriving DecidableEq, Repr, Inhabited

/-- What an exception tells. -/
inductive Detail where
  /-- The values it was made with. -/
  | args (args : List Value)
  /-- A message, a line of a template, the exception behind it, and the name of the template that
  was looked for. -/
  | located (message : List Char) (line? : Option Int) (wrapped : Value)
      (name? : Option (List Char))
  /-- What is wrong with some options. -/
  | issues (issues : List Issue)
  deriving Inhabited

/-- An exception on its way. -/
structure Fault where
  /-- Its class. -/
  kind : ErrorClass
  /-- What it tells. -/
  detail : Detail
  /-- Where it has been, outermost first. -/
  trace : List Step
  /-- The object that it is, if a script has or can have it. -/
  object? : Option Address
  deriving Inhabited

/-- A function that a program defines. -/
structure Closure where
  /-- Its header. -/
  signature : Signature
  /-- Its name with the names of the functions around it. -/
  path : String
  /-- Its body. -/
  body : List Stmt
  /-- The names that are local to it. -/
  locals : List String
  /-- The variables of the functions around it, innermost first. -/
  scopes : List Address
  /-- The global variables of its program. -/
  globals : Address
  deriving Inhabited

/-- An object. -/
inductive Object where
  /-- A list. -/
  | list (items : List Value)
  /-- A list that cannot be changed. -/
  | tuple (items : List Value)
  /-- Items without an order, each one once. -/
  | set (items : List Value)
  /-- A mapping. -/
  | dict (entries : List (Value × Value))
  /-- Whole numbers from a start on, with one step between them, up to a stop that is left out. -/
  | range (start stop step : Int)
  /-- A function. -/
  | function (f : Closure)
  /-- A function of a value. -/
  | method (m : Method) (self : Value)
  /-- Options, with the objects that hold their parameters and their search path. -/
  | options (o : Options Value) (params path : Address)
  /-- An exception. -/
  | exception (f : Fault)
  deriving Inhabited

/-- Variables with their values; a name without a value is known to belong here, but has not been
assigned. -/
abbrev Frame := List (String × Option Value)

/-- The arguments of a call. -/
structure Args where
  /-- Those without a name. -/
  positional : List Value
  /-- Those with a name. -/
  named : List (String × Value)
  deriving Inhabited

/-- The arguments with another one in front. -/
def Args.after (args : Args) (v : Value) : Args := { args with positional := v :: args.positional }

/-- How many steps lead from a start to a stop, the stop left out. -/
def rangeCount (start stop step : Int) : Nat :=
  if 0 < step then ((stop - start + step - 1).fdiv step).toNat
  else ((start - stop - step - 1).fdiv (-step)).toNat

/-- The objects of a running script. -/
abbrev Heap := Array Object

namespace Fault

/-- An exception that has been nowhere yet. -/
def new (kind : ErrorClass) (detail : Detail) : Fault := ⟨kind, detail, [], none⟩

/-- An exception with a message. -/
def ofMessage (kind : ErrorClass) (message : String) : Fault :=
  new kind (.args [.text message.toList])

/-- An exception about a template. -/
def located (kind : ErrorClass) (message : String) (line? : Option Int) : Fault :=
  new kind (.located message.toList line? .none none)

/-- An exception with a step put in front of its trace. -/
def through (s : Step) (f : Fault) : Fault := { f with trace := s :: f.trace }

/-- The line on which the innermost function of a program stood, if one was left. -/
def lineIn? (globals : Address) (f : Fault) : Option Nat :=
  (f.trace.filter (·.globals = globals)).getLast?.map (·.line)

/-- An exception about a template with a name put in front of its message. -/
def addPrefix (name : List Char) (f : Fault) : Fault :=
  match f.detail with
  | .located message line? wrapped name? =>
    { f with detail := .located (name ++ [':', ' '] ++ message) line? wrapped name? }
  | _ => f

/-- An exception as a value, if it is an object. -/
def value (f : Fault) : Value := (f.object?.map Value.ref).getD .none

/-- Whether an exception is one about a template. -/
def isPlate (f : Fault) : Bool := f.kind.isWithin .plateError

end Fault

namespace Value

/-- A text as a value. -/
def ofString (s : String) : Value := .text s.toList

/-- The name of a value's type. -/
def typeName (heap : Heap) : Value → String
  | none => "NoneType"
  | bool _ => "bool"
  | int _ => "int"
  | float _ => "float"
  | text _ => "str"
  | moment (.date _) => "datetime.date"
  | moment (.timestamp _) => "datetime.datetime"
  | bytes _ => "bytes"
  | builtin .len | builtin .warn => "builtin_function_or_method"
  | builtin .str | builtin .range => "type"
  | builtin .render | builtin .setDefaults | builtin .getEngine | builtin .loadDefaults => "function"
  | builtin .engineRender | builtin .clearCache => "method"
  | builtin .renderOptions => "ModelMetaclass"
  | errorClass _ => "type"
  | module _ => "module"
  | member name => Member.kind name
  | handle .engine => "Engine"
  | handle .cache => "CompiledUnitCache"
  | ref a =>
    match heap[a]? with
    | some (.list _) => "list"
    | some (.tuple _) => "tuple"
    | some (.set _) => "set"
    | some (.dict _) => "dict"
    | some (.range ..) => "range"
    | some (.function _) => "function"
    | some (.method ..) => "builtin_function_or_method"
    | some (.options ..) => "RenderOptions"
    | some (.exception f) => f.kind.name
    | Option.none => "object"

/-- The object that a value refers to, if there is one. -/
def object? (v : Value) (heap : Heap) : Option Object :=
  match v with
  | ref a => heap[a]?
  | _ => Option.none

/-- Whether a value counts as true: not nothing, not false, not zero and not empty. -/
def truthy (heap : Heap) : Value → Bool
  | none => false
  | bool b => b
  | int n => n ≠ 0
  | float x => !(x == 0)
  | text s => s ≠ []
  | bytes b => b ≠ []
  | ref a =>
    match heap[a]? with
    | some (.list items) | some (.tuple items) | some (.set items) => !items.isEmpty
    | some (.dict entries) => !entries.isEmpty
    | some (.range start stop step) => rangeCount start stop step ≠ 0
    | _ => true
  | _ => true

/-- Whether a value can be called. -/
def callable (heap : Heap) : Value → Bool
  | builtin _ | errorClass _ | member _ => true
  | ref a =>
    match heap[a]? with
    | some (.function _) | some (.method ..) => true
    | _ => false
  | _ => false

/-- What options see of a value. -/
def shape (heap : Heap) : Value → Shape Value
  | none => .none
  | bool b => .bool b
  | int n => .int n
  | float x => .float x
  | text s => .text s
  | moment m => .other m.expression
  | bytes b => .bytes b
  | ref a =>
    match heap[a]? with
    | some (.list items) => .list items
    | some (.tuple items) | some (.set items) => .series items
    | some (.range start stop step) =>
      .series ((List.range (rangeCount start stop step)).map fun i =>
        .int (start + step * (i : Nat)))
    | some (.dict entries) => .dict entries
    | _ => .other []
  | _ => .other []

/-- Values as a material of options, given the objects that they refer to. A new mapping would need
a place among the objects; nothing stands for it here. -/
@[reducible] def material (heap : Heap) : Material Value :=
  ⟨shape heap, member, text, fun _ => none⟩

end Value

end Stencil.Script
