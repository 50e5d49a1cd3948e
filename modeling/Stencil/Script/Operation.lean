import Stencil.Release
import Stencil.Script.Build
import Stencil.Script.Container
import Stencil.Text.LetterCase

/-!
# Operations on values

What operators and dots do with values that are no numbers: sequences are joined and repeated, all
values are compared, and some have attributes. An attribute that is not modelled counts as missing.
-/

namespace Stencil.Script

variable {W : Type}

/-- A list some number of times over. -/
def repeatItems {α : Type} (times : Int) (items : List α) : List α :=
  (List.replicate times.toNat items).flatten

/-- Refuses an operation on two values, with the sign that was written. -/
def unsupported {α : Type} (sign : String) (v w : Value) : Run W α := do
  Run.typeError ("unsupported operand type(s) for " ++ sign ++ ": '" ++ (← Run.typeOf v)
    ++ "' and '" ++ (← Run.typeOf w) ++ "'")

/-- The most items that there is room for. -/
def roomLimit : Int := 0x100000000

/-- How often to repeat a sequence of some length, if there is room for the result. The words are
those for a result that is too long for its kind, if there are such. -/
def repeatCount (tooLong? : Option String) (length : Nat) (n : Int) : Run W Int :=
  if !fitsSize n then Run.raise .overflowError "cannot fit 'int' into an index-sized integer"
  else
    match tooLong?, decide (sizeLimit ≤ length * n) with
    | some words, true => Run.raise .overflowError words
    | _, _ =>
      if roomLimit ≤ length * n then Run.fail (.new .memoryError (.args []))
      else return if length = 0 then 0 else n

/-- A sequence some number of times over. Ranges cannot be repeated. -/
def repeat? : Sequence → Option (Int → Run W Value)
  | .text s => some fun n => do
    return .text (repeatItems (← repeatCount (some "repeated string is too long") s.length n) s)
  | .bytes b => some fun n => do
    return .bytes (repeatItems (← repeatCount (some "repeated bytes are too long") b.length n) b)
  | .list items => some fun n => do
    Run.newObject (.list (repeatItems (← repeatCount none items.length n) items))
  | .tuple items => some fun n => do
    Run.newObject (.tuple (repeatItems (← repeatCount none items.length n) items))
  | .range .. => none

/-- Multiplies two values, one of which may be a sequence that is to be repeated. -/
def multiply (sign : String) (v w : Value) : Run W Value := do
  match (← sequence? v).bind repeat?, (← sequence? w).bind repeat? with
  | some repeated, _ => times repeated w
  | none, some repeated => times repeated v
  | none, none => unsupported sign v w
where
  /-- A sequence, so many times over as a value says. -/
  times (repeated : Int → Run W Value) (count : Value) : Run W Value := do
    match count.int? with
    | some n => repeated n
    | none =>
      Run.typeError ("can't multiply sequence by non-int of type '" ++ (← Run.typeOf count) ++ "'")

/-- Adds two values, the first of which may be a sequence to be joined with another of its kind. -/
def join (sign : String) (v w : Value) : Run W Value := do
  let refuse := fun (kind : String) => do
    Run.typeError ("can only concatenate " ++ kind ++ " (not \"" ++ (← Run.typeOf w) ++ "\") to "
      ++ kind)
  match ← sequence? v, ← sequence? w with
  | some (.text s), some (.text t) => return .text (s ++ t)
  | some (.text _), _ => refuse "str"
  | some (.bytes b), some (.bytes c) => return .bytes (b ++ c)
  | some (.bytes _), _ => Run.typeError ("can't concat " ++ (← Run.typeOf w) ++ " to bytes")
  | some (.list as), some (.list bs) => Run.newObject (.list (as ++ bs))
  | some (.list _), _ => refuse "list"
  | some (.tuple as), some (.tuple bs) => Run.newObject (.tuple (as ++ bs))
  | some (.tuple _), _ => refuse "tuple"
  | _, _ => unsupported sign v w

/-- Fills items into a text or into bytes without places to fill. What has items for keys may stay
unused; the items of a tuple may not, and nor may a single item, such as a text. -/
def fill (whole items : Value) : Run W Value := do
  let refuse := fun (kind : String) =>
    Run.typeError ("not all arguments converted during " ++ kind ++ " formatting")
  match whole, ← Run.object? items, ← sequence? items with
  | _, some (.dict _), _ | _, _, some (.tuple []) | _, _, some (.list _) | _, _, some (.range ..)
  | .text _, _, some (.bytes _) => return whole
  | .bytes _, _, _ => refuse "bytes"
  | _, _, _ => refuse "string"

/-- An operation on two values, at least one of which is no number. -/
def onOthers (sign : String) (op : BinaryOp) (v w : Value) : Run W Value := do
  match op, v, w with
  | .add, _, _ => join sign v w
  | .multiply, _, _ => multiply sign v w
  | .modulo, .text _, _ => fill v w
  | .modulo, .bytes _, _ => fill v w
  | .subtract, _, _ =>
    match ← Run.object? v, ← Run.object? w with
    | some (.set as), some (.set bs) =>
      let heap ← Run.heap
      Run.newObject (.set (as.filter fun a => !bs.any (a.isSameItem heap)))
    | _, _ => unsupported sign v w
  | _, _, _ => unsupported sign v w

/-- Arithmetic on two values, with the sign that was written. -/
def arithmetic (sign : String) (op : BinaryOp) (v w : Value) : Run W Value :=
  match v.number?, w.number? with
  | some a, some b => Number.operate op a b
  | _, _ => onOthers sign op v w

/-- The opposite of a number. -/
def negate (v : Value) : Run W Value := do
  match v.number? with
  | some (.int n) => return .int (-n)
  | some (.float x) => return .float (-x)
  | none => Run.typeError ("bad operand type for unary -: '" ++ (← Run.typeOf v) ++ "'")

/-- A number as it is. -/
def positive (v : Value) : Run W Value := do
  match v.number? with
  | some n => return n.toValue
  | none => Run.typeError ("bad operand type for unary +: '" ++ (← Run.typeOf v) ++ "'")

/-! ## Comparisons -/

/-- A comparison of two values. -/
def compareValues (op : CompareOp) (v w : Value) : Run W Bool := do
  match op with
  | .equal => return v.equal (← Run.heap) w
  | .notEqual => return !v.equal (← Run.heap) w
  | .same => return v.same (← Run.heap) w
  | .notSame => return !v.same (← Run.heap) w
  | .isIn => isIn v w
  | .isNotIn => return !(← isIn v w)
  | .less | .lessEqual | .greater | .greaterEqual => v.order op w

/-! ## Attributes -/

/-- The attributes of the module for templates. -/
def plateAttribute? (name : String) : Option Value :=
  match name with
  | "render" => some (.builtin .render)
  | "set_defaults" => some (.builtin .setDefaults)
  | "get_engine" => some (.builtin .getEngine)
  | "RenderOptions" => some (.builtin .renderOptions)
  | "load_defaults" => some (.builtin .loadDefaults)
  | "__version__" => some (.ofString version)
  | "__name__" => some (.ofString programName)
  | "exceptions" => some (.module .exceptions)
  | _ => exceptionsAttribute? name
where
  /-- The exceptions about templates. -/
  exceptionsAttribute? (name : String) : Option Value :=
    match ErrorClass.ofName? name with
    | some c =>
      if c.isWithin .plateError || c = .undefinedValueWarning then some (.errorClass c) else none
    | none => none

/-- The name of a module. -/
def Module.name : Module → String
  | warnings => "warnings"
  | plate => "plate"
  | exceptions => "plate.exceptions"

/-- The module of a name. -/
def Module.ofName? (name : String) : Option Module :=
  [warnings, plate, exceptions].find? (·.name = name)

/-- A member of a module. -/
def Module.member? (m : Module) (name : String) : Option Value :=
  match m with
  | plate => plateAttribute? name
  | exceptions => plateAttribute?.exceptionsAttribute? name
  | warnings => if name = "warn" then some (.builtin .warn) else none

/-- An attribute of a part of the engine in charge. -/
def Handle.attribute? (h : Handle) (name : String) : Option Value :=
  match h, name with
  | engine, "cache" => some (.handle .cache)
  | engine, "render" => some (.builtin .engineRender)
  | cache, "clear" => some (.builtin .clearCache)
  | _, _ => none

/-- The value of one of the fields of options. -/
def fieldValue? (o : Options Value) (params path : Address) (name : List Char) : Option Value :=
  match OptionField.ofName? name with
  | some .inputFile => some ((o.inputFile.map Value.text).getD .none)
  | some .inputString => some ((o.inputString.map Value.text).getD .none)
  | some .params => some (.ref params)
  | some .path => some (.ref path)
  | some .raw => some (.bool o.raw)
  | some .preprocessOnly => some (.bool o.preprocessOnly)
  | some .encoding => some (.text o.encoding)
  | none => none

/-- A member of options that is no field. -/
def optionMember (o : Options Value) : Member → Run W Value
  | .extras => Run.newObject (.dict (extraEntries o))
  | m => ofData (m.value (Options.empty : Options Data))

/-- An attribute of options: a field, a member or an extra. -/
def optionAttribute? (o : Options Value) (params path : Address) (name : List Char) :
    Run W (Option Value) := do
  match fieldValue? o params path name, Member.ofName? name with
  | some v, _ => return some v
  | none, some m => return some (← optionMember o m)
  | none, none => return o.extras.get? name

/-- The function of a name that a value has. -/
def method? (heap : Heap) (v : Value) (name : String) : Option Method :=
  match v.typeName heap, name with
  | "dict", "get" => some .get
  | "str", "join" | "bytes", "join" => some .join
  | "str", "upper" | "bytes", "upper" => some .upper
  | "str", "lower" | "bytes", "lower" => some .lower
  | "list", "append" => some .append
  | _, _ => none

/-- An attribute of an exception. Most belong to exceptions about templates. -/
def faultAttribute? (f : Fault) (name : String) : Run W (Option Value) := do
  match f.detail, name with
  | .args args, "args" => return some (← Run.newObject (.tuple args))
  | .located message .., "args" => return some (← Run.newObject (.tuple [.text message]))
  | .located message .., "message" => return some (.text message)
  | .located _ line? .., "line" => return some ((line?.map Value.int).getD .none)
  | .located _ _ wrapped _, "original" =>
    return if f.kind.isWithin .templateRuntimeError then some wrapped else none
  | .located _ _ _ name?, "name" => return name?.map .text
  | _, _ => return none

/-- An attribute of a value. -/
def memberOf (v : Value) (name : String) : Run W Value := do
  let heap ← Run.heap
  let found ← match v, v.object? heap with
    | .module m, _ => pure (m.member? name)
    | .handle h, _ => pure (h.attribute? name)
    | _, some (.options o params path) => optionAttribute? o params path name.toList
    | _, some (.exception f) => faultAttribute? f name
    | _, _ =>
      match method? heap v name with
      | some m => pure (some (← Run.newObject (.method m v)))
      | none => pure none
  let refuse := fun (what : String) =>
    Run.raise .attributeError (what ++ " has no attribute '" ++ name ++ "'")
  match found, v with
  | some w, _ => return w
  | none, .module m => refuse ("module '" ++ m.name ++ "'")
  | none, .errorClass c => refuse ("type object '" ++ c.name ++ "'")
  | none, .builtin .str => refuse "type object 'str'"
  | none, .builtin .range => refuse "type object 'range'"
  | none, .builtin .renderOptions => Run.raise .attributeError name
  | none, _ => refuse ("'" ++ v.typeName heap ++ "' object")

end Stencil.Script
