import Stencil.Data.Basic
import Stencil.Script.Machine

/-!
# Objects for data and options

Data becomes values of the script language, its collections objects of their own. Options
become an object whose parameters and search path are objects too. A value can be copied with all
the lists and mappings in it; one that contains itself cannot.

- `ofData`: the value of some data.
- `copy`: the same value, made of new objects.
-/

namespace Stencil.Script

variable {W : Type}

/-- Refuses a value that contains itself. -/
def circular {α : Type} : Run W α :=
  Run.raise .valueError "Circular reference detected (id repeated)"

mutual

/-- The value of some data that stands within objects, innermost first. -/
def valueWithin (around : List Address) : Data → Run W Value
  | .null => return .none
  | .bool b => return .bool b
  | .int n => return .int n
  | .float x => return .float x
  | .text s => return .text s
  | .list items => do
    let a ← Run.allocate (.list [])
    Run.setObject a (.list (← valuesWithin (a :: around) items))
    return .ref a
  | .dict entries => do
    let a ← Run.allocate (.dict [])
    Run.setObject a (.dict (← entriesWithin (a :: around) entries))
    return .ref a
  | .set items => do
    let a ← Run.allocate (.set [])
    Run.setObject a (.set (← valuesWithin (a :: around) items))
    return .ref a
  | .tuple items => do Run.newObject (.tuple (← valuesWithin around items))
  | .within level =>
    match around[level]? with
    | some a => return .ref a
    | none => circular
  | .moment m => return .moment m
  | .bytes b => return .bytes b
  | .member name => return .member name

/-- The values of a list of data. -/
def valuesWithin (around : List Address) : List Data → Run W (List Value)
  | [] => return []
  | d :: rest => return (← valueWithin around d) :: (← valuesWithin around rest)

/-- The entries of a mapping of data. -/
def entriesWithin (around : List Address) : List (Data × Data) → Run W (List (Value × Value))
  | [] => return []
  | (key, d) :: rest =>
    return (← valueWithin around key, ← valueWithin around d) :: (← entriesWithin around rest)

end

/-- The value of some data. -/
def ofData (d : Data) : Run W Value := valueWithin [] d

/-- The values of a list of data. -/
def ofItems (items : List Data) : Run W (List Value) := items.mapM ofData

/-- The values of named data. -/
def ofEntries (e : Entries Data) : Run W (Entries Value) :=
  e.mapM fun p => return (p.1, ← ofData p.2)

/-- Options of data as options of values. -/
def ofOptions (o : Options Data) : Run W (Options Value) := do
  let params? ← match o.params? with
    | some params => pure (some (← ofEntries params))
    | none => pure none
  return ⟨o.inputFile?, o.inputString?, params?, o.path?, o.raw?, o.preprocessOnly?, o.encoding?,
    ← ofEntries o.extras⟩

/-! ## Options as objects -/

/-- A mapping of names as an object. -/
def newDict (e : Entries Value) : Run W Address :=
  Run.allocate (.dict (e.map fun p => (.text p.1, p.2)))

/-- Options as an object. -/
def newOptions (o : Options Value) : Run W Value := do
  let params ← newDict o.params
  let path ← Run.allocate (.list (o.path.map .text))
  Run.newObject (.options o params path)

/-! ## Copies -/

/-- A mapping with the fields and extras of options. -/
def optionEntries (o : Options Value) (params path : Address) : List (Value × Value) :=
  let text? := fun (s? : Option (List Char)) => (s?.map Value.text).getD .none
  let field := fun (f : OptionField) (v : Value) => (Value.text f.name, v)
  [field .inputFile (text? o.inputFile), field .inputString (text? o.inputString),
    field .params (.ref params), field .path (.ref path), field .raw (.bool o.raw),
    field .preprocessOnly (.bool o.preprocessOnly), field .encoding (.text o.encoding)]
    ++ o.extras.map fun e => (.text e.1, e.2)

/-- A copy of a value within the objects `inside`, with at most so many levels. -/
def copyAt : Nat → List Address → Value → Run W Value
  | 0, _, _ => circular
  | depth + 1, inside, v => do
    match v, ← Run.object? v with
    | .ref a, some object =>
      if inside.contains a then circular
      else
        let copyInside := copyAt depth (a :: inside)
        let copyEntries := fun (entries : List (Value × Value)) =>
          entries.mapM fun e => return (e.1, ← copyInside e.2)
        match object with
        | .list items => Run.newObject (.list (← items.mapM copyInside))
        | .tuple items => Run.newObject (.tuple (← items.mapM copyInside))
        | .set items => Run.newObject (.set (← items.mapM copyInside))
        | .dict entries => Run.newObject (.dict (← copyEntries entries))
        | .options o params path =>
          Run.newObject (.dict (← copyEntries (optionEntries o params path)))
        | _ => return v
    | v, _ => return v

/-- A copy of a value, which has no more levels than there are objects unless it contains itself. -/
def copy (v : Value) : Run W Value := do copyAt ((← Run.heap).size + 1) [] v

/-- Copies of named values. -/
def copyAll (e : Entries Value) : Run W (Entries Value) := e.mapM fun p => return (p.1, ← copy p.2)

end Stencil.Script
