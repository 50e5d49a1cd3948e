import Stencil.Script.Comparison

/-!
# Values with items

A sequence has items at positions: the characters of a text, the numbers of bytes, the items of a
list or a tuple, and the numbers of a range. Mappings and sets have items too, but no positions; the
items of a mapping are its keys. What can change is no key.

- `item`: the item of a sequence at a position, the value of a key in a mapping.
- `cursor`, `Cursor.next?`: the items one after the other.
- `isIn`: whether a value is among the items.
- `length`: how many items there are.
-/

namespace Stencil.Script

variable {W : Type}

/-! ## Sizes -/

/-- The numbers that can be positions and lengths are less than this. -/
def sizeLimit : Int := 0x8000000000000000

/-- Whether a number can be a position or a length, or the opposite of one. -/
def fitsSize (n : Int) : Bool := -sizeLimit ≤ n && n < sizeLimit

/-- The position that an index stands for in a sequence. An index below zero counts from the end. -/
def position? (length : Nat) (index : Int) : Option Nat :=
  let i := if index < 0 then index + length else index
  if 0 ≤ i ∧ i < length then some i.toNat else none

/-- Refuses a number that cannot be a position. -/
def checkPosition (i : Int) : Run W Unit := do
  if !fitsSize i then Run.raise .indexError "cannot fit 'int' into an index-sized integer"

/-! ## Keys -/

/-- What keeps a value from being a key: the value itself, or an item of a tuple. Lists, mappings,
sets and options are no keys. Tuples are nested no deeper than `depth`. -/
def Value.noKey? (heap : Heap) : Nat → Value → Option Value
  | 0, _ => Option.none
  | depth + 1, v =>
    match v.object? heap with
    | some (.list _) | some (.dict _) | some (.set _) | some (.options ..) => some v
    | some (.tuple items) => items.findSome? (noKey? heap depth)
    | _ => Option.none

/-- Refuses a value that cannot be a key. -/
def checkKey (key : Value) : Run W Unit := do
  let heap ← Run.heap
  match key.noKey? heap (heap.size + 1) with
  | some part => Run.typeError ("unhashable type: '" ++ (← Run.typeOf part) ++ "'")
  | none => return

/-- The value of a key in a mapping. -/
def entry? (entries : List (Value × Value)) (key : Value) : Run W (Option Value) := do
  checkKey key
  return Value.lookup? (← Run.heap) key entries

/-! ## Sequences -/

/-- A value whose items have positions. -/
inductive Sequence where
  /-- A text. -/
  | text (s : List Char)
  /-- Bytes. -/
  | bytes (b : List UInt8)
  /-- A list. -/
  | list (items : List Value)
  /-- A tuple. -/
  | tuple (items : List Value)
  /-- Whole numbers with one step between them. -/
  | range (start stop step : Int)
  deriving Inhabited

/-- A byte as a number. -/
def byteValue (b : UInt8) : Value := .int b.toNat

namespace Sequence

/-- How many items there are. -/
def length : Sequence → Nat
  | text s => s.length
  | bytes b => b.length
  | list items | tuple items => items.length
  | range start stop step => rangeCount start stop step

/-- The item at a position. -/
def item? (s : Sequence) (i : Nat) : Option Value :=
  match s with
  | text s => s[i]?.map fun c => .text [c]
  | bytes b => b[i]?.map byteValue
  | list items | tuple items => items[i]?
  | range start stop step =>
    if i < rangeCount start stop step then some (.int (start + step * (i : Nat))) else none

/-- All items. -/
def items (s : Sequence) : List Value :=
  match s with
  | text s => s.map fun c => .text [c]
  | bytes b => b.map byteValue
  | list items | tuple items => items
  | range start stop step =>
    (List.range (rangeCount start stop step)).map fun i => .int (start + step * (i : Nat))

/-- The words for a key of some type, which is no position. -/
def keyMessage (s : Sequence) (key : String) : String :=
  let others := fun (name : String) => name ++ " indices must be integers or slices, not " ++ key
  match s with
  | text _ => "string indices must be integers, not '" ++ key ++ "'"
  | bytes _ => others "byte"
  | list _ => others "list"
  | tuple _ => others "tuple"
  | range .. => others "range"

/-- The words for a position without an item. -/
def positionMessage : Sequence → String
  | text _ => "string index out of range"
  | bytes _ => "index out of range"
  | list _ => "list index out of range"
  | tuple _ => "tuple index out of range"
  | range .. => "range object index out of range"

/-- The item for a key. Any integer may be asked of a range, however large. -/
def itemFor (s : Sequence) (key : Value) : Run W Value := do
  match key.int? with
  | none => Run.typeError (s.keyMessage (← Run.typeOf key))
  | some i =>
    match s with
    | range .. => pure ()
    | _ => checkPosition i
    match (position? s.length i).bind s.item? with
    | some v => return v
    | none => Run.raise .indexError s.positionMessage

end Sequence

/-- The sequence that a value is, if it is one. -/
def sequence? (v : Value) : Run W (Option Sequence) := do
  match v, ← Run.object? v with
  | .text s, _ => return some (.text s)
  | .bytes b, _ => return some (.bytes b)
  | _, some (.list items) => return some (.list items)
  | _, some (.tuple items) => return some (.tuple items)
  | _, some (.range start stop step) => return some (.range start stop step)
  | _, _ => return none

/-- Refuses to look for an item of a type. -/
def noItems {α : Type} (name : String) : Run W α :=
  Run.typeError ("type '" ++ name ++ "' is not subscriptable")

/-- An item of a sequence or a mapping. -/
def item (base key : Value) : Run W Value := do
  match ← sequence? base with
  | some s => s.itemFor key
  | none =>
    match base, ← Run.object? base with
    | _, some (.dict entries) =>
      match ← entry? entries key with
      | some v => return v
      | none => Run.fail (.new .keyError (.args [key]))
    | .errorClass c, _ => noItems c.name
    | .builtin .str, _ => noItems "str"
    | .builtin .range, _ => noItems "range"
    | _, _ => Run.typeError ("'" ++ (← Run.typeOf base) ++ "' object is not subscriptable")

/-! ## Items in order -/

/-- What is to be visited of a value. -/
inductive Cursor where
  /-- Some values. -/
  | values (rest : List Value)
  /-- So many numbers from one on, with the same step between them. -/
  | numbers (next step : Int) (count : Nat)
  /-- The items of a list from a position on. What is appended to the list on the way is visited
  too. -/
  | items (list : Address) (position : Nat)

/-- A cursor at the first item, if the value has items. -/
def cursor? (v : Value) : Run W (Option Cursor) := do
  match v, ← Run.object? v, ← sequence? v with
  | .ref a, some (.list _), _ => return some (.items a 0)
  | _, some (.range start stop step), _ =>
    return some (.numbers start step (rangeCount start stop step))
  | _, some (.dict entries), _ => return some (.values (entries.map (·.1)))
  | _, some (.set items), _ => return some (.values items)
  | _, _, some s => return some (.values s.items)
  | _, _, none => return none

/-- A cursor at the first item. -/
def cursor (v : Value) : Run W Cursor := do
  match ← cursor? v with
  | some c => return c
  | none => Run.typeError ("'" ++ (← Run.typeOf v) ++ "' object is not iterable")

/-- The next item, and the cursor behind it. -/
def Cursor.next? : Cursor → Run W (Option (Value × Cursor))
  | values [] => return none
  | values (v :: rest) => return some (v, .values rest)
  | numbers _ _ 0 => return none
  | numbers n step (count + 1) => return some (.int n, .numbers (n + step) step count)
  | items a position => do
    match ← Run.object? (.ref a) with
    | some (.list list) =>
      match list[position]? with
      | some v => return some (v, .items a (position + 1))
      | none => return none
    | _ => return none

/-- All items as they are now, if the value has items. -/
def items? (v : Value) : Run W (Option (List Value)) := do
  match ← Run.object? v, ← sequence? v with
  | some (.dict entries), _ => return some (entries.map (·.1))
  | some (.set items), _ => return some items
  | _, some s => return some s.items
  | _, none => return none

/-! ## Membership and size -/

/-- Whether one list stands somewhere in another. -/
def isWithin {α : Type} [BEq α] (part : List α) : List α → Bool
  | [] => part.isEmpty
  | a :: s => part.isPrefixOf (a :: s) || isWithin part s

/-- Whether a number is one of those from a start to a stop. -/
def isInRange (start stop step n : Int) : Bool :=
  (n - start) % step = 0 &&
    if 0 < step then start ≤ n && n < stop else stop < n && n ≤ start

/-- Whether a value is one of some bytes, or other bytes that stand somewhere in them. -/
def isInBytes (v : Value) (b : List UInt8) : Run W Bool := do
  match v, v.int? with
  | .bytes part, _ => return isWithin part b
  | _, some n =>
    if 0 ≤ n ∧ n < 256 then return b.any fun x => (x.toNat : Int) = n
    else Run.raise .valueError "byte must be in range(0, 256)"
  | _, none =>
    Run.typeError ("a bytes-like object is required, not '" ++ (← Run.typeOf v) ++ "'")

/-- Whether a value is among those of a container. A set takes another set for the question, though
it is no key. -/
def isIn (v container : Value) : Run W Bool := do
  let heap ← Run.heap
  match container, container.object? heap with
  | .text s, _ =>
    match v with
    | .text part => return isWithin part s
    | _ =>
      Run.typeError ("'in <string>' requires string as left operand, not " ++ (← Run.typeOf v))
  | .bytes b, _ => isInBytes v b
  | _, some (.dict entries) => return (← entry? entries v).isSome
  | _, some (.set items) =>
    match v.object? heap with
    | some (.set _) => pure ()
    | _ => checkKey v
    return items.any fun i => i.isSameItem heap v
  | _, some (.range start stop step) =>
    return (v.wholeNumber?.map (isInRange start stop step)).getD false
  | _, _ =>
    match ← items? container with
    | some items => return items.any fun i => i.isSameItem heap v
    | none =>
      Run.typeError ("argument of type '" ++ (← Run.typeOf container) ++ "' is not iterable")

/-- The length of a value. -/
def length (v : Value) : Run W Value := do
  match ← Run.object? v, ← sequence? v with
  | some (.dict entries), _ => return .int entries.length
  | some (.set items), _ => return .int items.length
  | _, some s =>
    if fitsSize s.length then return .int s.length
    else Run.raise .overflowError "Python int too large to convert to C ssize_t"
  | _, none => Run.typeError ("object of type '" ++ (← Run.typeOf v) ++ "' has no len()")

end Stencil.Script
