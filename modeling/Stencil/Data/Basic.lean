import Stencil.Calendar.Moment
import Stencil.Options.Material

/-!
# Plain data

What configuration files, command lines and callers hand over: texts, numbers, truth values, lists
and mappings, dates and bytes. A mapping keeps the order of its entries. A collection can stand
within itself; there it is told by its distance.
-/

namespace Stencil

/-- A piece of data. -/
inductive Data where
  | null
  | bool (b : Bool)
  | int (n : Int)
  | float (x : Float)
  | text (s : List Char)
  | list (items : List Data)
  | dict (entries : List (Data × Data))
  | moment (m : Calendar.Moment)
  | bytes (b : List UInt8)
  /-- A list that cannot be changed. -/
  | tuple (items : List Data)
  /-- Items without an order, each one once. -/
  | set (items : List Data)
  /-- A list, mapping or set around this place, by how many of them stand between the two. -/
  | within (level : Nat)
  /-- A member of options, by its name. -/
  | member (name : List Char)
  deriving Inhabited

namespace Data

/-- What a piece of data looks like. -/
def shape : Data → Shape Data
  | null => .none
  | bool b => .bool b
  | int n => .int n
  | float x => .float x
  | text s => .text s
  | list items => .list items
  | dict entries => .dict entries
  | moment m => .other m.expression
  | bytes b => .bytes b
  | tuple items => .series items
  | set items => .series items
  | within _ => .other "[...]".toList
  | member _ => .other []

instance : Material Data := ⟨shape, member, text, dict⟩

/-- Whether a piece of data counts as true: not nothing, not false, not zero and not empty. -/
def truthy : Data → Bool
  | null => false
  | bool b => b
  | int n => n ≠ 0
  | float x => !(x == 0)
  | text s => s ≠ []
  | list items => !items.isEmpty
  | dict entries => !entries.isEmpty
  | moment _ => true
  | bytes b => b ≠ []
  | tuple items => !items.isEmpty
  | set items => !items.isEmpty
  | within _ => true
  | member _ => true

end Data

end Stencil
