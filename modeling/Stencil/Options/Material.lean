/-!
# Values that options are made of

Options hold values of the caller's making: parameters, and settings under names that this library
gives no meaning. What a value looks like from outside is its `Shape`; a type of values with shapes
is a `Material`. Options over any material are read and combined alike, be it plain data or values
that a running program holds.
-/

namespace Stencil

/-- What a value is, one level deep. -/
inductive Shape (α : Type) where
  /-- No value. -/
  | none
  /-- A truth value. -/
  | bool (b : Bool)
  /-- A whole number. -/
  | int (n : Int)
  /-- A float. -/
  | float (x : Float)
  /-- A text. -/
  | text (s : List Char)
  /-- Bytes. -/
  | bytes (b : List UInt8)
  /-- A list. -/
  | list (items : List α)
  /-- Items that are no list but can be made one. -/
  | series (items : List α)
  /-- A mapping. -/
  | dict (entries : List (α × α))
  /-- Anything else, with the text that shows it in a message. -/
  | other (shown : List Char)
  deriving Inhabited

/-- A type of values that options may hold. -/
class Material (α : Type) where
  /-- What a value looks like. -/
  shape : α → Shape α
  /-- A member of options with some name, as a value. -/
  member : List Char → α
  /-- A text, as a value. -/
  text : List Char → α
  /-- A mapping, as a value. -/
  dict : List (α × α) → α

export Material (shape)

end Stencil
