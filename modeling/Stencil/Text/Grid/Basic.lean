import Stencil.Text.CodePage.Basic

/-!
# Grids of characters

Character sets of East Asia stand in grids of rows and cells. A row may be shorter than the grid is
wide; what is missing at its end is empty, as are the cells with the sign for replaced characters.

- `Grid.char?`: the character in a cell.
-/

namespace Stencil.Text

/-- A grid of characters. -/
structure Grid where
  /-- The rows. -/
  rows : Array String
  deriving Inhabited

/-- The character in a cell. -/
def Grid.char? (g : Grid) (row cell : Nat) : Option Char :=
  (g.rows[row]?.bind fun r => r.toList[cell]?).filter (· ≠ CodePage.missing)

end Stencil.Text
