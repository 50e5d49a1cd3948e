import Stencil.Template.Segment

/-!
# Line cursors

A cursor remembers the last offset it was asked for and the line of that offset, so that a reading
that goes forward counts every line feed once. Asked for an earlier offset it starts over.

- `LineCursor.Valid`: what a cursor remembers is right.
- `LineCursor.seek_line`, `LineCursor.seek_valid`: a cursor that is right answers with the line of
  the offset, whatever it was asked before, and stays right.
-/

namespace Stencil.Template

open Text

/-- An offset in a text and its line. -/
structure LineCursor where
  /-- The offset last asked for. -/
  offset : Nat
  /-- The line of that offset. -/
  line : Nat
  deriving DecidableEq, Repr

namespace LineCursor

/-- A cursor at the start of a text. -/
def start : LineCursor := ⟨0, 1⟩

instance : Inhabited LineCursor := ⟨start⟩

/-- Moves the cursor to an offset. Going forward it counts the line feeds in between, going back it
starts over. -/
def seek (source : List Char) (offset : Nat) (c : LineCursor) : LineCursor :=
  let c := if offset < c.offset then start else c
  ⟨offset, c.line + newlines ((source.drop c.offset).take (offset - c.offset))⟩

/-- The line of an offset, asked of the cursor in the state. -/
def lineOf (source : List Char) (offset : Nat) : StateM LineCursor Nat := do
  modify (seek source offset)
  return (← get).line

/-- The cursor holds the line of its offset. -/
def Valid (source : List Char) (c : LineCursor) : Prop := c.line = lineAt source c.offset

theorem start_valid (source : List Char) : start.Valid source := by
  simp [Valid, start, lineAt]

/-- The line feeds before an offset are those before an earlier one and those in between. -/
theorem newlines_take_of_le (source : List Char) {i j : Nat} (h : i ≤ j) :
    newlines (source.take i) + newlines ((source.drop i).take (j - i)) =
      newlines (source.take j) := by
  have : source.take j = source.take i ++ (source.drop i).take (j - i) := by
    rw [← List.take_add, Nat.add_sub_cancel' h]
  rw [this, newlines_append]

/-- A cursor that is right answers with the line of the offset. -/
theorem seek_line {source : List Char} {c : LineCursor} (h : c.Valid source) (offset : Nat) :
    (c.seek source offset).line = lineAt source offset := by
  unfold seek
  simp only
  split
  · simp [start, lineAt, Nat.add_comm]
  · rename_i hLe
    have := newlines_take_of_le source (Nat.le_of_not_lt hLe)
    simp only [Valid, lineAt] at h ⊢
    omega

/-- A cursor that is right stays right. -/
theorem seek_valid {source : List Char} {c : LineCursor} (h : c.Valid source) (offset : Nat) :
    (c.seek source offset).Valid source :=
  seek_line h offset

end LineCursor

/-- Reads the segments of a template with a cursor, from the start, and hands the cursor on. -/
def readWith (source : List Char) (cursor : LineCursor) :
    (List Segment × Option TagError) × LineCursor :=
  ((Place.start source).read (LineCursor.lineOf source)).run cursor

/-- The lines of some offsets, asked one after the other of one cursor. -/
def linesOf (source : List Char) (offsets : List Nat) : List Nat :=
  ((offsets.mapM (LineCursor.lineOf source)).run LineCursor.start).1

end Stencil.Template
