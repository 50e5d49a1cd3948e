/-!
# Lines of a text

A line ends at a line feed and nowhere else. This module cuts a text into its lines and counts line
feeds; every line number of the library is one more than such a count.

- `length_splitLines`: a text has one line more than it has line feeds.
- `joinLines_splitLines`: the lines of a text, joined again, give the text.
-/

namespace Stencil.Text

/-- The number of line feeds in a text. -/
def newlines (s : List Char) : Nat := s.count '\n'

/-- The number of the line on which the character at an offset stands: one more than the number of
line feeds before it. -/
def lineAt (s : List Char) (offset : Nat) : Nat := newlines (s.take offset) + 1

/-- The lines of a text, without their line feeds. There is always at least one. -/
def splitLines : List Char → List (List Char)
  | [] => [[]]
  | c :: s =>
    match splitLines s with
    | [] => [[c]]
    | line :: rest => if c = '\n' then [] :: line :: rest else (c :: line) :: rest

/-- Lines put together with a line feed between neighbours. -/
def joinLines : List (List Char) → List Char
  | [] => []
  | [line] => line
  | line :: next :: rest => line ++ '\n' :: joinLines (next :: rest)

/-- A text of nothing but line feeds. -/
def lineFeeds (n : Nat) : List Char := List.replicate n '\n'

@[simp] theorem newlines_nil : newlines [] = 0 := rfl

@[simp] theorem newlines_append (s t : List Char) :
    newlines (s ++ t) = newlines s + newlines t := by
  simp [newlines]

theorem newlines_cons (c : Char) (s : List Char) :
    newlines (c :: s) = (if c = '\n' then 1 else 0) + newlines s := by
  by_cases h : c = '\n' <;> simp [newlines, h, Nat.add_comm]

@[simp] theorem newlines_lineFeeds (n : Nat) : newlines (lineFeeds n) = n := by
  simp [newlines, lineFeeds]

theorem splitLines_ne_nil (s : List Char) : splitLines s ≠ [] := by
  cases s with
  | nil => simp [splitLines]
  | cons c s =>
    simp only [splitLines]
    split
    · simp
    · split <;> simp

/-- A text has one line more than it has line feeds. -/
theorem length_splitLines (s : List Char) : (splitLines s).length = newlines s + 1 := by
  induction s with
  | nil => rfl
  | cons c s ih =>
    simp only [splitLines, newlines_cons]
    split
    · rename_i h
      exact absurd h (splitLines_ne_nil s)
    · rename_i line rest h
      rw [h] at ih
      split
      · simp only [List.length_cons] at ih ⊢
        omega
      · simp only [List.length_cons] at ih ⊢
        omega

/-- The lines of a text, joined again, give the text. -/
theorem joinLines_splitLines (s : List Char) : joinLines (splitLines s) = s := by
  induction s with
  | nil => rfl
  | cons c s ih =>
    simp only [splitLines]
    split
    · rename_i h
      exact absurd h (splitLines_ne_nil s)
    · rename_i line rest h
      rw [h] at ih
      split
      · rename_i hc
        subst hc
        simpa [joinLines] using ih
      · cases rest with
        | nil => simpa [joinLines] using ih
        | cons next rest => simpa [joinLines] using ih

end Stencil.Text
