/-!
# Strip markers

A tag may carry a marker inside each of its brackets. A run of hyphens removes as many blank-line
groups from the neighbouring text as it has hyphens, a plus sign removes all of them.
-/

namespace Stencil.Template

/-- What stands between a bracket and the body of a tag. -/
inductive Marker where
  /-- A run of hyphens, possibly empty. -/
  | hyphens (count : Nat)
  /-- A single plus sign. -/
  | plus
  deriving DecidableEq, Repr, Inhabited

namespace Marker

/-- The marker as it is written in a tag. -/
def written : Marker → List Char
  | hyphens n => List.replicate n '-'
  | plus => ['+']

/-- The marker a text stands for when it is given by itself: a plus sign, or else a run as long as
the text. -/
def ofText (s : List Char) : Marker := if s = ['+'] then plus else hyphens s.length

/-- The most groups the marker removes from a text of the given length. Each group takes a
character or more, so the length of the text stands for no bound at all. -/
def limit (length : Nat) : Marker → Nat
  | hyphens n => n
  | plus => length

theorem ofText_written (m : Marker) (h : m ≠ plus) : ofText m.written = m := by
  cases m with
  | plus => exact absurd rfl h
  | hyphens n =>
    have : List.replicate n '-' ≠ ['+'] := by
      intro hEq
      have := congrArg (List.contains · '+') hEq
      simp [List.mem_replicate] at this
    simp [ofText, written, this]

end Marker

end Stencil.Template
