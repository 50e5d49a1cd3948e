import Stencil.Template.Marker

/-!
# Stripping around a tag

Two kinds of group can be removed. Before a tag a group is a line break followed by spaces and
tabs; after a tag it is spaces and tabs followed by a line break. A line break is a line feed with
an optional carriage return in front of it.

Before a tag the groups have to reach the end of the text, or the place just before its final line
feed, which then stays: from `A`, line feed, two spaces, line feed, one hyphen keeps the last line
feed, while a plus sign takes both groups. After a tag the groups are taken from the front, one by
one.

- `stripLeading_append`: what is removed after a tag and what is left are the text again.
-/

namespace Stencil.Template

/-- Spaces and tabs, the filling of a blank line. -/
def isPad (c : Char) : Bool := c = ' ' || c = '\t'

/-! ## Before a tag -/

/-- A line break and the spaces and tabs after it, if the text starts with one. -/
def breakAndPad? : List Char → Option (List Char × List Char)
  | '\n' :: s => some ('\n' :: s.takeWhile isPad, s.dropWhile isPad)
  | '\r' :: '\n' :: s => some ('\r' :: '\n' :: s.takeWhile isPad, s.dropWhile isPad)
  | _ => none

/-- Whether nothing but an optional line feed is left. -/
def atEnd (s : List Char) : Bool := s = [] || s = ['\n']

/-- The longest run of at most so many groups, starting here, after which nothing but an optional
line feed is left; with what is left. -/
def groupsToEnd? : Nat → List Char → Option (List Char × List Char)
  | 0, s => if atEnd s then some ([], s) else none
  | n + 1, s =>
    match breakAndPad? s with
    | none => if atEnd s then some ([], s) else none
    | some (group, rest) =>
      match groupsToEnd? n rest with
      | some (run, left) => some (group ++ run, left)
      | none => if atEnd s then some ([], s) else none

/-- Removes the first run of at most so many groups that reaches the end. The answer is what is
kept and what is removed. -/
def cutToEnd (n : Nat) : List Char → List Char × List Char
  | [] => ([], [])
  | c :: s =>
    match groupsToEnd? n (c :: s) with
    | some (run, left) => (left, run)
    | none => (c :: (cutToEnd n s).1, (cutToEnd n s).2)

/-- Removes blank-line groups from the end of a text. The answer is what is kept and what is
removed; without a marker nothing is. -/
def stripTrailing (m : Marker) (text : List Char) : List Char × List Char :=
  if m = .hyphens 0 then (text, []) else cutToEnd (m.limit text.length) text

/-! ## After a tag -/

/-- Spaces and tabs and the line break after them, if the text starts so. -/
def padAndBreak? (s : List Char) : Option (List Char × List Char) :=
  match s.dropWhile isPad with
  | '\n' :: rest => some (s.takeWhile isPad ++ ['\n'], rest)
  | '\r' :: '\n' :: rest => some (s.takeWhile isPad ++ ['\r', '\n'], rest)
  | _ => none

/-- Takes at most so many groups from the front: what is taken and what is left. -/
def takeGroups : Nat → List Char → List Char × List Char
  | 0, s => ([], s)
  | n + 1, s =>
    match padAndBreak? s with
    | none => ([], s)
    | some (group, rest) => (group ++ (takeGroups n rest).1, (takeGroups n rest).2)

/-- Removes blank-line groups from the front of a text. The answer is what is removed and what is
left. -/
def stripLeading (m : Marker) (text : List Char) : List Char × List Char :=
  takeGroups (m.limit text.length) text

/-- The offset in a source at which stripping from the given offset stops. -/
def stripLeadingFrom (source : List Char) (offset : Nat) (m : Marker) : Nat :=
  offset + (stripLeading m (source.drop offset)).1.length

theorem padAndBreak?_append {s group rest : List Char}
    (h : padAndBreak? s = some (group, rest)) : group ++ rest = s := by
  have hs : s.takeWhile isPad ++ s.dropWhile isPad = s := List.takeWhile_append_dropWhile
  unfold padAndBreak? at h
  split at h
  · rename_i hd
    simp only [Option.some.injEq, Prod.mk.injEq] at h
    rw [← h.1, ← h.2, List.append_assoc]
    simpa [hd] using hs
  · rename_i hd
    simp only [Option.some.injEq, Prod.mk.injEq] at h
    rw [← h.1, ← h.2, List.append_assoc]
    simpa [hd] using hs
  · cases h

theorem takeGroups_append (n : Nat) (s : List Char) :
    (takeGroups n s).1 ++ (takeGroups n s).2 = s := by
  induction n generalizing s with
  | zero => rfl
  | succ n ih =>
    simp only [takeGroups]
    split
    · rfl
    · rename_i group rest h
      rw [List.append_assoc, ih, padAndBreak?_append h]

/-- What is removed after a tag and what is left are the text again. -/
theorem stripLeading_append (m : Marker) (s : List Char) :
    (stripLeading m s).1 ++ (stripLeading m s).2 = s :=
  takeGroups_append _ s

theorem length_stripLeading_le (m : Marker) (s : List Char) :
    (stripLeading m s).2.length ≤ s.length := by
  have := congrArg List.length (stripLeading_append m s)
  simp only [List.length_append] at this
  omega

end Stencil.Template
