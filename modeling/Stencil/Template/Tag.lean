import Stencil.Template.Marker
import Stencil.Text.Blank

/-!
# Tags

A tag is written between double brackets: `[[`, a marker, a number sign if the tag is a comment, one
blank character, the body, one blank character, a marker, `]]`. The body is cut as short as it can
be, and may hold line breaks.

This module has the tag, its written form, and the search for the first tag of a text. `Cut` is the
result: the text before the tag, the tag, and what follows it.

- `Tag.ofText?_append`: a text that starts with a tag is the written form of that tag and the rest.
- `cut_append`: a cut loses nothing.
-/

namespace Stencil.Template

open Text (isBlank)

/-- A tag, taken apart. -/
structure Tag where
  /-- The marker inside the opening brackets. -/
  pre : Marker
  /-- Whether the tag is a comment. -/
  isComment : Bool
  /-- The blank character that opens the body. -/
  lead : Char
  /-- The text between the two blank characters. -/
  body : List Char
  /-- The blank character that closes the body. -/
  trail : Char
  /-- The marker inside the closing brackets. -/
  post : Marker
  deriving DecidableEq, Repr, Inhabited

/-- The brackets that open a tag. -/
def openBrackets : List Char := ['[', '[']

/-- The brackets that close a tag. -/
def closeBrackets : List Char := [']', ']']

namespace Tag

/-- The number sign of a comment. -/
def sign (t : Tag) : List Char := if t.isComment then ['#'] else []

/-- Everything between the markers, the number sign apart: the body with its two blanks. -/
def inner (t : Tag) : List Char := t.lead :: t.body ++ [t.trail]

/-- The tag from its opening brackets up to the body's first blank. -/
def head (t : Tag) : List Char := openBrackets ++ t.pre.written ++ t.sign

/-- The tag as it stands in a template. -/
def written (t : Tag) : List Char :=
  t.head ++ t.inner ++ t.post.written ++ closeBrackets

end Tag

/-! ## Reading a tag -/

/-- A run of hyphens from the front, or a plus sign if there is no hyphen, and what follows. -/
def readMarker (s : List Char) : Marker × List Char :=
  match s with
  | '+' :: rest => (.plus, rest)
  | _ => (.hyphens (s.takeWhile (· = '-')).length, s.dropWhile (· = '-'))

/-- What opens the body of a tag. -/
structure TagHead where
  /-- The marker inside the opening brackets. -/
  pre : Marker
  /-- Whether a number sign follows the marker. -/
  isComment : Bool
  /-- The blank character that opens the body. -/
  lead : Char

/-- Reads the opening brackets, marker, number sign and blank of a tag. -/
def readHead? : List Char → Option (TagHead × List Char)
  | '[' :: '[' :: s =>
    match readMarker s with
    | (pre, '#' :: c :: rest) => if isBlank c then some (⟨pre, true, c⟩, rest) else none
    | (pre, c :: rest) => if isBlank c then some (⟨pre, false, c⟩, rest) else none
    | (_, []) => none
  | _ => none

/-- Reads a marker and closing brackets. -/
def readClosing? (s : List Char) : Option (Marker × List Char) :=
  match readMarker s with
  | (post, ']' :: ']' :: rest) => some (post, rest)
  | _ => none

/-- The end of a tag: its body, the blank that closes it, its marker and what follows the closing
brackets. -/
structure TagTail where
  /-- The text before the closing blank. -/
  body : List Char
  /-- The blank character that closes the body. -/
  trail : Char
  /-- The marker inside the closing brackets. -/
  post : Marker
  /-- What follows the tag. -/
  rest : List Char

/-- Reads a body up to the first blank character that is followed by a marker and closing
brackets. -/
def readTail? : List Char → Option TagTail
  | [] => none
  | c :: s =>
    match (if isBlank c then readClosing? s else none) with
    | some (post, rest) => some ⟨[], c, post, rest⟩
    | none => (readTail? s).map fun t => { t with body := c :: t.body }

/-- The tag with which a text starts, and what follows it. -/
def Tag.ofText? (s : List Char) : Option (Tag × List Char) :=
  match readHead? s with
  | none => none
  | some (head, s) =>
    match readTail? s with
    | none => none
    | some t => some (⟨head.pre, head.isComment, head.lead, t.body, t.trail, t.post⟩, t.rest)

/-- A text cut at its first tag. -/
inductive Cut where
  /-- There is no tag. -/
  | plain (text : List Char)
  /-- The text before the first tag, the tag, and what follows it. -/
  | tagged (before : List Char) (tag : Tag) (rest : List Char)

namespace Cut

/-- The same cut with a character in front of the text before the tag. -/
def push (c : Char) : Cut → Cut
  | plain text => plain (c :: text)
  | tagged before tag rest => tagged (c :: before) tag rest

/-- The text that was cut. -/
def written : Cut → List Char
  | plain text => text
  | tagged before tag rest => before ++ tag.written ++ rest

theorem written_push (c : Char) (k : Cut) : (k.push c).written = c :: k.written := by
  cases k <;> simp [push, written]

end Cut

/-- Cuts a text at its first tag. -/
def cut : List Char → Cut
  | [] => .plain []
  | c :: s =>
    match Tag.ofText? (c :: s) with
    | some (tag, rest) => .tagged [] tag rest
    | none => (cut s).push c

/-! ## Nothing is lost -/

theorem readMarker_append (s : List Char) :
    (readMarker s).1.written ++ (readMarker s).2 = s := by
  unfold readMarker
  split
  · rfl
  · have hRun : List.replicate (s.takeWhile (· = '-')).length '-' = s.takeWhile (· = '-') := by
      refine (List.eq_replicate_iff.mpr ⟨rfl, fun c hc => ?_⟩).symm
      have hAll := List.all_takeWhile (l := s) (p := (· = '-'))
      simpa using List.all_eq_true.mp hAll c hc
    simp only [Marker.written, hRun]
    exact List.takeWhile_append_dropWhile

theorem readHead?_append {s rest : List Char} {h : TagHead} (hs : readHead? s = some (h, rest)) :
    openBrackets ++ h.pre.written ++ (if h.isComment then ['#'] else []) ++ h.lead :: rest = s := by
  unfold readHead? at hs
  split at hs
  · rename_i s
    have hMarker := readMarker_append s
    split at hs
    · rename_i pre c tail hRead
      split at hs
      · cases hs
        rw [hRead] at hMarker
        simp [openBrackets, ← hMarker]
      · cases hs
    · rename_i pre c tail hSign hRead
      split at hs
      · cases hs
        rw [hRead] at hMarker
        simp [openBrackets, ← hMarker]
      · cases hs
    · cases hs
  · cases hs

theorem readClosing?_append {s rest : List Char} {m : Marker}
    (h : readClosing? s = some (m, rest)) : m.written ++ closeBrackets ++ rest = s := by
  unfold readClosing? at h
  have hMarker := readMarker_append s
  split at h
  · rename_i post tail hRead
    cases h
    rw [hRead] at hMarker
    simp [closeBrackets, ← hMarker]
  · cases h

theorem readTail?_append {s : List Char} {t : TagTail} (h : readTail? s = some t) :
    t.body ++ [t.trail] ++ t.post.written ++ closeBrackets ++ t.rest = s := by
  induction s generalizing t with
  | nil => cases h
  | cons c s ih =>
    simp only [readTail?] at h
    split at h
    · rename_i post rest hClose
      cases h
      split at hClose
      · have := readClosing?_append hClose
        simp [← this]
      · cases hClose
    · cases hTail : readTail? s with
      | none => simp [hTail] at h
      | some u =>
        rw [hTail] at h
        simp only [Option.map_some, Option.some.injEq] at h
        subst h
        simpa using ih hTail

/-- A text that starts with a tag is the written form of that tag and the rest. -/
theorem Tag.ofText?_append {s rest : List Char} {t : Tag} (h : Tag.ofText? s = some (t, rest)) :
    t.written ++ rest = s := by
  unfold Tag.ofText? at h
  split at h
  · cases h
  · rename_i head s' hHead
    split at h
    · cases h
    · rename_i tail hTail
      cases h
      rw [← readHead?_append hHead, ← readTail?_append hTail]
      simp [Tag.written, Tag.head, Tag.sign, Tag.inner]

/-- A cut loses nothing. -/
theorem cut_append (s : List Char) : (cut s).written = s := by
  induction s with
  | nil => rfl
  | cons c s ih =>
    simp only [cut]
    split
    · rename_i tag rest h
      simpa [Cut.written] using Tag.ofText?_append h
    · rw [Cut.written_push, ih]

theorem Tag.length_written_pos (t : Tag) : 0 < t.written.length := by
  simp [Tag.written, Tag.head, openBrackets]

end Stencil.Template
