import Stencil.Template.Error
import Stencil.Template.Strip
import Stencil.Template.Tag

/-!
# Segments of a template

A template is read from left to right, one segment at a time: some text, then a tag, then the blank
lines that the tag strips. The last segment has text only, and is missing if nothing follows the
last tag.

A `Place` is where a reading stands. `Place.next` takes one segment; it asks for line numbers
through a function that is given to it, so that a reading can keep a cursor (`LineCursor`) or look
each line up from the start (`Text.lineAt`).

- `readFrom`: the segments from a place on, and the error that ends them, if any.
- `Place.step_rest_lt`: each tag brings the end of the template nearer.
-/

namespace Stencil.Template

open Text

/-- A tag and where it stands. -/
structure PlacedTag where
  /-- The tag. -/
  tag : Tag
  /-- The line of its opening brackets. -/
  line : Nat
  /-- The blank-line groups it strips from the text before it. -/
  strippedPre : List Char
  /-- The blank-line groups it strips from what follows. -/
  strippedPost : List Char
  deriving DecidableEq, Repr, Inhabited

/-- A piece of a template. -/
structure Segment where
  /-- The text, less what the tag strips from it. -/
  text : List Char
  /-- The line on which the text starts. -/
  line : Nat
  /-- The tag that ends the segment, if one does. -/
  tag? : Option PlacedTag
  deriving DecidableEq, Repr, Inhabited

/-! ## Brackets that make no tag -/

/-- The offset of the first place at which a text has a given part. -/
def findText? (part : List Char) : List Char → Option Nat
  | [] => if part = [] then some 0 else none
  | c :: s => if part.isPrefixOf (c :: s) then some 0 else (findText? part s).map (· + 1)

/-- A fault found at an offset. -/
structure Finding where
  /-- What is wrong. -/
  fault : TagFault
  /-- Where, counted in characters from the start of the text that was searched. -/
  offset : Nat
  /-- The text to show an excerpt of. -/
  near : List Char

/-- The start of the last line of a text. -/
def lastLine (s : List Char) : List Char := (s.reverse.takeWhile (· ≠ '\n')).reverse

/-- Looks for brackets in a text that has no tag. Opening brackets come first, wherever closing
ones may be. -/
def strayBrackets? (text : List Char) : Option Finding :=
  match findText? openBrackets text with
  | some start =>
    let near := text.drop start
    let fault :=
      if (readHead? near).isNone then .noBlankAfterStart
      else if (findText? closeBrackets near).isSome then .noBlankBeforeEnd
      else .noEnd
    some ⟨fault, start, near⟩
  | none =>
    (findText? closeBrackets text).map fun stop =>
      ⟨.strayEnd, stop, lastLine (text.take stop) ++ closeBrackets⟩

/-- Looks for brackets inside a tag, where they show that an earlier bracket is malformed. The
offset counts from the tag's opening brackets. -/
def swallowedBrackets? (tag : Tag) (rest : List Char) : Option Finding :=
  match findText? closeBrackets tag.inner with
  | some stop =>
    let offset := tag.head.length + stop
    some ⟨.noBlankBeforeEnd, offset, (tag.written ++ rest).take (offset + closeBrackets.length)⟩
  | none =>
    (findText? openBrackets tag.inner).map fun _ => ⟨.noEnd, 0, tag.written ++ rest⟩

/-! ## One step -/

/-- Where a reading of a template stands. -/
structure Place where
  /-- The number of characters read. -/
  offset : Nat
  /-- The characters still to be read. -/
  rest : List Char
  deriving DecidableEq, Repr, Inhabited

/-- What a place has in front of it. -/
inductive Ahead where
  /-- Nothing. -/
  | nothing
  /-- Text to the end, without brackets. -/
  | text (text : List Char)
  /-- Text and a tag. -/
  | tagged (text : List Char) (tag : Tag) (rest : List Char)
  /-- A fault, at an offset from the place. -/
  | fault (finding : Finding)

/-- Looks at what comes next: the text up to the next tag must have no brackets, and neither may
the inside of the tag. -/
def ahead : List Char → Ahead
  | [] => .nothing
  | c :: s =>
    match cut (c :: s) with
    | .plain text =>
      match strayBrackets? text with
      | some finding => .fault finding
      | none => .text text
    | .tagged text tag rest =>
      match strayBrackets? text with
      | some finding => .fault finding
      | none =>
        match swallowedBrackets? tag rest with
        | some finding => .fault { finding with offset := text.length + finding.offset }
        | none => .tagged text tag rest

/-- What a reading finds in one step. -/
inductive Step where
  /-- The template is at its end. -/
  | done
  /-- The tag grammar is violated. -/
  | failed (e : TagError)
  /-- A segment, and the place after it. -/
  | found (segment : Segment) (next : Place)

/-- The place after a tag whose text starts here. -/
def Place.after (p : Place) (text : List Char) (tag : Tag) (rest : List Char) : Place :=
  let stripped := stripLeading tag.post rest
  ⟨p.offset + text.length + tag.written.length + stripped.1.length, stripped.2⟩

/-- The offsets whose lines are found before that of a fault: the start of the text, and that of
the tag after it if the text is good. -/
def offsetsBeforeFault (s : List Char) : List Nat :=
  match cut s with
  | .plain _ => [0]
  | .tagged text _ _ => if (strayBrackets? text).isSome then [0] else [0, text.length]

/-- Takes the next segment. The function finds the line of an offset in the template. -/
def Place.next {m : Type → Type} [Monad m] (lineOf : Nat → m Nat) (p : Place) : m Step := do
  match ahead p.rest with
  | .nothing => return .done
  | .fault finding =>
    let _ ← (offsetsBeforeFault p.rest).mapM fun offset => lineOf (p.offset + offset)
    let line ← lineOf (p.offset + finding.offset)
    return .failed ⟨finding.fault, line, finding.near⟩
  | .text text =>
    let line ← lineOf p.offset
    return .found ⟨text, line, none⟩ ⟨p.offset + text.length, []⟩
  | .tagged text tag rest =>
    let line ← lineOf p.offset
    let tagLine ← lineOf (p.offset + text.length)
    let stripped := stripTrailing tag.pre text
    let placed := ⟨tag, tagLine, stripped.2, (stripLeading tag.post rest).1⟩
    return .found ⟨stripped.1, line, some placed⟩ (p.after text tag rest)

theorem ahead_tagged {s text rest : List Char} {tag : Tag} (h : ahead s = .tagged text tag rest) :
    text ++ tag.written ++ rest = s := by
  unfold ahead at h
  split at h
  · cases h
  · rename_i c s
    have hCut := cut_append (c :: s)
    split at h
    · split at h <;> cases h
    · rename_i text' tag' rest' hEq
      rw [hEq] at hCut
      split at h
      · cases h
      · split at h
        · cases h
        · cases h
          exact hCut

/-- Each tag brings the end of the template nearer. -/
theorem Place.after_rest_lt {p : Place} {text rest : List Char} {tag : Tag}
    (h : ahead p.rest = .tagged text tag rest) :
    (p.after text tag rest).rest.length < p.rest.length := by
  have hLength := congrArg List.length (ahead_tagged h)
  have hStrip := length_stripLeading_le tag.post rest
  have hTag := tag.length_written_pos
  simp only [List.length_append] at hLength
  simp only [Place.after]
  omega

/-! ## A whole reading -/

/-- The segments from a place on. An error ends them early. -/
def Place.read {m : Type → Type} [Monad m] (lineOf : Nat → m Nat) (p : Place) :
    m (List Segment × Option TagError) := do
  match _h : ahead p.rest with
  | .tagged text tag rest =>
    match ← p.next lineOf with
    | .found segment _ =>
      let (segments, error?) ← (p.after text tag rest).read lineOf
      return (segment :: segments, error?)
    | .failed e => return ([], some e)
    | .done => return ([], none)
  | _ =>
    match ← p.next lineOf with
    | .found segment _ => return ([segment], none)
    | .failed e => return ([], some e)
    | .done => return ([], none)
termination_by p.rest.length
decreasing_by exact Place.after_rest_lt _h

/-- The start of a template. -/
def Place.start (source : List Char) : Place := ⟨0, source⟩

/-- The segments of a template, and the error that cut them short, if there is one. -/
def readSegments (source : List Char) : List Segment × Option TagError :=
  Id.run ((Place.start source).read fun offset => pure (lineAt source offset))

/-- The segments of a template that follows the tag grammar. -/
def segments (source : List Char) : Except TagError (List Segment) :=
  match readSegments source with
  | (segments, none) => .ok segments
  | (_, some e) => .error e

end Stencil.Template
