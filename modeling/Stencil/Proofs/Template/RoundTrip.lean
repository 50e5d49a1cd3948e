import Stencil.Proofs.Template.Reading
import Stencil.Proofs.Template.Stripping
import Stencil.Proofs.Template.WrittenTag

/-!
# Reading undoes writing

Texts and tags that are written one after the other are read back as they were written, but for the
blank lines that the tags strip. No way of cutting the template other than the one it was written
with is found: a text may end in an opening bracket or start with a closing one, and the inside of a
tag may end in what looks like a marker.

* `Piece`, `writePieces`: texts and tags in turn, and the template they make up.
* `shapes`: the texts and tags that a reading should find in it.
* `Place.found_writePieces`: from a place where some blank lines have just been stripped, that is
  what is found.
* `readWith_writePieces`: the same for whole templates.
-/

namespace Stencil.Template

open Text

/-- Some text and the tag after it. -/
structure Piece where
  text : List Char
  tag : Tag
  deriving DecidableEq, Repr

/-- The text of a piece has no double brackets, and its tag can be written. -/
structure Piece.Sound (p : Piece) : Prop where
  text : Plain p.text
  tag : p.tag.Sound

theorem Piece.sound_iff {p : Piece} : p.Sound ↔ Plain p.text ∧ p.tag.Sound :=
  ⟨fun h => ⟨h.text, h.tag⟩, fun h => ⟨h.1, h.2⟩⟩

instance (p : Piece) : Decidable p.Sound := decidable_of_iff' _ Piece.sound_iff

/-- Some pieces in writing, and the text after them. -/
def writePieces (pieces : List Piece) (last : List Char) : List Char :=
  pieces.flatMap (fun p => p.text ++ p.tag.written) ++ last

theorem writePieces_cons (p : Piece) (pieces : List Piece) (last : List Char) :
    writePieces (p :: pieces) last = p.text ++ (p.tag.written ++ writePieces pieces last) := by
  simp [writePieces]

/-- What a reading should find in some pieces and the text after them, given the marker in front of
them: each text less the blank lines that the marker in front of it takes, then less those that the
marker of its own tag takes, with its tag; and the text after the last tag, if any of it is left. -/
def shapes : Marker → List Piece → List Char → List (List Char × Option Tag)
  | m, [], last => if (stripLeading m last).2 = [] then [] else [((stripLeading m last).2, none)]
  | m, p :: pieces, last =>
    ((stripTrailing p.tag.pre (stripLeading m p.text).2).1, some p.tag) ::
      shapes p.tag.post pieces last

/-- The text and the tag of a segment. -/
def Segment.shape (s : Segment) : List Char × Option Tag := (s.text, s.tag?.map PlacedTag.tag)

/-- What is left of a plain text after stripping is plain. -/
theorem stripLeading_plain {m : Marker} {text : List Char} (h : Plain text) :
    Plain (stripLeading m text).2 :=
  h.of_infix (List.IsSuffix.isInfix ⟨_, stripLeading_append m text⟩)

/-- Blank lines are not stripped across the opening brackets of a tag. -/
theorem stripLeading_append_written (m : Marker) (text : List Char) (t : Tag) (rest : List Char) :
    stripLeading m (text ++ (t.written ++ rest)) =
      ((stripLeading m text).1, (stripLeading m text).2 ++ (t.written ++ rest)) := by
  obtain ⟨s, hs⟩ := t.written_eq_cons
  have hStop : ¬ Strippable '[' := by
    unfold Strippable
    decide
  rw [hs]
  exact stripLeading_append_stop hStop m text _

/-- From a place where a marker has just stripped the front of some pieces, a reading finds the
pieces. The induction is on the pieces, with the place and the marker in front of it free. -/
theorem Place.found_writePieces {source : List Char} {pieces : List Piece} {last : List Char}
    (hPieces : ∀ p ∈ pieces, p.Sound) (hLast : Plain last) {m : Marker} {p : Place}
    (hp : p.rest = (stripLeading m (writePieces pieces last)).2) :
    ((p.found source).1.map Segment.shape, (p.found source).2) =
      (shapes m pieces last, none) := by
  induction pieces generalizing m p with
  | nil =>
    have hRest : p.rest = (stripLeading m last).2 := hp
    have hPlain : Plain (stripLeading m last).2 := stripLeading_plain hLast
    unfold shapes
    split
    · rename_i hEmpty
      have hAhead : ahead p.rest = .nothing := by
        rw [hRest, hEmpty]
        rfl
      rw [Place.found_nothing hAhead]
      rfl
    · rename_i hSome
      have hAhead : ahead p.rest = .text (stripLeading m last).2 := by
        rw [hRest]
        exact ahead_eq_of_plain hSome (cut_plain hPlain.noOpen) hPlain
      rw [Place.found_text hAhead]
      rfl
  | cons q pieces ih =>
    have hq : q.Sound := hPieces q List.mem_cons_self
    have hPlain : Plain (stripLeading m q.text).2 := stripLeading_plain hq.text
    have hRest : p.rest =
        (stripLeading m q.text).2 ++ (q.tag.written ++ writePieces pieces last) := by
      rw [hp, writePieces_cons, stripLeading_append_written]
    have hAhead : ahead p.rest =
        .tagged (stripLeading m q.text).2 q.tag (writePieces pieces last) := by
      rw [hRest]
      exact ahead_eq_of_tagged (cut_written hPlain.noOpen hq.tag _) hPlain hq.tag.inner
    have hOthers := ih (fun r hr => hPieces r (List.mem_cons_of_mem q hr)) (m := q.tag.post)
      (p := p.after (stripLeading m q.text).2 q.tag (writePieces pieces last)) rfl
    rw [Prod.mk.injEq] at hOthers
    rw [Place.found_tagged hAhead, List.map_cons, hOthers.1, hOthers.2]
    rfl

/-- **Reading undoes writing.** Texts without double brackets and tags that can be written are, one
after the other, an accepted template, in which just these tags are found, with the texts between
them less the blank lines that the tags strip. No marker stands in front of the first text. -/
theorem readWith_writePieces {pieces : List Piece} {last : List Char}
    (hPieces : ∀ p ∈ pieces, p.Sound) (hLast : Plain last) :
    ∃ segs, (readWith (writePieces pieces last) LineCursor.start).1 = (segs, none) ∧
      segs.map Segment.shape = shapes (.hyphens 0) pieces last := by
  have hFound :
      (((Place.start (writePieces pieces last)).found (writePieces pieces last)).1.map Segment.shape,
        ((Place.start (writePieces pieces last)).found (writePieces pieces last)).2) =
        (shapes (.hyphens 0) pieces last, none) :=
    Place.found_writePieces hPieces hLast rfl
  rw [Prod.mk.injEq] at hFound
  refine ⟨_, ?_, hFound.1⟩
  rw [(readWith_spec (LineCursor.start_valid _)).1]
  exact Prod.ext rfl hFound.2

/-- A text that ends in an opening bracket, a tag whose body ends like a tag, and a text that
starts with a closing bracket after the lines that the tag strips. -/
def hardPieces : List Piece :=
  [⟨['a', '['], ⟨.hyphens 0, false, ' ', ['+', ' ', '-'], '\n', .hyphens 2⟩⟩,
    ⟨['\n', ']'], ⟨.plus, true, '\t', [' '], ' ', .plus⟩⟩]

theorem readWith_writePieces_hard :
    (∀ p ∈ hardPieces, p.Sound) ∧ Plain [']', '\n'] ∧
      ∃ segs, (readWith (writePieces hardPieces [']', '\n']) LineCursor.start).1 = (segs, none) ∧
        segs.map Segment.shape = shapes (.hyphens 0) hardPieces [']', '\n'] :=
  have hPieces : ∀ p ∈ hardPieces, p.Sound := by decide
  have hLast : Plain [']', '\n'] := by decide
  ⟨hPieces, hLast, readWith_writePieces hPieces hLast⟩

end Stencil.Template
