import Stencil.Proofs.Template.Reading
import Stencil.Proofs.Template.Stripping

/-!
# Nothing is lost in a reading

The segments of a template, written one after the other, are the template: each segment is its text
with what the tag stripped from it put back, then the tag, then what the tag stripped from the text
after it. Texts and tags stand on the lines that the segments say.

* `Spells`: a text spells some segments, after another text that counts for the lines only.
* `Place.spells_found`: what is left at a place spells the segments found from there.
* `readWith_lossless`: a template that is accepted spells its segments; only blank-line characters
  are stripped, and there are no double brackets in any text or inside of any tag.
-/

namespace Stencil.Template

open Text

/-- A text that stands after `before` and spells some segments. Each line is one more than the
number of line feeds in front of the text, or of the tag, that it belongs to. -/
inductive Spells : (before : List Char) → List Segment → List Char → Prop
  | nothing (before : List Char) : Spells before [] []
  | text {before : List Char} {s : Segment} (hTag : s.tag? = none)
      (hLine : s.line = newlines before + 1) : Spells before [s] s.text
  | tagged {before raw rest : List Char} {s : Segment} {t : PlacedTag} {others : List Segment}
      (hTag : s.tag? = some t) (hRaw : PutBack s.text t.strippedPre raw)
      (hLine : s.line = newlines before + 1) (hTagLine : t.line = newlines (before ++ raw) + 1)
      (hRest : Spells (before ++ raw ++ t.tag.written ++ t.strippedPost) others rest) :
      Spells before (s :: others) (raw ++ t.tag.written ++ t.strippedPost ++ rest)

/-- What is left at a place spells the segments that are found from there. -/
theorem Place.spells_found {source before : List Char} {p : Place} {segs : List Segment}
    (hp : p.In source before) (h : p.found source = (segs, none)) : Spells before segs p.rest := by
  generalize hn : p.rest.length = n
  induction n using Nat.strongRecOn generalizing p before segs with
  | ind n ih =>
    cases hAhead : ahead p.rest with
    | nothing =>
      rw [Place.found_nothing hAhead] at h
      cases h
      rw [ahead_nothing_spec hAhead]
      exact .nothing before
    | text text =>
      rw [Place.found_text hAhead] at h
      cases h
      obtain ⟨hText, -, -⟩ := ahead_text_spec hAhead
      rw [← hText]
      exact .text rfl hp.lineAt_eq
    | fault finding =>
      rw [Place.found_fault hAhead] at h
      cases h
    | tagged text tag rest =>
      rw [Place.found_tagged hAhead] at h
      obtain ⟨hSegs, hError⟩ := Prod.mk.inj h
      subst hSegs
      have hSplit := ahead_tagged hAhead
      have hText : text ++ (tag.written ++ rest) = p.rest := by
        rw [← List.append_assoc, hSplit]
      have hOthers := ih _ (hn ▸ Place.after_rest_lt hAhead) (hp.after hAhead)
        (Prod.ext rfl hError) rfl
      have hWritten : p.rest = text ++ tag.written ++ (stripLeading tag.post rest).1 ++
          (p.after text tag rest).rest := by
        rw [← hSplit, Place.after, List.append_assoc (text ++ tag.written), stripLeading_append]
      rw [hWritten]
      let t : PlacedTag := ⟨tag, lineAt source (p.offset + text.length),
        (stripTrailing tag.pre text).2, (stripLeading tag.post rest).1⟩
      exact Spells.tagged (t := t) rfl (stripTrailing_spec tag.pre text) hp.lineAt_eq
        (hp.lineAt_add hText) hOthers

/-- Texts and the insides of tags are plain, and only blank-line characters are stripped. -/
structure Segment.Clean (s : Segment) : Prop where
  text : Plain s.text
  inner : ∀ t ∈ s.tag?, Plain t.tag.inner
  pre : ∀ t ∈ s.tag?, ∀ c ∈ t.strippedPre, Strippable c
  post : ∀ t ∈ s.tag?, ∀ c ∈ t.strippedPost, Strippable c

theorem Place.clean_of_mem_found {source : List Char} {p : Place} {s : Segment}
    (h : s ∈ (p.found source).1) : s.Clean := by
  generalize hn : p.rest.length = n
  induction n using Nat.strongRecOn generalizing p with
  | ind n ih =>
    cases hAhead : ahead p.rest with
    | nothing =>
      rw [Place.found_nothing hAhead] at h
      cases h
    | text text =>
      rw [Place.found_text hAhead] at h
      rw [List.mem_singleton.mp h]
      exact ⟨(ahead_text_spec hAhead).2.2, by simp, by simp, by simp⟩
    | fault finding =>
      rw [Place.found_fault hAhead] at h
      cases h
    | tagged text tag rest =>
      rw [Place.found_tagged hAhead] at h
      rcases List.mem_cons.mp h with rfl | h
      · obtain ⟨-, hText, hInner⟩ := ahead_tagged_spec hAhead
        have hPut := stripTrailing_spec tag.pre text
        refine ⟨hPut.plain hText, ?_, ?_, ?_⟩
        · rintro t ⟨rfl⟩
          exact hInner
        · rintro t ⟨rfl⟩
          exact hPut.strippable
        · rintro t ⟨rfl⟩
          exact stripLeading_strippable tag.post rest
      · exact ih _ (hn ▸ Place.after_rest_lt hAhead) h rfl

/-- The segments of a template spell it. -/
theorem segments_spells {source : List Char} {segs : List Segment}
    (h : segments source = .ok segs) : Spells [] segs source :=
  Place.spells_found (Place.in_start source) (segments_eq_ok_iff.mp h)

/-- **A reading loses nothing.** A template that is accepted is spelled by its segments, character
for character and line by line. What was stripped is made of blank-line characters, and neither a
text nor the inside of a tag has double brackets. -/
theorem readWith_lossless {source : List Char} {segs : List Segment}
    (h : (readWith source LineCursor.start).1 = (segs, none)) :
    Spells [] segs source ∧ ∀ s ∈ segs, s.Clean := by
  have hSegments := readWith_start_eq_iff.mp h
  refine ⟨segments_spells hSegments, fun s hs => ?_⟩
  have hFound : (Place.start source).found source = (segs, none) :=
    segments_eq_ok_iff.mp hSegments
  have hMem : s ∈ ((Place.start source).found source).1 := by
    rw [hFound]
    exact hs
  exact Place.clean_of_mem_found hMem

/-- A template in which a hyphen strips a group from before the final line feed of the text, and a
plus sign strips two groups after the tag. -/
def strippedTemplate : List Char := "a\n \n[[- x +]]\n\nb".toList

/-- Its segments. -/
def strippedSegments : List Segment :=
  [⟨['a', '\n'], 1,
      some ⟨⟨.hyphens 1, false, ' ', ['x'], ' ', .plus⟩, 3, ['\n', ' '], ['\n', '\n']⟩⟩,
    ⟨['b'], 5, none⟩]

theorem readWith_lossless_stripped :
    (readWith strippedTemplate LineCursor.start).1 = (strippedSegments, none) ∧
      Spells [] strippedSegments strippedTemplate ∧ ∀ s ∈ strippedSegments, s.Clean :=
  have h : (readWith strippedTemplate LineCursor.start).1 = (strippedSegments, none) := by
    decide +kernel
  ⟨h, readWith_lossless h⟩

end Stencil.Template
