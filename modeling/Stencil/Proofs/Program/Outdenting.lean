import Mathlib.Data.List.DropRight
import Mathlib.Data.List.Forall2
import Stencil.Proofs.Program.Role

/-!
# Code without its margin

What is left of a body without its margin are the lines between the blank ones at either end. The
least indentation of the lines that are not blank is taken off each of them, so it takes nothing but
blanks, and the line with the least indentation is left without any. No line is lost: those at
either end are counted, and a blank line within the code stays as an empty one.

* `margin?_eq_some_iff`: the margin is the least indentation.
* `LosesMargin`: a line, and what it becomes under a margin.
* `InnerLines`: the lines between the blank lines at either end.
* `Outdented`: these lines, and the code they become.
* `realign_outdents`: what becomes of any body.
-/

namespace Stencil.Program

open Text

/-! ## The margin -/

theorem margin?_eq_none_iff {lines : List (List Char)} :
    margin? lines = none ↔ ∀ line ∈ lines, isBlankText line = true := by
  rw [margin?, List.min?_eq_none_iff, List.map_eq_nil_iff, List.filter_eq_nil_iff]
  simp only [Bool.not_eq_true', Bool.not_eq_false]

/-- The margin is the least indentation of a line that is not blank. -/
theorem margin?_eq_some_iff {lines : List (List Char)} {k : Nat} :
    margin? lines = some k ↔
      (∃ line ∈ lines, isBlankText line = false ∧ indentation line = k) ∧
        ∀ line ∈ lines, isBlankText line = false → k ≤ indentation line := by
  rw [margin?, List.min?_eq_some_iff, List.forall_mem_map]
  simp only [List.mem_map, List.mem_filter, Bool.not_eq_true', and_assoc, and_imp]

/-! ## A line under a margin -/

/-- A line, and what it becomes under a margin of `k` blanks: a blank line becomes empty, and any
other loses `k` blanks at its start. -/
inductive LosesMargin (k : Nat) : List Char → List Char → Prop
  | blank {line : List Char} (hLine : isBlankText line = true) : LosesMargin k line []
  | code {pad line : List Char} (hPad : isBlankText pad = true) (hLength : pad.length = k)
      (hLine : isBlankText line = false) : LosesMargin k (pad ++ line) line

theorem isBlankText_append (s t : List Char) :
    isBlankText (s ++ t) = (isBlankText s && isBlankText t) :=
  List.all_append

/-- As many characters as the indentation has are blank. -/
theorem isBlankText_take {line : List Char} {k : Nat} (h : k ≤ indentation line) :
    isBlankText (line.take k) = true := by
  have hShort : (line.take k).length ≤ (line.takeWhile isBlank).length :=
    (List.length_take_le k line).trans h
  have hPrefix : line.take k <+: line.takeWhile isBlank :=
    List.prefix_of_prefix_length_le (List.take_prefix k line) (List.takeWhile_prefix isBlank) hShort
  exact List.all_eq_true.mpr fun c hc => List.mem_takeWhile_imp (hPrefix.subset hc)

/-- What is behind the indentation of a line that is not blank is not blank. -/
theorem isBlankText_drop {line : List Char} {k : Nat} (hLine : isBlankText line = false)
    (h : k ≤ indentation line) : isBlankText (line.drop k) = false := by
  have hAll := isBlankText_append (line.take k) (line.drop k)
  rw [List.take_append_drop, hLine, isBlankText_take h, Bool.true_and] at hAll
  exact hAll.symm

theorem cutMargin_of_not_blank {line : List Char} (hLine : isBlankText line = false) (k : Nat) :
    cutMargin k line = line.drop k := by
  rw [cutMargin, hLine]
  rfl

theorem losesMargin_cutMargin {line : List Char} {k : Nat}
    (h : isBlankText line = false → k ≤ indentation line) :
    LosesMargin k line (cutMargin k line) := by
  cases hLine : isBlankText line with
  | true =>
    rw [cutMargin, hLine]
    exact .blank hLine
  | false =>
    have hk := h hLine
    have hLength : (line.take k).length = k :=
      List.length_take_of_le (hk.trans (List.takeWhile_prefix isBlank).length_le)
    have hCode := LosesMargin.code (isBlankText_take hk) hLength (isBlankText_drop hLine hk)
    rw [List.take_append_drop] at hCode
    rw [cutMargin_of_not_blank hLine]
    exact hCode

/-- Without all of its indentation a line begins with a character that is not blank. -/
theorem drop_indentation {line : List Char} (hLine : isBlankText line = false) :
    ∃ c rest, line.drop (indentation line) = c :: rest ∧ isBlank c = false := by
  have hLeft : (line.takeWhile isBlank ++ trimLeft line).drop (indentation line) =
      trimLeft line := List.drop_left
  rw [trimLeft, List.takeWhile_append_dropWhile] at hLeft
  have hSome : line.dropWhile isBlank ≠ [] := trimLeft_ne_nil hLine
  obtain ⟨c, rest, hCons⟩ := List.exists_cons_of_ne_nil hSome
  have hFirst := List.head_dropWhile_not isBlank hSome
  simp only [hCons, List.head_cons] at hFirst
  exact ⟨c, rest, hLeft.trans hCons, hFirst⟩

/-! ## Blank lines around the code -/

/-- Lines with blank lines at either end, and the lines between them, of which the first and the
last are not blank. -/
structure InnerLines (above inner below lines : List (List Char)) : Prop where
  split : lines = above ++ inner ++ below
  blank : ∀ line ∈ above ++ below, isBlankText line = true
  first : ∃ line, inner.head? = some line ∧ isBlankText line = false
  last : ∃ line, inner.getLast? = some line ∧ isBlankText line = false

theorem innerLines {lines : List (List Char)} (h : ∃ line ∈ lines, isBlankText line = false) :
    InnerLines (lines.takeWhile isBlankText) (dropBlankEnd (lines.dropWhile isBlankText))
      ((lines.dropWhile isBlankText).rtakeWhile isBlankText) lines := by
  obtain ⟨line, hMem, hLine⟩ := h
  have hSome : dropBlankEnd (lines.dropWhile isBlankText) ≠ [] :=
    List.ne_nil_of_mem (mem_dropBlankEnd hMem hLine)
  have hEnd : dropBlankEnd (lines.dropWhile isBlankText) ++
      (lines.dropWhile isBlankText).rtakeWhile isBlankText = lines.dropWhile isBlankText :=
    List.rdropWhile_append_rtakeWhile
  refine ⟨?_, ?_, ?_, ?_⟩
  · rw [List.append_assoc, hEnd, List.takeWhile_append_dropWhile]
  · intro l hl
    rcases List.mem_append.mp hl with hl | hl
    · exact List.mem_takeWhile_imp hl
    · exact List.mem_rtakeWhile_imp hl
  · obtain ⟨first, others, hCons⟩ := List.exists_cons_of_ne_nil hSome
    have hFirst := List.head?_dropWhile_not isBlankText lines
    rw [← hEnd, hCons] at hFirst
    rw [hCons]
    exact ⟨first, rfl, hFirst⟩
  · refine ⟨_, List.getLast?_eq_some_getLast hSome, ?_⟩
    rw [← Bool.not_eq_true]
    exact List.rdropWhile_last_not isBlankText _ hSome

/-! ## Whole bodies -/

/-- Lines of a body, and the lines of code they become under a margin of `k` blanks. The code begins
and ends with a line that is not blank, and no margin is left to all of its lines. -/
structure Outdented (k : Nat) (lines code : List (List Char)) : Prop where
  each : List.Forall₂ (LosesMargin k) lines code
  first : ∃ line, code.head? = some line ∧ isBlankText line = false
  last : ∃ line, code.getLast? = some line ∧ isBlankText line = false
  flush : ∃ c rest, c :: rest ∈ code ∧ isBlank c = false

theorem Outdented.code_ne_nil {k : Nat} {lines code : List (List Char)}
    (h : Outdented k lines code) : code ≠ [] := by
  obtain ⟨c, rest, hMem, -⟩ := h.flush
  exact List.ne_nil_of_mem hMem

theorem InnerLines.outdented {above inner below lines : List (List Char)} {k : Nat}
    (h : InnerLines above inner below lines) (hMargin : margin? lines = some k) :
    Outdented k inner (inner.map (cutMargin k)) := by
  obtain ⟨⟨least, hLeast, hSome, rfl⟩, hAll⟩ := margin?_eq_some_iff.mp hMargin
  have hInner : ∀ line ∈ inner, isBlankText line = false →
      indentation least ≤ indentation line := by
    intro line hMem
    apply hAll
    rw [h.split]
    exact List.mem_append_left below (List.mem_append_right above hMem)
  have hKept : ∀ line ∈ inner, isBlankText line = false →
      isBlankText (cutMargin (indentation least) line) = false := by
    intro line hMem hLine
    rw [cutMargin_of_not_blank hLine]
    exact isBlankText_drop hLine (hInner line hMem hLine)
  refine ⟨?_, ?_, ?_, ?_⟩
  · rw [List.forall₂_map_right_iff, List.forall₂_same]
    exact fun line hMem => losesMargin_cutMargin (hInner line hMem)
  · obtain ⟨line, hHead, hLine⟩ := h.first
    refine ⟨_, by rw [List.head?_map, hHead, Option.map_some], ?_⟩
    exact hKept line (List.mem_of_head? hHead) hLine
  · obtain ⟨line, hLast, hLine⟩ := h.last
    refine ⟨_, by rw [List.getLast?_map, hLast, Option.map_some], ?_⟩
    exact hKept line (List.mem_of_getLast? hLast) hLine
  · have hMem : least ∈ inner := by
      rw [h.split, List.append_assoc, List.mem_append, List.mem_append] at hLeast
      rcases hLeast with hIn | hIn | hIn
      · rw [h.blank least (List.mem_append_left below hIn)] at hSome
        cases hSome
      · exact hIn
      · rw [h.blank least (List.mem_append_right above hIn)] at hSome
        cases hSome
    obtain ⟨c, rest, hCut, hc⟩ := drop_indentation hSome
    refine ⟨c, rest, List.mem_map.mpr ⟨least, hMem, ?_⟩, hc⟩
    rw [cutMargin_of_not_blank hSome, hCut]

/-- If there is a margin, the blank lines at either end are counted and the lines between them are
the code. -/
theorem realign_of_margin? {body : List Char} {k : Nat} (h : margin? (splitLines body) = some k) :
    realign body = ⟨((splitLines body).takeWhile isBlankText).length,
      (dropBlankEnd ((splitLines body).dropWhile isBlankText)).map (cutMargin k),
      (((splitLines body).dropWhile isBlankText).rtakeWhile isBlankText).length⟩ := by
  have hAbove := congrArg List.length
    (List.takeWhile_append_dropWhile (p := isBlankText) (l := splitLines body))
  have hBelow : (dropBlankEnd ((splitLines body).dropWhile isBlankText)).length +
      (((splitLines body).dropWhile isBlankText).rtakeWhile isBlankText).length =
      ((splitLines body).dropWhile isBlankText).length := by
    rw [← List.length_append]
    exact congrArg List.length List.rdropWhile_append_rtakeWhile
  rw [List.length_append] at hAbove
  simp only [realign, h, Aligned.mk.injEq, true_and]
  omega

/-- **No line of a body is lost, and code loses nothing but a margin.** The blank lines around the
code and the line breaks within it are the line feeds of the body. There is no code only if all
lines are blank. Otherwise the code is made of the lines between the blank ones at either end, which
are counted, and all of its lines that are not blank lose the same number of blanks. -/
theorem realign_outdents (body : List Char) :
    (realign body).before + (realign body).after + ((realign body).code.length - 1) =
        newlines body ∧
      ((realign body).code = [] ↔ ∀ line ∈ splitLines body, isBlankText line = true) ∧
      ((realign body).code ≠ [] → ∃ above lines below k,
        splitLines body = above ++ lines ++ below ∧
        above.length = (realign body).before ∧ below.length = (realign body).after ∧
        (∀ line ∈ above ++ below, isBlankText line = true) ∧
        Outdented k lines (realign body).code) := by
  have hFeeds := realign_feeds body
  refine ⟨by unfold Aligned.Feeds at hFeeds; omega, ?_⟩
  cases hMargin : margin? (splitLines body) with
  | none =>
    have hCode : (realign body).code = [] := by simp only [realign, hMargin]
    exact ⟨iff_of_true hCode (margin?_eq_none_iff.mp hMargin), fun h => absurd hCode h⟩
  | some k =>
    obtain ⟨line, hMem, hLine, -⟩ := (margin?_eq_some_iff.mp hMargin).1
    have hInner := innerLines ⟨line, hMem, hLine⟩
    have hOut := hInner.outdented hMargin
    have hSome : ¬ ∀ line ∈ splitLines body, isBlankText line = true := by
      intro hAll
      rw [hAll line hMem] at hLine
      cases hLine
    rw [realign_of_margin? hMargin]
    refine ⟨iff_of_false hOut.code_ne_nil hSome, fun _ => ?_⟩
    exact ⟨_, _, _, k, hInner.split, rfl, rfl, hInner.blank, hOut⟩

/-- Tabs count as other blanks do, and the blank line within the code keeps none of its own. -/
example : realign " \n  \tif x:\n   \n\t   \ty()\n".toList =
    ⟨1, ["if x:".toList, [], " \ty()".toList], 1⟩ := by decide +kernel

end Stencil.Program
