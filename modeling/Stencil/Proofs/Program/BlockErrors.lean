import Stencil.Proofs.Program.Balance
import Stencil.Proofs.Program.Schedule
import Stencil.Proofs.Template.Unmarked

/-!
# The line of a block error

An error about blocks names a line of the template: the line on which the code of the tag to blame
begins, its blank lines included. The keyword or header that it is about may stand further down,
after blank lines or after other lines of code, and none of those are counted.

* `codeLine_in_text`: where the lines of some code stand in the text of its chunk.
* `Blamed`: the chunk to blame for an error.
* `line_of_blockError`: how far the line of an error is from that of its keyword or header.
-/

namespace Stencil.Program

open Text Template

/-! ## Lines in their text -/

/-- Some lines, each with its line feed. -/
def ended (lines : List (List Char)) : List Char := lines.flatMap (· ++ ['\n'])

theorem ended_cons (line : List Char) (lines : List (List Char)) :
    ended (line :: lines) = line ++ '\n' :: ended lines := by
  rw [ended, List.flatMap_cons, List.append_assoc, List.singleton_append, ended]

theorem newlines_ended {lines : List (List Char)} (h : ∀ line ∈ lines, Unbroken line) :
    newlines (ended lines) = lines.length := by
  induction lines with
  | nil => rfl
  | cons line lines ih =>
    have hLine := newlines_eq_zero_of_unbroken (h line List.mem_cons_self)
    have hLines := ih fun l hl => h l (List.mem_cons_of_mem line hl)
    rw [ended_cons, newlines_append, newlines_cons, hLine, hLines, if_pos rfl, List.length_cons]
    omega

theorem joinLines_at (above : List (List Char)) (line : List Char) (below : List (List Char)) :
    ∃ rest, joinLines (above ++ line :: below) = ended above ++ line ++ rest := by
  induction above with
  | nil =>
    cases below with
    | nil => exact ⟨[], (List.append_nil line).symm⟩
    | cons next below => exact ⟨'\n' :: joinLines (next :: below), rfl⟩
  | cons first above ih =>
    obtain ⟨rest, hRest⟩ := ih
    have hJoin : joinLines (first :: (above ++ line :: below)) =
        first ++ '\n' :: joinLines (above ++ line :: below) := by
      cases above <;> rfl
    refine ⟨rest, ?_⟩
    rw [List.cons_append, hJoin, hRest, ended_cons]
    simp only [List.append_assoc, List.cons_append]

/-- A text is what is above one of its lines, that line, and what is below. -/
theorem text_at_line {s line : List Char} {above below : List (List Char)}
    (h : splitLines s = above ++ line :: below) :
    ∃ rest, s = ended above ++ line ++ rest ∧ newlines (ended above) = above.length := by
  obtain ⟨rest, hRest⟩ := joinLines_at above line below
  rw [← h, joinLines_splitLines] at hRest
  refine ⟨rest, hRest, newlines_ended fun l hl => ?_⟩
  apply unbroken_of_mem_splitLines (s := s)
  rw [h]
  exact List.mem_append_left _ hl

/-! ## Lines of code in their text -/

theorem trimRight_isPrefix (line : List Char) : trimRight line <+: line := by
  rw [← List.reverse_suffix, trimRight, List.reverse_reverse]
  exact List.dropWhile_suffix isBlank

theorem dropBlankEnd_isPrefix (lines : List (List Char)) : dropBlankEnd lines <+: lines := by
  rw [← List.reverse_suffix, dropBlankEnd, List.reverse_reverse]
  exact List.dropWhile_suffix isBlankText

/-- A line less a margin is the end of the line. -/
theorem cutMargin_suffix (margin : Nat) (line : List Char) : cutMargin margin line <:+ line := by
  unfold cutMargin
  split
  · exact List.nil_suffix
  · exact List.drop_suffix margin line

/-- Without a semicolon at the end, the last line is shorter or gone. -/
theorem dropSemicolon_shape (a : Aligned) :
    (Layout.dropSemicolon a).before = a.before ∧
      ((Layout.dropSemicolon a).code <+: a.code ∨
        ∃ lines last part, a.code = lines ++ [last] ∧ part <+: last ∧
          (Layout.dropSemicolon a).code = lines ++ [part]) := by
  unfold Layout.dropSemicolon
  split
  · exact ⟨rfl, .inl (List.prefix_refl _)⟩
  · rename_i last hLast
    simp only
    split
    · split
      · have hLess := List.dropLast_prefix a.code
        exact ⟨rfl, .inl hLess⟩
      · obtain ⟨lines, hCode⟩ := List.getLast?_eq_some_iff.mp hLast
        refine ⟨rfl, .inr ⟨lines, last, _, hCode, ?_, by rw [hCode, List.dropLast_concat]⟩⟩
        have hLess := List.dropLast_prefix (trimRight last)
        exact (trimRight_isPrefix _).trans (hLess.trans (trimRight_isPrefix last))
    · exact ⟨rfl, .inl (List.prefix_refl _)⟩

theorem dropSemicolon_line {a : Aligned} {k : Nat} {line : List Char}
    (h : (Layout.dropSemicolon a).code[k]? = some line) :
    ∃ whole, a.code[k]? = some whole ∧ line <+: whole := by
  rcases (dropSemicolon_shape a).2 with hBegins | ⟨lines, last, part, hCode, hPart, hShort⟩
  · obtain ⟨hk, rfl⟩ := List.getElem?_eq_some_iff.mp h
    exact ⟨_, List.prefix_iff_getElem?.mp hBegins k hk, List.prefix_refl _⟩
  · rw [hShort] at h
    rw [hCode]
    rcases Nat.lt_or_ge k lines.length with hk | hk
    · rw [List.getElem?_append_left hk] at h ⊢
      exact ⟨line, h, List.prefix_refl line⟩
    · rw [List.getElem?_append_right hk] at h ⊢
      rw [List.getElem?_singleton] at h ⊢
      split at h
      · rename_i hZero
        rw [if_pos hZero]
        exact ⟨last, rfl, Option.some.inj h ▸ hPart⟩
      · cases h

theorem exists_split {α : Type} {l : List α} {k : Nat} {a : α} (h : l[k]? = some a) :
    ∃ before after, l = before ++ a :: after ∧ before.length = k := by
  obtain ⟨hk, rfl⟩ := List.getElem?_eq_some_iff.mp h
  refine ⟨l.take k, l.drop (k + 1), ?_, List.length_take_of_le (Nat.le_of_lt hk)⟩
  rw [← List.drop_eq_getElem_cons hk, List.take_append_drop]

/-- Above a line of code are the blank lines before the code, and the other lines of code. -/
theorem lines_at_code {lines : List (List Char)} {line : List Char} {k : Nat}
    (h : (dropBlankEnd (lines.dropWhile isBlankText))[k]? = some line) :
    ∃ above below, lines = above ++ line :: below ∧
      above.length = lines.length - (lines.dropWhile isBlankText).length + k := by
  obtain ⟨first, others, hCode, hFirst⟩ := exists_split h
  obtain ⟨blanks, hInner⟩ := dropBlankEnd_isPrefix (lines.dropWhile isBlankText)
  have hAll := List.takeWhile_append_dropWhile (p := isBlankText) (l := lines)
  refine ⟨lines.takeWhile isBlankText ++ first, others ++ blanks, ?_, ?_⟩
  · rw [← hInner, hCode] at hAll
    simpa only [List.append_assoc, List.cons_append] using hAll.symm
  · have hLength := congrArg List.length hAll
    rw [List.length_append] at hLength
    rw [List.length_append, hFirst]
    omega

theorem realign_line {text line : List Char} {k : Nat} (h : (realign text).code[k]? = some line) :
    ∃ above below, text = above ++ line ++ below ∧ newlines above = (realign text).before + k := by
  unfold realign at h ⊢
  simp only at h ⊢
  split at h
  · cases h
  · rename_i margin hMargin
    rw [List.getElem?_map] at h
    obtain ⟨whole, hWhole, rfl⟩ := Option.map_eq_some_iff.mp h
    obtain ⟨pad, hPad⟩ := cutMargin_suffix margin whole
    obtain ⟨above, below, hLines, hLength⟩ := lines_at_code hWhole
    obtain ⟨rest, hText, hAbove⟩ := text_at_line hLines
    have hUnbroken : Unbroken whole := by
      apply unbroken_of_mem_splitLines (s := text)
      rw [hLines]
      exact List.mem_append_right _ List.mem_cons_self
    have hPadFeeds : newlines pad = 0 :=
      newlines_eq_zero_of_unbroken (hUnbroken.of_subset (hPad ▸ List.subset_append_left _ _))
    refine ⟨ended above ++ pad, rest, ?_, ?_⟩
    · rw [List.append_assoc (ended above), hPad]
      exact hText
    · rw [newlines_append, hPadFeeds, hAbove, hLength]
      rfl

/-- The lines of some code stand in the text of its chunk, after the blank lines before the code. -/
theorem codeLine_in_text {c : Chunk} {k : Nat} {line : List Char}
    (h : (codeOf c).code[k]? = some line) :
    ∃ above below, c.text = above ++ line ++ below ∧ newlines above = (codeOf c).before + k := by
  obtain ⟨whole, hWhole, rest, rfl⟩ := dropSemicolon_line h
  obtain ⟨above, below, hText, hAbove⟩ := realign_line hWhole
  refine ⟨above, rest ++ below, ?_, ?_⟩
  · rw [hText]
    simp only [List.append_assoc]
  · rw [codeOf, (dropSemicolon_shape _).1, hAbove]

/-! ## The chunk to blame -/

/-- Which chunk is to blame for an error: one that ends or continues a block behind balanced chunks,
or one that begins a block, with balanced chunks after it to the end. -/
inductive Blamed (cs : List Chunk) (c : Chunk) : BlockError → Prop
  | notOpen {before after : List Chunk} (hSplit : cs = before ++ c :: after)
      (hBefore : Balanced before) (hNeeds : NeedsBlock c) :
      Blamed cs c (.notOpen (keywordOf c) c.line)
  | notClosed {before after : List Chunk} (hSplit : cs = before ++ c :: after)
      (hSheltered : Sheltered 0 cs) (hBegins : BeginsBlock c) (hAfter : Balanced after) :
      Blamed cs c (.notClosed c.line)

theorem blamed_of_lay {cs : List Chunk} {e : BlockError} (h : lay cs = .error e) :
    ∃ c, Blamed cs c e := by
  rcases balanced_or cs with hBalanced | ⟨before, c, after, rfl, hBefore, hc⟩ |
    ⟨hSheltered, before, c, after, rfl, hc, hAfter⟩
  · obtain ⟨b, hLay⟩ := hBalanced.lay
    rw [hLay] at h
    cases h
  · rw [lay_eq_notOpen hBefore hc] at h
    cases h
    exact ⟨c, .notOpen rfl hBefore hc⟩
  · rw [lay_eq_notClosed hSheltered hc hAfter] at h
    cases h
    exact ⟨c, .notClosed rfl hSheltered hc hAfter⟩

/-- What an error is about in some code: the keyword, or the header, with which the code ends. -/
def BlockError.subject (lines : List (List Char)) : BlockError → List Char
  | notOpen keyword _ => keyword
  | notClosed _ => lines.getLastD []

/-- What needs a block is one line. -/
theorem codeLines_of_needsBlock {c : Chunk} (h : NeedsBlock c) : ∃ line, codeLines c = [line] := by
  unfold NeedsBlock partOf at h
  cases hLines : codeLines c with
  | nil =>
    rw [hLines] at h
    rcases h with h | h <;> cases h
  | cons line others =>
    rw [hLines] at h
    have hOthers : others = [] := by
      by_contra hOthers
      simp only [hOthers, false_and, if_false] at h
      split at h <;> rcases h with h | h <;> cases h
    exact ⟨line, by rw [hOthers]⟩

theorem codeLines_of_beginsBlock {c : Chunk} (h : BeginsBlock c) : codeLines c ≠ [] := by
  intro hNone
  unfold BeginsBlock partOf at h
  rw [hNone] at h
  rcases h with h | h <;> cases h

/-- A line is what is left of it without blanks, with the blanks before and after. -/
theorem trim_in_line (line : List Char) : ∃ before after, line = before ++ trim line ++ after := by
  obtain ⟨after, hRight⟩ := trimRight_isPrefix (trimLeft line)
  refine ⟨line.takeWhile isBlank, after, ?_⟩
  rw [List.append_assoc, trim, hRight, trimLeft, List.takeWhile_append_dropWhile]

theorem Blamed.filled {cs : List Chunk} {c : Chunk} {e : BlockError} (h : Blamed cs c e) :
    codeLines c ≠ [] := by
  cases h with
  | notOpen hSplit hBefore hNeeds =>
    obtain ⟨line, hLine⟩ := codeLines_of_needsBlock hNeeds
    rw [hLine]
    exact List.cons_ne_nil line []
  | notClosed hSplit hSheltered hBegins hAfter => exact codeLines_of_beginsBlock hBegins

/-- The subject of an error stands in the text of the chunk to blame, after the blank lines before
the code and, if it is a header, after the other lines of the code. -/
theorem Blamed.subject_in_text {cs : List Chunk} {c : Chunk} {e : BlockError} (h : Blamed cs c e) :
    ∃ above below, c.text = above ++ e.subject (codeLines c) ++ below ∧
      newlines above = (codeOf c).before + ((codeLines c).length - 1) := by
  have hFilled : codeLines c ≠ [] := h.filled
  have hCode := (code_of_codeLines hFilled).2
  cases h with
  | notOpen hSplit hBefore hNeeds =>
    obtain ⟨line, hLine⟩ := codeLines_of_needsBlock hNeeds
    rw [hLine] at hCode
    have hFirst : (codeOf c).code[0]? = some line := by
      rw [← hCode]
      rfl
    obtain ⟨above, below, hText, hAbove⟩ := codeLine_in_text hFirst
    obtain ⟨before, after, hTrim⟩ := trim_in_line line
    have hUnbroken : Unbroken line :=
      dropSemicolon_unbroken (fun _ => realign_unbroken) (hCode ▸ List.mem_singleton_self line)
    have hBlanks : newlines before = 0 := by
      apply newlines_eq_zero_of_unbroken (hUnbroken.of_subset _)
      rw [hTrim, List.append_assoc]
      exact List.subset_append_left _ _
    refine ⟨above ++ before, after ++ below, ?_, ?_⟩
    · rw [hText, BlockError.subject, keywordOf, hLine, List.headD_cons]
      nth_rewrite 1 [hTrim]
      simp only [List.append_assoc]
    · rw [newlines_append, hBlanks, hAbove, hLine]
      rfl
  | notClosed hSplit hSheltered hBegins hAfter =>
    apply codeLine_in_text
    rw [← hCode, ← List.getLast?_eq_getElem?, BlockError.subject, List.getLastD_eq_getLast?,
      List.getLast?_eq_some_getLast hFilled]
    rfl

theorem Blamed.mem {cs : List Chunk} {c : Chunk} {e : BlockError} (h : Blamed cs c e) : c ∈ cs := by
  cases h with
  | notOpen hSplit =>
    rw [hSplit]
    exact List.mem_append_right _ List.mem_cons_self
  | notClosed hSplit =>
    rw [hSplit]
    exact List.mem_append_right _ List.mem_cons_self

theorem Blamed.line_eq {cs : List Chunk} {c : Chunk} {e : BlockError} (h : Blamed cs c e) :
    e.line = c.line := by
  cases h <;> rfl

/-! ## The line of an error -/

/-- Code of a template is the body of one of its tags. It begins after the first blank of the tag. -/
theorem tag_of_code {source : List Char} {cs : List Chunk} {c : Chunk} (h : chunks source = .ok cs)
    (hc : c ∈ cs) (hKind : c.kind = .code) :
    ∃ (before : List Char) (t : Tag) (after : List Char), source = before ++ t.written ++ after ∧
      c.text = t.body ∧ c.line = (newlines (before ++ t.head ++ [t.lead]) + 1 : Nat) := by
  have hMem : c ∈ cs.filter Chunk.isCode := List.mem_filter.mpr ⟨hc, by simp [Chunk.isCode, hKind]⟩
  rw [filter_code_chunks h] at hMem
  obtain ⟨ps, p, qs, hPieces, rfl⟩ := mem_codeFrom hMem
  refine ⟨writePieces ps p.text, p.tag, writePieces qs (pieces source).2, ?_, rfl, ?_⟩
  · refine (writePieces_pieces source).symm.trans ?_
    rw [hPieces]
    simp only [writePieces, List.flatMap_append, List.flatMap_cons, List.append_assoc]
  · simp only [Chunk.code, newlines_append, Tag.newlines_head]
    omega

/-- **Where a block error points.** An error is about the code of some tag. Its line is the one on
which that code begins. The keyword or header that it is about stands as many lines further down as
the code has blank lines before it and lines before its last. -/
theorem line_of_blockError {source : List Char} {e : BlockError}
    (h : body source = .error (.block e)) :
    ∃ cs c before after above below, ∃ t : Tag, chunks source = .ok cs ∧ Blamed cs c e ∧
      source = before ++ t.written ++ after ∧ c.text = t.body ∧
      t.body = above ++ e.subject (codeLines c) ++ below ∧
      lineAt source (before ++ t.head ++ [t.lead] ++ above).length =
        e.line + (codeOf c).before + ((codeLines c).length - 1 : Nat) := by
  unfold body at h
  cases hChunks : chunks source with
  | error e' =>
    rw [hChunks] at h
    cases h
  | ok cs =>
    rw [hChunks] at h
    cases hLay : lay cs with
    | ok b =>
      simp only [hLay] at h
      cases h
    | error e' =>
      simp only [hLay] at h
      obtain rfl : e' = e := TemplateError.block.inj (Except.error.inj h)
      obtain ⟨c, hBlamed⟩ := blamed_of_lay hLay
      obtain ⟨above, below, hText, hAbove⟩ := hBlamed.subject_in_text
      obtain ⟨before, t, after, hSource, hBody, hLine⟩ :=
        tag_of_code hChunks hBlamed.mem (code_of_codeLines hBlamed.filled).1
      refine ⟨cs, c, before, after, above, below, t, hChunks ▸ rfl, hBlamed, hSource, hBody,
        hBody ▸ hText, ?_⟩
      have hSplit : source = (before ++ t.head ++ [t.lead] ++ above) ++
          (e'.subject (codeLines c) ++ below ++ [t.trail] ++ t.post.written ++ closeBrackets ++
            after) := by
        rw [hSource, Tag.written, Tag.inner, ← hBody, hText]
        simp only [List.append_assoc, List.cons_append, List.nil_append]
      rw [hSplit, lineAt_append_left, newlines_append, hAbove, hBlamed.line_eq, hLine]
      omega

/-- `end` stands on the second line, after a blank one, and so does `if x:`, after another
statement. Both errors say line one. -/
example :
    ["[[ \nend ]]", "[[ x = 1\nif x: ]]"].map (fun source => body source.toList) =
      [.error (.block (.notOpen blockEnd 1)), .error (.block (.notClosed 1))] := by
  decide +kernel

end Stencil.Program
