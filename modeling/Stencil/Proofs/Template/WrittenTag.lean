import Stencil.Proofs.Template.Brackets

/-!
# Reading a written tag

A tag whose delimiting characters are blank, and whose inside has no double bracket, is read back
as it was written, whatever follows it. The body is cut at the right place because the first pair
of closing brackets after the opening blank is the one that was written: before it there is a
marker, and before that a blank.

* `Tag.Sound`: the tags that can be written.
* `Tag.ofText?_written`: reading undoes writing for one tag.
* `cut_written`: the first tag of a text is found where the text before it ends, also if that text
  ends in an opening bracket.
* `cut_plain`: a text without opening brackets has no tag.
-/

namespace Stencil.Template

open Text

/-- A tag that can be written: its delimiting characters are blank, and there are no double
brackets between its markers. -/
structure Tag.Sound (t : Tag) : Prop where
  lead : isBlank t.lead = true
  trail : isBlank t.trail = true
  inner : Plain t.inner

theorem Tag.sound_iff {t : Tag} :
    t.Sound ↔ isBlank t.lead = true ∧ isBlank t.trail = true ∧ Plain t.inner :=
  ⟨fun h => ⟨h.lead, h.trail, h.inner⟩, fun h => ⟨h.1, h.2.1, h.2.2⟩⟩

instance (t : Tag) : Decidable t.Sound := decidable_of_iff' _ Tag.sound_iff

/-! ## Characters of the grammar -/

theorem ne_of_isBlank {c d : Char} (hc : isBlank c = true) (hd : isBlank d = false) : c ≠ d := by
  rintro rfl
  rw [hc] at hd
  cases hd

/-- No character of a marker is blank. -/
theorem Marker.isBlank_of_mem {m : Marker} {c : Char} (h : c ∈ m.written) :
    isBlank c = false := by
  cases m with
  | hyphens n =>
    rw [(List.mem_replicate.mp h).2]
    decide
  | plus =>
    rw [List.mem_singleton.mp h]
    decide

/-! ## Markers -/

/-- A marker ends before a character that is neither a hyphen nor a plus sign. -/
theorem readMarker_written (m : Marker) {c : Char} (rest : List Char) (hHyphen : c ≠ '-')
    (hPlus : c ≠ '+') : readMarker (m.written ++ c :: rest) = (m, c :: rest) := by
  cases m with
  | plus => rfl
  | hyphens n =>
    have hRun : (List.replicate n '-' ++ c :: rest).takeWhile (· = '-') = List.replicate n '-' := by
      rw [List.takeWhile_append_of_pos (by simp [List.mem_replicate]),
        List.takeWhile_cons_of_neg (by simpa using hHyphen), List.append_nil]
    have hRest : (List.replicate n '-' ++ c :: rest).dropWhile (· = '-') = c :: rest := by
      rw [List.dropWhile_append_of_pos (by simp [List.mem_replicate]),
        List.dropWhile_cons_of_neg (by simpa using hHyphen)]
    have hNoPlus : ∀ tail, List.replicate n '-' ++ c :: rest ≠ '+' :: tail := by
      intro tail hEq
      cases n with
      | zero => exact hPlus (List.cons.inj hEq).1
      | succ n => exact absurd (List.cons.inj hEq).1 (by decide)
    unfold readMarker
    split
    · rename_i tail hEq
      exact absurd hEq (hNoPlus tail)
    · simp only [Marker.written, hRun, hRest, List.length_replicate]

/-! ## Heads -/

theorem readHead?_written (t : Tag) (h : isBlank t.lead = true) (rest : List Char) :
    readHead? (t.head ++ t.lead :: rest) = some (⟨t.pre, t.isComment, t.lead⟩, rest) := by
  have hHyphen : t.lead ≠ '-' := ne_of_isBlank h (by decide)
  have hPlus : t.lead ≠ '+' := ne_of_isBlank h (by decide)
  have hSign : t.lead ≠ '#' := ne_of_isBlank h (by decide)
  have hSplit : t.head ++ t.lead :: rest =
      '[' :: '[' :: (t.pre.written ++ (t.sign ++ t.lead :: rest)) := by
    simp [Tag.head, openBrackets]
  rw [hSplit]
  unfold readHead? Tag.sign
  cases hComment : t.isComment with
  | true =>
    simp only [if_true, List.singleton_append]
    rw [readMarker_written t.pre _ (by decide) (by decide)]
    simp only [h, if_true]
  | false =>
    simp only [Bool.false_eq_true, if_false, List.nil_append]
    rw [readMarker_written t.pre _ hHyphen hPlus]
    split
    · rename_i hEq
      exact absurd (List.cons.inj (Prod.mk.inj hEq).2).1 hSign
    · rename_i hEq
      cases hEq
      simp only [h, if_true]
    · rename_i hEq
      cases hEq

/-- A head starts with two opening brackets. -/
theorem readHead?_eq_none_of_not_prefix {s : List Char} (h : ¬ openBrackets <+: s) :
    readHead? s = none := by
  unfold readHead?
  split
  · rename_i s
    exact absurd ⟨s, rfl⟩ h
  · rfl

/-- Three opening brackets in a row are no head: after the first two, neither a marker nor a number
sign nor a blank follows. -/
theorem readHead?_three (rest : List Char) : readHead? ('[' :: '[' :: '[' :: rest) = none := by
  have hMarker := readMarker_written (.hyphens 0) rest (c := '[') (by decide) (by decide)
  simp only [Marker.written, List.replicate_zero, List.nil_append] at hMarker
  unfold readHead?
  simp only [hMarker]
  have hBlank : isBlank '[' = false := by decide
  simp [hBlank]

/-! ## Tails -/

theorem readClosing?_written (m : Marker) (rest : List Char) :
    readClosing? (m.written ++ closeBrackets ++ rest) = some (m, rest) := by
  have hMarker := readMarker_written m (c := ']') (']' :: rest) (by decide) (by decide)
  have hSplit : m.written ++ closeBrackets ++ rest = m.written ++ ']' :: ']' :: rest := by
    simp [closeBrackets]
  unfold readClosing?
  rw [hSplit, hMarker]
  rfl

/-- There is no end of a tag in front of a text without closing brackets that ends in a blank. -/
theorem readClosing?_eq_none {body rest : List Char} {trail : Char} (hTrail : isBlank trail = true)
    (hBody : ¬ closeBrackets <:+: body ++ [trail]) :
    readClosing? (body ++ [trail] ++ rest) = none := by
  cases hRead : readClosing? (body ++ [trail] ++ rest) with
  | none => rfl
  | some r =>
    obtain ⟨m, tail⟩ := r
    have hEq := readClosing?_append hRead
    rcases List.append_eq_append_iff.mp hEq with ⟨s, hs, _⟩ | ⟨s, hs, _⟩
    · -- the brackets end within the text
      exact absurd ⟨m.written, s, by rw [hs]⟩ hBody
    · -- the text, and with it the blank, ends within marker and brackets
      have hMem : trail ∈ m.written ++ closeBrackets := by
        rw [hs]
        simp
      rcases List.mem_append.mp hMem with hMem | hMem
      · rw [Marker.isBlank_of_mem hMem] at hTrail
        cases hTrail
      · have hBracket : trail = ']' := by simpa [closeBrackets] using hMem
        exact absurd hBracket (ne_of_isBlank hTrail (by decide))

theorem readTail?_written {body : List Char} {trail : Char} (m : Marker) (rest : List Char)
    (hTrail : isBlank trail = true) (hBody : ¬ closeBrackets <:+: body ++ [trail]) :
    readTail? (body ++ [trail] ++ (m.written ++ closeBrackets ++ rest)) =
      some ⟨body, trail, m, rest⟩ := by
  induction body with
  | nil =>
    rw [List.nil_append, List.singleton_append, readTail?]
    simp only [hTrail, if_true, readClosing?_written]
  | cons c body ih =>
    have hTail : ¬ closeBrackets <:+: body ++ [trail] :=
      fun h => hBody (List.infix_cons h)
    have hNone : (if isBlank c then
        readClosing? (body ++ [trail] ++ (m.written ++ closeBrackets ++ rest)) else none) =
          none := by
      rw [readClosing?_eq_none hTrail hTail, ite_self]
    rw [List.cons_append, List.cons_append, readTail?, hNone, ih hTail]
    rfl

/-! ## Whole tags -/

/-- Reading undoes writing for one tag. -/
theorem Tag.ofText?_written {t : Tag} (h : t.Sound) (rest : List Char) :
    Tag.ofText? (t.written ++ rest) = some (t, rest) := by
  have hClose : ¬ closeBrackets <:+: t.body ++ [t.trail] :=
    fun hInfix => h.inner.noClose (List.infix_cons hInfix)
  have hSplit : t.written ++ rest = t.head ++ t.lead ::
      (t.body ++ [t.trail] ++ (t.post.written ++ closeBrackets ++ rest)) := by
    simp [Tag.written, Tag.inner]
  unfold Tag.ofText?
  rw [hSplit, readHead?_written t h.lead]
  simp only [readTail?_written t.post rest h.trail hClose]

theorem Tag.ofText?_eq_none_of_readHead? {s : List Char} (h : readHead? s = none) :
    Tag.ofText? s = none := by
  unfold Tag.ofText?
  rw [h]

/-- A tag starts with its opening brackets. -/
theorem Tag.written_eq_cons (t : Tag) : ∃ s, t.written = '[' :: '[' :: s :=
  ⟨t.pre.written ++ t.sign ++ t.inner ++ t.post.written ++ closeBrackets, by
    simp [Tag.written, Tag.head, openBrackets]⟩

/-- No tag starts within a text without opening brackets, not even at an opening bracket that is
the last character of the text. -/
theorem readHead?_within {c : Char} {text : List Char} (t : Tag) (rest : List Char)
    (h : ¬ openBrackets <:+: c :: text) : readHead? (c :: text ++ (t.written ++ rest)) = none := by
  obtain ⟨s, hs⟩ := t.written_eq_cons
  by_cases hPrefix : openBrackets <+: c :: text ++ (t.written ++ rest)
  · cases text with
    | nil =>
      have hc : c = '[' := by
        obtain ⟨u, hu⟩ := hPrefix
        exact ((List.cons.inj hu).1).symm
      rw [hs, hc]
      exact readHead?_three _
    | cons d text =>
      have hInfix : openBrackets <+: c :: d :: text := by
        obtain ⟨u, hu⟩ := hPrefix
        simp only [openBrackets, List.cons_append, List.nil_append, List.cons.injEq] at hu
        exact ⟨text, by simp [openBrackets, ← hu.1, ← hu.2.1]⟩
      exact absurd hInfix.isInfix h
  · exact readHead?_eq_none_of_not_prefix hPrefix

/-- The first tag of a text is found where the text before it ends. -/
theorem cut_written {text : List Char} {t : Tag} (hText : ¬ openBrackets <:+: text)
    (ht : t.Sound) (rest : List Char) :
    cut (text ++ (t.written ++ rest)) = .tagged text t rest := by
  induction text with
  | nil =>
    have hTag := Tag.ofText?_written ht rest
    obtain ⟨s, hs⟩ := t.written_eq_cons
    rw [List.nil_append]
    rw [hs] at hTag ⊢
    simp only [List.cons_append] at hTag ⊢
    simp only [cut, hTag]
  | cons c text ih =>
    have hNone := Tag.ofText?_eq_none_of_readHead? (readHead?_within t rest hText)
    rw [List.cons_append] at hNone ⊢
    rw [cut, hNone]
    simp only [ih fun h => hText (List.infix_cons h), Cut.push]

/-- A text without opening brackets has no tag. -/
theorem cut_plain {text : List Char} (hText : ¬ openBrackets <:+: text) :
    cut text = .plain text := by
  induction text with
  | nil => rfl
  | cons c text ih =>
    have hHead : readHead? (c :: text) = none :=
      readHead?_eq_none_of_not_prefix fun h => hText h.isInfix
    rw [cut, Tag.ofText?_eq_none_of_readHead? hHead]
    simp only [ih fun h => hText (List.infix_cons h), Cut.push]

end Stencil.Template
