import Mathlib.Data.List.TakeWhile
import Stencil.Proofs.Program.Siblings

/-!
# Headers that continue a block

A header that starts with `elif`, `else`, `except` or `finally` continues the block before it. A
layout takes it for a sibling only if it is the one line of its code. A header over several lines is
laid out as any other header is, inside of the block that it should end, and with a blank line at
its end it opens no block at all.

* `IsContinuation`: lines that are such a header.
* `roleOf_continuation`: what a layout takes them for.
* `lay_continuation`: where they stand and which blocks are open after them.
-/

namespace Stencil.Program

open Text Template

/-! ## Lines that continue a block -/

/-- Lines that start with a word that continues a block, and end with a colon, blank lines at the
end apart. -/
def IsContinuation (lines : List (List Char)) : Prop :=
  startsWithWord siblingWords (trim (lines.headD [])) = true ∧
    opensBlock ((dropBlankEnd lines).getLastD []) = true

instance (lines : List (List Char)) : Decidable (IsContinuation lines) :=
  inferInstanceAs (Decidable (_ ∧ _))

/-- The last character that is not blank is the last one of the line without its blanks. -/
theorem getLast?_trimRight (line : List Char) :
    (trimRight line).getLast? = line.reverse.find? fun c => !isBlank c := by
  rw [trimRight, List.getLast?_reverse, List.find?_not_eq_head?_dropWhile]

theorem getLast?_trim (line : List Char) : (trim line).getLast? = (trimRight line).getLast? := by
  have hLeft : (line.takeWhile isBlank).reverse.find? (fun c => !isBlank c) = none := by
    rw [List.find?_eq_none]
    intro c hc
    simpa using List.all_eq_true.mp List.all_takeWhile c (List.mem_reverse.mp hc)
  have hSplit : line.reverse = (trimLeft line).reverse ++ (line.takeWhile isBlank).reverse := by
    rw [← List.reverse_append, trimLeft, List.takeWhile_append_dropWhile]
  rw [trim, getLast?_trimRight, getLast?_trimRight, hSplit, List.find?_append, hLeft,
    Option.or_none]

/-- A line by itself ends with a colon if the lines do. -/
theorem opensBlock_of_single {line : List Char}
    (h : opensBlock ((dropBlankEnd [line]).getLastD []) = true) : opensBlock line = true := by
  cases hBlank : isBlankText line with
  | true =>
    have hNone : dropBlankEnd [line] = [] := by simp [dropBlankEnd, hBlank]
    rw [hNone] at h
    exact absurd h (by decide)
  | false =>
    have hSame : dropBlankEnd [line] = [line] := by simp [dropBlankEnd, hBlank]
    rw [hSame] at h
    exact h

theorem isSibling_of_single {line : List Char} (h : IsContinuation [line]) :
    isSibling (trim line) = true := by
  have hColon := opensBlock_of_single h.2
  rw [opensBlock, endsWith, decide_eq_true_eq] at hColon
  have hWord : startsWithWord siblingWords (trim line) = true := h.1
  rw [isSibling, hWord, getLast?_trim, hColon]
  rfl

theorem trim_ne_blockEnd {lines : List (List Char)} (h : IsContinuation lines) :
    trim (lines.headD []) ≠ blockEnd := by
  intro hEnd
  have hWord := h.1
  rw [hEnd] at hWord
  exact absurd hWord (by decide)

/-- One line is a sibling. Several lines are a header as any other is, or a statement if the last of
them does not end with a colon. -/
theorem roleOf_continuation {c : Chunk} (h : IsContinuation (codeLines c)) :
    ∃ s : Statement, codeLines c = s.first :: s.others ∧ s.alone = true ∧
      roleOf c = if s.others = [] then .sibling s else if opensBlock s.last then .header s
        else .statement s := by
  have hFilled : codeLines c ≠ [] := by
    intro hNone
    rw [hNone] at h
    exact absurd h (by decide)
  obtain ⟨hKind, hLines⟩ := code_of_codeLines hFilled
  obtain ⟨first, others, hCode⟩ := List.exists_cons_of_ne_nil hFilled
  rw [hCode] at h
  refine ⟨⟨first, others, c.line + (codeOf c).before, true⟩, hCode, rfl, ?_⟩
  have hRole : roleOf c = roleOfCode first others (c.line + (codeOf c).before) := by
    unfold roleOf
    rw [hKind, ← hLines, hCode]
  have hEnd : trim first ≠ blockEnd := trim_ne_blockEnd h
  rw [hRole, roleOfCode, if_neg fun hBoth => hEnd hBoth.2]
  by_cases hOthers : others = []
  · subst hOthers
    rw [if_pos ⟨rfl, isSibling_of_single h⟩, if_pos rfl]
  · rw [if_neg fun hBoth => hOthers hBoth.1, if_neg hOthers]
    simp only [hOthers, ne_eq, not_false_eq_true, decide_true, Bool.true_or]
    rfl

/-! ## Where they stand -/

section

variable {l l' : Layout} {before after : List Chunk} {c : Chunk} {ps : List Placed} {s : Statement}
  {b : Body}

/-- A chunk of an accepted template is laid out after those before it, and what it becomes stands in
the body after what they become. -/
theorem add_of_lay (h : lay (before ++ [c] ++ after) = .ok b) :
    ∃ (first placed : List Placed) (middle l' : Layout), middle.indents = shiftAll [] before ∧
      middle.add c = .ok (placed, l') ∧
      Layout.start.addAll (before ++ [c]) = .ok (first ++ placed, l') ∧
      first ++ placed <+: b.placed := by
  obtain ⟨⟨all, last⟩, hRun, hRest⟩ := bind_eq_ok h
  obtain ⟨ending, -, hBody⟩ := bind_eq_ok hRest
  have hPlaced : all = b.placed := congrArg Body.placed (Except.ok.inj hBody)
  obtain ⟨toChunk, l', others, hToChunk, -, hAll⟩ := addAll_of_append hRun
  obtain ⟨first, middle, placed, hFirst, hAdd, hSplit⟩ := addAll_of_append hToChunk
  rw [addAll_singleton] at hAdd
  refine ⟨first, placed, middle, l', indents_addAll hFirst, hAdd, ?_, ?_⟩
  · rw [hToChunk, hSplit]
  · rw [← hPlaced, hAll, hSplit]
    exact List.prefix_append ..

/-- A sibling is accepted only inside of a block. -/
theorem indents_ne_nil_of_sibling (h : l.add c = .ok (ps, l')) (hRole : roleOf c = .sibling s) :
    l.indents ≠ [] := by
  intro hNone
  have hLines : l.lines = [] := by
    rw [Layout.lines, List.map_eq_nil_iff.mp hNone]
    rfl
  have hPart : partOf c = .sibling := by
    rw [← part_roleOf, hRole]
    rfl
  have hFollow := lines_add c l
  rw [h, hLines, follow_nil (.inr hPart)] at hFollow
  cases hFollow

/-- Where a statement is placed that opens no block. -/
theorem add_statement (h : l.add c = .ok (ps, l')) (hRole : roleOf c = .statement s)
    (hAlone : s.alone = true) : ∃ p, ps = [p] ∧ p.Shows s ∧ p.indent = innermost l.indents := by
  rw [Layout.add_eq_perform, hRole] at h
  obtain ⟨⟨placed, middle⟩, hPerform, hPair⟩ := bind_eq_ok h
  obtain ⟨rfl, -⟩ := Prod.mk.inj (Except.ok.inj hPair)
  obtain ⟨rfl, -⟩ := Prod.mk.inj (Except.ok.inj hPerform)
  exact ⟨_, rfl, shows_place hAlone _, indent_place s (l.await (leading c))⟩

theorem shiftAll_append_singleton (indents : List (List Char)) :
    shiftAll indents (before ++ [c]) = (roleOf c).shift (shiftAll indents before) := by
  rw [shiftAll, List.foldl_append]
  rfl

/-- **What becomes of a header that continues a block.** On one line, it stands outside of the
innermost block, and its own block takes the place of that one. On several lines, it stands inside,
and the innermost block stays open: its own block, if its last line opens one, is one more. -/
theorem lay_continuation (h : lay (before ++ [c] ++ after) = .ok b)
    (hc : IsContinuation (codeLines c)) :
    ∃ s p, codeLines c = s.first :: s.others ∧ b.Reaches (before ++ [c]) p ∧ p.Shows s ∧
      if s.others = [] then
        ∃ inner outer, shiftAll [] before = inner :: outer ∧ p.indent = innermost outer ∧
          shiftAll [] (before ++ [c]) = s.blockUnder p.indent :: outer
      else
        p.indent = innermost (shiftAll [] before) ∧
          shiftAll [] (before ++ [c]) =
            (if opensBlock s.last then [s.blockUnder p.indent] else []) ++ shiftAll [] before := by
  obtain ⟨first, placed, middle, l', hMiddle, hAdd, hRun, hBegins⟩ := add_of_lay h
  obtain ⟨s, hLines, hAlone, hRole⟩ := roleOf_continuation hc
  have hReaches : ∀ ps p, placed = ps ++ [p] → b.Reaches (before ++ [c]) p := by
    rintro ps p rfl
    rw [← List.append_assoc] at hRun hBegins
    exact ⟨_, _, hRun, hBegins⟩
  have hIndents := indents_add hAdd
  rw [shiftAll_append_singleton, ← hMiddle, ← hIndents]
  by_cases hOthers : s.others = []
  · rw [if_pos hOthers] at hRole
    obtain ⟨ps, p, outer, hPlaced, hShows, hIndent, hBlocks⟩ := add_opener hAdd (.inr hRole)
    obtain ⟨inner, rest, hOpen⟩ :=
      List.exists_cons_of_ne_nil (indents_ne_nil_of_sibling hAdd hRole)
    rw [hRole, hOpen, hBlocks] at hIndents
    obtain rfl : outer = rest := (List.cons.inj hIndents).2
    refine ⟨s, p, hLines, hReaches ps p hPlaced, hShows, ?_⟩
    rw [if_pos hOthers]
    exact ⟨inner, outer, hOpen, hIndent, hBlocks⟩
  · rw [if_neg hOthers] at hRole
    cases hOpens : opensBlock s.last with
    | true =>
      rw [hOpens, if_pos rfl] at hRole
      obtain ⟨ps, p, outer, hPlaced, hShows, hIndent, hBlocks⟩ := add_opener hAdd (.inl hRole)
      rw [hRole, hBlocks] at hIndents
      obtain rfl : outer = middle.indents := (List.cons.inj hIndents).2
      refine ⟨s, p, hLines, hReaches ps p hPlaced, hShows, ?_⟩
      rw [if_neg hOthers, hOpens]
      exact ⟨hIndent, hBlocks⟩
    | false =>
      rw [hOpens, if_neg Bool.false_ne_true] at hRole
      obtain ⟨p, hPlaced, hShows, hIndent⟩ := add_statement hAdd hRole hAlone
      rw [hRole] at hIndents
      refine ⟨s, p, hLines, hReaches [] p hPlaced, hShows, ?_⟩
      rw [if_neg hOthers, hOpens]
      exact ⟨hIndent, hIndents⟩

end

/-- On one line `elif` takes the place of `if`. On two lines it stands inside. -/
example :
    ["elif b:", "elif (b or\nc):"].map (fun text => (shiftAll [] [⟨.code, "if a:".toList, 1⟩,
      ⟨.code, text.toList, 1⟩]).map List.length) = [[8], [12, 8]] := by
  decide +kernel

end Stencil.Program
