import Stencil.Proofs.Program.Balance
import Stencil.Proofs.Program.Schedule
import Stencil.Proofs.Template.Unmarked

/-!
# Code that stays in its place

Some code can share a line with what is around it: one line that neither opens nor closes a block
and is no compound header. If all code of a template is of this kind, the body needs no line break
that the template does not have, and every statement stands on its line of the template. Markers
move no code within a template, so they do not move it within the program either.

* `SharesLine`: code that can share its line.
* `Scheduled.startsOn_eq_origin`: where all statements share lines, each stands on its own.
* `codeRows`: the lines of a program on which the code of a template stands.
* `code_keeps_its_rows`: they are the same whatever the markers are.
-/

namespace Stencil.Program

open Text Template

/-! ## Code that shares its line -/

/-- Code of one line at most, which neither closes nor opens a block and is no compound header. -/
def SharesLine (code : List (List Char)) : Prop :=
  code.length ≤ 1 ∧
    ∀ line ∈ code, trim line ≠ blockEnd ∧ opensBlock line = false ∧ isCompound (trim line) = false

instance (code : List (List Char)) : Decidable (SharesLine code) :=
  inferInstanceAs (Decidable (_ ∧ _))

theorem startsWithWord_mono {words more : List String} (h : words ⊆ more) {line : List Char}
    (hLine : startsWithWord words line = true) : startsWithWord more line = true := by
  obtain ⟨w, hw, hStarts⟩ := List.any_eq_true.mp hLine
  exact List.any_eq_true.mpr ⟨w, h hw, hStarts⟩

/-- Every header that continues a block is a compound header. -/
theorem isCompound_of_isSibling {head : List Char} (h : isSibling head = true) :
    isCompound head = true := by
  have hWord : startsWithWord siblingWords head = true := (Bool.and_eq_true_iff.mp h).1
  have hSubset : siblingWords ⊆ compoundWords := by decide
  simp only [isCompound, startsWithWord_mono hSubset hWord, Bool.or_true, Bool.true_or]

/-- The statement of a role that is neither blank nor has to do with a block. -/
def Role.statement? : Role → Option Statement
  | statement s => some s
  | _ => none

theorem eq_statement_of {r : Role} {s : Statement} (h : r.statement? = some s) :
    r = .statement s := by
  cases r with
  | statement t => exact congrArg _ (Option.some.inj h)
  | _ => cases h

/-- A role that needs no line of its own. -/
def Role.Shares (r : Role) : Prop :=
  r = .blank ∨ ∃ s, r = .statement s ∧ s.others = [] ∧ s.alone = false

theorem shares_roleOf {c : Chunk} (h : SharesLine (codeLines c)) : (roleOf c).Shares := by
  rcases roleOf_cases c with hRole | ⟨-, hRole⟩ | ⟨hKind, first, others, hCode, hRole⟩
  · exact .inl hRole
  · exact .inr ⟨_, hRole, rfl, rfl⟩
  · rw [codeLines, if_pos hKind, hCode] at h
    have hOthers : others = [] := List.length_eq_zero_iff.mp (Nat.le_zero.mp (by
      have hLength := h.1
      rw [List.length_cons] at hLength
      omega))
    obtain ⟨hEnd, hOpens, hCompound⟩ := h.2 first List.mem_cons_self
    have hSibling : isSibling (trim first) = false := by
      cases hEq : isSibling (trim first) with
      | false => rfl
      | true =>
        rw [isCompound_of_isSibling hEq] at hCompound
        cases hCompound
    refine .inr ⟨⟨first, [], c.line + (codeOf c).before, false⟩, ?_, rfl, rfl⟩
    rw [hRole, hOthers, roleOfCode, if_neg (by simp [hEnd]), if_neg (by simp [hSibling]),
      if_neg (by simp [hOpens])]
    simp [hCompound]

/-! ## The statements of chunks without blocks -/

/-- The statements of chunks without blocks. -/
def statementsOf (cs : List Chunk) : List Statement := cs.filterMap fun c => (roleOf c).statement?

theorem statementsOf_blank {c : Chunk} (hRole : roleOf c = .blank) (cs : List Chunk) :
    statementsOf (c :: cs) = statementsOf cs := by
  rw [statementsOf, List.filterMap_cons, hRole]
  rfl

theorem statementsOf_statement {c : Chunk} {s : Statement} (hRole : roleOf c = .statement s)
    (cs : List Chunk) : statementsOf (c :: cs) = s :: statementsOf cs := by
  rw [statementsOf, List.filterMap_cons, hRole]
  rfl

variable {cs : List Chunk} (hShares : ∀ c ∈ cs, (roleOf c).Shares)

include hShares

theorem balanced_of_shares : Balanced cs := by
  induction cs with
  | nil => exact balanced_nil
  | cons c cs ih =>
    have hPart : partOf c = .plain := by
      rw [← part_roleOf]
      rcases hShares c List.mem_cons_self with hRole | ⟨s, hRole, -⟩
      · rw [hRole]
        rfl
      · rw [hRole]
        rfl
    exact (balanced_singleton hPart).append (ih fun d hd => hShares d (List.mem_cons_of_mem c hd))

theorem shares_of_mem_statementsOf {s : Statement} (hs : s ∈ statementsOf cs) :
    s.others = [] ∧ s.alone = false := by
  obtain ⟨c, hc, hRole⟩ := List.mem_filterMap.mp hs
  rcases hShares c hc with hBlank | ⟨t, hStatement, hOthers, hAlone⟩
  · rw [hBlank] at hRole
    cases hRole
  · rw [hStatement] at hRole
    cases hRole
    exact ⟨hOthers, hAlone⟩

/-- Without blocks each statement is an entry at the margin. -/
theorem Flat.eq_of_shares {es : List Entry} (h : Flat [] false cs es) :
    es = (statementsOf cs).map fun s => ⟨s, baseIndent, false⟩ := by
  induction cs generalizing es with
  | nil =>
    cases h
    rfl
  | cons c cs ih =>
    have hOthers : ∀ d ∈ cs, (roleOf d).Shares := fun d hd => hShares d (List.mem_cons_of_mem c hd)
    rcases hShares c List.mem_cons_self with hRole | ⟨s, hRole, -⟩
    · rw [statementsOf_blank hRole]
      cases h with
      | blank _ rest => exact ih hOthers rest
      | statement hRole' _ =>
        rw [hRole] at hRole'
        cases hRole'
      | header hRole' _ =>
        rw [hRole] at hRole'
        cases hRole'
    · rw [statementsOf_statement hRole]
      cases h with
      | blank hRole' _ =>
        rw [hRole] at hRole'
        cases hRole'
      | statement hRole' rest =>
        rw [hRole] at hRole'
        cases hRole'
        rw [ih hOthers rest]
        rfl
      | header hRole' _ =>
        rw [hRole] at hRole'
        cases hRole'

omit hShares

/-! ## Where the statements start -/

theorem origin?_statement {c : Chunk} {s : Statement} (hRole : roleOf c = .statement s) :
    c.kind ≠ .filler ∧ s.origin = c.line + leading c :=
  origin?_roleOf (by rw [hRole]; rfl)

theorem le_origin_of_numbered {n : Nat} (hNumbered : Numbered n cs) {s : Statement}
    (hs : s ∈ statementsOf cs) : (n : Int) ≤ s.origin := by
  induction cs generalizing n with
  | nil => cases hs
  | cons c cs ih =>
    obtain ⟨hLine, hRest⟩ := hNumbered
    rw [statementsOf, List.filterMap_cons] at hs
    cases hStatement : (roleOf c).statement? with
    | none =>
      rw [hStatement] at hs
      have hLater := ih hRest hs
      omega
    | some t =>
      rw [hStatement] at hs
      rcases List.mem_cons.mp hs with rfl | hs
      · obtain ⟨hKind, hOrigin⟩ := origin?_statement (eq_statement_of hStatement)
        rw [hOrigin, hLine hKind]
        omega
      · have hLater := ih hRest hs
        omega

/-- The lines of the template on which its statements begin do not go back. -/
theorem sorted_of_numbered {n : Nat} (hNumbered : Numbered n cs) :
    (statementsOf cs).Pairwise fun s t => s.origin ≤ t.origin := by
  induction cs generalizing n with
  | nil => exact .nil
  | cons c cs ih =>
    obtain ⟨hLine, hRest⟩ := hNumbered
    rw [statementsOf, List.filterMap_cons]
    cases hStatement : (roleOf c).statement? with
    | none => exact ih hRest
    | some s =>
      refine List.pairwise_cons.mpr ⟨fun t ht => ?_, ih hRest⟩
      have hRole := eq_statement_of hStatement
      obtain ⟨hKind, hOrigin⟩ := origin?_statement hRole
      have hLater := le_origin_of_numbered hRest ht
      have hFeeds := newlines_eq_of_role c
      rw [hOrigin, hLine hKind]
      omega

theorem lineAt_append_right {u v w : List Char} (hv : newlines v = 0) :
    lineAt (u ++ v ++ w) (u ++ v).length = lineAt (u ++ v ++ w) u.length := by
  rw [lineAt_append_left, List.append_assoc, lineAt_append_left, newlines_append, hv, Nat.add_zero]

/-- If all statements share lines and begin on lines that do not go back, each starts on its own.
The induction is on their number: the line on which one ends is the line on which it starts. -/
theorem Scheduled.startsOn_eq_origin {b : Body} {ss : List Statement} {indent : List Char}
    (h : Scheduled (ss.map fun s => ⟨s, indent, false⟩) b)
    (hShares : ∀ s ∈ ss, s.others = [] ∧ s.alone = false)
    (hUnbroken : ∀ s ∈ ss, Unbroken s.first)
    (hSorted : ss.Pairwise fun s t => s.origin ≤ t.origin) {k : Nat} {s : Statement}
    (hk : ss[k]? = some s) : (b.startsOn k : Int) = s.origin := by
  induction k generalizing s with
  | zero => exact h.first ⟨s, indent, false⟩ (by rw [List.getElem?_map, hk]; rfl)
  | succ k ih =>
    obtain ⟨d, hd⟩ : ∃ d, ss[k]? = some d :=
      ⟨_, List.getElem?_eq_getElem (Nat.lt_of_succ_lt (List.getElem?_eq_some_iff.mp hk).1)⟩
    have hStarts := ih hd
    have hMap : ∀ {j : Nat} {t : Statement}, ss[j]? = some t →
        (ss.map fun s => (⟨s, indent, false⟩ : Entry))[j]? = some ⟨t, indent, false⟩ := by
      intro j t ht
      rw [List.getElem?_map, ht]
      rfl
    obtain ⟨hOthers, hAlone⟩ := hShares d (List.mem_of_getElem? hd)
    obtain ⟨-, hAlone'⟩ := hShares s (List.mem_of_getElem? hk)
    have hEnds : b.endsOn k ⟨d, indent, false⟩ = b.startsOn k := by
      obtain ⟨after, hWritten⟩ := h.text k _ (hMap hd)
      have hFeeds : newlines (Entry.text ⟨d, indent, false⟩) = 0 := by
        rw [Entry.text, hOthers, List.flatMap_nil, List.append_nil]
        exact newlines_eq_zero_of_unbroken (hUnbroken d (List.mem_of_getElem? hd))
      rw [Body.endsOn, Body.startsOn, hWritten]
      exact lineAt_append_right hFeeds
    have hBreak : needsBreak ⟨d, indent, false⟩ ⟨s, indent, false⟩ = false := by
      simp only [needsBreak, hAlone, hAlone', Bool.or_self]
    have hOrder : d.origin ≤ s.origin := by
      obtain ⟨hLess, rfl⟩ := List.getElem?_eq_some_iff.mp hd
      obtain ⟨hLength, rfl⟩ := List.getElem?_eq_some_iff.mp hk
      exact List.pairwise_iff_getElem.mp hSorted k (k + 1) hLess hLength (Nat.lt_succ_self k)
    have hNext := h.next k _ _ (hMap hd) (hMap hk)
    rw [hEnds, hBreak] at hNext
    simp only [Bool.false_eq_true, if_false] at hNext
    omega

/-! ## Rows of a program -/

/-- The line of the program around a body on which its `k`-th statement starts. -/
def Body.row (b : Body) (k : Nat) : Nat :=
  lineAt (preamble ++ b.written ++ epilogue) (preamble ++ b.before k).length

/-- A body has the statements of some chunks and no other, in their order. -/
def Body.Carries (b : Body) (cs : List Chunk) : Prop :=
  b.placed.map (fun p => p.first :: p.others) =
    (statementsOf cs).map fun s => s.first :: s.others

/-- The chunks of code that become a statement, each with the line of the program on which that
starts, if `k` statements come before and the body carries the chunks. -/
def codeRows (b : Body) : Nat → List Chunk → List (Chunk × Nat)
  | _, [] => []
  | k, c :: cs =>
    match (roleOf c).statement? with
    | none => codeRows b k cs
    | some _ => (if c.isCode then [(c, b.row k)] else []) ++ codeRows b (k + 1) cs

/-- The chunks of code that become a statement, each with the line of the program that its line of
the template lands on. -/
def codeOrigins (cs : List Chunk) : List (Chunk × Nat) :=
  (cs.filter Chunk.isCode).filterMap fun c =>
    (roleOf c).statement?.map fun s => (c, ((lineOffset : Int) + s.origin).toNat)

theorem codeRows_eq_codeOrigins {b : Body} {k : Nat}
    (h : ∀ j s, (statementsOf cs)[j]? = some s →
      b.row (k + j) = ((lineOffset : Int) + s.origin).toNat) :
    codeRows b k cs = codeOrigins cs := by
  induction cs generalizing k with
  | nil => rfl
  | cons c cs ih =>
    cases hStatement : (roleOf c).statement? with
    | none =>
      rw [statementsOf, List.filterMap_cons, hStatement] at h
      have hSkip : codeOrigins (c :: cs) = codeOrigins cs := by
        unfold codeOrigins
        cases hCode : c.isCode with
        | true =>
          rw [List.filter_cons_of_pos hCode, List.filterMap_cons, hStatement, Option.map_none]
        | false => rw [List.filter_cons_of_neg (by rw [hCode]; exact Bool.false_ne_true)]
      rw [codeRows, hStatement, hSkip]
      exact ih h
    | some s =>
      rw [statementsOf, List.filterMap_cons, hStatement] at h
      have hHere := h 0 s rfl
      have hRest := ih (k := k + 1) fun j t ht => by
        rw [Nat.add_assoc, Nat.add_comm 1]
        exact h (j + 1) t ht
      rw [codeRows, hStatement]
      simp only [hRest]
      unfold codeOrigins
      cases hCode : c.isCode with
      | true =>
        rw [List.filter_cons_of_pos hCode, List.filterMap_cons, hStatement, Option.map_some,
          ← hHere]
        rfl
      | false =>
        rw [List.filter_cons_of_neg (by rw [hCode]; exact Bool.false_ne_true)]
        rfl

theorem Arranged.lines_eq {timed : Prop} {ending line : Nat} {previous : Option Entry}
    {es : List Entry} {ps : List Placed} (h : Arranged timed ending previous line es ps) :
    ps.map (fun p => p.first :: p.others) =
      es.map fun e => e.statement.first :: e.statement.others := by
  induction h with
  | done hEnding => rfl
  | next holds time rest ih =>
    rw [List.map_cons, List.map_cons, ih, holds.first, holds.others]

theorem unbroken_of_mem {s : Statement} (hs : s ∈ statementsOf cs) : Unbroken s.first := by
  obtain ⟨c, -, hRole⟩ := List.mem_filterMap.mp hs
  have hUnbroken := roleOf_unbroken c
  rw [eq_statement_of hRole] at hUnbroken
  exact hUnbroken s.first List.mem_cons_self

/-- Whether all code shares its line depends on the code only. -/
theorem sharesLine_of_filter_eq {cs' : List Chunk}
    (h : cs.filter Chunk.isCode = cs'.filter Chunk.isCode)
    (hShares : ∀ c ∈ cs, SharesLine (codeLines c)) : ∀ c ∈ cs', SharesLine (codeLines c) := by
  intro c hc
  cases hCode : c.isCode with
  | true =>
    have hMem : c ∈ cs'.filter Chunk.isCode := List.mem_filter.mpr ⟨hc, hCode⟩
    rw [← h] at hMem
    exact hShares c (List.mem_filter.mp hMem).1
  | false =>
    have hNone : codeLines c = [] := if_neg fun hKind => by simp [Chunk.isCode, hKind] at hCode
    rw [hNone]
    decide

/-- If all code of a template shares its line, the template has a program, in which every statement
stands on its line of the template. -/
theorem program_of_sharesLine {source : List Char} {cs : List Chunk} (hcs : chunks source = .ok cs)
    (h : ∀ c ∈ cs, SharesLine (codeLines c)) :
    ∃ b, preprocess source = .ok (preamble ++ b.written ++ epilogue) ∧ b.Carries cs ∧
      codeRows b 0 cs = codeOrigins cs := by
  have hShares : ∀ c ∈ cs, (roleOf c).Shares := fun c hc => shares_roleOf (h c hc)
  have hNumbered := numbered_chunks hcs
  obtain ⟨b, hLay⟩ := (balanced_of_shares hShares).lay
  obtain ⟨es, hFlat, hArranged⟩ := lay_arranged (fun _ : True => hNumbered) hLay
  have hScheduled := hArranged.scheduled (hFlat.wellLined fun block hBlock => nomatch hBlock)
  have hLines := hArranged.lines_eq
  rw [Flat.eq_of_shares hShares hFlat] at hScheduled hLines
  refine ⟨b, preprocess_eq_ok_iff.mpr ⟨cs, b, hcs, hLay, rfl⟩, ?_,
    codeRows_eq_codeOrigins fun j s hs => ?_⟩
  · rw [Body.Carries, hLines, List.map_map]
    rfl
  · have hStarts := hScheduled.startsOn_eq_origin
      (fun t ht => shares_of_mem_statementsOf hShares ht) (fun t ht => unbroken_of_mem ht)
      (sorted_of_numbered hNumbered) hs
    obtain ⟨after, hWritten⟩ := hScheduled.text j ⟨s, baseIndent, false⟩
      (by rw [List.getElem?_map, hs]; rfl)
    rw [Nat.zero_add, Body.row, hWritten, List.append_assoc (b.before j), lineAt_program]
    rw [Body.startsOn, hWritten, List.append_assoc] at hStarts
    omega

/-- **Markers move no code.** Templates that differ in their markers only have the same code, on the
same lines, and as many line feeds. If all of their code shares its line, both have a program, and
it has this code on the same lines. -/
theorem code_keeps_its_rows {source source' : List Char} {cs cs' : List Chunk}
    (h : Remarked source source') (hcs : chunks source = .ok cs)
    (hcs' : chunks source' = .ok cs') :
    cs.filter Chunk.isCode = cs'.filter Chunk.isCode ∧ lineFeedsOf cs = lineFeedsOf cs' ∧
      ((∀ c ∈ cs, SharesLine (codeLines c)) →
        ∃ b b', preprocess source = .ok (preamble ++ b.written ++ epilogue) ∧
          preprocess source' = .ok (preamble ++ b'.written ++ epilogue) ∧
          b.Carries cs ∧ b'.Carries cs' ∧ codeRows b 0 cs = codeRows b' 0 cs') := by
  have hCode := h.filter_code_eq hcs hcs'
  refine ⟨hCode, ?_, fun hShares => ?_⟩
  · rw [lineFeedsOf_chunks hcs, lineFeedsOf_chunks hcs', h.newlines_eq]
  · obtain ⟨b, hProgram, hCarries, hRows⟩ := program_of_sharesLine hcs hShares
    obtain ⟨b', hProgram', hCarries', hRows'⟩ :=
      program_of_sharesLine hcs' (sharesLine_of_filter_eq hCode hShares)
    refine ⟨b, b', hProgram, hProgram', hCarries, hCarries', ?_⟩
    rw [hRows, hRows', codeOrigins, hCode, codeOrigins]

/-- Code between blank lines, with markers to choose. The text between its two tags is nothing but
blank lines. -/
def spacedPieces (pre post : Marker) : List Piece :=
  [⟨"a\n \n".toList, ⟨pre, false, ' ', "x = 1".toList, ' ', post⟩⟩,
    ⟨"\n\n".toList, ⟨.hyphens 0, false, '\n', ['x'], ' ', .hyphens 0⟩⟩]

/-- The template with this code. -/
def spacedTemplate (pre post : Marker) : List Char :=
  writePieces (spacedPieces pre post) ['\n', 'b']

theorem remarked_spaced :
    Remarked (spacedTemplate (.hyphens 0) (.hyphens 0)) (spacedTemplate (.hyphens 1) .plus) :=
  remarked_writePieces (by decide) (by decide) (by decide) rfl

/-- Its chunks if no blank line is stripped. -/
def spacedChunks : List Chunk :=
  [.literal "a\n \n".toList 1, .code "x = 1".toList 3, .literal "\n\n".toList 3,
    .filler ['\n'] 5, .code ['x'] 6, .literal "\nb".toList 6]

/-- Its chunks if the blank lines around the first tag are. The text between the tags is gone. -/
def strippedChunks : List Chunk :=
  [.literal ['a', '\n'] 1, .filler ['\n'] 3, .code "x = 1".toList 3, .filler "\n\n".toList 3,
    .filler ['\n'] 5, .code ['x'] 6, .literal "\nb".toList 6]

theorem code_keeps_its_rows_stripped :
    Remarked (spacedTemplate (.hyphens 0) (.hyphens 0)) (spacedTemplate (.hyphens 1) .plus) ∧
      chunks (spacedTemplate (.hyphens 0) (.hyphens 0)) = .ok spacedChunks ∧
      chunks (spacedTemplate (.hyphens 1) .plus) = .ok strippedChunks ∧
      spacedChunks.filter Chunk.isCode = strippedChunks.filter Chunk.isCode ∧
      lineFeedsOf spacedChunks = lineFeedsOf strippedChunks ∧
      (∀ c ∈ spacedChunks, SharesLine (codeLines c)) ∧
      ∃ b b', preprocess (spacedTemplate (.hyphens 0) (.hyphens 0)) =
          .ok (preamble ++ b.written ++ epilogue) ∧
        preprocess (spacedTemplate (.hyphens 1) .plus) =
          .ok (preamble ++ b'.written ++ epilogue) ∧
        b.Carries spacedChunks ∧ b'.Carries strippedChunks ∧
        codeRows b 0 spacedChunks = codeRows b' 0 strippedChunks :=
  have hSpaced := eq_ok_of_toOption (by decide +kernel)
  have hStripped := eq_ok_of_toOption (by decide +kernel)
  have hShares : ∀ c ∈ spacedChunks, SharesLine (codeLines c) := by decide
  have h := code_keeps_its_rows remarked_spaced hSpaced hStripped
  ⟨remarked_spaced, hSpaced, hStripped, h.1, h.2.1, hShares, h.2.2 hShares⟩

end Stencil.Program
