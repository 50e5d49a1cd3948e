import Stencil.Program.Layout

/-!
# What chunks are in a program

A layout treats a chunk as one of five things: nothing but line feeds, a statement, a header that
opens a block, a header that takes the place of the innermost block's header, or the end of that
block. Which one it is depends on the chunk alone and not on the state of the layout.

* `roleOf`: the role of a chunk, with the statement it becomes.
* `Layout.add_eq_perform`: a layout does with a chunk what its role says.
* `newlines_eq_of_role`: the blank lines around a statement and the line breaks within it are the
  line feeds of its chunk.
* `roleOf_unbroken`: no line of a statement has a line feed.
-/

namespace Stencil.Program

open Text Template

/-! ## Roles -/

/-- A statement before it has a place: its lines and the line of the template on which it begins. -/
structure Statement where
  first : List Char
  others : List (List Char)
  origin : Int
  /-- Whether it has lines of its own, as a `pass`, a block header, a compound statement and a
  statement of several lines have. -/
  alone : Bool
  deriving DecidableEq, Repr

/-- The last line of a statement. -/
def Statement.last (s : Statement) : List Char := s.others.getLastD s.first

/-- What a chunk is in a program. -/
inductive Role where
  /-- Nothing but line feeds. -/
  | blank
  /-- A statement that opens no block. -/
  | statement (s : Statement)
  /-- The header of a block. -/
  | header (s : Statement)
  /-- A header that closes the innermost block and opens another in its place. -/
  | sibling (s : Statement)
  /-- The end of the innermost block, and the line of the template on which it stands. -/
  | ending (origin : Int)
  deriving DecidableEq, Repr

/-- The code of a chunk, less its margin and one semicolon at the end. -/
def codeOf (c : Chunk) : Aligned := Layout.dropSemicolon (realign c.text)

/-- The statement that emits a text. -/
def echoCall (text : List Char) : List Char :=
  ['_', 'e', 'c', 'h', 'o', '('] ++ escapeLiteral text ++ [')']

/-- The role of some lines of code that begin on a line of the template. -/
def roleOfCode (first : List Char) (others : List (List Char)) (origin : Int) : Role :=
  if others = [] ∧ trim first = blockEnd then .ending origin
  else if others = [] ∧ isSibling (trim first) then .sibling ⟨first, others, origin, true⟩
  else if opensBlock (others.getLastD first) then .header ⟨first, others, origin, true⟩
  else .statement ⟨first, others, origin, others ≠ [] || isCompound (trim first)⟩

/-- The role of a chunk. -/
def roleOf (c : Chunk) : Role :=
  match c.kind with
  | .filler => .blank
  | .literal => .statement ⟨echoCall c.text, [], c.line, false⟩
  | .code =>
    match (codeOf c).code with
    | [] => .blank
    | first :: others => roleOfCode first others (c.line + (codeOf c).before)

/-- The line feeds of a chunk before its statement. -/
def leading (c : Chunk) : Nat :=
  match c.kind with
  | .code => (codeOf c).before
  | _ => 0

/-- The line feeds of a chunk after its statement. -/
def trailing (c : Chunk) : Nat :=
  match c.kind with
  | .code => (codeOf c).after
  | _ => newlines c.text

/-- The line breaks within the statement of a role. -/
def Role.height : Role → Nat
  | statement s => s.others.length
  | header s => s.others.length
  | sibling s => s.others.length
  | _ => 0

/-- The line of the template on which a role begins, if it is not blank. -/
def Role.origin? : Role → Option Int
  | blank => none
  | statement s => some s.origin
  | header s => some s.origin
  | sibling s => some s.origin
  | ending origin => some origin

/-- Lines of code are the end of a block, a header of one of two kinds, or a plain statement. -/
theorem roleOfCode_cases (first : List Char) (others : List (List Char)) (origin : Int) :
    (others = [] ∧ roleOfCode first others origin = .ending origin) ∨
      roleOfCode first others origin = .sibling ⟨first, others, origin, true⟩ ∨
      roleOfCode first others origin = .header ⟨first, others, origin, true⟩ ∨
      ∃ alone, roleOfCode first others origin = .statement ⟨first, others, origin, alone⟩ := by
  unfold roleOfCode
  split
  · rename_i h
    exact .inl ⟨h.1, rfl⟩
  · split
    · exact .inr (.inl rfl)
    · split
      · exact .inr (.inr (.inl rfl))
      · exact .inr (.inr (.inr ⟨_, rfl⟩))

/-- A chunk is blank, or emits its text, or has some lines of code. -/
theorem roleOf_cases (c : Chunk) :
    roleOf c = .blank ∨
      (c.kind = .literal ∧ roleOf c = .statement ⟨echoCall c.text, [], c.line, false⟩) ∨
      (c.kind = .code ∧ ∃ first others, (codeOf c).code = first :: others ∧
        roleOf c = roleOfCode first others (c.line + (codeOf c).before)) := by
  unfold roleOf
  cases c.kind with
  | filler => exact .inl rfl
  | literal => exact .inr (.inl ⟨rfl, rfl⟩)
  | code =>
    cases (codeOf c).code with
    | nil => exact .inl rfl
    | cons first others => exact .inr (.inr ⟨rfl, first, others, rfl, rfl⟩)

/-! ## Line feeds of a chunk -/

theorem mem_dropBlankEnd {line : List Char} {lines : List (List Char)} (h : line ∈ lines)
    (hLine : isBlankText line = false) : line ∈ dropBlankEnd (lines.dropWhile isBlankText) := by
  have hKeep : ∀ {ls : List (List Char)}, line ∈ ls → line ∈ ls.dropWhile isBlankText := by
    intro ls hMem
    rw [← List.takeWhile_append_dropWhile (p := isBlankText) (l := ls)] at hMem
    rcases List.mem_append.mp hMem with hMem | hMem
    · have hBlank := List.all_eq_true.mp List.all_takeWhile line hMem
      rw [hLine] at hBlank
      cases hBlank
    · exact hMem
  unfold dropBlankEnd
  rw [List.mem_reverse]
  exact hKeep (List.mem_reverse.mpr (hKeep h))

theorem length_dropWhile_le (lines : List (List Char)) :
    (lines.dropWhile isBlankText).length ≤ lines.length :=
  (List.dropWhile_sublist isBlankText).length_le

theorem length_dropBlankEnd_le (lines : List (List Char)) :
    (dropBlankEnd lines).length ≤ lines.length := by
  have h := length_dropWhile_le lines.reverse
  rw [List.length_reverse] at h
  unfold dropBlankEnd
  rw [List.length_reverse]
  exact h

/-- The blank lines around some code and the line breaks within it are `n` line feeds. -/
def Aligned.Feeds (a : Aligned) (n : Nat) : Prop :=
  a.before + (a.code.length - 1) + a.after = n

theorem realign_feeds (body : List Char) : (realign body).Feeds (newlines body) := by
  have hLines := length_splitLines body
  unfold realign
  simp only
  split
  · simp only [Aligned.Feeds, List.length_nil]
    omega
  · rename_i margin hMargin
    have hSome : (splitLines body).filter (! isBlankText ·) ≠ [] := by
      intro hNil
      rw [margin?, hNil] at hMargin
      cases hMargin
    obtain ⟨line, hMem⟩ := List.exists_mem_of_ne_nil _ hSome
    obtain ⟨hMem, hLine⟩ := List.mem_filter.mp hMem
    have hCode := List.length_pos_of_mem (mem_dropBlankEnd hMem (by simpa using hLine))
    have hInner := length_dropWhile_le (splitLines body)
    have hEnd := length_dropBlankEnd_le ((splitLines body).dropWhile isBlankText)
    simp only [Aligned.Feeds, List.length_map]
    omega

theorem dropSemicolon_feeds {a : Aligned} {n : Nat} (h : a.Feeds n) :
    (Layout.dropSemicolon a).Feeds n := by
  unfold Layout.dropSemicolon
  split
  · exact h
  · rename_i last hLast
    have hPos : 0 < a.code.length := by
      rw [List.length_pos_iff]
      rintro hNil
      rw [hNil] at hLast
      cases hLast
    have hDrop : a.code.dropLast.length = a.code.length - 1 := List.length_dropLast
    unfold Aligned.Feeds at h ⊢
    split
    · simp only
      split
      · simp only
        split
        · rename_i hNil
          rw [hNil] at hDrop ⊢
          simp only [List.length_nil] at hDrop ⊢
          omega
        · rename_i hSome
          have := List.length_pos_iff.mpr hSome
          omega
      · simp only [List.length_append, List.length_singleton]
        omega
    · exact h

theorem Role.height_roleOfCode (first : List Char) (others : List (List Char)) (origin : Int) :
    (roleOfCode first others origin).height = others.length := by
  rcases roleOfCode_cases first others origin with ⟨rfl, h⟩ | h | h | ⟨alone, h⟩
  all_goals
    rw [h]
    rfl

/-- The blank lines around the statement of a chunk and the line breaks within it are the line feeds
of the chunk. -/
theorem newlines_eq_of_role (c : Chunk) :
    leading c + (roleOf c).height + trailing c = newlines c.text := by
  unfold leading trailing roleOf
  cases hKind : c.kind with
  | filler => exact Nat.zero_add _
  | literal => exact Nat.zero_add _
  | code =>
    have hFeeds : (codeOf c).Feeds (newlines c.text) := dropSemicolon_feeds (realign_feeds c.text)
    unfold Aligned.Feeds at hFeeds
    simp only
    split
    · rename_i hCode
      rw [hCode] at hFeeds
      exact hFeeds
    · rename_i first others hCode
      rw [hCode] at hFeeds
      rw [Role.height_roleOfCode]
      exact hFeeds

/-! ## Where a role begins -/

theorem origin?_roleOfCode (first : List Char) (others : List (List Char)) (origin : Int) :
    (roleOfCode first others origin).origin? = some origin := by
  rcases roleOfCode_cases first others origin with ⟨-, h⟩ | h | h | ⟨alone, h⟩
  all_goals
    rw [h]
    rfl

/-- A role begins after the line feeds that lead to it, and filler has none. -/
theorem origin?_roleOf {c : Chunk} {origin : Int} (h : (roleOf c).origin? = some origin) :
    c.kind ≠ .filler ∧ origin = c.line + leading c := by
  unfold leading
  rcases roleOf_cases c with hRole | ⟨hKind, hRole⟩ | ⟨hKind, first, others, -, hRole⟩
  · rw [hRole] at h
    cases h
  · rw [hRole] at h
    rw [hKind]
    cases h
    exact ⟨ChunkKind.noConfusion, (Int.add_zero c.line).symm⟩
  · rw [hRole, origin?_roleOfCode] at h
    rw [hKind]
    cases h
    exact ⟨ChunkKind.noConfusion, rfl⟩

/-- The statement of a role stands alone if it is a header. -/
def Role.HeaderAlone : Role → Prop
  | header s => s.alone = true
  | sibling s => s.alone = true
  | _ => True

/-- Headers have lines of their own. -/
theorem headerAlone_roleOf (c : Chunk) : (roleOf c).HeaderAlone := by
  rcases roleOf_cases c with hRole | ⟨-, hRole⟩ | ⟨-, first, others, -, hRole⟩
  · rw [hRole]
    trivial
  · rw [hRole]
    trivial
  · rw [hRole]
    rcases roleOfCode_cases first others (c.line + (codeOf c).before) with
      ⟨-, h⟩ | h | h | ⟨alone, h⟩
    · rw [h]
      trivial
    · rw [h]
      rfl
    · rw [h]
      rfl
    · rw [h]
      trivial

/-! ## No line has a line feed -/

/-- A line of a statement: it has no line feed. -/
def Unbroken (line : List Char) : Prop := '\n' ∉ line

instance (line : List Char) : Decidable (Unbroken line) :=
  inferInstanceAs (Decidable ('\n' ∉ line))

theorem Unbroken.of_subset {line part : List Char} (h : Unbroken line) (hPart : part ⊆ line) :
    Unbroken part :=
  fun hMem => h (hPart hMem)

theorem Unbroken.append {s t : List Char} (hs : Unbroken s) (ht : Unbroken t) : Unbroken (s ++ t) :=
  fun hMem => (List.mem_append.mp hMem).elim hs ht

theorem unbroken_cons {c : Char} {line : List Char} :
    Unbroken (c :: line) ↔ c ≠ '\n' ∧ Unbroken line := by
  rw [Unbroken, Unbroken, List.mem_cons, not_or, ne_comm]

theorem newlines_eq_zero_of_unbroken {line : List Char} (h : Unbroken line) : newlines line = 0 :=
  List.count_eq_zero.mpr h

theorem unbroken_of_mem_splitLines {s line : List Char} (h : line ∈ splitLines s) :
    Unbroken line := by
  induction s generalizing line with
  | nil =>
    rw [List.mem_singleton.mp h]
    exact List.not_mem_nil
  | cons c s ih =>
    simp only [splitLines] at h
    split at h
    · rename_i hNil
      exact absurd hNil (splitLines_ne_nil s)
    · rename_i head rest hLines
      rw [hLines] at ih
      split at h
      · rcases List.mem_cons.mp h with rfl | h
        · exact List.not_mem_nil
        · exact ih h
      · rename_i hFeed
        rcases List.mem_cons.mp h with rfl | h
        · exact unbroken_cons.mpr ⟨hFeed, ih List.mem_cons_self⟩
        · exact ih (List.mem_cons_of_mem _ h)

/-- What stands before the first line feed of a text goes on with a text in front of it. -/
theorem splitLines_append {line : List Char} (h : Unbroken line) (rest : List Char) :
    splitLines (line ++ rest) =
      (line ++ (splitLines rest).headD []) :: (splitLines rest).tail := by
  induction line with
  | nil =>
    cases hLines : splitLines rest with
    | nil => exact absurd hLines (splitLines_ne_nil rest)
    | cons first others => exact hLines
  | cons c line ih =>
    obtain ⟨hc, hLine⟩ := unbroken_cons.mp h
    rw [List.cons_append, splitLines, ih hLine]
    exact if_neg hc

theorem splitLines_of_unbroken {line : List Char} (h : Unbroken line) :
    splitLines line = [line] := by
  have hLines := splitLines_append h []
  rwa [List.append_nil, splitLines, List.headD_cons, List.append_nil] at hLines

theorem cutMargin_subset (margin : Nat) (line : List Char) : cutMargin margin line ⊆ line := by
  unfold cutMargin
  split
  · exact List.nil_subset line
  · exact (List.drop_sublist margin line).subset

/-- A line that is not blank has something left without its leading blanks. -/
theorem trimLeft_ne_nil {line : List Char} (hLine : isBlankText line = false) :
    trimLeft line ≠ [] := by
  intro hNil
  have hSplit : line.takeWhile isBlank ++ trimLeft line = line := List.takeWhile_append_dropWhile
  rw [hNil, List.append_nil] at hSplit
  have hAll : (line.takeWhile isBlank).all isBlank = true := List.all_takeWhile
  rw [hSplit, ← isBlankText, hLine] at hAll
  cases hAll

theorem trimRight_subset (line : List Char) : trimRight line ⊆ line := by
  intro c hc
  unfold trimRight at hc
  rw [List.mem_reverse] at hc
  exact List.mem_reverse.mp ((List.dropWhile_sublist isBlank).subset hc)

theorem mem_of_mem_dropBlankEnd {line : List Char} {lines : List (List Char)}
    (h : line ∈ dropBlankEnd (lines.dropWhile isBlankText)) : line ∈ lines := by
  unfold dropBlankEnd at h
  rw [List.mem_reverse] at h
  have hInner := List.mem_reverse.mp ((List.dropWhile_sublist isBlankText).subset h)
  exact (List.dropWhile_sublist isBlankText).subset hInner

theorem realign_unbroken {body line : List Char} (h : line ∈ (realign body).code) :
    Unbroken line := by
  unfold realign at h
  simp only at h
  split at h
  · cases h
  · rename_i margin hMargin
    obtain ⟨whole, hMem, rfl⟩ := List.mem_map.mp h
    exact (unbroken_of_mem_splitLines (mem_of_mem_dropBlankEnd hMem)).of_subset
      (cutMargin_subset margin whole)

theorem dropSemicolon_unbroken {a : Aligned} (ha : ∀ line ∈ a.code, Unbroken line)
    {line : List Char} (h : line ∈ (Layout.dropSemicolon a).code) : Unbroken line := by
  unfold Layout.dropSemicolon at h
  split at h
  · exact ha line h
  · rename_i last hLast
    simp only at h
    split at h
    · split at h
      · exact ha line ((List.dropLast_sublist _).subset h)
      · rcases List.mem_append.mp h with h | h
        · exact ha line ((List.dropLast_sublist _).subset h)
        · rw [List.mem_singleton.mp h]
          apply (ha last (List.mem_of_getLast? hLast)).of_subset
          intro c hc
          exact trimRight_subset last ((List.dropLast_sublist _).subset (trimRight_subset _ hc))
    · exact ha line h

theorem escapeChar_unbroken (c : Char) : Unbroken (escapeChar c) := by
  cases c using escapeChar_cases with
  | slash | quote | lineFeed | carriageReturn | null => decide
  | other c _ _ hFeed _ _ hEq => simpa [Unbroken, hEq] using hFeed.symm

theorem escapeLiteral_unbroken (text : List Char) : Unbroken (escapeLiteral text) := by
  have hBody : Unbroken (text.flatMap escapeChar) := by
    intro hMem
    obtain ⟨c, -, hc⟩ := List.mem_flatMap.mp hMem
    exact escapeChar_unbroken c hc
  have hQuote : Unbroken ['\''] := by decide
  exact (hQuote.append hBody).append hQuote

theorem echoCall_unbroken (text : List Char) : Unbroken (echoCall text) := by
  have hOpen : Unbroken ['_', 'e', 'c', 'h', 'o', '('] := by decide
  exact (hOpen.append (escapeLiteral_unbroken text)).append (by decide)

/-- No line of a statement has a line feed. -/
def Statement.Unbroken (s : Statement) : Prop := ∀ line ∈ s.first :: s.others, Program.Unbroken line

/-- The statement of a role, if it has one, has no line feed within a line. -/
def Role.Unbroken : Role → Prop
  | statement s => s.Unbroken
  | header s => s.Unbroken
  | sibling s => s.Unbroken
  | _ => True

theorem roleOfCode_unbroken {first : List Char} {others : List (List Char)}
    (hLines : ∀ line ∈ first :: others, Unbroken line) (origin : Int) :
    (roleOfCode first others origin).Unbroken := by
  rcases roleOfCode_cases first others origin with ⟨-, h⟩ | h | h | ⟨alone, h⟩
  · rw [h]
    trivial
  all_goals
    rw [h]
    exact hLines

/-- No line of a statement has a line feed. -/
theorem roleOf_unbroken (c : Chunk) : (roleOf c).Unbroken := by
  rcases roleOf_cases c with hRole | ⟨-, hRole⟩ | ⟨-, first, others, hCode, hRole⟩
  · rw [hRole]
    trivial
  · rw [hRole]
    intro line hLine
    rw [List.mem_singleton.mp hLine]
    exact echoCall_unbroken c.text
  · rw [hRole]
    apply roleOfCode_unbroken
    intro line hLine
    rw [← hCode] at hLine
    exact dropSemicolon_unbroken (fun _ => realign_unbroken) hLine

/-! ## What a layout does with a role -/

namespace Layout

/-- Places a statement. -/
def place (s : Statement) (l : Layout) : Placed × Layout :=
  l.emit s.first s.others s.origin s.alone

/-- Lays out what has a role. The line is that of the chunk. -/
def perform (line : Int) : Role → Layout → Except BlockError (List Placed × Layout)
  | .blank, l => .ok ([], l)
  | .statement s, l => .ok ([(l.place s).1], { (l.place s).2 with joinable := !s.alone })
  | .header s, l => .ok ([(l.place s).1], (l.place s).2.openBlock line s.last)
  | .sibling s, l => do
    let (closing, l) ← l.closeBlock (trim s.first) line s.origin
    return (closing ++ [(l.place s).1], (l.place s).2.openBlock line s.last)
  | .ending origin, l => l.closeBlock blockEnd line origin

theorem code_eq_perform (first : List Char) (others : List (List Char)) (line origin : Int)
    (l : Layout) :
    l.code first others line origin = l.perform line (roleOfCode first others origin) := by
  unfold code roleOfCode
  rw [List.getLastD_cons]
  simp only
  split
  · rename_i h
    simp only [perform, h.2]
  · split
    · simp only [perform, place, Statement.last]
    · cases hOpens : opensBlock (others.getLastD first) with
      | true => simp [perform, place, Statement.last, openBlock]
      | false => simp [perform, place]

/-- A layout does with a chunk what the role of the chunk says, between the line feeds before and
after its statement. -/
theorem add_eq_perform (c : Chunk) (l : Layout) :
    l.add c = do
      let (placed, l) ← (l.await (leading c)).perform c.line (roleOf c)
      return (placed, l.await (trailing c)) := by
  unfold add leading trailing roleOf
  cases c.kind with
  | filler => rfl
  | literal => rfl
  | code =>
    have hAligned : dropSemicolon (realign c.text) = codeOf c := rfl
    simp only [hAligned]
    cases (codeOf c).code with
    | nil => rfl
    | cons first others => simp only [code_eq_perform]

end Layout

end Stencil.Program
